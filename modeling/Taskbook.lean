import Taskbook.Program
import Taskbook.Main
import Taskbook.Proofs.Session.Attended
import Taskbook.Proofs.Session.Restart
import Taskbook.Proofs.Store.Cycle
import Taskbook.Proofs.Session.Unsaved
import Taskbook.Proofs.Command.Chronicle
import Taskbook.Proofs.Session.Autosave
import Taskbook.Proofs.Token.Layout
import Taskbook.Proofs.Command.Numbering
import Taskbook.Proofs.Session.Independence
import Taskbook.Proofs.Token.Chain
import Taskbook.Proofs.Token.Marker
import Taskbook.Proofs.Command.Viable
import Taskbook.Proofs.Store.Neighbours
import Taskbook.Proofs.TaskList
import Taskbook.Proofs.Date.Reading
import Taskbook.Proofs.Command.Diagnosis
import Taskbook.Proofs.Store.Load
import Taskbook.Proofs.Command.Perform
import Taskbook.Proofs.Command.NumberedLine
import Taskbook.Proofs.TaskList.Removal
import Taskbook.Proofs.Command.Noise
import Taskbook.Proofs.Settings.Layers
import Taskbook.Proofs.Settings.Generated
import Taskbook.Proofs.Token.Rounds
