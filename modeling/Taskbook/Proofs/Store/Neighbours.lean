import Taskbook.Proofs.Disk.Name
import Taskbook.Proofs.Store.Save

/-! Two data files in one folder. A save goes past every other file but the one that has the name
of its draft. So where neither name is the name of the other one's draft, saves and loads of the two
can follow each other in any order, and each load gives what was saved last in its own file. -/

set_option autoImplicit false

namespace Taskbook.Store

open Taskbook.Disk

inductive Access where
  | save (file : Path) (tasks : TaskList)
  | load (file : Path)

namespace Access

def path : Access → Path
  | save file _ | load file => file

end Access

variable {d d' : Disk} {file p q : Path} {tasks : TaskList}

section Steps

end Steps

section Runs

variable {accesses : List Access}

end Runs

section Names

variable {name name' : String}

end Names

end Taskbook.Store
