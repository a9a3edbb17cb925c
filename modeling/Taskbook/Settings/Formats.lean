import Taskbook.Settings.Ini
import Taskbook.Settings.Json
import Taskbook.Settings.Key
import Taskbook.Settings.Reader
import Taskbook.Settings.Ron
import Taskbook.Settings.Toml
import Taskbook.Settings.Yaml
import Taskbook.Text.Utf8

/-! A reader of settings files, from grammars for their formats. -/

set_option autoImplicit false

namespace Taskbook.Settings

namespace Format

def extensions : Format → List String
  | json5 => ["json5"]
  | json => ["json"]
  | yaml => ["yaml", "yml"]
  | toml => ["toml"]
  | ini => ["ini"]
  | ron => ["ron"]

def all : List Format := [json5, json, yaml, toml, ini, ron]

def ofExtension? (extension : String) : Option Format :=
  all.find? fun format => format.extensions.contains extension

/-- The keys and values that a text gives, or `none` if the text is not well-formed. -/
def entries? (format : Format) (text : String) : Option Entries :=
  match format with
  | json5 => Json.loose.parse? text.toList
  | json => Json.strict.parse? text.toList
  | yaml => Yaml.parse? text.toList
  | toml => Toml.parse? text.toList
  | ini => Ini.parse? text.toList
  | ron => Ron.parse? text.toList

/-- The path of a file, and behind it the paths with an extension of the format added. -/
def candidates (format : Format) (p : Path) : List Path :=
  p :: format.extensions.map p.addExtension

end Format

/-- The text of a file with these bytes. A mark of the byte order at its start is left out. -/
def contentText (bytes : ByteArray) : String :=
  let text := Text.lossyText bytes
  if text.toList.head? = some '\uFEFF' then String.ofList text.toList.tail else text

instance formats : Reader where
  Value := Value
  IsPlain value := value ≠ .nested
  ofText := .text
  ofBool := .boolean
  formatOf? := Format.ofExtension?
  candidates := Format.candidates
  find? isFile format p := (format.candidates p).find? isFile
  parse? format bytes :=
    (format.entries? (contentText bytes)).map fun entries key =>
      (entries.map fun e => Key.setting e.1 e.2).lookup key
  merge tables key := tables.reverse.findSome? fun table => table key
  toText? := Value.asText?
  toBool? := Value.asBool?

end Taskbook.Settings
