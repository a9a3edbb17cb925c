import Taskbook.Disk

/-! What the settings leave to a library: where a file is found, what its content says, what several
files say together, and what values convert to. `Reader` names these functions and leaves them open;
`LawfulReader` states what is relied on. -/

set_option autoImplicit false

namespace Taskbook.Settings

inductive Format where
  | json5
  | json
  | yaml
  | toml
  | ini
  | ron
  deriving DecidableEq, Repr

class Reader where
  Value : Type
  /-- The values that are neither lists nor tables. -/
  IsPlain : Value → Prop
  /-- The value of a text in quotes. -/
  ofText : String → Value
  ofBool : Bool → Value
  /-- The format that the extension of a file's name stands for. -/
  formatOf? : String → Option Format
  /-- The paths at which a file is looked for that is asked for by a path. -/
  candidates : Format → Path → List Path
  /-- The path at which the file is found, given which paths lead to files. -/
  find? : (Path → Bool) → Format → Path → Option Path
  /-- What a file with this content says under each key; `none` if it does not keep to its format. -/
  parse? : Format → ByteArray → Option (String → Option Value)
  /-- What files say together that were added one after the other. -/
  merge : List (String → Option Value) → String → Option Value
  toText? : Value → Option String
  toBool? : Value → Option Bool

variable [Reader]

abbrev Table := String → Option Reader.Value

/-- A table of plain values under keys that do not lead into other values. -/
def Table.IsFlat (table : Table) : Prop :=
  ∀ key value, table key = some value →
    Reader.IsPlain value ∧ '.' ∉ key.toList ∧ '[' ∉ key.toList

/-- How a library reads settings. Texts and truth values convert to themselves. A file is read under
the path that it is asked for by and, only if there is none, under one with an extension of the format
added. Files that are added later replace what others said, key by key. -/
class LawfulReader : Prop where
  isPlain_ofText (s : String) : Reader.IsPlain (Reader.ofText s)
  isPlain_ofBool (b : Bool) : Reader.IsPlain (Reader.ofBool b)
  toText?_ofText (s : String) : Reader.toText? (Reader.ofText s) = some s
  toBool?_ofBool (b : Bool) : Reader.toBool? (Reader.ofBool b) = some b
  find?_of_isFile {isFile : Path → Bool} {p : Path} (format : Format) (here : isFile p = true) :
    Reader.find? isFile format p = some p
  of_find? {isFile : Path → Bool} {format : Format} {p q : Path}
    (found : Reader.find? isFile format p = some q) :
    isFile q = true ∧ q ∈ Reader.candidates format p
  of_mem_candidates {format : Format} {p q : Path} (mem : q ∈ Reader.candidates format p) :
    q = p ∨ ∃ extension, Reader.formatOf? extension = some format ∧ q = p.addExtension extension
  merge_nil (key : String) : Reader.merge [] key = none
  merge_append (tables : List Table) {table : Table} (flat : table.IsFlat) (key : String) :
    Reader.merge (tables ++ [table]) key = (table key).or (Reader.merge tables key)

end Taskbook.Settings
