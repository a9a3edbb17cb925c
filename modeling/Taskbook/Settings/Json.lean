import Taskbook.Settings.Item
import Taskbook.Settings.Quote
import Taskbook.Text.Class

/-! Settings in JSON, and in its relaxed relative JSON5. -/

set_option autoImplicit false

namespace Taskbook.Settings.Json

structure Dialect where
  grammar : Grammar
  /-- The quotes, with the rules for what stands between two of them. -/
  quotes : List (Char × Quoting)
  /-- The characters that open and close a list or a table. -/
  brackets : List (Char × Item)
  isBlank : Char → Bool
  /-- Whether there are comments, between slashes with stars or from two slashes to the end of the
  line, and escapes in keys without quotes. -/
  isRelaxed : Bool

/-- The characters of words: keys without quotes, numbers and names of values. -/
def isWordChar (c : Char) : Bool :=
  Text.isNameChar c || c == '$' || c == '+' || c == '-' || c == '.'

def isNameStart (c : Char) : Bool := Text.isLetter c || c == '_' || c == '$'

def lineBreaks : List Char := ['\n', '\r', '\u2028', '\u2029']

/-- A word with escapes for some of its characters, which can only be a key. -/
def escapedWord? : List Char → Option (List Char × List Char)
  | '\\' :: 'u' :: a :: b :: c :: d :: rest =>
    match (hex? [a, b, c, d]).bind charOfNat?, escapedWord? rest with
    | some c, some (word, rest) => some (c :: word, rest)
    | _, _ => none
  | '\\' :: _ => none
  | c :: rest =>
    if Text.isNameChar c || c == '$' then
      (escapedWord? rest).map fun (word, rest) => (c :: word, rest)
    else some ([], c :: rest)
  | [] => some ([], [])

def afterComment? : List Char → Option (List Char)
  | '*' :: '/' :: rest => some rest
  | _ :: rest => afterComment? rest
  | [] => none

namespace Dialect

def item? (d : Dialect) : List Char → Option (Option Item × List Char)
  | [] => none
  | c :: rest =>
    if d.isBlank c then some (none, rest)
    else if c = ',' then some (some .comma, rest)
    else if c = ':' then some (some .separator, rest)
    else
      match d.brackets.lookup c, d.quotes.lookup c with
      | some bracket, _ => some (some bracket, rest)
      | none, some quoting =>
        (quoting.read? rest).map fun (text, rest) => (some (.quote text), rest)
      | none, none =>
        let word := (c :: rest).takeWhile isWordChar
        let behind := (c :: rest).dropWhile isWordChar
        if d.isRelaxed && behind.head? == some '\\' && (c == '\\' || isNameStart c) then
          (escapedWord? (c :: rest)).map fun (word, rest) =>
            (some (.name (String.ofList word)), rest)
        else if isWordChar c then some (some (.word (String.ofList word)), behind)
        else if c = '/' ∧ d.isRelaxed = true then
          match rest with
          | '/' :: rest => some (none, rest.dropWhile fun c => !lineBreaks.contains c)
          | '*' :: rest => (afterComment? rest).map fun rest => (none, rest)
          | _ => none
        else none

def parse? (d : Dialect) (s : List Char) : Option Entries :=
  (readAll d.item? s).bind fun items => d.grammar.table? (items.filterMap id)

end Dialect

def finite? : Value → Option Value
  | .notFinite _ => none
  | v => some v

def named? : String → Option Value
  | "true" => some (.boolean true)
  | "false" => some (.boolean false)
  | "null" => some .null
  | _ => none

def letters : List (Char × Char) := [
  ('"', '"'), ('\\', '\\'), ('/', '/'), ('b', '\x08'), ('f', '\x0C'), ('n', '\n'), ('r', '\r'),
  ('t', '\t')]

def brackets : List (Char × Item) := [
  ('[', .opening .list), (']', .closing .list),
  ('\x7b', .opening .table), ('\x7d', .closing .table)]

/-- A number with more digits, as long as it has no more than 64 bits, and the digits left over. -/
def absorb (n : Nat) : List Char → Nat × List Char
  | [] => (n, [])
  | c :: rest =>
    let next := 10 * n + (c.toNat - '0'.toNat)
    if next < Nat.pow 2 64 then absorb next rest else (n, c :: rest)

/-- A number times a power of ten, which has at most 308 zeros at a time. -/
def scaled (b : Binary) (exponent : Int) : Binary :=
  let power := fun (n : Nat) => Binary.nearest (Nat.pow 10 n) 1
  if 308 < exponent then ⟨if b.units = 0 then 0 else Nat.pow 2 1024 * Binary.one⟩
  else if 0 ≤ exponent then b.times (power exponent.toNat)
  else if -308 ≤ exponent then b.dividedBy (power (-exponent).toNat)
  else if -616 ≤ exponent then (b.dividedBy (power 308)).dividedBy (power (-exponent - 308).toNat)
  else ⟨0⟩

/-- A number by the digits that fit into 64 bits. They are rounded, and so is what the power of ten
makes of them. -/
def roundedTwice (n : Numeral) : Value :=
  let fraction := n.fraction.getD []
  let (whole, dropped) := absorb 0 n.whole
  let (mantissa, ignored) := absorb whole fraction
  let exponent := n.exponentValue + dropped.length + ignored.length - fraction.length
  (scaled (.nearest mantissa 1) exponent).value n.isNegative

def strictWord? (text : String) : Option Value :=
  match named? text, Numeral.ofText? text.toList with
  | some value, _ => some value
  | none, some n =>
    if !n.isStrict || n.sign == some '+' then none
    -- Zero keeps its sign here.
    else if n.isNegative && n.mantissa == 0 then some (roundedTwice n)
    else (n.integer?.map Value.integer) <|> finite? (roundedTwice n)
  | none, none => none

def strict : Dialect where
  grammar := ⟨strictWord?, fun _ => false, fun _ => false, some 126⟩
  quotes := [('"', ⟨['"'], true, letters, [('u', 4)], true, fun _ => false, fun c => ' ' ≤ c,
    fun _ => none⟩)]
  brackets := brackets
  isBlank := fun c => c == ' ' || c == '\n' || c == '\r' || c == '\t'
  isRelaxed := false

def hexadecimal? (text : List Char) : Option Value :=
  let (sign, digits) := Numeral.takeSign text
  match digits with
  | '0' :: 'x' :: digits | '0' :: 'X' :: digits =>
    if digits.isEmpty then none
    else (hex? digits).map fun n => .integer (if sign = some '-' then -(n : Int) else n)
  | _ => none

def looseNames : List (String × String) :=
  [("Infinity", "inf"), ("-Infinity", "-inf"), ("NaN", "NaN"), ("-NaN", "NaN")]

def looseNumber? (text : String) : Option Value :=
  match looseNames.lookup text with
  | some name => some (.notFinite name)
  | none =>
    match hexadecimal? text.toList, Numeral.ofText? text.toList with
    | some value, _ => some value
    | none, some n =>
      if n.isPadded then none else (n.integer?.map Value.integer) <|> finite? n.decimalValue
    | none, none => none

def looseWord? (text : String) : Option Value := named? text <|> looseNumber? text

def lineEnd? : List Char → Option Nat
  | '\r' :: '\n' :: _ => some 2
  | c :: _ => if lineBreaks.contains c then some 1 else none
  | [] => none

def looseQuoting (quote : Char) : Quoting :=
  ⟨[quote], true, ('v', '\x0B') :: ('0', '\x00') :: letters, [('u', 4), ('x', 2)], true,
    fun c => !c.isDigit, fun c => c != '\n' && c != '\r', lineEnd?⟩

/-- A key without quotes does not begin with a digit. -/
def isLooseKey (text : String) : Bool :=
  match text.toList with
  | [] => false
  | c :: rest => isNameStart c && rest.all fun c => Text.isNameChar c || c == '$'

def loose : Dialect where
  grammar := ⟨looseWord?, isLooseKey, fun _ => true, none⟩
  quotes := ['"', '\''].map fun quote => (quote, looseQuoting quote)
  brackets := brackets
  isBlank := fun c => Text.isBlank c || c == '\uFEFF'
  isRelaxed := true

end Taskbook.Settings.Json
