import Taskbook.Date.Calendar
import Taskbook.Settings.Item
import Taskbook.Settings.Quote
import Taskbook.Text.Split

/-! Settings in TOML: lines of keys and values, under headers in brackets. -/

set_option autoImplicit false

namespace Taskbook.Settings.Toml

def isBareKeyChar (c : Char) : Bool := c.isAlphanum || c == '_' || c == '-'

/-- The characters of bare keys, dotted keys, numbers, dates and names of values. -/
def isWordChar (c : Char) : Bool := isBareKeyChar c || c == '+' || c == '.' || c == ':'

def isPlain (c : Char) : Bool := (' ' ≤ c && c != '\x7F') || c == '\t'

/-- The end of a line with all blanks and line breaks around it. -/
def lineEnd? (s : List Char) : Option Nat :=
  let blank := s.takeWhile fun c => c == ' ' || c == '\t' || c == '\n' || c == '\r'
  let line := blank.dropWhile fun c => c == ' ' || c == '\t'
  if ['\n'].isPrefixOf line || ['\r', '\n'].isPrefixOf line then some blank.length else none

/-- The quotes by what opens them, the longer ones first. Between three quotes a text can go on over
several lines. -/
def quotes : List (List Char × Quoting) :=
  let letters := [('b', '\x08'), ('t', '\t'), ('n', '\n'), ('f', '\x0C'), ('r', '\r'), ('"', '"'),
    ('\\', '\\')]
  let numbers := [('u', 4), ('U', 8)]
  let isPlainOrBreak := fun c => isPlain c || c == '\n' || c == '\r'
  [(['"', '"', '"'],
      ⟨['"', '"', '"'], true, letters, numbers, false, fun _ => false, isPlainOrBreak, lineEnd?⟩),
    (['\'', '\'', '\''], .literal ['\'', '\'', '\''] isPlainOrBreak),
    (['"'], ⟨['"'], true, letters, numbers, false, fun _ => false, isPlain, fun _ => none⟩),
    (['\''], .literal ['\''] isPlain)]

/-- A line break right after three quotes is not part of the text. -/
def dropFirstBreak (opening s : List Char) : List Char :=
  if opening.length = 1 then s
  else
    match s with
    | '\n' :: rest | '\r' :: '\n' :: rest => rest
    | _ => s

def quote? (s : List Char) : Option (String × List Char) :=
  match quotes.find? fun q => q.1.isPrefixOf s with
  | none => none
  | some (opening, quoting) => quoting.read? (dropFirstBreak opening (s.drop opening.length))

def digits? (count : Nat) (s : List Char) : Option (Nat × List Char) :=
  let digits := s.take count
  if digits.length = count ∧ digits.all Char.isDigit then some (Date.decimal digits, s.drop count)
  else none

def day? (s : List Char) : Option (List Char × List Char) :=
  match digits? 4 s with
  | some (year, '-' :: rest) =>
    match digits? 2 rest with
    | some (month, '-' :: rest) =>
      (digits? 2 rest).bind fun (day, rest) =>
        (Date.ofNumbers? year month day).map fun _ => (s.take 10, rest)
    | _ => none
  | _ => none

def hour? (s : List Char) : Option (List Char × List Char) :=
  match digits? 2 s with
  | some (hours, ':' :: rest) =>
    (digits? 2 rest).bind fun (minutes, rest) =>
      if hours < 24 ∧ minutes < 60 then some (s.take 5, rest) else none
  | _ => none

/-- The text of a time of day that the characters begin with, and what follows it. A fraction of a
second has no more than nine digits, and no zeros at its end. -/
def time? (s : List Char) : Option (List Char × List Char) :=
  match hour? s with
  | some (_, ':' :: rest) =>
    match digits? 2 rest with
    | none => none
    | some (seconds, rest) =>
      if 60 < seconds then none
      else
        match rest with
        | '.' :: rest =>
          let fraction := rest.takeWhile Char.isDigit
          let kept := (Value.stripZeros (fraction.take 9)).1
          if fraction.isEmpty then none
          else some (s.take 8 ++ if kept.isEmpty then [] else '.' :: kept, rest.dropWhile Char.isDigit)
        | rest => some (s.take 8, rest)
  | _ => none

def zone? : List Char → Option (List Char)
  | [] => some []
  | ['Z'] | ['z'] => some ['Z']
  | sign :: rest =>
    if sign = '+' ∨ sign = '-' then
      match hour? rest with
      | some (hour, []) =>
        some ((if hour = ['0', '0', ':', '0', '0'] then '+' else sign) :: hour)
      | _ => none
    else none

def moment? (s : List Char) : Option (List Char) :=
  match day? s with
  | some (day, []) => some day
  | some (day, c :: rest) =>
    if c = 'T' ∨ c = 't' ∨ c = ' ' then
      (time? rest).bind fun (time, rest) => (zone? rest).map fun zone => day ++ 'T' :: time ++ zone
    else none
  | none =>
    match time? s with
    | some (time, []) => some time
    | _ => none

/-- A word, and what follows it. Behind a date a blank can lead on to a time of day. -/
def takeWord (s : List Char) : List Char × List Char :=
  let word := s.takeWhile isWordChar
  match day? word, s.dropWhile isWordChar with
  | some (_, []), ' ' :: c :: rest =>
    if c.isDigit then
      (word ++ ' ' :: (c :: rest).takeWhile isWordChar, (c :: rest).dropWhile isWordChar)
    else (word, ' ' :: c :: rest)
  | _, rest => (word, rest)

def item? : List Char → Option (Option Item × List Char)
  | [] => none
  | c :: rest =>
    if c = ' ' ∨ c = '\t' then some (none, rest)
    else if c = '#' then some (none, rest.dropWhile isPlain)
    else if c = '\n' then some (some .lineBreak, rest)
    else if c = '\r' ∧ rest.head? = some '\n' then some (none, rest)
    else if c = '[' then some (some (.opening .list), rest)
    else if c = ']' then some (some (.closing .list), rest)
    else if c = '\x7b' then some (some (.opening .table), rest)
    else if c = '\x7d' then some (some (.closing .table), rest)
    else if c = ',' then some (some .comma, rest)
    else if c = '=' then some (some .separator, rest)
    else if c = '"' ∨ c = '\'' then
      (quote? (c :: rest)).map fun (text, rest) => (some (.quote text), rest)
    else if isWordChar c then
      let (word, rest) := takeWord (c :: rest)
      some (some (.word (String.ofList word)), rest)
    else none

/-- The digits that single underscores divide into groups. -/
def joined? (s : List Char) : Option (List Char) :=
  let groups := Text.pieces '_' s
  if groups.all fun group => !group.isEmpty then some groups.flatten else none

def based? : List Char → Option Int
  | '0' :: 'b' :: s => ((joined? s).bind (radix? 2)).map Int.ofNat
  | '0' :: 'o' :: s => ((joined? s).bind (radix? 8)).map Int.ofNat
  | '0' :: 'x' :: s => ((joined? s).bind (radix? 16)).map Int.ofNat
  | _ => none

/-- A number without its underscores, if each of them stands between two digits. -/
def bare? : List Char → Option (List Char)
  | [] => some []
  | [c] => if c = '_' then none else some [c]
  | '_' :: _ => none
  | c :: '_' :: d :: rest =>
    if c.isDigit ∧ d.isDigit then (bare? (d :: rest)).map fun s => c :: s else none
  | c :: rest => (bare? rest).map fun s => c :: s

def number? (s : List Char) : Option Value :=
  match based? s with
  | some n => if isShort n then some (.integer n) else none
  | none =>
    match ((bare? s).bind Numeral.ofText?).filter Numeral.isStrict with
    | none => none
    | some n =>
      if n.isInteger then n.integer?.map Value.integer
      else
        match n.decimalValue with
        | .notFinite _ => none
        | v => some v

def word? (text : String) : Option Value :=
  match text with
  | "true" => some (.boolean true)
  | "false" => some (.boolean false)
  | "inf" | "+inf" => some (.notFinite "inf")
  | "-inf" => some (.notFinite "-inf")
  | "nan" | "+nan" | "-nan" => some (.notFinite "NaN")
  | _ =>
    match moment? text.toList with
    | some moment => some (.text (String.ofList moment))
    | none => number? text.toList

/-- The names and the dots of a part of a key; a dot is `none`. A quote is one name. -/
def keyParts? : Item → Option (List (Option String))
  | .quote text => some [some text]
  | .word text =>
    let pieces := Text.pieces '.' text.toList
    if pieces.all fun piece => piece.all isBareKeyChar then
      let parts := (pieces.map fun piece => some (String.ofList piece)).intersperse none
      some (parts.filter fun part => part != some "")
    else none
  | _ => none

/-- The names of a key, with a dot between every two of them. -/
def names? : List (Option String) → Option (List String)
  | [some name] => some [name]
  | some name :: none :: rest => (names? rest).map fun names => name :: names
  | _ => none

def key? (items : List Item) : Option (List String) :=
  (items.mapM keyParts?).bind fun parts => names? parts.flatten

def grammar : Grammar :=
  ⟨word?, fun text => (key? [.word text]).isSome, fun bracket => bracket == .list, some 80⟩

/-- Makes one item of each key that is written in several. -/
def joinKeys (items : List Item) : List Item :=
  let isPart := fun item => (keyParts? item).isSome
  (items.splitBy fun a b => isPart a && isPart b).flatMap fun run =>
    match run, key? run with
    | _ :: _ :: _, some names => [.name (String.intercalate "." names)]
    | _, _ => run

inductive Line where
  | header (key : List String)
  /-- The header of one table among several with the same key. -/
  | element (key : List String)
  | entry (key : List String) (value : Value)

def line? (items : List Item) : Option Line :=
  let start := items.takeWhile fun item => item != .separator && item != .closing .list
  match start, items.drop start.length with
  | .opening .list :: .opening .list :: key, [.closing .list, .closing .list] =>
    (key? key).map .element
  | .opening .list :: key, [.closing .list] => (key? key).map .header
  | key, .separator :: rest =>
    match key? key, grammar.value? (joinKeys rest) with
    | some key, some (value, []) => some (.entry key value)
    | _, _ => none
  | _, _ => none

/-- The items of each line. Inside the brackets of a list a line can go on. -/
def itemLines : List Bracket → List Item → List (List Item)
  | _, [] => [[]]
  | .list :: outer, .lineBreak :: rest => itemLines (.list :: outer) rest
  | outer, .lineBreak :: rest => [] :: itemLines outer rest
  | outer, .opening b :: rest => Text.extendFirst (.opening b) (itemLines (b :: outer) rest)
  | outer, .closing b :: rest => Text.extendFirst (.closing b) (itemLines outer.tail rest)
  | outer, item :: rest => Text.extendFirst item (itemLines outer rest)

/-- What has been read: the header that the next entries stand under, all headers, the tables that
no header opens again, and all entries with their whole keys, the latest first. -/
structure Progress where
  header : List String
  headers : List (List String)
  closed : List (List String)
  entries : List (List String × Value)

namespace Progress

/-- Whether a key is that of an entry, or leads through one. -/
def isTaken (p : Progress) (key : List String) : Bool := p.entries.any fun e => e.1.isPrefixOf key

def isTable (p : Progress) (key : List String) : Bool :=
  (p.headers ++ p.entries.map (·.1)).any key.isPrefixOf

/-- The tables that a key leads through from the header on. -/
def between (p : Progress) (key : List String) : List (List String) :=
  (List.range (key.length - 1)).map fun i => p.header ++ key.take (i + 1)

/-- Reads one more line. A key is given once. -/
def read? (p : Progress) : Line → Option Progress
  | .header key =>
    if p.isTaken key || p.headers.contains key || p.closed.contains key then none
    else some { p with header := key, headers := key :: p.headers }
  | .element key =>
    if p.isTaken key || p.headers.contains key then none
    else
      -- Tables with one key are told apart by a name that no bare key has.
      let table := key ++ ["#" ++ toString p.headers.length]
      some { p with header := table, headers := table :: p.headers, closed := key :: p.closed }
  | .entry key value =>
    let whole := p.header ++ key
    let tables := p.between key
    if p.isTaken whole || p.isTable whole || tables.any p.headers.contains then none
    else some { p with closed := tables ++ p.closed, entries := (whole, value) :: p.entries }

/-- The setting that a key stands for; a longer key makes its first name a nested value. -/
def setting? : List String × Value → Option (String × Value)
  | ([], _) => none
  | ([key], value) => some (key, value)
  | (key :: _, _) => some (key, .nested)

def table (p : Progress) : Entries :=
  (p.entries ++ p.headers.map fun key => (key, Value.nested)).filterMap setting?

end Progress

/-- Whether every carriage return stands before a line feed. -/
def hasWholeBreaks (s : List Char) : Bool :=
  (s.zip (s.tail ++ [' '])).all fun (c, next) => c != '\r' || next == '\n'

def parse? (s : List Char) : Option Entries :=
  if !hasWholeBreaks s then none
  else (readAll item? s).bind fun items =>
    (((itemLines [] (items.filterMap id)).filter fun line => !line.isEmpty).mapM line?).bind
      fun lines => (lines.foldlM Progress.read? ⟨[], [], [], []⟩).map Progress.table

end Taskbook.Settings.Toml
