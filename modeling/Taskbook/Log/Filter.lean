import Taskbook.Log.Rule

/-! Choosing entries of the log by a list of rules. -/

set_option autoImplicit false

namespace Taskbook.Log

structure Selection where
  rules : List Rule
  /-- The pieces of the list that are no rules, with what is wrong about each. -/
  ignored : List (String × RuleError)
  deriving DecidableEq, Repr

namespace Selection

/-- The rules in a list separated by commas. Without any rule, entries pass from level info on. -/
def ofText (text : String) : Selection :=
  let readings := ((Text.pieces ',' text.toList).filter fun piece => !piece.isEmpty).map
    fun piece => (String.ofList piece, Rule.ofText piece)
  let rules := readings.filterMap fun r => r.2.toOption
  ⟨if rules.isEmpty then [⟨"", none, none, some .info⟩] else rules,
    readings.filterMap fun
      | (piece, .error e) => some (piece, e)
      | (_, .ok _) => none⟩

/-- Whether a rule could not be cut into pieces, which ends the reading. -/
def isBroken (s : Selection) : Bool := s.ignored.any fun i => i.2 = .split

def complaints (s : Selection) : String :=
  String.join ((s.ignored.takeWhile fun i => i.2 ≠ .split).map fun (piece, e) =>
    "ignoring \x60" ++ piece ++ "\x60: " ++ e.message ++ "\n")

/-- The rule that decides about a part: the one that describes it most closely, and the last of
equals. -/
def decisive? (s : Selection) (target : String) : Option Rule :=
  s.rules.foldl (fun best rule =>
    if rule.covers target then
      match best with
      | some b => if b.weight ≤ rule.weight then some rule else best
      | none => some rule
    else best) none

def passes (s : Selection) (e : Entry) : Bool :=
  match (s.decisive? e.target).bind Rule.level with
  | some level => e.level.rank ≤ level.rank
  | none => false

end Selection

end Taskbook.Log
