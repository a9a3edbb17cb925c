import Taskbook.Proofs.Token.Line

/-! The rounds of a scan. While anything is left of a line, one of the rules takes a part of it, and
never an empty one. So a scan has at most as many rounds as its line has characters, and it does not
come to a text that no rule takes. -/

set_option autoImplicit false

namespace Taskbook.Lexer

open Text

structure Stage where
  made : List Token
  left : List Char

/-- The scan of a line begins behind the first word, if there is one. -/
def Stage.start (line : String) : Stage :=
  match firstWord? (trimStart line.toList) with
  | none => ⟨[], trimStart line.toList⟩
  | some (token, rest) => ⟨[token], rest⟩

def rules : List (List Char → Option (List Token × List Char)) := [parameter?, literal?, blank?]

/-- A round, in which the first rule that does not decline takes a part of what is left. -/
inductive Round : Stage → Stage → Prop
  | taken {a : Stage} {tokens : List Token} {rest : List Char} (more : a.left ≠ [])
      (found : step? a.left = some (tokens, rest)) : Round a ⟨a.made ++ tokens, rest⟩

/-- The stages that a scan comes to, each with the number of rounds before it. -/
inductive Rounds (a : Stage) : Nat → Stage → Prop
  | none : Rounds a 0 a
  | next {n : Nat} {b c : Stage} (before : Rounds a n b) (round : Round b c) : Rounds a (n + 1) c

/-- How a scan ends, and with which tokens: nothing is left, or no rule takes what is left, and all of
it becomes a literal. -/
inductive Ends : Stage → List Token → Prop
  | empty {a : Stage} (nothing : a.left = []) : Ends a a.made
  | stuck {a : Stage} (more : a.left ≠ []) (declined : step? a.left = none) :
      Ends a (a.made ++ [⟨.literal, String.ofList a.left⟩])

variable {s : List Char} {tokens : List Token} {a b : Stage} {n : Nat}

section Steps

private theorem step?_eq_findSome? (s : List Char) :
    step? s = rules.findSome? fun rule => rule s := by
  simp only [step?, rules, List.findSome?_cons, List.findSome?_nil]
  cases parameter? s with
  | some => rfl
  | none => cases literal? s with
    | some => rfl
    | none => cases blank? s <;> rfl

private theorem exists_rule (more : s ≠ []) : ∃ rule ∈ rules, ∃ tokens part rest,
    rule s = some (tokens, rest) ∧ part ≠ [] ∧ part ++ rest = s ∧
      step? s = some (tokens, rest) := by
  obtain ⟨tokens, rest, taken⟩ := exists_taken more
  have found := step?_of_taken taken
  obtain ⟨part, nonempty, split⟩ := taken.exists_part
  have first := found
  rw [step?_eq_findSome?] at first
  obtain ⟨rule, mem, takes⟩ := List.exists_of_findSome?_eq_some first
  exact ⟨rule, mem, tokens, part, rest, takes, nonempty, split, found⟩

private theorem Round.length_lt (round : Round a b) : b.left.length < a.left.length := by
  cases round with
  | taken _ found => exact step?_length found

private theorem Round.scan_eq (round : Round a b) :
    a.made ++ scan a.left = b.made ++ scan b.left := by
  cases round with
  | taken _ found => rw [scan_of_taken (step?_eq_some_iff.mp found), List.append_assoc]

private theorem Ends.scan_eq (ends : Ends a tokens) : a.made ++ scan a.left = tokens := by
  cases ends with
  | empty nothing => rw [nothing, scan_nil, List.append_nil]
  | stuck more declined =>
    -- What `scan` does with such a text; by `left_eq_nil` it never meets one.
    unfold scan
    rw [if_neg (mt List.isEmpty_iff.mp more)]
    split
    · rfl
    · next found => exact absurd found (by simp [declined])

private theorem Ends.left_eq_nil (ends : Ends a tokens) : a.left = [] := by
  cases ends with
  | empty nothing => exact nothing
  | stuck more declined =>
    obtain ⟨_, _, _, _, _, _, _, _, found⟩ := exists_rule more
    exact absurd found (by simp [declined])

end Steps

section Runs

private theorem Rounds.add_length_le (rounds : Rounds a n b) :
    n + b.left.length ≤ a.left.length := by
  induction rounds with
  | none => rw [Nat.zero_add]
  | next _ round ih =>
    have shorter := round.length_lt
    omega

private theorem Rounds.scan_eq (rounds : Rounds a n b) :
    a.made ++ scan a.left = b.made ++ scan b.left := by
  induction rounds with
  | none => rfl
  | next _ round ih => rw [ih, round.scan_eq]

private theorem Rounds.exists_end (rounds : Rounds a n b) :
    ∃ m tokens, Rounds a m ⟨tokens, []⟩ := by
  obtain ⟨made, left⟩ := b
  have scanned := scanned_scan left
  generalize scan left = tokens at scanned
  induction scanned generalizing n made with
  | nil => exact ⟨n, made, rounds⟩
  | cons taken _ ih => exact ih _ (rounds.next (.taken taken.ne_nil (step?_of_taken taken)))

end Runs

section Line

variable (line : String)

private theorem scanLine_eq_start :
    scanLine (trimStart line.toList) = (Stage.start line).made ++ scan (Stage.start line).left := by
  unfold scanLine Stage.start
  cases firstWord? (trimStart line.toList) <;> rfl

private theorem length_left_start_le : (Stage.start line).left.length ≤ line.length := by
  have trimmed : (trimStart line.toList).length ≤ line.length := by
    rw [← String.length_toList]
    exact length_dropWhile_le isBlank line.toList
  unfold Stage.start
  split
  · exact trimmed
  · next token rest found =>
    have split := congrArg List.length (of_firstWord? found).1
    rw [List.length_append] at split
    have behind : rest.length ≤ (trimStart line.toList).length := by omega
    exact behind.trans trimmed

/-- A scan goes on to the end of its line. In each round a rule takes a part of what is left, so there
are no more rounds than characters and no text that all rules decline; and each word that a literal
takes is some of the text. -/
theorem rounds_reach_end :
    (∀ n a, Rounds (.start line) n a →
      n + a.left.length ≤ line.length ∧
      (a.left ≠ [] → ∃ rule ∈ rules, ∃ tokens part rest, rule a.left = some (tokens, rest) ∧
        part ≠ [] ∧ part ++ rest = a.left ∧ Round a ⟨a.made ++ tokens, rest⟩) ∧
      ∀ tokens, Ends a tokens → a.left = [] ∧ tokenize line = tokens ++ [Token.endOfCommand]) ∧
    (∃ n a tokens, n ≤ line.length ∧ Rounds (.start line) n a ∧ Ends a tokens) ∧
    ∀ s word rest, plainWord? s = some (word, rest) → word ≠ [] ∧ word ++ rest = s := by
  have short := length_left_start_le line
  refine ⟨fun n a rounds => ⟨?_, ?_, ?_⟩, ?_, ?_⟩
  · exact rounds.add_length_le.trans short
  · intro more
    obtain ⟨rule, mem, tokens, part, rest, takes, nonempty, split, found⟩ := exists_rule more
    exact ⟨rule, mem, tokens, part, rest, takes, nonempty, split, .taken more found⟩
  · intro tokens ends
    refine ⟨ends.left_eq_nil, ?_⟩
    rw [tokenize, scanLine_eq_start, rounds.scan_eq, ends.scan_eq]
  · have first : Rounds (.start line) 0 (.start line) := .none
    obtain ⟨n, tokens, rounds⟩ := first.exists_end
    have few := rounds.add_length_le.trans short
    exact ⟨n, ⟨tokens, []⟩, tokens, (Nat.le_add_right n 0).trans few, rounds, .empty rfl⟩
  · intro s word rest found
    obtain ⟨front, inner, rfl, split, _, _, nonempty, _⟩ := of_plainWord? found
    exact ⟨List.append_ne_nil_of_right_ne_nil front nonempty, split.symm⟩

end Line

end Taskbook.Lexer
