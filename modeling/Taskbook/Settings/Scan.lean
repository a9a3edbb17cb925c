/-! Reading a sequence step by step, to its end. -/

set_option autoImplicit false

namespace Taskbook.Settings

/-- Takes one step after the other until nothing is left. The reading fails with its first step that
fails or takes nothing. -/
def readAll {α β : Type} (step : List α → Option (β × List α)) (s : List α) : Option (List β) :=
  if s.isEmpty then some []
  else
    match step s with
    | none => none
    | some (x, rest) =>
      if rest.length < s.length then (readAll step rest).map fun xs => x :: xs else none
termination_by s.length

end Taskbook.Settings
