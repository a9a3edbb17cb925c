import Taskbook.Proofs.Command.Grammar

/-! The reader's place among the tokens, over any number of calls.

The reader works on the tokens that are ahead of it. A reader that holds the whole sequence and
looks into it by an index comes to the same answers at the same places, and never looks outside. So
the index only grows, up to the first token that ends a command, and there it stays. -/

set_option autoImplicit false

namespace Taskbook

/-- The tokens, with one behind them that ends the command where the last one does not. -/
def closed (tokens : List Token) : List Token :=
  if tokens.getLast?.all fun t => t.kind != .endOfCommand then tokens ++ [Token.endOfCommand]
  else tokens

def firstEnd (tokens : List Token) : Nat :=
  (closed tokens).findIdx fun t => t.kind == .endOfCommand

/-- A reader that holds the whole sequence. Each of its operations gives `none` if it looks at an
index where no token stands. -/
structure Indexed where
  tokens : List Token
  index : Nat

namespace Indexed

def peek? (r : Indexed) : Option Token := r.tokens[r.index]?

/-- The token that was read last; at the very start the first one. -/
def previous? (r : Indexed) : Option Token := r.tokens[r.index - 1]?

def advance? (r : Indexed) : Option (Token × Indexed) :=
  r.peek?.bind fun next =>
    let r' := if next.kind = .endOfCommand then r else { r with index := r.index + 1 }
    r'.previous?.map fun t => (t, r')

def consume? (r : Indexed) (kind : TokenKind) : Option (Option Token × Indexed) :=
  r.peek?.bind fun next =>
    if next.kind = kind then r.advance?.map fun (t, r') => (some t, r') else some (none, r)

def refuse? (r : Indexed) (error : ParseError) (kind : TokenKind) :
    Option (Except Refusal Command × Indexed) :=
  r.peek?.map fun next => (.error ⟨error, some ⟨kind, r.index, next⟩⟩, r)

def readSlots? (usage : Usage) :
    (slots : List Slot) → Slot.Build slots → Indexed → Option (Except Refusal Command × Indexed)
  | [], result, r =>
    (r.consume? .endOfCommand).bind fun
      | (none, r') => r'.refuse? (.usage usage) .endOfCommand
      | (some _, r') => some (result.mapError (⟨·, none⟩), r')
  | slot :: rest, build, r =>
    (r.consume? slot.kind).bind fun
      | (none, r') => r'.refuse? (slot.complaint usage) slot.kind
      | (some t, r') =>
        match slot.check usage t.text with
        | .error error => some (.error ⟨error, none⟩, r')
        | .ok () => readSlots? usage rest (slot.feed t.text build) r'

def parse? (r : Indexed) : Option (Except Refusal Command × Indexed) :=
  r.peek?.bind fun next =>
    if next.kind = .endOfCommand then some (.error ⟨.emptyLine, none⟩, r)
    else
      r.advance?.bind fun (t, r') =>
        r'.peek?.bind fun second =>
          match Form.ofKind? t.kind second.kind with
          | none => some (.error ⟨.unknownCommand t.text, none⟩, r')
          | some form => readSlots? form.usage form.slots form.build r'

end Indexed

namespace Cursor

/-- What a cursor shows stands in a sequence from the cursor's place on, up to the first end of a
command. -/
structure Within (tokens : List Token) (c : Cursor) : Prop where
  stands : ∃ front rest, tokens = front ++ (c.ahead ++ c.closing :: rest) ∧
    front.length = c.position
  unended : ∀ t ∈ c.ahead, t.kind ≠ .endOfCommand
  ends : c.closing.kind = .endOfCommand

/-- One cursor is another one that has gone on over some tokens. -/
structure Follows (c : Cursor) (front : List Token) (c' : Cursor) : Prop where
  ahead : c.ahead = front ++ c'.ahead
  position : c'.position = c.position + front.length
  closing : c'.closing = c.closing

section Follows

variable {c c' c'' : Cursor} {front front' : List Token}

private theorem Follows.refl (c : Cursor) : Follows c [] c := ⟨rfl, rfl, rfl⟩

private theorem Follows.trans (h : Follows c front c') (h' : Follows c' front' c'') :
    Follows c (front ++ front') c'' := by
  refine ⟨?_, ?_, h'.closing.trans h.closing⟩
  · rw [h.ahead, h'.ahead, List.append_assoc]
  · rw [h'.position, h.position, List.length_append, Nat.add_assoc]

private theorem Follows.next {t : Token} {rest : List Token} (ahead : c.ahead = t :: rest) :
    Follows c [t] ⟨c.position + 1, rest, c.closing⟩ := ⟨ahead, rfl, rfl⟩

private theorem of_take? {kind : TokenKind} {content : String}
    (taken : c.take? kind = some (content, c')) :
    ∃ t rest, c.ahead = t :: rest ∧ c' = ⟨c.position + 1, rest, c.closing⟩ := by
  rw [take?] at taken
  split at taken
  · cases taken
  · next t rest ahead =>
    split at taken
    · rw [Option.some_inj, Prod.mk.injEq] at taken
      exact ⟨t, rest, ahead, taken.2.symm⟩
    · cases taken

end Follows

section Within

variable {tokens : List Token} {c : Cursor}

theorem within_ofTokens (tokens : List Token) : Within (closed tokens) (ofTokens tokens) := by
  have opening : Opening tokens (ofTokens tokens).ahead := opening_iff_eq_takeWhile.mpr rfl
  have closing : (ofTokens tokens).closing =
      (tokens.find? fun t => t.kind == .endOfCommand).getD Token.endOfCommand := rfl
  obtain whole | ⟨last, rest, ends, whole⟩ := opening.reaches
  · have none : tokens.find? (fun t => t.kind == .endOfCommand) = none := by
      rw [List.find?_eq_none]
      intro t ht
      rw [whole] at ht
      simpa using opening.unended t ht
    have open' : tokens.getLast?.all (fun t => t.kind != .endOfCommand) = true := by
      rw [Option.all_eq_true]
      intro t ht
      have mem : t ∈ (ofTokens tokens).ahead := whole ▸ List.mem_of_getLast? ht
      simpa using opening.unended t mem
    rw [none, Option.getD_none] at closing
    refine ⟨⟨[], [], ?_, rfl⟩, opening.unended, by rw [closing]; rfl⟩
    rw [closed, if_pos open', closing, List.nil_append]
    exact congrArg (· ++ _) whole
  · have found : tokens.find? (fun t => t.kind == .endOfCommand) = some last := by
      rw [whole, List.find?_append, List.find?_eq_none.mpr fun t ht => by
        simpa using opening.unended t ht]
      simp [ends]
    rw [found, Option.getD_some] at closing
    refine ⟨?_, opening.unended, by rw [closing]; exact ends⟩
    unfold closed
    split
    · refine ⟨[], rest ++ [Token.endOfCommand], ?_, rfl⟩
      rw [closing]
      nth_rewrite 1 [whole]
      simp
    · exact ⟨[], rest, by rw [closing]; exact whole, rfl⟩

private theorem Within.peek (w : Within tokens c) : tokens[c.position]? = some c.peek := by
  obtain ⟨front, rest, rfl, length⟩ := w.stands
  rw [← length, List.getElem?_append_right (le_refl _), Nat.sub_self]
  cases ahead : c.ahead with
  | nil => simp [Cursor.peek, ahead]
  | cons t ahead' => simp [Cursor.peek, ahead]

private theorem Within.previous (w : Within tokens c) : ∃ t, tokens[c.position - 1]? = some t := by
  obtain ⟨front, rest, whole, length⟩ := w.stands
  have inside : c.position - 1 < tokens.length := by
    have lengths := congrArg List.length whole
    simp only [List.length_append, List.length_cons] at lengths
    omega
  exact ⟨_, List.getElem?_eq_getElem inside⟩

private theorem Within.follows {front : List Token} {c' : Cursor} (w : Within tokens c)
    (follows : Follows c front c') : Within tokens c' := by
  obtain ⟨before, rest, whole, length⟩ := w.stands
  refine ⟨⟨before ++ front, rest, ?_, ?_⟩, ?_, ?_⟩
  · rw [whole, follows.ahead, follows.closing]
    simp
  · rw [List.length_append, length, follows.position]
  · intro t ht
    apply w.unended
    rw [follows.ahead]
    exact List.mem_append_right front ht
  · rw [follows.closing]
    exact w.ends

private theorem Within.step {t : Token} {rest : List Token} (w : Within tokens c)
    (ahead : c.ahead = t :: rest) : Within tokens ⟨c.position + 1, rest, c.closing⟩ :=
  w.follows (.next ahead)

private theorem firstEnd_eq (tokens : List Token) :
    firstEnd tokens = (ofTokens tokens).ahead.length := by
  have w := within_ofTokens tokens
  obtain ⟨front, rest, whole, length⟩ := w.stands
  obtain rfl : front = [] := List.length_eq_zero_iff.mp length
  rw [firstEnd, whole, List.nil_append, List.findIdx_append, if_neg]
  · simp [List.findIdx_cons, w.ends]
  · rw [List.findIdx_lt_length]
    rintro ⟨t, ht, ends⟩
    exact w.unended t ht (by simpa using ends)

end Within

section Steps

variable {usage : Usage} {command : Command}

theorem readSlots_nil_of_ended {c : Cursor} (ended : c.ahead = [])
    (result : Except ParseError Command) :
    Form.readSlots usage [] result c = (result.mapError (⟨·, none⟩), c) :=
  if_pos (List.isEmpty_iff.mpr ended)

theorem readSlots_nil_of_unended {c : Cursor} (unended : c.ahead ≠ [])
    (result : Except ParseError Command) :
    Form.readSlots usage [] result c =
      (.error ⟨.usage usage, some (c.mismatch .endOfCommand)⟩, c) :=
  if_neg fun ended => unended (List.isEmpty_iff.mp ended)

theorem readSlots_nil_snd (usage : Usage) (result : Slot.Build []) (c : Cursor) :
    (Form.readSlots usage [] result c).2 = c := by
  by_cases ended : c.ahead = []
  · rw [readSlots_nil_of_ended ended result]
  · rw [readSlots_nil_of_unended ended result]

private theorem follows_readSlots (usage : Usage) (slots : List Slot) (build : Slot.Build slots)
    (c : Cursor) : ∃ front, Follows c front (Form.readSlots usage slots build c).2 := by
  induction slots generalizing c with
  | nil =>
    rw [readSlots_nil_snd]
    exact ⟨[], .refl c⟩
  | cons slot rest ih =>
    rw [Form.readSlots]
    cases taken : c.take? slot.kind with
    | none => exact ⟨[], .refl c⟩
    | some pair =>
      obtain ⟨content, c'⟩ := pair
      obtain ⟨t, behind, ahead, rfl⟩ := of_take? taken
      dsimp only
      cases slot.check usage content with
      | error e => exact ⟨[t], .next ahead⟩
      | ok =>
        obtain ⟨front, follows⟩ := ih (slot.feed content build) _
        exact ⟨t :: front, (Follows.next ahead).trans follows⟩

private theorem ahead_readSlots_of_ok {slots : List Slot} {build : Slot.Build slots} {c : Cursor}
    (accepted : (Form.readSlots usage slots build c).1 = .ok command) :
    (Form.readSlots usage slots build c).2.ahead = [] := by
  induction slots generalizing c with
  | nil =>
    rw [readSlots_nil_snd]
    by_contra unended
    rw [readSlots_nil_of_unended unended build] at accepted
    cases accepted
  | cons slot rest ih =>
    rw [Form.readSlots] at accepted ⊢
    split at accepted
    · cases accepted
    · split at accepted
      · cases accepted
      · exact ih accepted

private theorem parse_of_nil {c : Cursor} (ended : c.ahead = []) :
    c.parse = (.error ⟨.emptyLine, none⟩, c) := by
  rw [parse, ended]

private theorem follows_parse (c : Cursor) :
    ∃ front, Follows c front c.parse.2 ∧ (front = [] → c.ahead = []) := by
  cases ahead : c.ahead with
  | nil =>
    rw [parse_of_nil ahead]
    exact ⟨[], .refl c, fun _ => rfl⟩
  | cons t rest =>
    suffices follows : ∃ front, Follows c (t :: front) c.parse.2 by
      obtain ⟨front, follows⟩ := follows
      exact ⟨t :: front, follows, by simp⟩
    have next := Follows.next ahead
    rw [parse, ahead]
    dsimp only
    split
    · exact ⟨[], next⟩
    · next form _ =>
      obtain ⟨front, follows⟩ := follows_readSlots form.usage form.slots form.build
        ⟨c.position + 1, rest, c.closing⟩
      exact ⟨front, next.trans follows⟩

private theorem ahead_parse_of_ok {c : Cursor} (accepted : c.parse.1 = .ok command) :
    c.parse.2.ahead = [] := by
  rw [parse] at accepted ⊢
  split at accepted
  · cases accepted
  · dsimp only at accepted ⊢
    split at accepted
    · cases accepted
    · exact ahead_readSlots_of_ok accepted

end Steps

end Cursor

namespace Indexed

variable {tokens : List Token} {c : Cursor} {usage : Usage}

private theorem advance?_eq {t : Token} {rest : List Token} (w : c.Within tokens)
    (ahead : c.ahead = t :: rest) :
    advance? ⟨tokens, c.position⟩ = some (t, ⟨tokens, c.position + 1⟩) := by
  have next : tokens[c.position]? = some t := by simpa [Cursor.peek, ahead] using w.peek
  have unended : t.kind ≠ .endOfCommand := w.unended t (by simp [ahead])
  simp [advance?, peek?, previous?, next, unended]

private theorem refuse?_eq (w : c.Within tokens) (error : ParseError) (kind : TokenKind) :
    refuse? ⟨tokens, c.position⟩ error kind =
      some (.error ⟨error, some (c.mismatch kind)⟩, ⟨tokens, c.position⟩) := by
  have next := w.peek
  simp [refuse?, peek?, next, Cursor.mismatch]

private theorem consume?_eq {kind : TokenKind} (w : c.Within tokens)
    (other : kind ≠ .endOfCommand) :
    consume? ⟨tokens, c.position⟩ kind =
      match c.take? kind with
      | none => some (none, ⟨tokens, c.position⟩)
      | some (text, c') => some (some ⟨kind, text⟩, ⟨tokens, c'.position⟩) := by
  have next : peek? ⟨tokens, c.position⟩ = some c.peek := w.peek
  rw [consume?, next, Option.bind_some, Cursor.take?]
  cases ahead : c.ahead with
  | nil =>
    have wrong : c.peek.kind ≠ kind := by
      rw [Cursor.peek, ahead]
      intro same
      exact other (same.symm.trans w.ends)
    simp [wrong]
  | cons t rest =>
    have peek : c.peek = t := by simp [Cursor.peek, ahead]
    rw [peek, advance?_eq w ahead]
    by_cases right : t.kind = kind
    · subst right
      simp
    · simp [right]

private theorem consume?_endOfCommand (w : c.Within tokens) :
    ∃ found, consume? ⟨tokens, c.position⟩ .endOfCommand = some (found, ⟨tokens, c.position⟩) ∧
      found.isSome = c.ahead.isEmpty := by
  have next : peek? ⟨tokens, c.position⟩ = some c.peek := w.peek
  rw [consume?, next, Option.bind_some]
  cases ahead : c.ahead with
  | nil =>
    have ends : c.peek.kind = .endOfCommand := by simp [Cursor.peek, ahead, w.ends]
    obtain ⟨last, previous⟩ := w.previous
    refine ⟨some last, ?_, rfl⟩
    simp [ends, advance?, next, previous?, previous]
  | cons t rest =>
    have unended : c.peek.kind ≠ .endOfCommand := by
      have first := w.unended t (by simp [ahead])
      simpa [Cursor.peek, ahead] using first
    exact ⟨none, by simp [unended], rfl⟩

private theorem readSlots?_nil_of_some {r r' : Indexed} {t : Token}
    (consumed : r.consume? .endOfCommand = some (some t, r')) (result : Except ParseError Command) :
    readSlots? usage [] result r = some (result.mapError (⟨·, none⟩), r') := by
  change (r.consume? .endOfCommand).bind _ = _
  rw [consumed, Option.bind_some]

private theorem readSlots?_nil_of_none {r r' : Indexed}
    (consumed : r.consume? .endOfCommand = some (none, r')) (result : Except ParseError Command) :
    readSlots? usage [] result r = r'.refuse? (.usage usage) .endOfCommand := by
  change (r.consume? .endOfCommand).bind _ = _
  rw [consumed, Option.bind_some]

private theorem readSlots?_eq {slots : List Slot} {build : Slot.Build slots} (w : c.Within tokens) :
    readSlots? usage slots build ⟨tokens, c.position⟩ =
      some ((Form.readSlots usage slots build c).1,
        ⟨tokens, (Form.readSlots usage slots build c).2.position⟩) := by
  induction slots generalizing c with
  | nil =>
    obtain ⟨found, consumed, isSome⟩ := consume?_endOfCommand w
    cases found with
    | none =>
      have unended : c.ahead ≠ [] := by simpa using isSome.symm
      rw [readSlots?_nil_of_none consumed build, Cursor.readSlots_nil_of_unended unended build]
      exact refuse?_eq w _ _
    | some t =>
      have ended : c.ahead = [] := by simpa using isSome.symm
      rw [readSlots?_nil_of_some consumed build, Cursor.readSlots_nil_of_ended ended build]
  | cons slot rest ih =>
    have other : slot.kind ≠ .endOfCommand := by cases slot <;> simp [Slot.kind]
    rw [readSlots?, Form.readSlots, consume?_eq w other]
    cases taken : c.take? slot.kind with
    | none => exact refuse?_eq w _ _
    | some pair =>
      obtain ⟨content, c'⟩ := pair
      dsimp only [Option.bind_some]
      cases slot.check usage content with
      | error e => rfl
      | ok =>
        obtain ⟨t, behind, ahead, rfl⟩ := Cursor.of_take? taken
        exact ih (w.step ahead)

/-- The reader that looks into the whole sequence never looks outside, and comes to what the reader
of the tokens ahead comes to. -/
theorem parse?_eq (w : c.Within tokens) :
    parse? ⟨tokens, c.position⟩ = some (c.parse.1, ⟨tokens, c.parse.2.position⟩) := by
  have next : peek? ⟨tokens, c.position⟩ = some c.peek := w.peek
  rw [parse?, next, Option.bind_some, Cursor.parse]
  cases ahead : c.ahead with
  | nil =>
    have ends : c.peek.kind = .endOfCommand := by simp [Cursor.peek, ahead, w.ends]
    rw [if_pos ends]
  | cons t rest =>
    have unended : t.kind ≠ .endOfCommand := w.unended t (by simp [ahead])
    have peek : c.peek = t := by simp [Cursor.peek, ahead]
    have w' := w.step ahead
    have second : peek? ⟨tokens, c.position + 1⟩ =
      some (Cursor.peek ⟨c.position + 1, rest, c.closing⟩) := w'.peek
    rw [peek, if_neg unended, advance?_eq w ahead, Option.bind_some]
    dsimp only
    rw [second, Option.bind_some]
    cases Form.ofKind? t.kind (Cursor.peek ⟨c.position + 1, rest, c.closing⟩).kind with
    | none => rfl
    | some form => exact readSlots?_eq w'

end Indexed

namespace Cursor

/-- The cursor after a number of calls in a row, each going on where the one before it stopped. -/
def after (c : Cursor) : Nat → Cursor
  | 0 => c
  | n + 1 => (c.after n).parse.2

section Calls

variable {tokens : List Token}

private theorem within_after (tokens : List Token) (n : Nat) :
    Within (closed tokens) ((ofTokens tokens).after n) := by
  induction n with
  | zero => exact within_ofTokens tokens
  | succ n ih =>
    obtain ⟨front, follows, _⟩ := follows_parse ((ofTokens tokens).after n)
    exact ih.follows follows

private theorem position_add_length_after (tokens : List Token) (n : Nat) :
    ((ofTokens tokens).after n).position + ((ofTokens tokens).after n).ahead.length =
      firstEnd tokens := by
  induction n with
  | zero =>
    rw [firstEnd_eq]
    exact Nat.zero_add _
  | succ n ih =>
    obtain ⟨front, follows, _⟩ := follows_parse ((ofTokens tokens).after n)
    have lengths := congrArg List.length follows.ahead
    rw [List.length_append] at lengths
    rw [after, follows.position]
    omega

private theorem length_ahead_after_le (tokens : List Token) (n : Nat) :
    ((ofTokens tokens).after n).ahead.length ≤ firstEnd tokens - n := by
  induction n with
  | zero => exact (firstEnd_eq tokens).ge
  | succ n ih =>
    obtain ⟨front, follows, moved⟩ := follows_parse ((ofTokens tokens).after n)
    have lengths := congrArg List.length follows.ahead
    rw [List.length_append] at lengths
    rw [after]
    cases front with
    | nil =>
      have ended : ((ofTokens tokens).after n).ahead.length = 0 := by rw [moved rfl]; rfl
      omega
    | cons t front =>
      rw [List.length_cons] at lengths
      omega

/-- What a call does at a place among some tokens. -/
structure Safe (tokens : List Token) (c : Cursor) : Prop where
  /-- The reader with an index looks at no place outside the sequence. -/
  inside : Indexed.parse? ⟨closed tokens, c.position⟩ =
    some (c.parse.1, ⟨closed tokens, c.parse.2.position⟩)
  forward : c.position ≤ c.parse.2.position
  bounded : c.parse.2.position ≤ firstEnd tokens
  progress : c.position ≠ firstEnd tokens → c.position < c.parse.2.position
  finished : ∀ command, c.parse.1 = .ok command → c.parse.2.position = firstEnd tokens
  settled : c.position = firstEnd tokens → c.parse = (.error ⟨.emptyLine, none⟩, c)

private theorem safe_of_within {c : Cursor} (w : Within (closed tokens) c)
    (place : c.position + c.ahead.length = firstEnd tokens) : Safe tokens c := by
  obtain ⟨front, follows, moved⟩ := follows_parse c
  have position := follows.position
  have lengths := congrArg List.length follows.ahead
  rw [List.length_append] at lengths
  refine ⟨Indexed.parse?_eq w, by omega, by omega, ?_, ?_, ?_⟩
  · intro before
    cases front with
    | nil =>
      have ended : c.ahead.length = 0 := by rw [moved rfl]; rfl
      omega
    | cons t front =>
      rw [List.length_cons] at position
      omega
  · intro command accepted
    have ended : c.parse.2.ahead.length = 0 := by rw [ahead_parse_of_ok accepted]; rfl
    omega
  · intro atEnd
    apply parse_of_nil
    apply List.length_eq_zero_iff.mp
    omega

/-- Whatever the tokens are and however many calls there were: the next call reads no place outside
the sequence, goes forward but not beyond the first end of a command, and stands there if it made a
command. Once there, which is after as many calls as there are tokens before it at the latest, every
call says that there is nothing to read. -/
theorem safe_after (tokens : List Token) (n : Nat) :
    firstEnd tokens < (closed tokens).length ∧ Safe tokens ((ofTokens tokens).after n) ∧
      (firstEnd tokens ≤ n → ((ofTokens tokens).after n).position = firstEnd tokens) ∧
      ParseError.message .emptyLine = "Say something." := by
  have place := position_add_length_after tokens n
  refine ⟨?_, safe_of_within (within_after tokens n) place, ?_, rfl⟩
  · obtain ⟨front, rest, whole, _⟩ := (within_ofTokens tokens).stands
    have lengths := congrArg List.length whole
    simp only [List.length_append, List.length_cons] at lengths
    rw [firstEnd_eq]
    omega
  · intro enough
    have left := length_ahead_after_le tokens n
    omega

/-- A call that follows a failed one makes a command; what stands behind the end is never read. -/
theorem safe_after_failed_call :
    let tokens : List Token :=
      [⟨.todo, "todo"⟩, ⟨.exit, "bye"⟩, ⟨.endOfCommand, ""⟩, ⟨.list, "list"⟩]
    let c := (ofTokens tokens).after 1
    (c.position = 1 ∧ c.parse.1 = .ok .exit ∧ firstEnd tokens ≤ 2) ∧
      c.parse.2.position = firstEnd tokens ∧
      ((ofTokens tokens).after 2).position = firstEnd tokens := by
  intro tokens c
  have accepted : c.parse.1 = .ok .exit := by decide +kernel
  have enough : firstEnd tokens ≤ 2 := by decide
  refine ⟨⟨by decide +kernel, accepted, enough⟩, ?_, ?_⟩
  · exact (safe_after tokens 1).2.1.finished _ accepted
  · exact (safe_after tokens 2).2.2.1 enough

end Calls

end Cursor

end Taskbook
