import Taskbook.Proofs.Command.Cursor

/-! Where an error is found. Tokens are viable if some command begins with them. When the reader of
a sequence fails, it stands at the first token that left nothing viable, or right behind it. -/

set_option autoImplicit false

namespace Taskbook

open Text

variable {command : Command} {usage : Usage}

/-- Tokens that others can follow so that together they make a command. -/
def Viable (front : List Token) : Prop :=
  ∃ rest command, Command.ofTokens (front ++ rest) = .ok command

/-- The index of the first token with which the tokens up to it are not viable any more. -/
structure BreaksOff (tokens : List Token) (k : Nat) : Prop where
  inside : k < tokens.length
  viable : ∀ j ≤ k, Viable (tokens.take j)
  unviable : ¬ Viable (tokens.take (k + 1))

/-- The number of tokens behind which the beginnings of a sequence lose a property. -/
structure StopsAfter (Leads : List Token → Prop) (ahead : List Token) (k : Nat) : Prop where
  within : k ≤ ahead.length
  leads : ∀ j ≤ k, Leads (ahead.take j)
  breaks : k < ahead.length → ¬ Leads (ahead.take (k + 1))

namespace StopsAfter

variable {Leads Leads' : List Token → Prop} {ahead behind : List Token} {t : Token} {k : Nat}

private theorem zero (start : Leads []) (breaks : ∀ t ∈ ahead.head?, ¬ Leads [t]) :
    StopsAfter Leads ahead 0 := by
  refine ⟨Nat.zero_le _, ?_, ?_⟩
  · intro j hj
    rw [Nat.le_zero.mp hj, List.take_zero]
    exact start
  · intro more
    obtain ⟨t, behind, rfl⟩ := List.exists_cons_of_length_pos more
    exact breaks t rfl

private theorem succ (start : Leads [])
    (goesOn : ∀ j, Leads (t :: behind.take j) ↔ Leads' (behind.take j))
    (h : StopsAfter Leads' behind k) : StopsAfter Leads (t :: behind) (k + 1) := by
  refine ⟨Nat.succ_le_succ h.within, ?_, ?_⟩
  · intro j hj
    cases j with
    | zero => exact start
    | succ j => exact (goesOn j).mpr (h.leads j (Nat.le_of_succ_le_succ hj))
  · intro more leads
    exact h.breaks (Nat.lt_of_succ_lt_succ more) ((goesOn (k + 1)).mp leads)

end StopsAfter

namespace Form

/-- Tokens that fill slots from the first one on, so that others can fill those that are left. -/
def Leads (slots : List Slot) (build : Slot.Build slots) (front : List Token) : Prop :=
  ∃ rest command, Filled command slots build (front ++ rest)

/-- Whatever fits a slot, the slots behind it can still be filled. A text that only the build
refuses can stand in the last slot alone. -/
def Steady : (slots : List Slot) → Slot.Build slots → Prop
  | [], _ => True
  | slot :: rest, build => ∀ content, slot.Fits content →
      rest = [] ∨ Leads rest (slot.feed content build) [] ∧ Steady rest (slot.feed content build)

theorem not_leads_nil_cons {result : Slot.Build []} {t : Token} {front : List Token} :
    ¬ Leads [] result (t :: front) := by
  rintro ⟨rest, command, empty, _⟩
  exact absurd empty (by simp)

theorem leads_cons_iff {slot : Slot} {rest : List Slot} {build : Slot.Build (slot :: rest)}
    {t : Token} {front : List Token} :
    Leads (slot :: rest) build (t :: front) ↔
      t.kind = slot.kind ∧ slot.Fits t.text ∧ Leads rest (slot.feed t.text build) front := by
  constructor
  · rintro ⟨behind, command, content, ahead, same, fits, filled⟩
    obtain ⟨rfl, rfl⟩ := List.cons.inj same
    exact ⟨rfl, fits, behind, command, filled⟩
  · rintro ⟨kind, fits, behind, command, filled⟩
    obtain ⟨_, content⟩ := t
    subst kind
    exact ⟨behind, command, content, _, rfl, fits, filled⟩

theorem of_readSlots_cons_error {slot : Slot} {rest : List Slot} {build : Slot.Build (slot :: rest)}
    {c c' : Cursor} {refusal : Refusal}
    (failed : readSlots usage (slot :: rest) build c = (.error refusal, c')) :
    ((∀ t ∈ c.ahead.head?, t.kind ≠ slot.kind) ∧ refusal.error = slot.complaint usage ∧ c' = c) ∨
      ∃ t behind, c.ahead = t :: behind ∧ t.kind = slot.kind ∧
        (slot.check usage t.text = .error refusal.error ∧ c'.position = c.position + 1 ∨
          slot.Fits t.text ∧ readSlots usage rest (slot.feed t.text build)
            ⟨c.position + 1, behind, c.closing⟩ = (.error refusal, c')) := by
  rw [readSlots, Cursor.take?] at failed
  cases ahead : c.ahead with
  | nil =>
    rw [ahead] at failed
    obtain ⟨⟨⟩, rfl⟩ := Prod.mk.inj failed
    exact .inl ⟨by simp, rfl, rfl⟩
  | cons t behind =>
    rw [ahead] at failed
    by_cases right : t.kind = slot.kind
    · refine .inr ⟨t, behind, rfl, right, ?_⟩
      simp only [if_pos right] at failed
      cases checked : slot.check usage t.text with
      | error e =>
        rw [checked] at failed
        obtain ⟨⟨⟩, rfl⟩ := Prod.mk.inj failed
        exact .inl ⟨rfl, rfl⟩
      | ok =>
        rw [checked] at failed
        exact .inr ⟨Slot.check_eq_ok_iff.mp checked, failed⟩
    · simp only [if_neg right] at failed
      obtain ⟨⟨⟩, rfl⟩ := Prod.mk.inj failed
      exact .inl ⟨fun u hu => Option.mem_some.mp hu ▸ right, rfl, rfl⟩

/-- A form that is not filled stops the reader at the token that cannot be, or right behind it. -/
private theorem stopsAfter_of_readSlots {slots : List Slot} {build : Slot.Build slots}
    {c c' : Cursor} {refusal : Refusal} (steady : Steady slots build) (start : Leads slots build [])
    (failed : readSlots usage slots build c = (.error refusal, c')) :
    ∃ k, StopsAfter (Leads slots build) c.ahead k ∧
      (c'.position = c.position + k ∨ c'.position = c.position + k + 1) := by
  induction slots generalizing c with
  | nil =>
    have stays : c' = c := by rw [← Cursor.readSlots_nil_snd usage build c, failed]
    exact ⟨0, .zero start fun _ _ => not_leads_nil_cons, .inl (by rw [stays]; rfl)⟩
  | cons slot rest ih =>
    rcases of_readSlots_cons_error failed with ⟨wrong, _, rfl⟩ | ⟨t, behind, ahead, right, unfilled⟩
    · refine ⟨0, .zero start fun t first leads => wrong t first ?_, .inl rfl⟩
      exact (leads_cons_iff.mp leads).1
    · have unfit (breaks : ¬ Leads (slot :: rest) build [t]) :
          StopsAfter (Leads (slot :: rest) build) (t :: behind) 0 :=
        .zero start fun u hu => Option.mem_some.mp hu ▸ breaks
      rw [ahead]
      rcases unfilled with ⟨checked, position⟩ | ⟨fits, failed⟩
      · refine ⟨0, unfit fun leads => ?_, .inr position⟩
        have passed : slot.check usage t.text = .ok () :=
          Slot.check_eq_ok_iff.mpr (leads_cons_iff.mp leads).2.1
        rw [checked] at passed
        cases passed
      · by_cases goesOn : Leads rest (slot.feed t.text build) []
        · have steady' : Steady rest (slot.feed t.text build) := by
            rcases steady t.text fits with rfl | ⟨_, steady'⟩
            · trivial
            · exact steady'
          obtain ⟨k, stops, position⟩ := ih steady' goesOn failed
          refine ⟨k + 1, stops.succ start fun j => ?_, ?_⟩
          · rw [leads_cons_iff, and_iff_right right, and_iff_right fits]
          · dsimp only at position
            omega
        · -- The build refuses the text, but it is asked only when the command has ended.
          rcases steady t.text fits with rfl | ⟨goesOn', _⟩
          · have stays := Cursor.readSlots_nil_snd usage (slot.feed t.text build)
              ⟨c.position + 1, behind, c.closing⟩
            rw [failed] at stays
            refine ⟨0, unfit fun leads => goesOn (leads_cons_iff.mp leads).2.2, .inr ?_⟩
            exact congrArg Cursor.position stays
          · exact absurd goesOn' goesOn

section Forms

abbrev numberKinds : List TokenKind := [.mark, .unmark, .delete]

/-- Slots that texts alone decide: each can be filled, and the build takes whatever fits. -/
def Accepting : (slots : List Slot) → Slot.Build slots → Prop
  | [], result => ∃ command, result = .ok command
  | slot :: rest, build => (∃ content, slot.Fits content) ∧
      ∀ content, slot.Fits content → Accepting rest (slot.feed content build)

theorem Accepting.leads {slots : List Slot} {build : Slot.Build slots}
    (h : Accepting slots build) : Leads slots build [] := by
  induction slots with
  | nil =>
    obtain ⟨command, made⟩ := h
    exact ⟨[], command, rfl, made⟩
  | cons slot rest ih =>
    obtain ⟨⟨content, fits⟩, taken⟩ := h
    obtain ⟨behind, command, filled⟩ := ih (taken content fits)
    exact ⟨⟨slot.kind, content⟩ :: behind, command, content, behind, rfl, fits, filled⟩

private theorem Accepting.steady {slots : List Slot} {build : Slot.Build slots}
    (h : Accepting slots build) : Steady slots build := by
  induction slots with
  | nil => trivial
  | cons slot rest ih =>
    intro content fits
    exact .inr ⟨(h.2 content fits).leads, ih (h.2 content fits)⟩

private theorem exists_fits_text (missing : Option Missing) :
    ∃ content, (Slot.text missing).Fits content := by
  have filled : trimmed "x" ≠ "" := by decide +kernel
  exact ⟨"x", filled⟩

private theorem exists_fits_date : ∃ content, (Slot.view "date").Fits content := by
  have byDate : trimmed "date" ≠ "" ∧ trimmed "date" = "date" := by decide +kernel
  exact ⟨"date", byDate⟩

theorem accepting_of_ofKind? {kind next : TokenKind} {form : Form}
    (known : ofKind? kind next = some form) :
    kind ∉ numberKinds ∧ Accepting form.slots form.build ∨
      kind ∈ numberKinds ∧ ∃ usage make, form = numbered usage make := by
  cases kind with
  | exit =>
    cases known
    exact .inl ⟨by decide, _, rfl⟩
  | list =>
    rw [ofKind?] at known
    split at known <;> cases known
    · exact .inl ⟨by decide, ⟨"/", trivial⟩, fun _ _ => ⟨⟨_, rfl⟩, fun _ _ => ⟨exists_fits_date,
        fun _ _ => ⟨⟨"/", trivial⟩, fun _ _ => ⟨⟨_, rfl⟩, fun _ _ => ⟨exists_fits_text _,
        fun _ _ => ⟨_, rfl⟩⟩⟩⟩⟩⟩⟩
    · exact .inl ⟨by decide, _, rfl⟩
  | mark | unmark | delete =>
    cases known
    exact .inr ⟨by decide, _, _, rfl⟩
  | todo =>
    cases known
    exact .inl ⟨by decide, exists_fits_text _, fun _ _ => ⟨_, rfl⟩⟩
  | deadline =>
    cases known
    exact .inl ⟨by decide, exists_fits_text _, fun _ _ => ⟨⟨"/", trivial⟩, fun _ _ => ⟨⟨_, rfl⟩,
      fun _ _ => ⟨exists_fits_text _, fun _ _ => ⟨_, rfl⟩⟩⟩⟩⟩
  | event =>
    cases known
    exact .inl ⟨by decide, exists_fits_text _, fun _ _ => ⟨⟨"/", trivial⟩, fun _ _ => ⟨⟨_, rfl⟩,
      fun _ _ => ⟨exists_fits_text _, fun _ _ => ⟨⟨"/", trivial⟩, fun _ _ => ⟨⟨_, rfl⟩,
      fun _ _ => ⟨exists_fits_text _, fun _ _ => ⟨_, rfl⟩⟩⟩⟩⟩⟩⟩⟩
  | forwardDash | param | literal | endOfCommand => cases known

private theorem steady_of_ofKind? {kind next : TokenKind} {form : Form}
    (known : ofKind? kind next = some form) : Steady form.slots form.build := by
  rcases accepting_of_ofKind? known with ⟨_, accepting⟩ | ⟨_, usage, make, rfl⟩
  · exact accepting.steady
  · exact fun _ _ => .inl rfl

theorem leads_of_ofKind? {kind next : TokenKind} {form : Form}
    (known : ofKind? kind next = some form) : Leads form.slots form.build [] := by
  rcases accepting_of_ofKind? known with ⟨_, accepting⟩ | ⟨_, usage, make, rfl⟩
  · exact accepting.leads
  · have one : Decimal (trimmed "1").toList 1 := by
      have digit : Char.isDigit '1' = true := by decide
      exact Decimal.plain (List.cons_ne_nil _ _) (List.forall_mem_singleton.mpr digit)
    let number : TaskNumber := ⟨1, by decide, by decide⟩
    exact ⟨[⟨.literal, "1"⟩], make number,
      filled_numbered_iff.mpr ⟨"1", number, rfl, one, rfl⟩⟩

private theorem sentence_of_filled {kind next : TokenKind} {word : String} {rest : List Token}
    {form : Form} (known : ofKind? kind next = some form)
    (filled : Filled command form.slots form.build rest) :
    Sentence (⟨kind, word⟩ :: rest) command := by
  by_cases isList : kind = .list
  · subst isList
    rw [ofKind?] at known
    split at known <;> cases known
    · have known : ofKind? .list .forwardDash = some listView := rfl
      obtain ⟨_, _, _, _, rfl, _⟩ := filled_listView_iff.mp filled
      exact (filled_iff_sentence known (by simp)).mp filled
    · have known : ofKind? .list .literal = some list := rfl
      obtain ⟨rfl, _⟩ := filled_list_iff.mp filled
      exact (filled_iff_sentence known (by simp)).mp filled
  · -- No other form depends on the token behind the first one.
    have known' (next' : TokenKind) : ofKind? kind next' = some form := by
      rw [← known]
      cases kind with
      | list => exact absurd rfl isList
      | _ => rfl
    cases rest with
    | nil => exact (filled_iff_sentence (known' .literal) (by simp)).mp filled
    | cons t behind => exact (filled_iff_sentence (known' t.kind) (by simp)).mp filled

end Forms

end Form

section Viable

variable {front : List Token}

private theorem Sentence.unended {tokens : List Token} (h : Sentence tokens command) :
    ∀ t ∈ tokens, t.kind ≠ .endOfCommand := by
  cases h <;> simp

private theorem viable_iff_of_unended (unended : ∀ t ∈ front, t.kind ≠ .endOfCommand) :
    Viable front ↔ ∃ rest command, Sentence (front ++ rest) command := by
  have passed : ∀ t ∈ front, (t.kind != .endOfCommand) = true := by
    intro t ht
    simpa using unended t ht
  constructor
  · rintro ⟨rest, command, accepted⟩
    rw [Command.ofTokens_eq_ok_iff, List.takeWhile_append_of_pos passed] at accepted
    exact ⟨_, command, accepted⟩
  · rintro ⟨rest, command, sentence⟩
    refine ⟨rest, command, Command.ofTokens_eq_ok_iff.mpr ?_⟩
    rw [List.takeWhile_eq_self_iff.mpr]
    · exact sentence
    · intro t ht
      simpa using sentence.unended t ht

private theorem viable_nil : Viable [] := ⟨[⟨.exit, ""⟩], .exit, rfl⟩

private theorem sentence_of_viable_closed {last : Token} (ends : last.kind = .endOfCommand)
    (unended : ∀ t ∈ front, t.kind ≠ .endOfCommand) (viable : Viable (front ++ [last])) :
    ∃ command, Sentence front command := by
  obtain ⟨rest, command, accepted⟩ := viable
  rw [Command.ofTokens_eq_ok_iff, List.append_assoc, List.takeWhile_append_of_pos] at accepted
  · refine ⟨command, ?_⟩
    simpa [ends] using accepted
  · intro t ht
    simpa using unended t ht

private theorem not_viable_of_ofKind? {t : Token} {next : TokenKind}
    (unended : t.kind ≠ .endOfCommand) (unknown : Form.ofKind? t.kind next = none) :
    ¬ Viable [t] := by
  rw [viable_iff_of_unended (by simpa using unended)]
  rintro ⟨rest, command, sentence⟩
  rw [List.singleton_append] at sentence
  cases sentence <;> simp [Form.ofKind?] at unknown

/-- Behind the first token the beginnings of a command are those that fill the form it chooses. -/
private theorem viable_cons_iff {t : Token} {next : TokenKind} {form : Form}
    (unended : ∀ u ∈ t :: front, u.kind ≠ .endOfCommand)
    (known : Form.ofKind? t.kind next = some form) (chosen : ∀ u ∈ front.head?, u.kind = next) :
    Viable (t :: front) ↔ Form.Leads form.slots form.build front := by
  constructor
  · intro viable
    cases front with
    | nil => exact Form.leads_of_ofKind? known
    | cons u front =>
      obtain rfl := chosen u rfl
      obtain ⟨rest, command, sentence⟩ := (viable_iff_of_unended unended).mp viable
      refine ⟨rest, command, (Form.filled_iff_sentence known ?_).mpr sentence⟩
      simp
  · rintro ⟨rest, command, filled⟩
    exact (viable_iff_of_unended unended).mpr
      ⟨rest, command, Form.sentence_of_filled known filled⟩

theorem viable_take_iff {t : Token} {behind : List Token} {form : Form} {position : Nat}
    {closing : Token} (unended : ∀ u ∈ t :: behind, u.kind ≠ .endOfCommand)
    (known : Form.ofKind? t.kind (Cursor.peek ⟨position, behind, closing⟩).kind = some form)
    (j : Nat) :
    Viable (t :: behind.take j) ↔ Form.Leads form.slots form.build (behind.take j) := by
  refine viable_cons_iff (fun u hu => ?_) known fun u hu => ?_
  · have among : u ∈ (t :: behind).take (j + 1) := by simpa using hu
    exact unended u (List.mem_of_mem_take among)
  · rw [List.head?_take, Option.mem_def] at hu
    split at hu
    · cases hu
    · simp [Cursor.peek, hu]

end Viable

namespace Cursor

variable {tokens : List Token}

/-- A call that fails stops at the token with which no command goes on, or right behind it. -/
theorem stopsAfter_of_parse_error {c c' : Cursor} {refusal : Refusal}
    (unended : ∀ t ∈ c.ahead, t.kind ≠ .endOfCommand) (failed : c.parse = (.error refusal, c')) :
    ∃ k, StopsAfter Viable c.ahead k ∧
      (c'.position = c.position + k ∨ c'.position = c.position + k + 1) := by
  rw [parse] at failed
  cases ahead : c.ahead with
  | nil =>
    rw [ahead] at failed
    obtain rfl := (Prod.mk.inj failed).2
    exact ⟨0, .zero viable_nil (by simp), .inl rfl⟩
  | cons t behind =>
    rw [ahead] at failed unended
    dsimp only at failed
    cases known : Form.ofKind? t.kind
        (Cursor.peek ⟨c.position + 1, behind, c.closing⟩).kind with
    | none =>
      rw [known] at failed
      obtain rfl := (Prod.mk.inj failed).2
      refine ⟨0, .zero viable_nil fun u hu => ?_, .inr rfl⟩
      obtain rfl := Option.mem_some.mp hu
      exact not_viable_of_ofKind? (unended t List.mem_cons_self) known
    | some form =>
      rw [known] at failed
      obtain ⟨k, stops, position⟩ := Form.stopsAfter_of_readSlots (Form.steady_of_ofKind? known)
        (Form.leads_of_ofKind? known) failed
      refine ⟨k + 1, stops.succ viable_nil (viable_take_iff unended known), ?_⟩
      dsimp only at position
      omega

theorem breaksOff_closed {k : Nat} (refused : ∀ command, (ofTokens tokens).parse.1 ≠ .ok command)
    (stops : StopsAfter Viable (ofTokens tokens).ahead k) : BreaksOff (closed tokens) k := by
  have w := within_ofTokens tokens
  obtain ⟨front, behind, whole, length⟩ := w.stands
  obtain rfl : front = [] := List.length_eq_zero_iff.mp length
  rw [List.nil_append] at whole
  rw [whole]
  refine ⟨?_, ?_, ?_⟩
  · have within := stops.within
    rw [List.length_append, List.length_cons]
    omega
  · intro j hj
    rw [List.take_append_of_le_length (hj.trans stops.within)]
    exact stops.leads j hj
  · rcases Nat.lt_or_eq_of_le stops.within with before | rfl
    · rw [List.take_append_of_le_length before]
      exact stops.breaks before
    · intro viable
      rw [List.take_length_add_append, List.take_succ_cons, List.take_zero] at viable
      obtain ⟨command, sentence⟩ := sentence_of_viable_closed w.ends w.unended viable
      exact refused command ((parse_eq_ok_iff w.ends).mpr sentence)

/-- When a sequence is refused, the reader stands at the first token with which no command goes on,
or right behind it; the tokens before it are the beginning of some command. -/
theorem breaksOff_of_parse_error {refusal : Refusal} {c' : Cursor}
    (failed : (ofTokens tokens).parse = (.error refusal, c')) :
    ∃ k, BreaksOff (closed tokens) k ∧ (c'.position = k ∨ c'.position = k + 1) ∧
      c'.position ≤ firstEnd tokens := by
  have bounded := (safe_after tokens 0).2.1.bounded
  rw [after, failed] at bounded
  have refused : ∀ command, (ofTokens tokens).parse.1 ≠ .ok command := by
    intro command accepted
    rw [failed] at accepted
    cases accepted
  obtain ⟨k, stops, position⟩ := stopsAfter_of_parse_error (within_ofTokens tokens).unended failed
  have atStart : (ofTokens tokens).position = 0 := rfl
  rw [atStart, Nat.zero_add] at position
  exact ⟨k, breaksOff_closed refused stops, position, bounded⟩

/-- What is no number is reported only after the end of the command was looked for; here it is not
found. -/
theorem breaksOff_of_unread_number :
    let tokens : List Token := [⟨.mark, "mark"⟩, ⟨.literal, "abc"⟩, ⟨.forwardDash, "/"⟩]
    let c' : Cursor := ⟨2, [⟨.forwardDash, "/"⟩], Token.endOfCommand⟩
    let refusal : Refusal := ⟨.usage .mark, some ⟨.endOfCommand, 2, ⟨.forwardDash, "/"⟩⟩⟩
    (ofTokens tokens).parse = (.error refusal, c') ∧
      ∃ k, BreaksOff (closed tokens) k ∧ (c'.position = k ∨ c'.position = k + 1) ∧
        c'.position ≤ firstEnd tokens := by
  intro tokens c' refusal
  have failed : (ofTokens tokens).parse = (.error refusal, c') := by decide +kernel
  exact ⟨failed, breaksOff_of_parse_error failed⟩

end Cursor

end Taskbook
