import Taskbook.Proofs.Command.Viable

/-! What a refused command is answered with. The text depends on the command, on the token with which
it breaks off, and on nothing else, a task's number aside: that is read only when the command has
ended, so a text that is no number is complained about only where nothing stands behind it. -/

set_option autoImplicit false

namespace Taskbook

open Text

variable {command : Command} {usage : Usage}

/-- The usage that a command is reminded of at its token `k`. A list that goes on behind its first
token should go on with a view. -/
def TokenKind.usageAt? (k : Nat) : TokenKind → Option Usage
  | .exit => some .bye
  | .list => some (if k = 1 then .list else .listView)
  | .mark => some .mark
  | .unmark => some .unmark
  | .delete => some .delete
  | .todo => some .todo
  | .deadline => some .deadline
  | .event => some .event
  | .forwardDash | .param | .literal | .endOfCommand => none

def TokenKind.missingAt? : TokenKind → Nat → Option Missing
  | .todo, 1 | .deadline, 1 | .event, 1 => some .description
  | .event, 4 => some .start
  | .event, 7 => some .finish
  | _, _ => none

def reminder (kind : TokenKind) (usage : Usage) (k : Nat) : String :=
  match kind.missingAt? k with
  | some what => what.text ++ "\n" ++ usage.text
  | none => usage.text

/-- The text in the place of a task's number, if nothing else follows the command. -/
def loneNumber? : List Token → Option String
  | [first, argument] =>
    if first.kind ∈ Form.numberKinds ∧ argument.kind = .literal then
      some (trimmed argument.text)
    else none
  | _ => none

/-- Whether token `k` is the type of a list's view: a literal behind `view` that is not blank. -/
def isViewType (front : List Token) (k : Nat) : Bool :=
  k == 3 && front.head?.any (fun t => t.kind = .list) &&
    front[2]?.any (fun t => t = ⟨.param, "view"⟩) &&
    front[3]?.any fun t => t.kind = .literal && trimmed t.text != ""

/-- What is said about a command that breaks off at its token `k`. -/
def explanation (front : List Token) (k : Nat) : String :=
  match front with
  | [] => "Say something."
  | first :: rest =>
    match first.kind.usageAt? k with
    | none => ParseError.message (.unknownCommand first.text)
    | some usage =>
      match loneNumber? (first :: rest) with
      | some argument => ParseError.message (.notAnInteger argument)
      | none =>
        if isViewType (first :: rest) k then "Invalid type" else reminder first.kind usage k

namespace StopsAfter

variable {Leads Leads' : List Token → Prop} {ahead behind : List Token} {t : Token} {k : Nat}

private theorem pos (h : StopsAfter Leads (t :: behind) k) (goesOn : Leads [t]) : 0 < k := by
  apply Nat.pos_of_ne_zero
  rintro rfl
  exact h.breaks (Nat.zero_lt_succ _) goesOn

private theorem eq_zero (h : StopsAfter Leads ahead k) (breaks : ∀ t ∈ ahead.head?, ¬ Leads [t]) :
    k = 0 := by
  by_contra more
  have one : 1 ≤ k := Nat.one_le_iff_ne_zero.mpr more
  obtain ⟨t, behind, rfl⟩ := List.exists_cons_of_length_pos (Nat.lt_of_lt_of_le one h.within)
  exact breaks t rfl (h.leads 1 one)

private theorem of_succ (goesOn : ∀ j, Leads (t :: behind.take j) ↔ Leads' (behind.take j))
    (h : StopsAfter Leads (t :: behind) (k + 1)) : StopsAfter Leads' behind k where
  within := Nat.le_of_succ_le_succ h.within
  leads j hj := (goesOn j).mp (h.leads (j + 1) (Nat.succ_le_succ hj))
  breaks more leads := h.breaks (Nat.succ_lt_succ more) ((goesOn (k + 1)).mpr leads)

end StopsAfter

private theorem BreaksOff.unique {tokens : List Token} {j k : Nat} (h : BreaksOff tokens j)
    (h' : BreaksOff tokens k) : j = k := by
  rcases Nat.lt_trichotomy j k with before | same | behind
  · exact absurd (h'.viable (j + 1) before) h.unviable
  · exact same
  · exact absurd (h.viable (k + 1) behind) h'.unviable

namespace Slot

/-- What is said when a slot has this token, or none, in its place, and cannot go on with it. -/
def verdict (usage : Usage) (slot : Slot) (found : Option Token) : ParseError :=
  match slot, found with
  | view _, some ⟨.literal, type⟩ => if trimmed type = "" then .usage usage else .unknownView
  | slot, _ => slot.complaint usage

variable {slot : Slot} {t : Token} {error : ParseError}

private theorem verdict_of_ne_kind {found : Option Token}
    (wrong : ∀ t ∈ found, t.kind ≠ slot.kind) :
    slot.verdict usage found = slot.complaint usage := by
  unfold verdict
  split
  · exact absurd rfl (wrong _ rfl)
  · rfl

private theorem verdict_of_check_error (right : t.kind = slot.kind)
    (checked : slot.check usage t.text = .error error) : slot.verdict usage (some t) = error := by
  obtain ⟨kind, content⟩ := t
  subst right
  cases slot with
  | dash | argument => cases checked
  | name word | text missing =>
    rw [check] at checked
    split at checked <;> cases checked
    rfl
  | view word =>
    rw [check] at checked
    change (if trimmed content = "" then ParseError.usage usage else .unknownView) = error
    split at checked
    · next blank =>
      rw [if_pos blank]
      exact Except.error.inj checked
    · next filled =>
      rw [if_neg filled]
      split at checked
      · cases checked
      · exact Except.error.inj checked

end Slot

namespace Form

/-- What is said when the tokens ahead leave slots unfilled from the one at `k` on. -/
def told (usage : Usage) (slots : List Slot) (ahead : List Token) (k : Nat) : ParseError :=
  match slots[k]? with
  | some slot => slot.verdict usage ahead[k]?
  | none => .usage usage

private theorem told_succ (usage : Usage) (slot : Slot) (slots : List Slot) (t : Token)
    (ahead : List Token) (k : Nat) :
    told usage (slot :: slots) (t :: ahead) (k + 1) = told usage slots ahead k := by
  simp only [told, List.getElem?_cons_succ]

/-- A form that takes whatever fits complains about the slot at which its tokens stop. -/
private theorem error_of_readSlots {slots : List Slot} {build : Slot.Build slots} {c c' : Cursor}
    {k : Nat} {refusal : Refusal} (accepting : Accepting slots build)
    (stops : StopsAfter (Leads slots build) c.ahead k)
    (failed : readSlots usage slots build c = (.error refusal, c')) :
    refusal.error = told usage slots c.ahead k := by
  induction slots generalizing c k with
  | nil =>
    obtain ⟨command, rfl⟩ := accepting
    have unended : c.ahead ≠ [] := by
      intro ended
      rw [Cursor.readSlots_nil_of_ended ended (.ok command)] at failed
      cases failed
    rw [Cursor.readSlots_nil_of_unended unended (.ok command)] at failed
    obtain ⟨⟨⟩, _⟩ := Prod.mk.inj failed
    rfl
  | cons slot rest ih =>
    rcases of_readSlots_cons_error failed with ⟨wrong, error, _⟩ | ⟨t, behind, ahead, right, unfilled⟩
    · obtain rfl := stops.eq_zero fun t first leads => wrong t first (leads_cons_iff.mp leads).1
      rw [error, told, List.getElem?_cons_zero, ← List.head?_eq_getElem?]
      exact (Slot.verdict_of_ne_kind wrong).symm
    · rw [ahead] at stops ⊢
      rcases unfilled with ⟨checked, _⟩ | ⟨fits, failed⟩
      · obtain rfl := stops.eq_zero fun u hu leads => by
          obtain rfl := Option.mem_some.mp hu
          have passed : slot.check usage t.text = .ok () :=
            Slot.check_eq_ok_iff.mpr (leads_cons_iff.mp leads).2.1
          rw [checked] at passed
          cases passed
        exact (Slot.verdict_of_check_error right checked).symm
      · have accepting' := accepting.2 t.text fits
        have goesOn : Leads (slot :: rest) build [t] :=
          leads_cons_iff.mpr ⟨right, fits, accepting'.leads⟩
        obtain ⟨k, rfl⟩ := Nat.exists_eq_add_one_of_ne_zero (stops.pos goesOn).ne'
        rw [told_succ]
        refine ih accepting' (stops.of_succ fun j => ?_) failed
        rw [leads_cons_iff, and_iff_right right, and_iff_right fits]

private theorem error_of_numbered_build {make : TaskNumber → Command} {argument : String}
    {error : ParseError}
    (refused : ((numbered usage make).build argument : Except ParseError Command) = .error error) :
    error = .notAnInteger argument := by
  unfold numbered at refused
  dsimp only at refused
  split at refused <;> cases refused
  rfl

theorem error_of_readSlots_numbered {make : TaskNumber → Command} {c c' : Cursor}
    {refusal : Refusal}
    (failed : readSlots usage (numbered usage make).slots (numbered usage make).build c =
      (.error refusal, c')) :
    (∃ t, c.ahead = [t] ∧ t.kind = .literal ∧ refusal.error = .notAnInteger (trimmed t.text)) ∨
      (∀ t, c.ahead = [t] → t.kind ≠ .literal) ∧ refusal.error = .usage usage := by
  rcases of_readSlots_cons_error failed with ⟨wrong, error, _⟩ | ⟨t, behind, ahead, right, unfilled⟩
  · refine .inr ⟨fun t alone => wrong t ?_, error⟩
    rw [alone]
    rfl
  · rcases unfilled with ⟨checked, _⟩ | ⟨_, failed⟩
    · cases checked
    · obtain ⟨result, made⟩ : ∃ result : Except ParseError Command,
          (numbered usage make).build (trimmed t.text) = result := ⟨_, rfl⟩
      change readSlots usage [] ((numbered usage make).build (trimmed t.text)) _ = _ at failed
      rw [made] at failed
      cases behind with
      | nil =>
        rw [Cursor.readSlots_nil_of_ended rfl result] at failed
        have refused := (Prod.mk.inj failed).1
        cases result with
        | ok => cases refused
        | error unread =>
          cases refused
          exact .inl ⟨t, ahead, right, error_of_numbered_build made⟩
      | cons u behind =>
        rw [Cursor.readSlots_nil_of_unended (List.cons_ne_nil u behind) result] at failed
        refine .inr ⟨fun v alone => ?_, ?_⟩
        · rw [ahead] at alone
          cases alone
        · exact congrArg Refusal.error (Except.error.inj (Prod.mk.inj failed).1).symm

end Form

section Explanation

variable {first : Token} {rest : List Token} {k : Nat}

private theorem loneNumber?_of_kind (other : first.kind ∉ Form.numberKinds) :
    loneNumber? (first :: rest) = none := by
  unfold loneNumber?
  split
  · next same =>
    obtain ⟨rfl, _⟩ := List.cons.inj same
    exact if_neg fun h => other h.1
  · rfl

private theorem loneNumber?_of_rest (other : ∀ t, rest = [t] → t.kind ≠ .literal) :
    loneNumber? (first :: rest) = none := by
  unfold loneNumber?
  split
  · next same =>
    obtain ⟨_, alone⟩ := List.cons.inj same
    exact if_neg fun h => other _ alone h.2
  · rfl

private theorem isViewType_of_kind (other : first.kind ≠ .list) :
    isViewType (first :: rest) k = false := by
  simp [isViewType, other]

private theorem explanation_of_reminder (usual : first.kind.usageAt? k = some usage)
    (noNumber : loneNumber? (first :: rest) = none)
    (noType : isViewType (first :: rest) k = false) :
    explanation (first :: rest) k = reminder first.kind usage k := by
  simp [explanation, usual, noNumber, noType]

private theorem explanation_of_kind (usual : first.kind.usageAt? k = some usage)
    (noNumber : first.kind ∉ Form.numberKinds) (noList : first.kind ≠ .list) :
    explanation (first :: rest) k = reminder first.kind usage k :=
  explanation_of_reminder usual (loneNumber?_of_kind noNumber) (isViewType_of_kind noList)

end Explanation

namespace Form

variable {first : Token} {behind : List Token} {c c' : Cursor} {k : Nat} {refusal : Refusal}

private theorem usageAt?_of_ofKind? {kind next : TokenKind} {form : Form}
    (known : ofKind? kind next = some form) (other : kind ≠ .list) :
    kind.usageAt? k = some form.usage := by
  cases kind with
  | list => exact absurd rfl other
  | forwardDash | param | literal | endOfCommand => cases known
  | exit | mark | unmark | delete | todo | deadline | event =>
    cases known
    rfl

private theorem message_told {kind next : TokenKind} {form : Form}
    (known : ofKind? kind next = some form) (noNumber : kind ∉ numberKinds) (noList : kind ≠ .list)
    (ahead : List Token) (k : Nat) :
    (told form.usage form.slots ahead k).message = reminder kind form.usage (k + 1) := by
  cases kind with
  | list => exact absurd rfl noList
  | mark | unmark | delete => exact absurd (by decide) noNumber
  | forwardDash | param | literal | endOfCommand => cases known
  | exit =>
    cases known
    rfl
  | todo =>
    cases known
    match k with
    | 0 => rfl
    | k + 1 => rfl
  | deadline =>
    cases known
    match k with
    | 0 | 1 | 2 | 3 => rfl
    | k + 4 => rfl
  | event =>
    cases known
    match k with
    | 0 | 1 | 2 | 3 | 4 | 5 | 6 => rfl
    | k + 7 => rfl

private theorem message_told_list (stops : StopsAfter (Leads list.slots list.build) behind k)
    (word : String) :
    (told list.usage list.slots behind k).message =
      explanation (⟨.list, word⟩ :: behind) (k + 1) := by
  obtain rfl := stops.eq_zero fun _ _ => not_leads_nil_cons
  rw [explanation_of_reminder rfl (loneNumber?_of_kind (by simp)) rfl]
  rfl

private theorem message_verdict_view (dash : Token) (behind : List Token) (word : String) :
    (Slot.verdict .listView (.view "date") behind.head?).message =
      if isViewType (⟨.list, word⟩ :: dash :: ⟨.param, "view"⟩ :: behind) 3 then "Invalid type"
      else Usage.listView.text := by
  cases behind with
  | nil => rfl
  | cons type behind =>
    obtain ⟨kind, content⟩ := type
    by_cases literal : kind = .literal
    · subst literal
      have verdict : Slot.verdict .listView (.view "date") (some ⟨.literal, content⟩) =
          if trimmed content = "" then .usage .listView else .unknownView := rfl
      have shown : isViewType (⟨.list, word⟩ :: dash :: ⟨.param, "view"⟩ :: ⟨.literal, content⟩ ::
          behind) 3 = (trimmed content != "") := by simp [isViewType]
      rw [List.head?_cons, verdict, shown]
      by_cases blank : trimmed content = ""
      · simp only [blank, if_true, bne_self_eq_false, Bool.false_eq_true, if_false]
        rfl
      · rw [if_neg blank, if_pos (bne_iff_ne.mpr blank)]
        rfl
    · have wrong : ∀ t ∈ some (Token.mk kind content), t.kind ≠ (Slot.view "date").kind := by
        rintro _ ⟨⟩
        exact literal
      have noType : isViewType (⟨.list, word⟩ :: dash :: ⟨.param, "view"⟩ :: ⟨kind, content⟩ ::
          behind) 3 = false := by simp [isViewType, literal]
      rw [List.head?_cons, Slot.verdict_of_ne_kind wrong, noType]
      rfl

private theorem message_told_listView (accepting : Accepting listView.slots listView.build)
    (stops : StopsAfter (Leads listView.slots listView.build) behind k)
    (dashed : ∃ d ∈ behind.head?, d.kind = .forwardDash) (word : String) :
    (told listView.usage listView.slots behind k).message =
      explanation (⟨.list, word⟩ :: behind) (k + 1) := by
  obtain ⟨dash, behind, rfl⟩ : ∃ dash rest, behind = dash :: rest := by
    obtain ⟨dash, first, _⟩ := dashed
    exact ⟨dash, _, (List.cons_head?_tail first).symm⟩
  obtain ⟨_, ⟨⟩, kind⟩ := dashed
  have started : Leads listView.slots listView.build [dash] :=
    leads_cons_iff.mpr ⟨kind, trivial, (accepting.2 dash.text trivial).leads⟩
  have noNumber : loneNumber? (⟨.list, word⟩ :: dash :: behind) = none :=
    loneNumber?_of_kind (by simp)
  match k with
  | 0 => exact absurd (stops.pos started) (Nat.lt_irrefl 0)
  | 2 =>
    have long : 2 ≤ behind.length + 1 := stops.within
    obtain ⟨⟨_, _⟩, behind, rfl⟩ := List.exists_cons_of_length_pos (l := behind) (by omega)
    have begun := (leads_cons_iff.mp (stops.leads 2 (Nat.le_refl 2))).2.2
    obtain ⟨rfl, rfl, _⟩ := leads_cons_iff.mp begun
    change (Slot.verdict .listView (.view "date") behind[0]?).message = _
    rw [← List.head?_eq_getElem?, message_verdict_view dash behind word]
    simp only [explanation, noNumber]
    rfl
  | 1 | 3 | 4 | 5 =>
    rw [explanation_of_reminder rfl noNumber rfl]
    rfl
  | k + 6 =>
    rw [explanation_of_reminder rfl noNumber rfl]
    rfl

private theorem message_numbered {make : TaskNumber → Command} (ahead : c.ahead = behind)
    (number : first.kind ∈ numberKinds)
    (usual : first.kind.usageAt? (k + 1) = some usage)
    (failed : readSlots usage (numbered usage make).slots (numbered usage make).build c =
      (.error refusal, c')) :
    refusal.error.message = explanation (first :: behind) (k + 1) := by
  rcases error_of_readSlots_numbered failed with ⟨t, alone, literal, error⟩ | ⟨other, error⟩
  · obtain rfl : behind = [t] := ahead.symm.trans alone
    have lone : loneNumber? [first, t] = some (trimmed t.text) := if_pos ⟨number, literal⟩
    simp [explanation, usual, lone, error]
  · rw [ahead] at other
    have noList : first.kind ≠ .list := by
      intro isList
      simp [isList] at number
    have plain : first.kind.missingAt? (k + 1) = none := by
      simp only [List.mem_cons, List.not_mem_nil, or_false] at number
      rcases number with kind | kind | kind <;> rw [kind] <;> rfl
    rw [explanation_of_reminder usual (loneNumber?_of_rest other) (isViewType_of_kind noList), error,
      reminder, plain]
    rfl

end Form

namespace Cursor

private theorem message_of_stopsAfter {c c' : Cursor} {k : Nat} {refusal : Refusal}
    (unended : ∀ t ∈ c.ahead, t.kind ≠ .endOfCommand) (ends : c.closing.kind = .endOfCommand)
    (stops : StopsAfter Viable c.ahead k) (failed : c.parse = (.error refusal, c')) :
    refusal.error.message = explanation c.ahead k := by
  rw [parse] at failed
  cases ahead : c.ahead with
  | nil =>
    rw [ahead] at failed
    obtain ⟨⟨⟩, _⟩ := Prod.mk.inj failed
    rfl
  | cons first behind =>
    rw [ahead] at failed unended stops
    dsimp only at failed
    cases known : Form.ofKind? first.kind
        (Cursor.peek ⟨c.position + 1, behind, c.closing⟩).kind with
    | none =>
      rw [known] at failed
      obtain ⟨⟨⟩, _⟩ := Prod.mk.inj failed
      have unknown : first.kind.usageAt? k = none := by
        cases kind : first.kind <;> rw [kind] at known <;> first | rfl | cases known
      rw [explanation, unknown]
    | some form =>
      rw [known] at failed
      have goesOn := viable_take_iff unended known
      obtain ⟨k, rfl⟩ := Nat.exists_eq_add_one_of_ne_zero
        (stops.pos ((goesOn 0).mpr (Form.leads_of_ofKind? known))).ne'
      have stops' := stops.of_succ goesOn
      rcases Form.accepting_of_ofKind? known with
        ⟨noNumber, accepting⟩ | ⟨number, usage, make, rfl⟩
      · rw [Form.error_of_readSlots accepting stops' failed]
        by_cases isList : first.kind = .list
        · obtain ⟨_, word⟩ := first
          subst isList
          rw [Form.ofKind?, Option.some_inj] at known
          split at known <;> subst known
          · next dashed =>
            have begins : ∃ d ∈ behind.head?, d.kind = .forwardDash := by
              cases behind with
              | nil =>
                rw [Cursor.peek, List.head?_nil, Option.getD_none, ends] at dashed
                cases dashed
              | cons d behind => exact ⟨d, rfl, dashed⟩
            exact Form.message_told_listView accepting stops' begins word
          · exact Form.message_told_list stops' word
        · rw [explanation_of_kind (Form.usageAt?_of_ofKind? known isList) noNumber isList]
          exact Form.message_told known noNumber isList behind k
      · have noList : first.kind ≠ .list := by
          intro isList
          simp [isList] at number
        have usual := Form.usageAt?_of_ofKind? (k := k + 1) known noList
        exact Form.message_numbered rfl number usual failed

/-- The text of an error tells the command and the first token with which none goes on. -/
theorem message_of_parse_error {tokens : List Token} {refusal : Refusal} {c' : Cursor}
    (failed : (ofTokens tokens).parse = (.error refusal, c')) :
    ∃ front k, Opening tokens front ∧ BreaksOff (closed tokens) k ∧
      (∀ j, BreaksOff (closed tokens) j → j = k) ∧
      refusal.error.message = explanation front k := by
  have w := within_ofTokens tokens
  have refused : ∀ command, (ofTokens tokens).parse.1 ≠ .ok command := by
    intro command accepted
    rw [failed] at accepted
    cases accepted
  obtain ⟨k, stops, _⟩ := stopsAfter_of_parse_error w.unended failed
  have breaks := breaksOff_closed refused stops
  exact ⟨_, k, opening_iff_eq_takeWhile.mpr rfl, breaks, fun j other => other.unique breaks,
    message_of_stopsAfter w.unended w.ends stops failed⟩

/-- The missing date is what is told, also where the other one has a value. -/
theorem message_of_blank_start_date :
    let begun : List Token := [⟨.event, "event"⟩, ⟨.literal, "trip"⟩, ⟨.forwardDash, "/"⟩,
      ⟨.param, "from"⟩, ⟨.literal, " "⟩]
    let behind : List Token := [⟨.forwardDash, "/"⟩, ⟨.param, "to"⟩, ⟨.literal, "June"⟩]
    let refusal : Refusal := ⟨.missing .start .event, none⟩
    (ofTokens (begun ++ behind)).parse = (.error refusal, ⟨5, behind, Token.endOfCommand⟩) ∧
      ∃ front k, Opening (begun ++ behind) front ∧ BreaksOff (closed (begun ++ behind)) k ∧
        (∀ j, BreaksOff (closed (begun ++ behind)) j → j = k) ∧
        refusal.error.message = explanation front k := by
  intro begun behind refusal
  have failed : (ofTokens (begun ++ behind)).parse =
      (.error refusal, ⟨5, behind, Token.endOfCommand⟩) := by decide +kernel
  exact ⟨failed, message_of_parse_error failed⟩

end Cursor

end Taskbook
