import Taskbook.Date.Reading
import Taskbook.Proofs.Text.Words

/-! Dates as they are written, read back. A date can be written in five styles, the number of its day
and its month with or without a zero in front. Every style is read in its own layout: the layouts
tried before it stop at a mark that they do not have, or leave part of the year over. -/

set_option autoImplicit false

namespace Taskbook.Date

open Text

inductive Style where
  /-- `2024-10-01` -/
  | yearDashes
  /-- `2024/10/01` -/
  | yearSlashes
  /-- `01/10/2024` -/
  | daySlashes
  /-- `01-10-2024` -/
  | dayDashes
  /-- `Oct 01 2024` -/
  | monthName
  deriving DecidableEq, Repr

/-- A number in decimal, with zeros in front to fill a width. -/
def padded (width n : Nat) : List Char := (Nat.toDigits 10 n).leftpad width '0'

def shortName (month : Nat) : List Char :=
  (["Jan", "Feb", "Mar", "Apr", "May", "Jun", "Jul", "Aug", "Sep", "Oct", "Nov", "Dec"].getD
    (month - 1) "").toList

/-- A date written with four digits for the year, and at least so many for the month and the day. -/
def Style.write (style : Style) (monthWidth dayWidth : Nat) (d : Date) : List Char :=
  let year := padded 4 d.year.toNat
  let month := padded monthWidth d.month
  let day := padded dayWidth d.day
  match style with
  | .yearDashes => year ++ '-' :: (month ++ '-' :: day)
  | .yearSlashes => year ++ '/' :: (month ++ '/' :: day)
  | .daySlashes => day ++ '/' :: (month ++ '/' :: year)
  | .dayDashes => day ++ '-' :: (month ++ '-' :: year)
  | .monthName => shortName d.month ++ ' ' :: (day ++ ' ' :: year)

def Style.layout : Style → List Part
  | .yearDashes => [.year, .mark '-', .month, .mark '-', .day]
  | .yearSlashes => [.year, .mark '/', .month, .mark '/', .day]
  | .daySlashes => [.day, .mark '/', .month, .mark '/', .year]
  | .dayDashes => [.day, .mark '-', .month, .mark '-', .year]
  | .monthName => [.monthName, .gap, .day, .gap, .year]

/-- The layouts that are tried before that one. -/
def Style.before (style : Style) : List (List Part) :=
  layouts.takeWhile fun layout => layout ≠ style.layout

/-- Up to so many digits, and the number that they spell. -/
structure Numeral (width : Nat) (digits : List Char) (n : Nat) : Prop where
  nonempty : digits ≠ []
  ascii : ∀ c ∈ digits, c.isDigit = true
  fits : digits.length ≤ width
  value : decimal digits = n

section Numerals

variable {width width' n : Nat} {digits rest : List Char}

private theorem Numeral.mono (h : Numeral width digits n) (wider : width ≤ width') :
    Numeral width' digits n := ⟨h.nonempty, h.ascii, h.fits.trans wider, h.value⟩

private theorem Numeral.solid (h : Numeral width digits n) : ∀ c ∈ digits, isBlank c = false :=
  fun c hc => (blank_letter_of_isDigit (h.ascii c hc)).1

private theorem numeral_padded (wide : width ≤ width')
    (short : (Nat.toDigits 10 n).length ≤ width') :
    Numeral width' (padded width n) n where
  nonempty := by simp [padded, List.leftpad, Nat.toDigits_ne_nil]
  ascii c hc := by
    rcases List.mem_append.mp hc with zero | digit
    · rw [List.eq_of_mem_replicate zero]
      decide
    · exact Nat.isDigit_of_mem_toDigits (by decide) (by decide) digit
  fits := by
    rw [padded, List.leftpad, List.length_append, List.length_replicate]
    omega
  value := by
    change List.foldl _ 0 _ = n
    rw [← Nat.ofDigitChars_eq_foldl, padded, List.leftpad, Nat.ofDigitChars_append,
      Nat.ofDigitChars_replicate_zero, Nat.mul_zero, Nat.ofDigitChars_ten_toDigits]

private theorem length_padded (wide : (Nat.toDigits 10 n).length ≤ width) :
    (padded width n).length = width := by
  rw [padded, List.leftpad, List.length_append, List.length_replicate]
  omega

private theorem takeNumber?_append (h : Numeral width digits n)
    (stop : digits.length = width ∨ ∀ c ∈ rest.head?, c.isDigit = false) :
    takeNumber? (some width) (digits ++ rest) = some (n, rest) := by
  have taken : ((digits ++ rest).takeWhile Char.isDigit).take width = digits := by
    rcases stop with full | stop
    · rw [List.takeWhile_append_of_pos h.ascii, ← full, List.take_left]
    · rw [(span_append h.ascii stop).1, List.take_of_length_le h.fits]
  simp only [takeNumber?, taken]
  rw [if_neg (by simpa using h.nonempty), h.value, List.drop_left]

private theorem Numeral.head (h : Numeral width digits n) : ∀ c ∈ (digits ++ rest).head?,
    c.isDigit = true := by
  intro c hc
  rw [List.head?_append_of_ne_nil _ h.nonempty] at hc
  exact h.ascii c (List.mem_of_mem_head? hc)

private theorem trimStart_append (h : Numeral width digits n) (rest : List Char) :
    trimStart (digits ++ rest) = digits ++ rest :=
  trimStart_of_head fun c hc => (blank_letter_of_isDigit (h.head c hc)).1

end Numerals

section Parts

variable {digits rest : List Char} {n : Nat} {part : Part} {parts : List Part}
  {seen seen' : Numbers}

private theorem readParts_cons_of_some (read : readPart part seen digits = some (seen', rest)) :
    readParts (part :: parts) seen digits = readParts parts seen' rest := by
  rw [readParts, read]

private theorem readParts_cons_of_none (unread : readPart part seen digits = none) :
    readParts (part :: parts) seen digits = none := by
  rw [readParts, unread]

private theorem readParts_month (h : Numeral 2 digits n)
    (stop : digits.length = 2 ∨ ∀ c ∈ rest.head?, c.isDigit = false) :
    readParts (.month :: parts) seen (digits ++ rest) =
      readParts parts { seen with month := n } rest := by
  apply readParts_cons_of_some
  rw [readPart, trimStart_append h, takeNumber?_append h stop]
  rfl

private theorem readParts_day (h : Numeral 2 digits n)
    (stop : digits.length = 2 ∨ ∀ c ∈ rest.head?, c.isDigit = false) :
    readParts (.day :: parts) seen (digits ++ rest) =
      readParts parts { seen with day := n } rest := by
  apply readParts_cons_of_some
  rw [readPart, trimStart_append h, takeNumber?_append h stop]
  rfl

private theorem readParts_year (h : Numeral 4 digits n)
    (stop : digits.length = 4 ∨ ∀ c ∈ rest.head?, c.isDigit = false) :
    readParts (.year :: parts) seen (digits ++ rest) =
      readParts parts { seen with year := n } rest := by
  have unsigned {sign : Char} {behind : List Char} (noDigit : sign.isDigit = false)
      (signed : digits ++ rest = sign :: behind) : False := by
    have digit := h.head sign (by rw [signed]; rfl)
    rw [noDigit] at digit
    cases digit
  apply readParts_cons_of_some
  rw [readPart, trimStart_append h, takeYear?, takeNumber?_append h stop]
  · rfl
  · exact fun _ => unsigned (by decide)
  · exact fun _ => unsigned (by decide)

private theorem readParts_mark (mark : Char) (rest : List Char) :
    readParts (.mark mark :: parts) seen (mark :: rest) = readParts parts seen rest := by
  apply readParts_cons_of_some
  rw [readPart, if_pos rfl]

private theorem readParts_other_mark {mark mark' : Char} (other : mark' ≠ mark) (rest : List Char) :
    readParts (.mark mark :: parts) seen (mark' :: rest) = none := by
  apply readParts_cons_of_none
  rw [readPart, if_neg other]

private theorem readParts_gap {width : Nat} (h : Numeral width digits n) (rest : List Char) :
    readParts (.gap :: parts) seen (' ' :: (digits ++ rest)) =
      readParts parts seen (digits ++ rest) := by
  have space : trimStart (' ' :: (digits ++ rest)) = trimStart (digits ++ rest) :=
    List.dropWhile_cons_of_pos (by decide)
  apply readParts_cons_of_some
  rw [readPart, space, trimStart_append h]

private theorem readParts_last_day (h : Numeral 2 digits n) :
    readParts [.day] seen digits = some { seen with day := n } := by
  have read : readParts [.day] seen (digits ++ []) = _ := readParts_day h (.inr (by simp))
  rw [List.append_nil] at read
  exact read

private theorem readParts_last_year (h : Numeral 4 digits n) :
    readParts [.year] seen digits = some { seen with year := n } := by
  have read : readParts [.year] seen (digits ++ []) = _ := readParts_year h (.inr (by simp))
  rw [List.append_nil] at read
  exact read

private theorem readParts_last_day_of_long (h : Numeral 4 digits n) (long : 2 < digits.length) :
    readParts [.day] seen digits = none := by
  have front : Numeral 2 (digits.take 2) (decimal (digits.take 2)) := by
    refine ⟨?_, fun c hc => h.ascii c (List.mem_of_mem_take hc), ?_, rfl⟩
    · rw [ne_eq, List.take_eq_nil_iff, not_or]
      exact ⟨by decide, h.nonempty⟩
    · exact List.length_take_le 2 digits
  have cut : (digits.take 2).length = 2 := List.length_take_of_le (by omega)
  have left : (digits.drop 2).isEmpty = false := by
    rw [List.isEmpty_eq_false_iff, ne_eq, List.drop_eq_nil_iff]
    omega
  rw [← List.take_append_drop 2 digits, readParts_day front (.inl cut), readParts, left]
  rfl

end Parts

section Layouts

variable {year month day rest : List Char} {y m d : Nat} {mark mark' : Char} {parts : List Part}

private theorem stop_at (noDigit : mark.isDigit = false) : ∀ c ∈ (mark :: rest).head?,
    c.isDigit = false := by
  rintro c ⟨⟩
  exact noDigit

private theorem readLayout_yearFirst (hy : Numeral 4 year y) (hm : Numeral 2 month m)
    (hd : Numeral 2 day d) (noDigit : mark.isDigit = false) :
    readLayout [.year, .mark mark, .month, .mark mark, .day]
      (year ++ mark :: (month ++ mark :: day)) = ofNumbers? y m d := by
  rw [readLayout, readParts_year hy (.inr (stop_at noDigit)), readParts_mark,
    readParts_month hm (.inr (stop_at noDigit)), readParts_mark, readParts_last_day hd]

private theorem readLayout_dayFirst (hy : Numeral 4 year y) (hm : Numeral 2 month m)
    (hd : Numeral 2 day d) (noDigit : mark.isDigit = false) :
    readLayout [.day, .mark mark, .month, .mark mark, .year]
      (day ++ mark :: (month ++ mark :: year)) = ofNumbers? y m d := by
  rw [readLayout, readParts_day hd (.inr (stop_at noDigit)), readParts_mark,
    readParts_month hm (.inr (stop_at noDigit)), readParts_mark, readParts_last_year hy]

/-- Read with the year first, a day is a year of one or two digits, and the year is too long for a
day. -/
private theorem readLayout_yearFirst_of_dayFirst (hy : Numeral 4 year y) (full : year.length = 4)
    (hm : Numeral 2 month m) (hd : Numeral 2 day d) (noDigit : mark.isDigit = false) :
    readLayout [.year, .mark mark, .month, .mark mark, .day]
      (day ++ mark :: (month ++ mark :: year)) = none := by
  rw [readLayout, readParts_year (hd.mono (by decide)) (.inr (stop_at noDigit)), readParts_mark,
    readParts_month hm (.inr (stop_at noDigit)), readParts_mark,
    readParts_last_day_of_long hy (by omega)]

private theorem readLayout_year_other_mark (hy : Numeral 4 year y) (noDigit : mark'.isDigit = false)
    (other : mark' ≠ mark) :
    readLayout (.year :: .mark mark :: parts) (year ++ mark' :: rest) = none := by
  rw [readLayout, readParts_year hy (.inr (stop_at noDigit)), readParts_other_mark other]

private theorem readLayout_day_other_mark (hd : Numeral 2 day d) (noDigit : mark'.isDigit = false)
    (other : mark' ≠ mark) :
    readLayout (.day :: .mark mark :: parts) (day ++ mark' :: rest) = none := by
  rw [readLayout, readParts_day hd (.inr (stop_at noDigit)), readParts_other_mark other]

end Layouts

section MonthName

variable {month day : Nat} {rest : List Char} {parts : List Part} {seen : Numbers}

private theorem of_shortName (first : 1 ≤ month) (last : month ≤ 12) :
    (shortName month).length = 3 ∧
      monthNames.idxOf? ((shortName month).map Char.toLower) = some (month - 1) ∧
      (shortName month).all Char.isAlpha = true := by
  have table : ∀ n < 13, 1 ≤ n → (shortName n).length = 3 ∧
      monthNames.idxOf? ((shortName n).map Char.toLower) = some (n - 1) ∧
      (shortName n).all Char.isAlpha = true := by
    decide +kernel
  exact table month (by omega) first

private theorem readParts_monthName (first : 1 ≤ month) (last : month ≤ 12) :
    readParts (.monthName :: parts) seen (shortName month ++ rest) =
      readParts parts { seen with month := month } rest := by
  obtain ⟨three, found, _⟩ := of_shortName first last
  have named : takeMonthName? (shortName month ++ rest) = some (month, rest) := by
    rw [takeMonthName?, ← three, List.take_left, found, List.drop_left]
    simp only [Nat.sub_add_cancel first]
  apply readParts_cons_of_some
  rw [readPart, named]
  rfl

private theorem takeNumber?_of_letter {c : Char} (letter : c.isAlpha = true) (width : Option Nat) :
    takeNumber? width (c :: rest) = none := by
  have noDigits : (c :: rest).takeWhile Char.isDigit = [] :=
    List.takeWhile_cons_of_neg (by simp [(blank_digit_of_isAlpha letter).2])
  unfold takeNumber?
  rw [noDigits]
  cases width with
  | none => rfl
  | some n => simp

private theorem readPart_of_letter {c : Char} (letter : c.isAlpha = true) :
    readPart .year seen (c :: rest) = none ∧ readPart .day seen (c :: rest) = none := by
  have stays : trimStart (c :: rest) = c :: rest :=
    List.dropWhile_cons_of_neg (by simp [(blank_digit_of_isAlpha letter).1])
  have unsigned {sign : Char} (noLetter : sign.isAlpha = false) (behind : List Char)
      (signed : c :: rest = sign :: behind) : False := by
    rw [(List.cons.inj signed).1, noLetter] at letter
    cases letter
  constructor
  · rw [readPart, stays, takeYear?, takeNumber?_of_letter letter]
    · rfl
    · exact unsigned (by decide)
    · exact unsigned (by decide)
  · rw [readPart, stays, takeNumber?_of_letter letter]
    rfl

private theorem readLayout_of_monthName (first : 1 ≤ month) (last : month ≤ 12) :
    readLayout (.year :: parts) (shortName month ++ rest) = none ∧
      readLayout (.day :: parts) (shortName month ++ rest) = none := by
  obtain ⟨three, _, letters⟩ := of_shortName first last
  have long : 0 < (shortName month).length := by omega
  obtain ⟨c, behind, name⟩ := List.exists_cons_of_length_pos long
  have letter : c.isAlpha = true := List.all_eq_true.mp letters c (by simp [name])
  have unread (seen : Numbers) : readPart .year seen (c :: (behind ++ rest)) = none ∧
      readPart .day seen (c :: (behind ++ rest)) = none := readPart_of_letter letter
  rw [name, List.cons_append, readLayout, readLayout, readParts_cons_of_none (unread _).1,
    readParts_cons_of_none (unread _).2]
  exact ⟨rfl, rfl⟩

private theorem readLayout_monthName {y d : Nat} {year day : List Char} (hy : Numeral 4 year y)
    (first : 1 ≤ month) (last : month ≤ 12) (hd : Numeral 2 day d) :
    readLayout [.monthName, .gap, .day, .gap, .year]
      (shortName month ++ ' ' :: (day ++ ' ' :: year)) = ofNumbers? y month d := by
  have space : ∀ c ∈ (' ' :: year).head?, c.isDigit = false := by
    rintro c ⟨⟩
    decide
  have lastGap (seen : Numbers) : readParts [.gap, .year] seen (' ' :: year) =
      readParts [.year] seen year := by
    have gap : readParts [.gap, .year] seen (' ' :: (year ++ [])) = _ := readParts_gap hy []
    rw [List.append_nil] at gap
    exact gap
  rw [readLayout, readParts_monthName first last, readParts_gap hd, readParts_day hd (.inr space),
    lastGap, readParts_last_year hy]

end MonthName

section Write

variable {d : Date} {monthWidth dayWidth : Nat}

private theorem IsReal.bounds (real : d.IsReal) : 1 ≤ d.month ∧ d.month ≤ 12 ∧ d.day ≤ 31 := by
  obtain ⟨first, last⟩ := real
  unfold daysInMonth at last
  split at last
  · split at last <;> omega
  all_goals omega

private theorem isReal_of_ofText? {text : String} (read : ofText? text = some d) : d.IsReal := by
  obtain ⟨layout, _, read⟩ := List.exists_of_findSome?_eq_some read
  rw [readLayout] at read
  split at read
  · exact isReal_of_ofNumbers? read
  · cases read

private theorem isTrimmed_of_ends {front mid back : List Char} (mark : Char) (filled : front ≠ [])
    (filled' : back ≠ []) (solid : ∀ c ∈ front, isBlank c = false)
    (solid' : ∀ c ∈ back, isBlank c = false) :
    IsTrimmed (front ++ mark :: (mid ++ mark :: back)) where
  head c hc := by
    rw [List.head?_append_of_ne_nil _ filled] at hc
    exact solid c (List.mem_of_mem_head? hc)
  last c hc := by
    have whole : front ++ mark :: (mid ++ mark :: back) =
        (front ++ mark :: (mid ++ [mark])) ++ back := by simp
    rw [whole, List.getLast?_append_of_ne_nil _ filled'] at hc
    exact solid' c (List.mem_of_getLast? hc)

structure Digits (d : Date) (year month day : List Char) : Prop where
  ofYear : Numeral 4 year d.year.toNat
  full : year.length = 4
  ofMonth : Numeral 2 month d.month
  ofDay : Numeral 2 day d.day

private theorem digits_padded (real : d.IsReal) (fourDigits : d.year ≤ 9999)
    (narrow : monthWidth ≤ 2) (narrow' : dayWidth ≤ 2) :
    Digits d (padded 4 d.year.toNat) (padded monthWidth d.month) (padded dayWidth d.day) := by
  obtain ⟨_, lastMonth, lastDay⟩ := real.bounds
  have short {n : Nat} (small : n < 100) : (Nat.toDigits 10 n).length ≤ 2 :=
    (Nat.length_toDigits_le_iff (by decide) (by decide)).mpr small
  have year : (Nat.toDigits 10 d.year.toNat).length ≤ 4 :=
    (Nat.length_toDigits_le_iff (by decide) (by decide)).mpr (by omega)
  exact {
    ofYear := numeral_padded (Nat.le_refl 4) year
    full := length_padded year
    ofMonth := numeral_padded narrow (short (by omega))
    ofDay := numeral_padded narrow' (short (by omega)) }

private theorem ofNumbers?_of_isReal (real : d.IsReal) (fromZero : 0 ≤ d.year)
    (fourDigits : d.year ≤ 9999) : ofNumbers? d.year.toNat d.month d.day = some d := by
  obtain ⟨firstDay, lastDay⟩ := real
  rw [Int.toNat_of_nonneg fromZero, ofNumbers?, if_pos]
  unfold firstYear lastYear
  omega

private theorem Style.isTrimmed_write (style : Style) (real : d.IsReal)
    (digits : Digits d (padded 4 d.year.toNat) (padded monthWidth d.month) (padded dayWidth d.day)) :
    IsTrimmed (style.write monthWidth dayWidth d) := by
  obtain ⟨hy, _, _, hd⟩ := digits
  cases style with
  | yearDashes => exact isTrimmed_of_ends '-' hy.nonempty hd.nonempty hy.solid hd.solid
  | yearSlashes => exact isTrimmed_of_ends '/' hy.nonempty hd.nonempty hy.solid hd.solid
  | daySlashes => exact isTrimmed_of_ends '/' hd.nonempty hy.nonempty hd.solid hy.solid
  | dayDashes => exact isTrimmed_of_ends '-' hd.nonempty hy.nonempty hd.solid hy.solid
  | monthName =>
    obtain ⟨first, last, _⟩ := real.bounds
    obtain ⟨three, _, letters⟩ := of_shortName first last
    have filled : shortName d.month ≠ [] := List.ne_nil_of_length_pos (by omega)
    have solid : ∀ c ∈ shortName d.month, isBlank c = false :=
      fun c hc => (blank_digit_of_isAlpha (List.all_eq_true.mp letters c hc)).1
    exact isTrimmed_of_ends ' ' filled hy.nonempty solid hy.solid

private theorem Style.readLayout_write (style : Style) (real : d.IsReal)
    (digits : Digits d (padded 4 d.year.toNat) (padded monthWidth d.month) (padded dayWidth d.day)) :
    readLayout style.layout (style.write monthWidth dayWidth d) =
      ofNumbers? d.year.toNat d.month d.day := by
  obtain ⟨hy, _, hm, hd⟩ := digits
  cases style with
  | yearDashes => exact readLayout_yearFirst hy hm hd (by decide)
  | yearSlashes => exact readLayout_yearFirst hy hm hd (by decide)
  | daySlashes => exact readLayout_dayFirst hy hm hd (by decide)
  | dayDashes => exact readLayout_dayFirst hy hm hd (by decide)
  | monthName =>
    obtain ⟨first, last, _⟩ := real.bounds
    exact readLayout_monthName hy first last hd

/-- No style is read in a layout that is tried before its own. -/
private theorem Style.readLayout_write_before (style : Style) (real : d.IsReal)
    (digits : Digits d (padded 4 d.year.toNat) (padded monthWidth d.month) (padded dayWidth d.day)) :
    ∀ layout ∈ style.before, readLayout layout (style.write monthWidth dayWidth d) = none := by
  obtain ⟨hy, full, hm, hd⟩ := digits
  have noDash : '-'.isDigit = false := by decide
  have noSlash : '/'.isDigit = false := by decide
  cases style with
  | yearDashes =>
    have first : yearDashes.before = [] := rfl
    simp [first]
  | yearSlashes =>
    have one : yearSlashes.before = [yearDashes.layout] := rfl
    rw [one, List.forall_mem_singleton]
    exact readLayout_year_other_mark hy noSlash (by decide)
  | daySlashes =>
    have two : daySlashes.before = [yearDashes.layout, yearSlashes.layout] := rfl
    rw [two, List.forall_mem_cons, List.forall_mem_singleton]
    exact ⟨readLayout_year_other_mark (hd.mono (by decide)) noSlash (by decide),
      readLayout_yearFirst_of_dayFirst hy full hm hd noSlash⟩
  | dayDashes =>
    have three : dayDashes.before =
        [yearDashes.layout, yearSlashes.layout, daySlashes.layout] := rfl
    rw [three, List.forall_mem_cons, List.forall_mem_cons, List.forall_mem_singleton]
    exact ⟨readLayout_yearFirst_of_dayFirst hy full hm hd noDash,
      readLayout_year_other_mark (hd.mono (by decide)) noDash (by decide),
      readLayout_day_other_mark hd noDash (by decide)⟩
  | monthName =>
    obtain ⟨first, last, _⟩ := real.bounds
    have four : monthName.before =
        [yearDashes.layout, yearSlashes.layout, daySlashes.layout, dayDashes.layout] := rfl
    rw [four, List.forall_mem_cons, List.forall_mem_cons, List.forall_mem_cons,
      List.forall_mem_singleton]
    exact ⟨(readLayout_of_monthName first last).1, (readLayout_of_monthName first last).1,
      (readLayout_of_monthName first last).2, (readLayout_of_monthName first last).2⟩

private theorem Style.exists_layouts_eq (style : Style) :
    ∃ behind, layouts = style.before ++ style.layout :: behind := by
  cases style <;> exact ⟨_, rfl⟩

private theorem ofText?_write (style : Style) {front back : List Char} (real : d.IsReal)
    (fromZero : 0 ≤ d.year) (fourDigits : d.year ≤ 9999) (narrow : monthWidth ≤ 2)
    (narrow' : dayWidth ≤ 2) (blank : ∀ c ∈ front, isBlank c = true)
    (blank' : ∀ c ∈ back, isBlank c = true) :
    let text := String.ofList (front ++ style.write monthWidth dayWidth d ++ back)
    ofText? text = some d ∧
      ∀ layout ∈ style.before, readLayout layout (trim text.toList) = none := by
  have digits := digits_padded real fourDigits narrow narrow'
  intro text
  have written : trim text.toList = style.write monthWidth dayWidth d := by
    rw [String.toList_ofList,
      trim_append_append front back (style.isTrimmed_write real digits) blank blank']
  have unread := style.readLayout_write_before real digits
  obtain ⟨behind, inOrder⟩ := style.exists_layouts_eq
  rw [ofText?, written]
  refine ⟨List.findSome?_eq_some_iff.mpr ⟨style.before, style.layout, behind, inOrder, ?_, unread⟩,
    unread⟩
  rw [style.readLayout_write real digits, ofNumbers?_of_isReal real fromZero fourDigits]

end Write

/-- A date of the years 0 to 9999 is read back from each style, with the zeros in front or without
them and whatever whitespace is around it, and no layout before that of the style fits; and every
date that is read, from whatever text, is one that the calendar has. -/
theorem ofText?_reads_written :
    (∀ (d : Date) (style : Style) (monthWidth dayWidth : Nat) (front back : List Char),
      d.IsReal → 0 ≤ d.year → d.year ≤ 9999 → monthWidth ≤ 2 → dayWidth ≤ 2 →
      (∀ c ∈ front, isBlank c = true) → (∀ c ∈ back, isBlank c = true) →
      let text := String.ofList (front ++ style.write monthWidth dayWidth d ++ back)
      ofText? text = some d ∧
        ∀ layout ∈ style.before, readLayout layout (trim text.toList) = none) ∧
    ∀ (text : String) (d : Date), ofText? text = some d →
      1 ≤ d.month ∧ d.month ≤ 12 ∧ 1 ≤ d.day ∧ d.day ≤ daysInMonth d.year d.month := by
  refine ⟨?_, ?_⟩
  · intro d style monthWidth dayWidth front back real fromZero fourDigits narrow narrow' blank blank'
    exact ofText?_write style real fromZero fourDigits narrow narrow' blank blank'
  · intro text d read
    have real := isReal_of_ofText? read
    obtain ⟨first, last, _⟩ := real.bounds
    exact ⟨first, last, real⟩

/-- A leap day with the day first, which is tried as a year before. -/
theorem ofText?_reads_written_leap_day :
    let d : Date := ⟨2024, 2, 29⟩
    (d.IsReal ∧ 0 ≤ d.year ∧ d.year ≤ 9999 ∧ isBlank '\t' = true ∧ isBlank ' ' = true) ∧
      (ofText? "\t29/2/2024 " = some d ∧ ∀ layout ∈ Style.daySlashes.before,
        readLayout layout (trim "\t29/2/2024 ".toList) = none) ∧
      1 ≤ d.month ∧ d.month ≤ 12 ∧ 1 ≤ d.day ∧ d.day ≤ daysInMonth d.year d.month := by
  intro d
  have real : d.IsReal := by
    unfold IsReal
    decide
  have fromZero : 0 ≤ d.year := by decide
  have fourDigits : d.year ≤ 9999 := by decide
  have tab : isBlank '\t' = true := by decide
  have space : isBlank ' ' = true := by decide
  have text : String.ofList (['\t'] ++ Style.daySlashes.write 1 2 d ++ [' ']) = "\t29/2/2024 " := by
    decide +kernel
  have read := ofText?_reads_written.1 d .daySlashes 1 2 ['\t'] [' '] real fromZero fourDigits
    (by decide) (by decide) (List.forall_mem_singleton.mpr tab) (List.forall_mem_singleton.mpr space)
  rw [text] at read
  exact ⟨⟨real, fromZero, fourDigits, tab, space⟩, read, ofText?_reads_written.2 _ _ read.1⟩

end Taskbook.Date
