import MailSearch.Calendar
import MailSearch.Proofs.Numeric.Digits
import Mathlib.Data.List.Basic
import Mathlib.Data.List.Forall2
import Mathlib.Data.Nat.Digits.Defs

/-!
# Date literals

A text is read as a date exactly if it has four digits of the year, two of the month and two of the
day, of whatever scripts, a separator between them, and perhaps a line feed at the end. A day of the
calendar is written in this shape, and its literal is read back as the day.
-/

namespace MailSearch

section Digits

variable {cs : List Char}

/-- An ASCII digit has the value of its place after the zero. -/
theorem digitValue?_of_isDigit {c : Char} (h : Literal.isDigit c) :
    Unicode.digitValue? c = some (c.toNat - 0x30) := by
  obtain ⟨hlow, hhigh⟩ := Literal.toNat_of_isDigit h
  have hzero : (if 0x30 ≤ c.toNat ∧ c.toNat < 0x30 + 10 then some (c.toNat - 0x30) else none) =
      some (c.toNat - 0x30) := if_pos (by omega)
  rw [Unicode.digitValue?, Unicode.zeroDigits, List.findSome?_cons, hzero]

/-- ASCII digits are read as what they stand for. -/
theorem readNumber?_of_isDigit (h : ∀ c ∈ cs, Literal.isDigit c) :
    Date.readNumber? cs = some (Literal.value cs) := by
  have hfrom (n : Nat) : cs.foldlM (fun n c ↦ (Unicode.digitValue? c).map (10 * n + ·)) n =
      some (cs.foldl (fun n c ↦ 10 * n + (c.toNat - 0x30)) n) := by
    induction cs generalizing n with
    | nil => rfl
    | cons c cs ih =>
      obtain ⟨hc, hcs⟩ := List.forall_mem_cons.mp h
      rw [List.foldlM_cons, digitValue?_of_isDigit hc, List.foldl_cons]
      exact ih hcs _
  exact hfrom 0

end Digits

namespace Date

/-- Whether the characters are decimal digits, of whatever scripts, that stand for a number. -/
def IsNumeral (cs : List Char) (n : Nat) : Prop :=
  ∃ values, List.Forall₂ (fun c value ↦ Unicode.digitValue? c = some value) cs values ∧
    Nat.ofDigits 10 values.reverse = n

/-- Whether a text has the shape of a date and its numbers are those of a day: four digits of the
year, two of the month and two of the day, a hyphen or slash between them, and perhaps a line feed
at the end. -/
def Names (cs : List Char) (d : Date) : Prop :=
  ∃ years s months t days finish, cs = years ++ s :: (months ++ t :: days) ++ finish ∧
    (years.length = 4 ∧ months.length = 2 ∧ days.length = 2) ∧
    ((s = '-' ∨ s = '/') ∧ (t = '-' ∨ t = '/') ∧ (finish = [] ∨ finish = ['\n'])) ∧
    ((∃ year : Nat, d.year = year ∧ IsNumeral years year) ∧ IsNumeral months d.month ∧
      IsNumeral days d.day)

section Shape

variable {cs : List Char} {d : Date}

/-- A number is read from left to right, each digit after ten times what stands in front of it. -/
theorem foldlM_digits_eq_some_iff (m n : Nat) :
    cs.foldlM (fun n c ↦ (Unicode.digitValue? c).map (10 * n + ·)) m = some n ↔
      ∃ values, List.Forall₂ (fun c value ↦ Unicode.digitValue? c = some value) cs values ∧
        values.foldl (fun n value ↦ 10 * n + value) m = n := by
  induction cs generalizing m with
  | nil => simp
  | cons c cs ih =>
    rw [List.foldlM_cons]
    cases hvalue : Unicode.digitValue? c with
    | none => simp [List.forall₂_cons_left_iff, hvalue]
    | some value => simp [List.forall₂_cons_left_iff, hvalue, ih]

/-- Characters are read as a number exactly if they are digits that stand for it. -/
theorem readNumber?_eq_some_iff (n : Nat) : readNumber? cs = some n ↔ IsNumeral cs n := by
  have hvalue (values : List Nat) :
      values.foldl (fun n value ↦ 10 * n + value) 0 = Nat.ofDigits 10 values.reverse := by
    rw [Nat.ofDigits_eq_foldr, List.foldr_reverse]
    simp only [Nat.cast_id, Nat.add_comm]
  rw [readNumber?, foldlM_digits_eq_some_iff]
  simp only [hvalue]
  rfl

/-- Only a line feed is dropped. -/
theorem exists_append_dropFinalNewline (cs : List Char) :
    ∃ finish, cs = dropFinalNewline cs ++ finish ∧ (finish = [] ∨ finish = ['\n']) := by
  unfold dropFinalNewline
  split
  · next hlast =>
    exact ⟨['\n'], (List.dropLast_append_getLast? _ hlast).symm, .inr rfl⟩
  · exact ⟨[], (List.append_nil cs).symm, .inl rfl⟩

/-- Nothing but a line feed at the end is dropped. -/
theorem dropFinalNewline_append {finish : List Char} (hlast : cs.getLast? ≠ some '\n')
    (hfinish : finish = [] ∨ finish = ['\n']) : dropFinalNewline (cs ++ finish) = cs := by
  rcases hfinish with rfl | rfl
  · rw [List.append_nil, dropFinalNewline, if_neg hlast]
  · rw [dropFinalNewline, if_pos List.getLast?_concat, List.dropLast_concat]

/-- A line feed is no digit. -/
theorem IsNumeral.newline_not_mem {n : Nat} (h : IsNumeral cs n) : '\n' ∉ cs := by
  obtain ⟨values, hvalues, -⟩ := h
  have hnone : Unicode.digitValue? '\n' = none := by decide
  induction hvalues with
  | nil => exact List.not_mem_nil
  | cons hvalue _ ih =>
    refine List.not_mem_cons_of_ne_of_not_mem ?_ ih
    rintro rfl
    exact nomatch hnone.symm.trans hvalue

/-- A text is read as numbers of a date exactly if it has the shape of a date and names the day of
these numbers. -/
theorem readShape?_eq_some_iff : readShape? cs = some d ↔ Names cs d := by
  constructor
  · intro h
    obtain ⟨finish, hcs, hfinish⟩ := exists_append_dropFinalNewline cs
    unfold readShape? at h
    split at h
    · next y₁ y₂ y₃ y₄ s m₁ m₂ t d₁ d₂ hshape =>
      split at h
      · next hseparators =>
        simp only [isSeparator, Bool.and_eq_true, Bool.or_eq_true, decide_eq_true_eq]
          at hseparators
        obtain ⟨year, hyear, h⟩ := Option.bind_eq_some_iff.mp h
        obtain ⟨month, hmonth, h⟩ := Option.bind_eq_some_iff.mp h
        obtain ⟨day, hday, h⟩ := Option.bind_eq_some_iff.mp h
        rw [readNumber?_eq_some_iff] at hyear hmonth hday
        obtain rfl := Option.some.inj h
        rw [hshape] at hcs
        exact ⟨[y₁, y₂, y₃, y₄], s, [m₁, m₂], t, [d₁, d₂], finish, hcs, ⟨rfl, rfl, rfl⟩,
          ⟨hseparators.1, hseparators.2, hfinish⟩, ⟨year, rfl, hyear⟩, hmonth, hday⟩
      · exact nomatch h
    · exact nomatch h
  · obtain ⟨_, month, day⟩ := d
    rintro ⟨years, s, months, t, days, finish, rfl, ⟨hyears, hmonths, hdays⟩, ⟨hs, ht, hfinish⟩,
      ⟨year, rfl, hyear⟩, hmonth, hday⟩
    match years, months, days with
    | [y₁, y₂, y₃, y₄], [m₁, m₂], [d₁, d₂] =>
      have hlast : [y₁, y₂, y₃, y₄, s, m₁, m₂, t, d₁, d₂].getLast? ≠ some '\n' := by
        intro hnewline
        exact hday.newline_not_mem (by simpa using .inr (Option.some.inj hnewline).symm)
      have hdrop := dropFinalNewline_append hlast hfinish
      have hseparators : isSeparator s && isSeparator t := by simp [isSeparator, hs, ht]
      rw [← readNumber?_eq_some_iff] at hyear hmonth hday
      simp only [List.cons_append, List.nil_append] at hdrop ⊢
      rw [readShape?, hdrop]
      simp only [hseparators, hyear, hmonth, hday, if_pos]
      rfl

end Shape

/-- The literal of a day: four digits, two and two, a separator between them. -/
def literal (separator : Char) (d : Date) : List Char :=
  (zeroPadded 4 d.year.toNat).toList ++ separator ::
    ((zeroPadded 2 d.month).toList ++ separator :: (zeroPadded 2 d.day).toList)

variable {d : Date} {separator : Char}

/-- The numbers of a day of the calendar take four digits and two at most. -/
theorem lt_of_isReal (h : d.isReal) :
    1 ≤ d.year ∧ d.year ≤ 9999 ∧ d.month ≤ 12 ∧ d.day ≤ 31 := by
  simp only [isReal, Bool.and_eq_true, decide_eq_true_eq] at h
  obtain ⟨⟨⟨⟨hfirst, hlast⟩, -⟩, -⟩, hday⟩ := h
  split at hday
  · next length hlength =>
    obtain ⟨hmonth, hget⟩ := List.getElem?_eq_some_iff.mp hlength
    have hlong : ∀ length ∈ monthLengths d.year, length ≤ 31 := by
      simp only [monthLengths, List.forall_mem_cons]
      split <;> decide
    have hle := hlong length (hget ▸ List.getElem_mem hmonth)
    have hday := of_decide_eq_true hday
    have htwelve : (monthLengths d.year).length = 12 := rfl
    omega
  · exact nomatch hday

/-- A literal is made of digits and the separator. -/
theorem mem_literal {c : Char} (h : c ∈ d.literal separator) :
    Literal.isDigit c ∨ c = separator := by
  simp only [literal, List.mem_append, List.mem_cons] at h
  rcases h with h | h | h | h | h
  · exact .inl (isDigit_of_mem_zeroPadded h)
  · exact .inr h
  · exact .inl (isDigit_of_mem_zeroPadded h)
  · exact .inr h
  · exact .inl (isDigit_of_mem_zeroPadded h)

/-- Four digits, two and two are read as the numbers that they stand for. -/
theorem readShape?_of_digits {years months days : List Char} (hs : isSeparator separator)
    (hyears : years.length = 4) (hmonths : months.length = 2) (hdays : days.length = 2)
    (hdigits : ∀ c ∈ years ++ months ++ days, Literal.isDigit c) :
    readShape? (years ++ separator :: (months ++ separator :: days)) =
      some ⟨Literal.value years, Literal.value months, Literal.value days⟩ := by
  have hseparator : separator = '-' ∨ separator = '/' := by
    simpa only [isSeparator, Bool.or_eq_true, decide_eq_true_eq] using hs
  have hnumeral {cs : List Char} (h : ∀ c ∈ cs, Literal.isDigit c) :
      IsNumeral cs (Literal.value cs) :=
    (readNumber?_eq_some_iff _).mp (readNumber?_of_isDigit h)
  simp only [List.forall_mem_append] at hdigits
  obtain ⟨⟨hyear, hmonth⟩, hday⟩ := hdigits
  exact readShape?_eq_some_iff.mpr ⟨years, separator, months, separator, days, [],
    (List.append_nil _).symm, ⟨hyears, hmonths, hdays⟩, ⟨hseparator, hseparator, .inl rfl⟩,
    ⟨_, rfl, hnumeral hyear⟩, hnumeral hmonth, hnumeral hday⟩

/-- The literal of a day of the calendar is read as the day. -/
theorem readShape?_literal (hd : d.isReal) (hs : isSeparator separator) :
    readShape? (d.literal separator) = some d := by
  obtain ⟨hfirst, hlast, hmonth, hday⟩ := lt_of_isReal hd
  have hyears : d.year.toNat < powerOfTen 4 := by
    change d.year.toNat < 10000
    omega
  have hmonths : d.month < powerOfTen 2 := by
    change d.month < 100
    omega
  have hdays : d.day < powerOfTen 2 := by
    change d.day < 100
    omega
  rw [literal, readShape?_of_digits hs (length_zeroPadded (by decide) hyears)
    (length_zeroPadded (by decide) hmonths) (length_zeroPadded (by decide) hdays)]
  · rw [value_zeroPadded, value_zeroPadded, value_zeroPadded, Int.toNat_of_nonneg (by omega)]
  · simp only [List.forall_mem_append]
    exact ⟨⟨fun _ ↦ isDigit_of_mem_zeroPadded, fun _ ↦ isDigit_of_mem_zeroPadded⟩,
      fun _ ↦ isDigit_of_mem_zeroPadded⟩

end Date

end MailSearch
