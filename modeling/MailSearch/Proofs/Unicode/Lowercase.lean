import MailSearch.Unicode.Lowercase

/-!
# Lower case is settled

No shift leads to a character that another shift moves, and the two mappings that are no
shifts do not either. So a character in lower case is its own lower case, wherever it stands, and
what is made of such characters stays as it is. A text of ASCII characters is taken to lower case
letter by letter. No text gets shorter in lower case, and capital I with a dot is the only character
that makes one longer.
-/

namespace MailSearch.Unicode

section Shift

/-- Whether a shift moves a code point. -/
structure CaseShift.Moves (s : CaseShift) (n : Nat) : Prop where
  first : s.first ≤ n
  last : n ≤ s.last
  step : (n - s.first) % s.step = 0

/-- A code point stays, or it goes where a shift moves it. -/
theorem shiftCase_cases (shifts : List CaseShift) (n : Nat) :
    shiftCase shifts n = n ∨
      ∃ s ∈ shifts, s.Moves n ∧ shiftCase shifts n = (n + s.shift).toNat := by
  induction shifts with
  | nil => exact .inl rfl
  | cons s shifts ih =>
    rw [shiftCase]
    split
    · exact .inl rfl
    · next hfirst =>
      split
      · next hmoved =>
        exact .inr ⟨s, List.mem_cons_self, ⟨by omega, hmoved.1, hmoved.2⟩, rfl⟩
      · exact ih.imp_right fun ⟨t, ht, hn⟩ ↦ ⟨t, List.mem_cons_of_mem s ht, hn⟩

/-- Whether no shift moves any of the code points from `low` to `high` in steps of `step`:
they lie apart from those of a shift, or among them where it moves only every second one. -/
def isFree (low high step : Nat) : List CaseShift → Bool
  | [] => true
  | s :: shifts =>
      high.blt s.first ||
        (s.last.blt low ||
            ((step.beq 2 || high.beq low) && s.step.beq 2 && ((low - s.first) % 2).beq 1)) &&
          isFree low high step shifts

/-- Free code points stay. -/
theorem shiftCase_eq_self {low high step n : Nat} {shifts : List CaseShift}
    (h : isFree low high step shifts) (hlow : low ≤ n) (hhigh : n ≤ high)
    (hstep : (n - low) % step = 0) : shiftCase shifts n = n := by
  induction shifts with
  | nil => rfl
  | cons s shifts ih =>
    rw [shiftCase]
    split
    · rfl
    · next hfirst =>
      simp only [isFree, Bool.or_eq_true, Bool.and_eq_true, Nat.blt_eq, Nat.beq_eq] at h
      obtain hbelow | ⟨hother, hfree⟩ := h
      · omega
      · split
        · next hmoved =>
          -- a shift that does not lie below moves the code points of the other parity
          obtain habove | ⟨⟨hlattice, hs⟩, hodd⟩ := hother
          · omega
          · rw [hs] at hmoved
            obtain rfl | hsingle := hlattice
            · omega
            · omega
        · exact ih hfree

/-- Whether a shift leads to characters that are their own lower case. -/
def CaseShift.isSettled (s : CaseShift) : Bool :=
  let low := (s.first + s.shift).toNat
  let high := (s.last + s.shift).toNat
  decide (0 ≤ s.first + s.shift) && (high.blt 0x130 || Nat.blt 0x130 low) &&
    (high.blt 0xD800 || Nat.blt 0xDFFF low && high.blt 0x110000) &&
    isFree low high s.step caseShifts

/-- All shifts lead to characters that are their own lower case. -/
theorem isSettled_caseShifts : ∀ s ∈ caseShifts, s.isSettled := by decide +kernel

end Shift

section Character

/-- A character is in lower case if it is its own lower case. -/
def IsLower (c : Char) : Prop := lowerChar c = [c]

instance : DecidablePred IsLower := fun c ↦ inferInstanceAs (Decidable (lowerChar c = [c]))

/-- Shifting a character leads to one that is its own lower case. -/
private theorem isLower_of_shift {s : CaseShift} (hs : s ∈ caseShifts) {n : Nat} (hn : s.Moves n) :
    IsLower (Char.ofNat (n + s.shift).toNat) := by
  have hsettled := isSettled_caseShifts s hs
  simp only [CaseShift.isSettled, Bool.and_eq_true, Bool.or_eq_true, Nat.blt_eq,
    decide_eq_true_eq] at hsettled
  obtain ⟨⟨⟨hpos, hdot⟩, hvalid⟩, hfree⟩ := hsettled
  have hfirst := hn.first
  have hlast := hn.last
  have hstep : ((n + s.shift).toNat - (s.first + s.shift).toNat) % s.step = 0 := by
    rw [← hn.step]
    congr 1
    omega
  have hshift := shiftCase_eq_self hfree (by omega) (by omega) hstep
  have hcode : (n + s.shift).toNat.isValidChar := by
    unfold Nat.isValidChar
    omega
  have hchar : (Char.ofNat (n + s.shift).toNat).toNat = (n + s.shift).toNat := by
    rw [Char.ofNat, dif_pos hcode]
    rfl
  unfold IsLower lowerChar
  rw [hchar, hshift, if_neg (by omega)]

/-- The lower case of a character is in lower case. -/
theorem isLower_of_mem_lowerChar {c d : Char} (h : d ∈ lowerChar c) : IsLower d := by
  unfold lowerChar at h
  split at h
  · rcases List.mem_cons.mp h with rfl | h
    · decide +kernel
    · obtain rfl := List.mem_singleton.mp h
      decide +kernel
  · next hdot =>
    obtain rfl := List.mem_singleton.mp h
    rcases shiftCase_cases caseShifts c.toNat with hsame | ⟨s, hs, hmoves, hshift⟩
    · rw [hsame, Char.ofNat_toNat]
      unfold IsLower lowerChar
      rw [if_neg hdot, hsame, Char.ofNat_toNat]
    · rw [hshift]
      exact isLower_of_shift hs hmoves

/-- A capital sigma is not in lower case. -/
theorem IsLower.ne_capitalSigma {c : Char} (h : IsLower c) : c ≠ capitalSigma := by
  rintro rfl
  exact absurd h (by decide +kernel)

end Character

section Text

/-- What is in lower case stays as it is, wherever it stands. -/
theorem lowerFrom_eq_self {cs : List Char} (h : ∀ c ∈ cs, IsLower c) (afterCased : Bool) :
    lowerFrom afterCased cs = cs := by
  induction cs generalizing afterCased with
  | nil => rfl
  | cons c cs ih =>
    obtain ⟨hc, hcs⟩ := List.forall_mem_cons.mp h
    rw [lowerFrom, if_neg hc.ne_capitalSigma, hc, ih hcs]
    rfl

/-- Lower case is made of characters in lower case. -/
theorem isLower_of_mem_lowerFrom {cs : List Char} {afterCased : Bool} {d : Char}
    (h : d ∈ lowerFrom afterCased cs) : IsLower d := by
  induction cs generalizing afterCased with
  | nil => exact absurd h List.not_mem_nil
  | cons c cs ih =>
    rw [lowerFrom] at h
    rcases List.mem_append.mp h with hhere | hrest
    · split at hhere
      · obtain rfl := List.mem_singleton.mp hhere
        split <;> decide +kernel
      · exact isLower_of_mem_lowerChar hhere
    · exact ih hrest

/-- What is in lower case is its own lower case. -/
theorem lowerChars_eq_self {cs : List Char} (h : ∀ c ∈ cs, IsLower c) : lowerChars cs = cs :=
  lowerFrom_eq_self h false

/-- A text in lower case is its own lower case. -/
theorem lowercase_eq_self {text : String} (h : ∀ c ∈ text.toList, IsLower c) :
    lowercase text = text := by
  rw [lowercase, lowerChars_eq_self h, String.ofList_toList]

/-- Capital I with a dot, which becomes an `i` and a dot above it. -/
def dottedCapital : Char := '\u0130'

/-- The lower case of a character is one character, or two if it is a dotted capital. -/
theorem length_lowerChar (c : Char) :
    (lowerChar c).length = 1 + if c = dottedCapital then 1 else 0 := by
  unfold lowerChar
  by_cases hdot : c = dottedCapital
  · simp [hdot, dottedCapital]
  · have hcode : c.toNat ≠ 0x130 := by
      intro hcode
      apply hdot
      rw [← Char.ofNat_toNat c, hcode]
      rfl
    simp [hdot, hcode]

/-- Lower case is longer by the number of dotted capitals. -/
theorem length_lowerFrom (afterCased : Bool) (cs : List Char) :
    (lowerFrom afterCased cs).length = cs.length + cs.count dottedCapital := by
  induction cs generalizing afterCased with
  | nil => rfl
  | cons c cs ih =>
    rw [lowerFrom, List.length_append, ih, List.length_cons, List.count_cons]
    by_cases hsigma : c = capitalSigma
    · have hdot : (capitalSigma == dottedCapital) = false := by decide
      simp [hsigma, hdot]
      omega
    · simp [hsigma, length_lowerChar]
      omega

/-- The lower case of a text is longer by the number of its dotted capitals. -/
theorem length_lowercase (text : String) :
    (lowercase text).length = text.length + text.toList.count dottedCapital := by
  rw [lowercase, String.length_ofList, lowerChars, length_lowerFrom, String.length_toList]

/-- A dotted capital is not in lower case. -/
theorem IsLower.ne_dottedCapital {c : Char} (h : IsLower c) : c ≠ dottedCapital := by
  rintro rfl
  exact absurd h (by decide +kernel)

end Text

section Ascii

/-- What holds of each code point of ASCII holds of the ASCII characters. -/
theorem forall_ascii {p : Char → Prop} (h : ∀ n < 128, p (Char.ofNat n)) {c : Char}
    (hc : c.toNat < 128) : p c := by
  rw [← Char.ofNat_toNat c]
  exact h c.toNat hc

/-- The lower case of an ASCII character is its letter. -/
theorem lowerChar_ascii {c : Char} (h : c.toNat < 128) : lowerChar c = [c.toLower] :=
  forall_ascii (p := fun c ↦ lowerChar c = [c.toLower]) (by decide +kernel) h

/-- ASCII characters are taken to lower case letter by letter, whatever stands around them. -/
theorem lowerFrom_ascii_append {cs : List Char} (h : ∀ c ∈ cs, c.toNat < 128) (afterCased : Bool)
    (rest : List Char) :
    ∃ later, lowerFrom afterCased (cs ++ rest) = cs.map Char.toLower ++ lowerFrom later rest := by
  induction cs generalizing afterCased with
  | nil => exact ⟨afterCased, rfl⟩
  | cons c cs ih =>
    obtain ⟨hc, hcs⟩ := List.forall_mem_cons.mp h
    have hsigma : c ≠ capitalSigma := by
      rintro rfl
      exact absurd hc (by decide)
    obtain ⟨later, hlater⟩ := ih hcs (if isCaseIgnorable c then afterCased else isCased c)
    refine ⟨later, ?_⟩
    rw [List.cons_append, lowerFrom, if_neg hsigma, lowerChar_ascii hc, hlater]
    rfl

/-- A text of ASCII characters is taken to lower case letter by letter. -/
theorem lowerChars_ascii {cs : List Char} (h : ∀ c ∈ cs, c.toNat < 128) :
    lowerChars cs = cs.map Char.toLower := by
  obtain ⟨later, hlater⟩ := lowerFrom_ascii_append h false []
  rwa [List.append_nil, lowerFrom, List.append_nil] at hlater

/-- A character whose letter is ASCII is ASCII. -/
theorem ascii_of_toLower {c : Char} (h : c.toLower.toNat < 128) : c.toNat < 128 := by
  unfold Char.toLower at h
  split at h
  · next hcapital =>
    have hlast : c.toNat ≤ 90 := hcapital.2
    omega
  · exact h

end Ascii

end MailSearch.Unicode
