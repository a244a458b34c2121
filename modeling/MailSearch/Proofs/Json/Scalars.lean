import MailSearch.Json.Reader
import MailSearch.Json.Writer
import MailSearch.Proofs.Numeric.Digits

/-!
# Texts and numbers of a document

What the writer puts down for a text or an integer, the reader takes up again, and stops
right behind it. A text ends at its closing quote; an integer ends where something stands
that no number goes on with.
-/

namespace MailSearch.Json

section Text

private theorem unitText_control : ∀ n < 0x20,
    unitText n = ['\\', 'u', '0', '0', (n / 16).digitChar, (n % 16).digitChar] := by
  decide +kernel

private theorem hexNumber?_control : ∀ n < 0x20,
    hexNumber? ['0', '0', (n / 16).digitChar, (n % 16).digitChar] = some n := by
  decide +kernel

/-- A character that was written inside quotes is read back. -/
theorem readText_writeChar (start fuel offset : Nat) (c : Char) {more : List Char}
    (hmore : more ≠ []) (done : List Char) :
    readText start (fuel + 1) ⟨writeChar false c ++ more, offset⟩ done =
      readText start fuel ⟨more, offset + (writeChar false c).length⟩ (c :: done) := by
  unfold writeChar
  split
  · rfl
  · rfl
  · rfl
  · rfl
  · rfl
  · rfl
  · rfl
  · next hquote hslash hfeed hreturn htab hback hform =>
    dsimp only
    split
    · next hcontrol =>
      obtain ⟨next, later, rfl⟩ := List.exists_cons_of_ne_nil hmore
      rw [unitText_control _ hcontrol, readText]
      have hlow : ¬ 0xD800 ≤ c.toNat := by omega
      have hhigh : ¬ 0xDC00 ≤ c.toNat := by omega
      simp [hexNumber?_control _ hcontrol, hlow, hhigh, Cursor.advance, Char.ofNat_toNat]
    · next hcontrol =>
      simp only [Bool.not_false, Bool.true_or, ↓reduceIte]
      rw [List.singleton_append, readText]
      dsimp only
      split
      · next h => exact absurd h (List.cons_ne_nil _ _)
      · next h => exact absurd (List.cons.inj h).1 hquote
      · next h => exact absurd (List.cons.inj h).1 hslash
      · next h => exact absurd (List.cons.inj h).1 hslash
      · next h => exact absurd (List.cons.inj h).1 hslash
      · next h =>
        obtain ⟨rfl, -⟩ := List.cons.inj h
        rw [if_neg hcontrol]
        rfl

private theorem not_mem_unitText_control : ∀ n < 0x20, '\r' ∉ unitText n := by decide +kernel

/-- No carriage return is written for a character inside quotes. -/
theorem not_mem_writeChar (c : Char) : '\r' ∉ writeChar false c := by
  unfold writeChar
  split
  · decide
  · decide
  · decide
  · decide
  · decide
  · decide
  · decide
  · next hreturn _ _ _ =>
    dsimp only
    split
    · next hcontrol => exact not_mem_unitText_control _ hcontrol
    · simp only [Bool.not_false, Bool.true_or, ↓reduceIte, List.mem_singleton]
      exact fun h ↦ hreturn h.symm

private theorem writeChar_ne_nil (c : Char) : writeChar false c ≠ [] := by
  unfold writeChar
  split
  case h_8 =>
    dsimp only
    split
    · exact List.cons_ne_nil _ _
    · simp
  all_goals exact List.cons_ne_nil _ _

/-- At least one character is written for each character inside quotes. -/
theorem length_le_written (cs : List Char) : cs.length ≤ (cs.flatMap (writeChar false)).length := by
  induction cs with
  | nil => exact Nat.le_refl 0
  | cons c cs ih =>
    have hc : 0 < (writeChar false c).length := List.length_pos_iff.mpr (writeChar_ne_nil c)
    rw [List.flatMap_cons, List.length_append, List.length_cons]
    omega

/-- A text that was written in quotes is read back up to the closing one. -/
theorem readText_written (start fuel offset : Nat) (cs rest done : List Char)
    (hfuel : cs.length < fuel) :
    readText start fuel ⟨cs.flatMap (writeChar false) ++ '"' :: rest, offset⟩ done =
      .ok (String.ofList (done.reverse ++ cs),
        ⟨rest, offset + (cs.flatMap (writeChar false)).length + 1⟩) := by
  induction cs generalizing fuel offset done with
  | nil =>
    obtain ⟨fuel, rfl⟩ := Nat.exists_eq_succ_of_ne_zero (Nat.ne_of_gt hfuel)
    rw [List.append_nil]
    rfl
  | cons c cs ih =>
    obtain ⟨fuel, rfl⟩ := Nat.exists_eq_succ_of_ne_zero (Nat.ne_of_gt (Nat.zero_lt_of_lt hfuel))
    rw [List.flatMap_cons, List.append_assoc, readText_writeChar _ _ _ _ (by simp),
      ih fuel _ _ (Nat.lt_of_succ_lt_succ hfuel), List.length_append, List.reverse_cons,
      List.append_assoc, List.singleton_append, Nat.add_assoc offset]

end Text

section Number

/-- What may follow a value: nothing, or what ends an item, a list or an object. -/
def isEnd (rest : List Char) : Bool := rest.head?.all [',', ']', '\x7d'].contains

private theorem isEnd_cases {rest : List Char} (h : isEnd rest) :
    rest = [] ∨ ∃ c more, rest = c :: more ∧ (c = ',' ∨ c = ']' ∨ c = '\x7d') := by
  cases rest with
  | nil => exact Or.inl rfl
  | cons c more => exact Or.inr ⟨c, more, rfl, by simpa [isEnd] using h⟩

private theorem fractionPart_end {rest : List Char} (h : isEnd rest) : fractionPart rest = [] := by
  rcases isEnd_cases h with rfl | ⟨c, more, rfl, rfl | rfl | rfl⟩ <;> rfl

private theorem exponentPart_end {rest : List Char} (h : isEnd rest) : exponentPart rest = [] := by
  rcases isEnd_cases h with rfl | ⟨c, more, rfl, rfl | rfl | rfl⟩ <;> rfl

private theorem takeWhile_isDigit_end {rest : List Char} (h : isEnd rest) :
    rest.takeWhile Literal.isDigit = [] := by
  rcases isEnd_cases h with rfl | ⟨c, more, rfl, rfl | rfl | rfl⟩ <;> rfl

private theorem integerPart?_digitsOf (n : Nat) {rest : List Char} (h : isEnd rest) :
    integerPart? (digitsOf n ++ rest) = some (digitsOf n) := by
  unfold integerPart?
  split
  · next hzero =>
    have hcons : ∃ cs, digitsOf n = '0' :: cs := by
      cases hdigits : digitsOf n with
      | nil => exact absurd hdigits (digitsOf_ne_nil n)
      | cons c cs =>
        rw [hdigits, List.cons_append] at hzero
        exact ⟨cs, by rw [(List.cons.inj hzero).1]⟩
    obtain ⟨cs, hcs⟩ := hcons
    rw [eq_zero_of_digitsOf_eq_cons hcs]
    rfl
  · have hdigits : (digitsOf n ++ rest).takeWhile Literal.isDigit = digitsOf n := by
      rw [List.takeWhile_append_of_pos fun c hc ↦ isDigit_of_mem_digitsOf hc,
        takeWhile_isDigit_end h, List.append_nil]
    dsimp only
    rw [hdigits, if_neg (digitsOf_ne_nil n)]


private theorem head?_digitsOf_append (n : Nat) (rest : List Char) :
    (digitsOf n ++ rest).head? ≠ some '-' := by
  intro h
  cases hdigits : digitsOf n with
  | nil => exact absurd hdigits (digitsOf_ne_nil n)
  | cons c cs =>
    rw [hdigits, List.cons_append, List.head?_cons, Option.some.injEq] at h
    have hc : Literal.isDigit c := isDigit_of_mem_digitsOf (hdigits ▸ List.mem_cons_self)
    rw [h] at hc
    exact absurd hc (by decide)

private theorem readNumber_digitsOf {limits : Limits} (negative : Bool) {n : Nat}
    (hlimits : exceeds (digitsOf n).length limits.digits = false) {rest : List Char}
    (hrest : isEnd rest) (offset : Nat) :
    readNumber limits ⟨(if negative then ['-'] else []) ++ (digitsOf n ++ rest), offset⟩ =
      .ok (.int (signed negative (digitsOf n)),
        ⟨rest, offset + ((if negative then 1 else 0) + (digitsOf n).length)⟩) := by
  have hdrop : (digitsOf n ++ rest).drop (digitsOf n).length = rest := List.drop_left
  cases negative with
  | true =>
    unfold readNumber
    simp only [Cursor.advance, ↓reduceIte, List.singleton_append, List.head?_cons, decide_true,
      List.drop_succ_cons, List.drop_zero, integerPart?_digitsOf n hrest, hdrop,
      fractionPart_end hrest, exponentPart_end hrest, hlimits, and_self, Bool.false_eq_true,
      List.length_nil, Nat.add_zero, Nat.add_comm 1]
  | false =>
    unfold readNumber
    simp only [Cursor.advance, List.nil_append, head?_digitsOf_append, decide_false,
      Bool.false_eq_true, ↓reduceIte, integerPart?_digitsOf n hrest, hdrop,
      fractionPart_end hrest, exponentPart_end hrest, hlimits, and_self,
      List.length_nil, Nat.add_zero, Nat.zero_add]

/-- An integer within the limit is read back, if the reader's limit is no lower. -/
theorem readNumber_integerText {limits : Limits}
    (hlimits : exceeds digitLimit limits.digits = false)
    {n : Int} (hn : hasTooManyDigits n = false) {rest : List Char} (hrest : isEnd rest)
    (offset : Nat) :
    readNumber limits ⟨(integerText n).toList ++ rest, offset⟩ =
      .ok (.int n, ⟨rest, offset + (integerText n).toList.length⟩) := by
  have hlength : exceeds (digitsOf n.natAbs).length limits.digits = false := by
    have hle := length_digitsOf_le (by decide) (natAbs_lt_limit hn)
    cases hdigits : limits.digits with
    | none => rfl
    | some limit =>
      simp only [exceeds, hdigits, Option.any_some, decide_eq_false_iff_not] at hlimits ⊢
      omega
  have htext : (integerText n).toList =
      (if decide (n < 0) then ['-'] else []) ++ digitsOf n.natAbs := by
    rw [integerText, String.toList_ofList]
    by_cases hneg : n < 0 <;> simp [hneg]
  have hvalue : signed (decide (n < 0)) (digitsOf n.natAbs) = n := by
    unfold signed
    rw [value_digitsOf]
    by_cases hneg : n < 0
    · simp only [hneg, decide_true, ↓reduceIte]
      omega
    · simp only [hneg, decide_false, Bool.false_eq_true, ↓reduceIte]
      omega
  rw [htext, List.append_assoc, readNumber_digitsOf _ hlength hrest, hvalue, List.length_append]
  cases decide (n < 0) <;> rfl

end Number

section Word

private theorem readWord?_eq_none {c : Cursor}
    (h : ∀ word ∈ ["null", "true", "false", "NaN", "Infinity", "-Infinity"],
      ¬ word.toList <+: c.rest) : readWord? c = none := by
  unfold readWord?
  rw [List.findSome?_eq_none_iff]
  intro entry hentry
  have hword : c.word? entry.1 = none := by
    unfold Cursor.word?
    rw [if_neg]
    rw [List.isPrefixOf_iff_prefix]
    exact h entry.1 (List.mem_map_of_mem hentry)
  simp only [hword, Option.map_none]

private theorem readWord?_digit {c : Char} (hc : Literal.isDigit c) (cs : List Char)
    (offset : Nat) : readWord? ⟨c :: cs, offset⟩ = none := by
  apply readWord?_eq_none
  intro word hword hprefix
  have hfirst : ∀ word ∈ ["null", "true", "false", "NaN", "Infinity", "-Infinity"],
      word.toList.head?.all (!Literal.isDigit ·) ∧ word.toList ≠ [] := by decide +kernel
  obtain ⟨hdigit, hne⟩ := hfirst word hword
  obtain ⟨first, more, hchars⟩ := List.exists_cons_of_ne_nil hne
  rw [hchars] at hdigit hprefix
  rw [(List.cons_prefix_cons.mp hprefix).1] at hdigit
  simp [hc] at hdigit

private theorem readWord?_minus {c : Char} (hc : Literal.isDigit c) (cs : List Char)
    (offset : Nat) : readWord? ⟨'-' :: c :: cs, offset⟩ = none := by
  apply readWord?_eq_none
  intro word hword
  have hsecond : ∀ word ∈ ["null", "true", "false", "NaN", "Infinity", "-Infinity"],
      2 ≤ word.toList.length ∧
        (word.toList[0]? = some '-' → word.toList[1]?.all (!Literal.isDigit ·)) := by
    decide +kernel
  obtain ⟨hlength, hletter⟩ := hsecond word hword
  rintro ⟨rest, hrest⟩
  have hzero : word.toList[0]? = some '-' := by
    rw [← List.getElem?_append_left (by omega), hrest]
    rfl
  have hone : word.toList[1]? = some c := by
    rw [← List.getElem?_append_left (by omega), hrest]
    rfl
  have hdigit := hletter hzero
  rw [hone] at hdigit
  simp [hc] at hdigit

/-- An integer begins with a digit, or with a minus and a digit. -/
theorem integerText_toList (n : Int) :
    ∃ c more, Literal.isDigit c ∧
      ((integerText n).toList = c :: more ∨ (integerText n).toList = '-' :: c :: more) := by
  cases hdigits : digitsOf n.natAbs with
  | nil => exact absurd hdigits (digitsOf_ne_nil _)
  | cons c more =>
    refine ⟨c, more, isDigit_of_mem_digitsOf (hdigits ▸ List.mem_cons_self), ?_⟩
    rw [integerText, String.toList_ofList, hdigits]
    by_cases hneg : n < 0 <;> simp [hneg]

/-- No word stands where an integer was written. -/
theorem readWord?_integerText (n : Int) (rest : List Char) (offset : Nat) :
    readWord? ⟨(integerText n).toList ++ rest, offset⟩ = none := by
  obtain ⟨c, more, hc, htext | htext⟩ := integerText_toList n
  · rw [htext]
    exact readWord?_digit hc _ _
  · rw [htext]
    exact readWord?_minus hc _ _

end Word

end MailSearch.Json
