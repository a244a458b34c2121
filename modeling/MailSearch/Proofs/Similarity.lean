import MailSearch.Proofs.EditDistance
import MailSearch.Proofs.Numeric.Order
import MailSearch.Proofs.Numeric.Range
import MailSearch.Proofs.Unicode.Lowercase

/-!
# The lengths of similar texts

Similar texts are near each other by the edits between them in lower case, and the lengths of the
texts as they are settle many pairs without counting edits. Their difference is a lower bound of
the number of edits as long as lower case lengthens both texts alike. So the lengths never decide
wrongly between texts with equally many dotted capitals, in particular not between tokens; between
others they can only turn a near pair away.
-/

namespace MailSearch

/-- The edits between two texts in lower case, as a share of the longer one's length. -/
def distanceShare (a b : String) : Binary64 :=
  Binary64.ofRatio (editDistance (Unicode.lowercase a) (Unicode.lowercase b))
    (max a.length b.length)

/-- The difference of two lengths, as a share of the longer one. -/
def lengthShare (a b : String) : Binary64 :=
  Binary64.ofRatio (lengthGap a b) (max a.length b.length)

/-- Two texts are both empty, or the edits between them are at most a share of the length. -/
def IsNear (a b : String) (threshold : Binary64) : Prop :=
  (a = "" ∧ b = "") ∨ (distanceShare a b).le threshold

instance (a b : String) (threshold : Binary64) : Decidable (IsNear a b threshold) :=
  inferInstanceAs (Decidable (_ ∨ _))

section Shares

variable {a b : String} {threshold : Binary64}

/-- The longer one of two texts has no characters if both are empty. -/
private theorem longest_eq_zero_iff : max a.length b.length = 0 ↔ a = "" ∧ b = "" := by
  rw [Nat.max_eq_zero_iff, String.length_eq_zero_iff, String.length_eq_zero_iff]

/-- Texts are similar if their lengths and the edits between them are within the threshold. -/
theorem isSimilar_iff : isSimilar a b threshold ↔
    (a = "" ∧ b = "") ∨ (lengthShare a b).le threshold ∧ (distanceShare a b).le threshold := by
  unfold isSimilar
  by_cases hlongest : max a.length b.length = 0
  · simp [longest_eq_zero_iff.mp hlongest]
  · simp only [hlongest, if_false, longest_eq_zero_iff.not.mp hlongest, false_or]
    change (if threshold.lt (lengthShare a b) then false else (distanceShare a b).le threshold) ↔ _
    by_cases hdistance : (distanceShare a b).le threshold
    · have hlength : lengthShare a b ≠ .nan := Binary64.ofSteps_ne_nan _ _ _
      rw [Binary64.lt_eq_not_le (Binary64.ne_nan_of_le hdistance) hlength]
      simp [hdistance]
    · simp [hdistance]

/-- With a greater threshold no fewer texts are similar. -/
theorem isSimilar_mono {low high : Binary64} (h : low.le high) (hsimilar : isSimilar a b low) :
    isSimilar a b high := by
  rw [isSimilar_iff] at *
  exact hsimilar.imp_right fun ⟨hlength, hdistance⟩ ↦
    ⟨Binary64.le_trans hlength h, Binary64.le_trans hdistance h⟩

/-- The difference of two lengths is at most the distance, if lower case lengthens both alike. -/
theorem lengthGap_le_editDistance
    (h : a.toList.count Unicode.dottedCapital = b.toList.count Unicode.dottedCapital) :
    lengthGap a b ≤ editDistance (Unicode.lowercase a) (Unicode.lowercase b) := by
  have haligns : Aligns (editDistance (Unicode.lowercase a) (Unicode.lowercase b))
      (Unicode.lowercase a).toList (Unicode.lowercase b).toList := (isDistance_listDistance _ _).1
  have hlonger := haligns.length_le
  have hshorter := haligns.symm.length_le
  simp only [String.length_toList, Unicode.length_lowercase] at hlonger hshorter
  unfold lengthGap
  omega

/-- A lower bound of the distance is one of its share. -/
theorem lengthShare_le_distanceShare (hne : ¬(a = "" ∧ b = ""))
    (h : lengthGap a b ≤ editDistance (Unicode.lowercase a) (Unicode.lowercase b)) :
    (lengthShare a b).le (distanceShare a b) := by
  have hlongest : 0 < max a.length b.length :=
    Nat.pos_of_ne_zero fun hzero ↦ hne (longest_eq_zero_iff.mp hzero)
  exact Binary64.ofRatio_mono hlongest h

/-- Texts with equally many dotted capitals are similar just if they are near each other. -/
theorem isSimilar_iff_isNear
    (h : a.toList.count Unicode.dottedCapital = b.toList.count Unicode.dottedCapital) :
    isSimilar a b threshold ↔ IsNear a b threshold := by
  rw [isSimilar_iff, IsNear]
  by_cases hempty : a = "" ∧ b = ""
  · simp [hempty]
  · have hshare : (lengthShare a b).le (distanceShare a b) :=
      lengthShare_le_distanceShare hempty (lengthGap_le_editDistance h)
    simp only [hempty, false_or, and_iff_right_iff_imp]
    exact Binary64.le_trans hshare

/-- Texts in lower case that have characters are similar if their lengths allow the edits between
them. -/
theorem isSimilar_iff_of_isLower (ha : ∀ c ∈ a.toList, Unicode.IsLower c)
    (hb : ∀ c ∈ b.toList, Unicode.IsLower c) (hne : a ≠ "") :
    isSimilar a b threshold ↔
      (Binary64.ofRatio (editDistance a b) (max a.length b.length)).le threshold := by
  have hcount {text : String} (h : ∀ c ∈ text.toList, Unicode.IsLower c) :
      text.toList.count Unicode.dottedCapital = 0 :=
    List.count_eq_zero.mpr fun hmem ↦ (h _ hmem).ne_dottedCapital rfl
  rw [isSimilar_iff_isNear ((hcount ha).trans (hcount hb).symm), IsNear, distanceShare,
    Unicode.lowercase_eq_self ha, Unicode.lowercase_eq_self hb]
  simp [hne]

end Shares

/-- Whether two texts are similar is decided as if only the edits between them counted, unless
their lengths differ by more than the threshold and the edits do not. That never happens to texts
with equally many dotted capitals. -/
theorem isSimilar_iff_isNear_iff (a b : String) (threshold : Binary64) :
    ((isSimilar a b threshold ↔ IsNear a b threshold) ↔
      ((distanceShare a b).le threshold → (lengthShare a b).le threshold)) ∧
    (a.toList.count Unicode.dottedCapital = b.toList.count Unicode.dottedCapital →
      (isSimilar a b threshold ↔ IsNear a b threshold)) := by
  refine ⟨?_, isSimilar_iff_isNear⟩
  rw [isSimilar_iff, IsNear]
  by_cases hempty : a = "" ∧ b = ""
  · obtain ⟨rfl, rfl⟩ := hempty
    have hshares : distanceShare "" "" = lengthShare "" "" := by decide +kernel
    simp [hshares]
  · simp [hempty]

/-- A dotted capital is the same text as its two characters in lower case, but the lengths of the
two differ by half of the longer one's. -/
theorem isSimilar_dottedCapital :
    let threshold := Binary64.ofRatio 3 10
    isSimilar "\u0130" "i\u0307" threshold = false ∧ IsNear "\u0130" "i\u0307" threshold := by
  decide +kernel

end MailSearch
