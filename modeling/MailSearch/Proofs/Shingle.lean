import MailSearch.Proofs.EditDistance
import MailSearch.Proofs.Token
import MailSearch.Shingle

/-!
# Shingles survive edits

A single edit can spoil one of several parts of a text that do not overlap, so a text of more
than `d` parts that is turned into another by `d` edits keeps one of them. If every part has the
size of a shingle, the two texts share a shingle. A token is its own compacted text, so it shares
a shingle with every subject that holds something near it.
-/

namespace MailSearch

section Windows

variable {α : Type} {d n : Nat} {xs ys w : List α}

/-- The windows of a list are the runs of neighbouring elements that have the size. -/
theorem mem_windows (hn : 0 < n) : w ∈ windows n xs ↔ w.length = n ∧ w <:+: xs := by
  induction xs with
  | nil =>
    refine iff_of_false List.not_mem_nil ?_
    rintro ⟨hlength, hinfix⟩
    rw [List.eq_nil_of_infix_nil hinfix, List.length_nil] at hlength
    omega
  | cons x xs ih =>
    simp only [windows]
    split
    · next htake =>
      rw [List.mem_cons, ih, List.infix_cons_iff, List.prefix_iff_eq_take]
      constructor
      · rintro (rfl | ⟨hlength, hinfix⟩)
        · exact ⟨htake, .inl (by rw [htake])⟩
        · exact ⟨hlength, .inr hinfix⟩
      · rintro ⟨hlength, hfirst | hinfix⟩
        · exact .inl (hlength ▸ hfirst)
        · exact .inr ⟨hlength, hinfix⟩
    · next htake =>
      -- a list that is too short for a window has none further on
      refine iff_of_false List.not_mem_nil ?_
      rintro ⟨hlength, hinfix⟩
      have := hinfix.length_le
      rw [List.length_take] at htake
      omega

/-- Either the first `n` elements are kept, or an edit is made before so many have been passed. -/
theorem Aligns.take_prefix_or (h : Aligns d xs ys) (hn : n ≤ xs.length) :
    xs.take n <+: ys ∨ ∃ e xs' ys', e < d ∧ Aligns e xs' ys' ∧ xs' <:+ xs ∧ ys' <:+ ys ∧
      xs.length ≤ n + xs'.length := by
  induction h generalizing n with
  | nil => exact .inl (by simp)
  | keep x h ih =>
    cases n with
    | zero => exact .inl (by simp)
    | succ n =>
      obtain hkept | ⟨e, xs', ys', he, haligns, hxs, hys, hlength⟩ := ih (Nat.le_of_succ_le_succ hn)
      · exact .inl (by simpa using hkept)
      · refine .inr ⟨e, xs', ys', he, haligns, hxs.trans (List.suffix_cons x _),
          hys.trans (List.suffix_cons x _), ?_⟩
        rw [List.length_cons]
        omega
  | replace x y h ih =>
    cases n with
    | zero => exact .inl (by simp)
    | succ n =>
      refine .inr ⟨_, _, _, Nat.lt_succ_self _, h, List.suffix_cons x _, List.suffix_cons y _, ?_⟩
      rw [List.length_cons]
      omega
  | delete x h ih =>
    cases n with
    | zero => exact .inl (by simp)
    | succ n =>
      refine .inr ⟨_, _, _, Nat.lt_succ_self _, h, List.suffix_cons x _, List.suffix_rfl, ?_⟩
      rw [List.length_cons]
      omega
  | insert y h ih =>
    exact .inr ⟨_, _, _, Nat.lt_succ_self _, h, List.suffix_rfl, List.suffix_cons y _, by omega⟩

/-- A list that is long enough for `d + 1` windows keeps one of them after `d` edits. -/
theorem Aligns.exists_window (h : Aligns d xs ys) (hlength : n * (d + 1) ≤ xs.length) :
    ∃ w, w.length = n ∧ w <:+: xs ∧ w <:+: ys := by
  induction d using Nat.strong_induction_on generalizing xs ys with
  | _ d ih =>
    have hn : n ≤ xs.length := (Nat.le_mul_of_pos_right n d.succ_pos).trans hlength
    obtain hkept | ⟨e, xs', ys', he, haligns, hxs, hys, hpassed⟩ := h.take_prefix_or hn
    · exact ⟨xs.take n, List.length_take_of_le hn, (List.take_prefix n xs).isInfix, hkept.isInfix⟩
    · -- the rest is long enough for a window more than it has edits
      have hrest : n * (e + 1) ≤ xs'.length := by
        have hmul : n * (e + 1) ≤ n * d := Nat.mul_le_mul_left n he
        rw [Nat.mul_succ] at hlength
        omega
      obtain ⟨w, hw, hwxs, hwys⟩ := ih e he haligns hrest
      exact ⟨w, hw, hwxs.trans hxs.isInfix, hwys.trans hys.isInfix⟩

end Windows

section Shingles

variable {size : Int} {token text : String}

/-- The shingles of a text are the runs of its compacted characters that have the size. -/
theorem mem_shingles (hsize : 1 ≤ size) {shingle : String} :
    shingle ∈ shingles size text ↔
      shingle.length = size ∧ shingle.toList <:+: compacted text.toList := by
  have hpos : 0 < size.toNat := by omega
  rw [shingles, if_neg (by omega), List.mem_map]
  constructor
  · rintro ⟨w, hw, rfl⟩
    obtain ⟨hlength, hinfix⟩ := (mem_windows hpos).mp hw
    rw [String.length_ofList, String.toList_ofList]
    exact ⟨by omega, hinfix⟩
  · rintro ⟨hlength, hinfix⟩
    refine ⟨shingle.toList, (mem_windows hpos).mpr ⟨?_, hinfix⟩, String.ofList_toList⟩
    rw [String.length_toList]
    omega

/-- A token is its own compacted text. -/
theorem IsToken.compacted_eq (h : IsToken token) : compacted token.toList = token.toList := by
  rw [compacted, Unicode.lowerChars_eq_self h.lower, List.filter_eq_self]
  intro c hc
  rw [not_isBlank_of_isTokenCharacter (h.chars c hc)]
  rfl

/-- A token that is long enough for a shingle more than there are edits between it and a part of a
compacted text shares a shingle with the text. -/
theorem IsToken.exists_shingle (h : IsToken token) (hsize : 1 ≤ size) {part : String}
    (hpart : part.toList <:+: compacted text.toList)
    (hlength : size * (editDistance token part + 1) ≤ token.length) :
    ∃ shingle ∈ shingles size token, shingle ∈ shingles size text := by
  have haligns : Aligns (editDistance token part) token.toList part.toList :=
    (isDistance_listDistance token.toList part.toList).1
  have hlong : size.toNat * (editDistance token part + 1) ≤ token.toList.length := by
    obtain ⟨n, rfl⟩ := Int.eq_ofNat_of_zero_le (by omega : 0 ≤ size)
    rw [String.length_toList, Int.toNat_natCast]
    exact_mod_cast hlength
  obtain ⟨w, hw, htoken, hkept⟩ := haligns.exists_window hlong
  have hshingle : (String.ofList w).length = size := by
    rw [String.length_ofList]
    omega
  refine ⟨String.ofList w, (mem_shingles hsize).mpr ⟨hshingle, ?_⟩,
    (mem_shingles hsize).mpr ⟨hshingle, ?_⟩⟩
  · rwa [String.toList_ofList, h.compacted_eq]
  · rw [String.toList_ofList]
    exact hkept.trans hpart

end Shingles

end MailSearch
