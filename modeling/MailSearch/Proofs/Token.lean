import MailSearch.Proofs.Unicode.Lowercase
import MailSearch.Token

/-!
# What tokens are made of

A token is made of characters that may stand in one, in lower case. None of them is white
space or has a meaning in a query, and a token cut into tokens is again this token alone.
-/

namespace MailSearch

namespace Unicode

section Runs

variable {α : Type} {inClass : α → Bool} {xs run : List α}

private theorem mem_closeRun {ys : List α} (h : ys ∈ closeRun run) {x : α} (hx : x ∈ ys) :
    x ∈ run := by
  unfold closeRun at h
  split at h
  · exact absurd h List.not_mem_nil
  · obtain rfl := List.mem_singleton.mp h
    exact List.mem_reverse.mp hx

private theorem mem_runsFrom {ys : List α} (h : ys ∈ runsFrom inClass run xs) {x : α}
    (hx : x ∈ ys) : x ∈ run ∨ (inClass x ∧ x ∈ xs) := by
  induction xs generalizing run with
  | nil => exact .inl (mem_closeRun h hx)
  | cons y xs ih =>
    rw [runsFrom] at h
    split at h
    · next hy =>
      rcases ih h with hrun | ⟨hclass, hxs⟩
      · rcases List.mem_cons.mp hrun with rfl | hrun
        · exact .inr ⟨hy, List.mem_cons_self⟩
        · exact .inl hrun
      · exact .inr ⟨hclass, List.mem_cons_of_mem y hxs⟩
    · rcases List.mem_append.mp h with hclosed | hlater
      · exact .inl (mem_closeRun hclosed hx)
      · rcases ih hlater with hnil | ⟨hclass, hxs⟩
        · exact absurd hnil List.not_mem_nil
        · exact .inr ⟨hclass, List.mem_cons_of_mem y hxs⟩

/-- A run of members of a class is made of members that stand in the list. -/
theorem mem_runs {ys : List α} (h : ys ∈ runs inClass xs) {x : α} (hx : x ∈ ys) :
    inClass x ∧ x ∈ xs :=
  (mem_runsFrom h hx).resolve_left List.not_mem_nil

private theorem runsFrom_of_forall (h : ∀ x ∈ xs, inClass x) :
    runsFrom inClass run xs = closeRun (xs.reverse ++ run) := by
  induction xs generalizing run with
  | nil => rfl
  | cons x xs ih =>
    obtain ⟨hx, hxs⟩ := List.forall_mem_cons.mp h
    rw [runsFrom, if_pos hx, ih hxs, List.reverse_cons, List.append_assoc, List.singleton_append]

/-- A list of members of a class is its only run. -/
theorem runs_eq_singleton (h : ∀ x ∈ xs, inClass x) (hne : xs ≠ []) : runs inClass xs = [xs] := by
  rw [runs, runsFrom_of_forall h, List.append_nil, closeRun,
    if_neg (by simpa using hne), List.reverse_reverse]

end Runs

/-- A code point that is covered lies in one of the ranges. -/
theorem exists_of_covers {ranges : List (Nat × Nat)} {n : Nat} (h : covers ranges n) :
    ∃ range ∈ ranges, range.1 ≤ n ∧ n ≤ range.2 := by
  induction ranges with
  | nil => exact nomatch h
  | cons range ranges ih =>
    rw [covers] at h
    split at h
    · exact nomatch h
    · next hfirst =>
      split at h
      · next hlast => exact ⟨range, List.mem_cons_self, by omega, hlast⟩
      · obtain ⟨other, hother, hn⟩ := ih h
        exact ⟨other, List.mem_cons_of_mem range hother, hn⟩

end Unicode

section Characters

variable {c : Char}

private theorem not_isTokenCharacter_blanks :
    ∀ range ∈ Unicode.blankRanges, ∀ n ∈ List.range' range.1 (range.2 - range.1 + 1),
      isTokenCharacter (Char.ofNat n) = false := by
  decide +kernel

/-- White space does not stand in a token. -/
theorem not_isBlank_of_isTokenCharacter (h : isTokenCharacter c) : Unicode.isBlank c = false := by
  apply eq_false_of_ne_true
  intro hblank
  obtain ⟨range, hrange, hfirst, hlast⟩ := Unicode.exists_of_covers hblank
  have hcode : c.toNat ∈ List.range' range.1 (range.2 - range.1 + 1) := by
    rw [List.mem_range'_1]
    omega
  have hother := not_isTokenCharacter_blanks range hrange c.toNat hcode
  rw [Char.ofNat_toNat, h] at hother
  exact nomatch hother

/-- A colon does not stand in a token. -/
theorem ne_colon_of_isTokenCharacter (h : isTokenCharacter c) : c ≠ ':' := by
  rintro rfl
  exact absurd h (by decide +kernel)

end Characters

/-- A text is a token: its characters may stand in one and are in lower case, there are at
least two of them, and it is no stop word. -/
structure IsToken (t : String) : Prop where
  chars : ∀ c ∈ t.toList, isTokenCharacter c
  lower : ∀ c ∈ t.toList, Unicode.IsLower c
  kept : isToken t.toList

section Tokens

variable {t text : String}

/-- Texts are cut into tokens. -/
theorem isToken_of_mem_tokenize (h : t ∈ tokenize text) : IsToken t := by
  obtain ⟨run, hrun, rfl⟩ := List.mem_map.mp h
  obtain ⟨hrun, hkept⟩ := List.mem_filter.mp hrun
  rw [← String.toList_ofList (l := run)] at hrun hkept
  exact ⟨fun c hc ↦ (Unicode.mem_runs hrun hc).1,
    fun c hc ↦ Unicode.isLower_of_mem_lowerFrom (Unicode.mem_runs hrun hc).2, hkept⟩

/-- A token has characters. -/
theorem IsToken.toList_ne_nil (h : IsToken t) : t.toList ≠ [] := by
  intro hnil
  have hkept := h.kept
  rw [hnil] at hkept
  exact absurd hkept (by decide)

/-- A token is cut into itself alone. -/
theorem IsToken.tokenize_eq (h : IsToken t) : tokenize t = [t] := by
  rw [tokenize, tokenRuns, Unicode.lowerChars_eq_self h.lower,
    Unicode.runs_eq_singleton h.chars h.toList_ne_nil, List.filter_cons_of_pos h.kept]
  simp

/-- Distinct tokens of texts are tokens of one of them. -/
theorem mem_distinctTokens {texts : List String} :
    t ∈ distinctTokens texts ↔ ∃ text ∈ texts, t ∈ tokenize text := by
  rw [distinctTokens, List.mem_eraseDups, List.mem_flatMap]

end Tokens

end MailSearch
