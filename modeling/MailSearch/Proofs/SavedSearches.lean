import MailSearch.History
import MailSearch.Proofs.Numeric.Digits
import MailSearch.Proofs.Outcome
import Mathlib.Data.List.Nodup
import Mathlib.Data.List.Perm.Subperm
import Mathlib.Order.Bounds.Basic

/-!
# The ids of saved searches

A saved search has the first stamp from its time on that no other has. Among one more stamps than
there are saved searches one is free, since different stamps have different texts, so the search for
a stamp ends within as many steps, whatever is saved and whatever the clock says. A new id is
therefore never one that is stored, and what is got or deleted under an id is the one search that
has it.
-/

namespace MailSearch

/-- Only a text is the same as a text. -/
theorem Value.same_text_iff {v : Value} {text : String} :
    v.same (.text text) ↔ v = .text text := by
  cases v with
  | text own => simp [same]
  | float x => cases x <;> exact iff_of_false Bool.false_ne_true nofun
  | _ => exact iff_of_false Bool.false_ne_true nofun

/-- A text is the same as this text only. -/
theorem Value.text_same_iff {v : Value} {text : String} :
    (Value.text text).same v ↔ Value.text text = v := by
  cases v with
  | text own => simp [same]
  | float x => cases x <;> exact iff_of_false Bool.false_ne_true nofun
  | _ => exact iff_of_false Bool.false_ne_true nofun

namespace History

/-- The ids of saved searches are texts. -/
def HasTextIds (saved : List SavedSearch) : Prop := ∀ s ∈ saved, ∃ text, s.id = .text text

/-- No saved search has the id with a stamp. -/
def IsFree (saved : List SavedSearch) (stamp : Int) : Prop :=
  ∀ s ∈ saved, s.id ≠ .text (stampedId stamp)

section Stamps

variable {saved : List SavedSearch} {stamp k : Int} {fuel : Nat}

/-- Different stamps have different ids. -/
theorem stampedId_injective : Function.Injective stampedId := by
  intro m n h
  exact integerText_injective ((String.append_right_inj "search_").mp h)

/-- A stamp is taken just if it is not free. -/
theorem isTaken_iff : isTaken saved stamp ↔ ¬IsFree saved stamp := by
  simp [isTaken, IsFree, SavedSearch.hasId, Value.same_text_iff]

/-- The search for a free stamp goes on from where it begins. -/
theorem le_firstFree (saved : List SavedSearch) (stamp : Int) (fuel : Nat) :
    stamp ≤ firstFree saved stamp fuel := by
  induction fuel generalizing stamp with
  | zero => exact Int.le_refl stamp
  | succ fuel ih =>
    rw [firstFree]
    split
    · have hnext := ih (stamp + 1)
      omega
    · exact Int.le_refl stamp

/-- The stamps that are passed over are taken. -/
theorem isTaken_of_lt_firstFree (hfrom : stamp ≤ k) (hlt : k < firstFree saved stamp fuel) :
    isTaken saved k := by
  induction fuel generalizing stamp with
  | zero =>
    rw [firstFree] at hlt
    omega
  | succ fuel ih =>
    rw [firstFree] at hlt
    split at hlt
    · next htaken =>
      rcases Int.le_iff_lt_or_eq.mp hfrom with hafter | rfl
      · exact ih (by omega) hlt
      · exact htaken
    · omega

/-- If the search ends at a stamp that is taken, it has used all its steps. -/
theorem firstFree_eq_of_isTaken (h : isTaken saved (firstFree saved stamp fuel)) :
    firstFree saved stamp fuel = stamp + fuel := by
  induction fuel generalizing stamp with
  | zero => simp [firstFree]
  | succ fuel ih =>
    rw [firstFree] at h ⊢
    split
    · next htaken =>
      rw [if_pos htaken] at h
      rw [ih h]
      push_cast
      omega
    · next hfree =>
      rw [if_neg hfree] at h
      exact absurd h hfree

/-- There are no more taken stamps in a row than saved searches. -/
theorem le_length_of_isTaken (stamp : Int) {n : Nat}
    (h : ∀ i : Nat, i < n → isTaken saved (stamp + i)) : n ≤ saved.length := by
  let ids : List Value := (List.range n).map fun i : Nat ↦ .text (stampedId (stamp + i))
  have hnodup : ids.Nodup := by
    refine List.nodup_range.map fun i j hij ↦ ?_
    have hstamps := stampedId_injective (Value.text.inj hij)
    omega
  have hsub : ids ⊆ saved.map (·.id) := by
    intro id hid
    obtain ⟨i, hi, rfl⟩ := List.mem_map.mp hid
    obtain ⟨s, hs, hsame⟩ := List.any_eq_true.mp (h i (List.mem_range.mp hi))
    exact List.mem_map.mpr ⟨s, hs, Value.same_text_iff.mp hsame⟩
  have hlength := (List.subperm_of_subset hnodup hsub).length_le
  rwa [List.length_map, List.length_range, List.length_map] at hlength

/-- With as many steps as there are saved searches, or more, the search ends at the least free
stamp. -/
theorem isLeast_firstFree (stamp : Int) (hfuel : saved.length ≤ fuel) :
    IsLeast {k | stamp ≤ k ∧ IsFree saved k} (firstFree saved stamp fuel) := by
  have hfree : IsFree saved (firstFree saved stamp fuel) := by
    by_contra hnot
    have hend := firstFree_eq_of_isTaken (isTaken_iff.mpr hnot)
    have hrow : fuel + 1 ≤ saved.length := by
      refine le_length_of_isTaken stamp fun i hi ↦ ?_
      rcases Nat.lt_succ_iff_lt_or_eq.mp hi with hlt | rfl
      · have hpassed : stamp + i < firstFree saved stamp fuel := by omega
        exact isTaken_of_lt_firstFree (by omega) hpassed
      · rw [← hend]
        exact isTaken_iff.mpr hnot
    omega
  refine ⟨⟨le_firstFree saved stamp fuel, hfree⟩, ?_⟩
  rintro k ⟨hfrom, hk⟩
  by_contra hlt
  exact isTaken_iff.mp (isTaken_of_lt_firstFree hfrom (Int.not_le.mp hlt)) hk

end Stamps

section Changes

/-- What may be done with the saved searches: a query is saved under a name at a time, or the search
of an id is deleted. -/
inductive SavedChange where
  | save (now : Int) (name query : Value)
  | delete (id : Value)

/-- What becomes of a history by a change of the saved searches. -/
def SavedChange.apply (h : History) : SavedChange → Except Fault History
  | save now name query => (h.save now name query).map Prod.fst
  | delete id => .ok (h.delete id).1

/-- What becomes of a history by changes of the saved searches. -/
def savedAfter (h : History) (changes : List SavedChange) : Except Fault History :=
  changes.foldlM SavedChange.apply h

/-- The ids of the saved searches are texts, and none stands twice. -/
structure DistinctIds (h : History) : Prop where
  texts : HasTextIds h.saved
  nodup : (h.saved.map (·.id)).Nodup

variable {h : History}

/-- A search can be saved if the ids are texts. It gets the least free stamp. -/
theorem save_eq (htexts : HasTextIds h.saved) (now : Int) (name query : Value) :
    let search : SavedSearch := ⟨.text (stampedId (nextStamp h.saved now)), name, query⟩
    h.save now name query = .ok ({ h with saved := h.saved ++ [search] }, search) := by
  have hkeys : h.saved.all (·.id.isKey) := by
    refine List.all_eq_true.mpr fun s hs ↦ ?_
    obtain ⟨text, hid⟩ := htexts s hs
    rw [hid]
    rfl
  rw [save, if_pos hkeys]

/-- Saving a search keeps the ids distinct. -/
theorem DistinctIds.save (hh : h.DistinctIds) (now : Int) (name query : Value) :
    ∃ after search, h.save now name query = .ok (after, search) ∧ after.DistinctIds := by
  have hfree : IsFree h.saved (nextStamp h.saved now) :=
    (isLeast_firstFree now (Nat.le_refl _)).1.2
  refine ⟨_, _, save_eq hh.texts now name query, ?_, ?_⟩
  · intro s hs
    rcases List.mem_append.mp hs with hold | hnew
    · exact hh.texts s hold
    · rw [List.mem_singleton.mp hnew]
      exact ⟨_, rfl⟩
  · rw [List.map_append, List.map_singleton, ← List.concat_eq_append, List.nodup_concat]
    refine ⟨fun hmem ↦ ?_, hh.nodup⟩
    obtain ⟨s, hs, hid⟩ := List.mem_map.mp hmem
    exact hfree s hs hid

/-- Deleting a search keeps the ids distinct. -/
theorem DistinctIds.delete (hh : h.DistinctIds) (id : Value) : (h.delete id).1.DistinctIds where
  texts := fun s hs ↦ hh.texts s (List.mem_filter.mp hs).1
  nodup := hh.nodup.sublist (List.filter_sublist.map _)

/-- Changes of the saved searches never fail, and keep the ids distinct. -/
theorem DistinctIds.savedAfter (hh : h.DistinctIds) (changes : List SavedChange) :
    ∃ after, h.savedAfter changes = .ok after ∧ after.DistinctIds := by
  induction changes generalizing h with
  | nil => exact ⟨h, rfl, hh⟩
  | cons change changes ih =>
    have hstep : ∃ next, change.apply h = .ok next ∧ next.DistinctIds := by
      cases change with
      | save now name query =>
        obtain ⟨next, search, hsave, hnext⟩ := hh.save now name query
        exact ⟨next, by rw [SavedChange.apply, hsave]; rfl, hnext⟩
      | delete id => exact ⟨_, rfl, hh.delete id⟩
    obtain ⟨next, happly, hnext⟩ := hstep
    obtain ⟨after, hafter, hids⟩ := ih hnext
    exact ⟨after, bind_eq_ok.mpr ⟨next, happly, hafter⟩, hids⟩

end Changes

section Lookup

variable {h : History} {s : SavedSearch}

/-- A search whose ids are texts has an id just if it is its own. -/
theorem hasId_iff (htexts : HasTextIds h.saved) (hs : s ∈ h.saved) (id : Value) :
    s.hasId id ↔ s.id = id := by
  obtain ⟨text, htext⟩ := htexts s hs
  rw [SavedSearch.hasId, htext]
  exact Value.text_same_iff

/-- What is got under the id of a stored search is this search. -/
theorem DistinctIds.get?_eq (hh : h.DistinctIds) (hs : s ∈ h.saved) : h.get? s.id = some s := by
  have hown : s.hasId s.id := (hasId_iff hh.texts hs s.id).mpr rfl
  cases hget : h.get? s.id with
  | none => exact absurd hown (List.find?_eq_none.mp hget s hs)
  | some found =>
    have hfound : found ∈ h.saved := List.mem_of_find?_eq_some hget
    have hid : found.hasId s.id :=
      List.find?_some (p := fun other : SavedSearch ↦ other.hasId s.id) hget
    rw [List.inj_on_of_nodup_map hh.nodup hfound hs ((hasId_iff hh.texts hfound s.id).mp hid)]

/-- Searches are deleted under an id just if one that has it is stored. -/
theorem isDeleted_iff (htexts : HasTextIds h.saved) (id : Value) :
    (h.delete id).2 ↔ ∃ s ∈ h.saved, s.id = id := by
  rw [delete, decide_eq_true_eq, List.length_filter_lt_length_iff_exists]
  refine exists_congr fun s ↦ and_congr_right fun hs ↦ ?_
  rw [← hasId_iff htexts hs id]
  simp

/-- An id that is not stored is deleted in vain. -/
theorem delete_of_not_stored (htexts : HasTextIds h.saved) {id : Value}
    (hid : ∀ s ∈ h.saved, s.id ≠ id) : (h.delete id).1 = h := by
  have hleft : h.saved.filter (fun s ↦ !s.hasId id) = h.saved := by
    refine List.filter_eq_self.mpr fun s hs ↦ ?_
    rw [Bool.not_eq_true', ← Bool.not_eq_true, hasId_iff htexts hs id]
    exact hid s hs
  rw [delete, hleft]

/-- Deleting the id of a stored search takes out this search, and the others stay in order. -/
theorem DistinctIds.delete_eq (hh : h.DistinctIds) {before after : List SavedSearch}
    (hsaved : h.saved = before ++ s :: after) :
    (h.delete s.id).1 = { h with saved := before ++ after } := by
  have hs : s ∈ h.saved := by rw [hsaved]; simp
  have hown : s.hasId s.id := (hasId_iff hh.texts hs s.id).mpr rfl
  have hid : s.id ∉ (before ++ after).map (·.id) := by
    have hnodup := hh.nodup
    rw [hsaved, List.map_append, List.map_cons, List.nodup_middle, ← List.map_append] at hnodup
    exact (List.nodup_cons.mp hnodup).1
  have hothers : ∀ other ∈ before ++ after, (!other.hasId s.id) = true := by
    intro other hmem
    have hstored : other ∈ h.saved := by
      rw [hsaved, List.mem_append, List.mem_cons]
      exact (List.mem_append.mp hmem).imp_right .inr
    rw [Bool.not_eq_true', ← Bool.not_eq_true, hasId_iff hh.texts hstored s.id]
    exact fun he ↦ hid (he ▸ List.mem_map_of_mem hmem)
  have hleft : h.saved.filter (fun other ↦ !other.hasId s.id) = before ++ after := by
    rw [hsaved, List.filter_append, List.filter_cons_of_neg (by simp [hown]), ← List.filter_append]
    exact List.filter_eq_self.mpr hothers
  rw [History.delete, hleft]

end Lookup

/-- A search is saved with the least free stamp from its time on, at which the search for one ends
however many steps it may take, if the ids of the saved searches are texts. After any changes of the
saved searches of an empty history, at whatever times, none of which fails, no two have the same id,
and what is got under the id of a stored search is this search. Something is deleted under an id
exactly if it is stored, and then it is the search that has it and the others stay in order. -/
theorem saved_ids_after :
    (∀ h : History, HasTextIds h.saved → ∀ now name query,
      ∃ stamp, IsLeast {k | now ≤ k ∧ IsFree h.saved k} stamp ∧
        (∀ fuel, h.saved.length ≤ fuel → firstFree h.saved now fuel = stamp) ∧
        let search : SavedSearch := ⟨.text (stampedId stamp), name, query⟩
        h.save now name query = .ok ({ h with saved := h.saved ++ [search] }, search)) ∧
    ∀ changes, ∃ h, savedAfter {} changes = .ok h ∧
      (h.saved.map (·.id)).Nodup ∧
      (∀ s ∈ h.saved, h.get? s.id = some s) ∧
      ∀ id, ((h.delete id).2 ↔ ∃ s ∈ h.saved, s.id = id) ∧
        ((∀ s ∈ h.saved, s.id ≠ id) → (h.delete id).1 = h) ∧
        ∀ before s after, h.saved = before ++ s :: after → s.id = id →
          (h.delete id).1 = { h with saved := before ++ after } := by
  constructor
  · intro h htexts now name query
    have hleast : IsLeast {k | now ≤ k ∧ IsFree h.saved k} (nextStamp h.saved now) :=
      isLeast_firstFree now (Nat.le_refl _)
    exact ⟨_, hleast, fun fuel hfuel ↦ (isLeast_firstFree now hfuel).unique hleast,
      save_eq htexts now name query⟩
  · intro changes
    have hempty : DistinctIds {} := ⟨nofun, List.nodup_nil⟩
    obtain ⟨h, hrun, hids⟩ := hempty.savedAfter changes
    refine ⟨h, hrun, hids.nodup, fun s hs ↦ hids.get?_eq hs, fun id ↦
      ⟨isDeleted_iff hids.texts id, delete_of_not_stored hids.texts, ?_⟩⟩
    rintro before s after hsaved rfl
    exact hids.delete_eq hsaved

/-- Two searches are saved in one moment, the clock goes back, and the first one is deleted, whose
id is then given to another one. A history with other ids gives the one between two that are
taken. -/
theorem saved_ids_after_deletion :
    let search (stamp : Int) (query : String) : SavedSearch :=
      ⟨.text (stampedId stamp), .text "name", .text query⟩
    let saveAt (now : Int) (query : String) : SavedChange := .save now (.text "name") (.text query)
    let loaded : History := { saved := [search 5 "a", search 7 "b", ⟨.text "x", .null, .null⟩] }
    let changes := [saveAt 5 "a", saveAt 5 "b", saveAt 4 "c", .delete (.text "search_5"),
      saveAt 4 "d"]
    let h : History := { saved := [search 6 "b", search 4 "c", search 5 "d"] }
    (HasTextIds loaded.saved ∧
      loaded.save 5 (.text "name") (.text "d") =
        .ok ({ loaded with saved := loaded.saved ++ [search 6 "d"] }, search 6 "d")) ∧
    savedAfter {} changes = .ok h ∧ h.get? (.text "search_4") = some (search 4 "c") ∧
      (h.delete (.text "search_4")).2 ∧
      (h.delete (.text "search_4")).1 = { h with saved := [search 6 "b", search 5 "d"] } ∧
      (h.delete (.text "search_7")).1 = h := by
  intro search saveAt loaded changes h
  obtain ⟨hsave, hafter⟩ := saved_ids_after
  have htexts : HasTextIds loaded.saved := by
    intro s hs
    simp only [loaded, List.mem_cons, List.not_mem_nil, or_false] at hs
    rcases hs with rfl | rfl | rfl <;> exact ⟨_, rfl⟩
  obtain ⟨stamp, -, hfuel, hsaved⟩ := hsave loaded htexts 5 (.text "name") (.text "d")
  have hstamp : firstFree loaded.saved 5 3 = 6 := by decide +kernel
  obtain rfl : stamp = 6 := (hfuel 3 (Nat.le_refl 3)).symm.trans hstamp
  obtain ⟨after, hrun, -, hget, hdelete⟩ := hafter changes
  have hresult : savedAfter {} changes = .ok h := by rfl
  obtain rfl : after = h := Except.ok.inj (hrun.symm.trans hresult)
  have hmem : search 4 "c" ∈ h.saved := by simp [h]
  have hid : (search 4 "c").id = .text "search_4" := by rfl
  have hother : ∀ s ∈ h.saved, s.id ≠ .text "search_7" := by
    intro s hs he
    simp only [h, List.mem_cons, List.not_mem_nil, or_false] at hs
    rcases hs with rfl | rfl | rfl <;> exact absurd (Value.text.inj he) (by decide +kernel)
  exact ⟨⟨htexts, hsaved⟩, hresult, hget _ hmem, (hdelete _).1.mpr ⟨_, hmem, hid⟩,
    (hdelete _).2.2 [search 6 "b"] (search 4 "c") [search 5 "d"] rfl hid, (hdelete _).2.1 hother⟩

end History
end MailSearch
