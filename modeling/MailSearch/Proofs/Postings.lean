import MailSearch.Postings
import MailSearch.Record.Basic
import Mathlib.Data.List.Induction
import Mathlib.Data.List.Nodup
import Mathlib.Data.List.Perm.Subperm
import Mathlib.Tactic.Tauto

/-!
# Postings as maps to sets

Under `WF` a table is a map from keys to sets that are not empty; `add` and `remove` keep
it one, and change the view `ids` at one key only. `Files` says that a table holds exactly
the ids of some records, each under the keys of its record. It is what the tables of an
index keep when records come and go.
-/

namespace MailSearch.Postings

/-- No key stands twice, no id stands twice under a key, and every key has an id. -/
structure WF (p : Postings) : Prop where
  keys : p.keys.Nodup
  ids : ∀ key, (p.ids key).Nodup
  nonempty : ∀ key ∈ p.keys, p.ids key ≠ []

/-- A key that does not stand in a table has no ids. -/
theorem ids_eq_nil {p : Postings} {key : String} (h : key ∉ p.keys) : p.ids key = [] :=
  idsIn_eq_nil h

/-- The keys of a table are those that have ids. -/
theorem WF.mem_keys_iff {p : Postings} (h : p.WF) (key : String) :
    key ∈ p.keys ↔ p.ids key ≠ [] := by
  constructor
  · exact h.nonempty key
  · intro hids
    by_contra hkey
    exact hids (ids_eq_nil hkey)

/-- A table without entries is well formed. -/
theorem wf_empty : WF {} := by
  constructor <;> simp [keys, ids, idsIn]

private theorem keys_addIn (key id : String) (entries : List (String × List String)) :
    (addIn key id entries).map Prod.fst =
      if key ∈ entries.map Prod.fst then entries.map Prod.fst
      else entries.map Prod.fst ++ [key] := by
  induction entries with
  | nil => simp [addIn]
  | cons entry rest ih =>
    obtain ⟨own, ids⟩ := entry
    by_cases hown : own = key
    · simp [addIn, hown]
    · have hne : ¬key = own := fun he ↦ hown he.symm
      simp only [addIn, hown, if_false, List.map_cons, ih, List.mem_cons, hne, false_or]
      split <;> rfl

/-- A new key stands at the end, and a key that is there keeps its place. -/
theorem keys_add (p : Postings) (key id : String) :
    (p.add key id).keys = if key ∈ p.keys then p.keys else p.keys ++ [key] :=
  keys_addIn key id p.entries

/-- Filing an id puts it under its key and changes no other set. -/
theorem mem_ids_add (p : Postings) (key id k e : String) :
    e ∈ (p.add key id).ids k ↔ e ∈ p.ids k ∨ k = key ∧ e = id := by
  rw [ids_add]
  by_cases hk : k = key
  · subst hk
    by_cases hid : id ∈ p.ids k
    · simp only [hid, if_true, true_and]
      constructor
      · exact Or.inl
      · rintro (he | rfl)
        · exact he
        · exact hid
    · simp [hid]
  · simp [hk]

private theorem nodup_append_new {α : Type} {xs : List α} {x : α} (h : xs.Nodup) (hx : x ∉ xs) :
    (xs ++ [x]).Nodup := by
  rw [← List.concat_eq_append]
  exact (List.nodup_concat xs x).mpr ⟨hx, h⟩

/-- Filing an id keeps a table well formed. -/
theorem wf_add {p : Postings} (h : p.WF) (key id : String) : (p.add key id).WF := by
  constructor
  · rw [keys_add]
    split
    · exact h.keys
    · next hkey => exact nodup_append_new h.keys hkey
  · intro k
    rw [ids_add]
    split
    · split
      · exact h.ids key
      · next hid => exact nodup_append_new (h.ids key) hid
    · exact h.ids k
  · intro k hk
    rw [keys_add] at hk
    by_cases hkey : k = key
    · subst hkey
      exact List.ne_nil_of_mem ((mem_ids_add p k id k id).mpr (Or.inr ⟨rfl, rfl⟩))
    · rw [ids_add, if_neg hkey]
      apply h.nonempty k
      split at hk
      · exact hk
      · simpa [hkey] using hk

private theorem keys_removeIn (key id : String) (entries : List (String × List String)) :
    ((removeIn key id entries).map Prod.fst).Sublist (entries.map Prod.fst) := by
  induction entries with
  | nil => exact List.Sublist.refl []
  | cons entry rest ih =>
    obtain ⟨own, ids⟩ := entry
    simp only [removeIn]
    split
    · split
      · exact List.sublist_cons_self own _
      · exact List.Sublist.refl _
    · exact ih.cons_cons own

/-- Taking an id from a key drops at most that key. -/
theorem keys_remove_sublist (p : Postings) (key id : String) :
    (p.remove key id).keys.Sublist p.keys :=
  keys_removeIn key id p.entries

/-- What taking an id from a key does to the view. -/
theorem ids_remove {p : Postings} (h : p.WF) (key id k : String) :
    (p.remove key id).ids k =
      if k = key then (p.ids key).filter (· ≠ id) else p.ids k := by
  by_cases hk : k = key
  · subst hk
    rw [if_pos rfl]
    exact idsIn_removeIn_self h.keys k id
  · rw [if_neg hk]
    exact idsIn_removeIn_of_ne hk id p.entries

/-- Taking an id from a key takes it from that key's set and changes no other set. -/
theorem mem_ids_remove {p : Postings} (h : p.WF) (key id k e : String) :
    e ∈ (p.remove key id).ids k ↔ e ∈ p.ids k ∧ ¬(k = key ∧ e = id) := by
  rw [ids_remove h]
  by_cases hk : k = key
  · subst hk
    simp
  · simp [hk]

private theorem idsIn_removeIn_ne_nil {key id : String} {entries : List (String × List String)}
    (h : (entries.map Prod.fst).Nodup)
    (hkey : key ∈ (removeIn key id entries).map Prod.fst) :
    idsIn key (removeIn key id entries) ≠ [] := by
  induction entries with
  | nil => simp [removeIn] at hkey
  | cons entry rest ih =>
    obtain ⟨own, ids⟩ := entry
    simp only [List.map_cons, List.nodup_cons] at h
    by_cases hown : own = key
    · subst hown
      simp only [removeIn, if_true] at hkey ⊢
      split at hkey
      · exact absurd hkey h.1
      · next hleft => simpa [idsIn] using hleft
    · have hne : ¬key = own := fun he ↦ hown he.symm
      simp only [removeIn, hown, if_false, List.map_cons, List.mem_cons, hne, false_or] at hkey
      simpa [removeIn, idsIn, hown] using ih h.2 hkey

/-- Taking an id from a key keeps a table well formed: the key goes with its last id. -/
theorem wf_remove {p : Postings} (h : p.WF) (key id : String) : (p.remove key id).WF := by
  constructor
  · exact h.keys.sublist (keys_remove_sublist p key id)
  · intro k
    rw [ids_remove h]
    split
    · exact (h.ids key).filter _
    · exact h.ids k
  · intro k hk
    by_cases hkey : k = key
    · subst hkey
      exact idsIn_removeIn_ne_nil h.keys hk
    · rw [ids_remove h, if_neg hkey]
      exact h.nonempty k ((keys_remove_sublist p key id).subset hk)

/-- Filing an id under several keys keeps a table well formed. -/
theorem wf_addAll {p : Postings} (h : p.WF) (keys : List String) (id : String) :
    (p.addAll keys id).WF := by
  induction keys generalizing p with
  | nil => exact h
  | cons key keys ih => exact ih (wf_add h key id)

/-- Taking an id from several keys keeps a table well formed. -/
theorem wf_removeAll {p : Postings} (h : p.WF) (keys : List String) (id : String) :
    (p.removeAll keys id).WF := by
  induction keys generalizing p with
  | nil => exact h
  | cons key keys ih => exact ih (wf_remove h key id)

/-- Filing an id under several keys puts it under each of them; a key may stand twice. -/
theorem mem_ids_addAll (p : Postings) (keys : List String) (id k e : String) :
    e ∈ (p.addAll keys id).ids k ↔ e ∈ p.ids k ∨ k ∈ keys ∧ e = id := by
  induction keys generalizing p with
  | nil => simp [addAll]
  | cons key keys ih =>
    have hstep := ih (p.add key id)
    rw [mem_ids_add] at hstep
    rw [List.mem_cons]
    change e ∈ ((p.add key id).addAll keys id).ids k ↔ _
    tauto

/-- Taking an id from several keys takes it from each of them; a key that is gone by then
does no harm. -/
theorem mem_ids_removeAll {p : Postings} (h : p.WF) (keys : List String) (id k e : String) :
    e ∈ (p.removeAll keys id).ids k ↔ e ∈ p.ids k ∧ ¬(k ∈ keys ∧ e = id) := by
  induction keys generalizing p with
  | nil => simp [removeAll]
  | cons key keys ih =>
    have hstep := ih (wf_remove h key id)
    rw [mem_ids_remove h] at hstep
    rw [List.mem_cons]
    change e ∈ ((p.remove key id).removeAll keys id).ids k ↔ _
    tauto

section Undoing

variable {p q : Postings} {id : String}

private theorem entriesIn_eq {entries : List (String × List String)}
    (h : (entries.map Prod.fst).Nodup) :
    entries = (entries.map Prod.fst).map fun key ↦ (key, idsIn key entries) := by
  induction entries with
  | nil => rfl
  | cons entry rest ih =>
    obtain ⟨own, ids⟩ := entry
    simp only [List.map_cons, List.nodup_cons] at h ⊢
    have hrest : ∀ key ∈ rest.map Prod.fst, idsIn key ((own, ids) :: rest) = idsIn key rest := by
      intro key hkey
      have hne : own ≠ key := fun he ↦ h.1 (he ▸ hkey)
      simp [idsIn, hne]
    have hmap :
        ((rest.map Prod.fst).map fun key ↦ (key, idsIn key ((own, ids) :: rest))) = rest := by
      conv_rhs => rw [ih h.2]
      apply List.map_congr_left
      intro key hkey
      rw [hrest key hkey]
    rw [hmap]
    simp [idsIn]

/-- A table is its keys with their ids. -/
theorem WF.entries_eq (h : p.WF) : p.entries = p.keys.map fun key ↦ (key, p.ids key) :=
  entriesIn_eq h.keys

/-- Two tables with the same ids under the same keys in the same order are the same. -/
theorem WF.eq_of_keys_of_ids (hp : p.WF) (hq : q.WF) (hkeys : p.keys = q.keys)
    (hids : ∀ key, p.ids key = q.ids key) : p = q := by
  have hentries : p.entries = q.entries := by
    rw [hp.entries_eq, hq.entries_eq, hkeys]
    exact List.map_congr_left fun key _ ↦ by rw [hids]
  cases p
  cases q
  exact congrArg Postings.mk hentries

/-- What filing a new id under several keys does to the view. -/
theorem ids_addAll (hid : ∀ key, id ∉ p.ids key) (keys : List String) (k : String) :
    (p.addAll keys id).ids k = if k ∈ keys then p.ids k ++ [id] else p.ids k := by
  induction keys using List.reverseRecOn with
  | nil => rfl
  | append_singleton keys key ih =>
    have hstep : p.addAll (keys ++ [key]) id = (p.addAll keys id).add key id := by
      rw [addAll, List.foldl_append]
      rfl
    rw [hstep, ids_add]
    by_cases hk : k = key
    · subst hk
      rw [if_pos rfl, ih]
      -- a key that stands twice gets the id once
      by_cases hmem : k ∈ keys
      · simp [hmem]
      · simp [hmem, hid]
    · rw [if_neg hk, ih]
      simp [hk]

/-- What taking an id from several keys does to the view. -/
theorem ids_removeAll (h : p.WF) (keys : List String) (id k : String) :
    (p.removeAll keys id).ids k =
      if k ∈ keys then (p.ids k).filter (· ≠ id) else p.ids k := by
  induction keys generalizing p with
  | nil => rfl
  | cons key keys ih =>
    change ((p.remove key id).removeAll keys id).ids k = _
    rw [ih (wf_remove h key id), ids_remove h]
    by_cases hk : k = key
    · subst hk
      simp [List.filter_filter]
    · simp [hk]

/-- The keys of a table stay in front when an id is filed under several keys. -/
theorem keys_prefix_addAll (p : Postings) (keys : List String) (id : String) :
    p.keys <+: (p.addAll keys id).keys := by
  induction keys generalizing p with
  | nil => exact List.prefix_rfl
  | cons key keys ih =>
    refine List.IsPrefix.trans ?_ (ih (p.add key id))
    rw [keys_add]
    split
    · exact List.prefix_rfl
    · exact List.prefix_append p.keys [key]

/-- Taking an id from several keys drops at most these keys. -/
theorem keys_removeAll_sublist (p : Postings) (keys : List String) (id : String) :
    (p.removeAll keys id).keys.Sublist p.keys := by
  induction keys generalizing p with
  | nil => exact List.Sublist.refl _
  | cons key keys ih => exact (ih (p.remove key id)).trans (keys_remove_sublist p key id)

/-- Taking a new id from the keys under which it was filed gives the table back: the keys that
came with it go, and the others stay in their places. -/
theorem removeAll_addAll (h : p.WF) (hid : ∀ key, id ∉ p.ids key) (keys : List String) :
    (p.addAll keys id).removeAll keys id = p := by
  have hadd : (p.addAll keys id).WF := wf_addAll h keys id
  have hremove : ((p.addAll keys id).removeAll keys id).WF := wf_removeAll hadd keys id
  have hids (k : String) : ((p.addAll keys id).removeAll keys id).ids k = p.ids k := by
    have hkept : (p.ids k).filter (· ≠ id) = p.ids k := by
      apply List.filter_eq_self.mpr
      intro e he
      exact decide_eq_true fun heq ↦ hid k (heq ▸ he)
    rw [ids_removeAll hadd, ids_addAll hid]
    split
    · rw [List.filter_append, hkept, List.filter_cons_of_neg (by simp), List.filter_nil,
        List.append_nil]
    · rfl
  refine hremove.eq_of_keys_of_ids h ?_ hids
  -- both lists of keys are what is left of the keys in between, and have the same members
  apply (List.Nodup.perm_iff_eq_of_sublist hadd.keys (keys_removeAll_sublist _ keys id)
    (keys_prefix_addAll p keys id).sublist).mp
  apply (List.perm_ext_iff_of_nodup hremove.keys h.keys).mpr
  intro k
  rw [hremove.mem_keys_iff, h.mem_keys_iff, hids]

end Undoing

/-- A table holds the ids of some records, each under the keys of its record. -/
structure Files (p : Postings) (keysOf : Record → List String) (rs : List Record) : Prop where
  wf : p.WF
  mem_ids : ∀ key id, id ∈ p.ids key ↔ ∃ r ∈ rs, r.id = id ∧ key ∈ keysOf r

section Files

variable {p : Postings} {keysOf : Record → List String} {rs : List Record}

/-- A table without entries holds no records. -/
theorem files_nil : Files {} keysOf [] := by
  refine ⟨wf_empty, ?_⟩
  simp [ids, idsIn]

/-- The keys of a table are those of its records. -/
theorem Files.mem_keys_iff (h : p.Files keysOf rs) (key : String) :
    key ∈ p.keys ↔ ∃ r ∈ rs, key ∈ keysOf r := by
  rw [h.wf.mem_keys_iff]
  constructor
  · intro hids
    obtain ⟨id, hid⟩ := List.exists_mem_of_ne_nil _ hids
    obtain ⟨r, hr, -, hkey⟩ := (h.mem_ids key id).mp hid
    exact ⟨r, hr, hkey⟩
  · rintro ⟨r, hr, hkey⟩
    exact List.ne_nil_of_mem ((h.mem_ids key r.id).mpr ⟨r, hr, rfl, hkey⟩)

/-- Filing the id of a new record under its keys adds the record. -/
theorem Files.addAll (h : p.Files keysOf rs) (r : Record) :
    (p.addAll (keysOf r) r.id).Files keysOf (rs ++ [r]) := by
  refine ⟨wf_addAll h.wf _ _, ?_⟩
  intro key id
  rw [mem_ids_addAll, h.mem_ids]
  constructor
  · rintro (⟨old, hold, hid, hkey⟩ | ⟨hkey, rfl⟩)
    · exact ⟨old, List.mem_append_left _ hold, hid, hkey⟩
    · exact ⟨r, List.mem_append_right _ (List.mem_singleton_self r), rfl, hkey⟩
  · rintro ⟨old, hold, hid, hkey⟩
    rcases List.mem_append.mp hold with hold | hold
    · exact Or.inl ⟨old, hold, hid, hkey⟩
    · rw [List.mem_singleton] at hold
      subst hold
      exact Or.inr ⟨hkey, hid.symm⟩

/-- Taking the id of a record from the keys of that record takes the record away, if no
other record has its id. -/
theorem Files.removeAll (h : p.Files keysOf rs) {r : Record}
    (hr : ∀ other ∈ rs, other.id = r.id → other = r) :
    (p.removeAll (keysOf r) r.id).Files keysOf (rs.filter (·.id ≠ r.id)) := by
  refine ⟨wf_removeAll h.wf _ _, ?_⟩
  intro key id
  rw [mem_ids_removeAll h.wf, h.mem_ids]
  constructor
  · rintro ⟨⟨old, hold, hid, hkey⟩, hnot⟩
    refine ⟨old, List.mem_filter.mpr ⟨hold, ?_⟩, hid, hkey⟩
    -- the record itself is excluded: its id was taken from all of its keys
    refine decide_eq_true fun he ↦ hnot ⟨?_, hid.symm.trans he⟩
    rwa [← hr old hold he]
  · rintro ⟨old, hold, hid, hkey⟩
    obtain ⟨hold, hne⟩ := List.mem_filter.mp hold
    refine ⟨⟨old, hold, hid, hkey⟩, ?_⟩
    rintro ⟨-, he⟩
    exact of_decide_eq_true hne (hid.trans he)

end Files

section SameRecords

variable {p q : Postings} {keysOf : Record → List String} {rs : List Record}

/-- Two tables of the same records file the same ids under each key. -/
theorem Files.ids_perm (hp : p.Files keysOf rs) (hq : q.Files keysOf rs) (key : String) :
    (p.ids key).Perm (q.ids key) := by
  apply (List.perm_ext_iff_of_nodup (hp.wf.ids key) (hq.wf.ids key)).mpr
  intro id
  rw [hp.mem_ids, hq.mem_ids]

/-- Two tables of the same records have the same keys. -/
theorem Files.keys_perm (hp : p.Files keysOf rs) (hq : q.Files keysOf rs) :
    p.keys.Perm q.keys := by
  apply (List.perm_ext_iff_of_nodup hp.wf.keys hq.wf.keys).mpr
  intro key
  have hids : p.ids key = [] ↔ q.ids key = [] := by
    have h := (hp.ids_perm hq key).length_eq
    rw [← List.length_eq_zero_iff, ← List.length_eq_zero_iff, h]
  rw [hp.wf.mem_keys_iff, hq.wf.mem_keys_iff]
  exact not_congr hids

/-- Two tables of the same records are the same as maps to sets. -/
theorem Files.sameSets (hp : p.Files keysOf rs) (hq : q.Files keysOf rs) : p.sameSets q := by
  have hkeys := hp.keys_perm hq
  simp only [Postings.sameSets, Bool.and_eq_true, List.all_eq_true, List.contains_iff_mem]
  refine ⟨⟨fun key hkey ↦ hkeys.mem_iff.mp hkey, fun key hkey ↦ hkeys.mem_iff.mpr hkey⟩, ?_⟩
  intro key _
  have hids := hp.ids_perm hq key
  exact ⟨fun id hid ↦ hids.mem_iff.mp hid, fun id hid ↦ hids.mem_iff.mpr hid⟩

/-- Two tables of the same records have equally many keys. -/
theorem Files.size_eq (hp : p.Files keysOf rs) (hq : q.Files keysOf rs) : p.size = q.size := by
  have h := (hp.keys_perm hq).length_eq
  simpa [keys, size] using h

/-- The keys of two tables of the same records have equally many characters. -/
theorem Files.keyLength_eq (hp : p.Files keysOf rs) (hq : q.Files keysOf rs) :
    p.keyLength = q.keyLength := by
  have h := total_perm ((hp.keys_perm hq).map String.length)
  simpa [keys, keyLength, Function.comp_def] using h

/-- Two tables of the same records hold equally many ids. -/
theorem Files.load_eq (hp : p.Files keysOf rs) (hq : q.Files keysOf rs) : p.load = q.load := by
  have hlengths (key : String) : (p.ids key).length = (q.ids key).length :=
    (hp.ids_perm hq key).length_eq
  unfold load
  rw [hp.wf.entries_eq, hq.wf.entries_eq, List.map_map, List.map_map]
  have h := total_perm ((hp.keys_perm hq).map fun key ↦ (q.ids key).length)
  simpa [Function.comp_def, hlengths] using h

end SameRecords

end MailSearch.Postings
