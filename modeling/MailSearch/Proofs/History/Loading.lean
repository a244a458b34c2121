import MailSearch.Proofs.History
import Mathlib.Data.List.Nodup
import Mathlib.Data.List.Perm.Subperm

/-!
# What a history that is loaded holds

A history is loaded item by item: an object with the three fields of a saved search or of a log
entry, in any order, is taken over, and everything else in the lists is passed over. Loading cuts
the recent queries and the log off at their bounds, but it takes out no repetitions, and it fails on
a list that stands as something else than a list. So what searching, saving and deleting keep is
found in a loaded history just if no list is broken and nothing stands twice in what was stored.
-/

namespace MailSearch

section Fields

variable {key : String} {v : Value} {fields : List (String × Value)}

/-- What stands among fields with distinct keys is the value of its key. -/
theorem Value.lookup?_of_mem (hkeys : (fields.map Prod.fst).Nodup) (h : (key, v) ∈ fields) :
    lookup? key fields = some v := by
  induction fields with
  | nil => exact absurd h List.not_mem_nil
  | cons field fields ih =>
    obtain ⟨hfield, hothers⟩ := List.nodup_cons.mp hkeys
    rcases List.mem_cons.mp h with rfl | hmem
    · exact if_pos rfl
    · have hne : field.1 ≠ key := by
        rintro rfl
        exact hfield (List.mem_map.mpr ⟨_, hmem, rfl⟩)
      exact (if_neg hne).trans (ih hothers hmem)

/-- An object is read as its three fields just if it has these fields, in any order, and no
others. -/
theorem History.threeFields?_eq_some_iff {a b c : String} (hkeys : [a, b, c].Nodup)
    {x y z : Value} :
    threeFields? a b c v = some (x, y, z) ↔
      ∃ fields, v = .object fields ∧ fields.Perm [(a, x), (b, y), (c, z)] := by
  have hpairs : [(a, x), (b, y), (c, z)].Nodup := List.Nodup.of_map Prod.fst hkeys
  constructor
  · intro h
    cases v with
    | object fields =>
      simp only [threeFields?, Option.bind_eq_bind, Option.bind_eq_some_iff] at h
      obtain ⟨x', hx, y', hy, z', hz, h⟩ := h
      split at h
      · next hlength =>
        obtain ⟨rfl, rfl, rfl⟩ : x' = x ∧ y' = y ∧ z' = z := by simpa using h
        have hsubset : [(a, x'), (b, y'), (c, z')] ⊆ fields := by
          simp [Value.mem_of_lookup? hx, Value.mem_of_lookup? hy, Value.mem_of_lookup? hz]
        have hperm := (hpairs.subperm hsubset).perm_of_length_le (by simp [hlength])
        exact ⟨fields, rfl, hperm.symm⟩
      · exact nomatch h
    | _ => exact nomatch h
  · rintro ⟨fields, rfl, hperm⟩
    have hnodup : (fields.map Prod.fst).Nodup := (hperm.map Prod.fst).nodup_iff.mpr hkeys
    have hlookup {key : String} {v : Value} (h : (key, v) ∈ [(a, x), (b, y), (c, z)]) :
        Value.lookup? key fields = some v :=
      Value.lookup?_of_mem hnodup (hperm.mem_iff.mpr h)
    have hx : Value.lookup? a fields = some x := hlookup (by simp)
    have hy : Value.lookup? b fields = some y := hlookup (by simp)
    have hz : Value.lookup? c fields = some z := hlookup (by simp)
    simp only [threeFields?, hx, hy, hz, hperm.length_eq]
    rfl

end Fields

section Items

/-- A value is a saved search just if it is an object of its three parts. -/
theorem SavedSearch.ofValue?_eq_some_iff {item : Value} {s : SavedSearch} :
    ofValue? item = some s ↔ ∃ fields, item = .object fields ∧
      fields.Perm [("id", s.id), ("name", s.name), ("query", s.query)] := by
  rw [← History.threeFields?_eq_some_iff (by decide), ofValue?, Option.map_eq_some_iff]
  constructor
  · rintro ⟨parts, h, rfl⟩
    exact h
  · exact fun h ↦ ⟨_, h, rfl⟩

/-- A value is a log entry just if it is an object of its three parts. -/
theorem LogEntry.ofValue?_eq_some_iff {item : Value} {e : LogEntry} :
    ofValue? item = some e ↔ ∃ fields, item = .object fields ∧
      fields.Perm [("query", e.query), ("timestamp", e.timestamp),
        ("result_count", e.resultCount)] := by
  rw [← History.threeFields?_eq_some_iff (by decide), ofValue?, Option.map_eq_some_iff]
  constructor
  · rintro ⟨parts, h, rfl⟩
    exact h
  · exact fun h ↦ ⟨_, h, rfl⟩

end Items

namespace History

section Reading

/-- The items under a key; there are none if nothing can be gone through there. -/
def itemsUnder (fields : List (String × Value)) (key : String) : List Value :=
  (itemsOf fields key).toOption.getD []

/-- The queries that stand under the key of the recent ones. -/
def recentIn (fields : List (String × Value)) : List String :=
  (itemsUnder fields "recent_searches").filterMap textOf?

/-- The saved searches that stand under their key. -/
def savedIn (fields : List (String × Value)) : List SavedSearch :=
  (itemsUnder fields "saved_searches").filterMap SavedSearch.ofValue?

/-- The log entries that stand under their key. -/
def entriesIn (fields : List (String × Value)) : List LogEntry :=
  (itemsUnder fields "entries").filterMap LogEntry.ofValue?

variable {fields : List (String × Value)} {h : History}

/-- The items under a key of which no list is broken. -/
theorem itemsOf_eq_itemsUnder (hlists : ¬HasBrokenList fields) {key : String}
    (hkey : key ∈ listKeys) : itemsOf fields key = .ok (itemsUnder fields key) := by
  cases hitems : itemsOf fields key with
  | ok items =>
    rw [itemsUnder, hitems]
    rfl
  | error fault =>
    obtain ⟨-, v, hv⟩ := itemsOf_eq_error_iff.mp hitems
    exact absurd ⟨key, hkey, v, hv⟩ hlists

/-- A history whose lists are not broken is read item by item, within the bounds. -/
theorem ofFields_eq_ok_iff :
    (ofFields fields).result = .ok h ↔ ¬HasBrokenList fields ∧
      h = ⟨(recentIn fields).take maxRecent, savedIn fields,
        (entriesIn fields).take maxEntries⟩ := by
  by_cases hlists : HasBrokenList fields
  · rw [ofFields_eq_error_iff.mpr ⟨rfl, hlists⟩]
    exact iff_of_false nofun fun ⟨hother, _⟩ ↦ hother hlists
  · have hrecent := itemsOf_eq_itemsUnder hlists (by decide : "recent_searches" ∈ listKeys)
    have hsaved := itemsOf_eq_itemsUnder hlists (by decide : "saved_searches" ∈ listKeys)
    have hentries := itemsOf_eq_itemsUnder hlists (by decide : "entries" ∈ listKeys)
    have hresult : (ofFields fields).result = .ok ⟨(recentIn fields).take maxRecent,
        savedIn fields, (entriesIn fields).take maxEntries⟩ := by
      simp only [ofFields, Logged.result_bind, Logged.lift, hrecent, hsaved, hentries]
      simp only [bind, Except.bind, result_readSaved, result_readEntries]
      rfl
    rw [hresult, Except.ok.injEq, eq_comm]
    exact (and_iff_right hlists).symm

end Reading

/-- What is kept of a history by searching, saving and deleting: the recent queries are distinct and
at most ten, no two saved searches have the same id, and at most a hundred searches are logged. -/
structure Regular (h : History) : Prop where
  recent : h.recent.Nodup
  recentLength : h.recent.length ≤ maxRecent
  savedIds : h.saved.Pairwise fun s t ↦ s.id.same t.id = false
  entriesLength : h.entries.length ≤ maxEntries

/-- A history is loaded just if no list is broken, the only fault is that a list is broken, and what
is malformed inside the lists is passed over. What is loaded is within the bounds of a history. It
is regular exactly if the first ten queries that are stored as recent ones are distinct and no two
of the saved searches that are stored have the same id. -/
theorem loaded_regular_iff (fields : List (String × Value)) :
    (∀ fault, (ofFields fields).result = .error fault ↔
      fault = .itemsExpected ∧ HasBrokenList fields) ∧
    (∀ h, (ofFields fields).result = .ok h ↔ ¬HasBrokenList fields ∧
      h = ⟨(recentIn fields).take 10, savedIn fields, (entriesIn fields).take 100⟩) ∧
    ((∃ h, (ofFields fields).result = .ok h ∧ h.Regular) ↔ ¬HasBrokenList fields ∧
      ((recentIn fields).take 10).Nodup ∧
      (savedIn fields).Pairwise fun s t ↦ s.id.same t.id = false) := by
  refine ⟨fun _ ↦ ofFields_eq_error_iff, fun _ ↦ ofFields_eq_ok_iff, ?_⟩
  constructor
  · rintro ⟨h, hread, hregular⟩
    obtain ⟨hlists, rfl⟩ := ofFields_eq_ok_iff.mp hread
    exact ⟨hlists, hregular.recent, hregular.savedIds⟩
  · rintro ⟨hlists, hrecent, hsaved⟩
    exact ⟨_, ofFields_eq_ok_iff.mpr ⟨hlists, rfl⟩, {
      recent := hrecent
      recentLength := List.length_take_le _ _
      savedIds := hsaved
      entriesLength := List.length_take_le _ _ }⟩

/-- A recent query and a saved search that are stored twice are loaded twice, and recent queries
that are null are not loaded at all. -/
theorem loaded_not_regular :
    let item : Value := .object [("id", .text "s"), ("name", .text "n"), ("query", .text "q")]
    let regular (fields : List (String × Value)) : Prop :=
      ∃ h, (ofFields fields).result = .ok h ∧ h.Regular
    ¬regular [("recent_searches", .texts ["a", "a"])] ∧
      ¬regular [("saved_searches", .list [item, item])] ∧
      (ofFields [("recent_searches", .null)]).result = .error .itemsExpected := by
  intro item regular
  refine ⟨?_, ?_, rfl⟩
  · rintro ⟨h, hread, hregular⟩
    obtain rfl := Except.ok.inj hread
    exact absurd hregular.recent (by decide)
  · rintro ⟨h, hread, hregular⟩
    obtain rfl := Except.ok.inj hread
    exact absurd hregular.savedIds (by decide +kernel)

end History
end MailSearch
