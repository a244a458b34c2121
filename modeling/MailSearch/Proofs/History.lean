import MailSearch.Proofs.Json.RoundTrip
import MailSearch.Proofs.Outcome
import MailSearch.Session

/-!
# Histories are read back

A history that came about by searching, saving and deleting keeps within its bounds and holds
texts and integers only. It is written as a plain value and read back as it was: nothing is
passed over and nothing is cut off. Of other histories what is malformed inside a list is passed
over too; only a list that stands as something else than a list cannot be read.
-/

namespace MailSearch

/-- Whether a value can be gone through item by item. -/
def Value.hasItems : Value → Bool
  | list _ | tuple _ | text _ | object _ => true
  | _ => false

/-- Only the lack of items is a fault of going through a value. -/
theorem Value.items?_eq_error_iff {v : Value} {fault : Fault} :
    v.items? = .error fault ↔ fault = .itemsExpected ∧ v.hasItems = false := by
  cases v <;> simp [items?, hasItems, eq_comm]

/-- A saved search whose parts are neither lists nor objects. -/
structure SavedSearch.Storable (s : SavedSearch) : Prop where
  id : Json.Plain 0 s.id
  name : Json.Plain 0 s.name
  query : Json.Plain 0 s.query

/-- A log entry whose parts are neither lists nor objects. -/
structure LogEntry.Storable (e : LogEntry) : Prop where
  query : Json.Plain 0 e.query
  timestamp : Json.Plain 0 e.timestamp
  resultCount : Json.Plain 0 e.resultCount

/-- The saved search that a value is written as, if it is one. -/
def SavedSearch.ofValue? (item : Value) : Option SavedSearch :=
  (History.threeFields? "id" "name" "query" item).map fun (id, name, query) ↦ ⟨id, name, query⟩

/-- The log entry that a value is written as, if it is one. -/
def LogEntry.ofValue? (item : Value) : Option LogEntry :=
  (History.threeFields? "query" "timestamp" "result_count" item).map
    fun (query, timestamp, resultCount) ↦ ⟨query, timestamp, resultCount⟩

namespace History

/-- A history within its bounds, whose parts are neither lists nor objects. -/
structure Storable (h : History) : Prop where
  recentLength : h.recent.length ≤ maxRecent
  saved : ∀ s ∈ h.saved, s.Storable
  entriesLength : h.entries.length ≤ maxEntries
  entries : ∀ e ∈ h.entries, e.Storable

variable {h : History}

section Changes

/-- An empty history is storable. -/
theorem storable_empty : Storable {} := ⟨Nat.zero_le _, nofun, Nat.zero_le _, nofun⟩

/-- A query is put in front within the bounds. -/
theorem Storable.addRecent (hh : h.Storable) (query : String) : (h.addRecent query).Storable where
  recentLength := List.length_take_le _ _
  saved := hh.saved
  entriesLength := hh.entriesLength
  entries := hh.entries

/-- A search is logged within the bounds. -/
theorem Storable.record (hh : h.Storable) {now : Int} {query count : Value}
    (hnow : hasTooManyDigits now = false) (hquery : Json.Plain 0 query)
    (hcount : Json.Plain 0 count) : (h.record now query count).Storable where
  recentLength := hh.recentLength
  saved := hh.saved
  entriesLength := List.length_take_le _ _
  entries := by
    intro e he
    rcases List.mem_cons.mp (List.mem_of_mem_take he) with rfl | hold
    · exact ⟨hquery, .int hnow, hcount⟩
    · exact hh.entries e hold

/-- What is left after deleting is storable. -/
theorem Storable.delete (hh : h.Storable) (id : Value) : (h.delete id).1.Storable where
  recentLength := hh.recentLength
  saved := fun s hs ↦ hh.saved s (List.mem_filter.mp hs).1
  entriesLength := hh.entriesLength
  entries := hh.entries

private theorem isKey_of_plain {v : Value} (hv : Json.Plain 0 v) : v.isKey := by
  cases hv <;> rfl

/-- A query can be saved in a storable history, which stays so. -/
theorem Storable.save (hh : h.Storable) (now : Int) (name query : String) :
    ∃ after saved, h.save now (.text name) (.text query) = .ok (after, saved) ∧
      after.Storable := by
  have hkeys : h.saved.all (·.id.isKey) :=
    List.all_eq_true.mpr fun s hs ↦ isKey_of_plain (hh.saved s hs).id
  refine ⟨_, _, by rw [History.save, if_pos hkeys], ?_⟩
  exact {
    recentLength := hh.recentLength
    saved := by
      intro s hs
      rcases List.mem_append.mp hs with hold | hnew
      · exact hh.saved s hold
      · rw [List.mem_singleton.mp hnew]
        exact ⟨.text _, .text _, .text _⟩
    entriesLength := hh.entriesLength
    entries := hh.entries }

end Changes

section RoundTrip

private theorem readSaved_toValue (saved : List SavedSearch) :
    readSaved (saved.map (·.toValue)) = ⟨[], .ok saved⟩ := by
  induction saved with
  | nil => rfl
  | cons s saved ih =>
    rw [List.map_cons, readSaved]
    have hfields : threeFields? "id" "name" "query" s.toValue = some (s.id, s.name, s.query) := rfl
    simp only [hfields, ih]
    rfl

private theorem readEntries_toValue (entries : List LogEntry) :
    readEntries (entries.map (·.toValue)) = ⟨[], .ok entries⟩ := by
  induction entries with
  | nil => rfl
  | cons e entries ih =>
    rw [List.map_cons, readEntries]
    have hfields : threeFields? "query" "timestamp" "result_count" e.toValue =
        some (e.query, e.timestamp, e.resultCount) := rfl
    simp only [hfields, ih]
    rfl

private theorem filterMap_textOf? (xs : List String) :
    (xs.map Value.text).filterMap textOf? = xs := by
  rw [List.filterMap_map]
  exact List.filterMap_some

/-- A history that was written is read back as it was, without a warning. -/
theorem Storable.ofFields_toFields (hh : h.Storable) : ofFields h.toFields = ⟨[], .ok h⟩ := by
  have hrecent : itemsOf h.toFields "recent_searches" = .ok (h.recent.map .text) := rfl
  have hsaved : itemsOf h.toFields "saved_searches" = .ok (h.saved.map (·.toValue)) := rfl
  have hentries : itemsOf h.toFields "entries" = .ok (h.entries.map (·.toValue)) := rfl
  unfold ofFields
  simp only [hrecent, hsaved, hentries, bind, Logged.bind, Logged.lift, readSaved_toValue,
    readEntries_toValue, filterMap_textOf?, List.take_of_length_le hh.recentLength,
    List.take_of_length_le hh.entriesLength]
  rfl

/-- A storable history is written as a plain value. -/
theorem Storable.plain_toValue (hh : h.Storable) : Json.Plain 3 h.toValue := by
  apply Json.Plain.object
  · exact (by decide : ["recent_searches", "saved_searches", "entries"].Nodup)
  · have hsaved : Json.Plain 2 (.list (h.saved.map (·.toValue))) := by
      apply Json.Plain.list
      intro item hitem
      obtain ⟨s, hs, rfl⟩ := List.mem_map.mp hitem
      apply Json.Plain.object
      · exact (by decide : ["id", "name", "query"].Nodup)
      · simp only [List.mem_cons, List.not_mem_nil, or_false, forall_eq_or_imp, forall_eq]
        exact ⟨(hh.saved s hs).id, (hh.saved s hs).name, (hh.saved s hs).query⟩
    have hentries : Json.Plain 2 (.list (h.entries.map (·.toValue))) := by
      apply Json.Plain.list
      intro item hitem
      obtain ⟨e, he, rfl⟩ := List.mem_map.mp hitem
      apply Json.Plain.object
      · exact (by decide : ["query", "timestamp", "result_count"].Nodup)
      · simp only [List.mem_cons, List.not_mem_nil, or_false, forall_eq_or_imp, forall_eq]
        exact ⟨(hh.entries e he).query, (hh.entries e he).timestamp,
          (hh.entries e he).resultCount⟩
    simp only [toFields, List.mem_cons, List.not_mem_nil, or_false, forall_eq_or_imp, forall_eq]
    exact ⟨Json.plain_texts _, hsaved, hentries⟩

end RoundTrip

section Items

/-- The saved searches among some items are read in order. -/
theorem result_readSaved (items : List Value) :
    (readSaved items).result = .ok (items.filterMap SavedSearch.ofValue?) := by
  induction items with
  | nil => rfl
  | cons item items ih =>
    rw [readSaved, List.filterMap_cons, SavedSearch.ofValue?]
    split
    · next h =>
      rw [Logged.result_bind, ih, h]
      rfl
    · next h =>
      rw [Logged.result_bind, h]
      exact ih

/-- The log entries among some items are read in order. -/
theorem result_readEntries (items : List Value) :
    (readEntries items).result = .ok (items.filterMap LogEntry.ofValue?) := by
  induction items with
  | nil => rfl
  | cons item items ih =>
    rw [readEntries, List.filterMap_cons, LogEntry.ofValue?]
    split
    · next h =>
      rw [Logged.result_bind, ih, h]
      rfl
    · next h =>
      rw [Logged.result_bind, h]
      exact ih

end Items

section Failure

variable {fault : Fault}

/-- The keys under which a history keeps its lists. -/
def listKeys : List String := ["recent_searches", "saved_searches", "entries"]

/-- Under one of the keys of a history stands a value that cannot be gone through. -/
def HasBrokenList (fields : List (String × Value)) : Prop :=
  ∃ key ∈ listKeys, ∃ v, Value.lookup? key fields = some v ∧ v.hasItems = false

/-- The items under a key cannot be had just if a value without items stands there. -/
theorem itemsOf_eq_error_iff {fields : List (String × Value)} {key : String} :
    itemsOf fields key = .error fault ↔
      fault = .itemsExpected ∧ ∃ v, Value.lookup? key fields = some v ∧ v.hasItems = false := by
  unfold itemsOf
  cases Value.lookup? key fields with
  | none => exact iff_of_false nofun fun ⟨_, _, h, _⟩ ↦ nomatch h
  | some v =>
    rw [Value.items?_eq_error_iff]
    exact and_congr_right fun _ ↦ ⟨fun h ↦ ⟨v, rfl, h⟩, fun ⟨_, hv, h⟩ ↦ Option.some.inj hv ▸ h⟩

/-- A history that is read has items under each of its keys. -/
theorem exists_itemsOf_of_ofFields {fields : List (String × Value)} {h : History}
    (hread : (ofFields fields).result = .ok h) :
    ∀ key ∈ listKeys, ∃ items, itemsOf fields key = .ok items := by
  unfold ofFields at hread
  rw [Logged.result_bind] at hread
  obtain ⟨recent, hrecent, hread⟩ := bind_eq_ok.mp hread
  rw [Logged.result_bind] at hread
  obtain ⟨saved, hsaved, hread⟩ := bind_eq_ok.mp hread
  rw [Logged.result_bind] at hread
  obtain ⟨_, -, hread⟩ := bind_eq_ok.mp hread
  rw [Logged.result_bind] at hread
  obtain ⟨entries, hentries, -⟩ := bind_eq_ok.mp hread
  simp only [listKeys, List.forall_mem_cons, List.not_mem_nil, false_imp_iff, implies_true,
    and_true]
  exact ⟨⟨recent, hrecent⟩, ⟨saved, hsaved⟩, ⟨entries, hentries⟩⟩

/-- A history that is not read has no items under one of its keys. -/
theorem itemsOf_eq_error_of_ofFields {fields : List (String × Value)}
    (hread : (ofFields fields).result = .error fault) :
    ∃ key ∈ listKeys, itemsOf fields key = .error fault := by
  unfold ofFields at hread
  rw [Logged.result_bind] at hread
  rcases bind_eq_error.mp hread with h | ⟨recent, -, hread⟩
  · exact ⟨_, by decide, h⟩
  rw [Logged.result_bind] at hread
  rcases bind_eq_error.mp hread with h | ⟨items, -, hread⟩
  · exact ⟨_, by decide, h⟩
  rw [Logged.result_bind] at hread
  rcases bind_eq_error.mp hread with h | ⟨saved, -, hread⟩
  · exact nomatch (result_readSaved items).symm.trans h
  rw [Logged.result_bind] at hread
  rcases bind_eq_error.mp hread with h | ⟨logged, -, hread⟩
  · exact ⟨_, by decide, h⟩
  rw [Logged.result_bind] at hread
  rcases bind_eq_error.mp hread with h | ⟨entries, -, hread⟩
  · exact nomatch (result_readEntries logged).symm.trans h
  · exact nomatch hread

/-- A history cannot be read just if one of its lists is broken. -/
theorem ofFields_eq_error_iff {fields : List (String × Value)} :
    (ofFields fields).result = .error fault ↔ fault = .itemsExpected ∧ HasBrokenList fields := by
  constructor
  · intro h
    obtain ⟨key, hkey, hitems⟩ := itemsOf_eq_error_of_ofFields h
    obtain ⟨hfault, hv⟩ := itemsOf_eq_error_iff.mp hitems
    exact ⟨hfault, key, hkey, hv⟩
  · rintro ⟨rfl, key, hkey, hv⟩
    have hitems : itemsOf fields key = .error .itemsExpected :=
      itemsOf_eq_error_iff.mpr ⟨rfl, hv⟩
    cases hread : (ofFields fields).result with
    | ok h =>
      obtain ⟨items, hok⟩ := exists_itemsOf_of_ofFields hread key hkey
      exact nomatch hok.symm.trans hitems
    | error first =>
      obtain ⟨other, -, hother⟩ := itemsOf_eq_error_of_ofFields hread
      rw [(itemsOf_eq_error_iff.mp hother).1]

end Failure

end History
end MailSearch
