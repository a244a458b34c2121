import MailSearch.Proofs.Snapshot
import MailSearch.Proofs.Snapshot.Failure

/-!
# The figures of a snapshot

A snapshot holds the figures of its index, but loading it does not look at them: the figures of
the index that it is loaded into follow from the records. Their number and the size are what was
stored. The time of the last insertion is not; it is the time of loading, and zero if there are
no records.
-/

namespace MailSearch

namespace Index

/-- Records of a consistent index that are put in place of what another one held give it the
figures of the first, but for the time of the last insertion. -/
theorem stats_restore {ix : Index} (h : ix.Consistent) (target : Index) (now : Int) :
    (target.restore now ix.records).stats = { ix.stats with
      lastIndexedAt := if ix.records.isEmpty then target.lastIndexedAt else now } := by
  have hrecords := records_restore target now h.ids
  have htokens := (consistent_restore target now ix.records).tokens
  rw [hrecords] at htokens
  have htime : (target.restore now ix.records).lastIndexedAt =
      if ix.records.isEmpty then target.lastIndexedAt else now :=
    congrArg lastIndexedAt (restore_of_nodup target now h.ids)
  simp only [stats, size, hrecords, htime, htokens.keyLength_eq h.tokens,
    htokens.load_eq h.tokens]

end Index

namespace History

/-- What a history is written as has no broken list. -/
theorem not_hasBrokenList_toFields (h : History) : ¬HasBrokenList h.toFields := by
  rintro ⟨key, hkey, v, hv, hitems⟩
  have hlist : ∃ items, v = .list items := by
    simp only [listKeys, List.mem_cons, List.not_mem_nil, or_false] at hkey
    rcases hkey with rfl | rfl | rfl <;> exact ⟨_, (Option.some.inj hv).symm⟩
  obtain ⟨items, rfl⟩ := hlist
  exact Bool.noConfusion hitems

end History

namespace Snapshot

variable {d : Disk} {p : Path} {ix : Index} {history : Option History} {canSecure : Bool}
  {nesting : Nesting}

section Writing

private theorem writeFile_of_writeBeside {temporary : Path} {doc : Value} {written : Disk}
    (h : writeBeside d temporary doc = (written, .ok ())) :
    ∃ text, Json.write .compact doc = (text, none) ∧
      d.writeFile temporary (.text text) = .ok written := by
  unfold writeBeside at h
  dsimp only at h
  split at h
  · exact nomatch h
  · next written hwritten =>
    split at h
    · exact nomatch h
    · next hnone =>
      cases h
      exact ⟨_, Prod.ext rfl hnone, hwritten⟩

/-- A snapshot that was written is a file that holds the whole text of its document. -/
theorem holds_of_write (h : (write d p ix history canSecure).2.result = .ok ()) :
    ∃ text, Json.write .compact (document ix history) = (text, none) ∧
      (write d p ix history canSecure).1.Holds p (.text text) := by
  unfold write at h ⊢
  split at h
  · exact nomatch h
  · split at h
    · exact nomatch h
    · next made hmade temporary htemporary =>
      split at h
      · exact nomatch h
      · next written hwritten =>
        obtain ⟨text, htext, hfile⟩ := writeFile_of_writeBeside hwritten
        have hholds := Disk.holds_of_writeFile hfile
        have hsecured : (if canSecure then written.makePrivate temporary else written).Holds
            temporary (.text text) := by
          split
          · exact hholds.makePrivate
          · exact hholds
        dsimp only at h ⊢
        split at h
        · exact nomatch h
        · next moved hmoved =>
          refine ⟨text, htext, ?_⟩
          exact hsecured.moveFile hmoved

/-- A storable session can be written to a disk that accepts the path. -/
theorem result_write_of_accepts (hd : d.accepts p) {h : History} (hs : Session.Storable ⟨ix, h⟩) :
    (write d p ix (some h) true).2.result = .ok () := by
  obtain ⟨made, folder, hmade, hserves⟩ := Disk.serves_of_accepts hd
  obtain ⟨after, -, hresult, -⟩ := write_of_serves hserves hs
  rw [write_of_ensureFolders hmade hserves]
  exact hresult

/-- What the document of a storable session was written as is read back. -/
theorem read_document {h : History} (hs : Session.Storable ⟨ix, h⟩) {text : String}
    (htext : Json.write .compact (document ix (some h)) = (text, none)) :
    Json.read (limits nesting) (String.ofList (unifyLineEnds text.toList)) =
      .ok (document ix (some h)) := by
  obtain ⟨written, hwritten, hread⟩ := write_document hs
  obtain rfl := congrArg Prod.fst (htext.symm.trans hwritten)
  exact hread nesting

end Writing

section Loading

/-- Loading into a new index is to make one and to load into it. -/
theorem result_load {s : Settings} {fresh : Index} (hfresh : (freshIndex s).result = .ok fresh)
    (now : Int) :
    (load d p s now nesting).result = (loadInto d p now fresh nesting).2.result.map fun history ↦
      ⟨(loadInto d p now fresh nesting).1, history⟩ := by
  unfold load loadInto
  rw [Logged.result_bind]
  cases readStored d p nesting with
  | error fault => rfl
  | ok stored =>
    change (freshIndex s >>= _).result = _
    rw [Logged.result_bind, hfresh]
    change (fresh.importStored now stored.emails >>= _).result = _
    rw [Logged.result_bind]
    dsimp only
    cases himport : (fresh.importStored now stored.emails).result with
    | error fault => rfl
    | ok loaded =>
      change (loadHistory stored >>= _).result = _
      rw [Logged.result_bind]
      cases hhistory : (loadHistory stored).result <;> rfl

private theorem records_of_toValue {rs : List Record} (h : ∀ r ∈ rs, r.id ≠ "") :
    (rs.map Record.toValue).filterMap Record.readStored? = rs := by
  have hread : ∀ r ∈ rs, (Record.readStored? ∘ Record.toValue) r = some r :=
    fun r hr ↦ congrArg Except.toOption (Record.ofStored_toValue (h r hr))
  rw [List.filterMap_map, List.filterMap_congr hread, List.filterMap_some]

/-- The document of an index whose records have ids is loaded into any index as its records. -/
theorem loadInto_document (hids : ∀ r ∈ ix.records, r.id ≠ "")
    (h : readDocument d p nesting = .ok (document ix history)) (now : Int) (target : Index) :
    (loadInto d p now target nesting).1 = target.restore now ix.records ∧
      ∃ loaded, (loadInto d p now target nesting).2.result = .ok loaded := by
  have hobjects : (ix.records.map Record.toValue).all Value.isObject := by
    rw [List.all_map]
    exact List.all_eq_true.mpr fun r _ ↦ rfl
  obtain ⟨hindex, hresult⟩ := loadInto_of_objects (readStored_of_document h) hobjects now target
  rw [Stored.records, records_of_toValue hids] at hindex
  refine ⟨hindex, ?_⟩
  rw [hresult]
  cases hhistory : (loadHistory ⟨ix.records.map Record.toValue, history.map _⟩).result with
  | ok loaded => exact ⟨loaded, rfl⟩
  | error fault =>
    obtain ⟨-, fields, hfields, hbroken⟩ := loadHistory_eq_error_iff.mp hhistory
    obtain ⟨written, -, rfl⟩ := Option.map_eq_some_iff.mp hfields
    exact absurd hbroken written.not_hasBrokenList_toFields

end Loading

/-- The figures that are stored in a document. -/
def figures? : Value → Option Value
  | .object fields => Value.lookup? "stats" fields
  | _ => none

section Figures

/-- A snapshot that was written holds the figures of its index. Loaded into another index at a
time it gives these figures, but for the time of the last insertion, which is that of loading; if
there are no records it is what it was in the other index. -/
theorem stats_loadInto_write (hix : ix.Consistent) (hids : ∀ r ∈ ix.records, r.id ≠ "")
    (hwrite : (write d p ix history canSecure).2.result = .ok ())
    (hjson : ∀ text, Json.write .compact (document ix history) = (text, none) →
      Json.read (limits nesting) (String.ofList (unifyLineEnds text.toList)) =
        .ok (document ix history)) :
    let written := (write d p ix history canSecure).1
    (readDocument written p nesting).map figures? = .ok (some (.object ix.stats.toFields)) ∧
      ∀ now (target : Index),
        (∃ loaded, (loadInto written p now target nesting).2.result = .ok loaded) ∧
        (loadInto written p now target nesting).1.stats = { ix.stats with
          lastIndexedAt := if ix.records.isEmpty then target.lastIndexedAt else now } := by
  intro written
  obtain ⟨text, htext, hholds⟩ := holds_of_write hwrite
  have hdocument : readDocument written p nesting = .ok (document ix history) :=
    readDocument_of_holds hholds (hjson text htext)
  refine ⟨by rw [hdocument]; rfl, fun now target ↦ ?_⟩
  obtain ⟨hindex, hloaded⟩ := loadInto_document hids hdocument now target
  exact ⟨hloaded, hindex ▸ Index.stats_restore hix target now⟩

/-- However an index came to be whose records have ids, a snapshot of it that was written is read
back with the figures of the index in it. Loaded into a new index, by a program of its own or in
the usual way, it gives the stored number of emails and the stored size, but the time of loading
as the time of the last insertion, or zero without emails. So the figures are those that were
stored exactly if the stored time happens to be this one. Reading is taken to give the document
whose text was written. -/
theorem loaded_stats_iff (hix : ix.Reachable) (hids : ∀ r ∈ ix.exported, r.id ≠ "")
    (hwrite : (write d p ix history canSecure).2.result = .ok ())
    (hjson : ∀ text, Json.write .compact (document ix history) = (text, none) →
      Json.read (limits nesting) (String.ofList (unifyLineEnds text.toList)) =
        .ok (document ix history)) :
    let written := (write d p ix history canSecure).1
    (readDocument written p nesting).map figures? = .ok (some (.object ix.stats.toFields)) ∧
      ∀ now,
        let time := if ix.records.isEmpty then 0 else now
        let figures : Index.Stats := { ix.stats with lastIndexedAt := time }
        (∀ size threshold,
          let after := loadInto written p now (.empty size threshold) nesting
          after.2.result.isOk ∧ after.1.stats = figures) ∧
        (∀ s, ∃ session, (load written p s now nesting).result = .ok session ∧
          session.index.stats = figures) ∧
        (figures = ix.stats ↔ ix.stats.lastIndexedAt = time) := by
  intro written
  obtain ⟨hfigures, hinto⟩ := stats_loadInto_write hix.consistent hids hwrite hjson
  refine ⟨hfigures, ?_⟩
  intro now time figures
  refine ⟨fun size threshold ↦ ?_, fun s ↦ ?_, ?_⟩
  · obtain ⟨⟨loaded, hloaded⟩, hstats⟩ := hinto now (.empty size threshold)
    exact ⟨congrArg Except.isOk hloaded, hstats⟩
  · obtain ⟨threshold, hfresh⟩ := exists_freshIndex s
    obtain ⟨⟨loaded, hloaded⟩, hstats⟩ := hinto now (.empty 3 threshold)
    exact ⟨_, by rw [result_load hfresh, hloaded]; rfl, hstats⟩
  · constructor
    · intro h
      exact (congrArg Index.Stats.lastIndexedAt h).symm
    · intro h
      change { ix.stats with lastIndexedAt := time } = ix.stats
      rw [← h]

/-- A snapshot of one email, which is left after another was removed and which was indexed twice,
is loaded at its time of indexing and later. -/
theorem loaded_stats_iff_replaced :
    let ix := (Index.empty 3 .zero).after
      [(1, .insert (.record { id := "a", subject := "Rent", tokens := ["rent"] })),
        (2, .insert (.record { id := "b", tokens := ["apple"] })), (3, .erase "b"),
        (4, .insert (.record { id := "a", subject := "Rents", tokens := ["rents"] }))]
    let p := Path.ofText "mail/s.json"
    let written := (write {} p ix (some {}) true).1
    let loaded := fun now ↦ (loadInto written p now (.empty 5 .one)).1
    (loaded 4).stats = ix.stats ∧ (loaded 9).stats = { ix.stats with lastIndexedAt := 9 } := by
  intro ix p written loaded
  have hstorable : Session.Storable { index := ix } :=
    ⟨⟨by decide +kernel, by decide +kernel, History.storable_empty⟩, by decide +kernel⟩
  have hwrite : (write {} p ix (some {}) true).2.result = .ok () :=
    result_write_of_accepts (by decide +kernel) hstorable
  have hids : ∀ r ∈ ix.exported, r.id ≠ "" := by decide +kernel
  obtain ⟨-, hloaded⟩ := loaded_stats_iff ⟨3, .zero, _, rfl⟩ hids hwrite
    fun _ ↦ read_document hstorable
  have htime : ix.stats.lastIndexedAt = 4 := by decide +kernel
  exact ⟨((hloaded 4).1 5 .one).2.trans ((hloaded 4).2.2.mpr htime), ((hloaded 9).1 5 .one).2⟩

/-- An email that was indexed at one time and loaded from a snapshot at a later time was last
indexed, as it seems, at the later time, though the snapshot holds the earlier one. -/
theorem loaded_later :
    let ix := (Index.empty 3 .zero).after
      [(1, .insert (.record { id := "a", tokens := ["apple"] }))]
    let p := Path.ofText "s.json"
    let written := (write {} p ix (some {}) true).1
    (readDocument written p).map figures? = .ok (some (.object ix.stats.toFields)) ∧
      ix.stats.lastIndexedAt = 1 ∧ (loadInto written p 2 (.empty 3 .zero)).2.result.isOk ∧
      (loadInto written p 2 (.empty 3 .zero)).1.stats.lastIndexedAt = 2 := by
  intro ix p written
  have hstorable : Session.Storable { index := ix } :=
    ⟨⟨by decide +kernel, by decide +kernel, History.storable_empty⟩, by decide +kernel⟩
  have hwrite : (write {} p ix (some {}) true).2.result = .ok () :=
    result_write_of_accepts (by decide +kernel) hstorable
  have hix : ix.Reachable := ⟨3, .zero, _, rfl⟩
  have hids : ∀ r ∈ ix.records, r.id ≠ "" := by decide +kernel
  obtain ⟨hfigures, hinto⟩ := stats_loadInto_write hix.consistent hids hwrite
    fun _ ↦ read_document hstorable
  obtain ⟨⟨loaded, hloaded⟩, hstats⟩ := hinto 2 (.empty 3 .zero)
  refine ⟨hfigures, by decide +kernel, congrArg Except.isOk hloaded, ?_⟩
  exact congrArg Index.Stats.lastIndexedAt hstats

end Figures

end Snapshot
end MailSearch
