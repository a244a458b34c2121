import MailSearch.Proofs.Query.Filter
import MailSearch.Proofs.Search.Failure

/-!
# One more filter only narrows

What a record scores depends on the free text of the query alone, and the order of the hits on
their scores and dates. So a query with the same free text that fewer records pass finds those of
the hits whose records pass it, as they were and in their order. One more filter at the end of a
query's text makes such a query.
-/

namespace MailSearch

section Narrower

variable {q narrower : Query} {o : Search.Options} (htext : narrower.text = q.text)
include htext

/-- Queries with the same free text make the same hit of a record. -/
theorem Search.hitOf_eq_of_text : hitOf narrower o = hitOf q o := by
  funext r
  unfold hitOf scoreOf
  rw [htext]

variable {keep : Record → Bool} (hpasses : ∀ r, r.passes narrower = (r.passes q && keep r))
include hpasses

/-- A scan for a narrower query keeps some of the records that it kept. -/
theorem Scan.kept_eq_filter (rs : List Record) :
    kept rs narrower o = (kept rs q o).filter keep := by
  unfold kept
  rw [List.filter_filter, htext]
  apply List.filter_congr
  intro r _
  rw [hpasses, Bool.and_right_comm, Bool.and_comm]

/-- A scan for a narrower query gives the hits whose records it keeps, in their order. -/
theorem Scan.hits_eq_filter {rs : List Record} {found : List Hit} (h : hits rs q o = .ok found) :
    hits rs narrower o = .ok (found.filter (keep ·.record)) := by
  rw [hits_eq_map] at h
  obtain ⟨all, hall, rfl⟩ := map_eq_ok.mp h
  have hkept : ((kept rs q o).filter keep).mapM (Search.hitOf q o) =
      .ok (all.filter (keep ·.record)) :=
    mapM_filter (fun r hit hhit ↦ by rw [Search.record_of_hitOf hhit]) hall
  have hnan := forall_of_mapM (p := fun hit ↦ hit.score ≠ .nan) (fun _ _ ↦ Search.score_ne_nan) hall
  have hsort : (all.mergeSort (Search.precedes o.order)).filter (keep ·.record) =
      (all.filter (keep ·.record)).mergeSort (Search.precedes o.order) := by
    apply filter_mergeSort_of_rank (Search.rankOf o.order)
    intro a ha b hb
    exact Search.precedes_eq (hnan a ha) (hnan b hb)
  rw [hits_eq_map, kept_eq_filter htext hpasses, Search.hitOf_eq_of_text htext, hkept, hsort]
  rfl

end Narrower

/-- A search with a narrower query that may give as many hits as there are records gives the hits
whose records it keeps, in their order. -/
theorem Search.run_eq_filter {ix : Index} {q narrower : Query} {o : Search.Options}
    (h : ix.Consistent) (hsize : o.shingleSize = ix.shingleSize) (hlimit : ix.size ≤ o.limit)
    (htext : narrower.text = q.text) {keep : Record → Bool}
    (hpasses : ∀ r, r.passes narrower = (r.passes q && keep r)) {found : List Hit}
    (hrun : run ix q o = .ok found) :
    run ix narrower o = .ok (found.filter (keep ·.record)) := by
  rw [run_eq_scan h hsize, Scan.run_eq_hits hlimit] at hrun ⊢
  exact Scan.hits_eq_filter htext hpasses hrun

namespace Index

/-- However an index came to be, one more filter at the end of a query's text only narrows, if
every quote is closed that a field operator of the text opens, the text has no filter for the
same part of the query, and the search may give as many hits as there are records: if the search
for the text gives a result, then the search with the filter gives those of its hits whose
records pass the filter alone, as they were and in their order. -/
theorem searchText_append_filter (size : Int) (threshold : Binary64)
    (changes : List (Int × Change)) (s : Settings) (now : Int) (req : Request) :
    let ix := (empty size threshold).after changes
    ∀ (a : String) (o : Query.Filter) (limit : Int) (found : List Hit),
      Query.QuotesClosed a → o.reading.isOpenIn (Query.ofText a) →
      (chosenLimit req.limit s.searchLimit).result = .ok limit → ix.size ≤ limit →
      (ix.searchText s now a req).result = .ok found →
      (ix.searchText s now (a ++ " " ++ o.text) req).result =
        .ok (found.filter (·.record.passes (Query.ofText o.text))) := by
  intro ix a o limit found hclosed hopen hlimit hsize hfound
  have h : ix.Consistent := consistent_after (consistent_empty size threshold) changes
  obtain ⟨n, hn, hresult⟩ := result_searchText ix s now req
  obtain rfl := Except.ok.inj (hlimit.symm.trans hn)
  have hpasses (r : Record) : r.passes ((Query.ofText a).addReading o.reading) =
      (r.passes (Query.ofText a) && r.passes (Query.ofText o.text)) := by
    rw [Query.ofText_filter]
    exact Query.passes_addReading hopen r
  rw [hresult] at hfound ⊢
  rw [Query.ofText_append_filter hclosed]
  exact Search.run_eq_filter h rfl hsize (Query.text_addReading _ _) hpasses hfound

/-- Three emails answer a query for a sender and a word, two of them with the same score. A label
in capital and small letters, with white space around its value, leaves two in their order. -/
theorem searchText_append_filter_label :
    let s : Settings := { home := ⟨"/", []⟩ }
    let mail (id subject : String) (labels : List String) : Item :=
      .record { id, subject, sender := "ann@example.com", labels, tokens := tokenize subject }
    let changes : List (Int × Change) :=
      [(1, .insertAll [mail "a" "Plan" ["work"], mail "b" "Plan" ["home"],
        mail "c" "The plan of the plan" ["home", "work"]])]
    let ix := (empty 3 .zero).after changes
    let a := "plan from:\"Ann\""
    let o : Query.Filter :=
      .field .label ⟨"LaBeL".toList, rfl⟩ " work ".toList (by decide) ⟨'w', by decide, rfl⟩
    let req : Request := { limit := some 3 }
    let ids (outcome : Except Fault (List Hit)) := outcome.toOption.map (·.map (·.record.id))
    ∃ found, (ix.searchText s 2 a req).result = .ok found ∧
      (ix.searchText s 2 (a ++ " " ++ o.text) req).result =
        .ok (found.filter (·.record.passes (Query.ofText o.text))) ∧
      ids (.ok found) = some ["c", "a", "b"] ∧
      ids (ix.searchText s 2 (a ++ " " ++ o.text) req).result = some ["c", "a"] := by
  intro s mail changes ix a o req ids
  have hclosed : Query.QuotesClosed a := by decide +kernel
  have hopen : o.reading.isOpenIn (Query.ofText a) := by decide +kernel
  have hsize : ix.size ≤ (3 : Int) := by decide +kernel
  have hids : ids (ix.searchText s 2 a req).result = some ["c", "a", "b"] := by decide +kernel
  cases hfound : (ix.searchText s 2 a req).result with
  | error fault =>
    rw [hfound] at hids
    exact nomatch hids
  | ok found =>
    rw [hfound] at hids
    exact ⟨found, rfl,
      searchText_append_filter 3 .zero changes s 2 req a o 3 found hclosed hopen rfl hsize hfound,
      hids, by decide +kernel⟩

end Index
end MailSearch
