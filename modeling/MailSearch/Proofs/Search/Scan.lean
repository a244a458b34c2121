import MailSearch.Proofs.Index.Consistency
import MailSearch.Proofs.Numeric.Order
import MailSearch.Proofs.Outcome
import MailSearch.Proofs.Search.Sorting
import MailSearch.Session

/-!
# Searching without tables

`Scan.hits` answers a query by looking at every record in the order of insertion: it never
looks at the tables of an index, and says by itself what a hit is and which hit stands before
which. A search of a reachable index gives what the scan of its records gives, so the tables only
save work.
-/

namespace MailSearch

namespace Scan

/-- Whether a record holds one of the tokens that are sought or, in a fuzzy search, has a
shingle of one in its subject. -/
def isSought (fuzzy : Bool) (size : Int) (sought : List String) (r : Record) : Bool :=
  sought.any fun token ↦ r.tokens.contains token ||
    fuzzy && (shingles size token).any ((shingles size r.subject).contains ·)

/-- The records that answer a query, in the order in which they stand. -/
def kept (rs : List Record) (q : Query) (o : Search.Options) : List Record :=
  rs.filter fun r ↦
    r.passes q && (q.text.isEmpty || isSought o.fuzzy o.shingleSize (tokenize q.text) r)

/-- The points of a record for a query: one if there is no free text, and else those of the tokens
that are sought. -/
def scoreOf (q : Query) (o : Search.Options) (r : Record) : Score :=
  if q.text.isEmpty then { points := 1 }
  else Score.ofRecord r (if o.fuzzy then some o.threshold else none) (tokenize q.text)

/-- The hit of a record: its points, multiplied for a recent email and for a starred one. -/
def hitOf (q : Query) (o : Search.Options) (r : Record) : Except Fault Hit := do
  let own := scoreOf q o r
  let score ← Boost.apply (Binary64.ofInt own.points) r.date r.isStarred o.now
  return ⟨r, score, own.highlights⟩

/-- Whether a hit stands before another or equal to it: it is not older, or has no lower score. -/
def isAtLeast (order : Order) (a b : Hit) : Bool :=
  match order with
  | .relevance => b.score.le a.score
  | .date => b.record.date ≤ a.record.date

/-- The hits of all records that answer a query, sorted so that equal ones keep their
order. -/
def hits (rs : List Record) (q : Query) (o : Search.Options) : Except Fault (List Hit) := do
  let found ← (kept rs q o).mapM (hitOf q o)
  return found.mergeSort (isAtLeast o.order)

/-- The first hits of a scan, as many as the limit allows; without a limit above zero
nothing is looked at. -/
def run (rs : List Record) (q : Query) (o : Search.Options) : Except Fault (List Hit) :=
  if o.limit ≤ 0 then .ok [] else (hits rs q o).map (·.take o.limit.toNat)

/-- A search gives a record the score that a scan gives it. -/
theorem scoreOf_eq (q : Query) (o : Search.Options) (r : Record) :
    Search.scoreOf q o r = (Binary64.ofInt (scoreOf q o r).points, (scoreOf q o r).highlights) := by
  have hone : Binary64.one = Binary64.ofInt (1 : Nat) := by decide +kernel
  unfold Search.scoreOf scoreOf
  split
  · exact congrArg (·, []) hone
  · rfl

/-- A search makes the hit of a record that a scan makes. -/
theorem hitOf_eq (q : Query) (o : Search.Options) : hitOf q o = Search.hitOf q o := by
  funext r
  unfold hitOf Search.hitOf
  rw [scoreOf_eq, bind_pure_comp]
  rfl

/-- A search puts hits in the order in which a scan puts them. -/
theorem isAtLeast_eq (order : Order) : isAtLeast order = Search.precedes order := by
  cases order <;> rfl

/-- The hits are those that a search makes of the records that are kept, and then sorted. -/
theorem hits_eq_map (rs : List Record) (q : Query) (o : Search.Options) :
    hits rs q o =
      ((kept rs q o).mapM (Search.hitOf q o)).map (·.mergeSort (Search.precedes o.order)) := by
  rw [← hitOf_eq, ← isAtLeast_eq]
  rfl

end Scan

namespace Search

variable {q : Query} {o : Options}

private theorem isFactor_starred : Boost.starred.isFactor := by decide +kernel

private theorem isFactor_recency : ∀ boost ∈ Boost.recency, boost.2.isFactor := by decide +kernel

private theorem isFactor_of_mem {isStarred : Bool} {age factor : Binary64}
    (h : factor ∈ Boost.factorsAt isStarred age) : factor.isFactor := by
  unfold Boost.factorsAt at h
  rcases List.mem_append.mp h with hrecent | hstar
  · obtain ⟨boost, hboost, rfl⟩ := Option.map_eq_some_iff.mp (Option.mem_toList.mp hrecent)
    exact isFactor_recency boost (List.mem_of_find?_eq_some hboost)
  · cases isStarred with
    | false => simp at hstar
    | true =>
      have hfactor : factor = Boost.starred := by simpa using hstar
      rw [hfactor]
      exact isFactor_starred

private theorem scoreOf_ne_nan (r : Record) : (scoreOf q o r).1 ≠ .nan := by
  unfold scoreOf
  split
  · dsimp only
    exact Binary64.one_ne_nan
  · dsimp only
    exact Binary64.ofInt_ne_nan _

/-- A hit is made of its record, if the age of the record is a number: its score is
multiplied by the factors for that age. -/
theorem hitOf_eq_ok_iff {r : Record} {hit : Hit} :
    hitOf q o r = .ok hit ↔ ∃ age, Boost.ageInDays r.date o.now = .ok age ∧
      hit = ⟨r, (Boost.factorsAt r.isStarred age).foldl Binary64.mul (scoreOf q o r).1,
        (scoreOf q o r).2⟩ := by
  simp only [hitOf, Boost.apply, Boost.factors]
  cases hage : Boost.ageInDays r.date o.now with
  | error fault => simp [Except.map]
  | ok age => simp [Except.map, eq_comm]

/-- The record of a hit is the one it was made of. -/
theorem record_of_hitOf {r : Record} {hit : Hit} (h : hitOf q o r = .ok hit) : hit.record = r := by
  obtain ⟨age, -, rfl⟩ := hitOf_eq_ok_iff.mp h
  rfl

/-- The score of a hit is a number. -/
theorem score_ne_nan {r : Record} {hit : Hit} (h : hitOf q o r = .ok hit) : hit.score ≠ .nan := by
  obtain ⟨age, -, rfl⟩ := hitOf_eq_ok_iff.mp h
  exact Binary64.foldl_mul_ne_nan (scoreOf_ne_nan r) fun _ ↦ isFactor_of_mem

/-- What hits are ranked by: the date, or the place of the score among all numbers. -/
def rankOf (order : Order) (hit : Hit) : Int :=
  match order with
  | .date => hit.record.date
  | .relevance => hit.score.place

/-- Hits whose scores are numbers are ordered by their rank. -/
theorem precedes_eq {order : Order} {a b : Hit} (ha : a.score ≠ .nan)
    (hb : b.score ≠ .nan) : precedes order a b = decide (rankOf order b ≤ rankOf order a) := by
  cases order with
  | date => rfl
  | relevance => exact Binary64.le_eq_decide_place hb ha

/-- Ranking sorts the hits of the records that pass by a stable sort. -/
theorem rank_eq_mergeSort (rs : List Record) :
    rank q o rs =
      ((rs.filter (·.passes q)).mapM (hitOf q o)).map (·.mergeSort (precedes o.order)) := by
  unfold rank
  cases hfound : (rs.filter (·.passes q)).mapM (hitOf q o) with
  | error fault => rfl
  | ok found =>
    have hnan := forall_of_mapM (p := fun hit ↦ hit.score ≠ .nan) (fun _ _ ↦ score_ne_nan) hfound
    have hsort : sortStable (precedes o.order) found = found.mergeSort (precedes o.order) := by
      apply sortStable_eq_mergeSort_of_rank (rankOf o.order)
      intro a ha b hb
      exact precedes_eq (hnan a ha) (hnan b hb)
    exact congrArg Except.ok hsort

variable {ix : Index} {found : List Hit}

/-- A search gives no more hits than there are records. -/
theorem length_le_of_run (h : run ix q o = .ok found) : found.length ≤ ix.size := by
  unfold run hits at h
  split at h
  · rw [rank_eq_mergeSort] at h
    obtain ⟨sorted, hsorted, rfl⟩ := map_eq_ok.mp h
    obtain ⟨all, hall, rfl⟩ := map_eq_ok.mp hsorted
    have hrecords : all.map (·.record) = (soughtRecords ix q o).filter (·.passes q) :=
      map_of_mapM (fun _ _ ↦ record_of_hitOf) hall
    have hsought : (soughtRecords ix q o).length ≤ ix.size := by
      unfold soughtRecords
      split
      · exact Nat.le_refl _
      · exact List.length_filter_le _ _
    calc
      ((all.mergeSort (precedes o.order)).take o.limit.toNat).length
          ≤ (all.mergeSort (precedes o.order)).length := List.length_take_le' _ _
      _ = (all.map (·.record)).length := by rw [List.length_mergeSort, List.length_map]
      _ ≤ (soughtRecords ix q o).length := by rw [hrecords]; exact List.length_filter_le _ _
      _ ≤ ix.size := hsought
  · obtain rfl := Except.ok.inj h
    exact Nat.zero_le _

/-- The tables lead a search to the records that a scan would keep. -/
theorem mem_candidates_iff (h : ix.Consistent) (hsize : o.shingleSize = ix.shingleSize)
    {r : Record} (hr : r ∈ ix.records) (sought : List String) :
    r.id ∈ candidates ix.tokens ix.shingles o.fuzzy o.shingleSize sought ↔
      Scan.isSought o.fuzzy o.shingleSize sought r := by
  have hget : ix.get? r.id = some r := (h.get?_eq_some_iff r.id r).mpr ⟨hr, rfl⟩
  have htoken (token : String) : r.id ∈ ix.tokens.ids token ↔ token ∈ r.tokens := by
    rw [h.mem_ids_iff h.tokens, hget]
    simp
  have hshingle (shingle : String) :
      r.id ∈ ix.shingles.ids shingle ↔ shingle ∈ shingles o.shingleSize r.subject := by
    rw [h.mem_ids_iff h.shingles, hget, hsize]
    simp [Index.shinglesOf]
  simp only [candidates, candidatesOf, Scan.isSought, List.mem_flatMap, List.mem_append,
    List.any_eq_true, Bool.or_eq_true, Bool.and_eq_true, List.contains_iff_mem, htoken]
  apply exists_congr
  intro token
  apply and_congr_right
  intro _
  apply or_congr_right
  cases o.fuzzy with
  | false => simp
  | true => simp [hshingle]

/-- A search looks at the records that a scan keeps, once the filters are applied. -/
theorem filter_soughtRecords (h : ix.Consistent) (hsize : o.shingleSize = ix.shingleSize) :
    (soughtRecords ix q o).filter (·.passes q) = Scan.kept ix.records q o := by
  unfold soughtRecords Scan.kept
  split
  · next hempty => simp [hempty]
  · next hempty =>
    rw [List.filter_filter]
    apply List.filter_congr
    intro r hr
    have hsought := mem_candidates_iff h hsize hr (tokenize q.text)
    rw [← List.contains_iff_mem, ← Bool.eq_iff_iff] at hsought
    rw [hsought, Bool.eq_false_iff.mpr hempty, Bool.false_or]

/-- The hits of a search of a consistent index are those of a scan of its records. -/
theorem hits_eq_scan (h : ix.Consistent) (hsize : o.shingleSize = ix.shingleSize) :
    hits ix q o = Scan.hits ix.records q o := by
  unfold hits
  rw [rank_eq_mergeSort, filter_soughtRecords h hsize, Scan.hits_eq_map]

/-- A search of a consistent index gives what a scan of its records gives. -/
theorem run_eq_scan (h : ix.Consistent) (hsize : o.shingleSize = ix.shingleSize) :
    run ix q o = Scan.run ix.records q o := by
  unfold run isActive Scan.run
  by_cases hlimit : o.limit ≤ 0
  · have hpositive : ¬0 < o.limit := by omega
    simp [hlimit, hpositive]
  · have hpositive : 0 < o.limit := by omega
    simp only [hlimit, hpositive, decide_true, Bool.true_and, if_false]
    cases hrecords : ix.records with
    | cons r rs =>
      rw [hits_eq_scan h hsize, hrecords]
      rfl
    | nil =>
      -- an empty index is not searched, and a scan of nothing finds nothing
      simp [Scan.hits, Scan.kept, Except.map, pure, Except.pure, bind, Except.bind]

end Search

namespace Scan

variable {rs : List Record} {q : Query} {o : Search.Options} {found : List Hit}

/-- The hits of a scan are made of the records that it keeps. -/
theorem records_perm_of_hits (h : hits rs q o = .ok found) :
    (found.map (·.record)).Perm (kept rs q o) := by
  rw [hits_eq_map] at h
  obtain ⟨all, hall, rfl⟩ := map_eq_ok.mp h
  have hrecords : all.map (·.record) = kept rs q o :=
    map_of_mapM (fun _ _ ↦ Search.record_of_hitOf) hall
  rw [← hrecords]
  exact (List.mergeSort_perm all _).map _

/-- A scan that may give as many hits as there are records gives all. -/
theorem run_eq_hits (hlimit : rs.length ≤ o.limit) : run rs q o = hits rs q o := by
  unfold run
  split
  · have hnil : rs = [] := List.eq_nil_of_length_eq_zero (by omega)
    rw [hnil, hits_eq_map]
    simp [kept, pure, Except.pure, Except.map]
  · cases hall : hits rs q o with
    | error fault => rfl
    | ok all =>
      have hlength : all.length ≤ rs.length := by
        rw [← List.length_map (·.record), (records_perm_of_hits hall).length_eq]
        exact List.length_filter_le _ _
      exact congrArg Except.ok (List.take_of_length_le (by omega))

end Scan

namespace Search

variable {q : Query} {o : Options}

/-- No record stands twice among the hits of a scan of records with distinct ids. -/
theorem nodup_of_scan {rs : List Record} {found : List Hit} (hrs : (rs.map (·.id)).Nodup)
    (h : Scan.run rs q o = .ok found) : (found.map (·.record.id)).Nodup := by
  unfold Scan.run at h
  split at h
  · obtain rfl := Except.ok.inj h
    exact List.nodup_nil
  · obtain ⟨sorted, hsorted, rfl⟩ := map_eq_ok.mp h
    have hids : (sorted.map (·.record.id)).Perm ((Scan.kept rs q o).map (·.id)) := by
      have hperm := (Scan.records_perm_of_hits hsorted).map (·.id)
      rw [List.map_map] at hperm
      exact hperm
    have hnodup : (sorted.map (·.record.id)).Nodup :=
      hids.nodup_iff.mpr (hrs.sublist (List.filter_sublist.map _))
    exact hnodup.sublist ((List.take_sublist _ _).map _)

/-- A scan with a smaller limit gives the first hits of one with a larger limit. -/
theorem prefix_of_scan {rs : List Record} {few many : List Hit} {m n : Int} (hmn : m ≤ n)
    (hfew : Scan.run rs q { o with limit := m } = .ok few)
    (hmany : Scan.run rs q { o with limit := n } = .ok many) : few <+: many := by
  unfold Scan.run at hfew hmany
  dsimp only at hfew hmany
  split at hfew
  · obtain rfl := Except.ok.inj hfew
    exact List.nil_prefix
  · next hm =>
    rw [if_neg (by omega)] at hmany
    -- the limit has no part in what is scanned
    change (Scan.hits rs q o).map _ = _ at hfew hmany
    obtain ⟨all, hall, rfl⟩ := map_eq_ok.mp hfew
    rw [hall] at hmany
    obtain rfl := Except.ok.inj hmany
    exact List.take_prefix_take_left (by omega)

end Search

namespace Index

/-- The settings of a search that a request with a limit asks for. -/
def searchOptions (ix : Index) (s : Settings) (now : Int) (limit : Nat) (req : Request) :
    Search.Options :=
  ⟨limit, req.fuzzy.getD s.isFuzzy, req.order, ix.threshold, ix.shingleSize, req.now.getD now⟩

/-- A search of an index with a limit is a search with the settings of the request. -/
theorem searchText_result (ix : Index) (s : Settings) (now : Int) (text : String) (limit : Nat)
    (req : Request) :
    (ix.searchText s now text { req with limit := some limit }).result =
      Search.run ix (Query.ofText text) (ix.searchOptions s now limit req) := by
  have hlimit : ¬(limit : Int) < 0 := by omega
  have hoptions : ({ req with limit := some (limit : Int) } : Request).options s ix now =
      ⟨[], .ok (ix.searchOptions s now limit req)⟩ := by
    unfold Request.options chosenLimit
    simp only [hlimit, if_false]
    rfl
  unfold searchText
  rw [hoptions]
  exact Search.reported_result ix (Query.ofText text) _ (Query.events text)

/-- However an index came to be, a search with a limit gives the first hits of a scan of
its records that never looks at the tables. No record stands twice among them, and a
smaller limit gives the first of them. -/
theorem search_eq_scan (size : Int) (threshold : Binary64) (changes : List (Int × Change))
    (s : Settings) (now : Int) (text : String) (req : Request) :
    let ix := (empty size threshold).after changes
    let search (limit : Nat) := (ix.searchText s now text { req with limit := some limit }).result
    (∀ limit, search limit =
      Scan.run ix.records (Query.ofText text) (ix.searchOptions s now limit req)) ∧
      (∀ limit hits, search limit = .ok hits → (hits.map (·.record.id)).Nodup) ∧
      ∀ m n few many, m ≤ n → search m = .ok few → search n = .ok many → few <+: many := by
  intro ix search
  have h : ix.Consistent := consistent_after (consistent_empty size threshold) changes
  have hscan (limit : Nat) : search limit =
      Scan.run ix.records (Query.ofText text) (ix.searchOptions s now limit req) := by
    rw [← Search.run_eq_scan h rfl]
    exact searchText_result ix s now text limit req
  refine ⟨hscan, ?_, ?_⟩
  · intro limit hits hhits
    exact Search.nodup_of_scan h.ids ((hscan limit).symm.trans hhits)
  · intro m n few many hmn hfew hmany
    exact Search.prefix_of_scan (o := ix.searchOptions s now n req) (Int.ofNat_le.mpr hmn)
      ((hscan m).symm.trans hfew) ((hscan n).symm.trans hmany)

/-- Of four emails that answer a word the recent one comes first. The others score alike, the
starred one among them by a part of the word and its factor, so they stay as they came; by date the
starred one comes second. -/
theorem search_eq_scan_ranked :
    let s : Settings := { home := ⟨"/", []⟩ }
    let day (n : Int) : Int := n * Date.millisPerDay
    let mail (id subject : String) (date : Int) (isStarred : Bool) : Item :=
      .record { id, subject, date, isStarred, tokens := tokenize subject }
    let changes : List (Int × Change) :=
      [(1, .insertAll [mail "a" "Plan" (day 20) false, mail "b" "Plans" (day 40) true,
        mail "c" "Rent" (day 99) false, mail "d" "Plan" (day 99) false,
        mail "e" "Plan" (day 20) false])]
    let ix := (empty 3 .zero).after changes
    let req (order : Order) : Request := { fuzzy := some true, order }
    let search (order : Order) (limit : Nat) :=
      (ix.searchText s (day 100) "plan" { req order with limit := some limit }).result
    let scan (order : Order) (limit : Nat) :=
      Scan.run ix.records (Query.ofText "plan") (ix.searchOptions s (day 100) limit (req order))
    let shown (outcome : Except Fault (List Hit)) :=
      outcome.map (·.map fun hit ↦ (hit.record.id, hit.score))
    (∀ order limit, search order limit = scan order limit) ∧
      shown (scan .relevance 5) = .ok [("d", Binary64.ofRatio 39 2), ("a", Binary64.ofInt 13),
        ("b", Binary64.ofInt 13), ("e", Binary64.ofInt 13)] ∧
      shown (scan .date 2) = .ok [("d", Binary64.ofRatio 39 2), ("b", Binary64.ofInt 13)] := by
  intro s day mail changes ix req search scan shown
  have hscan (order : Order) (limit : Nat) : search order limit = scan order limit :=
    (search_eq_scan 3 .zero changes s (day 100) "plan" (req order)).1 limit
  refine ⟨hscan, ?_, ?_⟩
  · rw [← hscan]
    decide +kernel
  · rw [← hscan]
    decide +kernel

end Index
end MailSearch
