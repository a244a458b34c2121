import MailSearch.Proofs.Search.Scoring
import Mathlib.Algebra.Order.BigOperators.Group.List
import Mathlib.Algebra.Order.Ring.Nat

/-!
# Fuzziness only adds

A fuzzy search looks at all records that an exact one looks at, so it finds them all if it may give
as many hits as there are records. What a record scores does not fall when near misses count, nor
when the threshold for them grows, and the highlights stay the same.
-/

namespace MailSearch

namespace Score

variable {r : Record}

/-- A record does not score less if near misses count. -/
theorem points_le_of_fuzzy (r : Record) (threshold : Binary64) (tokens : List String) :
    (ofRecord r none tokens).points ≤ (ofRecord r (some threshold) tokens).points := by
  simp only [ofRecord, total_eq_sum]
  apply List.sum_le_sum
  intro token _
  simp only [tokenScore]
  omega

/-- With a greater threshold no fewer tokens of a record are similar. -/
theorem similarCount_mono {low high : Binary64} (h : low.le high) (token : String) :
    similarCount r token low ≤ similarCount r token high := by
  apply List.countP_mono_left
  intro own _
  exact isSimilar_mono h

/-- A record does not score less with a greater threshold. -/
theorem points_mono {low high : Binary64} (h : low.le high) (tokens : List String) :
    (ofRecord r (some low) tokens).points ≤ (ofRecord r (some high) tokens).points := by
  simp only [ofRecord, total_eq_sum]
  apply List.sum_le_sum
  intro token _
  have hcount : similarCount r token low ≤ similarCount r token high := similarCount_mono h token
  simp only [tokenScore, similarPoints]
  omega

end Score

section Hits

variable {ix : Index} {q : Query} {o : Search.Options} {r : Record} {rs : List Record}

/-- A fuzzy scan keeps what an exact one keeps. -/
theorem Scan.mem_kept_of_exact (h : r ∈ kept rs q { o with fuzzy := false }) :
    r ∈ kept rs q { o with fuzzy := true } := by
  simp only [kept, isSought, List.mem_filter, Bool.and_eq_true, Bool.or_eq_true, List.any_eq_true,
    Bool.false_and, Bool.false_eq_true, or_false] at *
  obtain ⟨hr, hpasses, hsought⟩ := h
  refine ⟨hr, hpasses, hsought.imp_right ?_⟩
  rintro ⟨token, htoken, hown⟩
  exact ⟨token, htoken, .inl hown⟩

/-- What a search finds is kept by a scan. -/
theorem Search.mem_kept_of_run {found : List Hit} (h : ix.Consistent)
    (hsize : o.shingleSize = ix.shingleSize) (hrun : run ix q o = .ok found) {hit : Hit}
    (hhit : hit ∈ found) : hit.record ∈ Scan.kept ix.records q o := by
  rw [run_eq_scan h hsize, Scan.run] at hrun
  split at hrun
  · cases hrun
    exact absurd hhit List.not_mem_nil
  · obtain ⟨all, hall, rfl⟩ := map_eq_ok.mp hrun
    apply (Scan.records_perm_of_hits hall).mem_iff.mp
    exact List.mem_map_of_mem (List.mem_of_mem_take hhit)

/-- A fuzzy search that may give as many hits as there are records finds what an exact one finds. -/
theorem Search.records_subset_of_fuzzy {exact found : List Hit} (h : ix.Consistent)
    (hsize : o.shingleSize = ix.shingleSize) (hlimit : ix.size ≤ o.limit)
    (hexact : run ix q { o with fuzzy := false } = .ok exact)
    (hfound : run ix q { o with fuzzy := true } = .ok found) :
    exact.map (·.record) ⊆ found.map (·.record) := by
  intro r hr
  obtain ⟨hit, hhit, rfl⟩ := List.mem_map.mp hr
  have hkept : hit.record ∈ Scan.kept ix.records q { o with fuzzy := false } :=
    mem_kept_of_run (o := { o with fuzzy := false }) h hsize hexact hhit
  exact List.mem_map.mpr (exists_hit_of_mem_kept (o := { o with fuzzy := true }) h hsize hlimit
    hfound (Scan.mem_kept_of_exact hkept))

end Hits

namespace Index

/-- However an index came to be, a fuzzy search that gives a result and may give as many hits as
there are records finds every record that an exact search for the same finds, whether the query is
a text or was read before. And a record scores for any tokens at most as much without near misses
as with them, no less with a greater threshold, and its highlights are the same. -/
theorem fuzzy_search_adds (size : Int) (threshold : Binary64) (changes : List (Int × Change))
    (s : Settings) (now : Int) (req : Request) :
    let ix := (empty size threshold).after changes
    let exactly : Request := { req with fuzzy := some false }
    let nearly : Request := { req with fuzzy := some true }
    (∀ limit, (chosenLimit req.limit s.searchLimit).result = .ok limit → ix.size ≤ limit →
      (∀ text exact found, (ix.searchText s now text exactly).result = .ok exact →
        (ix.searchText s now text nearly).result = .ok found →
        exact.map (·.record) ⊆ found.map (·.record)) ∧
      ∀ q exact found, (ix.searchQuery s now q exactly).result = .ok exact →
        (ix.searchQuery s now q nearly).result = .ok found →
        exact.map (·.record) ⊆ found.map (·.record)) ∧
    ∀ (r : Record) (tokens : List String) (low high : Binary64), low.le high →
      let score (fuzzy : Option Binary64) := Score.ofRecord r fuzzy tokens
      (score none).points ≤ (score (some low)).points ∧
        (score (some low)).points ≤ (score (some high)).points ∧
        (score none).highlights = (score (some low)).highlights ∧
        (score (some low)).highlights = (score (some high)).highlights := by
  intro ix exactly nearly
  have h : ix.Consistent := consistent_after (consistent_empty size threshold) changes
  constructor
  · intro limit hlimit hsize
    have hquery : ∀ q exact found, (ix.searchQuery s now q exactly).result = .ok exact →
        (ix.searchQuery s now q nearly).result = .ok found →
        exact.map (·.record) ⊆ found.map (·.record) := by
      intro q exact found hexact hfound
      obtain ⟨m, hm, hresult⟩ := result_searchQuery ix s now exactly
      obtain ⟨n, hn, hresult'⟩ := result_searchQuery ix s now nearly
      -- both searches take the same limit
      obtain rfl := Except.ok.inj (hlimit.symm.trans hm)
      obtain rfl : m = n := by exact_mod_cast Except.ok.inj (hm.symm.trans hn)
      exact Search.records_subset_of_fuzzy (o := ix.searchOptions s now m req) h rfl hsize
        ((hresult q).symm.trans hexact) ((hresult' q).symm.trans hfound)
    refine ⟨fun text exact found ↦ ?_, hquery⟩
    rw [result_searchText_eq, result_searchText_eq]
    exact hquery (Query.ofText text) exact found
  · intro r tokens low high hle score
    exact ⟨Score.points_le_of_fuzzy r low tokens, Score.points_mono hle tokens, rfl, rfl⟩

/-- A fuzzy search for a word with one letter too few finds the email that has the word besides the
one that an exact search finds, and the word scores for it from some threshold on. -/
theorem fuzzy_search_adds_near :
    let s : Settings := { home := ⟨"/", []⟩ }
    let r : Record := { id := "a", subject := "Invoices", tokens := ["invoices"] }
    let ix := (empty 3 .zero).after [(1, .insert (.record r)),
      (2, .insert (.record { id := "b", subject := "Rent", tokens := ["invoce", "rent"] }))]
    let req (fuzzy : Bool) : Request := { limit := some 2, fuzzy := some fuzzy }
    let points (fuzzy : Option Binary64) := (Score.ofRecord r fuzzy ["invoce"]).points
    ∃ exact found, (ix.searchText s 3 "invoce" (req false)).result = .ok exact ∧
      (ix.searchText s 3 "invoce" (req true)).result = .ok found ∧
      exact.map (·.record) ⊆ found.map (·.record) ∧ (exact.length = 1 ∧ found.length = 2) ∧
      Binary64.le (.ofRatio 1 10) (.ofRatio 3 10) ∧
      (points none ≤ points (some (.ofRatio 1 10)) ∧
        points (some (.ofRatio 1 10)) ≤ points (some (.ofRatio 3 10))) ∧
      points (some (.ofRatio 1 10)) = 0 ∧ points (some (.ofRatio 3 10)) = 1 := by
  intro s r ix req points
  obtain ⟨hfinds, hscores⟩ := fuzzy_search_adds 3 .zero
    [(1, .insert (.record r)),
      (2, .insert (.record { id := "b", subject := "Rent", tokens := ["invoce", "rent"] }))]
    s 3 (req true)
  have hlength (outcome : Except Fault (List Hit)) (n : Nat)
      (h : outcome.toOption.map List.length = some n) :
      ∃ hits, outcome = .ok hits ∧ hits.length = n := by
    cases outcome with
    | error fault => exact nomatch h
    | ok hits => exact ⟨hits, rfl, Option.some.inj h⟩
  obtain ⟨exact, hexact, hone⟩ :=
    hlength (ix.searchText s 3 "invoce" (req false)).result 1 (by decide +kernel)
  obtain ⟨found, hfound, htwo⟩ :=
    hlength (ix.searchText s 3 "invoce" (req true)).result 2 (by decide +kernel)
  have hsize : ix.size ≤ (2 : Int) := by decide +kernel
  have hle : Binary64.le (.ofRatio 1 10) (.ofRatio 3 10) := by decide +kernel
  obtain ⟨hpoints, hmono, -, -⟩ := hscores r ["invoce"] _ _ hle
  exact ⟨exact, found, hexact, hfound, (hfinds 2 rfl hsize).1 "invoce" exact found hexact hfound,
    ⟨hone, htwo⟩, hle, ⟨hpoints, hmono⟩, by decide +kernel, by decide +kernel⟩

end Index
end MailSearch
