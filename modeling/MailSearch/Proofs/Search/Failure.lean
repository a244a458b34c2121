import MailSearch.Proofs.Numeric.Range
import MailSearch.Proofs.Search.Scan
import MailSearch.Proofs.Settings

/-!
# When a search fails

A search divides the age of every email that answers its query, and an age can be too large
for a floating-point number: a date may be any integer. This is the only way in which a search
can fail, and one such email makes every search fail that it answers.
-/

namespace MailSearch

namespace Boost

/-- The least number of milliseconds between a date and the time of a search that is too large
for an age in days. -/
def ageBound : Nat := Binary64.overflowBound * Date.millisPerDay.toNat

/-- An email has an age in days if its date lies within the bound. -/
theorem isOk_ageInDays_iff (date now : Int) :
    (ageInDays date now).isOk ↔ (now - date).natAbs < ageBound := by
  have hday : 0 < Date.millisPerDay.toNat := by decide
  rw [ageBound, ← Binary64.isSome_quotient?_iff (now - date) hday]
  unfold ageInDays
  cases Binary64.quotient? (now - date) Date.millisPerDay.toNat with
  | none => rfl
  | some age => rfl

/-- An email without an age in days has one that is too large. -/
theorem fault_of_ageInDays {date now : Int} {fault : Fault}
    (h : ageInDays date now = .error fault) : fault = .ratioTooLarge := by
  unfold ageInDays at h
  cases hage : Binary64.quotient? (now - date) Date.millisPerDay.toNat with
  | none =>
    rw [hage] at h
    exact (Except.error.inj h).symm
  | some age =>
    rw [hage] at h
    exact nomatch h

end Boost

namespace Search

variable {q : Query} {o : Options} {ix : Index}

private theorem isOk_hitOf (r : Record) :
    (hitOf q o r).isOk = (Boost.ageInDays r.date o.now).isOk := by
  simp only [hitOf, Boost.apply, Boost.factors, isOk_map]

private theorem fault_of_hitOf {r : Record} {fault : Fault} (h : hitOf q o r = .error fault) :
    fault = .ratioTooLarge := by
  simp only [hitOf, Boost.apply, Boost.factors, map_eq_error] at h
  exact Boost.fault_of_ageInDays h

/-- A search gives a result if it is not to give any hits, or if every email that answers its
query has an age in days. -/
theorem isOk_run_iff (h : ix.Consistent) (hsize : o.shingleSize = ix.shingleSize) :
    (run ix q o).isOk ↔
      o.limit ≤ 0 ∨ ∀ r ∈ Scan.kept ix.records q o, (o.now - r.date).natAbs < Boost.ageBound := by
  rw [run_eq_scan h hsize, Scan.run]
  split
  · next hlimit => exact iff_of_true rfl (Or.inl hlimit)
  · next hlimit =>
    rw [isOk_map, Scan.hits_eq_map, isOk_map, isOk_mapM_iff, or_iff_right hlimit]
    simp only [isOk_hitOf, Boost.isOk_ageInDays_iff]

/-- A search that fails has found an age that is too large. -/
theorem fault_of_run (h : ix.Consistent) (hsize : o.shingleSize = ix.shingleSize)
    {fault : Fault} (hrun : run ix q o = .error fault) : fault = .ratioTooLarge := by
  rw [run_eq_scan h hsize, Scan.run] at hrun
  split at hrun
  · exact nomatch hrun
  · rw [map_eq_error, Scan.hits_eq_map, map_eq_error] at hrun
    obtain ⟨r, -, hr⟩ := exists_of_mapM_eq_error hrun
    exact fault_of_hitOf hr

end Search

namespace Index

/-- Searches with queries are searches with the limit that is taken. -/
theorem result_searchQuery (ix : Index) (s : Settings) (now : Int) (req : Request) :
    ∃ limit : Nat, (chosenLimit req.limit s.searchLimit).result = .ok (limit : Int) ∧
      ∀ q, (ix.searchQuery s now q req).result =
        Search.run ix q (ix.searchOptions s now limit req) := by
  obtain ⟨limit, hlimit⟩ := exists_chosenLimit req.limit
    (s.exists_limit "MAIL_SEARCH_DEFAULT_LIMIT" (by decide : (0 : Int) ≤ 50))
  have hoptions : (req.options s ix now).result = .ok (ix.searchOptions s now limit req) := by
    rw [Request.options, Logged.result_bind]
    rw [show (chosenLimit req.limit s.searchLimit).result = .ok (limit : Int) from hlimit]
    rfl
  refine ⟨limit, hlimit, fun q ↦ ?_⟩
  rw [searchQuery, Logged.result_bind, hoptions]
  exact Search.reported_result ix q _ []

/-- A search with a query's text is a search with what the text is read as. -/
theorem result_searchText_eq (ix : Index) (s : Settings) (now : Int) (text : String)
    (req : Request) :
    (ix.searchText s now text req).result =
      (ix.searchQuery s now (Query.ofText text) req).result := by
  rw [searchText, searchQuery, Logged.result_bind, Logged.result_bind]
  simp only [Search.reported_result]

/-- Searches with texts are searches with the limit that is taken. -/
theorem result_searchText (ix : Index) (s : Settings) (now : Int) (req : Request) :
    ∃ limit : Nat, (chosenLimit req.limit s.searchLimit).result = .ok (limit : Int) ∧
      ∀ text, (ix.searchText s now text req).result =
        Search.run ix (Query.ofText text) (ix.searchOptions s now limit req) := by
  obtain ⟨limit, hlimit, hresult⟩ := result_searchQuery ix s now req
  refine ⟨limit, hlimit, fun text ↦ ?_⟩
  rw [result_searchText_eq, hresult]

/-- However an index came to be, a search gives a list if no hits are asked for, or if no email
that answers the query is dated too far from the time of the search for an age in days. A
search that fails does so for such an age. -/
theorem isOk_searchText_iff (size : Int) (threshold : Binary64)
    (changes : List (Int × Change)) (s : Settings) (now : Int) (text : String) (req : Request) :
    let ix := (empty size threshold).after changes
    ∃ limit : Nat, (chosenLimit req.limit s.searchLimit).result = .ok (limit : Int) ∧
      ((ix.searchText s now text req).result.isOk ↔ limit = 0 ∨
        ∀ r ∈ Scan.kept ix.records (Query.ofText text) (ix.searchOptions s now limit req),
          (req.now.getD now - r.date).natAbs < Boost.ageBound) ∧
      ∀ fault, (ix.searchText s now text req).result = .error fault →
        fault = .ratioTooLarge := by
  intro ix
  have h : ix.Consistent := consistent_after (consistent_empty size threshold) changes
  obtain ⟨limit, hlimit, hresult⟩ := result_searchText ix s now req
  refine ⟨limit, hlimit, ?_, ?_⟩
  · have hzero : (ix.searchOptions s now limit req).limit ≤ 0 ↔ limit = 0 := by
      change (limit : Int) ≤ 0 ↔ limit = 0
      omega
    rw [hresult, Search.isOk_run_iff h rfl, hzero]
    rfl
  · intro fault hfault
    exact Search.fault_of_run h rfl ((hresult text).symm.trans hfault)

/-- One email that is dated far enough in the past is indexed, and the search for the unread ones
fails. -/
theorem searchText_ratioTooLarge :
    let mail : Value := .object [("id", .text "a"), ("date", .int (-(powerOfTen 400 : Nat)))]
    let ix := (empty 3 .zero).after [(0, .insert (.value mail))]
    ix.records.map (·.id) = ["a"] ∧
      (ix.searchText { home := ⟨"/", []⟩ } 0 "is:unread" {}).result = .error .ratioTooLarge := by
  decide +kernel

end Index
end MailSearch
