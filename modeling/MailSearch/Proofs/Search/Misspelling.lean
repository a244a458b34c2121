import MailSearch.Proofs.Search.Findable
import MailSearch.Proofs.Shingle

/-!
# Misspelt words find subjects

A fuzzy search looks at every record whose subject, without white space, holds something near
enough to a token that is sought: with so few edits between the two that the token is as long as
the shingles of one edit more.
-/

namespace MailSearch

namespace Scan

variable {size : Int} {sought : List String} {r : Record} {token part : String}

/-- A record is sought for a token near a part of its subject. -/
theorem isSought_of_near (hsize : 1 ≤ size) (hmem : token ∈ sought) (htoken : IsToken token)
    (hpart : part.toList <:+: compacted r.subject.toList)
    (hlength : size * (editDistance token part + 1) ≤ token.length) :
    isSought true size sought r := by
  obtain ⟨shingle, hshingle, hsubject⟩ := htoken.exists_shingle hsize hpart hlength
  refine List.any_eq_true.mpr ⟨token, hmem, ?_⟩
  rw [Bool.true_and, Bool.or_eq_true]
  exact .inr (List.any_eq_true.mpr ⟨shingle, hshingle, List.contains_iff_mem.mpr hsubject⟩)

end Scan

namespace Index

/-- However an index came to be, let a token of a query's free text be near a part of a record's
compacted subject: for one edit more than there are between the two, the token is as long as so
many shingles. Then the tables lead a fuzzy search to the record, and every fuzzy search for the
query that gives a result and may give as many hits as there are records gives a hit for it, if
the record passes the filters. -/
theorem search_near_subject {size : Int} (hsize : 1 ≤ size) (threshold : Binary64)
    (changes : List (Int × Change)) {r : Record}
    (hr : r ∈ ((empty size threshold).after changes).records) {text token part : String}
    (htoken : token ∈ tokenize (Query.ofText text).text)
    (hpart : part.toList <:+: compacted r.subject.toList)
    (hlength : size * (editDistance token part + 1) ≤ token.length) :
    let ix := (empty size threshold).after changes
    r.id ∈ Search.candidates ix.tokens ix.shingles true ix.shingleSize
        (tokenize (Query.ofText text).text) ∧
      ∀ (s : Settings) (now : Int) (req : Request) (limit : Int) (found : List Hit),
        req.fuzzy.getD s.isFuzzy = true → r.passes (Query.ofText text) →
        (chosenLimit req.limit s.searchLimit).result = .ok limit → ix.size ≤ limit →
        (ix.searchText s now text req).result = .ok found → ∃ hit ∈ found, hit.record = r := by
  intro ix
  have hconsistent : ix.Consistent := consistent_after (consistent_empty size threshold) changes
  have hshingles : ix.shingleSize = size :=
    (sameSettings_after (empty size threshold) changes).shingleSize
  have hsought : Scan.isSought true ix.shingleSize (tokenize (Query.ofText text).text) r := by
    rw [hshingles]
    exact Scan.isSought_of_near hsize htoken (isToken_of_mem_tokenize htoken) hpart hlength
  constructor
  · let o : Search.Options := ⟨0, true, .relevance, ix.threshold, ix.shingleSize, 0⟩
    exact (Search.mem_candidates_iff (o := o) hconsistent rfl hr _).mpr hsought
  · intro s now req limit found hfuzzy hpasses hlimit hcount hfound
    obtain ⟨n, hn, hresult⟩ := result_searchText ix s now req
    obtain rfl := Except.ok.inj (hlimit.symm.trans hn)
    have hkept : r ∈ Scan.kept ix.records (Query.ofText text) (ix.searchOptions s now n req) := by
      refine List.mem_filter.mpr ⟨hr, ?_⟩
      rw [hpasses, Bool.true_and, searchOptions, hfuzzy, hsought, Bool.or_true]
    rw [hresult] at hfound
    exact Search.exists_hit_of_mem_kept hconsistent rfl hcount hfound hkept

/-- An email about rent is indexed again under another subject. A word with one letter wrong finds
it there next to an email that the filter leaves out. -/
theorem search_near_subject_replaced :
    let s : Settings := { home := ⟨"/", []⟩ }
    let r : Record := { id := "a", subject := "March Invoice", tokens := ["march", "invoice"] }
    let ix := (empty 3 .zero).after
      [(1, .insert (.record { id := "a", subject := "Rent", tokens := ["rent"] })),
        (2, .insert (.record { id := "b", subject := "Invoices", isRead := true })),
        (3, .insert (.record r))]
    let req : Request := { limit := some 2, fuzzy := some true }
    editDistance "invoyce" "invoice" = 1 ∧
      "a" ∈ Search.candidates ix.tokens ix.shingles true ix.shingleSize
        (tokenize (Query.ofText "invoyce is:unread").text) ∧
      ∃ found, (ix.searchText s 4 "invoyce is:unread" req).result = .ok found ∧
        ∃ hit ∈ found, hit.record = r := by
  intro s r ix req
  have hdistance : editDistance "invoyce" "invoice" = 1 := by decide
  have hr : r ∈ ix.records := by decide +kernel
  have htoken : "invoyce" ∈ tokenize (Query.ofText "invoyce is:unread").text := by decide +kernel
  have hpart : "invoice".toList <:+: compacted r.subject.toList :=
    ⟨"march".toList, [], by decide +kernel⟩
  have hlength : (3 : Int) * (editDistance "invoyce" "invoice" + 1) ≤ "invoyce".length := by
    rw [hdistance]
    decide
  obtain ⟨hcandidate, hfinds⟩ := search_near_subject (by decide) .zero _ hr htoken hpart hlength
  refine ⟨hdistance, hcandidate, ?_⟩
  have hok : (ix.searchText s 4 "invoyce is:unread" req).result.isOk := by decide +kernel
  cases hresult : (ix.searchText s 4 "invoyce is:unread" req).result with
  | error fault =>
    rw [hresult] at hok
    exact nomatch hok
  | ok found =>
    have hpasses : r.passes (Query.ofText "invoyce is:unread") := by decide +kernel
    have hsize : ix.size ≤ (2 : Int) := by decide +kernel
    exact ⟨found, rfl, hfinds s 4 req 2 found rfl hpasses rfl hsize hresult⟩

end Index
end MailSearch
