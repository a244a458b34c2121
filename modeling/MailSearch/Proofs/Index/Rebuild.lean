import MailSearch.Proofs.Record.RoundTrip
import MailSearch.Proofs.Search.Scan

/-!
# Rebuilding an index from its records

What an index exports is its records. Put into any index of the same settings they give
the same records in the same order, and with them the same tables as maps to sets and the
same figures. A search cannot tell the two apart: it depends on the records and on
settings only, as long as an index is consistent.
-/

namespace MailSearch.Index

section Search

variable {a b : Index}

/-- Consistent indexes with the same records and settings answer every search alike, down
to what they report. -/
theorem searchText_congr (ha : a.Consistent) (hb : b.Consistent) (hsettings : a.SameSettings b)
    (hrecords : a.records = b.records) (s : Settings) (now : Int) (text : String)
    (req : Request) : a.searchText s now text req = b.searchText s now text req := by
  have hoptions : req.options s a now = req.options s b now := by
    unfold Request.options
    rw [hsettings.shingleSize, hsettings.threshold]
  have hsize (o : Search.Options) (ho : (req.options s b now).result = .ok o) :
      o.shingleSize = b.shingleSize := by
    unfold Request.options at ho
    rw [Logged.result_bind] at ho
    obtain ⟨limit, -, ho⟩ := bind_eq_ok.mp ho
    exact (congrArg Search.Options.shingleSize (Except.ok.inj ho)).symm
  have hreported (o : Search.Options) (ho : (req.options s b now).result = .ok o) :
      Search.reported a (Query.ofText text) o (Query.events text) =
        Search.reported b (Query.ofText text) o (Query.events text) := by
    have hhits : Search.hits a (Query.ofText text) o = Search.hits b (Query.ofText text) o := by
      have hsizeA : o.shingleSize = a.shingleSize := (hsize o ho).trans hsettings.shingleSize.symm
      rw [Search.hits_eq_scan ha hsizeA, Search.hits_eq_scan hb (hsize o ho), hrecords]
    unfold Search.reported Search.isActive size
    rw [hhits, hrecords]
  unfold searchText
  change Logged.bind (req.options s a now) _ = Logged.bind (req.options s b now) _
  rw [hoptions]
  unfold Logged.bind
  cases ho : (req.options s b now).result with
  | error fault => rfl
  | ok o =>
    dsimp only
    rw [hreported o ho]

/-- Consistent indexes with the same records and settings have the same tables and the
same figures, but for the time of the last insertion. -/
theorem tables_congr (ha : a.Consistent) (hb : b.Consistent) (hsettings : a.SameSettings b)
    (hrecords : a.records = b.records) :
    a.sameTables b ∧ a.vocabularySize = b.vocabularySize ∧
      a.stats.sizeBytes = b.stats.sizeBytes := by
  have htokens : a.tokens.Files Record.tokens b.records := hrecords ▸ ha.tokens
  have hshinglesOf : a.shinglesOf = b.shinglesOf := by
    funext r
    unfold shinglesOf
    rw [hsettings.shingleSize]
  have hshingles : a.shingles.Files b.shinglesOf b.records := by
    have h := ha.shingles
    rwa [hrecords, hshinglesOf] at h
  refine ⟨?_, htokens.size_eq hb.tokens, ?_⟩
  · unfold sameTables
    rw [htokens.sameSets hb.tokens, hshingles.sameSets hb.shingles]
    rfl
  · simp only [stats, htokens.keyLength_eq hb.tokens, htokens.load_eq hb.tokens]

end Search

section Restore

/-- A record of a new id is put at the end. -/
theorem replace_of_new {ix : Index} {r : Record} (h : ∀ old ∈ ix.records, old.id ≠ r.id) :
    ix.replace r = ix.append r := by
  have hcontains : ix.contains r.id = false := by
    rw [contains, get?, Option.isSome_eq_false_iff, Option.isNone_iff_eq_none, List.find?_eq_none]
    intro old hold
    exact fun he ↦ h old hold (of_decide_eq_true he)
  rw [replace, erase_of_not_contains hcontains]

/-- Records of new ids are put at the end one after the other. -/
theorem foldl_replace_of_new {ix : Index} {rs : List Record}
    (h : ((ix.records ++ rs).map (·.id)).Nodup) : rs.foldl replace ix = rs.foldl append ix := by
  induction rs generalizing ix with
  | nil => rfl
  | cons r rs ih =>
    have hnew : ix.replace r = ix.append r := by
      apply replace_of_new
      intro old hold
      rw [List.map_append, List.map_cons, List.nodup_append] at h
      exact h.2.2 old.id (List.mem_map_of_mem hold) r.id List.mem_cons_self
    have hnodup : (((ix.append r).records ++ rs).map (·.id)).Nodup := by
      change (((ix.records ++ [r]) ++ rs).map (·.id)).Nodup
      rw [List.append_assoc, List.singleton_append]
      exact h
    rw [List.foldl_cons, List.foldl_cons, hnew, ih hnodup]

private theorem records_foldl_append (ix : Index) (rs : List Record) :
    (rs.foldl append ix).records = ix.records ++ rs := by
  induction rs generalizing ix with
  | nil => exact (List.append_nil ix.records).symm
  | cons r rs ih =>
    rw [List.foldl_cons, ih]
    exact List.append_assoc ix.records [r] rs

/-- Records with distinct ids are put in place of what an index held one after the other. -/
theorem restore_of_nodup (ix : Index) (now : Int) {rs : List Record}
    (h : (rs.map (·.id)).Nodup) :
    ix.restore now rs = { rs.foldl append ix.clear with
      lastIndexedAt := if rs.isEmpty then ix.lastIndexedAt else now } := by
  have hfilled : rs.foldl replace ix.clear = rs.foldl append ix.clear :=
    foldl_replace_of_new h
  unfold restore
  rw [hfilled]
  cases rs <;> rfl

/-- Records with distinct ids are put in place of what an index held in their order. -/
theorem records_restore (ix : Index) (now : Int) {rs : List Record}
    (h : (rs.map (·.id)).Nodup) : (ix.restore now rs).records = rs := by
  rw [restore_of_nodup ix now h]
  exact records_foldl_append ix.clear rs

/-- Reading what is handed over as the forms of some records gives these records, without
a warning. -/
theorem readItems_forms {form : Record → Item} {rs : List Record}
    (h : ∀ r ∈ rs, (form r).readStored = .ok r) : readItems (rs.map form) = ⟨[], .ok rs⟩ := by
  induction rs with
  | nil => rfl
  | cons r rs ih =>
    have hr := h r List.mem_cons_self
    have hrs := ih fun other hother ↦ h other (List.mem_cons_of_mem r hother)
    rw [List.map_cons, readItems]
    simp only [hr, hrs]
    rfl

/-- Importing the forms of some records puts these records in place of what an index
held. -/
theorem importItems_forms (ix : Index) (now : Int) {form : Record → Item} {rs : List Record}
    (h : ∀ r ∈ rs, (form r).readStored = .ok r) :
    (ix.importItems now (rs.map form)).result = .ok (ix.restore now rs, rs.length) := by
  rw [result_importItems, readItems_forms h]
  rfl

end Restore

/-- Importing what an index exports, as records or as the objects that they are written
as, gives an index of the same settings the same records in the same order, the same
tables as maps to sets, the same figures and the same answer to every search, whatever it
held before. -/
theorem import_exported {source target : Index} (hsource : source.Reachable)
    (hids : ∀ r ∈ source.exported, r.id ≠ "") (hsettings : target.SameSettings source)
    (now : Int) (items : List Item)
    (hitems : items = source.exported.map .record ∨
      items = source.exported.map fun r ↦ .value r.toValue) :
    ∃ loaded, (target.importItems now items).result = .ok (loaded, source.size) ∧
      loaded.records = source.records ∧ loaded.sameTables source ∧
      loaded.vocabularySize = source.vocabularySize ∧
      loaded.stats.sizeBytes = source.stats.sizeBytes ∧
      ∀ s now text req,
        (loaded.searchText s now text req).result = (source.searchText s now text req).result := by
  have hconsistent := hsource.consistent
  have himport : (target.importItems now items).result =
      .ok (target.restore now source.records, source.size) := by
    rcases hitems with rfl | rfl
    · exact importItems_forms target now fun r _ ↦ rfl
    · exact importItems_forms target now fun r hr ↦ Record.ofStored_toValue (hids r hr)
  have hloaded := consistent_restore target now source.records
  have hsame := (sameSettings_restore target now source.records).trans hsettings
  have hrecords := records_restore target now hconsistent.ids
  obtain ⟨htables, hvocabulary, hbytes⟩ := tables_congr hloaded hconsistent hsame hrecords
  refine ⟨_, himport, hrecords, htables, hvocabulary, hbytes, ?_⟩
  intro s now text req
  rw [searchText_congr hloaded hconsistent hsame hrecords]

/-- Two emails, the first of which was indexed again under another subject, are moved into
an index that held a third one: the replaced one stands last. -/
theorem import_exported_replaced :
    let source := (empty 3 .zero).after
      [(1, .insert (.record { id := "a", subject := "Budget", tokens := ["budget", "budget"] })),
        (2, .insert (.record { id := "b", subject := "Invoice", tokens := ["invoice"] })),
        (3, .insert (.record { id := "a", subject := "Rent", tokens := ["rent"], size := some 7 }))]
    let target := (empty 3 .zero).after [(4, .insert (.record { id := "c", tokens := ["rent"] }))]
    let items := source.exported.map fun r ↦ Item.value r.toValue
    source.records.map (·.id) = ["b", "a"] ∧
      ∃ loaded, (target.importItems 5 items).result = .ok (loaded, source.size) ∧
        loaded.records = source.records ∧ loaded.sameTables source ∧
        loaded.vocabularySize = source.vocabularySize ∧
        loaded.stats.sizeBytes = source.stats.sizeBytes ∧
        ∀ s now text req,
          (loaded.searchText s now text req).result =
            (source.searchText s now text req).result := by
  intro source target items
  have hids : source.records.map (·.id) = ["b", "a"] := by decide
  refine ⟨hids, import_exported ⟨3, .zero, _, rfl⟩ ?_ ⟨rfl, rfl⟩ 5 items (Or.inr rfl)⟩
  intro r hr
  have hmem : r.id ∈ ["b", "a"] := hids ▸ List.mem_map_of_mem hr
  rintro hempty
  simp [hempty] at hmem

end MailSearch.Index
