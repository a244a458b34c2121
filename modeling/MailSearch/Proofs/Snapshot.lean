import MailSearch.Proofs.Disk
import MailSearch.Proofs.Session
import MailSearch.Proofs.Settings

/-!
# Snapshots are read back

The document of a session whose records, figures and history can be stored is a plain value.
Written to a disk that serves its path it can be read there, and loading it gives an index
with the same records in the same order, and the same history.
-/

namespace MailSearch

namespace Snapshot

variable {session : Session}

private theorem fits_exportVersion : hasTooManyDigits Index.exportVersion = false := by
  decide +kernel

/-- The document of a storable session is plain. -/
theorem plain_document (h : session.Storable) :
    Json.Plain documentLevels (document session.index (some session.history)) := by
  have hemails : Json.Plain 3 (.list (session.index.exported.map Record.toValue)) := by
    apply Json.Plain.list
    intro item hitem
    obtain ⟨r, hr, rfl⟩ := List.mem_map.mp hitem
    exact (h.parts.records r hr).plain_toValue
  have hstats : Json.Plain 3 (.object session.index.stats.toFields) := by
    apply Json.Plain.object
    · exact (by decide : ["total_indexed", "last_indexed_at", "index_size_bytes"].Nodup)
    · simp only [Index.Stats.toFields, List.mem_cons, List.not_mem_nil, or_false,
        forall_eq_or_imp, forall_eq]
      obtain ⟨hsize, hbytes⟩ := Session.fits_iff.mp h.fits
      exact ⟨.int hsize, .int h.parts.lastIndexedAt, .int hbytes⟩
  apply Json.Plain.object
  · exact (by decide : ["version", "emails", "stats", "history"].Nodup)
  · simp only [Index.exportFields, Option.map_some, Option.toList_some, List.cons_append,
      List.nil_append, List.mem_cons, List.not_mem_nil, or_false, forall_eq_or_imp, forall_eq]
    exact ⟨.int fits_exportVersion, hemails, hstats, h.parts.history.plain_toValue⟩

section Writing

variable {d : Disk} {p : Path} {folder : List String} {nesting : Nesting}

/-- What can be written as a document of a snapshot is within the limits of every reader. -/
theorem not_exceeds_limits (nesting : Nesting) :
    Json.exceeds digitLimit (limits nesting).digits = false ∧
      Json.exceeds documentLevels (limits nesting).depth = false :=
  ⟨decide_eq_false (Nat.lt_irrefl digitLimit), decide_eq_false (Nat.not_lt.mpr nesting.enough)⟩

/-- The document that is read from a file that holds its text. -/
theorem readDocument_of_holds {text : String} {doc : Value} (h : d.Holds p (.text text))
    (hread : Json.read (limits nesting) (String.ofList (unifyLineEnds text.toList)) = .ok doc) :
    readDocument d p nesting = .ok doc := by
  obtain ⟨hcontent, hentry⟩ := h.content
  unfold readDocument
  simp only [hentry, hcontent, bind, Except.bind, Content.toText, hread]
  rfl

/-- The document of a storable session is written to its end, and every reader gives it back. -/
theorem write_document (h : session.Storable) :
    ∃ text, Json.write .compact (document session.index (some session.history)) = (text, none) ∧
      ∀ nesting, Json.read (limits nesting) (String.ofList (unifyLineEnds text.toList)) =
        .ok (document session.index (some session.history)) := by
  have hread (nesting : Nesting) := Json.read_write (not_exceeds_limits nesting).1
    (not_exceeds_limits nesting).2 (plain_document h)
  obtain ⟨text, hwrite, -⟩ := hread .usual
  refine ⟨text, hwrite, fun nesting ↦ ?_⟩
  obtain ⟨same, hsame, hsameRead⟩ := hread nesting
  obtain rfl := congrArg Prod.fst (hwrite.symm.trans hsame)
  exact hsameRead

/-- A storable session is written to a disk that serves the path, its document is found there,
and the disk serves the path again. -/
theorem write_of_serves (hd : d.Serves p folder) (h : session.Storable) :
    ∃ after, (write d p session.index (some session.history) true).1 = after ∧
      (write d p session.index (some session.history) true).2.result = .ok () ∧
      after.Serves p folder ∧ after.hasEntry p = .ok true ∧
      ∀ nesting, readDocument after p nesting =
        .ok (document session.index (some session.history)) := by
  obtain ⟨text, hwrite, hread⟩ := write_document h
  obtain ⟨written, moved, hwritten, hmoved, hserves, hholds⟩ := hd.replace (.text text)
  refine ⟨moved, ?_, ?_, hserves, hholds.content.2,
    fun nesting ↦ readDocument_of_holds hholds (hread nesting)⟩
  · simp only [write, hd.ensureFolders, hd.withSuffix, writeBeside, hwrite, hwritten, hmoved,
      ↓reduceIte]
  · simp only [write, hd.ensureFolders, hd.withSuffix, writeBeside, hwrite, hwritten, hmoved,
      ↓reduceIte]

/-- Writing makes the folders first; once they are made it is as if they had been there. -/
theorem write_of_ensureFolders {made : Disk} (hmade : d.ensureFolders p.parent = (made, .ok ()))
    (hserves : made.Serves p folder) (ix : Index) (history : Option History) (canSecure : Bool) :
    write d p ix history canSecure = write made p ix history canSecure := by
  unfold write
  rw [hmade, hserves.ensureFolders]

end Writing

section Loading

variable {d : Disk} {p : Path} {nesting : Nesting}

/-- A new index can be made with any settings, and holds nothing. -/
theorem exists_freshIndex (s : Settings) :
    ∃ threshold, (freshIndex s).result = .ok (Index.empty 3 threshold) := by
  have hthreshold : ∃ threshold, s.threshold.result = .ok threshold := by
    obtain ⟨value, hvalue⟩ := s.exists_number "MAIL_SEARCH_SIMILARITY_THRESHOLD"
      Settings.usualThreshold Settings.usualThreshold.text readBinary64?
    unfold Settings.threshold
    rw [Logged.result_bind, hvalue]
    by_cases hrange : Binary64.zero.le value && value.le Binary64.one
    · refine ⟨value, bind_eq_ok.mpr ⟨value, rfl, ?_⟩⟩
      rw [if_pos hrange]
      rfl
    · refine ⟨Settings.usualThreshold, bind_eq_ok.mpr ⟨value, rfl, ?_⟩⟩
      rw [if_neg hrange]
      rfl
  obtain ⟨threshold, hthreshold⟩ := hthreshold
  refine ⟨threshold, ?_⟩
  unfold freshIndex
  rw [Logged.result_bind, hthreshold]
  rfl

/-- A new index is consistent, and a session of it can be stored. -/
theorem parts_freshIndex {s : Settings} {fresh : Index}
    (hfresh : (freshIndex s).result = .ok fresh) :
    fresh.Consistent ∧ Session.PartsStorable { index := fresh } := by
  obtain ⟨threshold, hempty⟩ := exists_freshIndex s
  rw [Except.ok.inj (hfresh.symm.trans hempty)]
  exact ⟨Index.consistent_empty 3 threshold, Session.partsStorable_empty 3 threshold⟩

/-- What is stored in the document of an index and a history. -/
theorem readStored_of_document {ix : Index} {history : Option History}
    (h : readDocument d p nesting = .ok (document ix history)) :
    readStored d p nesting = .ok ⟨ix.records.map Record.toValue, history.map History.toFields⟩ := by
  unfold readStored
  rw [h]
  cases history <;> rfl

/-- A document of a storable session is loaded as its records in a fresh index and its
history. -/
theorem load_document (h : session.Storable)
    (hdocument : readDocument d p nesting = .ok (document session.index (some session.history)))
    {s : Settings} {fresh : Index}
    (hfresh : (freshIndex s).result = .ok fresh) (now : Int) :
    (load d p s now nesting).result =
      .ok ⟨fresh.restore now session.index.records, session.history⟩ := by
  have hstored := readStored_of_document hdocument
  have himport : (fresh.importStored now (session.index.records.map Record.toValue)).result =
      .ok (fresh.restore now session.index.records, session.index.records.length) := by
    unfold Index.importStored
    rw [List.map_map]
    exact Index.importItems_forms fresh now fun r hr ↦
      Record.ofStored_toValue (h.parts.records r hr).id
  have hhistory : (History.ofFields session.history.toFields).result = .ok session.history := by
    rw [h.parts.history.ofFields_toFields]
  unfold load
  rw [Logged.result_bind]
  refine bind_eq_ok.mpr ⟨_, hstored, ?_⟩
  rw [Logged.result_bind]
  refine bind_eq_ok.mpr ⟨_, hfresh, ?_⟩
  rw [Logged.result_bind]
  refine bind_eq_ok.mpr ⟨_, himport, ?_⟩
  rw [Logged.result_bind]
  exact bind_eq_ok.mpr ⟨_, hhistory, rfl⟩

/-- Without a file nothing is loaded. -/
theorem load_of_missing (hentry : d.hasEntry p = .ok false) (s : Settings) (now : Int) :
    (load d p s now nesting).result = .error (.fileNotFound p.toText) := by
  have hstored : readStored d p nesting = .error (.fileNotFound p.toText) := by
    unfold readStored readDocument
    rw [hentry]
    rfl
  unfold load
  rw [Logged.result_bind]
  exact bind_eq_error.mpr (Or.inl hstored)

/-- Without a file a session begins with nothing. -/
theorem loadOrCreate_of_missing (hentry : d.hasEntry p = .ok false) {s : Settings}
    {fresh : Index} (hfresh : (freshIndex s).result = .ok fresh) (now : Int) :
    (loadOrCreate d p s now nesting).result = .ok { index := fresh } := by
  unfold loadOrCreate
  rw [hentry]
  dsimp only
  rw [Logged.result_bind]
  exact bind_eq_ok.mpr ⟨fresh, hfresh, rfl⟩

/-- A file that is there is loaded. -/
theorem loadOrCreate_of_entry (hentry : d.hasEntry p = .ok true) (s : Settings) (now : Int) :
    loadOrCreate d p s now nesting = load d p s now nesting := by
  unfold loadOrCreate
  rw [hentry]

/-- What is loaded matches the session that was stored. -/
theorem load_matches {stored session : Session} (h : stored.Storable)
    (hmatches : stored.Matches session)
    (hdocument : readDocument d p nesting = .ok (document stored.index (some stored.history)))
    {s : Settings} {fresh : Index} (hfresh : (freshIndex s).result = .ok fresh)
    (hsettings : session.index.SameSettings fresh) (now : Int) :
    ∃ loaded, (load d p s now nesting).result = .ok loaded ∧ loaded.Matches session ∧
      (hasTooManyDigits now = false → loaded.PartsStorable) := by
  have hrecords := Index.records_restore fresh now hmatches.left.ids
  have hrestored := Index.sameSettings_restore fresh now stored.index.records
  refine ⟨_, load_document h hdocument hfresh now, ?_, ?_⟩
  · exact {
      left := Index.consistent_restore fresh now _
      right := hmatches.right
      settings :=
        ⟨hrestored.shingleSize.trans hsettings.shingleSize.symm,
          hrestored.threshold.trans hsettings.threshold.symm⟩
      records := hrecords.trans hmatches.records
      history := hmatches.history }
  · intro hnow
    refine ⟨fun r hr ↦ h.parts.records r (hrecords ▸ hr), ?_, h.parts.history⟩
    change hasTooManyDigits (fresh.restore now stored.index.records).lastIndexedAt = false
    rcases Index.lastIndexedAt_restore fresh now stored.index.records with hold | htime
    · rw [hold]
      exact (parts_freshIndex hfresh).2.lastIndexedAt
    · rw [htime]
      exact hnow

end Loading

section Mails

variable {d : Disk} {p : Path} {nesting : Nesting}

private theorem mem_of_keepObjects {position : Nat} {items mails : List Value}
    (h : (keepObjects p position items).result = .ok mails) {mail : Value} (hmail : mail ∈ mails) :
    mail ∈ items ∧ ∃ fields, mail = .object fields := by
  induction items generalizing position mails with
  | nil =>
    cases h
    exact absurd hmail List.not_mem_nil
  | cons item items ih =>
    rw [keepObjects.eq_def] at h
    dsimp only at h
    split at h
    · next fields =>
      rw [Logged.result_bind] at h
      obtain ⟨others, hothers, h⟩ := bind_eq_ok.mp h
      cases h
      rcases List.mem_cons.mp hmail with rfl | hmail
      · exact ⟨List.mem_cons_self, fields, rfl⟩
      · exact (ih hothers hmail).imp_left (List.mem_cons_of_mem _)
    · rw [Logged.result_bind] at h
      obtain ⟨-, -, h⟩ := bind_eq_ok.mp h
      exact (ih h hmail).imp_left (List.mem_cons_of_mem _)

private theorem readable_of_readDocument {doc : Value} (h : readDocument d p nesting = .ok doc) :
    Json.Readable doc := by
  unfold readDocument at h
  obtain ⟨found, -, h⟩ := bind_eq_ok.mp h
  split at h
  · exact nomatch h
  · obtain ⟨content, -, h⟩ := bind_eq_ok.mp h
    obtain ⟨text, -, h⟩ := bind_eq_ok.mp h
    split at h
    · next value hvalue =>
      cases h
      exact Json.readable_of_read rfl hvalue
    all_goals exact nomatch h

private theorem readable_of_mailList? {doc : Value} {items : List Value}
    (hdoc : Json.Readable doc) (h : mailList? doc = some items) :
    ∀ item ∈ items, Json.Readable item := by
  cases hdoc with
  | list hitems =>
    cases h
    exact hitems
  | object hfields =>
    dsimp only [mailList?] at h
    split at h
    · next hemails =>
      cases h
      have hlist := Json.readable_of_lookup? hfields hemails
      cases hlist with
      | list hitems => exact hitems
    · exact nomatch h
  | _ => exact nomatch h

/-- The emails of a file are objects that a reader gives. -/
theorem readable_of_readMails {mails : List Value} (h : (readMails d p nesting).result = .ok mails)
    {mail : Value} (hmail : mail ∈ mails) :
    Json.Readable mail ∧ ∃ fields, mail = .object fields := by
  unfold readMails at h
  rw [Logged.result_bind] at h
  obtain ⟨doc, hdoc, h⟩ := bind_eq_ok.mp h
  have hreadable := readable_of_readDocument hdoc
  split at h
  · next items hitems =>
    obtain ⟨hmem, hobject⟩ := mem_of_keepObjects h hmail
    exact ⟨readable_of_mailList? hreadable hitems mail hmem, hobject⟩
  · exact nomatch h

end Mails

end Snapshot
end MailSearch
