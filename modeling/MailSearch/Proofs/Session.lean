import MailSearch.Proofs.History
import MailSearch.Proofs.Index.Rebuild
import MailSearch.Proofs.Index.Records
import MailSearch.Proofs.Record.Storing

/-!
# Sessions that cannot be told apart

Two sessions match when their indexes are consistent and hold the same records under the same
settings, and their histories are the same. Tables may be laid out differently and the last
insertion may have been at another time. What is done to one session and to a matching one
leaves them matching, and what can be stored stays so.
-/

namespace MailSearch.Session

/-- Whether two sessions agree in what calls make of them. -/
structure Matches (a b : Session) : Prop where
  left : a.index.Consistent
  right : b.index.Consistent
  settings : a.index.SameSettings b.index
  records : a.index.records = b.index.records
  history : a.history = b.history

/-- A session whose records, history and time of the last insertion are stored as they are. -/
structure PartsStorable (session : Session) : Prop where
  records : ∀ r ∈ session.index.records, r.Storable
  lastIndexedAt : hasTooManyDigits session.index.lastIndexedAt = false
  history : session.history.Storable

/-- Whether the figures of a session are within the limit. -/
def fits (session : Session) : Bool :=
  !hasTooManyDigits session.index.stats.totalIndexed &&
    !hasTooManyDigits session.index.stats.sizeBytes

/-- A session that a document holds as it is: its parts can be stored and its figures fit. -/
structure Storable (session : Session) : Prop where
  parts : session.PartsStorable
  fits : session.fits

/-- The figures of a session fit if both do. -/
theorem fits_iff {session : Session} :
    session.fits ↔ hasTooManyDigits session.index.stats.totalIndexed = false ∧
      hasTooManyDigits session.index.stats.sizeBytes = false := by
  unfold fits
  rw [Bool.and_eq_true, Bool.not_eq_true', Bool.not_eq_true']

section Matching

variable {a b : Session}

/-- A session of a consistent index matches itself. -/
theorem Matches.refl {session : Session} (h : session.index.Consistent) :
    session.Matches session :=
  ⟨h, h, .refl _, rfl, rfl⟩

/-- Matching sessions hold the same ids. -/
theorem Matches.contains (h : a.Matches b) (id : String) :
    a.index.contains id = b.index.contains id := by
  unfold Index.contains Index.get?
  rw [h.records]

/-- The figures of matching sessions fit alike. -/
theorem Matches.fits (h : a.Matches b) : a.fits = b.fits := by
  have hbytes := (Index.tables_congr h.left h.right h.settings h.records).2.2
  have hsize : a.index.stats.totalIndexed = b.index.stats.totalIndexed :=
    congrArg List.length h.records
  unfold Session.fits
  rw [hbytes, hsize]

/-- The same changes leave matching sessions matching. -/
theorem Matches.after (h : a.Matches b) (changes : List (Int × Index.Change)) :
    Matches { a with index := a.index.after changes }
      { b with index := b.index.after changes } where
  left := Index.consistent_after h.left changes
  right := Index.consistent_after h.right changes
  settings :=
    ⟨(Index.sameSettings_after a.index changes).shingleSize.trans <|
        h.settings.shingleSize.trans (Index.sameSettings_after b.index changes).shingleSize.symm,
      (Index.sameSettings_after a.index changes).threshold.trans <|
        h.settings.threshold.trans (Index.sameSettings_after b.index changes).threshold.symm⟩
  records := Index.records_after_congr h.records changes
  history := h.history

/-- The same history in matching sessions leaves them matching. -/
theorem Matches.withHistory (h : a.Matches b) (history : History) :
    Matches { a with history } { b with history } :=
  ⟨h.left, h.right, h.settings, h.records, rfl⟩

/-- A search has the same outcome in matching sessions and leaves them matching. -/
theorem Matches.execute (h : a.Matches b) (s : Settings) (now : Int) (text : String)
    (req : Request) :
    (a.execute s now text req).2 = (b.execute s now text req).2 ∧
      (a.execute s now text req).1.Matches (b.execute s now text req).1 := by
  have hsearch := Index.searchText_congr h.left h.right h.settings h.records s now text req
  unfold Session.execute
  split
  · exact ⟨rfl, h⟩
  · rw [hsearch]
    dsimp only
    cases (b.index.searchText s now text req).result with
    | error fault => exact ⟨rfl, h⟩
    | ok found =>
      refine ⟨rfl, ?_⟩
      dsimp only [recorded]
      rw [h.history]
      exact h.withHistory _

end Matching

/-- A search changes the history only. -/
theorem index_execute (session : Session) (s : Settings) (now : Int) (text : String)
    (req : Request) : (session.execute s now text req).1.index = session.index := by
  unfold Session.execute
  split
  · rfl
  · dsimp only
    split <;> rfl

section Storing

variable {session : Session}

/-- A session without records whose history is empty can be stored. -/
theorem partsStorable_empty (size : Int) (threshold : Binary64) :
    PartsStorable { index := .empty size threshold } where
  records := nofun
  lastIndexedAt := hasTooManyDigits_zero
  history := History.storable_empty

/-- Changes at times within the limit that bring storable records leave a session storable. -/
theorem PartsStorable.after (h : session.PartsStorable) {changes : List (Int × Index.Change)}
    (htimes : ∀ step ∈ changes, hasTooManyDigits step.1 = false)
    (hbrings : ∀ step ∈ changes, ∀ r, step.2.Brings r → r.Storable) :
    PartsStorable { session with index := session.index.after changes } where
  records := by
    intro r hr
    rcases Index.mem_records_after hr with hold | ⟨step, hstep, hbrought⟩
    · exact h.records r hold
    · exact hbrings step hstep r hbrought
  lastIndexedAt := by
    rcases Index.lastIndexedAt_after session.index changes with hold | ⟨step, hstep, htime⟩
    · exact hold ▸ h.lastIndexedAt
    · exact htime ▸ htimes step hstep
  history := h.history

/-- A storable history leaves a session storable. -/
theorem PartsStorable.withHistory (h : session.PartsStorable) {history : History}
    (hhistory : history.Storable) : PartsStorable { session with history } :=
  ⟨h.records, h.lastIndexedAt, hhistory⟩

/-- A search at a time within the limit leaves a session storable: it finds no more than there
are records. -/
theorem PartsStorable.execute (h : session.PartsStorable) (hfits : session.fits) (s : Settings)
    {now : Int} (hnow : hasTooManyDigits now = false) (text : String) (req : Request) :
    (session.execute s now text req).1.PartsStorable := by
  unfold Session.execute
  split
  · exact h
  · dsimp only
    cases hresult : (session.index.searchText s now text req).result with
    | error fault => exact h
    | ok found =>
      have hlength : found.length ≤ session.index.size := by
        unfold Index.searchText at hresult
        rw [Logged.result_bind] at hresult
        obtain ⟨o, -, hfound⟩ := bind_eq_ok.mp hresult
        rw [Search.reported_result] at hfound
        exact Search.length_le_of_run hfound
      have hcount : Json.Plain 0 (.int found.length) :=
        .int (hasTooManyDigits_of_le hlength (fits_iff.mp hfits).1)
      exact h.withHistory ((h.history.addRecent text).record hnow (.text text) hcount)

end Storing

end MailSearch.Session
