import MailSearch.Proofs.Distinct
import MailSearch.Proofs.Index.Consistency
import MailSearch.Session

/-!
# A session remembers its answers

`answers` lists the searches of a run of calls that gave a list, newest first. The history of the
session is determined by them: the recent queries are the first distinct ones, and the log is the
beginning of the list. Each call cuts both off, but what is cut off can never come back: a query
that is put in front takes the place of no more than one other. All other calls leave what was
remembered alone.
-/

namespace MailSearch

/-- A search that gave a list: its query, when, and how many hits were in the list. -/
structure Answer where
  query : String
  time : Int
  count : Nat

/-- The log entry of an answer. -/
def Answer.toEntry (a : Answer) : LogEntry := ⟨.text a.query, .int a.time, .int a.count⟩

/-- The query saved under an id, if there is one and it is a text. -/
def History.savedText? (h : History) (id : Value) : Option String :=
  (h.get? id).bind fun saved ↦ textOf? saved.query

namespace Session

/-- What may be asked of a session; the index may change in between. -/
inductive Call where
  | execute (text : String) (req : Request)
  | runSaved (id : Value) (req : Request)
  | save (name query : Value)
  | deleteSaved (id : Value)
  | changeIndex (change : Index.Change)

namespace Call

/-- What becomes of a session by a call at a time, whether it fails or not. -/
def apply (s : Settings) (now : Int) (session : Session) : Call → Session
  | execute text req => (session.execute s now text req).1
  | runSaved id req => (session.runSaved s now id req).1
  | save name query =>
      match session.history.save now name query with
      | .ok (history, _) => { session with history }
      | .error _ => session
  | deleteSaved id => { session with history := (session.history.delete id).1 }
  | changeIndex change => { session with index := (change.apply now session.index).1 }

/-- The query that a call runs, and what it asks for. -/
def sought? (history : History) : Call → Option (String × Request)
  | execute text req => some (text, req)
  | runSaved id req => (history.savedText? id).map fun text ↦ (text, req)
  | save _ _ | deleteSaved _ | changeIndex _ => none

/-- The answer to a call at a time: there is one if the call runs a query that is not blank and
the search gives a list. -/
def answer? (s : Settings) (now : Int) (session : Session) (call : Call) : Option Answer :=
  (call.sought? session.history).bind fun (text, req) ↦
    if Unicode.isBlankText text then none
    else
      (session.index.searchText s now text req).result.toOption.map fun found ↦
        ⟨text, now, found.length⟩

end Call

/-- A call with the settings and the time at which it is made. -/
structure Step where
  settings : Settings
  now : Int
  call : Call

/-- What becomes of a session by calls, whether they fail or not. -/
def after (session : Session) : List Step → Session
  | [] => session
  | step :: steps => (step.call.apply step.settings step.now session).after steps

/-- The answers to calls, newest first. -/
def answers (session : Session) : List Step → List Answer
  | [] => []
  | step :: steps =>
      (step.call.apply step.settings step.now session).answers steps ++
        (step.call.answer? step.settings step.now session).toList

variable {session : Session} {given : List Answer}

section Searches

variable (s : Settings) (now : Int) (req : Request)

/-- A blank query leaves the session as it was. -/
theorem execute_of_blank {text : String} (h : Unicode.isBlankText text) :
    (session.execute s now text req).1 = session := by
  rw [execute, if_pos h]

/-- A search that fails leaves the session as it was. -/
theorem execute_of_error {text : String} {fault : Fault}
    (h : (session.index.searchText s now text req).result = .error fault) :
    (session.execute s now text req).1 = session := by
  unfold execute
  split
  · rfl
  · simp only [h]

/-- A search for a query that is not blank is recorded if it gives a list. -/
theorem execute_of_ok {text : String} {found : List Hit} (hblank : ¬Unicode.isBlankText text)
    (h : (session.index.searchText s now text req).result = .ok found) :
    session.execute s now text req =
      (session.recorded now text found.length, session.index.searchText s now text req) := by
  rw [execute, if_neg hblank]
  simp only [h]

/-- A query that is blank or fails leaves the session as it was. -/
theorem execute_eq_self {text : String} (h : Unicode.isBlankText text ∨
    (session.execute s now text req).2.result.isOk = false) :
    (session.execute s now text req).1 = session := by
  by_cases hblank : Unicode.isBlankText text
  · exact execute_of_blank s now req hblank
  · cases hresult : (session.index.searchText s now text req).result with
    | error fault => exact execute_of_error s now req hresult
    | ok found =>
      rw [execute_of_ok s now req hblank hresult, hresult] at h
      exact nomatch h.resolve_left hblank

/-- Running a saved text is executing it. -/
theorem runSaved_of_text {id : Value} {text : String}
    (h : session.history.savedText? id = some text) :
    session.runSaved s now id req = session.execute s now text req := by
  obtain ⟨⟨own, name, query⟩, hsaved, htext⟩ := Option.bind_eq_some_iff.mp h
  cases query with
  | text other =>
    obtain rfl := Option.some.inj htext
    rw [runSaved, hsaved]
    rfl
  | _ => exact nomatch htext

/-- What is not a saved text cannot be run. -/
theorem runSaved_of_none {id : Value} (h : session.history.savedText? id = none) :
    (session.runSaved s now id req).1 = session := by
  unfold runSaved
  cases hsaved : session.history.get? id with
  | none => rfl
  | some saved =>
    obtain ⟨own, name, query⟩ := saved
    rw [History.savedText?, hsaved] at h
    cases query with
    | text text => exact nomatch h
    | _ => rfl

/-- A saved search whose id is unknown, whose query is blank, or that fails leaves the session as
it was. -/
theorem runSaved_eq_self {id : Value} (h : session.history.get? id = none ∨
    (∃ text, session.history.savedText? id = some text ∧ Unicode.isBlankText text) ∨
    (session.runSaved s now id req).2.result.isOk = false) :
    (session.runSaved s now id req).1 = session := by
  cases htext : session.history.savedText? id with
  | none => exact runSaved_of_none s now req htext
  | some text =>
    rw [runSaved_of_text s now req htext] at h ⊢
    apply execute_eq_self
    rcases h with hunknown | ⟨other, hother, hblank⟩ | hfails
    · rw [History.savedText?, hunknown] at htext
      exact nomatch htext
    · rw [Option.some.inj (htext.symm.trans hother)]
      exact .inl hblank
    · exact .inr hfails

end Searches

end Session

namespace History

/-- What a history remembers of answers that are given newest first. -/
structure Remembers (h : History) (given : List Answer) : Prop where
  recent : h.recent = ((given.map (·.query)).eraseDups).take maxRecent
  entries : h.entries = (given.map (·.toEntry)).take maxEntries

variable {h : History} {given : List Answer}

/-- An empty history remembers nothing. -/
theorem remembers_empty : Remembers {} [] := ⟨rfl, rfl⟩

/-- A query that is put in front of the first distinct queries gives the first distinct ones. -/
theorem recent_addRecent {queries : List String}
    (hrecent : h.recent = queries.eraseDups.take maxRecent) (text : String) :
    (h.addRecent text).recent = (text :: queries).eraseDups.take maxRecent := by
  calc
    (h.addRecent text).recent
        = text :: ((queries.eraseDups.take (9 + 1)).filter (· ≠ text)).take 9 := by
          rw [addRecent, hrecent]
          rfl
    _ = text :: (queries.eraseDups.filter (· ≠ text)).take 9 := by
          rw [take_filter_take (nodup_eraseDups queries)]
    _ = (text :: queries).eraseDups.take maxRecent := by
          rw [eraseDups_cons_eq]
          rfl

/-- An entry that is put in front of the beginning of a log gives the beginning of the log. -/
theorem entries_record {log : List LogEntry} (hentries : h.entries = log.take maxEntries)
    (now : Int) (query count : Value) :
    (h.record now query count).entries = (⟨query, .int now, count⟩ :: log).take maxEntries := by
  calc
    (h.record now query count).entries
        = ⟨query, .int now, count⟩ :: (log.take (99 + 1)).take 99 := by
          rw [record, hentries]
          rfl
    _ = (⟨query, .int now, count⟩ :: log).take maxEntries := by
          rw [List.take_take]
          rfl

/-- Saving a query changes neither the recent ones nor the log. -/
theorem Remembers.save (hh : h.Remembers given) {now : Int} {name query : Value} {after : History}
    {saved : SavedSearch} (hsave : h.save now name query = .ok (after, saved)) :
    after.Remembers given := by
  unfold History.save at hsave
  split at hsave
  · cases hsave
    exact ⟨hh.recent, hh.entries⟩
  · exact nomatch hsave

end History

namespace Session

variable {session : Session} {given : List Answer}

section Memory

/-- An answer is remembered in front of those before it. -/
theorem remembers_recorded (h : session.history.Remembers given) (now : Int) (text : String)
    (count : Nat) :
    (session.recorded now text count).history.Remembers (⟨text, now, count⟩ :: given) where
  recent := History.recent_addRecent h.recent text
  entries := History.entries_record h.entries now _ _

/-- A call that runs a query remembers its answer, if there is one. -/
theorem remembers_execute (h : session.history.Remembers given) (s : Settings) (now : Int)
    {call : Call} {text : String} {req : Request}
    (hsought : call.sought? session.history = some (text, req)) :
    (session.execute s now text req).1.history.Remembers
      ((call.answer? s now session).toList ++ given) := by
  unfold Call.answer?
  rw [hsought, Option.bind_some]
  dsimp only
  by_cases hblank : Unicode.isBlankText text
  · rw [if_pos hblank, execute_of_blank s now req hblank]
    exact h
  · rw [if_neg hblank]
    cases hresult : (session.index.searchText s now text req).result with
    | error fault =>
      rw [execute_of_error s now req hresult]
      exact h
    | ok found =>
      rw [execute_of_ok s now req hblank hresult]
      exact remembers_recorded h now text found.length

/-- A call remembers its answer, if there is one, and everything that was remembered before. -/
theorem remembers_apply (h : session.history.Remembers given) (s : Settings) (now : Int)
    (call : Call) :
    (call.apply s now session).history.Remembers ((call.answer? s now session).toList ++ given) := by
  cases call with
  | execute text req => exact remembers_execute h s now rfl
  | runSaved id req =>
    rw [Call.apply]
    cases htext : session.history.savedText? id with
    | none =>
      have hnone : (Call.runSaved id req).answer? s now session = none := by
        rw [Call.answer?, Call.sought?, htext]
        rfl
      rw [hnone, runSaved_of_none s now req htext]
      exact h
    | some text =>
      rw [runSaved_of_text s now req htext]
      apply remembers_execute h s now
      rw [Call.sought?, htext]
      rfl
  | save name query =>
    rw [Call.apply]
    split
    · next hsave => exact h.save hsave
    · exact h
  | deleteSaved id => exact ⟨h.recent, h.entries⟩
  | changeIndex change => exact h

/-- Calls remember their answers in front of everything that was remembered before. -/
theorem remembers_after (h : session.history.Remembers given) (steps : List Step) :
    (session.after steps).history.Remembers (session.answers steps ++ given) := by
  induction steps generalizing session given with
  | nil => exact h
  | cons step steps ih =>
    have hrest := ih (remembers_apply h step.settings step.now step.call)
    rwa [← List.append_assoc] at hrest

end Memory

/-- After any calls on a session that began without a history, the recent queries are the first ten
distinct ones among the answers, newest first, and the log is the first hundred answers. A further
query that is blank, is not saved, or fails leaves the session as it is. -/
theorem history_after (ix : Index) (steps : List Step) :
    let session := after { index := ix } steps
    let given := answers { index := ix } steps
    session.history.recent = ((given.map (·.query)).eraseDups).take 10 ∧
      session.history.entries = (given.map (·.toEntry)).take 100 ∧
      ∀ s now req,
        (∀ text, Unicode.isBlankText text ∨
          (session.execute s now text req).2.result.isOk = false →
          (session.execute s now text req).1 = session) ∧
        ∀ id, session.history.get? id = none ∨
          (∃ text, session.history.savedText? id = some text ∧ Unicode.isBlankText text) ∨
          (session.runSaved s now id req).2.result.isOk = false →
          (session.runSaved s now id req).1 = session := by
  intro session given
  have hremembers : session.history.Remembers (given ++ []) :=
    remembers_after History.remembers_empty steps
  rw [List.append_nil] at hremembers
  refine ⟨hremembers.recent, hremembers.entries, fun s now req ↦ ⟨?_, ?_⟩⟩
  · exact fun text ↦ execute_eq_self s now req
  · exact fun id ↦ runSaved_eq_self s now req

end Session
end MailSearch
