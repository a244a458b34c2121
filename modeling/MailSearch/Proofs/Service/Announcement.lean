import MailSearch.Proofs.Index.Batch
import MailSearch.Proofs.Index.Consistency
import MailSearch.Service

/-!
# Announcing changes

A call changes the session step by step and announces at its end that it has: its deeds are
these steps in their order. A host that saves the session at each announcement loses what is
changed after the last one. That happens in one case only: a search is recorded before its hits
are shown, and a hit whose date lies outside the years of the calendar cannot be shown.
-/

namespace MailSearch.Service

/-- What a call does on its way. -/
inductive Deed where
  /-- the session becomes another one -/
  | change (session : Session)
  /-- it is announced that there were changes -/
  | announce

/-- The session that deeds leave behind. -/
def sessionAfter (session : Session) : List Deed → Session
  | [] => session
  | .change next :: deeds => sessionAfter next deeds
  | .announce :: deeds => sessionAfter session deeds

/-- What is saved after deeds by a host that saves the session whenever it is announced that
there were changes. -/
def savedAfter (session saved : Session) : List Deed → Session
  | [] => saved
  | .change next :: deeds => savedAfter next saved deeds
  | .announce :: deeds => savedAfter session session deeds

/-- There is a change after which nothing is announced. -/
def Unannounced (deeds : List Deed) : Prop :=
  ∃ earlier next later, deeds = earlier ++ .change next :: later ∧ .announce ∉ later

/-- The deeds of indexing emails: each that can be read is a change. -/
def indexDeeds (session : Session) (now : Int) : List Value → List Deed
  | [] => []
  | mail :: mails =>
      match Record.ofMail mail with
      | .ok r =>
          let next := { session with index := session.index.insert now r }
          .change next :: indexDeeds next now mails
      | .error fault => if Index.isFieldFault fault then indexDeeds session now mails else []

/-- Deeds that are announced, if there are any. -/
def announced (deeds : List Deed) : List Deed :=
  if deeds.isEmpty then [] else deeds ++ [.announce]

/-- The deeds of a search that found something: the query becomes a recent one, the search is
logged, and only when the hits are shown it is announced. -/
def searchDeeds (session : Session) (now : Int) (query : String) (found : List Hit) :
    List Deed :=
  let recent := { session with history := session.history.addRecent query }
  let deeds := [.change recent, .change (session.recorded now query found.length)]
  if (found.mapM Hit.summary).isOk then announced deeds else deeds

/-- The request of a search that is called for. -/
def request (limit : Int) (fuzzy : Bool) (order : Order) : Request :=
  { limit := some limit, fuzzy := some fuzzy, order := order }

/-- The deeds of a call that was read, in their order. -/
def Call.deeds (session : Session) (s : Settings) (now : Int) : Call → List Deed
  | .search query limit fuzzy order =>
      if Unicode.isBlankText query then []
      else
        match (session.index.searchText s now query (request limit fuzzy order)).result with
        | .error _ => []
        | .ok found => searchDeeds session now query found
  | .index mails =>
      let deeds := indexDeeds session now mails
      if (session.index.insertEach now 0 mails).stopped.isSome then deeds else announced deeds
  | .remove id =>
      if session.index.contains id then
        announced [.change { session with index := session.index.erase id }]
      else []
  | .suggest _ _ => []
  | .explain _ => []
  | .stats => []

/-- The call is a search that finds an email whose date cannot be shown. -/
def Call.FindsUndated (session : Session) (s : Settings) (now : Int) : Call → Prop
  | .search query limit fuzzy order =>
      Unicode.isBlankText query = false ∧
      ∃ found,
        (session.index.searchText s now query (request limit fuzzy order)).result = .ok found ∧
        ∃ hit ∈ found, (isoOfMillis hit.record.date).isOk = false
  | _ => False

/-- A call as a client makes it at a time. -/
structure Message where
  now : Int
  tool : String
  args : List (String × Value)

namespace Message

variable (session : Session) (s : Settings) (m : Message)

/-- The deeds of a call: none if it cannot be read. -/
def deeds : List Deed :=
  match Call.read m.tool m.args with
  | .ok c => c.deeds session s m.now
  | .error _ => []

/-- A call is read as a search that finds an email whose date cannot be shown. -/
def FindsUndated : Prop :=
  ∃ c, Call.read m.tool m.args = .ok c ∧ c.FindsUndated session s m.now

end Message

/-- The session after calls, one after the other. -/
def afterCalls (session : Session) (s : Settings) : List Message → Session
  | [] => session
  | m :: ms => afterCalls (call session s m.now m.tool m.args).session s ms

/-- What is saved after calls, one after the other, by a host that saves the session whenever it
is announced that there were changes. -/
def savedAfterCalls (session saved : Session) (s : Settings) : List Message → Session
  | [] => saved
  | m :: ms =>
      savedAfterCalls (call session s m.now m.tool m.args).session
        (savedAfter session saved (m.deeds session s)) s ms

section Deeds

variable {deeds : List Deed}

/-- Deeds that end with a change leave it unannounced. -/
theorem unannounced_concat_change (deeds : List Deed) (next : Session) :
    Unannounced (deeds ++ [.change next]) :=
  ⟨deeds, next, [], rfl, List.not_mem_nil⟩

/-- Deeds that end with an announcement leave no change unannounced. -/
theorem not_unannounced_concat_announce (deeds : List Deed) :
    ¬ Unannounced (deeds ++ [.announce]) := by
  rintro ⟨earlier, next, later, heq, hlater⟩
  rcases List.eq_nil_or_concat' later with rfl | ⟨between, last, rfl⟩
  · exact nomatch List.append_inj_right' heq rfl
  · rw [← List.cons_append, ← List.append_assoc] at heq
    obtain rfl := List.singleton_inj.mp (List.append_inj_right' heq rfl)
    exact hlater (List.mem_append_right between (List.mem_singleton_self _))

/-- Without deeds there is no change. -/
theorem not_unannounced_nil : ¬ Unannounced [] := by
  rintro ⟨earlier, next, later, heq, -⟩
  simp at heq

/-- Deeds that are announced leave no change unannounced. -/
theorem not_unannounced_announced (deeds : List Deed) : ¬ Unannounced (announced deeds) := by
  unfold announced
  split
  · exact not_unannounced_nil
  · exact not_unannounced_concat_announce deeds

/-- An announcement at the end does not change the session. -/
theorem sessionAfter_concat_announce (session : Session) (deeds : List Deed) :
    sessionAfter session (deeds ++ [.announce]) = sessionAfter session deeds := by
  induction deeds generalizing session with
  | nil => rfl
  | cons deed deeds ih =>
    cases deed with
    | change next => exact ih next
    | announce => exact ih session

/-- An announcement at the end saves the session that the deeds before it left behind. -/
theorem savedAfter_concat_announce (session saved : Session) (deeds : List Deed) :
    savedAfter session saved (deeds ++ [.announce]) = sessionAfter session deeds := by
  induction deeds generalizing session saved with
  | nil => rfl
  | cons deed deeds ih =>
    cases deed with
    | change next => exact ih next saved
    | announce => exact ih session session

/-- Announcing changes does not change the session. -/
theorem sessionAfter_announced (session : Session) (deeds : List Deed) :
    sessionAfter session (announced deeds) = sessionAfter session deeds := by
  unfold announced
  split
  · next h => rw [List.isEmpty_iff.mp h]
  · exact sessionAfter_concat_announce session deeds

/-- Changes are announced if there are any. -/
theorem mem_announced : Deed.announce ∈ announced deeds ↔ deeds.isEmpty = false := by
  unfold announced
  split
  · next hempty =>
    rw [List.isEmpty_iff.mp hempty]
    exact iff_of_false List.not_mem_nil nofun
  · next hsome => simpa using hsome

/-- A host has saved the session if no change is left unannounced. -/
theorem savedAfter_eq_sessionAfter (session : Session) (h : ¬ Unannounced deeds) :
    savedAfter session session deeds = sessionAfter session deeds := by
  rcases List.eq_nil_or_concat' deeds with rfl | ⟨before, last, rfl⟩
  · rfl
  · cases last with
    | change next => exact absurd (unannounced_concat_change before next) h
    | announce => rw [savedAfter_concat_announce, sessionAfter_concat_announce]

end Deeds

section Index

/-- Indexing emails leaves the index behind that a batch of them has. -/
theorem sessionAfter_indexDeeds (session : Session) (now : Int) (position : Nat)
    (mails : List Value) :
    sessionAfter session (indexDeeds session now mails) =
      { session with index := (session.index.insertEach now position mails).index } := by
  induction mails generalizing session position with
  | nil => rfl
  | cons mail mails ih =>
    rw [indexDeeds, Index.insertEach]
    cases Record.ofMail mail with
    | ok r => exact ih { session with index := session.index.insert now r } (position + 1)
    | error fault =>
      dsimp only
      split
      · exact ih session (position + 1)
      · rfl

/-- There are changes if and only if the batch put an email in. -/
theorem isEmpty_indexDeeds (session : Session) (now : Int) (position : Nat)
    (mails : List Value) :
    (indexDeeds session now mails).isEmpty =
      ((session.index.insertEach now position mails).indexed == 0) := by
  induction mails generalizing session position with
  | nil => rfl
  | cons mail mails ih =>
    rw [indexDeeds, Index.insertEach]
    cases Record.ofMail mail with
    | ok r =>
      dsimp only
      rw [Index.Batch.indexed_after_inserted]
      simp
    | error fault =>
      dsimp only
      split
      · rw [Index.Batch.indexed_after_refused]
        exact ih session (position + 1)
      · rfl

/-- Nothing is announced while emails are indexed. -/
theorem announce_not_mem_indexDeeds (session : Session) (now : Int) (mails : List Value) :
    .announce ∉ indexDeeds session now mails := by
  induction mails generalizing session with
  | nil => exact List.not_mem_nil
  | cons mail mails ih =>
    rw [indexDeeds]
    cases Record.ofMail mail with
    | ok r => simpa using ih { session with index := session.index.insert now r }
    | error fault =>
      dsimp only
      split
      · exact ih session
      · exact List.not_mem_nil

end Index

section Call

/-- A hit can be shown if its date can. -/
theorem isOk_summary (h : Hit) : h.summary.isOk = (isoOfMillis h.record.date).isOk := by
  unfold Hit.summary
  cases isoOfMillis h.record.date with
  | error fault => rfl
  | ok date => rfl

/-- Searching records the search. -/
theorem sessionAfter_searchDeeds (session : Session) (now : Int) (query : String)
    (found : List Hit) :
    sessionAfter session (searchDeeds session now query found) =
      session.recorded now query found.length := by
  dsimp only [searchDeeds]
  split
  · rw [sessionAfter_announced]
    rfl
  · rfl

/-- A call leaves the session behind that its deeds do. -/
theorem session_perform (session : Session) (s : Settings) (now : Int) (c : Call) :
    (perform session s now c).session = sessionAfter session (c.deeds session s now) := by
  cases c with
  | search query limit fuzzy order =>
    change (session.execute s now query (request limit fuzzy order)).1 = _
    rw [Call.deeds, Session.execute]
    split
    · rfl
    · dsimp only
      cases (session.index.searchText s now query (request limit fuzzy order)).result with
      | error fault => rfl
      | ok found => exact (sessionAfter_searchDeeds session now query found).symm
  | index mails =>
    have hbatch := sessionAfter_indexDeeds session now 0 mails
    rw [perform, Call.deeds]
    cases (session.index.insertEach now 0 mails).stopped with
    | some fault => exact hbatch.symm
    | none => exact hbatch.symm.trans (sessionAfter_announced session _).symm
  | remove id =>
    rw [perform, Call.deeds]
    cases hknown : session.index.contains id with
    | false => exact congrArg (Session.mk · session.history) (Index.erase_of_not_contains hknown)
    | true => rfl
  | suggest typed limit => rfl
  | explain query => rfl
  | stats => rfl

/-- A call announces changes if this is among its deeds. -/
theorem changed_perform (session : Session) (s : Settings) (now : Int) (c : Call) :
    (perform session s now c).changed ↔ .announce ∈ c.deeds session s now := by
  cases c with
  | search query limit fuzzy order =>
    change ((session.execute s now query (request limit fuzzy order)).2 >>= fun hits ↦
      Logged.lift (hits.mapM Hit.summary)).result.isOk && !Unicode.isBlankText query ↔ _
    rw [Call.deeds, Session.execute, Logged.result_bind]
    split
    · next hblank => simp [hblank]
    · next hink =>
      dsimp only
      cases hresult : (session.index.searchText s now query (request limit fuzzy order)).result with
      | error fault =>
        dsimp only
        rw [hresult]
        exact iff_of_false nofun List.not_mem_nil
      | ok found =>
        dsimp only [searchDeeds]
        rw [hresult, eq_false_of_ne_true hink]
        change (found.mapM Hit.summary).isOk && true ↔ _
        split
        · next hshown => simpa [mem_announced] using hshown
        · next hshown => simpa using hshown
  | index mails =>
    rw [perform, Call.deeds]
    cases (session.index.insertEach now 0 mails).stopped with
    | some fault => exact iff_of_false nofun (announce_not_mem_indexDeeds session now mails)
    | none =>
      have hempty := isEmpty_indexDeeds session now 0 mails
      refine Iff.trans ?_ mem_announced.symm
      rw [hempty]
      simp [Nat.pos_iff_ne_zero]
  | remove id =>
    rw [perform, Call.deeds]
    cases hknown : session.index.contains id with
    | false => simp
    | true => simp [announced]
  | suggest typed limit => exact iff_of_false nofun List.not_mem_nil
  | explain query => exact iff_of_false nofun List.not_mem_nil
  | stats => exact iff_of_false nofun List.not_mem_nil

/-- A search leaves a change unannounced if a hit cannot be shown. -/
theorem unannounced_searchDeeds_iff (session : Session) (now : Int) (query : String)
    (found : List Hit) :
    Unannounced (searchDeeds session now query found) ↔
      ∃ hit ∈ found, (isoOfMillis hit.record.date).isOk = false := by
  have hshown : (found.mapM Hit.summary).isOk ↔
      ∀ hit ∈ found, (isoOfMillis hit.record.date).isOk := by
    simp only [isOk_mapM_iff, isOk_summary]
  dsimp only [searchDeeds]
  split
  · next h =>
    refine iff_of_false (not_unannounced_announced _) ?_
    rintro ⟨hit, hhit, hdate⟩
    rw [hshown.mp h hit hhit] at hdate
    exact nomatch hdate
  · next h =>
    refine iff_of_true (unannounced_concat_change [_] _) ?_
    simpa [hshown] using h

/-- A call with emails that are objects leaves a change unannounced if it is a search that finds
an email whose date cannot be shown. -/
theorem unannounced_deeds_iff (session : Session) (s : Settings) (now : Int) {c : Call}
    (hc : ∀ mails, c = .index mails → ∀ mail ∈ mails, ∃ fields, mail = .object fields) :
    Unannounced (c.deeds session s now) ↔ c.FindsUndated session s now := by
  cases c with
  | search query limit fuzzy order =>
    rw [Call.deeds, Call.FindsUndated]
    split
    · next hblank => simp [hblank, not_unannounced_nil]
    · next hink =>
      rw [and_iff_right (eq_false_of_ne_true hink)]
      cases (session.index.searchText s now query (request limit fuzzy order)).result with
      | error fault => simp [not_unannounced_nil]
      | ok found => simp [unannounced_searchDeeds_iff]
  | index mails =>
    rw [Call.deeds, Index.stopped_insertEach session.index now 0 (hc mails rfl)]
    exact iff_of_false (not_unannounced_announced _) id
  | remove target =>
    rw [Call.deeds]
    split
    · exact iff_of_false (not_unannounced_announced _) id
    · exact iff_of_false not_unannounced_nil id
  | suggest typed limit => exact iff_of_false not_unannounced_nil id
  | explain query => exact iff_of_false not_unannounced_nil id
  | stats => exact iff_of_false not_unannounced_nil id

end Call

section Message

variable {tool : String} {args : List (String × Value)} {mails : List Value}

private theorem object_of_objectsArgument {v : Value} (h : objectsArgument? v = some mails) :
    ∀ mail ∈ mails, ∃ fields, mail = .object fields := by
  cases v with
  | list items =>
    rw [objectsArgument?] at h
    induction items generalizing mails with
    | nil =>
      obtain rfl := Option.some.inj h
      simp
    | cons item items ih =>
      rw [List.mapM_cons] at h
      obtain ⟨first, hfirst, h⟩ := Option.bind_eq_some_iff.mp h
      obtain ⟨rest, hrest, h⟩ := Option.bind_eq_some_iff.mp h
      obtain rfl := Option.some.inj h
      refine List.forall_mem_cons.mpr ⟨?_, ih hrest⟩
      split at hfirst
      · next fields => exact ⟨fields, (Option.some.inj hfirst).symm⟩
      · exact nomatch hfirst
  | _ => exact nomatch h

/-- A call that was read has the arguments of its tool. -/
theorem ofArguments_of_read {c : Call} (h : Call.read tool args = .ok c) :
    Call.ofArguments? tool args = some c := by
  unfold Call.read at h
  split at h
  · exact nomatch h
  · split at h
    · next hsome =>
      obtain rfl := Except.ok.inj h
      split at hsome
      · exact hsome
      · exact nomatch hsome
    · exact nomatch h

/-- The emails of a call that was read are objects. -/
theorem object_of_read (h : Call.read tool args = .ok (.index mails)) :
    ∀ mail ∈ mails, ∃ fields, mail = .object fields := by
  have hargs := ofArguments_of_read h
  unfold Call.ofArguments? at hargs
  split at hargs
  · simp [Option.bind_eq_some_iff] at hargs
  · simp [Option.bind_eq_some_iff] at hargs
  · simp at hargs
  · simp at hargs
  · obtain ⟨found, hfound, hcall⟩ := Option.map_eq_some_iff.mp hargs
    obtain rfl := Call.index.inj hcall
    obtain ⟨v, -, hv⟩ := Option.bind_eq_some_iff.mp hfound
    exact object_of_objectsArgument hv
  · simp at hargs
  · exact nomatch hargs

variable (session : Session) (s : Settings) (m : Message)

/-- A call by name leaves the session behind that its deeds do. -/
theorem session_call :
    (call session s m.now m.tool m.args).session = sessionAfter session (m.deeds session s) := by
  rw [call, Message.deeds]
  cases Call.read m.tool m.args with
  | error refusal => rfl
  | ok c => exact session_perform session s m.now c

/-- A call by name announces changes if this is among its deeds. -/
theorem changed_call :
    (call session s m.now m.tool m.args).changed ↔ .announce ∈ m.deeds session s := by
  rw [call, Message.deeds]
  cases Call.read m.tool m.args with
  | error refusal => exact iff_of_false nofun List.not_mem_nil
  | ok c => exact changed_perform session s m.now c

/-- A call by name leaves a change unannounced if it is a search that finds an email whose date
cannot be shown. -/
theorem unannounced_iff_findsUndated :
    Unannounced (m.deeds session s) ↔ m.FindsUndated session s := by
  rw [Message.deeds, Message.FindsUndated]
  cases hread : Call.read m.tool m.args with
  | error refusal => exact iff_of_false not_unannounced_nil nofun
  | ok c =>
    dsimp only
    rw [unannounced_deeds_iff session s m.now fun mails hc ↦ object_of_read (hc ▸ hread)]
    simp

end Message

/-- A host that saves the session at each announcement has saved all changes of any calls of
which none is a search that finds an email whose date cannot be shown. -/
theorem savedAfterCalls_eq_afterCalls (session : Session) (s : Settings) (ms : List Message)
    (h : ∀ earlier m later, ms = earlier ++ m :: later →
      ¬ m.FindsUndated (afterCalls session s earlier) s) :
    savedAfterCalls session session s ms = afterCalls session s ms := by
  induction ms generalizing session with
  | nil => rfl
  | cons m ms ih =>
    have hsaved : savedAfter session session (m.deeds session s) =
        (call session s m.now m.tool m.args).session := by
      rw [session_call]
      apply savedAfter_eq_sessionAfter
      rw [unannounced_iff_findsUndated]
      exact h [] m ms rfl
    rw [savedAfterCalls, afterCalls, hsaved]
    refine ih _ fun earlier next later hms ↦ ?_
    exact h (m :: earlier) next later (congrArg (m :: ·) hms)

/-- After any calls from any session, the next call leaves behind the session that its deeds make
and announces changes if this is among them. A change is left unannounced if and only if the
call is a search that finds an email whose date cannot be shown. -/
theorem unannounced_after_calls_iff (start : Session) (s : Settings) (earlier : List Message)
    (m : Message) :
    let session := afterCalls start s earlier
    let reply := call session s m.now m.tool m.args
    let deeds := m.deeds session s
    reply.session = sessionAfter session deeds ∧
      (reply.changed ↔ .announce ∈ deeds) ∧
      (Unannounced deeds ↔ m.FindsUndated session s) := by
  intro session reply deeds
  exact ⟨session_call session s m, changed_call session s m,
    unannounced_iff_findsUndated session s m⟩

/-- An email of the far future is indexed and found. The search is recorded, but it fails and
announces nothing. -/
theorem call_search_unannounced :
    let s : Settings := { home := ⟨"/", []⟩ }
    let mail : Value := .object [("id", .text "a"), ("date", .int 10000000000000000)]
    let start : Session := { index := (Index.empty 3 .zero).after [(1, .insert (.value mail))] }
    let reply := call start s 2 "search" [("query", .text "is:unread")]
    start.history.recent = [] ∧ reply.session.history.recent = ["is:unread"] ∧
      reply.changed = false := by
  decide +kernel

end MailSearch.Service
