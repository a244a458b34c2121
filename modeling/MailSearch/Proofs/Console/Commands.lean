import MailSearch.Proofs.Console.Action
import MailSearch.Proofs.Console.Calls
import MailSearch.Proofs.Index.Batch
import MailSearch.Proofs.Snapshot

/-!
# What commands leave on the disk

A command is described by the calls that it makes on a session: it loads one, makes the calls
and stores what came of them, or it leaves the disk as it was. What it prints before and
afterwards, and whether printing fails, makes no difference.
-/

namespace MailSearch.Console

namespace Action

variable {α : Type} {w : World} {p : Path}

/-- The emails of a file of a world. -/
def mailsOf (w : World) (file : Path) : Except Fault (List Value) :=
  (Snapshot.readMails w.disk file w.nesting).result

/-- The disk after a session was stored in a snapshot, or the disk as it was if there is
nothing to store. -/
def storedDisk (w : World) (p : Path) : Option Session → Disk
  | some session => (Snapshot.write w.disk p session.index (some session.history) true).1
  | none => w.disk

/-- The session that a command stores in a world, if it stores one: it makes its calls on the
session that it loads. -/
def stored (w : World) (p : Path) (c : Command) : Option Session :=
  (loading w p c.needsSnapshot).result.toOption.bind
    (c.calls w.settings (mailsOf w) w.clock (w.clock + w.tick))

/-- A command finds the path of its snapshot, if it has one. -/
theorem gives_choosePath {c : Command} (h : c.path w.settings = .ok p) :
    Gives (choosePath c.snapshot?) w p w := by
  unfold Command.path at h
  unfold choosePath
  cases hsnapshot : c.snapshot? with
  | some text =>
    rw [hsnapshot] at h
    cases h
    exact gives_pure _ w
  | none =>
    rw [hsnapshot] at h
    refine gives_get_bind fun w' hw ↦ ?_
    rw [hw.settings]
    exact gives_orCrash h w

/-- A command chooses its snapshot and loads it before anything else. -/
theorem leaves_loading {c : Command} (hpath : c.path w.settings = .ok p)
    {rest : Path → Session → Action α}
    (hrest : ∀ session, (loading w p c.needsSnapshot).result = .ok session →
      Leaves (rest p session) w
        (storedDisk w p (c.calls w.settings (mailsOf w) w.clock (w.clock + w.tick) session))) :
    Leaves (do
      let path ← choosePath c.snapshot?
      let session ← load path c.needsSnapshot
      rest path session) w (storedDisk w p (stored w p c)) := by
  refine (gives_choosePath hpath).bind_leaves rfl ?_
  unfold stored
  cases hload : (loading w p c.needsSnapshot).result with
  | error fault => exact (stops_load hload).bind.leaves rfl
  | ok session => exact (gives_load hload).bind_leaves rfl (hrest session hload)

private theorem leaves_remove {id : String} {snapshot : Option String}
    (hpath : (Command.remove id snapshot).path w.settings = .ok p) :
    Leaves (remove id snapshot) w (storedDisk w p (stored w p (.remove id snapshot))) := by
  refine leaves_loading hpath fun session _ ↦ ?_
  by_cases hid : session.index.contains id
  · simp only [hid, ↓reduceIte, Command.calls]
    refine (gives_forM (fun e ↦ gives_showEvent e w) _).bind_leaves rfl ?_
    exact (leaves_store p _ w).bind_quiet fun _ ↦ quiet_say _
  · simp only [hid, Bool.false_eq_true, ↓reduceIte, Command.calls]
    exact (quiet_say _).leaves w

private theorem quiet_showSaved (saved : SavedSearch) : Quiet (showSaved saved) :=
  (quiet_orCrash _).bind fun _ ↦ (quiet_orCrash _).bind fun _ ↦ (quiet_orCrash _).bind fun _ ↦
    quiet_say _

private theorem leaves_saved {snapshot delete : Option String}
    (hpath : (Command.saved snapshot delete).path w.settings = .ok p) :
    Leaves (saved snapshot delete) w (storedDisk w p (stored w p (.saved snapshot delete))) := by
  refine leaves_loading hpath fun session _ ↦ ?_
  cases delete with
  | none =>
    dsimp only [Command.calls]
    refine Quiet.leaves ?_ w
    split
    · exact quiet_say _
    · exact quiet_forM quiet_showSaved _
  | some id =>
    simp only [Command.calls]
    cases hdelete : session.history.delete (.text id) with
    | mk history found =>
      cases found with
      | true =>
        simp only [↓reduceIte]
        exact (leaves_store p _ w).bind_quiet fun _ ↦ quiet_say _
      | false => exact (quiet_giveUp _).leaves w

private theorem leaves_save {name query : String} {snapshot : Option String}
    (hpath : (Command.save name query snapshot).path w.settings = .ok p) :
    Leaves (save name query snapshot) w
      (storedDisk w p (stored w p (.save name query snapshot))) := by
  refine leaves_loading hpath fun session _ ↦ ?_
  refine leaves_get_bind fun w' hw ↦ ?_
  rw [hw.clock]
  simp only [Command.calls]
  cases hsave : session.history.save w.clock (.text name) (.text query) with
  | error fault => exact (stops_throw _ w).bind.leaves rfl
  | ok result =>
    refine (gives_pure result w).bind_leaves rfl ?_
    refine (leaves_store p _ w).bind_quiet fun _ ↦ ?_
    exact (quiet_orCrash _).bind fun _ ↦ quiet_say _

private theorem quiet_showHit (hit : Hit) : Quiet (showHit hit) :=
  (quiet_orCrash _).bind fun _ ↦ (quiet_say _).bind fun _ ↦ (quiet_say _).bind fun _ ↦
    quiet_forM (fun _ ↦ quiet_say _) _

private theorem leaves_search {query : String} {snapshot : Option String} {limit : Int}
    {fuzzy : Bool} {order : Order} {json verbose : Bool}
    (hpath : (Command.search query snapshot limit fuzzy order json verbose).path w.settings =
      .ok p) :
    Leaves (search query snapshot limit fuzzy order json) w
      (storedDisk w p (stored w p (.search query snapshot limit fuzzy order json verbose))) := by
  refine leaves_loading hpath fun session _ ↦ ?_
  refine (gives_readClock w).bind_leaves rfl ?_
  refine leaves_get_bind fun w' hw ↦ ?_
  rw [hw.settings, hw.clock]
  simp only [Command.calls, Command.succeeded]
  cases hexecute : session.execute w.settings (w.clock + w.tick) query
      { limit := some limit, fuzzy := some fuzzy, order := order } with
  | mk after outcome =>
    refine (gives_showing outcome _).bind_leaves rfl ?_
    cases hresult : outcome.result with
    | error fault => exact (stops_throw _ _).bind.leaves rfl
    | ok hits =>
      refine (gives_pure hits _).bind_leaves rfl ?_
      refine (gives_readClock _).bind_leaves rfl ?_
      refine (leaves_store p after _).bind_quiet fun _ ↦ ?_
      split
      · exact (quiet_orCrash _).bind fun _ ↦ quiet_say _
      · split
        · exact quiet_say _
        · refine (quiet_forM quiet_showHit hits).bind fun _ ↦ ?_
          refine (quiet_say _).bind fun _ ↦ ?_
          exact (quiet_elapsedText _ _).bind fun _ ↦ quiet_say _

private theorem gives_showStep (step : Index.BatchStep) (w : World) :
    Gives (showStep step) w ⟨⟩ w := by
  cases step with
  | inserted event => exact gives_showEvent event w
  | refused position fault =>
    refine gives_get_bind fun w' _ ↦ ?_
    split
    · exact gives_complain _ w
    · exact gives_pure _ w

private theorem insertEach_replacing (ix : Index) (replace : Bool) (now : Int)
    {mails : List Value} (h : ∀ mail ∈ mails, ∃ fields, mail = .object fields) :
    ((if replace then ix.clear else ix).insertEach now 0 mails).index =
      ix.after ((if replace then [(now, Index.Change.clear)] else []) ++
        mails.map fun mail ↦ (now, .insert (.value mail))) := by
  cases replace with
  | true => exact Index.insertEach_eq_after ix.clear now 0 h
  | false => exact Index.insertEach_eq_after ix now 0 h

private theorem leaves_index {file : String} {snapshot : Option String} {replace verbose : Bool}
    (hpath : (Command.index file snapshot replace verbose).path w.settings = .ok p) :
    Leaves (index file snapshot replace) w
      (storedDisk w p (stored w p (.index file snapshot replace verbose))) := by
  refine leaves_loading hpath fun session _ ↦ ?_
  refine leaves_get_bind fun w' hw ↦ ?_
  rw [hw.disk, hw.nesting]
  refine (gives_showing _ w).bind_leaves rfl ?_
  simp only [Command.calls]
  cases hmails : (Snapshot.readMails w.disk (Path.ofText file) w.nesting).result with
  | error fault =>
    have hnone : mailsOf w (Path.ofText file) = .error fault := hmails
    rw [hnone]
    dsimp only
    split
    · exact (stops_giveUp _ w).bind.leaves rfl
    · split
      · exact (stops_giveUp _ w).bind.leaves rfl
      · exact (stops_throw _ w).bind.leaves rfl
  | ok mails =>
    have hsome : mailsOf w (Path.ofText file) = .ok mails := hmails
    have hobjects : ∀ mail ∈ mails, ∃ fields, mail = .object fields :=
      fun mail hmail ↦ (Snapshot.readable_of_readMails hmails hmail).2
    rw [hsome]
    simp only [Except.toOption, Option.map_some]
    refine (gives_pure mails w).bind_leaves rfl ?_
    refine (gives_readClock w).bind_leaves rfl ?_
    refine leaves_get_bind fun w' hw ↦ ?_
    rw [hw.clock]
    refine (gives_forM (fun step ↦ gives_showStep step _) _).bind_leaves rfl ?_
    refine (gives_readClock _).bind_leaves rfl ?_
    rw [insertEach_replacing session.index replace (w.clock + w.tick) hobjects]
    refine (leaves_store p _ _).bind_quiet fun _ ↦ ?_
    refine (quiet_elapsedText _ _).bind fun _ ↦ (quiet_say _).bind fun _ ↦ quiet_ite ?_ ?_
    · refine (quiet_say _).bind fun _ ↦ (quiet_say _).bind fun _ ↦ ?_
      exact (quiet_orCrash _).bind fun _ ↦ quiet_say _
    · exact (quiet_say _).bind fun _ ↦ (quiet_orCrash _).bind fun _ ↦ quiet_say _

private theorem leaves_suggest {start : String} {snapshot : Option String} {limit : Int}
    (hpath : (Command.suggest start snapshot limit).path w.settings = .ok p) :
    Leaves (suggest start snapshot limit) w
      (storedDisk w p (stored w p (.suggest start snapshot limit))) := by
  refine leaves_loading hpath fun session _ ↦ Quiet.leaves ?_ w
  refine quiet_get_bind fun _ ↦ (quiet_showing _).bind fun _ ↦ ?_
  exact (quiet_orCrash _).bind fun words ↦ quiet_forM quiet_say words

private theorem quiet_fileSize (path : Path) : Quiet (fileSize path) :=
  quiet_get_bind fun _ ↦ (quiet_orCrash _).bind fun _ ↦ quiet_pure _

private theorem leaves_status {snapshot : Option String}
    (hpath : (Command.status snapshot).path w.settings = .ok p) :
    Leaves (status snapshot) w (storedDisk w p (stored w p (.status snapshot))) := by
  refine leaves_loading hpath fun session _ ↦ Quiet.leaves ?_ w
  refine (quiet_say _).bind fun _ ↦ (quiet_say _).bind fun _ ↦ (quiet_say _).bind fun _ ↦ ?_
  refine (quiet_say _).bind fun _ ↦ (quiet_say _).bind fun _ ↦ ?_
  refine (quiet_orCrash _).bind fun _ ↦ (quiet_say _).bind fun _ ↦ ?_
  refine (quiet_fileSize p).bind fun _ ↦ (quiet_orCrash _).bind fun _ ↦ ?_
  refine (quiet_say _).bind fun _ ↦ (quiet_say _).bind fun _ ↦ ?_
  have hsaved : Quiet (do
      say ""
      say s!"Saved searches: {session.history.saved.length}") :=
    (quiet_say _).bind fun _ ↦ quiet_say _
  have hrecent : Quiet (do
      say ""
      say "Recent searches:"
      session.history.recent.forM fun query ↦ say s!"  {query}"
      if !session.history.saved.isEmpty then
        say ""
        say s!"Saved searches: {session.history.saved.length}") := by
    refine (quiet_say _).bind fun _ ↦ (quiet_say _).bind fun _ ↦ ?_
    refine (quiet_forM (fun _ ↦ quiet_say _) _).bind fun _ ↦ quiet_ite hsaved (quiet_pure _)
  have htail : Quiet (do
      if !session.history.recent.isEmpty then
        say ""
        say "Recent searches:"
        session.history.recent.forM fun query ↦ say s!"  {query}"
      if !session.history.saved.isEmpty then
        say ""
        say s!"Saved searches: {session.history.saved.length}") :=
    quiet_ite hrecent (quiet_ite hsaved (quiet_pure _))
  refine quiet_ite ?_ ?_
  · exact (quiet_say _).bind fun _ ↦ htail
  · exact (quiet_orCrash _).bind fun _ ↦ (quiet_say _).bind fun _ ↦ htail

private theorem leaves_serve {snapshot : Option String} {verbose : Bool}
    (hpath : (Command.serve snapshot verbose).path w.settings = .ok p) :
    Leaves (serve snapshot []) w (storedDisk w p (stored w p (.serve snapshot verbose))) := by
  refine leaves_loading hpath fun session _ ↦ Quiet.leaves ?_ w
  exact (quiet_complain _).bind fun _ ↦ quiet_pure _

/-- Whether details are shown has no part in what is left. -/
theorem gives_setVerbose (verbose : Bool) (w : World) :
    Gives (modify fun w ↦ { w with verbose } : Action PUnit) w ⟨⟩ w :=
  fun _ hw ↦ ⟨_, rfl, hw.trans ⟨rfl, rfl, rfl, rfl, rfl⟩⟩

/-- A command leaves the disk on which what it stores is written, and the settings. A service
that answers no calls stores nothing. -/
theorem leaves_perform (c : Command) (hpath : c.path w.settings = .ok p) :
    Leaves (perform [] c) w (storedDisk w p (stored w p c)) := by
  cases c with
  | serve snapshot verbose =>
    exact (gives_setVerbose verbose w).bind_leaves rfl (leaves_serve hpath)
  | index file snapshot replace verbose =>
    refine (gives_setVerbose verbose w).bind_leaves rfl ?_
    exact (leaves_index hpath).bind_quiet fun _ ↦ quiet_pure _
  | remove id snapshot => exact (leaves_remove hpath).bind_quiet fun _ ↦ quiet_pure _
  | search query snapshot limit fuzzy order json verbose =>
    refine (gives_setVerbose verbose w).bind_leaves rfl ?_
    exact (leaves_search hpath).bind_quiet fun _ ↦ quiet_pure _
  | suggest start snapshot limit => exact (leaves_suggest hpath).bind_quiet fun _ ↦ quiet_pure _
  | status snapshot => exact (leaves_status hpath).bind_quiet fun _ ↦ quiet_pure _
  | save name query snapshot => exact (leaves_save hpath).bind_quiet fun _ ↦ quiet_pure _
  | saved snapshot delete => exact (leaves_saved hpath).bind_quiet fun _ ↦ quiet_pure _

end Action
end MailSearch.Console
