import MailSearch.Console.Run

/-!
# What actions leave behind

Commands print on their way, and what is printed decides nothing afterwards. So worlds that
differ in the screen only count as alike, and an action is described by what it gives or
whether it stops in all worlds alike, and by the disk that it leaves.
-/

namespace MailSearch.Console

/-- Whether two worlds differ at most in the screen and in how much is shown there. -/
structure World.Alike (w v : World) : Prop where
  disk : v.disk = w.disk
  settings : v.settings = w.settings
  clock : v.clock = w.clock
  tick : v.tick = w.tick
  nesting : v.nesting = w.nesting

/-- A world is like itself. -/
theorem World.Alike.refl (w : World) : w.Alike w := ⟨rfl, rfl, rfl, rfl, rfl⟩

/-- Likeness goes on from world to world. -/
theorem World.Alike.trans {u v w : World} (huv : u.Alike v) (hvw : v.Alike w) : u.Alike w :=
  ⟨hvw.disk.trans huv.disk, hvw.settings.trans huv.settings, hvw.clock.trans huv.clock,
    hvw.tick.trans huv.tick, hvw.nesting.trans huv.nesting⟩

namespace Action

variable {α β : Type}

/-- What an action gives in a world, or how it ends early, and the world afterwards. -/
def outcome (m : Action α) (w : World) : Except Ending α × World := (m.run).run w

/-- Two actions go on in the world that the first leaves, if it gives a result. -/
theorem outcome_bind (m : Action α) (f : α → Action β) (w : World) :
    (m >>= f).outcome w =
      match m.outcome w with
      | (.ok a, v) => (f a).outcome v
      | (.error e, v) => (.error e, v) := by
  change ((ExceptT.bindCont f) (m.outcome w).1).run (m.outcome w).2 = _
  cases m.outcome w with
  | mk result v =>
    cases result with
    | error e => rfl
    | ok a => rfl

/-- An action gives a result and leaves a world, whatever the screen shows. -/
def Gives (m : Action α) (w : World) (a : α) (v : World) : Prop :=
  ∀ w', w.Alike w' → ∃ v', m.outcome w' = (.ok a, v') ∧ v.Alike v'

/-- An action ends early and leaves a world, whatever the screen shows. -/
def Stops (m : Action α) (w v : World) : Prop :=
  ∀ w', w.Alike w' → ∃ e v', m.outcome w' = (.error e, v') ∧ v.Alike v'

/-- An action changes the screen only. -/
def Quiet (m : Action α) : Prop := ∀ w : World, w.Alike (m.outcome w).2

/-- An action leaves a disk behind, whether it gives a result or ends early, and leaves the
settings as they are. -/
def Leaves (m : Action α) (w : World) (d : Disk) : Prop :=
  ∀ w', w.Alike w' → (m.outcome w').2.disk = d ∧ (m.outcome w').2.settings = w.settings

section Sequence

variable {m : Action α} {f : α → Action β} {u v w : World} {a : α} {b : β} {d : Disk}

/-- A result that is there is given at once. -/
theorem gives_pure (a : α) (w : World) : Gives (pure a) w a w := fun w' h ↦ ⟨w', rfl, h⟩

/-- Two actions that give results give one in sequence. -/
theorem Gives.bind (hm : Gives m w a v) (hf : Gives (f a) v b u) : Gives (m >>= f) w b u := by
  intro w' hw
  obtain ⟨v', hv, hv'⟩ := hm w' hw
  obtain ⟨u', hu, hu'⟩ := hf v' hv'
  exact ⟨u', by rw [outcome_bind, hv]; exact hu, hu'⟩

/-- A sequence ends early if its second action does. -/
theorem Gives.bind_stops (hm : Gives m w a v) (hf : Stops (f a) v u) : Stops (m >>= f) w u := by
  intro w' hw
  obtain ⟨v', hv, hv'⟩ := hm w' hw
  obtain ⟨e, u', hu, hu'⟩ := hf v' hv'
  exact ⟨e, u', by rw [outcome_bind, hv]; exact hu, hu'⟩

/-- A sequence ends early if its first action does. -/
theorem Stops.bind (hm : Stops m w v) : Stops (m >>= f) w v := by
  intro w' hw
  obtain ⟨e, v', hv, hv'⟩ := hm w' hw
  exact ⟨e, v', by rw [outcome_bind, hv], hv'⟩

/-- Quiet actions are quiet in sequence. -/
theorem Quiet.bind (hm : Quiet m) (hf : ∀ a, Quiet (f a)) : Quiet (m >>= f) := by
  intro w
  have hw := hm w
  rw [outcome_bind]
  cases houtcome : m.outcome w with
  | mk result v =>
    rw [houtcome] at hw
    cases result with
    | error e => exact hw
    | ok a => exact hw.trans (hf a v)

/-- A quiet action leaves the disk as it was. -/
theorem Quiet.leaves (hm : Quiet m) (w : World) : Leaves m w w.disk := by
  intro w' hw
  exact ⟨(hm w').disk.trans hw.disk, (hm w').settings.trans hw.settings⟩

/-- An action that ends early leaves the disk with which it ends. -/
theorem Stops.leaves (hm : Stops m w v) (hsettings : v.settings = w.settings) :
    Leaves m w v.disk := by
  intro w' hw
  obtain ⟨e, v', hv, hv'⟩ := hm w' hw
  rw [hv]
  exact ⟨hv'.disk, hv'.settings.trans hsettings⟩

/-- What a sequence leaves is what its second action leaves. -/
theorem Gives.bind_leaves (hm : Gives m w a v) (hsettings : v.settings = w.settings)
    (hf : Leaves (f a) v d) : Leaves (m >>= f) w d := by
  intro w' hw
  obtain ⟨v', hv, hv'⟩ := hm w' hw
  rw [outcome_bind, hv, ← hsettings]
  exact hf v' hv'

/-- A quiet action leaves what was left before it. -/
theorem Leaves.bind_quiet (hm : Leaves m w d) (hf : ∀ a, Quiet (f a)) :
    Leaves (m >>= f) w d := by
  intro w' hw
  obtain ⟨hdisk, hsettings⟩ := hm w' hw
  rw [outcome_bind]
  cases houtcome : m.outcome w' with
  | mk result v =>
    rw [houtcome] at hdisk hsettings
    cases result with
    | error e => exact ⟨hdisk, hsettings⟩
    | ok a => exact ⟨(hf a v).disk.trans hdisk, (hf a v).settings.trans hsettings⟩

end Sequence

section State

variable {f : World → Action β} {w v : World} {b : β} {d : Disk}

/-- A world can be put in place of any other. -/
theorem gives_set {u v : World} (h : u.Alike v) (w : World) :
    Gives (set v : Action PUnit) w ⟨⟩ u :=
  fun _ _ ↦ ⟨v, rfl, h⟩

/-- An action that begins by looking at its world may look at any world alike. -/
theorem gives_get_bind (h : ∀ w', w.Alike w' → Gives (f w') w b v) :
    Gives ((get : Action World) >>= f) w b v := by
  intro w' hw
  rw [outcome_bind]
  exact h w' hw w' hw

/-- An action that looks at its world first ends early if it does so in all worlds alike. -/
theorem stops_get_bind (h : ∀ w', w.Alike w' → Stops (f w') w v) :
    Stops ((get : Action World) >>= f) w v := by
  intro w' hw
  rw [outcome_bind]
  exact h w' hw w' hw

/-- An action that looks at its world first leaves what it leaves in all worlds alike. -/
theorem leaves_get_bind (h : ∀ w', w.Alike w' → Leaves (f w') w d) :
    Leaves ((get : Action World) >>= f) w d := by
  intro w' hw
  rw [outcome_bind]
  exact h w' hw w' hw

/-- Looking at the world is quiet. -/
theorem quiet_get_bind (h : ∀ w, Quiet (f w)) : Quiet ((get : Action World) >>= f) := by
  intro w
  rw [outcome_bind]
  exact h w w

end State

section Screen

variable {γ : Type}

/-- Giving a result is quiet. -/
theorem quiet_pure (a : α) : Quiet (pure a) := fun w ↦ .refl w

/-- Ending early is quiet. -/
theorem quiet_throw (e : Ending) : Quiet (throw e : Action α) := fun w ↦ .refl w

/-- A choice between quiet actions is quiet. -/
theorem quiet_ite {c : Prop} [Decidable c] {yes no : Action α} (hyes : Quiet yes)
    (hno : Quiet no) : Quiet (if c then yes else no) := by
  split
  · exact hyes
  · exact hno

/-- Printing is quiet. -/
theorem quiet_say (line : String) : Quiet (say line) := fun _ ↦ ⟨rfl, rfl, rfl, rfl, rfl⟩

/-- Printing beside the output is quiet. -/
theorem quiet_complain (line : String) : Quiet (complain line) := fun _ ↦ ⟨rfl, rfl, rfl, rfl, rfl⟩

/-- Printing beside the output always succeeds. -/
theorem gives_complain (line : String) (w : World) : Gives (complain line) w ⟨⟩ w :=
  fun _ hw ↦ ⟨_, rfl, hw.trans ⟨rfl, rfl, rfl, rfl, rfl⟩⟩

/-- Showing an event always succeeds. -/
theorem gives_showEvent (e : Event) (w : World) : Gives (showEvent e) w ⟨⟩ w := by
  refine gives_get_bind fun w' hw ↦ ?_
  split
  · exact gives_complain _ w
  · split
    · exact gives_complain _ w
    · exact gives_pure _ w

/-- An action succeeds for a list if it does for each element. -/
theorem gives_forM {w : World} {f : γ → Action PUnit} (h : ∀ x, Gives (f x) w ⟨⟩ w)
    (xs : List γ) : Gives (xs.forM f) w ⟨⟩ w := by
  induction xs with
  | nil => exact gives_pure _ w
  | cons x xs ih => exact (h x).bind ih

/-- An action is quiet for a list if it is for each element. -/
theorem quiet_forM {f : γ → Action PUnit} (h : ∀ x, Quiet (f x)) (xs : List γ) :
    Quiet (xs.forM f) := by
  induction xs with
  | nil => exact quiet_pure _
  | cons x xs ih => exact (h x).bind fun _ ↦ ih

/-- Events are shown and the outcome is gone on with. -/
theorem gives_showing (action : Logged α) (w : World) :
    Gives (showing action) w action.result w :=
  (gives_forM (fun e ↦ gives_showEvent e w) action.events).bind (gives_pure _ w)

/-- Showing an event is quiet. -/
theorem quiet_showEvent (e : Event) : Quiet (showEvent e) := by
  refine quiet_get_bind fun w ↦ ?_
  split
  · exact quiet_complain _
  · split
    · exact quiet_complain _
    · exact quiet_pure _

/-- Showing events is quiet. -/
theorem quiet_showing (action : Logged α) : Quiet (showing action) :=
  (quiet_forM quiet_showEvent action.events).bind fun _ ↦ quiet_pure _

/-- Ending for a cause that is not handled is quiet. -/
theorem quiet_orCrash (x : Except Fault α) : Quiet (orCrash x) := by
  cases x with
  | ok a => exact quiet_pure a
  | error fault => exact quiet_throw _

/-- A result is given as it is. -/
theorem gives_orCrash {x : Except Fault α} {a : α} (h : x = .ok a) (w : World) :
    Gives (orCrash x) w a w := by
  rw [h]
  exact gives_pure a w

/-- Ending early leaves the world as it is. -/
theorem stops_throw (e : Ending) (w : World) : Stops (throw e : Action α) w w :=
  fun w' hw ↦ ⟨e, w', rfl, hw⟩

/-- Ending with a message is quiet. -/
theorem quiet_giveUp (message : String) : Quiet (giveUp message : Action α) :=
  (quiet_complain _).bind fun _ ↦ quiet_throw _

/-- Ending with a message leaves all but the screen. -/
theorem stops_giveUp (message : String) (w : World) : Stops (giveUp message : Action α) w w :=
  (gives_complain _ w).bind_stops (stops_throw _ w)

/-- Reading the clock gives the time and moves the clock on. -/
theorem gives_readClock (w : World) :
    Gives readClock w w.clock { w with clock := w.clock + w.tick } := by
  refine gives_get_bind fun w' hw ↦ ?_
  have hmoved : World.Alike { w with clock := w.clock + w.tick }
      { w' with clock := w'.clock + w'.tick } :=
    ⟨hw.disk, hw.settings, by rw [hw.clock, hw.tick], hw.tick, hw.nesting⟩
  refine (gives_set hmoved w).bind ?_
  rw [hw.clock]
  exact gives_pure _ _

/-- Telling how long something took is quiet. -/
theorem quiet_elapsedText (start stop : Int) : Quiet (elapsedText start stop) := quiet_orCrash _

end Screen

section Files

variable {path : Path} {session : Session} {w : World}

/-- What a command loads from its snapshot. -/
def loading (w : World) (path : Path) (mustExist : Bool) : Logged Session :=
  if mustExist then Snapshot.load w.disk path w.settings w.clock w.nesting
  else Snapshot.loadOrCreate w.disk path w.settings w.clock w.nesting

private theorem loading_congr {w' : World} (hw : w.Alike w') (path : Path) (mustExist : Bool) :
    loading w' path mustExist = loading w path mustExist := by
  unfold loading
  rw [hw.disk, hw.settings, hw.clock, hw.nesting]

/-- A session that can be loaded is given. -/
theorem gives_load {mustExist : Bool} (h : (loading w path mustExist).result = .ok session) :
    Gives (load path mustExist) w session w := by
  refine gives_get_bind fun w' hw ↦ ?_
  refine (gives_showing (loading w' path mustExist) w).bind ?_
  rw [loading_congr hw, h]
  exact gives_pure session w

/-- What cannot be loaded ends a command before anything is written. -/
theorem stops_load {mustExist : Bool} {fault : Fault}
    (h : (loading w path mustExist).result = .error fault) : Stops (load path mustExist) w w := by
  refine stops_get_bind fun w' hw ↦ ?_
  refine (gives_showing (loading w' path mustExist) w).bind_stops ?_
  rw [loading_congr hw, h]
  split
  · next hfound => exact nomatch hfound
  · refine (gives_complain _ w).bind_stops ?_
    refine (gives_complain _ w).bind_stops ?_
    exact (gives_complain _ w).bind_stops (stops_throw _ w)
  · split
    · exact stops_giveUp _ w
    · exact stops_throw _ w

/-- Storing a session leaves the disk that writing its snapshot leaves. -/
theorem leaves_store (path : Path) (session : Session) (w : World) :
    Leaves (store path session) w
      (Snapshot.write w.disk path session.index (some session.history) true).1 := by
  refine leaves_get_bind fun w' hw ↦ ?_
  rw [hw.disk]
  refine (gives_set (u := { w' with disk := _ }) (.refl _) w).bind_leaves hw.settings ?_
  refine Quiet.leaves ((quiet_showing _).bind fun result ↦ ?_) _
  split
  · exact quiet_pure _
  · split
    · exact quiet_giveUp _
    · exact quiet_throw _

end Files

end Action
end MailSearch.Console
