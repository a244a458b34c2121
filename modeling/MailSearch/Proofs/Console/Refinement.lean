import MailSearch.Proofs.Console.Commands

/-!
# Runs of commands as one session

Every command loads the snapshot, rebuilds the index and writes everything back. The same
calls on one session that is kept in memory lead to the same records and the same history:
after each command the snapshot holds a session that matches the one in memory, or there is
no snapshot and nothing has been stored.
-/

namespace MailSearch.Console

/-- A command that is run, when it starts, and by how much the clock moves on when it is
read. -/
structure Turn where
  command : Command
  clock : Int
  tick : Int := 0

/-- Whether the times of a turn are integers within the limit. -/
def Turn.fits (t : Turn) : Bool :=
  !hasTooManyDigits t.clock && !hasTooManyDigits (t.clock + t.tick)

namespace World

/-- The world in which the command of a turn is run: the files, the settings and how deep a
document may be are those of before, the screen is new. -/
def facing (w : World) (t : Turn) : World :=
  { disk := w.disk, settings := w.settings, clock := t.clock, tick := t.tick, nesting := w.nesting }

/-- The world after a turn. -/
def turn (w : World) (t : Turn) : World := (run (w.facing t) [] t.command).2

/-- The world after turns. -/
def turns (w : World) (ts : List Turn) : World := ts.foldl turn w

end World

/-- A session that is kept in memory, and whether a command has stored it. -/
structure Memory where
  session : Session
  isSaved : Bool := false

namespace Memory

/-- What the command of a turn makes of the session in memory, if it succeeds and changes
something. It fails if it needs a snapshot and nothing was stored. The emails of a file are
those of a world. -/
def calls (memory : Memory) (w : World) (t : Turn) : Option Session :=
  if t.command.needsSnapshot && !memory.isSaved then none
  else
    t.command.calls w.settings (Action.mailsOf w) t.clock (t.clock + t.tick) memory.session

/-- The memory after a turn. -/
def turn (memory : Memory) (w : World) (t : Turn) : Memory :=
  match memory.calls w t with
  | some session => { session, isSaved := true }
  | none => memory

/-- The memory after turns, for which the files are those of the world at each turn. -/
def turns (memory : Memory) (w : World) : List Turn → Memory
  | [] => memory
  | t :: ts => (memory.turn w t).turns (w.turn t) ts

/-- How a snapshot keeps a memory: it holds a session that matches, or it is not there and
nothing was stored. The files take another snapshot. -/
structure KeptIn (d : Disk) (p : Path) (fresh : Index) (memory : Memory) : Prop where
  settings : memory.session.index.SameSettings fresh
  consistent : memory.session.index.Consistent
  ready : ∃ made folder, d.ensureFolders p.parent = (made, .ok ()) ∧ made.Serves p folder
  entry : d.hasEntry p = .ok memory.isSaved
  unsaved : memory.isSaved = false → memory.session = { index := fresh }
  saved : memory.isSaved = true → ∃ stored : Session, stored.Storable ∧
    stored.Matches memory.session ∧ ∀ nesting,
      Snapshot.readDocument d p nesting = .ok (Snapshot.document stored.index (some stored.history))

section Turn

variable {d : Disk} {w : World} {p : Path} {s : Settings} {fresh : Index} {memory : Memory}
  {t : Turn}

/-- Before the first command nothing was stored. -/
theorem keptIn_start (haccepts : d.accepts p) (habsent : d.hasEntry p = .ok false)
    (hfresh : (Snapshot.freshIndex s).result = .ok fresh) :
    KeptIn d p fresh { session := { index := fresh } } where
  settings := .refl fresh
  consistent := (Snapshot.parts_freshIndex hfresh).1
  ready := Disk.serves_of_accepts haccepts
  entry := habsent
  unsaved _ := rfl
  saved := nofun

/-- What is loaded from a snapshot that keeps a memory matches the session in memory. -/
theorem KeptIn.loadOrCreate (h : KeptIn d p fresh memory)
    (hfresh : (Snapshot.freshIndex s).result = .ok fresh) (now : Int)
    (nesting : Snapshot.Nesting) :
    ∃ loaded, (Snapshot.loadOrCreate d p s now nesting).result = .ok loaded ∧
      loaded.Matches memory.session ∧
      (hasTooManyDigits now = false → loaded.PartsStorable) := by
  have hentry := h.entry
  cases hsaved : memory.isSaved with
  | false =>
    rw [hsaved] at hentry
    refine ⟨_, Snapshot.loadOrCreate_of_missing hentry hfresh now, ?_, fun _ ↦ ?_⟩
    · rw [← h.unsaved hsaved]
      exact .refl h.consistent
    · exact (Snapshot.parts_freshIndex hfresh).2
  | true =>
    rw [hsaved] at hentry
    obtain ⟨stored, hstorable, hmatches, hdocument⟩ := h.saved hsaved
    rw [Snapshot.loadOrCreate_of_entry hentry]
    exact Snapshot.load_matches hstorable hmatches (hdocument nesting) hfresh h.settings now

/-- The loading of a command fails, or gives a session that matches the one in memory. -/
theorem KeptIn.loading (h : KeptIn w.disk p fresh memory)
    (hfresh : (Snapshot.freshIndex w.settings).result = .ok fresh) (mustExist : Bool) :
    if mustExist && !memory.isSaved then
      (Action.loading w p mustExist).result.toOption = none
    else
      ∃ loaded, (Action.loading w p mustExist).result = .ok loaded ∧
        loaded.Matches memory.session ∧
        (hasTooManyDigits w.clock = false → loaded.PartsStorable) := by
  obtain ⟨loaded, hloaded⟩ := h.loadOrCreate hfresh w.clock w.nesting
  have hentry := h.entry
  cases mustExist with
  | false => exact ⟨loaded, hloaded⟩
  | true =>
    cases hsaved : memory.isSaved with
    | false =>
      -- the command asks for a snapshot that no earlier one has written
      rw [hsaved] at hentry
      change (Snapshot.load w.disk p w.settings w.clock w.nesting).result.toOption = none
      rw [Snapshot.load_of_missing hentry]
      rfl
    | true =>
      rw [hsaved] at hentry
      rw [Snapshot.loadOrCreate_of_entry hentry] at hloaded
      exact ⟨loaded, hloaded⟩

/-- A command stores what its calls make of a session that matches the one in memory, and
nothing if they fail or change nothing there. -/
theorem KeptIn.stored_matches (h : KeptIn w.disk p fresh memory)
    (hfresh : (Snapshot.freshIndex w.settings).result = .ok fresh) (t : Turn) :
    Option.Rel Session.Matches (Action.stored (w.facing t) p t.command) (memory.calls w t) := by
  have hloading := KeptIn.loading (w := w.facing t) h hfresh t.command.needsSnapshot
  unfold Action.stored calls
  split at hloading
  · next hmissing =>
    rw [hloading, if_pos hmissing]
    exact .none
  · next hfound =>
    obtain ⟨loaded, hloaded, hmatches, -⟩ := hloading
    rw [hloaded, if_neg hfound]
    exact Command.calls_matches hmatches _ _ _ _ t.command

/-- What a command stores can be stored as it is. -/
theorem KeptIn.partsStorable_stored (h : KeptIn w.disk p fresh memory)
    (hfresh : (Snapshot.freshIndex w.settings).result = .ok fresh) (ht : t.fits)
    (hfits : memory.session.fits) {session : Session}
    (hstored : Action.stored (w.facing t) p t.command = some session) :
    session.PartsStorable := by
  obtain ⟨hclock, hnow⟩ : hasTooManyDigits t.clock = false ∧
      hasTooManyDigits (t.clock + t.tick) = false := by
    simpa [Turn.fits] using ht
  have hloading := KeptIn.loading (w := w.facing t) h hfresh t.command.needsSnapshot
  unfold Action.stored at hstored
  split at hloading
  · rw [hloading] at hstored
    exact nomatch hstored
  · obtain ⟨loaded, hloaded, hmatches, hparts⟩ := hloading
    rw [hloaded] at hstored
    refine Command.partsStorable_calls (hparts hclock) (hmatches.fits.trans hfits) ?_ hnow hstored
    intro file found hfound mail hmail
    exact (Snapshot.readable_of_readMails hfound hmail).1

/-- A command stores nothing exactly if its calls fail or change nothing in memory. -/
theorem KeptIn.stored_eq_none_iff (h : KeptIn w.disk p fresh memory)
    (hfresh : (Snapshot.freshIndex w.settings).result = .ok fresh) (t : Turn) :
    Action.stored (w.facing t) p t.command = none ↔ memory.calls w t = none := by
  have hrel := h.stored_matches hfresh t
  cases hstored : Action.stored (w.facing t) p t.command with
  | none =>
    cases hcalls : memory.calls w t with
    | none => exact Iff.rfl
    | some session => exact nomatch hcalls ▸ hstored ▸ hrel
  | some stored =>
    cases hcalls : memory.calls w t with
    | none => exact nomatch hcalls ▸ hstored ▸ hrel
    | some session => exact ⟨nofun, nofun⟩

/-- A turn leaves the files that its command leaves, and the settings. -/
theorem leaves_turn (hpath : t.command.path w.settings = .ok p) :
    (w.turn t).disk =
        Action.storedDisk (w.facing t) p (Action.stored (w.facing t) p t.command) ∧
      (w.turn t).settings = w.settings :=
  Action.leaves_perform (w := w.facing t) t.command hpath _ (.refl _)

/-- Writing a storable session that matches one in memory keeps it in the snapshot. -/
theorem KeptIn.write (h : KeptIn d p fresh memory) {stored session : Session}
    (hstored : stored.Storable) (hmatches : stored.Matches session)
    (hsettings : session.index.SameSettings fresh) :
    KeptIn (Snapshot.write d p stored.index (some stored.history) true).1 p fresh
      { session, isSaved := true } := by
  obtain ⟨made, folder, hmade, hserves⟩ := h.ready
  obtain ⟨after, hafter, -, hserved, hentry, hdocument⟩ := Snapshot.write_of_serves hserves hstored
  rw [Snapshot.write_of_ensureFolders hmade hserves, hafter]
  exact {
    settings := hsettings
    consistent := hmatches.right
    ready := ⟨after, folder, hserved.ensureFolders, hserved⟩
    entry := hentry
    unsaved := nofun
    saved := fun _ ↦ ⟨stored, hstored, hmatches, hdocument⟩ }

/-- The calls of a turn leave the settings of the index in memory as they were. -/
theorem KeptIn.sameSettings_calls (h : KeptIn d p fresh memory) {session : Session}
    (hcalls : memory.calls w t = some session) : session.index.SameSettings fresh := by
  unfold calls at hcalls
  split at hcalls
  · exact nomatch hcalls
  · exact (Command.sameSettings_calls hcalls).trans h.settings

/-- A turn keeps the snapshot and the memory together, and the settings as they are. -/
theorem KeptIn.turn (h : KeptIn w.disk p fresh memory)
    (hfresh : (Snapshot.freshIndex w.settings).result = .ok fresh)
    (hpath : t.command.path w.settings = .ok p) (ht : t.fits)
    (hbefore : memory.session.fits) (hafter : (memory.turn w t).session.fits) :
    KeptIn (w.turn t).disk p fresh (memory.turn w t) ∧ (w.turn t).settings = w.settings := by
  obtain ⟨hdisk, hsettings⟩ := leaves_turn (w := w) hpath
  refine ⟨?_, hsettings⟩
  rw [hdisk]
  have hrel := h.stored_matches hfresh t
  unfold Memory.turn at hafter ⊢
  cases hstored : Action.stored (w.facing t) p t.command with
  | none =>
    rw [(h.stored_eq_none_iff hfresh t).mp hstored]
    exact h
  | some stored =>
    cases hcalls : memory.calls w t with
    | none => exact nomatch ((h.stored_eq_none_iff hfresh t).mpr hcalls) ▸ hstored
    | some session =>
      rw [hstored, hcalls] at hrel
      rw [hcalls] at hafter
      cases hrel with
      | some hmatches =>
        -- the session on the disk has other tables than the one in memory, but the same figures
        have hparts := h.partsStorable_stored hfresh ht hbefore hstored
        exact h.write ⟨hparts, hmatches.fits.trans hafter⟩ hmatches (h.sameSettings_calls hcalls)

/-- Turns keep the snapshot and the memory together, if the figures of the session in memory
fit all the time. -/
theorem KeptIn.turns (h : KeptIn w.disk p fresh memory)
    (hfresh : (Snapshot.freshIndex w.settings).result = .ok fresh) {ts : List Turn}
    (hpaths : ∀ t ∈ ts, t.command.path w.settings = .ok p) (htimes : ∀ t ∈ ts, t.fits)
    (hfigures : ∀ n ≤ ts.length, (memory.turns w (ts.take n)).session.fits) :
    KeptIn (w.turns ts).disk p fresh (memory.turns w ts) ∧
      (w.turns ts).settings = w.settings := by
  induction ts generalizing w memory with
  | nil => exact ⟨h, rfl⟩
  | cons t ts ih =>
    obtain ⟨hpath, hpaths⟩ := List.forall_mem_cons.mp hpaths
    obtain ⟨ht, htimes⟩ := List.forall_mem_cons.mp htimes
    have hlength : (t :: ts).length = ts.length + 1 := rfl
    have hbefore : memory.session.fits := hfigures 0 (Nat.zero_le _)
    have hafter : ∀ n ≤ ts.length, ((memory.turn w t).turns (w.turn t) (ts.take n)).session.fits :=
      fun n hn ↦ hfigures (n + 1) (by omega)
    obtain ⟨hkept, hsettings⟩ :=
      h.turn hfresh hpath ht hbefore (hafter 0 (Nat.zero_le _))
    -- the settings of the world after the turn are those that the paths were found with
    rw [← hsettings] at hfresh hpaths
    obtain ⟨hlast, hsame⟩ := ih hkept hfresh hpaths htimes hafter
    exact ⟨hlast, hsame.trans hsettings⟩

end Turn

/-- Commands run one after another on a snapshot that is absent at the beginning refine the
same calls on one session in memory. After them the snapshot is there if a command stored
something, what is loaded from it has the records in memory in their order and the history in
memory, and a command whose calls fail or change nothing leaves all files as they are. File
operations are taken to succeed, and integers to be within the limit that a reader has. -/
theorem snapshot_refines_memory (w : World) (p : Path) {fresh : Index}
    (hfresh : (Snapshot.freshIndex w.settings).result = .ok fresh)
    (haccepts : w.disk.accepts p) (habsent : w.disk.hasEntry p = .ok false) (ts : List Turn)
    (hpaths : ∀ t ∈ ts, t.command.path w.settings = .ok p) (htimes : ∀ t ∈ ts, t.fits)
    (hfigures : ∀ n ≤ ts.length,
      (turns { session := { index := fresh } } w (ts.take n)).session.fits) :
    let last := w.turns ts
    let memory := turns { session := { index := fresh } } w ts
    last.disk.hasEntry p = .ok memory.isSaved ∧
      (∀ now nesting, ∃ loaded,
        (Snapshot.loadOrCreate last.disk p w.settings now nesting).result = .ok loaded ∧
        loaded.index.records = memory.session.index.records ∧
        loaded.history = memory.session.history) ∧
      ∀ t, t.command.path w.settings = .ok p → memory.calls last t = none →
        (last.turn t).disk = last.disk := by
  intro last memory
  obtain ⟨hkept, hsettings⟩ :=
    (keptIn_start haccepts habsent hfresh).turns hfresh hpaths htimes hfigures
  refine ⟨hkept.entry, ?_, ?_⟩
  · intro now nesting
    obtain ⟨loaded, hloaded, hmatches, -⟩ := hkept.loadOrCreate hfresh now nesting
    exact ⟨loaded, hloaded, hmatches.records, hmatches.history⟩
  · intro t hpath hcalls
    rw [← hsettings] at hpath hfresh
    rw [(leaves_turn hpath).1, (hkept.stored_eq_none_iff hfresh t).mpr hcalls]
    rfl

/-- A file of two emails and something that is none. -/
def sampleWorld : World :=
  let mails : List Value :=
    [.object [("id", .text "a"), ("subject", .text "Budget")], .int 7,
      .object [("id", .text "b"), ("subject", .text "Rent")]]
  let text := (Json.write .compact (.list mails)).1
  { disk := { entries := [(["mails.json"], .file (.text text) Disk.usualMode)] }
    settings := { home := ⟨"/", []⟩ }
    clock := 0 }

/-- An email is removed before anything was stored; then emails are indexed, a query is saved,
an email is removed and the other one is found. -/
def sampleTurns : List Turn :=
  [⟨.remove "b" "kept/s.json", 1, 0⟩, ⟨.index "mails.json" "kept/s.json" false false, 2, 3⟩,
    ⟨.save "Money" "budget" "kept/s.json", 6, 0⟩, ⟨.remove "b" "kept/s.json", 7, 0⟩,
    ⟨.search "budget" "kept/s.json" 20 true .relevance false false, 8, 1⟩]

/-- Of two emails in a file one is removed and the other one is found, once they are indexed. -/
theorem snapshot_refines_memory_sample :
    let p := Path.ofText "kept/s.json"
    let last := sampleWorld.turns sampleTurns
    let memory := turns { session := { index := .empty 3 Settings.usualThreshold } } sampleWorld
      sampleTurns
    memory.session.index.records.map (·.id) = ["a"] ∧ memory.session.history.recent = ["budget"] ∧
      last.disk.hasEntry p = .ok memory.isSaved ∧
      (∀ now nesting, ∃ loaded,
        (Snapshot.loadOrCreate last.disk p sampleWorld.settings now nesting).result = .ok loaded ∧
          loaded.index.records = memory.session.index.records ∧
          loaded.history = memory.session.history) ∧
      ∀ t, t.command.path sampleWorld.settings = .ok p → memory.calls last t = none →
        (last.turn t).disk = last.disk := by
  refine ⟨by decide +kernel, by decide +kernel, ?_⟩
  exact snapshot_refines_memory sampleWorld (Path.ofText "kept/s.json") (by decide +kernel)
    (by decide +kernel) (by decide +kernel) sampleTurns (by decide +kernel) (by decide +kernel)
    (by decide +kernel)

end Memory

end MailSearch.Console
