import MailSearch.Console.Arguments
import MailSearch.Console.Figures
import MailSearch.Service
import MailSearch.Snapshot

/-!
# Running commands

Each command loads the snapshot, works on a session and, if it changed something, writes
the snapshot back; what it prints goes to the screen. The files, the clock and the screen
are one state, and a command ends early with an exit code or with a cause that it does
not handle.
-/

namespace MailSearch.Console

/-- What commands work on. -/
structure World where
  disk : Disk
  settings : Settings
  /-- the time in milliseconds -/
  clock : Int
  /-- by how much the clock moves on when a command reads it -/
  tick : Int := 0
  /-- how deep a document may be -/
  nesting : Snapshot.Nesting := .usual
  /-- whether details are shown -/
  verbose : Bool := false
  stdout : String := ""
  stderr : String := ""
  deriving Inhabited

/-- How a command ends before its end. -/
inductive Ending where
  | exit (code : Nat)
  | crash (fault : Fault)
  deriving DecidableEq, Repr

/-- A step of a command. -/
abbrev Action := ExceptT Ending (StateM World)

/-- Print a line. -/
def say (line : String) : Action Unit :=
  modify fun w ↦ { w with stdout := w.stdout ++ line ++ "\n" }

/-- Print a line beside the output. -/
def complain (line : String) : Action Unit :=
  modify fun w ↦ { w with stderr := w.stderr ++ line ++ "\n" }

/-- Show an event: a warning by its message, anything with its level and topic if details
are shown. -/
def showEvent (e : Event) : Action Unit := do
  if (← get).verbose then complain e.detailed
  else if e.level = .warning then complain e.message

/-- Show the events of an action and go on with its outcome. -/
def showing {α : Type} (action : Logged α) : Action (Except Fault α) := do
  action.events.forM showEvent
  return action.result

/-- End with a cause that is not handled. -/
def crash {α : Type} (fault : Fault) : Action α := throw (.crash fault)

/-- The result, or an end for its cause. -/
def orCrash {α : Type} : Except Fault α → Action α
  | .ok a => pure a
  | .error fault => crash fault

/-- End with a message. -/
def giveUp {α : Type} (message : String) : Action α := do
  complain s!"✗ {message}"
  throw (.exit 1)

/-- Read the clock, which then moves on. -/
def readClock : Action Int := do
  let w ← get
  set { w with clock := w.clock + w.tick }
  return w.clock

/-- The snapshot that is named, or that of the settings. -/
def choosePath (snapshot : Option String) : Action Path := do
  match snapshot with
  | some text => return Path.ofText text
  | none => orCrash (← get).settings.snapshotPath

/-- Load a session from a snapshot; a missing file gives an empty one unless it must
exist. -/
def load (path : Path) (mustExist : Bool) : Action Session := do
  let w ← get
  let loading :=
    if mustExist then Snapshot.load w.disk path w.settings w.clock w.nesting
    else Snapshot.loadOrCreate w.disk path w.settings w.clock w.nesting
  match ← showing loading with
  | .ok session => return session
  | .error (.fileNotFound _) =>
      complain "No index found."
      complain s!"Expected location: {path.toText}"
      complain "\nRun 'mail-search-index index FILE' to build the index."
      throw (.exit 1)
  | .error fault =>
      if fault.isUnreadable then giveUp s!"Cannot read snapshot: {fault.message}"
      else crash fault

/-- Write a session into a snapshot. -/
def store (path : Path) (session : Session) : Action Unit := do
  let w ← get
  let (disk, writing) := Snapshot.write w.disk path session.index (some session.history) true
  set { w with disk }
  match ← showing writing with
  | .ok () => return
  | .error fault =>
      if fault.isFileTrouble then giveUp s!"Cannot write snapshot: {fault.message}"
      else crash fault

/-- A time between two readings of the clock, in seconds. -/
def elapsedText (start stop : Int) : Action String :=
  orCrash (durationText ((Binary64.ofRatio stop 1000).sub (Binary64.ofRatio start 1000)))

/-- A call of the service by name. -/
structure ToolCall where
  tool : String
  arguments : List (String × Value)

/-- Store a change that a call made. A cause that is not handled becomes the call's
result, and the service goes on. -/
def storeChange (path : Path) (reply : Service.Reply) : Action (Except Service.Refusal Value) := do
  if reply.changed then
    try
      store path reply.session
      return reply.result
    catch
      | .crash fault => return .error (.failed fault)
      | .exit code => throw (.exit code)
  else return reply.result

/-- Answer calls of the service one by one and store every change. -/
def answer (path : Path) (session : Session) :
    List ToolCall → Action (List (Except Service.Refusal Value))
  | [] => pure []
  | call :: calls => do
      let w ← get
      let reply := Service.call session w.settings w.clock call.tool call.arguments
      reply.events.forM showEvent
      let result ← storeChange path reply
      let others ← answer path reply.session calls
      return result :: others

/-- Run the service on some calls. -/
def serve (snapshot : Option String) (calls : List ToolCall) :
    Action (List (Except Service.Refusal Value)) := do
  let path ← choosePath snapshot
  let session ← load path false
  complain s!"Serving {grouped session.index.size} indexed emails from {path.toText}"
  answer path session calls

/-- Show what became of an email of a batch; an email that was skipped only if details are
shown. -/
def showStep : Index.BatchStep → Action Unit
  | .inserted event => showEvent event
  | .refused _ fault => do
      if (← get).verbose then complain s!"  skipped: {fault.message}"

/-- Index the emails of a file. -/
def index (file : String) (snapshot : Option String) (replace : Bool) : Action Unit := do
  let path ← choosePath snapshot
  let session ← load path false
  let w ← get
  let mails ← match ← showing (Snapshot.readMails w.disk (Path.ofText file) w.nesting) with
    | .ok mails => pure mails
    | .error fault =>
        match fault with
        | .fileNotFound _ => giveUp fault.message
        | _ => if fault.isUnreadable then giveUp fault.message else crash fault
  let start ← readClock
  let old := if replace then session.index.clear else session.index
  let batch := old.insertEach (← get).clock 0 mails
  batch.steps.forM showStep
  let stop ← readClock
  store path { session with index := batch.index }
  let stats := batch.index.stats
  say s!"✓ Indexed {grouped batch.indexed} emails in {← elapsedText start stop}"
  if 0 < batch.skipped then say s!"  Skipped:    {grouped batch.skipped} invalid records"
  say s!"  Total:      {grouped stats.totalIndexed}"
  say s!"  Index size: {← orCrash (sizeText stats.sizeBytes)}"

/-- Remove the email of an id. -/
def remove (id : String) (snapshot : Option String) : Action Unit := do
  let path ← choosePath snapshot
  let session ← load path true
  if session.index.contains id then
    (session.index.eraseEvents id).forM showEvent
    store path { session with index := session.index.erase id }
    say s!"✓ Removed {id}"
  else say s!"Email {id} is not indexed."

/-- What stands in front of the lines of a hit after its first. -/
def margin : String := String.ofList (List.replicate 12 ' ')

/-- Print a hit: score, flags, date and subject, then the sender, then the tokens found in
each place. -/
def showHit (hit : Hit) : Action Unit := do
  let r := hit.record
  let flags := (if r.isStarred then "*" else " ") ++ (if r.isRead then " " else "u")
  let subject := if r.subject.isEmpty then "(no subject)" else r.subject
  let date ← orCrash (minuteOfMillis r.date)
  let score := padLeft 8 ' ' (hit.score.fixedText 2)
  say s!"{score} {flags} {date}  {subject}"
  say s!"{margin}{r.sender}  [{r.id}]"
  hit.highlights.forM fun h ↦
    say (margin ++ h.place.name ++ ": " ++ ", ".intercalate h.found)

/-- Search, and print the hits or their JSON form. -/
def search (query : String) (snapshot : Option String) (limit : Int) (fuzzy : Bool)
    (order : Order) (json : Bool) : Action Unit := do
  let path ← choosePath snapshot
  let session ← load path true
  let start ← readClock
  let w ← get
  let req : Request := { limit := some limit, fuzzy := some fuzzy, order := order }
  let (after, outcome) := session.execute w.settings w.clock query req
  let hits ← orCrash (← showing outcome)
  let stop ← readClock
  store path after
  if json then
    say (← orCrash (Json.render .indented (.list (hits.map Hit.toValue))))
  else if hits.isEmpty then say "No matches."
  else
    hits.forM showHit
    say ""
    say s!"{hits.length} results in {← elapsedText start stop}"

/-- Print the tokens that begin with a prefix. -/
def suggest (start : String) (snapshot : Option String) (limit : Int) : Action Unit := do
  let path ← choosePath snapshot
  let session ← load path true
  let words ← orCrash (← showing (session.index.suggest (← get).settings start (some limit)))
  words.forM say

/-- The size of the file of a path. -/
def fileSize (path : Path) : Action Int := do
  let content ← orCrash ((← get).disk.content path)
  return content.size

/-- Print the figures of the index. -/
def status (snapshot : Option String) : Action Unit := do
  let path ← choosePath snapshot
  let session ← load path true
  let stats := session.index.stats
  say "Mail Search Index Status"
  say (String.ofList (List.replicate 40 '='))
  say s!"Location:     {path.toText}"
  say s!"Emails:       {grouped stats.totalIndexed}"
  say s!"Vocabulary:   {grouped session.index.vocabularySize} words"
  say s!"Index size:   {← orCrash (sizeText stats.sizeBytes)} (estimate)"
  say s!"Snapshot:     {← orCrash (sizeText (← fileSize path))}"
  say ""
  if stats.lastIndexedAt = 0 then say "Last indexed: Never"
  else say s!"Last indexed: {← orCrash (minuteOfMillis stats.lastIndexedAt)}"
  if !session.history.recent.isEmpty then
    say ""
    say "Recent searches:"
    session.history.recent.forM fun query ↦ say s!"  {query}"
  if !session.history.saved.isEmpty then
    say ""
    say s!"Saved searches: {session.history.saved.length}"

/-- Save a query under a name. -/
def save (name query : String) (snapshot : Option String) : Action Unit := do
  let path ← choosePath snapshot
  let session ← load path false
  let (history, saved) ← orCrash
    (session.history.save (← get).clock (.text name) (.text query))
  store path { session with history }
  say s!"✓ Saved '{name}' as {← orCrash saved.id.shown}"

/-- Print a saved search. -/
def showSaved (saved : SavedSearch) : Action Unit := do
  let id ← orCrash saved.id.shown
  let name ← orCrash saved.name.shown
  let query ← orCrash saved.query.shown
  say s!"{id}  {name}: {query}"

/-- Print the saved searches, or delete one. -/
def saved (snapshot delete : Option String) : Action Unit := do
  let path ← choosePath snapshot
  let session ← load path false
  match delete with
  | some id =>
      let (history, found) := session.history.delete (.text id)
      if found then
        store path { session with history }
        say s!"✓ Deleted {id}"
      else giveUp s!"No saved search with id {id}"
  | none =>
      if session.history.saved.isEmpty then say "No saved searches."
      else session.history.saved.forM showSaved

/-- Carry out a command; the service answers the calls. -/
def perform (calls : List ToolCall) : Command → Action (List (Except Service.Refusal Value))
  | .serve snapshot verbose => do
      modify fun w ↦ { w with verbose }
      serve snapshot calls
  | .index file snapshot replace verbose => do
      modify fun w ↦ { w with verbose }
      index file snapshot replace
      return []
  | .remove id snapshot => do
      remove id snapshot
      return []
  | .search query snapshot limit fuzzy order json verbose => do
      modify fun w ↦ { w with verbose }
      search query snapshot limit fuzzy order json
      return []
  | .suggest start snapshot limit => do
      suggest start snapshot limit
      return []
  | .status snapshot => do
      status snapshot
      return []
  | .save name query snapshot => do
      save name query snapshot
      return []
  | .saved snapshot delete => do
      saved snapshot delete
      return []

/-- Carry out a command in a world: the replies of the service or how the command ended
early, and the world afterwards. -/
def run (w : World) (calls : List ToolCall) (command : Command) :
    Except Ending (List (Except Service.Refusal Value)) × World :=
  ((perform calls command).run).run w

end MailSearch.Console
