import MailSearch.Disk
import MailSearch.Json.Reader
import MailSearch.Json.Writer
import MailSearch.Session

/-!
# Snapshots

A snapshot file holds the records of an index with its figures, and a history. It is
written beside its place and moved there when it is complete, so that a failure leaves the
old file. Reading one puts its records into an index; files of emails are read here too. How deep
a document may be depends on the host, so it is a parameter of all that reads.
-/

namespace MailSearch.Snapshot

/-- The document of an index and a history. -/
def document (ix : Index) (history : Option History) : Value :=
  .object (ix.exportFields ++ (history.map fun h ↦ ("history", h.toValue)).toList)

/-- The warning that a file could not be made private. -/
def modeWarning (p : Path) : Event :=
  ⟨.warning, .snapshot,
    s!"Could not set secure permissions on {p.toText}: [Errno 1] Operation not permitted"⟩

/-- The detail that a snapshot was written. -/
def writeEvent (p : Path) (ix : Index) : Event :=
  ⟨.debug, .snapshot, s!"Wrote snapshot with {ix.size} emails to {p.toText}"⟩

/-- Write a document into a file of its own beside the place of the snapshot. What was
written stays even if the document could not be written to its end. -/
def writeBeside (d : Disk) (temporary : Path) (doc : Value) : Disk × Except Fault Unit :=
  let (text, stopped) := Json.write .compact doc
  match d.writeFile temporary (.text text) with
  | .error fault => (d, .error fault)
  | .ok written =>
      (written, match stopped with
        | some fault => .error fault
        | none => .ok ())

/-- Write a snapshot. The files afterwards stand beside the outcome; `canSecure` tells
whether modes can be changed. -/
def write (d : Disk) (p : Path) (ix : Index) (history : Option History) (canSecure : Bool) :
    Disk × Logged Unit :=
  match d.ensureFolders p.parent with
  | (d, .error fault) => (d, Logged.fail fault)
  | (d, .ok ()) =>
      match p.withSuffix ".tmp" with
      | .error fault => (d, Logged.fail fault)
      | .ok temporary =>
          match writeBeside d temporary (document ix history) with
          | (d, .error fault) => (d, Logged.fail fault)
          | (d, .ok ()) =>
              let warnings := if canSecure then [] else [modeWarning p]
              let d := if canSecure then d.makePrivate temporary else d
              match d.moveFile temporary p with
              | .error fault => (d, ⟨warnings, .error fault⟩)
              | .ok d => (d, ⟨warnings ++ [writeEvent p ix], .ok ()⟩)

/-- How many lists and objects stand inside one another in the document of a snapshot. -/
def documentLevels : Nat := 4

/-- How many lists and objects a host can read inside one another: at least those of a snapshot. -/
structure Nesting where
  levels : Nat
  enough : documentLevels ≤ levels

/-- What is left of a limit of a thousand calls inside one another when a program reads a file. -/
def Nesting.usual : Nesting := ⟨980, by decide⟩

instance : Inhabited Nesting := ⟨.usual⟩

/-- The limits within which files are read. -/
def limits (nesting : Nesting) : Json.Limits :=
  { digits := some digitLimit, depth := some nesting.levels }

/-- Read the JSON document of a file. -/
def readDocument (d : Disk) (p : Path) (nesting : Nesting := .usual) : Except Fault Value := do
  if !(← d.hasEntry p) then throw (.fileNotFound p.toText)
  let text ← (← d.content p).toText
  match Json.read (limits nesting) (String.ofList (unifyLineEnds text.toList)) with
  | .ok value => return value
  | .error (.problem problem) => throw (.invalidJson p.toText problem)
  | .error (.longNumeral digits limit) => throw (.numeralTooLong digits limit)
  | .error .tooDeep => throw .tooDeep

/-- What a snapshot holds: stored records, and a history if there is one. -/
structure Stored where
  emails : List Value
  history : Option (List (String × Value))

/-- The stored emails of a document. -/
def emails? : Value → Option (List Value × List (String × Value))
  | .object fields =>
      match Value.lookup? "emails" fields with
      | some (.list emails) => some (emails, fields)
      | _ => none
  | _ => none

/-- Whether a version can be read: an integer or a flag up to the newest version. -/
def isKnownVersion : Value → Bool
  | .int n => n ≤ Index.exportVersion
  | .bool _ => true
  | _ => false

/-- The history of a document, if it is an object. -/
def historyFields? (fields : List (String × Value)) : Option (List (String × Value)) :=
  match Value.lookup? "history" fields with
  | some (.object history) => some history
  | _ => none

/-- What a document holds. It must have a list of emails, and a version that is known if
it has one. -/
def ofDocument (p : Path) (doc : Value) : Except Fault Stored :=
  match emails? doc with
  | none => .error (.notSnapshot p.toText)
  | some (emails, fields) =>
      let version := (Value.lookup? "version" fields).getD (.int Index.exportVersion)
      if isKnownVersion version then .ok ⟨emails, historyFields? fields⟩
      else
        match version.quoted with
        | .ok shown => .error (.unsupportedVersion shown Index.exportVersion)
        | .error fault => .error fault

/-- What the snapshot of a path holds. -/
def readStored (d : Disk) (p : Path) (nesting : Nesting := .usual) : Except Fault Stored := do
  ofDocument p (← readDocument d p nesting)

/-- The history of a snapshot; an empty one if it has none. -/
def loadHistory (stored : Stored) : Logged History :=
  match stored.history with
  | some fields => History.ofFields fields
  | none => pure {}

/-- Load a snapshot into an index at a time. The index afterwards stands beside the
outcome: it holds the snapshot's records even if the history cannot be read. -/
def loadInto (d : Disk) (p : Path) (now : Int) (ix : Index) (nesting : Nesting := .usual) :
    Index × Logged History :=
  match readStored d p nesting with
  | .error fault => (ix, Logged.fail fault)
  | .ok stored =>
      let loaded := ix.importStored now stored.emails
      match loaded.result with
      | .error fault => (ix, ⟨loaded.events, .error fault⟩)
      | .ok (filled, _) =>
          let history := loadHistory stored
          (filled, ⟨loaded.events ++ history.events, history.result⟩)

/-- An empty index with the usual length of shingles. -/
def freshIndex (s : Settings) : Logged Index := do
  let threshold ← s.threshold
  return { threshold }

/-- Load a snapshot into a new index at a time. -/
def load (d : Disk) (p : Path) (s : Settings) (now : Int) (nesting : Nesting := .usual) :
    Logged Session := do
  let stored ← Logged.lift (readStored d p nesting)
  let (ix, _) ← (← freshIndex s).importStored now stored.emails
  return ⟨ix, ← loadHistory stored⟩

/-- Load a snapshot, or begin with nothing if there is no file. -/
def loadOrCreate (d : Disk) (p : Path) (s : Settings) (now : Int)
    (nesting : Nesting := .usual) : Logged Session :=
  match d.hasEntry p with
  | .error fault => Logged.fail fault
  | .ok true => load d p s now nesting
  | .ok false => do
      let ix ← freshIndex s
      return { index := ix }

/-- The list of emails of a document: the document itself, or what it has as emails. -/
def mailList? : Value → Option (List Value)
  | .list items => some items
  | .object fields =>
      match Value.lookup? "emails" fields with
      | some (.list items) => some items
      | _ => none
  | _ => none

/-- Keep the objects among values, the first of which has the given position, and report
the others. -/
def keepObjects (p : Path) (position : Nat) : List Value → Logged (List Value)
  | [] => pure []
  | item :: items => do
      match item with
      | .object _ =>
          let others ← keepObjects p (position + 1) items
          return item :: others
      | _ =>
          Logged.warn .snapshot s!"Skipping entry {position} in {p.toText}: not an object"
          keepObjects p (position + 1) items

/-- Read the emails of a file. -/
def readMails (d : Disk) (p : Path) (nesting : Nesting := .usual) : Logged (List Value) := do
  let doc ← Logged.lift (readDocument d p nesting)
  match mailList? doc with
  | some items => keepObjects p 0 items
  | none => Logged.fail (.emailsExpected p.toText)

end MailSearch.Snapshot
