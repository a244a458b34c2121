import MailSearch.Event
import MailSearch.Postings
import MailSearch.Record.Reading
import MailSearch.Shingle

/-!
# The index

The records of all indexed emails in the order of their insertion, and two tables that
lead to them: from tokens, and from the shingles of subjects. Every change keeps the
three in step: a record that is replaced is first taken out through its own tokens and
subject. A replaced record moves to the end.
-/

namespace MailSearch

/-- What a host program hands over for one email: a value to be read, or a record that it
has made before. -/
inductive Item where
  | value (v : Value)
  | record (r : Record)
  deriving Inhabited

namespace Item

/-- The record of an email that is handed over. -/
def readMail : Item → Except Fault Record
  | value v => Record.ofMail v
  | record r => .ok r

/-- The stored record that is handed over. -/
def readStored : Item → Except Fault Record
  | value v => Record.ofStored v
  | record r => .ok r

end Item

/-- The records and the tables that lead to them. -/
structure Index where
  /-- the length of the shingles of subjects -/
  shingleSize : Int := 3
  /-- the share of its length in which a token may differ from one that is sought -/
  threshold : Binary64
  records : List Record := []
  tokens : Postings := {}
  shingles : Postings := {}
  /-- the time of the last insertion in milliseconds, zero if there was none -/
  lastIndexedAt : Int := 0
  deriving DecidableEq, Repr, Inhabited

namespace Index

/-- The record of an id. -/
def get? (ix : Index) (id : String) : Option Record := ix.records.find? (·.id = id)

/-- Whether an id has a record. -/
def contains (ix : Index) (id : String) : Bool := (ix.get? id).isSome

/-- The number of records. -/
def size (ix : Index) : Nat := ix.records.length

/-- The number of distinct tokens. -/
def vocabularySize (ix : Index) : Nat := ix.tokens.size

/-- The shingles under which a record is filed. -/
def shinglesOf (ix : Index) (r : Record) : List String :=
  MailSearch.shingles ix.shingleSize r.subject

/-- Take out the record of an id and everything filed under it. -/
def erase (ix : Index) (id : String) : Index :=
  match ix.get? id with
  | none => ix
  | some r =>
      { ix with
        records := ix.records.filter (·.id ≠ id)
        tokens := ix.tokens.removeAll r.tokens id
        shingles := ix.shingles.removeAll (ix.shinglesOf r) id }

/-- Put a record at the end and file it. -/
def append (ix : Index) (r : Record) : Index :=
  { ix with
    records := ix.records ++ [r]
    tokens := ix.tokens.addAll r.tokens r.id
    shingles := ix.shingles.addAll (ix.shinglesOf r) r.id }

/-- Put a record in place of the one that has its id. -/
def replace (ix : Index) (r : Record) : Index := (ix.erase r.id).append r

/-- Put a record in at a time. -/
def insert (ix : Index) (now : Int) (r : Record) : Index :=
  { ix.replace r with lastIndexedAt := now }

/-- Index what is handed over at a time; what cannot be read leaves the index as it is. -/
def insertItem (ix : Index) (now : Int) (item : Item) : Except Fault Index :=
  item.readMail.map (ix.insert now)

/-- Index an email at a time. -/
def insertMail (ix : Index) (now : Int) (mail : Value) : Except Fault Index :=
  ix.insertItem now (.value mail)

/-- The detail to report when a record is put in. -/
def insertEvent (ix : Index) (r : Record) : Event :=
  let word := if ix.contains r.id then "Re-indexed" else "Indexed"
  ⟨.debug, .index, s!"{word} email {r.id} ({r.tokens.length} tokens)"⟩

/-- The detail to report when an id is taken out. -/
def eraseEvents (ix : Index) (id : String) : List Event :=
  if ix.contains id then [⟨.debug, .index, s!"Removed email {id}"⟩] else []

/-- Index what is handed over until something cannot be read: the index after the last
that could, how many there were, and the cause if one could not. -/
def insertItems (ix : Index) (now : Int) : List Item → Index × Nat × Option Fault
  | [] => (ix, 0, none)
  | item :: items =>
      match ix.insertItem now item with
      | .error fault => (ix, 0, some fault)
      | .ok next =>
          let (final, count, fault) := next.insertItems now items
          (final, count + 1, fault)

/-- Index emails until one cannot be read. -/
def insertMails (ix : Index) (now : Int) (mails : List Value) : Index × Nat × Option Fault :=
  ix.insertItems now (mails.map Item.value)

/-- Whether a cause concerns the value of a field or its type and not the email as such. -/
def isFieldFault : Fault → Bool
  | .objectExpected => false
  | _ => true

/-- What became of one email of a batch. -/
inductive BatchStep where
  /-- the email was put in -/
  | inserted (event : Event)
  /-- the email at a position could not be read -/
  | refused (position : Nat) (fault : Fault)
  deriving DecidableEq, Repr

/-- The outcome of indexing emails one by one: the index, what became of each email, and
the cause that ended the batch before its end if there was one. -/
structure Batch where
  index : Index
  steps : List BatchStep := []
  stopped : Option Fault := none
  deriving DecidableEq, Repr, Inhabited

/-- Whether a step put an email in. -/
def BatchStep.isInserted : BatchStep → Bool
  | inserted _ => true
  | refused _ _ => false

/-- The text for an email that could not be read. -/
def BatchStep.error? : BatchStep → Option String
  | inserted _ => none
  | refused position fault => some s!"email {position}: {fault.message}"

/-- The detail to report about an email that was put in. -/
def BatchStep.event? : BatchStep → Option Event
  | inserted event => some event
  | refused _ _ => none

namespace Batch

/-- How many emails were put in. -/
def indexed (b : Batch) : Nat := b.steps.countP BatchStep.isInserted

/-- How many emails could not be read. -/
def skipped (b : Batch) : Nat := b.steps.countP fun step ↦ !step.isInserted

/-- A text for each email that could not be read. -/
def errors (b : Batch) : List String := b.steps.filterMap BatchStep.error?

/-- The details to report about the emails that were put in. -/
def events (b : Batch) : List Event := b.steps.filterMap BatchStep.event?

/-- A batch with one more step in front. -/
def after (step : BatchStep) (b : Batch) : Batch := { b with steps := step :: b.steps }

/-- The outcome as an object. -/
def toValue (b : Batch) : Value :=
  .object [("indexed", .int b.indexed), ("errors", .texts b.errors)]

end Batch

/-- Index emails, the first of which has the given position, and go on past those that
cannot be read. A value that is no object ends the batch. -/
def insertEach (ix : Index) (now : Int) (position : Nat) : List Value → Batch
  | [] => { index := ix }
  | mail :: mails =>
      match Record.ofMail mail with
      | .ok r =>
          ((ix.insert now r).insertEach now (position + 1) mails).after
            (.inserted (ix.insertEvent r))
      | .error fault =>
          if isFieldFault fault then
            (ix.insertEach now (position + 1) mails).after (.refused position fault)
          else { index := ix, stopped := some fault }

/-- Drop all records. -/
def clear (ix : Index) : Index := { ix with records := [], tokens := {}, shingles := {} }

/-- Read what is handed over as stored records and report what cannot be read. A value
that is no object ends the reading. -/
def readItems : List Item → Logged (List Record)
  | [] => pure []
  | item :: items => do
      match item.readStored with
      | .ok r =>
          let rest ← readItems items
          return r :: rest
      | .error fault =>
          if isFieldFault fault then
            Logged.warn .index ("Skipping unreadable snapshot record: " ++ fault.message)
            readItems items
          else Logged.fail fault

/-- Put records in place of all that the index held, at a time. -/
def restore (ix : Index) (now : Int) (rs : List Record) : Index :=
  let filled := rs.foldl replace ix.clear
  if rs.isEmpty then filled else { filled with lastIndexedAt := now }

/-- Put what is handed over in place of all that the index held; how many records were
read. -/
def importItems (ix : Index) (now : Int) (items : List Item) : Logged (Index × Nat) := do
  let rs ← readItems items
  Logged.detail .index s!"Imported {rs.length} emails"
  return (ix.restore now rs, rs.length)

/-- Put stored records in place of all that the index held. -/
def importStored (ix : Index) (now : Int) (stored : List Value) : Logged (Index × Nat) :=
  ix.importItems now (stored.map Item.value)

/-- The first tokens of the vocabulary that begin with a prefix. -/
def suggestions (ix : Index) (start : String) (limit : Nat) : List String :=
  let begun := (Unicode.lowercase start).toList
  (ix.tokens.keys.filter fun token ↦ begun.isPrefixOf token.toList).take limit

/-- The estimated bytes of an id filed under a token. -/
def bytesPerPosting : Nat := 36

/-- The estimated bytes of a character of a token. -/
def bytesPerCharacter : Nat := 2

/-- Figures of an index. -/
structure Stats where
  totalIndexed : Nat
  lastIndexedAt : Int
  sizeBytes : Nat
  deriving DecidableEq, Repr, Inhabited

/-- The figures of an index; the size is an estimate. -/
def stats (ix : Index) : Stats :=
  { totalIndexed := ix.size
    lastIndexedAt := ix.lastIndexedAt
    sizeBytes := bytesPerCharacter * ix.tokens.keyLength + bytesPerPosting * ix.tokens.load }

/-- The figures as fields. -/
def Stats.toFields (s : Stats) : List (String × Value) :=
  [("total_indexed", .int s.totalIndexed), ("last_indexed_at", .int s.lastIndexedAt),
    ("index_size_bytes", .int s.sizeBytes)]

/-- The newest version of exported contents. -/
def exportVersion : Nat := 1

/-- The records that an export holds. -/
def exported (ix : Index) : List Record := ix.records

/-- The contents of an index with its figures. -/
def exportFields (ix : Index) : List (String × Value) :=
  [("version", .int exportVersion), ("emails", .list (ix.exported.map Record.toValue)),
    ("stats", .object ix.stats.toFields)]

/-- Whether two indexes file the same ids under the same tokens and shingles. -/
def sameTables (a b : Index) : Bool :=
  a.tokens.sameSets b.tokens && a.shingles.sameSets b.shingles

end Index
end MailSearch
