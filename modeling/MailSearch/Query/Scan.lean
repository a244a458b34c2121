import MailSearch.Event
import MailSearch.Query.Basic
import MailSearch.Unicode.Blank
import MailSearch.Unicode.Lowercase

/-!
# Reading queries

A query's text is cut into pieces from left to right. A piece is a word, or a field
operator together with a quoted value, which may hold white space. Each piece is read as
a field, a flag, a date or free text; `Query.ofPieces` adds the pieces up, and of pieces
for the same part the last one counts.
-/

namespace MailSearch.Query

/-- The fields that a value can be sought in. -/
inductive Field where
  | sender
  | recipient
  | subject
  | folder
  | label
  deriving DecidableEq, Repr

/-- The field that an operator names. -/
def Field.ofName? : String → Option Field
  | "from" => some .sender
  | "to" => some .recipient
  | "subject" => some .subject
  | "in" => some .folder
  | "label" => some .label
  | _ => none

/-- The flags that can be asked for. -/
inductive Flag where
  | attachment
  | read
  | unread
  | starred
  deriving DecidableEq, Repr

/-- The flag that a word asks for. -/
def Flag.ofWord? : String → Option Flag
  | "has:attachment" => some .attachment
  | "is:read" => some .read
  | "is:unread" => some .unread
  | "is:starred" => some .starred
  | _ => none

/-- The bounds of the date. -/
inductive Bound where
  | after
  | before
  deriving DecidableEq, Repr

/-- The bound that an operator names. -/
def Bound.ofName? : String → Option Bound
  | "after" => some .after
  | "before" => some .before
  | _ => none

/-- What a piece of a query says. -/
inductive Reading where
  /-- free text -/
  | word
  /-- a value is sought in a field -/
  | field (field : Field) (value : String)
  /-- a flag is asked for -/
  | flag (flag : Flag)
  /-- the date is bounded by a day, in milliseconds -/
  | date (bound : Bound) (millis : Int)
  /-- the date is bounded by a day that the calendar does not have -/
  | noDate
  deriving DecidableEq, Repr

/-- A piece of a query: its characters and what they say. -/
structure Piece where
  chars : List Char
  reading : Reading
  deriving DecidableEq, Repr

/-- The text of a piece. -/
def Piece.text (p : Piece) : String := String.ofList p.chars

/-- Whether a piece is free text. -/
def Piece.isWord (p : Piece) : Bool := p.reading = .word

/-- Whether a character belongs to a word. -/
def isInk (c : Char) : Bool := !Unicode.isBlank c

/-- What stands before the first colon of a word, and what stands after it if there is a
colon. -/
def splitColon (word : List Char) : List Char × Option (List Char) :=
  match word.dropWhile (· ≠ ':') with
  | [] => (word, none)
  | _ :: value => (word.takeWhile (· ≠ ':'), some value)

/-- The lower case of a list of characters, as a key. -/
def keyOf (cs : List Char) : String := String.ofList (Unicode.lowerChars cs)

/-- A field's value without white space around it; a blank one makes the piece free
text. -/
def readField (field : Field) (value : List Char) : Reading :=
  match Unicode.stripChars value with
  | [] => .word
  | stripped => .field field (String.ofList stripped)

/-- The quoted phrase that begins after an opening quote, if its closing quote is there. -/
def phrase? (afterQuote : List Char) : Option (List Char) :=
  if afterQuote.contains '"' then some (afterQuote.takeWhile (· ≠ '"')) else none

/-- What a date operator's value says, if it is shaped like a date. -/
def readDate? (bound : Bound) (value : List Char) : Option Reading :=
  (Date.readShape? value).map fun d ↦ if d.isReal then .date bound d.toMillis else .noDate

/-- What a word says that no field operator begins. -/
def readWord (word : List Char) : Reading :=
  match Flag.ofWord? (keyOf word) with
  | some flag => .flag flag
  | none =>
      match splitColon word with
      | (name, some value) =>
          ((Bound.ofName? (keyOf name)).bind (readDate? · value)).getD .word
      | (_, none) => .word

/-- How many characters the first piece of a text takes, and what it says. The text
begins with the word `word`, after which `rest` follows. -/
def readPiece (word rest : List Char) : Nat × Reading :=
  match splitColon word with
  | (name, some value) =>
      match Field.ofName? (keyOf name), value with
      | some field, '"' :: afterQuote =>
          match phrase? (afterQuote ++ rest) with
          | some phrase => (name.length + phrase.length + 3, readField field phrase)
          | none => (word.length, readField field afterQuote)
      | some field, value => (word.length, readField field value)
      | none, _ => (word.length, readWord word)
  | (_, none) => (word.length, readWord word)

/-- A piece that begins with a word takes at least one character. -/
theorem readPiece_pos (c : Char) (word rest : List Char) :
    0 < (readPiece (c :: word) rest).1 := by
  unfold readPiece
  split
  · split
    · split <;> simp
    · simp
    · simp
  · simp

/-- The pieces of a query's text, in order. White space between them is passed over. -/
def pieces (cs : List Char) : List Piece :=
  match _hcs : cs.dropWhile Unicode.isBlank with
  | [] => []
  | c :: more =>
      let found := readPiece (c :: more.takeWhile isInk) (more.dropWhile isInk)
      ⟨(c :: more).take found.1, found.2⟩ :: pieces ((c :: more).drop found.1)
  termination_by cs.length
  decreasing_by
    have hpos := readPiece_pos c (more.takeWhile isInk) (more.dropWhile isInk)
    have hle : (c :: more).length ≤ cs.length := by
      rw [← _hcs]
      exact (List.dropWhile_sublist _).length_le
    simp only [List.length_drop]
    simp only [List.length_cons] at hle ⊢
    omega

/-- A query with one more filter. -/
def addReading (q : Query) : Reading → Query
  | .word => q
  | .field .sender value => { q with sender := some value }
  | .field .recipient value => { q with recipient := some value }
  | .field .subject value => { q with subject := some value }
  | .field .folder value => { q with folder := some value }
  | .field .label value => { q with labels := q.labels ++ [value] }
  | .flag .attachment => { q with hasAttachment := some true }
  | .flag .read => { q with isRead := some true }
  | .flag .unread => { q with isRead := some false }
  | .flag .starred => { q with isStarred := some true }
  | .date .after millis => { q with after := some millis }
  | .date .before millis => { q with before := some millis }
  | .noDate => q

/-- The free text of pieces: the words in order, a space between them. -/
def freeText (ps : List Piece) : String :=
  " ".intercalate ((ps.filter Piece.isWord).map Piece.text)

/-- The query that pieces add up to. -/
def ofPieces (ps : List Piece) : Query :=
  let filters := ps.foldl (fun q p ↦ addReading q p.reading) {}
  { filters with text := freeText ps }

/-- Read a query. -/
def ofText (text : String) : Query := ofPieces (pieces text.toList)

/-- The details to report about a query's pieces: each day that the calendar does not
have. -/
def events (text : String) : List Event :=
  ((pieces text.toList).filter (·.reading = .noDate)).map fun p ↦
    ⟨.debug, .query, "Dropping invalid date filter " ++ quoteText p.text⟩

end MailSearch.Query
