import MailSearch.Proofs.Query.Language
import MailSearch.Ranking

/-!
# One more filter

A filter is written as one operator: for a field with a value in quotes, for a flag, or for a
bound of the date. After a text it is read as what it says alone and adds nothing to the free
text. If it sets a part of the query that was not set, then a record passes the longer query just
if it passes both the query of the text and the filter.
-/

namespace MailSearch.Query

/-- One filter, as it can be written. -/
inductive Filter where
  /-- a field's operator and a quoted value that is not blank -/
  | field (f : Field) (name : Spelling f.name) (value : List Char) (hquote : '"' ∉ value)
      (hvalue : ∃ c ∈ value, isInk c)
  /-- a flag -/
  | flag (f : Flag) (word : Spelling f.word)
  /-- a bound's operator and a value shaped like a date, which may name no day of the calendar -/
  | date (b : Bound) (name : Spelling b.name) (value : List Char) (day : Date)
      (hvalue : ∀ c ∈ value, isInk c) (hday : Date.readShape? value = some day)

section Written

namespace Filter

variable (o : Filter)

/-- How a filter is written. -/
def chars : Filter → List Char
  | field _ name value _ _ => name.chars ++ ':' :: '"' :: (value ++ ['"'])
  | flag _ word => word.chars
  | date _ name value _ _ _ => name.chars ++ ':' :: value

/-- The text of a filter. -/
def text : String := String.ofList o.chars

/-- What a filter says: a value without the white space around it, a flag, or a day if the calendar
has it. -/
def reading : Filter → Reading
  | field f _ value _ _ => .field f (String.ofList (Unicode.stripChars value))
  | flag f _ => .flag f
  | date b _ _ day _ _ => if day.isReal then .date b day.toMillis else .noDate

/-- A filter as a piece of a query. -/
def piece : Piece := ⟨o.chars, o.reading⟩

/-- A filter is no free text. -/
theorem isWord_piece : o.piece.isWord = false := by
  apply decide_eq_false
  cases o with
  | field f name value hquote hvalue => exact nofun
  | flag f word => exact nofun
  | date b name value day hvalue hday =>
    simp only [piece, reading]
    split <;> exact nofun

/-- A filter alone is one piece, which says what the filter says. -/
theorem begins : Begins o.chars o.piece [] := by
  cases o with
  | field f name value hquote hvalue =>
    have hread : readField f value = .field f (String.ofList (Unicode.stripChars value)) := by
      unfold readField
      split
      · next hnil =>
        obtain ⟨c, hc, hink⟩ := hvalue
        have hblank := stripChars_eq_nil_iff.mp hnil c hc
        simp [isInk, hblank] at hink
      · rfl
    have hbegins := Begins.quoted name.names hquote []
    rwa [hread] at hbegins
  | flag f word => exact (Item.flag f word).begins
  | date b name value day hvalue hday =>
    have hbegins := name.begins_bound hvalue
    rwa [readDate?, hday, Option.map_some, Option.getD_some] at hbegins

/-- A filter is the only piece of its text. -/
theorem pieces_text : pieces o.text.toList = [o.piece] := by
  rw [text, String.toList_ofList, o.begins.pieces_eq, pieces_nil]

end Filter

/-- A last piece that is no free text adds what it says. -/
theorem ofPieces_append_singleton {p : Piece} (hp : p.isWord = false) (ps : List Piece) :
    ofPieces (ps ++ [p]) = addReading (ofPieces ps) p.reading := by
  have hfree : freeText (ps ++ [p]) = freeText ps := by
    simp [freeText, hp]
  rw [ofPieces_eq, ofPieces_eq, addReading_eq, hfree, List.map_append, List.map_singleton,
    ofReadings_append _ ""]

/-- A filter alone sets what it says. -/
theorem ofText_filter (o : Filter) : ofText o.text = addReading {} o.reading := by
  rw [ofText, o.pieces_text]
  exact ofPieces_append_singleton o.isWord_piece []

/-- A filter after a text and a space adds what it says to the query of the text, if every quote
is closed that a field operator of the text opens. -/
theorem ofText_append_filter {a : String} (h : QuotesClosed a) (o : Filter) :
    ofText (a ++ " " ++ o.text) = addReading (ofText a) o.reading := by
  rw [ofText, pieces_append_space h, o.pieces_text]
  exact ofPieces_append_singleton o.isWord_piece _

end Written

section Passing

/-- Whether the part of a query is not set that a reading sets, if it sets any. -/
def Reading.isOpenIn (q : Query) : Reading → Bool
  | word => true
  | field .sender _ => q.sender.isNone
  | field .recipient _ => q.recipient.isNone
  | field .subject _ => q.subject.isNone
  | field .folder _ => q.folder.isNone
  | field .label _ => q.labels.isEmpty
  | flag .attachment => q.hasAttachment.isNone
  | flag .read => q.isRead.isNone
  | flag .unread => q.isRead.isNone
  | flag .starred => q.isStarred.isNone
  | date .after _ => q.after.isNone
  | date .before _ => q.before.isNone
  | noDate => true

variable {q : Query} {said : Reading}

/-- What is added to a query leaves the free text as it is. -/
theorem text_addReading (q : Query) (said : Reading) : (addReading q said).text = q.text := by
  rw [addReading_eq]
  rfl

/-- A text filter that is not set holds. -/
@[simp] theorem passesText_none (holds : String → Bool) : Record.passesText none holds = true := rfl

/-- A flag that is not asked for holds. -/
@[simp] theorem passesFlag_none (flag : Bool) : Record.passesFlag none flag = true := rfl

/-- A record passes a query with one more filter just if it passes the query and the filter, if
the query did not have a filter for the same part. -/
theorem passes_addReading (h : said.isOpenIn q) (r : Record) :
    r.passes (addReading q said) = (r.passes q && r.passes (addReading {} said)) := by
  -- the part that is set holds of every record in the query, and all other parts in the filter
  cases said with
  | word => exact (Bool.and_true _).symm
  | field f value =>
    cases f <;> simp only [Reading.isOpenIn, Option.isNone_iff_eq_none, List.isEmpty_iff] at h <;>
      simp [addReading, Record.passes, h]
    all_goals grind only
  | flag f =>
    cases f <;> simp only [Reading.isOpenIn, Option.isNone_iff_eq_none] at h <;>
      simp [addReading, Record.passes, h]
    all_goals grind only
  | date b millis =>
    cases b <;> simp only [Reading.isOpenIn, Option.isNone_iff_eq_none] at h <;>
      simp [addReading, Record.passes, h]
    all_goals grind only
  | noDate => exact (Bool.and_true _).symm

end Passing

end MailSearch.Query
