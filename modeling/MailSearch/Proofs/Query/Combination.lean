import MailSearch.Proofs.Query.Piece
import Mathlib.Data.List.Induction

/-!
# Queries one after the other

Of the pieces that set the same part of a query the last one counts, and all labels are kept. So
two texts with a space between them are read as the query of the first and the query of the
second together, if every quote is closed that a field operator of the first opens.
-/

namespace MailSearch.Query

namespace Reading

/-- The value that is sought in a field. -/
@[simp] def valueIn? (sought : Field) : Reading → Option String
  | field f value => if f = sought then some value else none
  | _ => none

/-- Whether emails with attachments are asked for. -/
@[simp] def attachment? : Reading → Option Bool
  | flag .attachment => some true
  | _ => none

/-- Whether read emails are asked for, or unread ones. -/
@[simp] def read? : Reading → Option Bool
  | flag .read => some true
  | flag .unread => some false
  | _ => none

/-- Whether starred emails are asked for. -/
@[simp] def starred? : Reading → Option Bool
  | flag .starred => some true
  | _ => none

/-- The day that bounds the date on one side. -/
@[simp] def day? (side : Bound) : Reading → Option Int
  | date bound millis => if bound = side then some millis else none
  | _ => none

end Reading

section Readings

variable {α : Type} {part : Reading → Option α}

/-- The last of the values that readings have for a part of a query. -/
def lastValue (part : Reading → Option α) (rs : List Reading) : Option α :=
  (rs.filterMap part).getLast?

/-- The query of a free text and some readings. For every part the last reading counts that sets
it; labels are kept in order. -/
def ofReadings (text : String) (rs : List Reading) : Query where
  text := text
  sender := lastValue (·.valueIn? .sender) rs
  recipient := lastValue (·.valueIn? .recipient) rs
  subject := lastValue (·.valueIn? .subject) rs
  folder := lastValue (·.valueIn? .folder) rs
  hasAttachment := lastValue Reading.attachment? rs
  isRead := lastValue Reading.read? rs
  isStarred := lastValue Reading.starred? rs
  labels := rs.filterMap (·.valueIn? .label)
  after := lastValue (·.day? .after) rs
  before := lastValue (·.day? .before) rs

/-- Of the readings of two lists the last one of the second counts, if there is one. -/
theorem lastValue_append (rs others : List Reading) :
    lastValue part (rs ++ others) = (lastValue part others).or (lastValue part rs) := by
  rw [lastValue, List.filterMap_append, List.getLast?_append]
  rfl

/-- One reading has a value for a part of a query or has none. -/
theorem lastValue_singleton (r : Reading) : lastValue part [r] = part r := by
  unfold lastValue
  cases h : part r with
  | none => rw [List.filterMap_cons_none h]; rfl
  | some value => rw [List.filterMap_cons_some h]; rfl

/-- A query with the filters of another after its own: of a part that both set the other's value
counts, and the other's labels follow. -/
def withFilters (q other : Query) : Query where
  text := q.text
  sender := other.sender.or q.sender
  recipient := other.recipient.or q.recipient
  subject := other.subject.or q.subject
  folder := other.folder.or q.folder
  hasAttachment := other.hasAttachment.or q.hasAttachment
  isRead := other.isRead.or q.isRead
  isStarred := other.isStarred.or q.isStarred
  labels := q.labels ++ other.labels
  after := other.after.or q.after
  before := other.before.or q.before

/-- What readings of two lists add up to is what those of the first do with the filters of the
second. -/
theorem ofReadings_append (text other : String) (rs others : List Reading) :
    ofReadings text (rs ++ others) =
      (ofReadings text rs).withFilters (ofReadings other others) := by
  simp only [ofReadings, withFilters, lastValue_append, List.filterMap_append]

/-- Adding a reading to a query sets what the reading sets. -/
theorem addReading_eq (q : Query) (r : Reading) :
    addReading q r = q.withFilters (ofReadings "" [r]) := by
  unfold withFilters ofReadings
  simp only [lastValue_singleton]
  rcases r with _ | ⟨f, value⟩ | f | ⟨b, millis⟩ | _
  · simp [addReading]
  · cases f <;> simp [addReading]
  · cases f <;> simp [addReading]
  · cases b <;> simp [addReading]
  · simp [addReading]

/-- Adding readings one after the other sets what the last of them set. -/
theorem foldl_addReading (text : String) (rs : List Reading) :
    rs.foldl addReading { text := text } = ofReadings text rs := by
  induction rs using List.reverseRecOn with
  | nil => rfl
  | append_singleton rs r ih =>
    rw [List.foldl_append, ih, List.foldl_cons, List.foldl_nil, addReading_eq,
      ← ofReadings_append]

/-- Pieces add up to what their readings do, with the words among them as the free text. -/
theorem ofPieces_eq (ps : List Piece) :
    ofPieces ps = ofReadings (freeText ps) (ps.map Piece.reading) := by
  have hfold : ps.foldl (fun q p ↦ addReading q p.reading) {} =
      ofReadings "" (ps.map Piece.reading) := by
    rw [← foldl_addReading, List.foldl_map]
  rw [ofPieces, hfold]
  rfl

end Readings

section Text

/-- Texts with a space between them, empty ones left out. -/
def joinTexts (texts : List String) : String := " ".intercalate (texts.filter (· ≠ ""))

/-- Texts that are not empty are not joined to an empty one. -/
theorem intercalate_ne_empty {texts : List String} (hne : texts ≠ []) (h : "" ∉ texts) :
    " ".intercalate texts ≠ "" := by
  cases texts with
  | nil => exact absurd rfl hne
  | cons text texts =>
    have htext : text ≠ "" := fun heq ↦ h (heq ▸ List.mem_cons_self)
    cases texts with
    | nil => rwa [String.intercalate_singleton]
    | cons other texts => simp [String.intercalate_cons_cons, String.append_eq_empty_iff]

/-- The words among pieces, as texts. -/
def wordsOf (ps : List Piece) : List String := (ps.filter Piece.isWord).map Piece.text

/-- The free text of pieces that follow one another. -/
theorem freeText_append {ps others : List Piece} (hps : ∀ p ∈ ps, p.chars ≠ [])
    (hothers : ∀ p ∈ others, p.chars ≠ []) :
    freeText (ps ++ others) = joinTexts [freeText ps, freeText others] := by
  have hnonempty {qs : List Piece} (hqs : ∀ p ∈ qs, p.chars ≠ []) : "" ∉ wordsOf qs := by
    intro hmem
    obtain ⟨p, hp, htext⟩ := List.mem_map.mp hmem
    exact hqs p (List.mem_filter.mp hp).1 (String.ofList_eq_empty_iff.mp htext)
  have hwords : wordsOf (ps ++ others) = wordsOf ps ++ wordsOf others := by
    rw [wordsOf, List.filter_append, List.map_append]
    rfl
  change " ".intercalate (wordsOf (ps ++ others)) =
    joinTexts [" ".intercalate (wordsOf ps), " ".intercalate (wordsOf others)]
  rw [hwords, joinTexts]
  by_cases hfirst : wordsOf ps = []
  · by_cases hsecond : wordsOf others = []
    · simp [hfirst, hsecond]
    · simp [hfirst, intercalate_ne_empty hsecond (hnonempty hothers)]
  · by_cases hsecond : wordsOf others = []
    · simp [hsecond, intercalate_ne_empty hfirst (hnonempty hps)]
    · simp [intercalate_ne_empty hfirst (hnonempty hps),
        intercalate_ne_empty hsecond (hnonempty hothers), String.intercalate_cons_cons,
        String.intercalate_append_of_ne_nil hfirst hsecond]

end Text

section Combination

/-- Two queries as one: both free texts, and the filters of the second after those of the
first. -/
def combine (first second : Query) : Query :=
  { first.withFilters second with text := joinTexts [first.text, second.text] }

/-- Whether every quote is closed that a field operator of a text opens. -/
def QuotesClosed (text : String) : Prop := ∀ p ∈ pieces text.toList, p.isClosed

instance : DecidablePred QuotesClosed := fun text ↦
  inferInstanceAs (Decidable (∀ p ∈ pieces text.toList, p.isClosed = true))

/-- Pieces that follow one another add up to the queries of both. -/
theorem ofPieces_append {ps others : List Piece} (hps : ∀ p ∈ ps, p.chars ≠ [])
    (hothers : ∀ p ∈ others, p.chars ≠ []) :
    ofPieces (ps ++ others) = (ofPieces ps).combine (ofPieces others) := by
  rw [ofPieces_eq, ofPieces_eq, ofPieces_eq, List.map_append, freeText_append hps hothers]
  rw [ofReadings_append _ ""]
  rfl

/-- The pieces of two texts with a space between them are those of both, if every quote is closed
that a field operator of the first opens. -/
theorem pieces_append_space {a : String} (h : QuotesClosed a) (b : String) :
    pieces (a ++ " " ++ b).toList = pieces a.toList ++ pieces b.toList := by
  have hchars : (a ++ " " ++ b).toList = a.toList ++ ' ' :: b.toList := by simp
  have hspace : EndsWord (' ' :: b.toList) :=
    endsWord_append (List.cons_ne_nil _ _) (List.forall_mem_singleton.mpr rfl) b.toList
  rw [hchars, pieces_append a.toList hspace fun p hp ↦ .inl (h p hp), pieces_cons_of_isBlank rfl]

/-- Two texts with a space between them are read as both queries together, if every quote is
closed that a field operator of the first opens. -/
theorem ofText_append (a b : String) (h : QuotesClosed a) :
    ofText (a ++ " " ++ b) = (ofText a).combine (ofText b) := by
  rw [ofText, pieces_append_space h]
  exact ofPieces_append (fun p hp ↦ (begins_of_mem_pieces hp).chars_ne_nil)
    fun p hp ↦ (begins_of_mem_pieces hp).chars_ne_nil

/-- A phrase that a word follows without a space, an operator without a value, and a bound that
the calendar does not have: the first text keeps its day and both labels count. -/
theorem ofText_append_phrase :
    let a := "from:\"Jane Doe\"plan after:2024-02-29 label:a to:"
    let b := "after:2023-02-29 is:read \"label:b from:Joe\" label:b"
    QuotesClosed a ∧ ofText (a ++ " " ++ b) =
      { text := "plan to: \"label:b", sender := some "Joe\"", isRead := some true,
        labels := ["a", "b"], after := some 1709164800000 } := by
  intro a b
  have hclosed : QuotesClosed a := by decide +kernel
  refine ⟨hclosed, ?_⟩
  rw [ofText_append a b hclosed]
  decide +kernel

end Combination

end MailSearch.Query
