import MailSearch.Proofs.Calendar
import MailSearch.Proofs.Query.FreeText
import MailSearch.Proofs.Query.Word

/-!
# The language of queries

A query is written with items: field operators with quoted values, flags, days that bound the
date, and free words, the operators in any mix of capital and small letters. `Item` holds what
can be written; every list of items, with white space between them, is read as the query that
these items say.
-/

namespace MailSearch.Query

section Operators

/-- The name of a field's operator. -/
def Field.name : Field → String
  | sender => "from"
  | recipient => "to"
  | subject => "subject"
  | folder => "in"
  | label => "label"

/-- The word that asks for a flag. -/
def Flag.word : Flag → String
  | attachment => "has:attachment"
  | read => "is:read"
  | unread => "is:unread"
  | starred => "is:starred"

/-- The name of a bound's operator. -/
def Bound.name : Bound → String
  | after => "after"
  | before => "before"

/-- The names of all operators for fields and bounds. -/
def operatorNames : List String := ["from", "to", "subject", "in", "label", "after", "before"]

/-- The words that ask for flags. -/
def flagWords : List String := ["has:attachment", "is:read", "is:unread", "is:starred"]

/-- What stands before the colon of the flags. -/
def flagNames : List String := ["has", "is"]

variable {name word : String}

/-- A field's operator is known by its name. -/
theorem Field.ofName?_eq_some_iff {f : Field} : Field.ofName? name = some f ↔ name = f.name := by
  constructor
  · intro h
    unfold Field.ofName? at h
    split at h <;> cases h <;> rfl
  · rintro rfl
    cases f <;> rfl

/-- A flag is known by its word. -/
theorem Flag.ofWord?_eq_some_iff {f : Flag} : Flag.ofWord? word = some f ↔ word = f.word := by
  constructor
  · intro h
    unfold Flag.ofWord? at h
    split at h <;> cases h <;> rfl
  · rintro rfl
    cases f <;> rfl

/-- A bound's operator is known by its name. -/
theorem Bound.ofName?_eq_some_iff {b : Bound} : Bound.ofName? name = some b ↔ name = b.name := by
  constructor
  · intro h
    unfold Bound.ofName? at h
    split at h <;> cases h <;> rfl
  · rintro rfl
    cases b <;> rfl

/-- The operator of a field is one of all operators. -/
theorem Field.name_mem (f : Field) : f.name ∈ operatorNames := by
  cases f <;> decide

/-- The operator of a bound is one of all operators. -/
theorem Bound.name_mem (b : Bound) : b.name ∈ operatorNames := by
  cases b <;> decide

/-- The word for a flag is one of all flags. -/
theorem Flag.word_mem (f : Flag) : f.word ∈ flagWords := by
  cases f <;> decide

/-- What is no operator names no field. -/
theorem Field.ofName?_eq_none (h : name ∉ operatorNames) : Field.ofName? name = none := by
  cases hfield : Field.ofName? name with
  | none => rfl
  | some f => exact absurd (Field.ofName?_eq_some_iff.mp hfield ▸ f.name_mem) h

/-- What is no operator names no bound. -/
theorem Bound.ofName?_eq_none (h : name ∉ operatorNames) : Bound.ofName? name = none := by
  cases hbound : Bound.ofName? name with
  | none => rfl
  | some b => exact absurd (Bound.ofName?_eq_some_iff.mp hbound ▸ b.name_mem) h

/-- A word for no flag asks for none. -/
theorem Flag.ofWord?_eq_none_of_not_mem (h : word ∉ flagWords) : Flag.ofWord? word = none := by
  cases hflag : Flag.ofWord? word with
  | none => rfl
  | some f => exact absurd (Flag.ofWord?_eq_some_iff.mp hflag ▸ f.word_mem) h

/-- What stands before the colon of a flag is no operator. -/
theorem not_mem_operatorNames : ∀ name ∈ flagNames, name ∉ operatorNames := by
  decide

/-- The operators of bounds are none for fields. -/
theorem Field.ofName?_bound (b : Bound) : Field.ofName? b.name = none := by
  cases b <;> rfl

end Operators

section Spelling

/-- A word in any mix of capital and small letters. -/
structure Spelling (word : String) where
  chars : List Char
  lower : chars.map Char.toLower = word.toList

variable {word : String} {c : Char} {cs name value : List Char}

/-- Only the colon has a colon as its letter. -/
theorem toLower_eq_colon_iff : c.toLower = ':' ↔ c = ':' := by
  constructor
  · intro h
    have hc : c.toNat < 128 := Unicode.ascii_of_toLower (h ▸ by decide)
    exact Unicode.forall_ascii (p := fun c ↦ c.toLower = ':' → c = ':') (by decide +kernel) hc h
  · rintro rfl
    rfl

/-- Capital and small letters are split at the same colon. -/
theorem splitColon_map_toLower (cs : List Char) :
    splitColon (cs.map Char.toLower) =
      ((splitColon cs).1.map Char.toLower, (splitColon cs).2.map (·.map Char.toLower)) := by
  have hcolon {ds : List Char} (h : ':' ∉ ds) : ':' ∉ ds.map Char.toLower := by
    intro hmem
    obtain ⟨c, hc, hlower⟩ := List.mem_map.mp hmem
    exact h (toLower_eq_colon_iff.mp hlower ▸ hc)
  by_cases hmem : ':' ∈ cs
  · obtain ⟨name, value, rfl, hname⟩ := List.eq_append_cons_of_mem hmem
    rw [splitColon_append hname, List.map_append, List.map_cons]
    exact splitColon_append (hcolon hname) _
  · rw [splitColon_eq_none hmem, splitColon_eq_none (hcolon hmem)]
    rfl

/-- The key of ASCII characters is made of their letters. -/
theorem keyOf_ascii (h : ∀ c ∈ cs, c.toNat < 128) :
    keyOf cs = String.ofList (cs.map Char.toLower) := by
  rw [keyOf, Unicode.lowerChars_ascii h]

namespace Spelling

variable (s : Spelling word)

/-- The letters of a spelling are those of the word. -/
theorem toLower_mem (hc : c ∈ s.chars) : c.toLower ∈ word.toList :=
  s.lower ▸ List.mem_map_of_mem hc

variable (hword : ∀ c ∈ word.toList, c.toNat < 128 ∧ isInk c)
include hword

/-- A spelling of an ASCII word is ASCII. -/
theorem ascii : ∀ c ∈ s.chars, c.toNat < 128 :=
  fun _ hc ↦ Unicode.ascii_of_toLower (hword _ (s.toLower_mem hc)).1

/-- Every spelling of an ASCII word has the word as its key. -/
theorem keyOf_eq : keyOf s.chars = word := by
  rw [keyOf_ascii (s.ascii hword), s.lower, String.ofList_toList]

/-- A spelling of a word without white space has none. -/
theorem ink : ∀ c ∈ s.chars, isInk c := by
  intro c hc
  exact Unicode.forall_ascii (p := fun c ↦ isInk c.toLower → isInk c) (by decide +kernel)
    (s.ascii hword c hc) (hword _ (s.toLower_mem hc)).2

end Spelling

/-- Characters that are tested one by one are ASCII and no white space. -/
private theorem ink_of_all (h : cs.all fun c ↦ c.toNat < 128 && isInk c) :
    ∀ c ∈ cs, c.toNat < 128 ∧ isInk c := by
  simpa using h

/-- The operators are ASCII words without a colon. -/
theorem ink_of_mem_operatorNames {name : String} (h : name ∈ operatorNames) :
    ':' ∉ name.toList ∧ ∀ c ∈ name.toList, c.toNat < 128 ∧ isInk c := by
  have htable : ∀ name ∈ operatorNames, ':' ∉ name.toList ∧
      name.toList.all fun c ↦ c.toNat < 128 && isInk c := by
    decide +kernel
  exact (htable name h).imp_right ink_of_all

/-- The flags are ASCII words. -/
theorem Flag.ink (f : Flag) : ∀ c ∈ f.word.toList, c.toNat < 128 ∧ isInk c := by
  apply ink_of_all
  cases f <;> decide +kernel

/-- What stands before the colon of a flag, in any mix of letters, is no operator. -/
theorem Spelling.keyOf_mem_flagNames {f : Flag} (s : Spelling f.word)
    (h : splitColon s.chars = (name, some value)) : keyOf name ∈ flagNames := by
  have hname : ∀ c ∈ name, c.toNat < 128 := by
    intro c hc
    apply s.ascii f.ink c
    rw [(eq_of_splitColon h).1]
    exact List.mem_append_left _ hc
  have hsplit := splitColon_map_toLower s.chars
  rw [s.lower, h] at hsplit
  have hkey : keyOf name = String.ofList (splitColon f.word.toList).1 := by
    rw [hsplit, keyOf_ascii hname]
  rw [hkey]
  cases f <;> decide +kernel

end Spelling

section Items

/-- What can stand in quotes as the value of a field. -/
structure Phrase where
  chars : List Char
  framed : IsFramed chars
  noQuote : '"' ∉ chars

/-- A word that is neither an operator nor a flag. -/
structure FreeWord where
  chars : List Char
  ne_nil : chars ≠ []
  ink : ∀ c ∈ chars, isInk c
  noOperator : ':' ∈ chars → keyOf (chars.takeWhile (· ≠ ':')) ∉ operatorNames
  noFlag : keyOf chars ∉ flagWords

/-- What a query can be written with. -/
inductive Item where
  /-- a field's operator and a quoted value -/
  | field (f : Field) (name : Spelling f.name) (value : Phrase)
  /-- a flag -/
  | flag (f : Flag) (word : Spelling f.word)
  /-- a bound's operator and a day of the calendar -/
  | date (b : Bound) (name : Spelling b.name) (day : Date) (separator : Char) (hday : day.isReal)
      (hseparator : Date.isSeparator separator)
  /-- free text -/
  | word (w : FreeWord)

namespace Item

/-- How an item is written. -/
def chars : Item → List Char
  | field _ name value => name.chars ++ ':' :: '"' :: (value.chars ++ ['"'])
  | flag _ s => s.chars
  | date _ name day separator _ _ => name.chars ++ ':' :: day.literal separator
  | word w => w.chars

/-- What an item says. -/
def reading : Item → Reading
  | field f _ value => .field f (String.ofList value.chars)
  | flag f _ => .flag f
  | date b _ day _ _ _ => .date b day.toMillis
  | word _ => .word

/-- The free text of an item, if it is free text. -/
def freeWord? : Item → Option String
  | word w => some (String.ofList w.chars)
  | _ => none

/-- An item as a piece of a query. -/
def piece (i : Item) : Piece := ⟨i.chars, i.reading⟩

end Item

/-- A spelling of a field's operator names the field. -/
theorem Spelling.names {f : Field} (s : Spelling f.name) : Names s.chars f := by
  obtain ⟨hcolon, hname⟩ := ink_of_mem_operatorNames f.name_mem
  refine ⟨s.ink hname, fun hmem ↦ hcolon (s.toLower_mem hmem), ?_⟩
  rw [s.keyOf_eq hname]
  exact Field.ofName?_eq_some_iff.mpr rfl

/-- A value in quotes is read as it is. -/
theorem Phrase.readField_eq (value : Phrase) (f : Field) :
    readField f value.chars = .field f (String.ofList value.chars) := by
  obtain ⟨c, hc, -⟩ := value.framed.first
  rw [readField, value.framed.stripChars_eq]
  split
  · next hnil =>
    rw [hnil] at hc
    exact nomatch hc
  · rfl

/-- A spelling of a flag has characters. -/
theorem Spelling.ne_nil {f : Flag} (s : Spelling f.word) : s.chars ≠ [] := by
  intro hnil
  have hlower := s.lower
  rw [hnil] at hlower
  cases f <;> exact absurd hlower (by decide)

/-- A flag is no field operator. -/
theorem Spelling.isPlain {f : Flag} (s : Spelling f.word) : IsPlain s.chars := by
  intro name value hsplit
  exact Field.ofName?_eq_none (not_mem_operatorNames _ (s.keyOf_mem_flagNames hsplit))

/-- A flag is read as it is spelled. -/
theorem Spelling.readWord_eq {f : Flag} (s : Spelling f.word) : readWord s.chars = .flag f := by
  rw [readWord, s.keyOf_eq f.ink, Flag.ofWord?_eq_some_iff.mpr rfl]

namespace FreeWord

variable (w : FreeWord)

/-- What stands before the first colon of a free word is no operator. -/
theorem keyOf_not_mem {name value : List Char} (h : splitColon w.chars = (name, some value)) :
    keyOf name ∉ operatorNames := by
  obtain ⟨hchars, hcolon⟩ := eq_of_splitColon h
  have hname := w.noOperator (by simp [hchars])
  rwa [hchars, takeWhile_append_colon hcolon] at hname

/-- A free word is no field operator. -/
theorem isPlain : IsPlain w.chars :=
  fun _ _ hsplit ↦ Field.ofName?_eq_none (w.keyOf_not_mem hsplit)

/-- A free word is read as free text. -/
theorem readWord_eq : readWord w.chars = .word := by
  rw [readWord, Flag.ofWord?_eq_none_of_not_mem w.noFlag]
  dsimp only
  split
  · next name value hsplit =>
    rw [Bound.ofName?_eq_none (w.keyOf_not_mem hsplit)]
    rfl
  · rfl

end FreeWord

section Dated

variable {b : Bound} (s : Spelling b.name) {day : Date} {separator : Char} {value : List Char}

/-- A bound's operator has its name as its key. -/
theorem Spelling.keyOf_bound : keyOf s.chars = b.name :=
  s.keyOf_eq (ink_of_mem_operatorNames b.name_mem).2

/-- A bound's operator and a value are split at the colon between them. -/
theorem Spelling.splitColon_bound (value : List Char) :
    splitColon (s.chars ++ ':' :: value) = (s.chars, some value) := by
  have hcolon := (ink_of_mem_operatorNames b.name_mem).1
  exact splitColon_append (fun hmem ↦ hcolon (s.toLower_mem hmem)) _

/-- A bound's operator and a value are no field operator. -/
theorem Spelling.isPlain_bound (value : List Char) : IsPlain (s.chars ++ ':' :: value) := by
  intro name other hsplit
  rw [s.splitColon_bound] at hsplit
  obtain ⟨rfl, -⟩ := Prod.mk.inj hsplit
  rw [s.keyOf_bound, Field.ofName?_bound]

/-- A bound's operator and a value are no flag: no flag begins as the name of a bound does. -/
theorem Spelling.ofWord?_bound (value : List Char) :
    Flag.ofWord? (keyOf (s.chars ++ ':' :: value)) = none := by
  cases hflag : Flag.ofWord? (keyOf (s.chars ++ ':' :: value)) with
  | none => rfl
  | some f =>
    have hname := (ink_of_mem_operatorNames b.name_mem).2
    obtain ⟨later, hlater⟩ := Unicode.lowerFrom_ascii_append (s.ascii hname) false (':' :: value)
    have hword : f.word.toList = b.name.toList ++ Unicode.lowerFrom later (':' :: value) := by
      rw [← Flag.ofWord?_eq_some_iff.mp hflag, keyOf, Unicode.lowerChars, hlater, s.lower,
        String.toList_ofList]
    have hhead : f.word.toList.head? = b.name.toList.head? := by
      rw [hword, List.head?_append]
      cases b <;> rfl
    cases b <;> cases f <;> exact absurd hhead (by decide)

/-- A bound's operator and a value are read as what the value says, if it is shaped like a date. -/
theorem Spelling.readWord_bound (value : List Char) :
    readWord (s.chars ++ ':' :: value) = (readDate? b value).getD .word := by
  have hbound : Bound.ofName? b.name = some b := Bound.ofName?_eq_some_iff.mpr rfl
  rw [readWord, s.ofWord?_bound, s.splitColon_bound]
  dsimp only
  rw [s.keyOf_bound, hbound, Option.bind_some]

/-- A bound's operator and a value without white space have none. -/
theorem Spelling.ink_bound (hvalue : ∀ c ∈ value, isInk c) :
    ∀ c ∈ s.chars ++ ':' :: value, isInk c := by
  simp only [List.forall_mem_append, List.forall_mem_cons]
  exact ⟨s.ink (ink_of_mem_operatorNames b.name_mem).2, rfl, hvalue⟩

/-- The literal of a day has no white space. -/
theorem ink_of_mem_literal (hs : Date.isSeparator separator) :
    ∀ c ∈ day.literal separator, isInk c := by
  intro c hc
  rcases Date.mem_literal hc with hdigit | rfl
  · have hascii : c.toNat < 128 := by
      have hlast := (Literal.toNat_of_isDigit hdigit).2
      omega
    exact Unicode.forall_ascii (p := fun c ↦ Literal.isDigit c → isInk c) (by decide +kernel)
      hascii hdigit
  · simp only [Date.isSeparator, Bool.or_eq_true, decide_eq_true_eq] at hs
    rcases hs with rfl | rfl <;> rfl

/-- A bound's operator and a value without white space are one piece. -/
theorem Spelling.begins_bound (hvalue : ∀ c ∈ value, isInk c) :
    Begins (s.chars ++ ':' :: value)
      ⟨s.chars ++ ':' :: value, (readDate? b value).getD .word⟩ [] := by
  rw [← s.readWord_bound]
  exact (s.isPlain_bound value).begins (by simp) (s.ink_bound hvalue)

/-- The literal of a day of the calendar says the day. -/
theorem readDate?_literal (hday : day.isReal) (hs : Date.isSeparator separator) :
    readDate? b (day.literal separator) = some (.date b day.toMillis) := by
  rw [readDate?, Date.readShape?_literal hday hs, Option.map_some, if_pos hday]

end Dated

namespace Item

/-- An item alone is one piece, which says what the item says. -/
theorem begins (i : Item) : Begins i.chars i.piece [] := by
  cases i with
  | field f name value =>
    have hbegins := Begins.quoted name.names value.noQuote []
    rwa [value.readField_eq] at hbegins
  | flag f s =>
    have hbegins := s.isPlain.begins s.ne_nil (s.ink f.ink)
    rwa [s.readWord_eq] at hbegins
  | date b name day separator hday hseparator =>
    have hink : ∀ c ∈ day.literal separator, isInk c := ink_of_mem_literal hseparator
    have hbegins := name.begins_bound hink
    rwa [readDate?_literal hday hseparator, Option.getD_some] at hbegins
  | word w =>
    have hbegins := w.isPlain.begins w.ne_nil w.ink
    rwa [w.readWord_eq] at hbegins

/-- An item has a closing quote wherever it has an opening one. -/
theorem isClosed (i : Item) : i.piece.isClosed := by
  cases i with
  | field f name value =>
    rw [Piece.isClosed, piece, chars, openQuote?_quoted name.names]
    simp
  | flag f s => exact s.isPlain.isClosed (s.ink f.ink) _
  | date b name day separator hday hseparator =>
    exact (name.isPlain_bound (day.literal separator)).isClosed
      (name.ink_bound (ink_of_mem_literal hseparator)) _
  | word w => exact w.isPlain.isClosed w.ink _

/-- The words among the pieces of items are their free words. -/
theorem freeText_pieces (items : List Item) :
    freeText (items.map piece) = " ".intercalate (items.filterMap freeWord?) := by
  have hwords : wordsOf (items.map piece) = items.filterMap freeWord? := by
    induction items with
    | nil => rfl
    | cons i items ih =>
      cases i with
      | word w => exact congrArg (String.ofList w.chars :: ·) ih
      | _ => exact ih
  rw [← hwords]
  rfl

end Item

/-- Every list of items, with white space between them, is read as what the items say: the last
item for each part of the query, all labels in order, and the free words with single spaces
between them. -/
theorem ofText_of_items (items : List Item) (text : String)
    (h : Spaced (items.map Item.chars) text.toList) :
    ofText text = ofReadings (" ".intercalate (items.filterMap Item.freeWord?))
      (items.map Item.reading) := by
  have hpieces : pieces text.toList = items.map Item.piece := by
    apply pieces_of_spaced
    · rwa [List.map_map]
    · simpa using fun i _ ↦ i.begins
    · exact List.pairwise_map.mpr (List.pairwise_of_forall fun i _ ↦ .inl i.isClosed)
  rw [ofText, hpieces, ofPieces_eq, Item.freeText_pieces, List.map_map]
  rfl

/-- Items of every kind in capital and small letters: a value that holds an operator, two flags
for the same part, a day with slashes, a word with a colon, and white space of several kinds. -/
theorem ofText_of_items_mixed :
    let items : List Item :=
      [.field .sender ⟨"From".toList, rfl⟩
          ⟨"Ann: to:Bob".toList, ⟨⟨_, rfl, rfl⟩, _, rfl, rfl⟩, by decide⟩,
        .flag .read ⟨"IS:read".toList, rfl⟩,
        .word ⟨"plan:b".toList, List.cons_ne_nil _ _, List.all_eq_true.mp rfl, by decide +kernel,
          by decide +kernel⟩,
        .field .label ⟨"label".toList, rfl⟩ ⟨"a".toList, ⟨⟨_, rfl, rfl⟩, _, rfl, rfl⟩, by decide⟩,
        .date .after ⟨"AFTER".toList, rfl⟩ ⟨2024, 2, 29⟩ '/' rfl rfl,
        .flag .unread ⟨"is:UnRead".toList, rfl⟩,
        .field .label ⟨"LABEL".toList, rfl⟩ ⟨"b c".toList, ⟨⟨_, rfl, rfl⟩, _, rfl, rfl⟩, by decide⟩]
    let text := "From:\"Ann: to:Bob\" IS:read  plan:b\tlabel:\"a\" AFTER:2024/02/29\nis:UnRead " ++
      "LABEL:\"b c\""
    Spaced (items.map Item.chars) text.toList ∧
      ofText text =
        { text := "plan:b", sender := some "Ann: to:Bob", isRead := some false,
          labels := ["a", "b c"], after := some 1709164800000 } := by
  intro items text
  have htext : text.toList = "From:\"Ann: to:Bob\"".toList ++ ([' '] ++ ("IS:read".toList ++
      ([' ', ' '] ++ ("plan:b".toList ++ (['\t'] ++ ("label:\"a\"".toList ++ ([' '] ++
        ("AFTER:2024/02/29".toList ++ (['\n'] ++ ("is:UnRead".toList ++ ([' '] ++
          "LABEL:\"b c\"".toList))))))))))) := by
    decide +kernel
  have h : Spaced (items.map Item.chars) text.toList := by
    rw [htext]
    iterate 6 refine .cons (List.cons_ne_nil _ _) (List.all_eq_true.mp rfl) ?_
    exact .single _
  refine ⟨h, ?_⟩
  rw [ofText_of_items items text h]
  decide +kernel

end Items

end MailSearch.Query
