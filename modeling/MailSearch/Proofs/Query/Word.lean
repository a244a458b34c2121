import MailSearch.Proofs.Query.Piece
import MailSearch.Proofs.Token

/-!
# Words as queries

A word that no field operator begins is a piece of its own, whatever follows it. Every operator
and every flag of a query has a colon. So a word without a colon is free text, and a token as a
query asks for the token and for nothing else.
-/

namespace MailSearch.Query

variable {word : List Char}

section Plain

/-- No field operator stands before the first colon of a word. -/
def IsPlain (word : List Char) : Prop :=
  ∀ name value, splitColon word = (name, some value) → Field.ofName? (keyOf name) = none

/-- A word that no field operator begins opens no quote. -/
theorem IsPlain.openQuote?_eq_none (h : IsPlain word) (hink : ∀ c ∈ word, isInk c) :
    openQuote? word = none := by
  rw [openQuote?, List.takeWhile_eq_self_iff.mpr hink]
  split
  · next name value hsplit =>
    rw [h name _ hsplit]
    rfl
  · rfl

/-- A word that no field operator begins is read as a word. -/
theorem IsPlain.readBare_eq (h : IsPlain word) : readBare word = readWord word := by
  rw [readBare]
  split
  · next name value hsplit =>
    rw [h name value hsplit]
  · rfl

/-- A word that no field operator begins is a piece. -/
theorem IsPlain.begins (h : IsPlain word) (hne : word ≠ []) (hink : ∀ c ∈ word, isInk c) :
    Begins word ⟨word, readWord word⟩ [] := by
  have hopen : ∀ after, openQuote? (word ++ []) = some after → '"' ∉ after := by
    rw [List.append_nil, h.openQuote?_eq_none hink]
    exact nofun
  have hbegins := Begins.bare hne hink endsWord_nil hopen
  rwa [List.append_nil, h.readBare_eq] at hbegins

/-- A word that no field operator begins leaves no quote open. -/
theorem IsPlain.isClosed (h : IsPlain word) (hink : ∀ c ∈ word, isInk c) (r : Reading) :
    (Piece.mk word r).isClosed := by
  rw [Piece.isClosed, h.openQuote?_eq_none hink]
  rfl

end Plain

section Token

/-- No operator begins a word without a colon. -/
theorem isPlain_of_no_colon (h : ':' ∉ word) : IsPlain word := by
  intro name value hsplit
  rw [splitColon_eq_none h] at hsplit
  exact nomatch (Prod.mk.inj hsplit).2

/-- A flag is asked for with a colon. -/
theorem Flag.ofWord?_eq_none {text : String} (h : ':' ∉ text.toList) :
    Flag.ofWord? text = none := by
  unfold Flag.ofWord?
  split
  all_goals first | rfl | exact absurd (by decide) h

/-- A word in lower case without a colon is free text. -/
theorem readWord_of_no_colon (hword : ':' ∉ word) (hlower : Unicode.lowerChars word = word) :
    readWord word = .word := by
  have hflag : Flag.ofWord? (keyOf word) = none := by
    apply Flag.ofWord?_eq_none
    rwa [keyOf, hlower, String.toList_ofList]
  simp only [readWord, splitColon_eq_none hword, hflag]

/-- A token is the only piece of its text, and free text. -/
theorem pieces_of_isToken {t : String} (h : IsToken t) : pieces t.toList = [⟨t.toList, .word⟩] := by
  have hink : ∀ c ∈ t.toList, isInk c := by
    intro c hc
    simp [isInk, not_isBlank_of_isTokenCharacter (h.chars c hc)]
  have hcolon : ':' ∉ t.toList := fun hmem ↦ ne_colon_of_isTokenCharacter (h.chars ':' hmem) rfl
  have hbegins := (isPlain_of_no_colon hcolon).begins h.toList_ne_nil hink
  rw [hbegins.pieces_eq, pieces_nil,
    readWord_of_no_colon hcolon (Unicode.lowerChars_eq_self h.lower)]

/-- A token as a query asks for the token alone. -/
theorem ofText_of_isToken {t : String} (h : IsToken t) : ofText t = { text := t } := by
  rw [ofText, pieces_of_isToken h]
  simp [ofPieces, addReading, freeText, Piece.isWord, Piece.text]

end Token

end MailSearch.Query
