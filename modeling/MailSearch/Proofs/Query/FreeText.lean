import MailSearch.Proofs.Query.Combination

/-!
# Free text is free of operators

The free text of a query is made of the words among its pieces. With spaces between them they
are read again as these words, whatever stood between them before: reading the free text of a
query gives the free text and no filter.
-/

namespace MailSearch.Query

section Words

/-- Words with single spaces between them have white space between them. -/
theorem spaced_intercalate (words : List (List Char)) :
    Spaced words ([' '].intercalate words) := by
  induction words with
  | nil => exact .nil
  | cons word words ih =>
    cases words with
    | nil =>
      rw [List.intercalate_singleton]
      exact .single word
    | cons next words =>
      rw [List.intercalate_cons_cons, List.append_assoc]
      exact .cons (List.cons_ne_nil _ _) (List.forall_mem_singleton.mpr rfl) ih

/-- The characters of the free text are those of the words, with single spaces between them. -/
theorem toList_freeText (ps : List Piece) :
    (freeText ps).toList = [' '].intercalate ((ps.filter Piece.isWord).map Piece.chars) := by
  rw [freeText, String.toList_intercalate, List.map_map]
  congr 1
  exact List.map_congr_left fun p _ ↦ String.toList_ofList

/-- The words among the pieces of a text are the pieces of its free text. -/
theorem pieces_freeText (cs : List Char) :
    pieces (freeText (pieces cs)).toList = (pieces cs).filter Piece.isWord := by
  rw [toList_freeText]
  apply pieces_of_spaced (spaced_intercalate _)
  · intro p hp
    exact begins_of_mem_pieces (List.mem_filter.mp hp).1
  · exact (pairwise_pieces cs).filter _

/-- Words say nothing but themselves. -/
theorem ofPieces_of_isWord {ps : List Piece} (h : ∀ p ∈ ps, p.isWord) :
    ofPieces ps = { text := freeText ps } := by
  have hreadings : ps.map Piece.reading = List.replicate ps.length .word :=
    List.map_eq_replicate_iff.mpr fun p hp ↦ of_decide_eq_true (h p hp)
  rw [ofPieces_eq, hreadings]
  simp [ofReadings, lastValue, List.filterMap_replicate]

end Words

section Ends

/-- Whether a text neither begins nor ends with white space, and has characters. -/
structure IsFramed (cs : List Char) : Prop where
  first : ∃ c ∈ cs.head?, isInk c
  last : ∃ c ∈ cs.getLast?, isInk c

/-- There is nothing to strip where no white space stands at the ends. -/
theorem IsFramed.stripChars_eq {cs : List Char} (h : IsFramed cs) : Unicode.stripChars cs = cs := by
  obtain ⟨⟨c, hc, hfirst⟩, ⟨d, hd, hlast⟩⟩ := h
  apply Unicode.stripChars_eq_self
  · intro e he
    obtain rfl := Option.mem_unique hc he
    simpa [isInk] using hfirst
  · intro e he
    obtain rfl := Option.mem_unique hd he
    simpa [isInk] using hlast

/-- Nothing is left of what holds nothing but blanks, and of nothing else. -/
theorem stripChars_eq_nil_iff {cs : List Char} :
    Unicode.stripChars cs = [] ↔ ∀ c ∈ cs, Unicode.isBlank c := by
  rw [Unicode.stripChars, List.reverse_eq_nil_iff, List.dropWhile_eq_nil_iff]
  simp only [List.mem_reverse]
  constructor
  · intro h
    rw [← List.dropWhile_eq_nil_iff]
    cases hdrop : cs.dropWhile Unicode.isBlank with
    | nil => rfl
    | cons c rest =>
      -- what is left begins with a character that is not blank
      have hstop := List.head?_dropWhile_not Unicode.isBlank cs
      rw [hdrop] at h hstop
      exact absurd (h c List.mem_cons_self) (by simpa using hstop)
  · exact fun h c hc ↦ h c ((List.dropWhile_sublist _).mem hc)

/-- Words without white space at their ends have none at the ends of a text that they make up. -/
theorem Spaced.isFramed {words : List (List Char)} {cs : List Char} (h : Spaced words cs)
    (hne : words ≠ []) (hwords : ∀ word ∈ words, IsFramed word) : IsFramed cs := by
  induction h with
  | nil => exact absurd rfl hne
  | single word => exact hwords word List.mem_cons_self
  | @cons word next gap cs words _ _ h ih =>
    obtain ⟨hword, hwords⟩ := List.forall_mem_cons.mp hwords
    obtain ⟨c, hc, hink⟩ := hword.first
    obtain ⟨d, hd, hlast⟩ := (ih (List.cons_ne_nil _ _) hwords).last
    refine ⟨⟨c, ?_, hink⟩, ⟨d, ?_, hlast⟩⟩
    · rw [List.head?_append, hc]
      rfl
    · rw [List.getLast?_append, List.getLast?_append, hd]
      rfl

/-- A piece neither begins nor ends with white space. -/
theorem Begins.isFramed {cs rest : List Char} {p : Piece} (h : Begins cs p rest) :
    IsFramed p.chars := by
  obtain ⟨c, more, hcs, hc⟩ := h.alone.exists_cons
  refine ⟨⟨c, by rw [hcs]; rfl, hc⟩, ?_⟩
  cases h with
  | quoted hname hphrase rest => exact ⟨'"', by simp [List.getLast?_cons], rfl⟩
  | @bare word rest hne hink hend hopen =>
    exact ⟨word.getLast hne, List.getLast?_eq_some_getLast hne, hink _ (List.getLast_mem hne)⟩

/-- The free text of a query has no white space at its ends. -/
theorem strip_text_ofText (text : String) :
    Unicode.strip (ofText text).text = (ofText text).text := by
  have htext : (ofText text).text = freeText (pieces text.toList) := rfl
  have hstrip : Unicode.stripChars (freeText (pieces text.toList)).toList =
      (freeText (pieces text.toList)).toList := by
    rw [toList_freeText]
    set words := ((pieces text.toList).filter Piece.isWord).map Piece.chars with hwords
    by_cases hne : words = []
    · rw [hne]
      rfl
    · have hframed : ∀ word ∈ words, IsFramed word := by
        intro word hword
        obtain ⟨p, hp, rfl⟩ := List.mem_map.mp hword
        exact (begins_of_mem_pieces (List.mem_filter.mp hp).1).isFramed
      exact ((spaced_intercalate words).isFramed hne hframed).stripChars_eq
  rw [htext, Unicode.strip, hstrip, String.ofList_toList]

end Ends

/-- The free text of a query asks for itself and for nothing else. -/
theorem ofText_text_ofText (text : String) :
    ofText (ofText text).text = { text := (ofText text).text } := by
  have htext : (ofText text).text = freeText (pieces text.toList) := rfl
  have hwords : freeText ((pieces text.toList).filter Piece.isWord) =
      freeText (pieces text.toList) := by
    rw [freeText, freeText, List.filter_filter]
    simp
  rw [htext, ofText, pieces_freeText, ofPieces_of_isWord fun p hp ↦ (List.mem_filter.mp hp).2,
    hwords]

end MailSearch.Query
