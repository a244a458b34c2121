import MailSearch.Query.Scan
import Mathlib.Data.List.TakeWhile

/-!
# How a text begins with a piece

A text that does not begin with white space begins with a piece: a field operator together with
a quoted phrase, or else a word that ends where white space stands. `Begins` says which, and
what follows the piece. Everything about the pieces of a text is shown from it: pieces stand
one after the other in the text, each of them is read alone as it was read in its place, and the
pieces of a text with white space and another text after it are those of both, unless a quote
that is left open in the first is closed in the second.
-/

namespace MailSearch.Query

section Colon

variable {name value word : List Char}

/-- A word without a colon has no name in front of one. -/
theorem splitColon_eq_none (h : ':' ∉ word) : splitColon word = (word, none) := by
  have hnone : word.dropWhile (· ≠ ':') = [] := by
    rw [List.dropWhile_eq_nil_iff]
    intro c hc
    exact decide_eq_true fun heq ↦ h (heq ▸ hc)
  rw [splitColon, hnone]

/-- What stands before the first colon of a word. -/
theorem takeWhile_append_colon (h : ':' ∉ name) (value : List Char) :
    (name ++ ':' :: value).takeWhile (· ≠ ':') = name := by
  have hname : ∀ c ∈ name, decide (c ≠ ':') = true :=
    fun c hc ↦ decide_eq_true fun heq ↦ h (heq ▸ hc)
  rw [List.takeWhile_append_of_pos hname, List.takeWhile_cons_of_neg (by simp), List.append_nil]

/-- A word is split at its first colon. -/
theorem splitColon_append (h : ':' ∉ name) (value : List Char) :
    splitColon (name ++ ':' :: value) = (name, some value) := by
  have hname : ∀ c ∈ name, decide (c ≠ ':') = true :=
    fun c hc ↦ decide_eq_true fun heq ↦ h (heq ▸ hc)
  have hdrop : (name ++ ':' :: value).dropWhile (· ≠ ':') = ':' :: value := by
    rw [List.dropWhile_append_of_pos hname]
    exact List.dropWhile_cons_of_neg (by simp)
  rw [splitColon, hdrop]
  dsimp only
  rw [takeWhile_append_colon h]

/-- What a word is split into stands in it around its first colon. -/
theorem eq_of_splitColon (h : splitColon word = (name, some value)) :
    word = name ++ ':' :: value ∧ ':' ∉ name := by
  by_cases hmem : ':' ∈ word
  · obtain ⟨before, after, rfl, hbefore⟩ := List.eq_append_cons_of_mem hmem
    rw [splitColon_append hbefore] at h
    obtain ⟨rfl, hvalue⟩ := Prod.mk.inj h
    obtain rfl := Option.some.inj hvalue
    exact ⟨rfl, hbefore⟩
  · rw [splitColon_eq_none hmem] at h
    exact nomatch (Prod.mk.inj h).2

end Colon

section WordEnd

/-- Whether a text is at its end or goes on with white space. -/
def EndsWord (rest : List Char) : Prop := ∀ c ∈ rest.head?, Unicode.isBlank c

variable {word rest : List Char}

/-- A word ends at the end of a text. -/
theorem endsWord_nil : EndsWord [] := fun _ hc ↦ nomatch hc

/-- A word ends before white space. -/
theorem endsWord_append {gap : List Char} (hne : gap ≠ []) (hgap : ∀ c ∈ gap, Unicode.isBlank c)
    (cs : List Char) : EndsWord (gap ++ cs) := by
  obtain ⟨c, gap, rfl⟩ := List.exists_cons_of_ne_nil hne
  intro d hd
  rw [← Option.some.inj hd]
  exact hgap c List.mem_cons_self

/-- What a word ends before has no characters of the word. -/
theorem EndsWord.takeWhile_isInk (h : EndsWord rest) : rest.takeWhile isInk = [] := by
  cases rest with
  | nil => rfl
  | cons c more => exact List.takeWhile_cons_of_neg (by simp [isInk, h c rfl])

/-- What a word ends before is left as it is. -/
theorem EndsWord.dropWhile_isInk (h : EndsWord rest) : rest.dropWhile isInk = rest := by
  cases rest with
  | nil => rfl
  | cons c more => exact List.dropWhile_cons_of_neg (by simp [isInk, h c rfl])

/-- The first word of a text does not go on in what is written after a space. -/
theorem EndsWord.takeWhile_append (h : EndsWord rest) (cs : List Char) :
    (cs ++ rest).takeWhile isInk = cs.takeWhile isInk := by
  rw [List.takeWhile_append]
  split
  · next hall =>
    rw [h.takeWhile_isInk, List.append_nil]
    exact ((List.takeWhile_prefix isInk).eq_of_length hall).symm
  · rfl

/-- What follows the first word of a text is followed by what is written after a space. -/
theorem EndsWord.dropWhile_append (h : EndsWord rest) (cs : List Char) :
    (cs ++ rest).dropWhile isInk = cs.dropWhile isInk ++ rest := by
  rw [List.dropWhile_append]
  split
  · next hnil => rw [h.dropWhile_isInk, List.isEmpty_iff.mp hnil, List.nil_append]
  · rfl

/-- The rest of a text after its first word does not go on with the word. -/
theorem endsWord_dropWhile (cs : List Char) : EndsWord (cs.dropWhile isInk) := by
  intro c hc
  have hstop := List.head?_dropWhile_not isInk cs
  rw [hc] at hstop
  simpa [isInk] using hstop

end WordEnd

section Quote

/-- Whether a word in front of a colon is an operator for a field. -/
structure Names (name : List Char) (field : Field) : Prop where
  ink : ∀ c ∈ name, isInk c
  noColon : ':' ∉ name
  isName : Field.ofName? (keyOf name) = some field

/-- What follows the opening quote of the value, if a text begins with a field operator whose
value begins with a quote. -/
def openQuote? (cs : List Char) : Option (List Char) :=
  match splitColon (cs.takeWhile isInk) with
  | (name, some ('"' :: value)) =>
      if (Field.ofName? (keyOf name)).isSome then some (value ++ cs.dropWhile isInk) else none
  | _ => none

variable {name after cs rest : List Char} {field : Field}

private theorem isInk_colon : isInk ':' = true := rfl

private theorem isInk_quote : isInk '"' = true := rfl

/-- The first word of a text that begins with an operator and a quote. -/
private theorem takeWhile_quoted (h : Names name field) (after : List Char) :
    (name ++ ':' :: '"' :: after).takeWhile isInk =
      name ++ ':' :: '"' :: after.takeWhile isInk := by
  rw [List.takeWhile_append_of_pos h.ink, List.takeWhile_cons_of_pos isInk_colon,
    List.takeWhile_cons_of_pos isInk_quote]

/-- What follows the first word of a text that begins with an operator and a quote. -/
private theorem dropWhile_quoted (h : Names name field) (after : List Char) :
    (name ++ ':' :: '"' :: after).dropWhile isInk = after.dropWhile isInk := by
  rw [List.dropWhile_append_of_pos h.ink, List.dropWhile_cons_of_pos isInk_colon,
    List.dropWhile_cons_of_pos isInk_quote]

/-- An operator, a colon and a quote open a quote. -/
theorem openQuote?_quoted (h : Names name field) (after : List Char) :
    openQuote? (name ++ ':' :: '"' :: after) = some after := by
  unfold openQuote?
  rw [takeWhile_quoted h, splitColon_append h.noColon, dropWhile_quoted h]
  simp only [h.isName, Option.isSome_some, ↓reduceIte, List.takeWhile_append_dropWhile]

/-- A text opens a quote if it begins with an operator, a colon and a quote. -/
theorem openQuote?_eq_some_iff :
    openQuote? cs = some after ↔
      ∃ name field, Names name field ∧ cs = name ++ ':' :: '"' :: after := by
  constructor
  · intro h
    unfold openQuote? at h
    split at h
    · next name value hsplit =>
      obtain ⟨hword, hcolon⟩ := eq_of_splitColon hsplit
      split at h
      · next hsome =>
        obtain ⟨field, hfield⟩ := Option.isSome_iff_exists.mp hsome
        obtain rfl := Option.some.inj h
        refine ⟨name, field, ⟨fun c hc ↦ ?_, hcolon, hfield⟩, ?_⟩
        · have hmem : c ∈ cs.takeWhile isInk := by
            rw [hword]
            exact List.mem_append_left _ hc
          exact List.mem_takeWhile_imp hmem
        · calc
            cs = cs.takeWhile isInk ++ cs.dropWhile isInk := List.takeWhile_append_dropWhile.symm
            _ = name ++ ':' :: '"' :: (value ++ cs.dropWhile isInk) := by
              rw [hword, List.append_assoc, List.cons_append, List.cons_append]
      · exact nomatch h
    · exact nomatch h
  · rintro ⟨name, field, hname, rfl⟩
    exact openQuote?_quoted hname after

/-- What is written after a space goes on after an open quote and opens none. -/
theorem EndsWord.openQuote?_append (h : EndsWord rest) (cs : List Char) :
    openQuote? (cs ++ rest) = (openQuote? cs).map (· ++ rest) := by
  unfold openQuote?
  rw [h.takeWhile_append, h.dropWhile_append]
  split
  · split
    · rw [Option.map_some, List.append_assoc]
    · rfl
  · rfl

end Quote

section Begins

/-- A value without the quote that it may begin with. -/
def dropQuote : List Char → List Char
  | '"' :: value => value
  | value => value

/-- What a word says that no quoted phrase belongs to. -/
def readBare (word : List Char) : Reading :=
  match splitColon word with
  | (name, some value) =>
      match Field.ofName? (keyOf name) with
      | some field => readField field (dropQuote value)
      | none => readWord word
  | (_, none) => readWord word

/-- A text begins with a piece, and the rest follows the piece. -/
inductive Begins : List Char → Piece → List Char → Prop
  /-- an operator and a quoted phrase -/
  | quoted {name phrase : List Char} {field : Field} (hname : Names name field)
      (hphrase : '"' ∉ phrase) (rest : List Char) :
      Begins (name ++ ':' :: '"' :: (phrase ++ '"' :: rest))
        ⟨name ++ ':' :: '"' :: (phrase ++ ['"']), readField field phrase⟩ rest
  /-- a word; a quote that it may open is not closed -/
  | bare {word rest : List Char} (hne : word ≠ []) (hink : ∀ c ∈ word, isInk c)
      (hend : EndsWord rest)
      (hopen : ∀ after, openQuote? (word ++ rest) = some after → '"' ∉ after) :
      Begins (word ++ rest) ⟨word, readBare word⟩ rest

variable {cs rest : List Char} {p : Piece}

/-- A text is the piece that it begins with, and the rest. -/
theorem Begins.eq_append (h : Begins cs p rest) : cs = p.chars ++ rest := by
  cases h with
  | quoted hname hphrase rest => simp
  | bare hne hink hend hopen => rfl

/-- A piece has characters. -/
theorem Begins.chars_ne_nil (h : Begins cs p rest) : p.chars ≠ [] := by
  cases h with
  | quoted hname hphrase rest => simp
  | bare hne hink hend hopen => exact hne

/-- A text that begins with a piece does not begin with white space. -/
theorem Begins.exists_cons (h : Begins cs p rest) : ∃ c more, cs = c :: more ∧ isInk c := by
  cases h with
  | @quoted name phrase field hname hphrase rest =>
    cases hchars : name with
    | nil => exact ⟨':', _, rfl, isInk_colon⟩
    | cons c name => exact ⟨c, _, rfl, hname.ink c (hchars ▸ List.mem_cons_self)⟩
  | @bare word rest hne hink hend hopen =>
    obtain ⟨c, more, rfl⟩ := List.exists_cons_of_ne_nil hne
    exact ⟨c, _, rfl, hink c List.mem_cons_self⟩

/-- A phrase without quotes ends at the first quote. -/
theorem phrase?_append {phrase : List Char} (h : '"' ∉ phrase) (rest : List Char) :
    phrase? (phrase ++ '"' :: rest) = some phrase := by
  have hphrase : ∀ c ∈ phrase, decide (c ≠ '"') = true :=
    fun c hc ↦ decide_eq_true fun heq ↦ h (heq ▸ hc)
  rw [phrase?, if_pos (by simp), List.takeWhile_append_of_pos hphrase,
    List.takeWhile_cons_of_neg (by simp), List.append_nil]

/-- Without a closing quote there is no phrase. -/
theorem phrase?_eq_none {after : List Char} (h : '"' ∉ after) : phrase? after = none :=
  if_neg (by simpa using h)

/-- A word of which no quoted phrase is a part is read by itself. -/
private theorem readPiece_eq_readBare {word rest : List Char}
    (h : ∀ name field after, Field.ofName? (keyOf name) = some field →
      splitColon word = (name, some ('"' :: after)) → '"' ∉ after ++ rest) :
    readPiece word rest = (word.length, readBare word) := by
  unfold readPiece readBare
  rcases hsplit : splitColon word with ⟨name, _ | value⟩
  · rfl
  · dsimp only
    cases hfield : Field.ofName? (keyOf name) with
    | none => rfl
    | some field =>
      dsimp only
      split
      · next heq =>
        obtain rfl := Option.some.inj heq
        rw [phrase?_eq_none (h name field _ hfield hsplit)]
        rfl
      · next heq hquote =>
        obtain rfl := Option.some.inj heq
        unfold dropQuote
        split
        · next after => exact absurd rfl (hquote after)
        · rfl
      · next heq => exact nomatch heq

/-- The scan takes the characters of the piece that a text begins with, and reads it so. -/
theorem Begins.readPiece_eq (h : Begins cs p rest) :
    readPiece (cs.takeWhile isInk) (cs.dropWhile isInk) = (p.chars.length, p.reading) := by
  cases h with
  | @quoted name phrase field hname hphrase rest =>
    rw [takeWhile_quoted hname, dropWhile_quoted hname, readPiece,
      splitColon_append hname.noColon]
    simp only [hname.isName, List.takeWhile_append_dropWhile, phrase?_append hphrase]
    simp only [List.length_append, List.length_cons, List.length_nil, Prod.mk.injEq, and_true]
    omega
  | @bare word rest hne hink hend hopen =>
    have htake : (word ++ rest).takeWhile isInk = word := by
      rw [hend.takeWhile_append, List.takeWhile_eq_self_iff.mpr hink]
    have hdrop : (word ++ rest).dropWhile isInk = rest := by
      rw [List.dropWhile_append_of_pos hink, hend.dropWhile_isInk]
    rw [htake, hdrop]
    apply readPiece_eq_readBare
    intro name field after hfield hsplit
    apply hopen
    unfold openQuote?
    rw [htake, hsplit, hdrop]
    simp only [hfield, Option.isSome_some, ↓reduceIte]

/-- The pieces of a text are the piece that it begins with and those of the rest. -/
theorem Begins.pieces_eq (h : Begins cs p rest) : pieces cs = p :: pieces rest := by
  obtain ⟨c, more, rfl, hc⟩ := h.exists_cons
  have hread := h.readPiece_eq
  have heq := h.eq_append
  have hblank : (c :: more).dropWhile Unicode.isBlank = c :: more :=
    List.dropWhile_cons_of_neg (by simpa [isInk] using hc)
  rw [List.takeWhile_cons_of_pos hc, List.dropWhile_cons_of_pos hc] at hread
  rw [pieces]
  split
  · next hnil => exact absurd (hblank.symm.trans hnil) (by simp)
  · next d later hcons =>
    obtain ⟨rfl, rfl⟩ := List.cons_eq_cons.mp (hblank.symm.trans hcons)
    rw [hread]
    dsimp only
    rw [heq, List.take_left, List.drop_left]

/-- White space in front of a text has no part in its pieces. -/
theorem pieces_cons_of_isBlank {c : Char} (hc : Unicode.isBlank c) (cs : List Char) :
    pieces (c :: cs) = pieces cs := by
  have hdrop : (c :: cs).dropWhile Unicode.isBlank = cs.dropWhile Unicode.isBlank :=
    List.dropWhile_cons_of_pos hc
  rw [pieces, pieces]
  split
  · next hnil =>
    rw [hdrop] at hnil
    split
    · rfl
    · next hcons => exact absurd (hnil.symm.trans hcons) (by simp)
  · next d more hcons =>
    rw [hdrop] at hcons
    split
    · next hnil => exact absurd (hnil.symm.trans hcons) (by simp)
    · next e other hother =>
      obtain ⟨rfl, rfl⟩ := List.cons_eq_cons.mp (hcons.symm.trans hother)
      rfl

/-- A text without characters has no pieces. -/
@[simp] theorem pieces_nil : pieces [] = [] := by
  rw [pieces]
  rfl

/-- A text that does not begin with white space begins with a piece. -/
theorem exists_begins {c : Char} (hc : isInk c) (more : List Char) :
    ∃ p rest, Begins (c :: more) p rest := by
  by_cases h : ∃ after, openQuote? (c :: more) = some after ∧ '"' ∈ after
  · obtain ⟨after, hafter, hmem⟩ := h
    obtain ⟨name, field, hname, hcs⟩ := openQuote?_eq_some_iff.mp hafter
    obtain ⟨phrase, rest, rfl, hphrase⟩ := List.eq_append_cons_of_mem hmem
    rw [hcs]
    exact ⟨_, _, .quoted hname hphrase rest⟩
  · have hsplit : (c :: more).takeWhile isInk ++ (c :: more).dropWhile isInk = c :: more :=
      List.takeWhile_append_dropWhile
    have hne : (c :: more).takeWhile isInk ≠ [] := by
      rw [List.takeWhile_cons_of_pos hc]
      exact List.cons_ne_nil _ _
    have hbegins := Begins.bare hne (fun d hd ↦ List.mem_takeWhile_imp hd)
      (endsWord_dropWhile (c :: more)) (hsplit.symm ▸ fun after hafter hmem ↦
        h ⟨after, hafter, hmem⟩)
    rw [hsplit] at hbegins
    exact ⟨_, _, hbegins⟩

/-- What holds of a text is shown along its scan: past white space, and past one piece after
the other. -/
theorem scan_induction {motive : List Char → Prop} (nil : motive [])
    (blank : ∀ c cs, Unicode.isBlank c → motive cs → motive (c :: cs))
    (piece : ∀ cs p rest, Begins cs p rest → motive rest → motive cs) (cs : List Char) :
    motive cs := by
  induction hn : cs.length using Nat.strongRecOn generalizing cs with
  | ind n ih =>
    cases cs with
    | nil => exact nil
    | cons c more =>
      cases hc : Unicode.isBlank c with
      | true => exact blank c more hc (ih more.length (by simp [← hn]) more rfl)
      | false =>
        obtain ⟨p, rest, hbegins⟩ := exists_begins (c := c) (by simp [isInk, hc]) more
        have hlength : rest.length < n := by
          have hpos := List.length_pos_iff.mpr hbegins.chars_ne_nil
          rw [← hn, hbegins.eq_append, List.length_append]
          omega
        exact piece _ p rest hbegins (ih rest.length hlength rest rfl)

end Begins

section Pieces

/-- Whether a piece has the closing quote too, if it begins with an operator and a quote. -/
def Piece.isClosed (p : Piece) : Bool := (openQuote? p.chars).all (·.contains '"')

variable {cs rest more : List Char} {p : Piece}

/-- A piece is closed if the scan finds the closing quote in what is left of the text. -/
theorem Begins.isClosed_iff (h : Begins cs p rest) :
    p.isClosed ↔ ∀ after, openQuote? cs = some after → '"' ∈ after := by
  cases h with
  | @quoted name phrase field hname hphrase rest =>
    rw [Piece.isClosed, openQuote?_quoted hname, openQuote?_quoted hname]
    simp
  | @bare word rest hne hink hend hopen =>
    rw [hend.openQuote?_append] at hopen ⊢
    cases hword : openQuote? word with
    | none => simp [Piece.isClosed, hword]
    | some after =>
      have hno := hopen (after ++ rest) (by rw [hword]; rfl)
      have hno' : '"' ∉ after := fun hmem ↦ hno (List.mem_append_left rest hmem)
      rw [Piece.isClosed, hword]
      simp [hno', hno]

/-- After a piece whose quote is left open no quote stands in the text. -/
theorem Begins.quote_not_mem (h : Begins cs p rest) (hp : p.isClosed = false) : '"' ∉ rest := by
  intro hmem
  refine absurd (h.isClosed_iff.mpr fun after hafter ↦ ?_) (by simp [hp])
  cases hfirst : openQuote? p.chars with
  | none =>
    rw [Piece.isClosed, hfirst] at hp
    exact nomatch hp
  | some first =>
    obtain ⟨name, field, hname, hchars⟩ := openQuote?_eq_some_iff.mp hfirst
    have hcs : cs = name ++ ':' :: '"' :: (first ++ rest) := by
      rw [h.eq_append, hchars, List.append_assoc, List.cons_append, List.cons_append]
    rw [hcs, openQuote?_quoted hname] at hafter
    rw [← Option.some.inj hafter]
    exact List.mem_append_right first hmem

/-- A text with white space and another text after it begins with the same piece, unless a quote
that is left open is closed in the other text. -/
theorem Begins.append (h : Begins cs p rest) (hmore : EndsWord more)
    (hclosed : p.isClosed ∨ '"' ∉ more) : Begins (cs ++ more) p (rest ++ more) := by
  have hiff := h.isClosed_iff
  cases h with
  | quoted hname hphrase rest =>
    have hbegins := Begins.quoted hname hphrase (rest ++ more)
    simpa using hbegins
  | @bare word rest hne hink hend hopen =>
    rw [List.append_assoc]
    refine .bare hne hink ?_ ?_
    · cases rest with
      | nil => exact hmore
      | cons c rest => exact hend
    · intro after hafter
      rw [← List.append_assoc, hmore.openQuote?_append] at hafter
      obtain ⟨first, hfirst, rfl⟩ := Option.map_eq_some_iff.mp hafter
      have hno := hopen first hfirst
      rcases hclosed with hclosed | hmore
      · exact absurd (hiff.mp hclosed first hfirst) hno
      · exact fun hmem ↦ (List.mem_append.mp hmem).elim hno hmore

/-- A piece is read alone as it was read in its place. -/
theorem Begins.alone (h : Begins cs p rest) : Begins p.chars p [] := by
  cases h with
  | quoted hname hphrase rest => exact .quoted hname hphrase []
  | @bare word rest hne hink hend hopen =>
    have hword : ∀ after, openQuote? (word ++ []) = some after → '"' ∉ after := by
      intro after hafter hmem
      rw [List.append_nil] at hafter
      have hlong := hend.openQuote?_append word
      rw [hafter] at hlong
      exact hopen _ hlong (List.mem_append_left rest hmem)
    have hbegins := Begins.bare hne hink endsWord_nil hword
    rwa [List.append_nil] at hbegins

/-- The pieces of a text with white space and another text after it are those of both, unless a
quote that is left open in the first is closed in the other. -/
theorem pieces_append (cs : List Char) (hmore : EndsWord more)
    (hclosed : ∀ p ∈ pieces cs, p.isClosed ∨ '"' ∉ more) :
    pieces (cs ++ more) = pieces cs ++ pieces more := by
  induction cs using scan_induction with
  | nil => rw [pieces_nil, List.nil_append, List.nil_append]
  | blank c cs hc ih =>
    rw [pieces_cons_of_isBlank hc] at hclosed ⊢
    rw [List.cons_append, pieces_cons_of_isBlank hc, ih hclosed]
  | piece cs p rest hbegins ih =>
    rw [hbegins.pieces_eq] at hclosed ⊢
    obtain ⟨hp, hrest⟩ := List.forall_mem_cons.mp hclosed
    rw [(hbegins.append hmore hp).pieces_eq, ih hrest, List.cons_append]

/-- The characters of each piece of a text begin with this piece and end with it. -/
theorem begins_of_mem_pieces (hp : p ∈ pieces cs) : Begins p.chars p [] := by
  induction cs using scan_induction with
  | nil => simp at hp
  | blank c cs hc ih => exact ih (pieces_cons_of_isBlank hc cs ▸ hp)
  | piece cs first rest hbegins ih =>
    rw [hbegins.pieces_eq] at hp
    rcases List.mem_cons.mp hp with rfl | hp
    · exact hbegins.alone
    · exact ih hp

/-- The characters of a piece stand in the text. -/
theorem subset_of_mem_pieces (hp : p ∈ pieces cs) : p.chars ⊆ cs := by
  induction cs using scan_induction with
  | nil => simp at hp
  | blank c cs hc ih =>
    exact List.subset_cons_of_subset c (ih (pieces_cons_of_isBlank hc cs ▸ hp))
  | piece cs first rest hbegins ih =>
    rw [hbegins.pieces_eq] at hp
    rw [hbegins.eq_append]
    rcases List.mem_cons.mp hp with rfl | hp
    · exact List.subset_append_left _ _
    · exact List.subset_append_of_subset_right _ (ih hp)

/-- After a piece whose quote is left open no quote stands in a later piece. -/
theorem pairwise_pieces (cs : List Char) :
    (pieces cs).Pairwise fun p q ↦ p.isClosed ∨ '"' ∉ q.chars := by
  induction cs using scan_induction with
  | nil => simp
  | blank c cs hc ih => rwa [pieces_cons_of_isBlank hc]
  | piece cs p rest hbegins ih =>
    rw [hbegins.pieces_eq]
    refine List.pairwise_cons.mpr ⟨fun q hq ↦ ?_, ih⟩
    cases hclosed : p.isClosed with
    | true => exact .inl rfl
    | false => exact .inr fun hmem ↦ hbegins.quote_not_mem hclosed (subset_of_mem_pieces hq hmem)

end Pieces

section Spaced

/-- Words in order with white space between them. -/
inductive Spaced : List (List Char) → List Char → Prop
  | nil : Spaced [] []
  | single (word : List Char) : Spaced [word] word
  | cons {word next gap cs : List Char} {words : List (List Char)} (hne : gap ≠ [])
      (hgap : ∀ c ∈ gap, Unicode.isBlank c) (h : Spaced (next :: words) cs) :
      Spaced (word :: next :: words) (word ++ (gap ++ cs))

/-- A quote does not stand between words. -/
theorem Spaced.quote_not_mem {words : List (List Char)} {cs : List Char} (h : Spaced words cs)
    (hwords : ∀ word ∈ words, '"' ∉ word) : '"' ∉ cs := by
  induction h with
  | nil => exact List.not_mem_nil
  | single word => exact hwords word List.mem_cons_self
  | cons hne hgap h ih =>
    obtain ⟨hword, hwords⟩ := List.forall_mem_cons.mp hwords
    intro hmem
    rcases List.mem_append.mp hmem with hmem | hmem
    · exact hword hmem
    · rcases List.mem_append.mp hmem with hmem | hmem
      · exact absurd (hgap _ hmem) (by decide)
      · exact ih hwords hmem

/-- White space in front of a text has no part in its pieces. -/
theorem pieces_append_of_isBlank {gap : List Char} (hgap : ∀ c ∈ gap, Unicode.isBlank c)
    (cs : List Char) : pieces (gap ++ cs) = pieces cs := by
  induction gap with
  | nil => rfl
  | cons c gap ih =>
    obtain ⟨hc, hgap⟩ := List.forall_mem_cons.mp hgap
    rw [List.cons_append, pieces_cons_of_isBlank hc, ih hgap]

/-- A quote that a piece leaves open is not closed in white space and other pieces after it. -/
theorem Spaced.isClosed_or_quote_not_mem {p : Piece} {ps : List Piece} {gap cs : List Char}
    (h : Spaced (ps.map Piece.chars) cs) (hgap : ∀ c ∈ gap, Unicode.isBlank c)
    (hlater : ∀ q ∈ ps, p.isClosed ∨ '"' ∉ q.chars) : p.isClosed ∨ '"' ∉ gap ++ cs := by
  cases hclosed : p.isClosed with
  | true => exact .inl rfl
  | false =>
    have hcs : '"' ∉ cs := by
      apply h.quote_not_mem
      intro word hword
      obtain ⟨q, hq, rfl⟩ := List.mem_map.mp hword
      exact (hlater q hq).resolve_left (by simp [hclosed])
    refine .inr fun hmem ↦ ?_
    rcases List.mem_append.mp hmem with hmem | hmem
    · exact absurd (hgap _ hmem) (by decide)
    · exact hcs hmem

/-- Pieces with white space between them are the pieces of the text, if each is read alone as it
is and no quote that one leaves open is closed in a later one. -/
theorem pieces_of_spaced {ps : List Piece} {cs : List Char} (h : Spaced (ps.map Piece.chars) cs)
    (halone : ∀ p ∈ ps, Begins p.chars p [])
    (hclosed : ps.Pairwise fun p q ↦ p.isClosed ∨ '"' ∉ q.chars) : pieces cs = ps := by
  induction ps generalizing cs with
  | nil =>
    cases h
    exact pieces_nil
  | cons p ps ih =>
    obtain ⟨hbegins, halone⟩ := List.forall_mem_cons.mp halone
    obtain ⟨hlater, hclosed⟩ := List.pairwise_cons.mp hclosed
    have hp : pieces p.chars = [p] := by rw [hbegins.pieces_eq, pieces_nil]
    cases ps with
    | nil =>
      cases h
      exact hp
    | cons q ps =>
      cases h with
      | @cons _ _ gap cs _ hne hgap h =>
        have hlast : Spaced ((q :: ps).map Piece.chars) cs := h
        have hrest : pieces (gap ++ cs) = q :: ps := by
          rw [pieces_append_of_isBlank hgap, ih hlast halone hclosed]
        have hopen : ∀ first ∈ pieces p.chars, first.isClosed ∨ '"' ∉ gap ++ cs := by
          rw [hp, List.forall_mem_singleton]
          exact hlast.isClosed_or_quote_not_mem hgap hlater
        rw [pieces_append p.chars (endsWord_append hne hgap cs) hopen, hp, hrest,
          List.singleton_append]

end Spaced

end MailSearch.Query
