import MailSearch.Proofs.Query.Piece

/-!
# Rounds of the scan

The scan of a text can be followed by places: an index runs over the text, past white space by one
place, and in a round from the beginning of a word to the place where the scan goes on. The closing
quote of a value is looked for in the whole text. So a round may stop behind several words, or
before the end of the word that it began with, and then the index goes back. What grows from round
to round is the place where a round starts. Therefore the scan ends, and its rounds are the pieces
of the text in their places: they follow one another and leave out nothing but white space.
-/

namespace MailSearch.Query

section Places

/-- A round of the scan: the place where it starts, the place where the word ends that begins
there, the place where the scan goes on, and what the characters before that place say. -/
structure Round where
  start : Nat
  wordEnd : Nat
  stop : Nat
  reading : Reading
  deriving DecidableEq, Repr

namespace Round

/-- The characters of a text that a round takes. -/
def chars (cs : List Char) (r : Round) : List Char := cs.extract r.start r.stop

/-- The piece of a text that a round takes. -/
def piece (cs : List Char) (r : Round) : Piece := ⟨r.chars cs, r.reading⟩

/-- Whether a round takes the character at a place. -/
def covers (place : Nat) (r : Round) : Bool := r.start ≤ place && place < r.stop

end Round

/-- The place where the word ends that begins at a place. -/
def wordEndAt (cs : List Char) (start : Nat) : Nat :=
  start + ((cs.drop start).takeWhile isInk).length

/-- The phrase behind the quote at a place, and the place behind its closing quote. -/
def quotedAt? (cs : List Char) (quote : Nat) : Option (List Char × Nat) :=
  ((cs.drop (quote + 1)).idxOf? '"').map fun length ↦
    (cs.extract (quote + 1) (quote + 1 + length), quote + 1 + length + 1)

/-- Where the scan goes on after it has read the word between two places, and what the characters
before that place say. It goes on behind the word, or behind the closing quote of a field's value;
of a value that has no closing quote the quotes are left out. -/
def readBetween (cs : List Char) (start wordEnd : Nat) : Nat × Reading :=
  let word := cs.extract start wordEnd
  match splitColon word with
  | (name, some value) =>
      match Field.ofName? (keyOf name) with
      | some field =>
          if value.head? = some '"' then
            match quotedAt? cs (start + name.length + 1) with
            | some (phrase, stop) => (stop, readField field phrase)
            | none => (wordEnd, readField field (value.filter (· ≠ '"')))
          else (wordEnd, readField field value)
      | none => (wordEnd, readWord word)
  | (_, none) => (wordEnd, readWord word)

/-- The round that starts at a place where a word begins. -/
def roundAt (cs : List Char) (start : Nat) : Round :=
  let wordEnd := wordEndAt cs start
  let found := readBetween cs start wordEnd
  ⟨start, wordEnd, found.1, found.2⟩

/-- How far the scan of a text is: the index, and the rounds behind it in order. -/
structure Progress where
  index : Nat := 0
  rounds : List Round := []
  deriving DecidableEq, Repr

namespace Progress

/-- One pass of the scan's loop, which is left when the index is behind the last character. -/
def next? (cs : List Char) (s : Progress) : Option Progress :=
  cs[s.index]?.map fun c ↦
    if Unicode.isBlank c then { s with index := s.index + 1 }
    else
      let round := roundAt cs s.index
      ⟨round.stop, s.rounds ++ [round]⟩

/-- A number of passes of the scan's loop, unless it is left before. -/
def run? (cs : List Char) : Nat → Progress → Option Progress
  | 0, s => some s
  | passes + 1, s => (s.next? cs).bind (run? cs passes)

end Progress

end Places

section OneRound

variable {cs word rest : List Char} {start : Nat} {c : Char} {p : Piece}

/-- The closing quote is looked for among the characters behind the quote at a place. -/
theorem quotedAt?_eq (cs : List Char) (quote : Nat) :
    quotedAt? cs quote =
      (phrase? (cs.drop (quote + 1))).map fun phrase ↦ (phrase, quote + phrase.length + 2) := by
  by_cases hmem : '"' ∈ cs.drop (quote + 1)
  · obtain ⟨phrase, rest, hafter, hphrase⟩ := List.eq_append_cons_of_mem hmem
    have hindex : (cs.drop (quote + 1)).idxOf? '"' = some phrase.length := by
      have hnone : phrase.findIdx? (· == '"') = none := List.idxOf?_eq_none_iff.mpr hphrase
      rw [hafter, List.idxOf?, List.findIdx?_append, hnone, List.findIdx?_cons]
      simp
    have htake : cs.extract (quote + 1) (quote + 1 + phrase.length) = phrase := by
      rw [List.extract_eq_take_drop, Nat.add_sub_cancel_left, hafter, List.take_left]
    have hstop : quote + 1 + phrase.length + 1 = quote + phrase.length + 2 := by omega
    rw [quotedAt?, hindex, Option.map_some, htake, hafter, phrase?_append hphrase, hstop,
      Option.map_some]
  · rw [quotedAt?, List.idxOf?_eq_none_iff.mpr hmem, phrase?_eq_none hmem]
    rfl

/-- The word that begins at a place. -/
theorem extract_wordEndAt (cs : List Char) (start : Nat) :
    cs.extract start (wordEndAt cs start) = (cs.drop start).takeWhile isInk := by
  rw [List.extract_eq_take_drop, wordEndAt, Nat.add_sub_cancel_left]
  exact (List.prefix_iff_eq_take.mp (List.takeWhile_prefix isInk)).symm

/-- A word is read at its place as it is read in front of what is left of the text. -/
theorem readBetween_eq_readPiece (h : cs.drop start = word ++ rest) :
    readBetween cs start (start + word.length) =
      (start + (readPiece word rest).1, (readPiece word rest).2) := by
  have hword : cs.extract start (start + word.length) = word := by
    rw [List.extract_eq_take_drop, Nat.add_sub_cancel_left, h, List.take_left]
  unfold readBetween readPiece
  simp only [hword]
  rcases hsplit : splitColon word with ⟨name, _ | value⟩
  · rfl
  · dsimp only
    cases Field.ofName? (keyOf name) with
    | none => rfl
    | some field =>
      dsimp only
      split
      · next hquote =>
        obtain ⟨after, rfl⟩ := List.head?_eq_some_iff.mp hquote
        obtain ⟨rfl, -⟩ := eq_of_splitColon hsplit
        have hafter : cs.drop (start + name.length + 1 + 1) = after ++ rest := by
          rw [Nat.add_assoc, Nat.add_assoc, ← List.drop_drop, h, List.append_assoc,
            List.drop_length_add_append]
          rfl
        rw [quotedAt?_eq, hafter]
        by_cases hmem : '"' ∈ after ++ rest
        · obtain ⟨phrase, later, hphrase, hquotes⟩ := List.eq_append_cons_of_mem hmem
          simp only [hphrase, phrase?_append hquotes, Option.map_some, Prod.mk.injEq, and_true]
          omega
        · -- no other quote follows that is to be left out
          have hvalue : ('"' :: after).filter (· ≠ '"') = after := by
            rw [List.filter_cons_of_neg (by simp), List.filter_eq_self]
            intro c hc
            exact decide_eq_true fun heq ↦ hmem (heq ▸ List.mem_append_left rest hc)
          simp only [phrase?_eq_none hmem, Option.map_none, hvalue]
      · next hquote =>
        split
        · exact absurd rfl hquote
        · next hfield _ =>
          obtain rfl := Option.some.inj hfield
          rfl
        · next hfield => exact absurd hfield (Option.some_ne_none field)

/-- A round takes the piece that the text begins with from its start on. -/
theorem roundAt_eq (h : Begins (cs.drop start) p rest) :
    roundAt cs start = ⟨start, wordEndAt cs start, start + p.chars.length, p.reading⟩ := by
  have htext : cs.drop start =
      (cs.drop start).takeWhile isInk ++ (cs.drop start).dropWhile isInk :=
    List.takeWhile_append_dropWhile.symm
  have hread := readBetween_eq_readPiece htext
  rw [h.readPiece_eq] at hread
  rw [roundAt, wordEndAt]
  simp only [hread]

/-- From a place where a word begins on a text begins with a piece. -/
theorem exists_begins_drop (hc : cs[start]? = some c) (hink : isInk c) :
    ∃ p rest, Begins (cs.drop start) p rest := by
  obtain ⟨hlt, rfl⟩ := List.getElem?_eq_some_iff.mp hc
  rw [List.drop_eq_getElem_cons hlt]
  exact exists_begins hink _

/-- A round takes characters, and none behind the end of the text. -/
theorem stop_roundAt (hc : cs[start]? = some c) (hink : isInk c) :
    start < (roundAt cs start).stop ∧ (roundAt cs start).stop ≤ cs.length := by
  obtain ⟨p, rest, h⟩ := exists_begins_drop hc hink
  have hpos := List.length_pos_iff.mpr h.chars_ne_nil
  have hlength := congrArg List.length h.eq_append
  rw [List.length_drop, List.length_append] at hlength
  rw [roundAt_eq h]
  dsimp only
  omega

/-- A round takes the piece that the text begins with from its start on, and the scan goes on with
what follows the piece. -/
theorem begins_roundAt (hc : cs[start]? = some c) (hink : isInk c) :
    Begins (cs.drop start) ((roundAt cs start).piece cs) (cs.drop (roundAt cs start).stop) := by
  obtain ⟨p, rest, h⟩ := exists_begins_drop hc hink
  have hchars : cs.extract start (start + p.chars.length) = p.chars := by
    rw [List.extract_eq_take_drop, Nat.add_sub_cancel_left, h.eq_append, List.take_left]
  have hrest : cs.drop (start + p.chars.length) = rest := by
    rw [← List.drop_drop, h.eq_append, List.drop_left]
  rw [roundAt_eq h, Round.piece, Round.chars, hchars, hrest]
  exact h

/-- Whether a word begins with a field operator and a phrase in quotes, and goes on behind the
closing quote. -/
def GoesOnBehindQuote (word : List Char) : Prop :=
  ∃ name field phrase more, Names name field ∧ '"' ∉ phrase ∧ more ≠ [] ∧
    word = name ++ ':' :: '"' :: (phrase ++ '"' :: more)

/-- The piece that a text begins with is shorter than the first word just if the word goes on
behind a closing quote. -/
theorem Begins.length_lt_iff (h : Begins cs p rest) :
    p.chars.length < (cs.takeWhile isInk).length ↔ GoesOnBehindQuote (cs.takeWhile isInk) := by
  have hword : cs.takeWhile isInk <+: cs := List.takeWhile_prefix isInk
  constructor
  · intro hlt
    have hpiece : p.chars <+: cs := ⟨rest, h.eq_append.symm⟩
    obtain ⟨more, hmore⟩ := List.prefix_of_prefix_length_le hpiece hword hlt.le
    have hne : more ≠ [] := by
      rintro rfl
      rw [← hmore, List.append_nil] at hlt
      exact lt_irrefl _ hlt
    cases h with
    | @quoted name phrase field hname hphrase rest =>
      refine ⟨name, field, phrase, more, hname, hphrase, hne, ?_⟩
      rw [← hmore]
      simp
    | @bare word rest hne hink hend hopen =>
      rw [hend.takeWhile_append, List.takeWhile_eq_self_iff.mpr hink] at hlt
      exact absurd hlt (lt_irrefl _)
  · rintro ⟨name, field, phrase, more, hname, hphrase, hne, heq⟩
    obtain ⟨later, hlater⟩ := hword
    have hcs : name ++ ':' :: '"' :: (phrase ++ '"' :: (more ++ later)) = cs := by
      rw [← hlater, heq]
      simp
    have hbegins := hcs ▸ Begins.quoted hname hphrase (more ++ later)
    -- the scan finds one piece at the beginning of the text, so this is the piece
    have hlength := congrArg Prod.fst (h.readPiece_eq.symm.trans hbegins.readPiece_eq)
    have hpos := List.length_pos_iff.mpr hne
    dsimp only at hlength
    rw [hlength, heq]
    simp only [List.length_append, List.length_cons, List.length_nil]
    omega

/-- A round stops before its word ends just if the word goes on behind a closing quote. -/
theorem stop_lt_wordEnd_iff (hc : cs[start]? = some c) (hink : isInk c) :
    (roundAt cs start).stop < (roundAt cs start).wordEnd ↔
      GoesOnBehindQuote (cs.extract start (roundAt cs start).wordEnd) := by
  obtain ⟨p, rest, h⟩ := exists_begins_drop hc hink
  rw [roundAt_eq h]
  dsimp only
  rw [extract_wordEndAt, ← h.length_lt_iff]
  exact Nat.add_lt_add_iff_left

end OneRound

section Tiling

variable {cs : List Char} {place : Nat} {c : Char} {r : Round} {rounds : List Round}

/-- Rounds take the characters of a text before a place, one round after the other, and leave out
nothing but white space. -/
structure Tiles (cs : List Char) (place : Nat) (rounds : List Round) : Prop where
  nonempty : ∀ r ∈ rounds, r.start < r.stop
  inside : ∀ r ∈ rounds, r.stop ≤ place
  ordered : rounds.Pairwise fun r next ↦ r.stop ≤ next.start
  once : ∀ i c, i < place → cs[i]? = some c → isInk c → rounds.countP (Round.covers i) = 1

/-- There is nothing to take before the first place. -/
theorem tiles_zero (cs : List Char) : Tiles cs 0 [] where
  nonempty := nofun
  inside := nofun
  ordered := .nil
  once _ _ hi := absurd hi (Nat.not_lt_zero _)

/-- White space need not be taken. -/
theorem Tiles.blank (h : Tiles cs place rounds) (hc : cs[place]? = some c)
    (hblank : Unicode.isBlank c) : Tiles cs (place + 1) rounds where
  nonempty := h.nonempty
  inside r hr := Nat.le_succ_of_le (h.inside r hr)
  ordered := h.ordered
  once i d hi hd hink := by
    rcases Nat.lt_succ_iff_lt_or_eq.mp hi with hi | rfl
    · exact h.once i d hi hd hink
    · obtain rfl := Option.some.inj (hc.symm.trans hd)
      simp [isInk, hblank] at hink

/-- A round that starts at the place takes the characters behind it. -/
theorem Tiles.concat (h : Tiles cs r.start rounds) (hr : r.start < r.stop) :
    Tiles cs r.stop (rounds ++ [r]) where
  nonempty := List.forall_mem_append.mpr ⟨h.nonempty, List.forall_mem_singleton.mpr hr⟩
  inside := by
    refine List.forall_mem_append.mpr ⟨fun s hs ↦ ?_, List.forall_mem_singleton.mpr le_rfl⟩
    exact (h.inside s hs).trans hr.le
  ordered := by
    refine List.pairwise_append.mpr ⟨h.ordered, List.pairwise_singleton _ _, fun s hs ↦ ?_⟩
    exact List.forall_mem_singleton.mpr (h.inside s hs)
  once i c hi hc hink := by
    rw [List.countP_append, List.countP_singleton]
    by_cases hbefore : i < r.start
    · have hlast : r.covers i = false := by simp [Round.covers, Nat.not_le_of_lt hbefore]
      rw [h.once i c hbefore hc hink, hlast]
      rfl
    · have hrounds : rounds.countP (Round.covers i) = 0 := by
        refine List.countP_eq_zero.mpr fun s hs hcovers ↦ hbefore ?_
        have hinside := h.inside s hs
        simp only [Round.covers, Bool.and_eq_true, decide_eq_true_eq] at hcovers
        omega
      have hlast : r.covers i = true := by simp [Round.covers, hi, Nat.le_of_not_lt hbefore]
      rw [hrounds, hlast]
      rfl

/-- Every round starts to the right of those before it. -/
theorem Tiles.pairwise_start (h : Tiles cs place rounds) :
    rounds.Pairwise fun r next ↦ r.start < next.start := by
  refine h.ordered.imp_of_mem fun hr _ hle ↦ ?_
  exact (h.nonempty _ hr).trans_le hle

end Tiling

section Passes

namespace Progress

variable {cs : List Char} {s t : Progress} {passes : Nat}

/-- A pass goes past white space, or through the round that starts at the index. -/
theorem next?_eq_some (h : s.next? cs = some t) :
    ∃ c, cs[s.index]? = some c ∧
      (Unicode.isBlank c ∧ t = ⟨s.index + 1, s.rounds⟩ ∨
        isInk c ∧ t = ⟨(roundAt cs s.index).stop, s.rounds ++ [roundAt cs s.index]⟩) := by
  obtain ⟨c, hc, rfl⟩ := Option.map_eq_some_iff.mp h
  refine ⟨c, hc, ?_⟩
  cases hblank : Unicode.isBlank c with
  | true => exact .inl ⟨rfl, rfl⟩
  | false => exact .inr ⟨by simp [isInk, hblank], rfl⟩

/-- The loop is left behind the last character. -/
theorem next?_eq_none_iff : s.next? cs = none ↔ cs.length ≤ s.index := by
  rw [next?, Option.map_eq_none_iff, List.getElem?_eq_none_iff]

/-- Every pass goes to the right, though not past the end of the text. -/
theorem index_next? (h : s.next? cs = some t) : s.index < t.index ∧ t.index ≤ cs.length := by
  obtain ⟨c, hc, ⟨-, rfl⟩ | ⟨hink, rfl⟩⟩ := next?_eq_some h
  · exact ⟨Nat.lt_succ_self _, (List.getElem?_eq_some_iff.mp hc).1⟩
  · exact stop_roundAt hc hink

/-- Passes lead to the right by one place each at least. -/
theorem index_run? (h : s.run? cs passes = some t) : s.index + passes ≤ t.index := by
  induction passes generalizing s with
  | zero => exact (congrArg index (Option.some.inj h)).le
  | succ passes ih =>
    obtain ⟨next, hnext, hrun⟩ := Option.bind_eq_some_iff.mp h
    have hlt := (index_next? hnext).1
    have hle := ih hrun
    omega

/-- The loop is left after some passes, wherever it is. -/
theorem exists_run (cs : List Char) (s : Progress) :
    ∃ passes last, s.run? cs passes = some last ∧ last.next? cs = none := by
  -- by induction on how much of the text lies to the right of the index
  induction hn : cs.length - s.index using Nat.strongRecOn generalizing s with
  | ind n ih =>
    cases hnext : s.next? cs with
    | none => exact ⟨0, s, rfl, hnext⟩
    | some t =>
      obtain ⟨hlt, hle⟩ := index_next? hnext
      obtain ⟨passes, last, hrun, hlast⟩ := ih (cs.length - t.index) (by omega) t rfl
      exact ⟨passes + 1, last, by rw [run?, hnext, Option.bind_some, hrun], hlast⟩

/-- What holds between two passes: the rounds behind the index, each from the beginning of a word
on, take the characters before it, and with the pieces of what is left of the text they give the
pieces of the text. -/
structure Sound (cs : List Char) (s : Progress) : Prop where
  index_le : s.index ≤ cs.length
  begun : ∀ r ∈ s.rounds, ∃ c, cs[r.start]? = some c ∧ isInk c ∧ r = roundAt cs r.start
  tiles : Tiles cs s.index s.rounds
  pieces_eq : pieces cs = s.rounds.map (Round.piece cs) ++ pieces (cs.drop s.index)

/-- It holds before the first pass. -/
theorem sound_start (cs : List Char) : Sound cs {} where
  index_le := Nat.zero_le _
  begun := nofun
  tiles := tiles_zero cs
  pieces_eq := rfl

/-- It holds after a pass if it did before. -/
theorem Sound.next (hs : Sound cs s) (h : s.next? cs = some t) : Sound cs t := by
  have hindex := (index_next? h).2
  obtain ⟨c, hc, ⟨hblank, rfl⟩ | ⟨hink, rfl⟩⟩ := next?_eq_some h
  · refine ⟨hindex, hs.begun, hs.tiles.blank hc hblank, ?_⟩
    obtain ⟨hlt, rfl⟩ := List.getElem?_eq_some_iff.mp hc
    rw [hs.pieces_eq, List.drop_eq_getElem_cons hlt, pieces_cons_of_isBlank hblank]
  · refine ⟨hindex, ?_, hs.tiles.concat (stop_roundAt hc hink).1, ?_⟩
    · refine List.forall_mem_append.mpr ⟨hs.begun, List.forall_mem_singleton.mpr ?_⟩
      exact ⟨c, hc, hink, rfl⟩
    · rw [hs.pieces_eq, (begins_roundAt hc hink).pieces_eq, List.map_append, List.map_singleton,
        List.append_assoc, List.singleton_append]

/-- It holds after any passes if it did before. -/
theorem Sound.run (hs : Sound cs s) (h : s.run? cs passes = some t) : Sound cs t := by
  induction passes generalizing s with
  | zero => exact Option.some.inj h ▸ hs
  | succ passes ih =>
    obtain ⟨next, hnext, hrun⟩ := Option.bind_eq_some_iff.mp h
    exact ih (hs.next hnext) hrun

end Progress

end Passes

/-- The free text of the pieces that rounds take is that of the rounds. -/
theorem freeText_rounds (cs : List Char) (rounds : List Round) :
    freeText (rounds.map (Round.piece cs)) = " ".intercalate
      ((rounds.filter (·.reading = .word)).map fun r ↦ String.ofList (r.chars cs)) := by
  rw [freeText, List.filter_map, List.map_map]
  rfl

/-- The scan of a text ends after at most one pass of its loop for each character, as every pass,
also from a place that the scan does not reach, leads to the right. Each round starts to the right
of the one before, although some stop before their word ends: just those whose word goes on behind a
closing quote. The rounds take the pieces of the text, in order and each character once that is not
white space. Those that are free text, with single spaces between them, are the text of the
query. -/
theorem rounds_tile_text :
    (∀ text : String, ∃ passes last,
      passes ≤ text.toList.length ∧
      Progress.run? text.toList passes {} = some last ∧
      last.next? text.toList = none ∧
      last.rounds.Pairwise (fun r next ↦ r.start < next.start) ∧
      (∀ r ∈ last.rounds, r.stop < r.wordEnd ↔
        GoesOnBehindQuote (text.toList.extract r.start r.wordEnd)) ∧
      Tiles text.toList text.toList.length last.rounds ∧
      last.rounds.map (Round.piece text.toList) = pieces text.toList ∧
      (ofText text).text = " ".intercalate
        ((last.rounds.filter (·.reading = .word)).map fun r ↦
          String.ofList (r.chars text.toList))) ∧
    (∀ cs (s t : Progress), s.next? cs = some t → s.index < t.index) ∧
    ∃ cs last, Progress.run? cs 1 {} = some last ∧ ∃ r ∈ last.rounds, r.stop < r.wordEnd := by
  refine ⟨fun text ↦ ?_, fun cs s t h ↦ (Progress.index_next? h).1, ?_⟩
  · set cs := text.toList with hcs
    obtain ⟨passes, last, hrun, hlast⟩ := Progress.exists_run cs {}
    have hsound := (Progress.sound_start cs).run hrun
    have hindex : last.index = cs.length :=
      le_antisymm hsound.index_le (Progress.next?_eq_none_iff.mp hlast)
    have hpasses : passes ≤ cs.length := by
      have hright := Progress.index_run? hrun
      rwa [Nat.zero_add, hindex] at hright
    have htiles : Tiles cs cs.length last.rounds := hindex ▸ hsound.tiles
    have hback : ∀ r ∈ last.rounds, r.stop < r.wordEnd ↔
        GoesOnBehindQuote (cs.extract r.start r.wordEnd) := by
      intro r hr
      obtain ⟨c, hc, hink, heq⟩ := hsound.begun r hr
      have hiff := stop_lt_wordEnd_iff hc hink
      rwa [← heq] at hiff
    have hpieces : last.rounds.map (Round.piece cs) = pieces cs := by
      rw [hsound.pieces_eq, hindex, List.drop_length, pieces_nil, List.append_nil]
    have hwords : (ofText text).text = freeText (pieces cs) := rfl
    rw [← hpieces, freeText_rounds] at hwords
    exact ⟨passes, last, hpasses, hrun, hlast, htiles.pairwise_start, hback, htiles, hpieces,
      hwords⟩
  · exact ⟨"from:\"a\"b".toList, _, rfl, by decide +kernel⟩

end MailSearch.Query
