import MailSearch.Disk
import MailSearch.Proofs.Json.Scalars

/-!
# Written documents are read back

A plain value is made of texts, flags, integers within the limit, nulls, lists and objects.
Written on one line it is read back as it was: what is written for a value is a run of
characters of its own, wherever the value stands, and the reader takes just that run.
Both directions are stated together, since what the reader needs to know of the characters
is how they were written.
-/

namespace MailSearch.Json

/-- A value as a document holds it: no tuples, dates or floating-point numbers, integers
within the limit, distinct keys, and at most `depth` lists and objects inside one another. -/
inductive Plain : Nat → Value → Prop where
  | null {depth : Nat} : Plain depth .null
  | bool {depth : Nat} (b : Bool) : Plain depth (.bool b)
  | int {depth : Nat} {n : Int} (h : hasTooManyDigits n = false) : Plain depth (.int n)
  | text {depth : Nat} (s : String) : Plain depth (.text s)
  | list {depth : Nat} {items : List Value} (h : ∀ item ∈ items, Plain depth item) :
      Plain (depth + 1) (.list items)
  | object {depth : Nat} {fields : List (String × Value)} (keys : (fields.map Prod.fst).Nodup)
      (h : ∀ field ∈ fields, Plain depth field.2) : Plain (depth + 1) (.object fields)

/-- A list of texts is plain. -/
theorem plain_texts {depth : Nat} (xs : List String) : Plain (depth + 1) (.texts xs) := by
  apply Plain.list
  intro item hitem
  obtain ⟨s, -, rfl⟩ := List.mem_map.mp hitem
  exact .text s

/-- Whether a document or an item may begin with a character. -/
def isStart (c : Char) : Bool := !isSpace c && c ≠ ']' && c ≠ '\uFEFF'

/-- What is written for a value on one line, and read back as the value within limits. -/
structure Spells (limits : Limits) (depth : Nat) (v : Value) (cs : List Char) : Prop where
  /-- the pieces of the value amount to the characters -/
  writes : ∀ level before done more,
    written done (pieces .compact level before v ++ more) =
      written (done ++ (before ++ String.ofList cs)) more
  /-- the characters are read as the value -/
  reads : ∀ inside fuel rest offset, exceeds (inside + depth) limits.depth = false →
    cs.length ≤ fuel → isEnd rest →
      readValue limits inside fuel ⟨cs ++ rest, offset⟩ = .ok (v, ⟨rest, offset + cs.length⟩)
  /-- the first character is no space and ends nothing -/
  starts : ∃ c more, cs = c :: more ∧ isStart c
  /-- no character is a carriage return -/
  oneLine : '\r' ∉ cs

section Scalar

variable {limits : Limits} {depth : Nat}

private theorem exists_fuel {n fuel : Nat} (h : n + 1 ≤ fuel) : ∃ less, fuel = less + 1 :=
  ⟨fuel - 1, by omega⟩

private theorem spells_word {v : Value} {word : String} {c : Char} {cs : List Char}
    (hword : word.toList = c :: cs)
    (hpieces : ∀ level before, pieces .compact level before v = [.ok (before ++ word)])
    (hreads : ∀ inside fuel rest offset,
      readValue limits inside (fuel + 1) ⟨word.toList ++ rest, offset⟩ =
        .ok (v, ⟨rest, offset + word.toList.length⟩))
    (hstart : isStart c) (hline : '\r' ∉ word.toList) : Spells limits depth v word.toList where
  writes level before done more := by
    rw [hpieces, String.ofList_toList]
    rfl
  reads inside fuel rest offset _ hfuel _ := by
    rw [hword, List.length_cons] at hfuel
    obtain ⟨fuel, rfl⟩ := exists_fuel hfuel
    exact hreads inside fuel rest offset
  starts := ⟨c, cs, hword, hstart⟩
  oneLine := hline

/-- Null is spelled as a word. -/
theorem spells_null : Spells limits depth .null "null".toList :=
  spells_word rfl (fun _ _ ↦ rfl) (fun _ _ _ _ ↦ rfl) (by decide) (by decide)

/-- A flag is spelled as a word. -/
theorem spells_bool (b : Bool) :
    Spells limits depth (.bool b) (if b then "true" else "false").toList := by
  cases b with
  | true => exact spells_word rfl (fun _ _ ↦ rfl) (fun _ _ _ _ ↦ rfl) (by decide) (by decide)
  | false => exact spells_word rfl (fun _ _ ↦ rfl) (fun _ _ _ _ ↦ rfl) (by decide) (by decide)

/-- The characters of a text in quotes. -/
def quotedChars (s : String) : List Char :=
  '"' :: (s.toList.flatMap (writeChar false) ++ ['"'])

private theorem oneLine_quotedChars (s : String) : '\r' ∉ quotedChars s := by
  simp only [quotedChars, List.mem_cons, List.mem_append, List.mem_flatMap, List.not_mem_nil,
    or_false, not_or, not_exists, not_and]
  exact ⟨by decide, fun c _ ↦ not_mem_writeChar c, by decide⟩

private theorem readText_quotedChars (s : String) (start offset : Nat) (rest : List Char) :
    let inside := s.toList.flatMap (writeChar false) ++ '"' :: rest
    readText start (inside.length + 1) ⟨inside, offset + 1⟩ [] =
      .ok (s, ⟨rest, offset + (quotedChars s).length⟩) := by
  intro inside
  have hfuel : s.toList.length < inside.length + 1 := by
    have hle := length_le_written s.toList
    rw [List.length_append, List.length_cons]
    omega
  have hlength : (quotedChars s).length =
      1 + (s.toList.flatMap (writeChar false)).length + 1 := by
    rw [quotedChars, List.length_cons, List.length_append, List.length_singleton]
    omega
  rw [readText_written start _ (offset + 1) s.toList rest [] hfuel, hlength, List.reverse_nil,
    List.nil_append, String.ofList_toList]
  simp only [Nat.add_assoc]

/-- A text is spelled in quotes. -/
theorem spells_text (s : String) : Spells limits depth (.text s) (quotedChars s) where
  writes level before done more := rfl
  reads inside fuel rest offset _ hfuel _ := by
    obtain ⟨fuel, rfl⟩ := exists_fuel hfuel
    have hrest : quotedChars s ++ rest =
        '"' :: (s.toList.flatMap (writeChar false) ++ '"' :: rest) := by simp [quotedChars]
    rw [hrest, readValue]
    simp only [Cursor.advance, List.drop_succ_cons, List.drop_zero]
    rw [readText_quotedChars]
    rfl
  starts := ⟨'"', _, rfl, by decide⟩
  oneLine := oneLine_quotedChars s

private theorem ne_of_isDigit {c d : Char} (hc : Literal.isDigit c)
    (hd : Literal.isDigit d = false) : c ≠ d := by
  rintro rfl
  simp [hc] at hd

private theorem isStart_digit {c : Char} (hc : Literal.isDigit c) : isStart c := by
  have hne (d : Char) (hd : Literal.isDigit d = false) : c ≠ d := ne_of_isDigit hc hd
  simp [isStart, isSpace, hne ' ' (by decide), hne '\t' (by decide), hne '\n' (by decide),
    hne '\r' (by decide), hne ']' (by decide), hne '\uFEFF' (by decide)]

private theorem readValue_eq_readNumber {c : Char} {more : List Char} {fuel inside offset : Nat}
    (htext : c ≠ '"') (hlist : c ≠ '[') (hobject : c ≠ '\x7b')
    (hword : readWord? ⟨c :: more, offset⟩ = none) :
    readValue limits inside (fuel + 1) ⟨c :: more, offset⟩ =
      readNumber limits ⟨c :: more, offset⟩ := by
  rw [readValue]
  split
  · next h => exact absurd (List.cons.inj h).1 htext
  · next h => exact absurd (List.cons.inj h).1 hlist
  · next h => exact absurd (List.cons.inj h).1 hobject
  · rw [hword]

private theorem oneLine_integerText (n : Int) : '\r' ∉ (integerText n).toList := by
  have hdigits : '\r' ∉ digitsOf n.natAbs := by
    intro h
    exact absurd (isDigit_of_mem_digitsOf h) (by decide)
  rw [integerText, String.toList_ofList]
  split
  · simp [hdigits]
  · exact hdigits

/-- An integer within the limit is spelled by its digits. -/
theorem spells_int (hlimits : exceeds digitLimit limits.digits = false) {n : Int}
    (hn : hasTooManyDigits n = false) : Spells limits depth (.int n) (integerText n).toList where
  writes level before done more := by
    have hfits : ¬ powerOfTen digitLimit ≤ n.natAbs := Nat.not_le.mpr (natAbs_lt_limit hn)
    have hpiece : pieces .compact level before (.int n) = [.ok (before ++ integerText n)] := by
      simp only [pieces, writeInt, Layout.compact]
      rw [if_neg hfits]
    rw [hpiece, String.ofList_toList]
    rfl
  reads inside fuel rest offset _ hfuel hrest := by
    have hword := readWord?_integerText n rest offset
    have hnumber := readNumber_integerText hlimits hn hrest offset
    obtain ⟨c, more, hc, htext | htext⟩ := integerText_toList n
    · have hne (d : Char) (hd : Literal.isDigit d = false) : c ≠ d := ne_of_isDigit hc hd
      rw [htext] at hfuel hword hnumber ⊢
      obtain ⟨fuel, rfl⟩ := exists_fuel hfuel
      rw [← hnumber]
      exact readValue_eq_readNumber (hne '"' rfl) (hne '[' rfl) (hne '\x7b' rfl) hword
    · rw [htext] at hfuel hword hnumber ⊢
      obtain ⟨fuel, rfl⟩ := exists_fuel hfuel
      rw [← hnumber]
      exact readValue_eq_readNumber (by decide) (by decide) (by decide) hword
  starts := by
    obtain ⟨c, more, hc, htext | htext⟩ := integerText_toList n
    · exact ⟨c, more, htext, isStart_digit hc⟩
    · exact ⟨'-', c :: more, htext, by decide⟩
  oneLine := oneLine_integerText n

end Scalar

section Compound

variable {limits : Limits} {depth : Nat}

private theorem skipSpace_of_isSpace_eq_false {c : Char} (hc : isSpace c = false)
    (more : List Char) (offset : Nat) :
    Cursor.skipSpace ⟨c :: more, offset⟩ = ⟨c :: more, offset⟩ := by
  simp [Cursor.skipSpace, hc]

private theorem skipSpace_blank {c : Char} (hc : isSpace c = false) (more : List Char)
    (offset : Nat) : Cursor.skipSpace ⟨' ' :: c :: more, offset⟩ = ⟨c :: more, offset + 1⟩ := by
  have hblank : isSpace ' ' = true := by decide
  simp [Cursor.skipSpace, hc, hblank]

/-- White space is read past in front of a spelling, and none belongs to it. -/
theorem Spells.skipSpace {v : Value} {cs : List Char} (h : Spells limits depth v cs)
    (rest : List Char) (offset : Nat) :
    Cursor.skipSpace ⟨cs ++ rest, offset⟩ = ⟨cs ++ rest, offset⟩ ∧
      Cursor.skipSpace ⟨' ' :: (cs ++ rest), offset⟩ = ⟨cs ++ rest, offset + 1⟩ := by
  obtain ⟨c, more, rfl, hstart⟩ := h.starts
  have hc : isSpace c = false := by
    simp only [isStart, Bool.and_eq_true, Bool.not_eq_true'] at hstart
    exact hstart.1.1
  exact ⟨skipSpace_of_isSpace_eq_false hc _ _, skipSpace_blank hc _ _⟩

/-- What is written for the items of a list behind its first, and read back with the first
item and the end of the list. -/
structure SpellsItems (limits : Limits) (depth : Nat) (items : List Value) (cs : List Char) :
    Prop where
  writes : ∀ level done more,
    written done (itemPieces .compact level items ++ more) = written (done ++ String.ofList cs) more
  reads : ∀ {first chars}, Spells limits depth first chars → ∀ inside fuel rest offset,
    exceeds (inside + depth) limits.depth = false → chars.length + cs.length + 1 ≤ fuel →
      readItems limits inside fuel ⟨chars ++ (cs ++ ']' :: rest), offset⟩ =
        .ok (first :: items, ⟨rest, offset + (chars.length + cs.length + 1)⟩)
  oneLine : '\r' ∉ cs

/-- No items are left to spell. -/
theorem spellsItems_nil : SpellsItems limits depth [] [] where
  writes level done more := by
    rw [String.ofList_nil, String.append_empty]
    rfl
  reads := by
    intro first chars hfirst inside fuel rest offset hdepth hfuel
    obtain ⟨fuel, rfl⟩ := exists_fuel hfuel
    have hread := hfirst.reads inside fuel (']' :: rest) offset hdepth (by omega) rfl
    have hspace := skipSpace_of_isSpace_eq_false (c := ']') rfl rest (offset + chars.length)
    simp only [List.nil_append, readItems, hread, bind, Except.bind, hspace]
    rfl
  oneLine := List.not_mem_nil

/-- An item is spelled behind a comma and in front of the others. -/
theorem spellsItems_cons {item : Value} {items : List Value} {chars cs : List Char}
    (hitem : Spells limits depth item chars) (hitems : SpellsItems limits depth items cs) :
    SpellsItems limits depth (item :: items) (',' :: ' ' :: (chars ++ cs)) where
  writes level done more := by
    have hcomma : String.ofList (',' :: ' ' :: (chars ++ cs)) =
        ", " ++ String.ofList chars ++ String.ofList cs := by
      rw [String.append_assoc, ← String.ofList_append]
      exact @String.ofList_append [',', ' '] _
    rw [itemPieces, List.append_assoc, hitem.writes, hitems.writes, hcomma]
    simp only [String.append_assoc]
    rfl
  reads := by
    intro first before hfirst inside fuel rest offset hdepth hfuel
    simp only [List.length_cons, List.length_append] at hfuel
    obtain ⟨fuel, rfl⟩ := exists_fuel hfuel
    have hread := hfirst.reads inside fuel (',' :: ' ' :: (chars ++ (cs ++ ']' :: rest))) offset
      hdepth (by omega) rfl
    have hcomma := skipSpace_of_isSpace_eq_false (c := ',') rfl
      (' ' :: (chars ++ (cs ++ ']' :: rest))) (offset + before.length)
    have hblank := (hitem.skipSpace (cs ++ ']' :: rest) (offset + before.length + 1)).2
    have hothers := hitems.reads hitem inside fuel rest (offset + before.length + 1 + 1) hdepth
      (by omega)
    have hstop : offset + before.length + 1 + 1 + (chars.length + cs.length + 1) =
        offset + (before.length + (',' :: ' ' :: (chars ++ cs)).length + 1) := by
      simp only [List.length_cons, List.length_append]
      omega
    rw [hstop] at hothers
    simp only [List.cons_append, List.append_assoc, readItems, hread, bind, Except.bind, hcomma,
      Cursor.advance, List.drop_succ_cons, List.drop_zero, hblank, hothers]
    rfl
  oneLine := by
    simp [hitem.oneLine, hitems.oneLine]

/-- The items of a list behind its first are written and read back if each item is. -/
theorem exists_spellsItems {items : List Value}
    (h : ∀ item ∈ items, ∃ cs, Spells limits depth item cs) :
    ∃ cs, SpellsItems limits depth items cs := by
  induction items with
  | nil => exact ⟨[], spellsItems_nil⟩
  | cons item items ih =>
    obtain ⟨chars, hchars⟩ := h item List.mem_cons_self
    obtain ⟨cs, hcs⟩ := ih fun other hother ↦ h other (List.mem_cons_of_mem item hother)
    exact ⟨_, spellsItems_cons hchars hcs⟩

private theorem exceeds_of_le {m n : Nat} {limit : Option Nat} (hmn : m ≤ n)
    (h : exceeds n limit = false) : exceeds m limit = false := by
  cases limit with
  | none => rfl
  | some most =>
    simp only [exceeds, Option.any_some, decide_eq_false_iff_not] at h ⊢
    omega

/-- An empty list is spelled by its brackets. -/
theorem spells_list_nil : Spells limits (depth + 1) (.list []) ['[', ']'] where
  writes level before done more := by
    simp only [pieces, listPieces, List.cons_append, List.nil_append, written, String.append_assoc]
  reads inside fuel rest offset hdepth hfuel _ := by
    obtain ⟨fuel, rfl⟩ := exists_fuel hfuel
    have hinside : exceeds (inside + 1) limits.depth = false := exceeds_of_le (by omega) hdepth
    have hspace := skipSpace_of_isSpace_eq_false (c := ']') rfl rest (offset + 1)
    simp only [List.cons_append, List.nil_append, readValue, Cursor.advance, List.drop_succ_cons,
      List.drop_zero, hspace, hinside, Bool.false_eq_true, ↓reduceIte, List.head?_cons,
      List.length_cons, List.length_nil]
  starts := ⟨'[', _, rfl, by decide⟩
  oneLine := by decide

/-- No spelling begins with a closing bracket. -/
theorem Spells.head?_ne {v : Value} {cs : List Char} (h : Spells limits depth v cs)
    (rest : List Char) : (cs ++ rest).head? ≠ some ']' := by
  obtain ⟨c, more, rfl, hstart⟩ := h.starts
  intro hhead
  simp only [List.cons_append, List.head?_cons, Option.some.injEq] at hhead
  rw [hhead] at hstart
  exact absurd hstart (by decide)

/-- A list is spelled by its first item and the others in brackets. -/
theorem spells_list_cons {item : Value} {items : List Value} {chars cs : List Char}
    (hitem : Spells limits depth item chars) (hitems : SpellsItems limits depth items cs) :
    Spells limits (depth + 1) (.list (item :: items)) ('[' :: (chars ++ (cs ++ [']']))) where
  writes level before done more := by
    have hbracket : String.ofList ('[' :: (chars ++ (cs ++ [']']))) =
        "[" ++ String.ofList chars ++ String.ofList cs ++ "]" := by
      apply String.toList_inj.mp
      simp
    simp only [pieces, listPieces, List.cons_append, List.append_assoc, written]
    rw [hitem.writes, hitems.writes, hbracket]
    simp only [String.append_assoc, List.nil_append, written]
    rfl
  reads inside fuel rest offset hdepth hfuel _ := by
    simp only [List.length_cons, List.length_append, List.length_nil] at hfuel
    obtain ⟨fuel, rfl⟩ := exists_fuel hfuel
    have hinside : exceeds (inside + 1) limits.depth = false := exceeds_of_le (by omega) hdepth
    have hspace := (hitem.skipSpace (cs ++ ']' :: rest) (offset + 1)).1
    have hhead := hitem.head?_ne (cs ++ ']' :: rest)
    have hread := hitems.reads hitem (inside + 1) fuel rest (offset + 1)
      (by rwa [Nat.add_assoc, Nat.add_comm 1]) (by omega)
    have hstop : offset + 1 + (chars.length + cs.length + 1) =
        offset + ('[' :: (chars ++ (cs ++ [']']))).length := by
      simp only [List.length_cons, List.length_append, List.length_nil]
      omega
    rw [hstop] at hread
    simp only [List.cons_append, List.append_assoc, List.nil_append, readValue, Cursor.advance,
      List.drop_succ_cons, List.drop_zero, hspace, hinside, Bool.false_eq_true, ↓reduceIte,
      hhead, hread, bind, Except.bind]
    rfl
  starts := ⟨'[', _, rfl, by decide⟩
  oneLine := by
    simp [hitem.oneLine, hitems.oneLine]

/-- The characters of a key and the colon behind it. -/
def keyChars (key : String) : List Char := quotedChars key ++ [':', ' ']

/-- What is written for the fields of an object behind its first, and read back with the
first field and the end of the object, after those that have been read. -/
structure SpellsFields (limits : Limits) (depth : Nat) (fields : List (String × Value))
    (cs : List Char) : Prop where
  writes : ∀ level done more,
    written done (fieldPieces .compact level ", " fields ++ more) =
      written (done ++ String.ofList cs) more
  reads : ∀ {key first chars}, Spells limits depth first chars →
    ∀ inside fuel rest offset done, exceeds (inside + depth) limits.depth = false →
      ((done ++ (key, first) :: fields).map Prod.fst).Nodup →
      (keyChars key).length + chars.length + cs.length + 1 ≤ fuel →
        readFields limits inside fuel
            ⟨keyChars key ++ (chars ++ (cs ++ '\x7d' :: rest)), offset⟩ done =
          .ok (done ++ (key, first) :: fields,
            ⟨rest, offset + ((keyChars key).length + chars.length + cs.length + 1)⟩)
  oneLine : '\r' ∉ cs

private theorem setField_new {key : String} {value : Value} {fields : List (String × Value)}
    (h : key ∉ fields.map Prod.fst) :
    Value.setField key value fields = fields ++ [(key, value)] := by
  induction fields with
  | nil => rfl
  | cons field fields ih =>
    obtain ⟨other, old⟩ := field
    simp only [List.map_cons, List.mem_cons, not_or] at h
    rw [Value.setField, if_neg (Ne.symm h.1), ih h.2, List.cons_append]

/-- A field is read up to the brace or comma behind its value. -/
theorem readFields_field {key : String} {first : Value} {chars : List Char}
    (hfirst : Spells limits depth first chars) {inside : Nat} (fuel : Nat) {c : Char}
    (more : List Char) (offset : Nat) {done : List (String × Value)}
    (hdepth : exceeds (inside + depth) limits.depth = false) (hc : c = '\x7d' ∨ c = ',')
    (hkey : key ∉ done.map Prod.fst) (hfuel : chars.length ≤ fuel) :
    let stop := offset + ((keyChars key).length + chars.length)
    readFields limits inside (fuel + 1) ⟨keyChars key ++ (chars ++ c :: more), offset⟩ done =
      if c = '\x7d' then .ok (done ++ [(key, first)], ⟨more, stop + 1⟩)
      else readFields limits inside fuel (Cursor.skipSpace ⟨more, stop + 1⟩)
        (done ++ [(key, first)]) := by
  intro stop
  have hchars : keyChars key ++ (chars ++ c :: more) =
      '"' :: (key.toList.flatMap (writeChar false) ++
        '"' :: (':' :: ' ' :: (chars ++ c :: more))) := by
    simp [keyChars, quotedChars]
  have hread := readText_quotedChars key offset offset (':' :: ' ' :: (chars ++ c :: more))
  have hcolon := skipSpace_of_isSpace_eq_false (c := ':') rfl (' ' :: (chars ++ c :: more))
    (offset + (quotedChars key).length)
  have hblank := (hfirst.skipSpace (c :: more) (offset + (quotedChars key).length + 1)).2
  have hvalue := hfirst.reads inside fuel (c :: more)
    (offset + (quotedChars key).length + 1 + 1) hdepth hfuel
    (by rcases hc with rfl | rfl <;> rfl)
  have hstop : offset + (quotedChars key).length + 1 + 1 + chars.length = stop := by
    simp only [stop, keyChars, List.length_append, List.length_cons, List.length_nil]
    omega
  have hspace := skipSpace_of_isSpace_eq_false (c := c)
    (by rcases hc with rfl | rfl <;> rfl) more stop
  rw [hstop] at hvalue
  rw [hchars, readFields]
  simp only [Cursor.advance, List.drop_succ_cons, List.drop_zero, hread, bind, Except.bind,
    hcolon, hblank, hvalue, hspace, setField_new hkey]
  rcases hc with rfl | rfl <;> rfl

private theorem skipSpace_keyChars (key : String) (rest : List Char) (offset : Nat) :
    Cursor.skipSpace ⟨keyChars key ++ rest, offset⟩ = ⟨keyChars key ++ rest, offset⟩ ∧
      Cursor.skipSpace ⟨' ' :: (keyChars key ++ rest), offset⟩ =
        ⟨keyChars key ++ rest, offset + 1⟩ :=
  ⟨skipSpace_of_isSpace_eq_false rfl _ _, skipSpace_blank rfl _ _⟩

private theorem not_mem_of_nodup_keys {key : String} {value : Value}
    {done fields : List (String × Value)}
    (h : ((done ++ (key, value) :: fields).map Prod.fst).Nodup) : key ∉ done.map Prod.fst := by
  rw [List.map_append, List.map_cons, List.nodup_append] at h
  intro hkey
  exact h.2.2 key hkey key List.mem_cons_self rfl

/-- No fields are left to spell. -/
theorem spellsFields_nil : SpellsFields limits depth [] [] where
  writes level done more := by
    rw [String.ofList_nil, String.append_empty]
    rfl
  reads := by
    intro key first chars hfirst inside fuel rest offset done hdepth hkeys hfuel
    obtain ⟨fuel, rfl⟩ := exists_fuel hfuel
    have hkey := not_mem_of_nodup_keys hkeys
    exact readFields_field hfirst _ _ offset hdepth (Or.inl rfl) hkey (by omega)
  oneLine := List.not_mem_nil

/-- A field is spelled behind a comma and in front of the others. -/
theorem spellsFields_cons {key : String} {value : Value} {fields : List (String × Value)}
    {chars cs : List Char} (hvalue : Spells limits depth value chars)
    (hfields : SpellsFields limits depth fields cs) :
    SpellsFields limits depth ((key, value) :: fields)
      (',' :: ' ' :: (keyChars key ++ (chars ++ cs))) where
  writes level done more := by
    have hcomma : String.ofList (',' :: ' ' :: (keyChars key ++ (chars ++ cs))) =
        ", " ++ writeText false key ++ ": " ++ String.ofList chars ++ String.ofList cs := by
      apply String.toList_inj.mp
      simp [keyChars, quotedChars, writeText]
    rw [fieldPieces, List.cons_append, List.cons_append, written, List.append_assoc,
      hvalue.writes, String.empty_append]
    change written _ (fieldPieces .compact level ", " fields ++ more) = _
    rw [hfields.writes, hcomma]
    simp only [String.append_assoc]
    rfl
  reads := by
    intro before first text hfirst inside fuel rest offset done hdepth hkeys hfuel
    simp only [List.length_cons, List.length_append] at hfuel
    obtain ⟨fuel, rfl⟩ := exists_fuel hfuel
    have hkey := not_mem_of_nodup_keys hkeys
    have hread := readFields_field hfirst fuel
      (' ' :: (keyChars key ++ (chars ++ (cs ++ '\x7d' :: rest)))) offset hdepth
      (Or.inr rfl) hkey (by omega)
    have hblank := (skipSpace_keyChars key (chars ++ (cs ++ '\x7d' :: rest))
      (offset + ((keyChars before).length + text.length) + 1)).2
    have hothers := hfields.reads hvalue inside fuel rest
      (offset + ((keyChars before).length + text.length) + 1 + 1) (done ++ [(before, first)])
      hdepth (by rwa [List.append_assoc, List.singleton_append]) (by omega)
    have hstop : offset + ((keyChars before).length + text.length) + 1 + 1 +
        ((keyChars key).length + chars.length + cs.length + 1) =
        offset + ((keyChars before).length + text.length +
          (',' :: ' ' :: (keyChars key ++ (chars ++ cs))).length + 1) := by
      simp only [List.length_cons, List.length_append]
      omega
    simp only [List.cons_append, List.append_assoc]
    rw [hread, if_neg (by decide), hblank, hothers, hstop, List.append_assoc,
      List.singleton_append]
  oneLine := by
    simp [keyChars, oneLine_quotedChars, hvalue.oneLine, hfields.oneLine]

/-- The fields of an object behind its first are written and read back if each value is. -/
theorem exists_spellsFields {fields : List (String × Value)}
    (h : ∀ field ∈ fields, ∃ cs, Spells limits depth field.2 cs) :
    ∃ cs, SpellsFields limits depth fields cs := by
  induction fields with
  | nil => exact ⟨[], spellsFields_nil⟩
  | cons field fields ih =>
    obtain ⟨chars, hchars⟩ := h field List.mem_cons_self
    obtain ⟨cs, hcs⟩ := ih fun other hother ↦ h other (List.mem_cons_of_mem field hother)
    exact ⟨_, spellsFields_cons hchars hcs⟩

/-- An empty object is spelled by its braces. -/
theorem spells_object_nil : Spells limits (depth + 1) (.object []) ['\x7b', '\x7d'] where
  writes level before done more := rfl
  reads inside fuel rest offset hdepth hfuel _ := by
    obtain ⟨fuel, rfl⟩ := exists_fuel hfuel
    have hinside : exceeds (inside + 1) limits.depth = false := exceeds_of_le (by omega) hdepth
    have hspace := skipSpace_of_isSpace_eq_false (c := '\x7d') rfl rest (offset + 1)
    simp only [List.cons_append, List.nil_append, readValue, Cursor.advance, List.drop_succ_cons,
      List.drop_zero, hspace, hinside, Bool.false_eq_true, ↓reduceIte, List.head?_cons,
      List.length_cons, List.length_nil]
  starts := ⟨'\x7b', _, rfl, by decide⟩
  oneLine := by decide

/-- An object is spelled by its first field and the others in braces. -/
theorem spells_object_cons {key : String} {value : Value} {fields : List (String × Value)}
    {chars cs : List Char} (hkeys : (((key, value) :: fields).map Prod.fst).Nodup)
    (hvalue : Spells limits depth value chars) (hfields : SpellsFields limits depth fields cs) :
    Spells limits (depth + 1) (.object ((key, value) :: fields))
      ('\x7b' :: (keyChars key ++ (chars ++ (cs ++ ['\x7d'])))) where
  writes level before done more := by
    have hbrace : String.ofList ('\x7b' :: (keyChars key ++ (chars ++ (cs ++ ['\x7d'])))) =
        "\x7b" ++ (writeText false key ++ ": ") ++ String.ofList chars ++ String.ofList cs ++
          "\x7d" := by
      apply String.toList_inj.mp
      simp [keyChars, quotedChars, writeText]
    rw [pieces.eq_def]
    simp only [fieldPieces, List.cons_append, List.append_assoc, written]
    rw [hvalue.writes, String.empty_append]
    change written _ (fieldPieces .compact (level + 1) ", " fields ++ _) = _
    rw [hfields.writes, hbrace]
    simp only [written, String.append_assoc]
    rfl
  reads inside fuel rest offset hdepth hfuel _ := by
    simp only [List.length_cons, List.length_append, List.length_nil] at hfuel
    obtain ⟨fuel, rfl⟩ := exists_fuel hfuel
    have hinside : exceeds (inside + 1) limits.depth = false := exceeds_of_le (by omega) hdepth
    have hspace := (skipSpace_keyChars key (chars ++ (cs ++ '\x7d' :: rest)) (offset + 1)).1
    have hhead : (keyChars key ++ (chars ++ (cs ++ '\x7d' :: rest))).head? ≠ some '\x7d' := by
      simp [keyChars, quotedChars]
    have hread := hfields.reads hvalue (inside + 1) fuel rest (offset + 1) []
      (by rwa [Nat.add_assoc, Nat.add_comm 1]) hkeys (by omega)
    have hstop : offset + 1 + ((keyChars key).length + chars.length + cs.length + 1) =
        offset + ('\x7b' :: (keyChars key ++ (chars ++ (cs ++ ['\x7d'])))).length := by
      simp only [List.length_cons, List.length_append, List.length_nil]
      omega
    rw [hstop] at hread
    simp only [List.cons_append, List.append_assoc, List.nil_append, readValue, Cursor.advance,
      List.drop_succ_cons, List.drop_zero, hspace, hinside, Bool.false_eq_true, ↓reduceIte,
      hhead, hread, bind, Except.bind]
    rfl
  starts := ⟨'\x7b', _, rfl, by decide⟩
  oneLine := by
    simp [keyChars, oneLine_quotedChars, hvalue.oneLine, hfields.oneLine]

end Compound

section Document

variable {limits : Limits} {depth : Nat} {v : Value}

/-- A plain value is written as characters that are read back as the value. -/
theorem Plain.exists_spells (hlimits : exceeds digitLimit limits.digits = false)
    (h : Plain depth v) : ∃ cs, Spells limits depth v cs := by
  induction h with
  | null => exact ⟨_, spells_null⟩
  | bool b => exact ⟨_, spells_bool b⟩
  | int hn => exact ⟨_, spells_int hlimits hn⟩
  | text s => exact ⟨_, spells_text s⟩
  | @list depth items h ih =>
    cases items with
    | nil => exact ⟨_, spells_list_nil⟩
    | cons item items =>
      obtain ⟨chars, hchars⟩ := ih item List.mem_cons_self
      obtain ⟨cs, hcs⟩ :=
        exists_spellsItems fun other hother ↦ ih other (List.mem_cons_of_mem item hother)
      exact ⟨_, spells_list_cons hchars hcs⟩
  | @object depth fields hkeys h ih =>
    cases fields with
    | nil => exact ⟨_, spells_object_nil⟩
    | cons field fields =>
      obtain ⟨chars, hchars⟩ := ih field List.mem_cons_self
      obtain ⟨cs, hcs⟩ :=
        exists_spellsFields fun other hother ↦ ih other (List.mem_cons_of_mem field hother)
      exact ⟨_, spells_object_cons hkeys hchars hcs⟩

private theorem unifyLineEnds_of_not_mem {cs : List Char} (h : '\r' ∉ cs) :
    unifyLineEnds cs = cs := by
  induction cs with
  | nil => rfl
  | cons c cs ih =>
    simp only [List.mem_cons, not_or] at h
    have hc : c ≠ '\r' := Ne.symm h.1
    rw [unifyLineEnds, ih h.2, if_neg hc]
    intro more hmore
    exact absurd hmore hc

/-- A plain value is written to its end, and a reader with limits no lower than the
writer's reads it back from the file, whose line ends are unified. -/
theorem read_write (hdigits : exceeds digitLimit limits.digits = false)
    (hdepth : exceeds depth limits.depth = false) (h : Plain depth v) :
    ∃ text, write .compact v = (text, none) ∧
      read limits (String.ofList (unifyLineEnds text.toList)) = .ok v := by
  obtain ⟨cs, hcs⟩ := h.exists_spells hdigits
  refine ⟨String.ofList cs, ?_, ?_⟩
  · have hwrites := hcs.writes 0 "" "" []
    rw [List.append_nil, String.empty_append, String.empty_append] at hwrites
    exact hwrites
  · have hreads := hcs.reads 0 (2 * cs.length + 2) [] 0 (by rwa [Nat.zero_add]) (by omega) rfl
    have hspace := (hcs.skipSpace [] 0).1
    rw [List.append_nil] at hreads hspace
    have hchars : readChars limits cs = .ok v := by
      obtain ⟨c, more, rfl, hstart⟩ := hcs.starts
      have hc : c ≠ '\uFEFF' := by
        rintro rfl
        exact absurd hstart (by decide)
      unfold readChars
      split
      · next h => exact absurd (List.cons.inj h).1 hc
      · simp only [hspace, hreads, bind, Except.bind]
        rfl
    rw [String.toList_ofList, unifyLineEnds_of_not_mem hcs.oneLine, read, String.toList_ofList,
      hchars]

end Document

end MailSearch.Json
