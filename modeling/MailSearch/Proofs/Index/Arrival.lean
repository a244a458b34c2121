import MailSearch.Proofs.Index.Records
import MailSearch.Proofs.Index.Vocabulary
import Mathlib.Data.List.Sort

/-!
# When words arrived

A word arrives with the insertion before which no record had it and since which there was always
one that has it. Taking out a record interrupts the words that no other record has, also when the
record is put in again at once. The keys of the tokens stand in the order in which their words
arrived; words that arrived together stand in the order of their first places in the record. So
this is the order in which words are suggested.
-/

namespace MailSearch.Index

/-- Whether a word is a token of a record. -/
def HasWord (ix : Index) (word : String) : Prop := ∃ r ∈ ix.records, word ∈ r.tokens

/-- A word that is held is held beside one more record. -/
theorem HasWord.append {ix : Index} {word : String} (h : ix.HasWord word) (r : Record) :
    (ix.append r).HasWord word := by
  obtain ⟨old, hold, htoken⟩ := h
  exact ⟨old, List.mem_append_left _ hold, htoken⟩

/-- The edit of a number puts in a record with a word that no record had before, and since then
there has always been a record that has it. -/
structure ArrivedWith (start : Index) (edits : List Edit) (number : Nat) (r : Record)
    (word : String) : Prop where
  edit : edits[number]? = some (.append r)
  token : word ∈ r.tokens
  missing : ¬(start.edited (edits.take number)).HasWord word
  held : ∀ n, number < n → n ≤ edits.length → (start.edited (edits.take n)).HasWord word

/-- A word arrived before another, or with the same record and stands before it there. -/
def ArrivedBefore (start : Index) (edits : List Edit) (word other : String) : Prop :=
  ∃ m r n s, ArrivedWith start edits m r word ∧ ArrivedWith start edits n s other ∧
    (m < n ∨ m = n ∧ r.tokens.idxOf word < r.tokens.idxOf other)

section Arrival

variable {start : Index} {edits : List Edit} {edit : Edit} {r : Record} {number : Nat}
  {word other : String}

/-- The index after all edits but the last one. -/
theorem edited_concat (start : Index) (edits : List Edit) (edit : Edit) :
    start.edited (edits ++ [edit]) = edit.apply (start.edited edits) :=
  edited_append start edits [edit]

/-- An arrival is the one of an edit that was made. -/
theorem ArrivedWith.lt_length (h : ArrivedWith start edits number r word) :
    number < edits.length :=
  (List.getElem?_eq_some_iff.mp h.edit).1

/-- One more edit leaves an arrival as it is if the word is still held. -/
theorem ArrivedWith.concat (h : ArrivedWith start edits number r word)
    (hword : (start.edited (edits ++ [edit])).HasWord word) :
    ArrivedWith start (edits ++ [edit]) number r word where
  edit := by rw [List.getElem?_append_left h.lt_length, h.edit]
  token := h.token
  missing := by
    rw [List.take_append_of_le_length (Nat.le_of_lt h.lt_length)]
    exact h.missing
  held := by
    intro n hn hlength
    rw [List.length_append, List.length_singleton] at hlength
    rcases Nat.le_succ_iff.mp hlength with hbefore | rfl
    · rw [List.take_append_of_le_length hbefore]
      exact h.held n hn hbefore
    · rw [List.take_of_length_le (by simp)]
      exact hword

/-- A record that is put in brings the words that no record had. -/
theorem arrivedWith_append (hmissing : ¬(start.edited edits).HasWord word)
    (htoken : word ∈ r.tokens) :
    ArrivedWith start (edits ++ [.append r]) edits.length r word where
  edit := List.getElem?_concat_length
  token := htoken
  missing := by
    rw [List.take_append_of_le_length (Nat.le_refl _), List.take_length]
    exact hmissing
  held := by
    intro n hn hlength
    rw [List.length_append, List.length_singleton] at hlength
    rw [List.take_of_length_le (by simp; omega), edited_concat]
    exact ⟨r, List.mem_append_right _ List.mem_cons_self, htoken⟩

/-- A word that an index without records has after some edits arrived with one of them. -/
theorem exists_arrivedWith (hstart : start.records = [])
    (hword : (start.edited edits).HasWord word) :
    ∃ number r, ArrivedWith start edits number r word := by
  induction edits using List.reverseRecOn with
  | nil =>
    obtain ⟨r, hr, -⟩ := hword
    exact absurd (hstart ▸ hr) List.not_mem_nil
  | append_singleton edits edit ih =>
    by_cases hbefore : (start.edited edits).HasWord word
    · obtain ⟨number, r, harrived⟩ := ih hbefore
      exact ⟨number, r, harrived.concat hword⟩
    · obtain ⟨r, hr, htoken⟩ := hword
      rw [edited_concat] at hr
      rcases mem_records_edit hr with hold | rfl
      · exact absurd ⟨r, hold, htoken⟩ hbefore
      · exact ⟨edits.length, r, arrivedWith_append hbefore htoken⟩

/-- One more edit leaves the order of two arrivals as it is if both words are still held. -/
theorem ArrivedBefore.concat (h : ArrivedBefore start edits word other)
    (hword : (start.edited (edits ++ [edit])).HasWord word)
    (hother : (start.edited (edits ++ [edit])).HasWord other) :
    ArrivedBefore start (edits ++ [edit]) word other := by
  obtain ⟨m, r, n, s, hr, hs, horder⟩ := h
  exact ⟨m, r, n, s, hr.concat hword, hs.concat hother, horder⟩

/-- A word arrived once. -/
theorem ArrivedWith.unique {m n : Nat} {s : Record} (hr : ArrivedWith start edits m r word)
    (hs : ArrivedWith start edits n s word) : m = n ∧ r = s := by
  have hnumber : m = n := by
    rcases Nat.lt_trichotomy m n with hlt | heq | hlt
    · exact absurd (hr.held n hlt (Nat.le_of_lt hs.lt_length)) hs.missing
    · exact heq
    · exact absurd (hs.held m hlt (Nat.le_of_lt hr.lt_length)) hr.missing
  subst hnumber
  exact ⟨rfl, Edit.append.inj (Option.some.inj (hr.edit.symm.trans hs.edit))⟩

/-- Of two words only one arrived before the other. -/
theorem ArrivedBefore.asymm (h : ArrivedBefore start edits word other) :
    ¬ArrivedBefore start edits other word := by
  rintro ⟨n', s', m', r', hs', hr', horder'⟩
  obtain ⟨m, r, n, s, hr, hs, horder⟩ := h
  obtain ⟨rfl, rfl⟩ := hr.unique hr'
  obtain ⟨rfl, rfl⟩ := hs.unique hs'
  rcases horder with hlt | ⟨rfl, hplace⟩
  · omega
  · obtain rfl : r = s := Edit.append.inj (Option.some.inj (hr.edit.symm.trans hs.edit))
    omega

instance : Std.Asymm (ArrivedBefore start edits) := ⟨fun _ _ h ↦ h.asymm⟩

end Arrival

section Keys

variable {start : Index} {edits : List Edit} {edit : Edit} {r : Record}

/-- An edit that puts nothing in leaves the keys that are left in their order. -/
theorem keys_edit_sublist (ix : Index) (hedit : ∀ r, edit ≠ .append r) :
    (edit.apply ix).tokens.keys.Sublist ix.tokens.keys := by
  cases edit with
  | erase id =>
    simp only [Edit.apply, Index.erase]
    split
    · exact List.Sublist.refl _
    · exact Postings.keys_removeAll_sublist ix.tokens _ id
  | append r => exact absurd rfl (hedit r)
  | clear => exact List.nil_sublist _

/-- A record that is put in adds its new tokens behind the keys, in the order of their first
places. -/
theorem keys_append {ix : Index} (h : ix.tokens.keys.Nodup) (r : Record) :
    (ix.append r).tokens.keys =
      ix.tokens.keys ++ r.tokens.eraseDups.filter (· ∉ ix.tokens.keys) := by
  have hadd : (ix.append r).tokens.keys = (ix.tokens.keys ++ r.tokens).eraseDups :=
    Postings.keys_addAll h r.tokens r.id
  rw [hadd, List.eraseDups_append, eraseDups_eq_self h, List.removeAll, eraseDups_filter]
  simp

/-- The keys of an index without records are none. -/
theorem Consistent.keys_eq_nil {ix : Index} (h : ix.Consistent) (hrecords : ix.records = []) :
    ix.tokens.keys = [] := by
  apply List.eq_nil_iff_forall_not_mem.mpr
  intro word hword
  obtain ⟨r, hr, -⟩ := (h.tokens.mem_keys_iff word).mp hword
  exact absurd (hrecords ▸ hr) List.not_mem_nil

/-- The keys of the tokens are the words that are held. -/
theorem Consistent.mem_keys_iff_hasWord {ix : Index} (h : ix.Consistent) (word : String) :
    word ∈ ix.tokens.keys ↔ ix.HasWord word :=
  h.tokens.mem_keys_iff word

/-- What a record brings stands behind the words that are held, in the order of its tokens. -/
theorem pairwise_arrivedBefore_append (hstart : start.records = [])
    (hconsistent : (start.edited edits).Consistent)
    (hold : (start.edited edits).tokens.keys.Pairwise (ArrivedBefore start edits)) :
    ((start.edited edits).append r).tokens.keys.Pairwise
      (ArrivedBefore start (edits ++ [.append r])) := by
  have hheld {word : String} (h : word ∈ (start.edited edits).tokens.keys) :
      (start.edited (edits ++ [.append r])).HasWord word := by
    rw [edited_concat]
    exact ((hconsistent.mem_keys_iff_hasWord word).mp h).append r
  have hnew {word : String}
      (h : word ∈ r.tokens.eraseDups.filter (· ∉ (start.edited edits).tokens.keys)) :
      ArrivedWith start (edits ++ [.append r]) edits.length r word := by
    obtain ⟨htoken, hmissing⟩ := List.mem_filter.mp h
    refine arrivedWith_append ?_ (List.mem_eraseDups.mp htoken)
    rw [← hconsistent.mem_keys_iff_hasWord]
    exact of_decide_eq_true hmissing
  rw [keys_append hconsistent.tokens.wf.keys, List.pairwise_append]
  refine ⟨hold.imp_of_mem fun hword hother horder ↦ horder.concat (hheld hword) (hheld hother),
    ?_, ?_⟩
  · refine ((pairwise_idxOf_eraseDups r.tokens).filter _).imp_of_mem ?_
    intro word other hword hother horder
    exact ⟨_, r, _, r, hnew hword, hnew hother, .inr ⟨rfl, horder⟩⟩
  · intro word hword other hother
    obtain ⟨number, old, harrived⟩ :=
      exists_arrivedWith hstart ((hconsistent.mem_keys_iff_hasWord word).mp hword)
    exact ⟨number, old, _, r, harrived.concat (hheld hword), hnew hother, .inl harrived.lt_length⟩

/-- The keys of the tokens stand in the order in which their words arrived. -/
theorem pairwise_arrivedBefore (hstart : start.records = []) (hconsistent : start.Consistent)
    (hfits : start.Fits edits) :
    (start.edited edits).tokens.keys.Pairwise (ArrivedBefore start edits) := by
  induction edits using List.reverseRecOn with
  | nil =>
    have hkeys : (start.edited []).tokens.keys = [] := hconsistent.keys_eq_nil hstart
    rw [hkeys]
    exact List.Pairwise.nil
  | append_singleton edits edit ih =>
    have hbefore := (fits_append.mp hfits).1
    have hafter := consistent_edited hconsistent hfits
    -- an edit that puts nothing in drops keys, and those that are left were held all the time
    have hdrop (hedit : ∀ r, edit ≠ .append r) :
        (start.edited (edits ++ [edit])).tokens.keys.Pairwise
          (ArrivedBefore start (edits ++ [edit])) := by
      have hsublist := keys_edit_sublist (start.edited edits) hedit
      rw [← edited_concat] at hsublist
      refine ((ih hbefore).sublist hsublist).imp_of_mem fun hword hother horder ↦ ?_
      exact horder.concat ((hafter.mem_keys_iff_hasWord _).mp hword)
        ((hafter.mem_keys_iff_hasWord _).mp hother)
    cases edit with
    | erase id => exact hdrop nofun
    | append r =>
      rw [edited_concat]
      exact pairwise_arrivedBefore_append hstart (consistent_edited hconsistent hbefore)
        (ih hbefore)
    | clear => exact hdrop nofun

end Keys

/-- The edits of some changes lead to the index that the changes lead to. What it suggests for a
text, up to a limit, is the first part of the one list of all words of its records that begin with
the text in lower case, in the order in which they arrived with these edits. So no word is suggested
twice or without a record that has it, and if there are fewer than the limit, each word of a record
that begins with the text is among them. -/
theorem suggest_after (size : Int) (threshold : Binary64) (changes : List (Int × Change))
    (s : Settings) (text : String) :
    let start := empty size threshold
    let edits := editsOf changes
    let ix := start.after changes
    ix = { start.edited edits with lastIndexedAt := ix.lastIndexedAt } ∧
      ∃ words : List String,
        (∀ others : List String, others = words ↔ others.Pairwise (ArrivedBefore start edits) ∧
          ∀ word, word ∈ others ↔ begins text word ∧ ix.HasWord word) ∧
        ∀ limit : Nat,
          (ix.suggest s text (some limit)).result = .ok (words.take limit) ∧
          (words.take limit).Nodup ∧
          (∀ word ∈ words.take limit, begins text word ∧ ix.HasWord word) ∧
          ((words.take limit).length < limit →
            ∀ r ∈ ix.records, ∀ word ∈ r.tokens, begins text word → word ∈ words.take limit) := by
  intro start edits ix
  have hstart : start.Consistent := consistent_empty size threshold
  have hix : ix.Consistent := consistent_after hstart changes
  have hafter := after_eq_edited start changes
  have hedited : ix = { start.edited edits with lastIndexedAt := ix.lastIndexedAt } :=
    hafter.trans (congrArg (fun time ↦ { start.edited edits with lastIndexedAt := time })
      (congrArg lastIndexedAt hafter).symm)
  have hkeys : ix.tokens.keys.Pairwise (ArrivedBefore start edits) := by
    rw [hedited]
    exact pairwise_arrivedBefore rfl hstart (fits_editsOf start changes)
  let words := ix.tokens.keys.filter (begins text)
  have hwords : words.Pairwise (ArrivedBefore start edits) := hkeys.filter _
  have hmem (word : String) : word ∈ words ↔ begins text word ∧ ix.HasWord word := by
    rw [List.mem_filter, hix.mem_keys_iff_hasWord, and_comm]
  refine ⟨hedited, words, fun others ↦ ⟨?_, ?_⟩, fun limit ↦ ⟨result_suggest ix s text limit,
    (hix.tokens.wf.keys.filter _).sublist (List.take_sublist limit words),
    fun word hword ↦ (hmem word).mp (List.mem_of_mem_take hword), ?_⟩⟩
  · rintro rfl
    exact ⟨hwords, hmem⟩
  · rintro ⟨hothers, hothermem⟩
    exact hothers.eq_of_mem_iff hwords fun word ↦ (hothermem word).trans (hmem word).symm
  · intro hfew r hr word htoken hbegins
    rw [List.take_of_length_le (by rw [List.length_take] at hfew; omega)]
    exact (hmem word).mpr ⟨hbegins, r, hr, htoken⟩

/-- A record is replaced while another has one of its words. That word keeps its place in front, but
one that comes back at once stands behind the words of the other record, and the one that is new
behind it. -/
theorem suggest_after_replaced :
    let s : Settings := { home := ⟨"/", []⟩ }
    let changes : List (Int × Change) :=
      [(1, .insert (.record { id := "a", tokens := ["apple", "april"] })),
        (2, .insert (.record { id := "b", tokens := ["apricot", "apple", "apricot"] })),
        (3, .insert (.record { id := "a", tokens := ["april", "bread", "apex"] }))]
    let ix := (empty 3 .zero).after changes
    let found := ["apple", "apricot", "april", "apex"]
    (ix.suggest s "AP" (some (5 : Nat))).result = .ok found ∧
      (∀ r ∈ ix.records, ∀ word ∈ r.tokens, begins "AP" word → word ∈ found) ∧
      found.Pairwise (ArrivedBefore (empty 3 .zero) (editsOf changes)) := by
  intro s changes ix found
  obtain ⟨-, words, hwords, hall⟩ := suggest_after 3 .zero changes s "AP"
  obtain ⟨hresult, -, -, hfew⟩ := hall 5
  have hfound : (ix.suggest s "AP" (some (5 : Nat))).result = .ok found := by decide +kernel
  have htake : words.take 5 = found := Except.ok.inj (hresult.symm.trans hfound)
  have hlength : (words.take 5).length < 5 := by rw [htake]; decide
  have hsame : found = words := by
    rw [← htake, List.take_of_length_le (by rw [List.length_take] at hlength; omega)]
  refine ⟨hfound, ?_, ((hwords found).mp hsame).1⟩
  rw [← htake]
  exact hfew hlength

end MailSearch.Index
