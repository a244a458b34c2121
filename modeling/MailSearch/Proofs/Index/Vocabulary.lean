import MailSearch.Proofs.Distinct
import MailSearch.Proofs.Index.Rebuild

/-!
# The order of the vocabulary

Words are suggested in the order in which their keys came to be. Putting records in place of all
that an index held leaves the keys in the order in which the tokens first occur in the records,
while a key that came with a record stays in its place as long as any record has it. So an index
that is put back from its export suggests the same words, but in the order of the records. Nothing
is changed by that exactly if the keys stood in this order before, as they do once an export has
been imported.
-/

namespace MailSearch

namespace Postings

variable {p : Postings}

/-- Filing under a key puts it behind the keys, unless it is among them. -/
theorem keys_add_eq_eraseDups (h : p.keys.Nodup) (key id : String) :
    (p.add key id).keys = (p.keys ++ [key]).eraseDups := by
  rw [keys_add]
  split
  · next hkey =>
    rw [List.eraseDups_append, eraseDups_eq_self h]
    simp [List.removeAll, hkey]
  · next hkey =>
    rw [eraseDups_eq_self]
    rw [← List.concat_eq_append]
    exact (List.nodup_concat p.keys key).mpr ⟨hkey, h⟩

/-- Filing under several keys puts those that are new behind the keys. -/
theorem keys_addAll (h : p.keys.Nodup) (keys : List String) (id : String) :
    (p.addAll keys id).keys = (p.keys ++ keys).eraseDups := by
  induction keys generalizing p with
  | nil =>
    rw [List.append_nil, eraseDups_eq_self h]
    rfl
  | cons key keys ih =>
    have hadd := keys_add_eq_eraseDups h key id
    have hnodup : (p.add key id).keys.Nodup := hadd ▸ nodup_eraseDups _
    calc
      (p.addAll (key :: keys) id).keys = ((p.add key id).keys ++ keys).eraseDups := ih hnodup
      _ = (p.keys ++ key :: keys).eraseDups := by
        rw [hadd, eraseDups_eraseDups_append, List.append_assoc, List.singleton_append]

end Postings

namespace Index

/-- The distinct tokens of records, in the order in which they first occur. -/
def vocabularyOf (rs : List Record) : List String := (rs.flatMap Record.tokens).eraseDups

section Restore

private theorem keys_foldl_append {ix : Index} (h : ix.tokens.keys.Nodup) (rs : List Record) :
    (rs.foldl append ix).tokens.keys =
      (ix.tokens.keys ++ rs.flatMap Record.tokens).eraseDups := by
  induction rs generalizing ix with
  | nil =>
    rw [List.flatMap_nil, List.append_nil, eraseDups_eq_self h]
    rfl
  | cons r rs ih =>
    have happend : (ix.append r).tokens.keys = (ix.tokens.keys ++ r.tokens).eraseDups :=
      Postings.keys_addAll h r.tokens r.id
    have hnodup : (ix.append r).tokens.keys.Nodup := happend ▸ nodup_eraseDups _
    rw [List.foldl_cons, ih hnodup, happend, eraseDups_eraseDups_append, List.append_assoc,
      List.flatMap_cons]

/-- Records of distinct ids that are put in place of what an index held leave the keys in the order
in which the tokens first occur. -/
theorem keys_restore (ix : Index) (now : Int) {rs : List Record} (h : (rs.map (·.id)).Nodup) :
    (ix.restore now rs).tokens.keys = vocabularyOf rs := by
  have hclear : ix.clear.tokens.keys.Nodup := List.nodup_nil
  rw [restore_of_nodup ix now h]
  exact keys_foldl_append hclear rs

end Restore

section Suggestions

variable {a b : Index}

/-- Whether a word begins with the lower case of a text. -/
def begins (start token : String) : Bool :=
  (Unicode.lowercase start).toList.isPrefixOf token.toList

/-- With a limit that is not negative as many words are suggested as the limit allows. -/
theorem result_suggest (ix : Index) (s : Settings) (start : String) (limit : Nat) :
    (ix.suggest s start (some limit)).result =
      .ok ((ix.tokens.keys.filter (begins start)).take limit) := by
  have hlimit : chosenLimit (some (limit : Int)) s.suggestionLimit = pure (limit : Int) := by
    rw [chosenLimit, if_neg (by omega)]
  rw [suggest, hlimit]
  rfl

/-- Two indexes suggest the same words for a text whatever the limit is exactly if the keys that
begin with it are the same in the same order. -/
theorem suggest_eq_iff (s : Settings) (start : String) :
    (∀ limit : Nat, (a.suggest s start (some limit)).result =
      (b.suggest s start (some limit)).result) ↔
      a.tokens.keys.filter (begins start) = b.tokens.keys.filter (begins start) := by
  simp only [result_suggest]
  constructor
  · intro h
    -- a limit that cuts off neither list
    let limit := max (a.tokens.keys.filter (begins start)).length
      (b.tokens.keys.filter (begins start)).length
    have hwords := Except.ok.inj (h limit)
    rwa [List.take_of_length_le (Nat.le_max_left _ _),
      List.take_of_length_le (Nat.le_max_right _ _)] at hwords
  · intro h limit
    rw [h]

/-- Keys that are the same but for their order offer equally many words, and the same ones if the
limit leaves room for all words that begin with the text. -/
private theorem offered_perm {keys others : List String} (h : keys.Perm others) (start : String)
    (limit : Nat) :
    ((keys.filter (begins start)).take limit).length =
        ((others.filter (begins start)).take limit).length ∧
      (others.countP (begins start) ≤ limit →
        ((keys.filter (begins start)).take limit).Perm
          ((others.filter (begins start)).take limit)) := by
  have hperm := h.filter (begins start)
  refine ⟨by rw [List.length_take, List.length_take, hperm.length_eq], fun hlimit ↦ ?_⟩
  rw [List.countP_eq_length_filter] at hlimit
  rwa [List.take_of_length_le (hperm.length_eq ▸ hlimit), List.take_of_length_le hlimit]

end Suggestions

/-- What a consistent index exports can be imported into an empty index, whose keys stand in the
order in which the words first occur in the records then. -/
theorem exists_imported {ix : Index} (h : ix.Consistent) (size : Int) (threshold : Binary64)
    (now : Int) :
    ∃ loaded,
      ((empty size threshold).importItems now (ix.exported.map .record)).result =
        .ok (loaded, ix.size) ∧
      loaded.Consistent ∧ loaded.records = ix.records ∧
      loaded.tokens.keys = vocabularyOf ix.records :=
  ⟨(empty size threshold).restore now ix.records, importItems_forms _ now fun _ _ ↦ rfl,
    consistent_restore _ now ix.records, records_restore _ now h.ids, keys_restore _ now h.ids⟩

/-- However an index came to be, an empty index into which its records are imported suggests for a
text, up to a limit, the words in the order in which they first occur in the records: as many as the
index itself, and the same ones if the limit leaves room for all that begin with the text. It
suggests the same list whatever the limit is exactly if the keys of the index that begin with the
text stood in this order. What it exports in turn can be imported into an empty index, which
suggests the same. -/
theorem suggest_imported (size : Int) (threshold other : Binary64)
    (changes : List (Int × Change)) (now : Int) (s : Settings) :
    let ix := (empty size threshold).after changes
    let vocabulary := vocabularyOf ix.records
    ∃ loaded,
      ((empty size other).importItems now (ix.exported.map .record)).result =
        .ok (loaded, ix.size) ∧
      (∀ start, (∀ limit : Nat, ∃ before after,
          (ix.suggest s start (some limit)).result = .ok before ∧
          (loaded.suggest s start (some limit)).result = .ok after ∧
          after = (vocabulary.filter (begins start)).take limit ∧
          after.length = before.length ∧
          (ix.tokens.keys.countP (begins start) ≤ limit → after.Perm before)) ∧
        ((∀ limit : Nat, (loaded.suggest s start (some limit)).result =
            (ix.suggest s start (some limit)).result) ↔
          ix.tokens.keys.filter (begins start) = vocabulary.filter (begins start))) ∧
      ∀ third later, ∃ again,
        ((empty size third).importItems later (loaded.exported.map .record)).result =
          .ok (again, loaded.size) ∧
        ∀ start (limit : Nat), (again.suggest s start (some limit)).result =
          (loaded.suggest s start (some limit)).result := by
  intro ix vocabulary
  have hix : ix.Consistent := consistent_after (consistent_empty size threshold) changes
  obtain ⟨loaded, himport, hloaded, hrecords, hkeys⟩ := exists_imported hix size other now
  have hfiles : loaded.tokens.Files Record.tokens ix.records := hrecords ▸ hloaded.tokens
  have hperm : (vocabularyOf ix.records).Perm ix.tokens.keys :=
    hkeys ▸ hfiles.keys_perm hix.tokens
  refine ⟨loaded, himport, fun start ↦ ⟨fun limit ↦ ?_, ?_⟩, fun third later ↦ ?_⟩
  · obtain ⟨hlength, hsame⟩ := offered_perm hperm start limit
    refine ⟨_, _, result_suggest ix s start limit, result_suggest loaded s start limit, ?_⟩
    rw [hkeys]
    exact ⟨rfl, hlength, hsame⟩
  · rw [suggest_eq_iff, hkeys]
    exact eq_comm
  · obtain ⟨again, hagain, -, -, hsame⟩ := exists_imported hloaded size third later
    rw [hrecords] at hsame
    refine ⟨again, hagain, fun start ↦ ?_⟩
    rw [suggest_eq_iff, hsame, hkeys]

/-- A word that two emails share keeps its place in front when the first of them is removed. Put
back from the export of the other, where it stands behind another word, it is not suggested first
any more. -/
theorem suggest_imported_reordered :
    let s : Settings := { home := ⟨"/", []⟩ }
    let ix := (empty 3 .zero).after
      [(1, .insert (.record { id := "a", tokens := ["apple"] })),
        (2, .insert (.record { id := "b", tokens := ["apricot", "apple"] })), (3, .erase "a")]
    (ix.suggest s "ap" (some 1)).result = .ok ["apple"] ∧
      ∃ loaded,
        ((empty 3 .zero).importItems 4 (ix.exported.map .record)).result = .ok (loaded, 1) ∧
        (loaded.suggest s "ap" (some 1)).result = .ok ["apricot"] := by
  intro s ix
  refine ⟨by decide +kernel, (empty 3 .zero).restore 4 ix.records, ?_, by decide +kernel⟩
  exact importItems_forms (empty 3 .zero) 4 fun r _ ↦ rfl

end Index
end MailSearch
