import MailSearch.Proofs.Index.Records
import MailSearch.Proofs.Query.Word
import MailSearch.Proofs.Record.Mail
import MailSearch.Proofs.Record.RoundTrip
import MailSearch.Proofs.Search.Failure

/-!
# Tokens find their emails

An index that was made of emails holds tokens only, also after it was put back from an export.
Such a token as a query is read as itself, so a search for it finds every record that has it,
and what is suggested for the beginning of a word is never sought in vain.
-/

namespace MailSearch

/-- A record that is read from an email has tokens only. -/
theorem Record.isToken_of_ofMail {mail : Value} {r : Record} (h : Record.ofMail mail = .ok r) :
    ∀ t ∈ r.tokens, IsToken t := by
  obtain ⟨fields, body, -, hread⟩ := Record.exists_fields_of_ofMail h
  intro t ht
  rw [hread.tokens] at ht
  obtain ⟨text, -, ht⟩ := mem_distinctTokens.mp ht
  exact isToken_of_mem_tokenize ht

namespace Index

/-- Emails that a change hands over are handed over as values, and it does not import. -/
def Change.HandsMails : Change → Prop
  | insert item => ∃ mail, item = .value mail
  | insertAll items => ∃ mails : List Value, items = mails.map .value
  | erase _ => True
  | clear => True
  | restore _ => False

/-- The items are the records that an index exports, all as records or all as the objects that
they are written as. -/
def Exports (ix : Index) (items : List Item) : Prop :=
  items = ix.exported.map .record ∨ items = ix.exported.map fun r ↦ .value r.toValue

/-- An index is made of emails if changes that hand over emails lead to it from an empty one, and
imports of what such an index exported. -/
inductive MadeOfMails : Index → Prop where
  | empty (size : Int) (threshold : Binary64) : MadeOfMails (empty size threshold)
  | change {ix : Index} {change : Change} (h : MadeOfMails ix) (hchange : change.HandsMails)
      (now : Int) : MadeOfMails (change.apply now ix).1
  | restore {ix source : Index} {items : List Item} (h : MadeOfMails ix)
      (hsource : MadeOfMails source) (hitems : source.Exports items) (now : Int) :
      MadeOfMails ((Change.restore items).apply now ix).1

section Records

variable {ix : Index} {r : Record}

/-- A record that is brought by a change that hands over emails is read from one. -/
theorem Change.HandsMails.exists_mail {change : Change} (h : change.HandsMails)
    (hr : change.Brings r) : ∃ mail, Record.ofMail mail = .ok r := by
  cases change with
  | insert item =>
    obtain ⟨mail, rfl⟩ := h
    exact ⟨mail, hr⟩
  | insertAll items =>
    obtain ⟨mails, rfl⟩ := h
    obtain ⟨item, hitem, hread⟩ := hr
    obtain ⟨mail, -, rfl⟩ := List.mem_map.mp hitem
    exact ⟨mail, hread⟩
  | erase id => exact hr.elim
  | clear => exact hr.elim
  | restore items => exact h.elim

/-- What is read from an exported item is a record of the export. -/
theorem Exports.mem_of_readStored {items : List Item} (h : ix.Exports items) {item : Item}
    (hitem : item ∈ items) (hread : item.readStored = .ok r) : r ∈ ix.records := by
  obtain rfl | rfl := h
  · obtain ⟨source, hsource, rfl⟩ := List.mem_map.mp hitem
    obtain rfl := Except.ok.inj hread
    exact hsource
  · obtain ⟨source, hsource, rfl⟩ := List.mem_map.mp hitem
    obtain rfl := Record.eq_of_ofStored_toValue hread
    exact hsource

/-- An index that was made of emails is consistent. -/
theorem MadeOfMails.consistent (h : ix.MadeOfMails) : ix.Consistent := by
  induction h with
  | empty size threshold => exact consistent_empty size threshold
  | change h hchange now ih => exact consistent_apply ih now _
  | restore h hsource hitems now ih ihsource => exact consistent_apply ih now _

/-- The records of an index that was made of emails have tokens only. -/
theorem MadeOfMails.isToken (h : ix.MadeOfMails) : ∀ r ∈ ix.records, ∀ t ∈ r.tokens, IsToken t := by
  induction h with
  | empty size threshold => exact fun r hr ↦ absurd hr List.not_mem_nil
  | change h hchange now ih =>
    intro r hr
    rcases mem_records_apply hr with hold | hnew
    · exact ih r hold
    · obtain ⟨mail, hmail⟩ := hchange.exists_mail hnew
      exact Record.isToken_of_ofMail hmail
  | restore h hsource hitems now ih ihsource =>
    intro r hr
    rcases mem_records_apply hr with hold | ⟨item, hitem, hread⟩
    · exact ih r hold
    · exact ihsource r (hitems.mem_of_readStored hitem hread)

end Records

end Index

section Hits

variable {ix : Index} {q : Query} {o : Search.Options} {r : Record} {found : List Hit}

/-- A search that may give as many hits as there are records finds all that a scan keeps. -/
theorem Search.exists_hit_of_mem_kept (h : ix.Consistent)
    (hsize : o.shingleSize = ix.shingleSize) (hlimit : ix.size ≤ o.limit)
    (hrun : Search.run ix q o = .ok found) (hr : r ∈ Scan.kept ix.records q o) :
    ∃ hit ∈ found, hit.record = r := by
  rw [run_eq_scan h hsize, Scan.run_eq_hits hlimit] at hrun
  exact List.mem_map.mp ((Scan.records_perm_of_hits hrun).mem_iff.mpr hr)

/-- A search that may give any hits gives one if a scan keeps a record. -/
theorem Search.ne_nil_of_mem_kept (h : ix.Consistent) (hsize : o.shingleSize = ix.shingleSize)
    (hlimit : 0 < o.limit) (hrun : Search.run ix q o = .ok found)
    (hr : r ∈ Scan.kept ix.records q o) : found ≠ [] := by
  rw [run_eq_scan h hsize, Scan.run, if_neg (by omega)] at hrun
  obtain ⟨all, hall, rfl⟩ := map_eq_ok.mp hrun
  obtain ⟨hit, hhit, -⟩ :=
    List.mem_map.mp ((Scan.records_perm_of_hits hall).mem_iff.mpr hr)
  rw [Ne, List.take_eq_nil_iff, not_or]
  exact ⟨by omega, List.ne_nil_of_mem hhit⟩

end Hits

section Token

variable {r : Record} {t : String}

/-- A scan for a token keeps the records that have it. -/
theorem Scan.mem_kept_of_token {rs : List Record} (hr : r ∈ rs) (ht : t ∈ r.tokens)
    (htoken : IsToken t) (o : Search.Options) : r ∈ Scan.kept rs (Query.ofText t) o := by
  rw [Query.ofText_of_isToken htoken]
  refine List.mem_filter.mpr ⟨hr, ?_⟩
  have hpasses : r.passes { text := t } := rfl
  rw [hpasses, Scan.isSought, htoken.tokenize_eq]
  simp [ht]

/-- A token of a record counts at least two points for the record. -/
theorem Score.two_le_points (ht : t ∈ r.tokens) (htoken : IsToken t) (fuzzy : Option Binary64) :
    2 ≤ (Score.ofRecord r fuzzy (tokenize (Query.ofText t).text)).points := by
  have hscore : tokenPoints ≤ tokenScore r fuzzy t := by
    unfold tokenScore
    rw [if_pos (List.contains_iff_mem.mpr ht)]
    omega
  have hpoints : (Score.ofRecord r fuzzy [t]).points = total [tokenScore r fuzzy t] := rfl
  rw [Query.ofText_of_isToken htoken, htoken.tokenize_eq, hpoints, total_cons, total_nil,
    Nat.add_zero]
  exact hscore

end Token

namespace Index

variable {ix : Index}

/-- What is suggested is a token of a record. -/
theorem Consistent.exists_record_of_suggest (h : ix.Consistent) {s : Settings} {start : String}
    {limit : Option Int} {suggested : List String}
    (hsuggested : (ix.suggest s start limit).result = .ok suggested) {t : String}
    (ht : t ∈ suggested) : ∃ r ∈ ix.records, t ∈ r.tokens := by
  rw [suggest, Logged.result_bind] at hsuggested
  obtain ⟨n, -, hn⟩ := bind_eq_ok.mp hsuggested
  obtain rfl := Except.ok.inj hn
  exact (h.tokens.mem_keys_iff t).mp (List.mem_filter.mp (List.mem_of_mem_take ht)).1

/-- In an index that was made of emails every token of a record is a query that finds it: a
search that gives a result and may give as many hits as there are records gives a hit for the
record, and the token counts at least two points for it. Whatever is suggested for the beginning
of a word is a query with a hit. -/
theorem search_token_of_madeOfMails (h : ix.MadeOfMails) (s : Settings) (now : Int)
    (req : Request) :
    (∀ r ∈ ix.records, ∀ t ∈ r.tokens,
      (∀ (limit : Int) (found : List Hit),
        (chosenLimit req.limit s.searchLimit).result = .ok limit → ix.size ≤ limit →
        (ix.searchText s now t req).result = .ok found → ∃ hit ∈ found, hit.record = r) ∧
      ∀ fuzzy, 2 ≤ (Score.ofRecord r fuzzy (tokenize (Query.ofText t).text)).points) ∧
    ∀ (start : String) (count : Option Int) (suggested : List String),
      (ix.suggest s start count).result = .ok suggested → ∀ t ∈ suggested,
      ∀ (limit : Int) (found : List Hit),
        (chosenLimit req.limit s.searchLimit).result = .ok limit → 0 < limit →
        (ix.searchText s now t req).result = .ok found → found ≠ [] := by
  have hconsistent := h.consistent
  have hrun {t : String} {limit : Int} {found : List Hit}
      (hlimit : (chosenLimit req.limit s.searchLimit).result = .ok limit)
      (hfound : (ix.searchText s now t req).result = .ok found) :
      ∃ n : Nat, limit = n ∧
        Search.run ix (Query.ofText t) (ix.searchOptions s now n req) = .ok found := by
    obtain ⟨n, hn, hresult⟩ := result_searchText ix s now req
    exact ⟨n, Except.ok.inj (hlimit.symm.trans hn), (hresult t).symm.trans hfound⟩
  refine ⟨fun r hr t ht ↦ ⟨fun limit found hlimit hsize hfound ↦ ?_, ?_⟩, ?_⟩
  · obtain ⟨n, rfl, hrun⟩ := hrun hlimit hfound
    exact Search.exists_hit_of_mem_kept hconsistent rfl hsize hrun
      (Scan.mem_kept_of_token hr ht (h.isToken r hr t ht) _)
  · exact Score.two_le_points ht (h.isToken r hr t ht)
  · intro start count suggested hsuggested t ht limit found hlimit hpos hfound
    obtain ⟨r, hr, hmem⟩ := hconsistent.exists_record_of_suggest hsuggested ht
    obtain ⟨n, rfl, hrun⟩ := hrun hlimit hfound
    exact Search.ne_nil_of_mem_kept hconsistent rfl hpos hrun
      (Scan.mem_kept_of_token hr hmem (h.isToken r hr t hmem) _)

/-- An email is indexed, exported as objects and imported by another index. Its token finds it
there, and so does what is suggested for the token's beginning. -/
theorem search_token_of_madeOfMails_imported :
    let s : Settings := { home := ⟨"/", []⟩ }
    let mail : Value := .object [("id", .text "a"), ("subject", .text "Budget Plan")]
    let source := ((Change.insert (.value mail)).apply 1 (empty 3 .zero)).1
    let items := source.exported.map fun r ↦ Item.value r.toValue
    let ix := ((Change.restore items).apply 2 (empty 3 .zero)).1
    let req : Request := { limit := some 1, fuzzy := some false, order := .date }
    ∃ r ∈ ix.records, "budget" ∈ r.tokens ∧
      (∃ found, (ix.searchText s 3 "budget" req).result = .ok found ∧
        (∃ hit ∈ found, hit.record = r) ∧ found ≠ []) ∧
      2 ≤ (Score.ofRecord r none (tokenize (Query.ofText "budget").text)).points ∧
      (ix.suggest s "Bud" none).result = .ok ["budget"] := by
  intro s mail source items ix req
  have hmail : (Change.insert (.value mail)).HandsMails := ⟨mail, rfl⟩
  have hsource : source.MadeOfMails := .change (.empty 3 .zero) hmail 1
  have hitems : source.Exports items := .inr rfl
  have hix : ix.MadeOfMails := .restore (.empty 3 .zero) hsource hitems 2
  obtain ⟨hfinds, hsuggests⟩ := search_token_of_madeOfMails hix s 3 req
  obtain ⟨r, hr, ht⟩ : ∃ r ∈ ix.records, "budget" ∈ r.tokens := by decide +kernel
  have hok : (ix.searchText s 3 "budget" req).result.isOk := by decide +kernel
  have hsuggested : (ix.suggest s "Bud" none).result = .ok ["budget"] := by decide +kernel
  obtain ⟨hfound, hpoints⟩ := hfinds r hr "budget" ht
  have hsize : ix.size ≤ (1 : Int) := by decide +kernel
  cases hresult : (ix.searchText s 3 "budget" req).result with
  | error fault =>
    rw [hresult] at hok
    exact nomatch hok
  | ok found =>
    refine ⟨r, hr, ht, ⟨found, rfl, hfound 1 found rfl hsize hresult, ?_⟩, hpoints none, hsuggested⟩
    exact hsuggests "Bud" none ["budget"] hsuggested "budget" List.mem_cons_self 1 found rfl
      (by decide) hresult

end Index
end MailSearch
