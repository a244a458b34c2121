import MailSearch.Proofs.Json.Readable
import MailSearch.Proofs.Json.RoundTrip
import MailSearch.Proofs.Record.Mail
import MailSearch.Proofs.Record.RoundTrip

/-!
# Records that can be stored

A record that was made from an email of a document has an id, and its integers are within
the limit. Such a record is written as a plain value, so a document holds it as it is.
-/

namespace MailSearch

section Shown

private theorem layout_ne_empty (d : Decimal) : d.layout ≠ "" := by
  unfold Decimal.layout
  extract_lets digits count leading mantissa sign
  split
  · simp
  · split
    · simp
    · split
      · simp
      · simp

private theorem binary64_text_ne_empty (x : Binary64) : x.text ≠ "" := by
  unfold Binary64.text
  split
  · decide
  · simp [Binary64.infinityText]
  · split
    · simp
    · have hlayout := layout_ne_empty
      split <;> simp [hlayout]

private theorem integerText_ne_empty (n : Int) : integerText n ≠ "" := by
  obtain ⟨c, more, -, htext | htext⟩ := Json.integerText_toList n
  · rintro hempty
    simp [hempty] at htext
  · rintro hempty
    simp [hempty] at htext

private theorem moment_shown_ne_empty (m : Moment) : m.shown ≠ "" := by
  simp [Moment.shown]

/-- Every value but null and the empty text is shown as some text. -/
theorem shown_ne_empty {v : Value} {s : String} (hid : Record.isMissingId v = false)
    (h : v.shown = .ok s) : s ≠ "" := by
  cases v with
  | null => simp [Record.isMissingId] at hid
  | bool b =>
    cases h
    cases b <;> decide
  | int n =>
    change integerText? n = .ok s at h
    unfold integerText? at h
    split at h
    · exact nomatch h
    · cases h
      exact integerText_ne_empty n
  | float x =>
    cases h
    exact binary64_text_ne_empty x
  | text t =>
    cases h
    simpa [Record.isMissingId] using hid
  | list items =>
    obtain ⟨parts, -, hparts⟩ := bind_eq_ok.mp h
    cases hparts
    simp
  | tuple items =>
    obtain ⟨parts, -, hparts⟩ := bind_eq_ok.mp h
    split at hparts <;> cases hparts <;> simp
  | object fields =>
    obtain ⟨parts, -, hparts⟩ := bind_eq_ok.mp h
    cases hparts
    simp
  | moment m =>
    have hshown : m.shown = s := Except.ok.inj h
    exact hshown ▸ moment_shown_ne_empty m

end Shown

namespace Coercion

private theorem fits_readInteger? {s : String} {n : Int} (h : readInteger? s = some n) :
    hasTooManyDigits n = false := by
  unfold readInteger? at h
  dsimp only at h
  split at h
  · exact nomatch h
  · next digits _ =>
    split at h
    · next hdigits =>
      obtain ⟨-, hall, hlength⟩ := hdigits
      have hvalue := value_lt_limit (List.all_eq_true.mp hall) hlength
      apply hasTooManyDigits_eq_false
      rw [← Option.some.inj h]
      split
      · rwa [Int.natAbs_neg]
      · exact hvalue
    · exact nomatch h

private theorem fits_one : hasTooManyDigits 1 = false := by
  decide +kernel

/-- The integer that a value of a document stands for is within the limit. -/
theorem fits_toInteger? {v : Value} {n : Int} (hv : Json.Readable v)
    (h : toInteger? v = some n) : hasTooManyDigits n = false := by
  cases hv with
  | null => exact nomatch h
  | bool b =>
    cases h
    cases b
    · exact hasTooManyDigits_zero
    · exact fits_one
  | int hn =>
    cases h
    exact hn
  | float hx => exact hx n h
  | text s => exact fits_readInteger? h
  | list _ => exact nomatch h
  | object _ => exact nomatch h

private theorem refuse_ne_ok {α : Type} {v : Value} {cause : String → Fault} {a : α} :
    refuse v cause ≠ .ok a := by
  unfold refuse
  cases v.quoted with
  | ok shown => exact nofun
  | error fault => exact nofun

/-- The date of an email of a document is within the limit. -/
theorem fits_toMillis {v : Value} {n : Int} (hv : Json.Readable v) (h : toMillis v = .ok n) :
    hasTooManyDigits n = false := by
  unfold toMillis at h
  split at h
  · exact nomatch hv
  · cases h
    exact hasTooManyDigits_zero
  · cases h
    exact hasTooManyDigits_zero
  · exact absurd h refuse_ne_ok
  · split at h
    · next m hm =>
      cases h
      exact fits_toInteger? hv hm
    · exact absurd h refuse_ne_ok

/-- The size of an email of a document, if it has one, is within the limit. -/
theorem fits_toOptionalInt {field : String} {v : Value} {size : Option Int}
    (hv : Json.Readable v) (h : toOptionalInt field v = .ok size) :
    ∀ n ∈ size, hasTooManyDigits n = false := by
  unfold toOptionalInt at h
  split at h
  · cases h
    exact nofun
  · split at h
    · next m hm =>
      cases h
      intro n hn
      rw [← Option.some.inj hn]
      exact fits_toInteger? hv hm
    · exact nomatch h

end Coercion

namespace Record

open Coercion

/-- What a stored document can hold of a record: an id, and integers within the limit. -/
structure Storable (r : Record) : Prop where
  id : r.id ≠ ""
  date : hasTooManyDigits r.date = false
  size : ∀ n ∈ r.size, hasTooManyDigits n = false

instance : DecidablePred Storable := fun r ↦
  decidable_of_iff (r.id ≠ "" ∧ hasTooManyDigits r.date = false ∧
      ∀ n ∈ r.size, hasTooManyDigits n = false)
    ⟨fun ⟨hid, hdate, hsize⟩ ↦ ⟨hid, hdate, hsize⟩, fun h ↦ ⟨h.id, h.date, h.size⟩⟩

/-- A storable record is written as a plain value. -/
theorem Storable.plain_toValue {r : Record} (h : r.Storable) : Json.Plain 2 r.toValue := by
  apply Json.Plain.object
  · exact (by decide : ["id", "thread_id", "subject", "snippet", "sender", "sender_name", "to",
      "cc", "date", "labels", "is_read", "is_starred", "has_attachment", "tokens", "folder",
      "size"].Nodup)
  · have hfolder : Json.Plain 1 (.optionalText r.folder) := by
      cases r.folder with
      | none => exact .null
      | some s => exact .text s
    have hsize : Json.Plain 1 (.optionalInt r.size) := by
      cases hs : r.size with
      | none => exact .null
      | some n => exact .int (h.size n hs)
    simp only [toFields, List.mem_cons, List.not_mem_nil, or_false, forall_eq_or_imp, forall_eq]
    exact ⟨.text _, .text _, .text _, .text _, .text _, .text _, Json.plain_texts _,
      Json.plain_texts _, .int h.date, Json.plain_texts _, .bool _, .bool _, .bool _,
      Json.plain_texts _, hfolder, hsize⟩

private theorem get_readable {fields : List (String × Value)} (key : String)
    (hfields : ∀ field ∈ fields, Json.Readable field.2) : Json.Readable (get fields key) := by
  unfold get
  cases hv : Value.lookup? key fields with
  | none => exact .null
  | some v => exact Json.readable_of_lookup? hfields hv

private theorem pick_readable {fields : List (String × Value)} (keys : List String)
    (hfields : ∀ field ∈ fields, Json.Readable field.2) : Json.Readable (pick fields keys) := by
  induction keys with
  | nil => exact .null
  | cons key keys ih =>
    rw [pick]
    split
    · exact ih
    · exact get_readable key hfields

/-- The record of an email of a document is storable. -/
theorem storable_of_ofMail {mail : Value} {r : Record} (hmail : Json.Readable mail)
    (h : ofMail mail = .ok r) : r.Storable := by
  obtain ⟨fields, body, rfl, hread⟩ := exists_fields_of_ofMail h
  have hreadable : ∀ field ∈ fields, Json.Readable field.2 := by
    cases hmail with
    | object hvalues => exact hvalues
  exact {
    id := shown_ne_empty hread.hasId hread.id
    date := fits_toMillis (pick_readable ["date"] hreadable) hread.date
    size := fits_toOptionalInt (pick_readable ["size"] hreadable) hread.size }

end Record
end MailSearch
