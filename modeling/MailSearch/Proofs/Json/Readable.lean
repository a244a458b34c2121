import Mathlib.Data.List.TakeWhile
import MailSearch.Proofs.Numeric.Digits
import MailSearch.Proofs.Outcome
import MailSearch.Snapshot

/-!
# What a document can hold

A reader that limits the digits of an integer gives integers within the limit only, neither
tuples nor dates, and floating-point numbers whose integer part is within the limit too, as
they are rounded into the range of the format.
-/

namespace MailSearch.Json

/-- A value that a reader with a limit on digits can give. -/
inductive Readable : Value → Prop where
  | null : Readable .null
  | bool (b : Bool) : Readable (.bool b)
  | int {n : Int} (h : hasTooManyDigits n = false) : Readable (.int n)
  | float {x : Binary64} (h : ∀ n, x.truncate? = some n → hasTooManyDigits n = false) :
      Readable (.float x)
  | text (s : String) : Readable (.text s)
  | list {items : List Value} (h : ∀ item ∈ items, Readable item) : Readable (.list items)
  | object {fields : List (String × Value)} (h : ∀ field ∈ fields, Readable field.2) :
      Readable (.object fields)

/-- A field of a readable object is readable. -/
theorem readable_of_lookup? {key : String} {fields : List (String × Value)} {v : Value}
    (hfields : ∀ field ∈ fields, Readable field.2) (h : Value.lookup? key fields = some v) :
    Readable v :=
  hfields (key, v) (Value.mem_of_lookup? h)

section Number

private theorem maxSteps_lt :
    Binary64.maxSteps / Binary64.stepsPerUnit < powerOfTen digitLimit := by
  decide +kernel

private theorem fits_truncate_finite {negative : Bool} {steps : Nat} {n : Int}
    (hsteps : steps ≤ Binary64.maxSteps)
    (h : (Binary64.finite negative steps).truncate? = some n) : hasTooManyDigits n = false := by
  have hwhole : steps / Binary64.stepsPerUnit < powerOfTen digitLimit :=
    Nat.lt_of_le_of_lt (Nat.div_le_div_right hsteps) maxSteps_lt
  have hn : n.natAbs = steps / Binary64.stepsPerUnit := by
    simp only [Binary64.truncate?, Option.some.injEq] at h
    rw [← h]
    cases negative with
    | true => exact Int.natAbs_neg _
    | false => rfl
  apply hasTooManyDigits_eq_false
  rwa [hn]

private theorem fits_truncate_ofSteps {negative : Bool} {num den : Nat} {n : Int}
    (h : (Binary64.ofSteps negative num den).truncate? = some n) : hasTooManyDigits n = false := by
  unfold Binary64.ofSteps at h
  dsimp only at h
  split at h
  · next hsteps => exact fits_truncate_finite hsteps h
  · exact nomatch h

private theorem fits_truncate_scaled {negative : Bool} {digits : List Char} {exponent n : Int}
    (h : (Literal.scaled negative digits exponent).truncate? = some n) :
    hasTooManyDigits n = false := by
  unfold Literal.scaled at h
  dsimp only at h
  split at h
  · exact fits_truncate_finite (Nat.zero_le _) h
  · split at h
    · exact nomatch h
    · exact fits_truncate_ofSteps h

private theorem isDigit_of_integerPart? {cs whole : List Char} (h : integerPart? cs = some whole) :
    ∀ c ∈ whole, Literal.isDigit c := by
  unfold integerPart? at h
  split at h
  · rw [← Option.some.inj h]
    intro c hc
    rw [List.mem_singleton.mp hc]
    rfl
  · dsimp only at h
    split at h
    · exact nomatch h
    · rw [← Option.some.inj h]
      intro c hc
      exact List.mem_takeWhile_imp hc

private theorem fits_signed {negative : Bool} {digits : List Char}
    (hdigits : ∀ c ∈ digits, Literal.isDigit c) (hlength : digits.length ≤ digitLimit) :
    hasTooManyDigits (signed negative digits) = false := by
  have hvalue := value_lt_limit hdigits hlength
  apply hasTooManyDigits_eq_false
  cases negative with
  | true => rwa [signed, if_pos rfl, Int.natAbs_neg]
  | false => exact hvalue

variable {limits : Limits} (hlimits : limits.digits = some digitLimit)

include hlimits

private theorem readNumber_readable {c stop : Cursor} {v : Value}
    (h : readNumber limits c = .ok (v, stop)) : Readable v := by
  unfold readNumber at h
  extract_lets negative afterSign at h
  split at h
  · exact nomatch h
  · next whole hwhole =>
    extract_lets fraction width exponent last power at h
    split at h
    · split at h
      · exact nomatch h
      · next hlength =>
        obtain ⟨rfl, -⟩ := Prod.mk.inj (Except.ok.inj h)
        refine Readable.int (fits_signed (isDigit_of_integerPart? hwhole) ?_)
        simpa [exceeds, hlimits] using hlength
    · obtain ⟨rfl, -⟩ := Prod.mk.inj (Except.ok.inj h)
      exact Readable.float fun n hn ↦ fits_truncate_scaled hn

end Number

private theorem readWord?_readable {c : Cursor} {found : Value × Cursor}
    (h : readWord? c = some found) : Readable found.1 := by
  have hwords : ∀ entry ∈ [("null", Value.null), ("true", .bool true), ("false", .bool false),
      ("NaN", .float .nan), ("Infinity", .float (.infinity false)),
      ("-Infinity", .float (.infinity true))], Readable entry.2 := by
    simp only [List.mem_cons, List.not_mem_nil, or_false, forall_eq_or_imp, forall_eq]
    exact ⟨.null, .bool true, .bool false, .float nofun, .float nofun, .float nofun⟩
  obtain ⟨entry, hentry, hfound⟩ := List.exists_of_findSome?_eq_some h
  obtain ⟨rest, -, rfl⟩ := Option.map_eq_some_iff.mp hfound
  exact hwords entry hentry

private theorem setField_readable (key : String) {value : Value} {fields : List (String × Value)}
    (hvalue : Readable value) (hfields : ∀ field ∈ fields, Readable field.2) :
    ∀ field ∈ Value.setField key value fields, Readable field.2 := by
  induction fields with
  | nil =>
    intro field hfield
    rw [List.mem_singleton.mp hfield]
    exact hvalue
  | cons old fields ih =>
    obtain ⟨hold, hothers⟩ := List.forall_mem_cons.mp hfields
    rw [Value.setField]
    split
    · exact List.forall_mem_cons.mpr ⟨hvalue, hothers⟩
    · exact List.forall_mem_cons.mpr ⟨hold, ih hothers⟩

/-- With so much fuel the three readers give readable values only; fields are added to
readable ones. -/
structure ReadsReadable (limits : Limits) (fuel : Nat) : Prop where
  value : ∀ inside c v stop, readValue limits inside fuel c = .ok (v, stop) → Readable v
  items : ∀ inside c items stop, readItems limits inside fuel c = .ok (items, stop) →
    ∀ item ∈ items, Readable item
  fields : ∀ inside c done fields stop, (∀ field ∈ done, Readable field.2) →
    readFields limits inside fuel c done = .ok (fields, stop) →
      ∀ field ∈ fields, Readable field.2

section Reader

variable {limits : Limits} (hlimits : limits.digits = some digitLimit) {fuel inside : Nat}
  {c stop : Cursor}

private theorem readable_of_readItems (ih : ReadsReadable limits fuel) {items : List Value}
    (h : readItems limits inside (fuel + 1) c = .ok (items, stop)) :
    ∀ item ∈ items, Readable item := by
  rw [readItems] at h
  obtain ⟨⟨item, after⟩, hitem, h⟩ := bind_eq_ok.mp h
  have hread := ih.value _ _ _ _ hitem
  dsimp only at h
  split at h
  · cases h
    exact List.forall_mem_singleton.mpr hread
  · obtain ⟨⟨others, last⟩, hothers, h⟩ := bind_eq_ok.mp h
    cases h
    exact List.forall_mem_cons.mpr ⟨hread, ih.items _ _ _ _ hothers⟩
  · exact nomatch h

private theorem readable_of_readFields (ih : ReadsReadable limits fuel)
    {done fields : List (String × Value)} (hdone : ∀ field ∈ done, Readable field.2)
    (h : readFields limits inside (fuel + 1) c done = .ok (fields, stop)) :
    ∀ field ∈ fields, Readable field.2 := by
  rw [readFields] at h
  split at h
  · obtain ⟨⟨key, afterKey⟩, -, h⟩ := bind_eq_ok.mp h
    dsimp only at h
    split at h
    · obtain ⟨⟨value, after⟩, hvalue, h⟩ := bind_eq_ok.mp h
      have hfields := setField_readable key (ih.value _ _ _ _ hvalue) hdone
      dsimp only at h
      split at h
      · cases h
        exact hfields
      · exact ih.fields _ _ _ _ _ hfields h
      · exact nomatch h
    · exact nomatch h
  · exact nomatch h

include hlimits

private theorem readable_of_readValue (ih : ReadsReadable limits fuel) {v : Value}
    (h : readValue limits inside (fuel + 1) c = .ok (v, stop)) : Readable v := by
  rw [readValue] at h
  split at h
  · obtain ⟨⟨s, after⟩, -, h⟩ := bind_eq_ok.mp h
    cases h
    exact .text s
  · extract_lets opened at h
    split at h
    · exact nomatch h
    · split at h
      · cases h
        exact .list nofun
      · obtain ⟨⟨items, after⟩, hitems, h⟩ := bind_eq_ok.mp h
        cases h
        exact .list (ih.items _ _ _ _ hitems)
  · extract_lets opened at h
    split at h
    · exact nomatch h
    · split at h
      · cases h
        exact .object nofun
      · obtain ⟨⟨fields, after⟩, hfields, h⟩ := bind_eq_ok.mp h
        cases h
        exact .object (ih.fields _ _ _ _ _ (List.forall_mem_nil _) hfields)
  · split at h
    · next hword =>
      cases h
      exact readWord?_readable hword
    · exact readNumber_readable hlimits h

/-- The three readers give readable values with any fuel. -/
theorem readsReadable (fuel : Nat) : ReadsReadable limits fuel := by
  induction fuel with
  | zero => exact ⟨nofun, nofun, nofun⟩
  | succ fuel ih =>
    exact {
      value := fun _ _ _ _ h ↦ readable_of_readValue hlimits ih h
      items := fun _ _ _ _ h ↦ readable_of_readItems ih h
      fields := fun _ _ _ _ _ hdone h ↦ readable_of_readFields ih hdone h }

/-- A document that is read is readable. -/
theorem readable_of_read {document : String} {v : Value} (h : read limits document = .ok v) :
    Readable v := by
  have hchars : readChars limits document.toList = .ok v := by
    unfold read at h
    split at h
    · next value hvalue =>
      cases h
      exact hvalue
    all_goals exact nomatch h
  unfold readChars at hchars
  split at hchars
  · exact nomatch hchars
  · obtain ⟨⟨value, after⟩, hvalue, hrest⟩ := bind_eq_ok.mp hchars
    dsimp only at hrest
    split at hrest
    · cases hrest
      exact (readsReadable hlimits _).value _ _ _ _ hvalue
    · exact nomatch hrest

end Reader

end MailSearch.Json
