import MailSearch.Event

/-!
# Steps in sequence

A sequence of steps gives a result just if each of its steps does, and fails with the fault
of the first step that fails. The result of a logged sequence does not depend on what is
reported on the way.
-/

namespace MailSearch

section Except

variable {ε α β : Type} {x : Except ε α} {f : α → Except ε β}

/-- Two steps give a result if both do. -/
theorem bind_eq_ok {b : β} : (x >>= f) = .ok b ↔ ∃ a, x = .ok a ∧ f a = .ok b := by
  cases x with
  | error fault => simp [bind, Except.bind]
  | ok a => simp [bind, Except.bind]

/-- Two steps fail if the first fails, or the second after a result of the first. -/
theorem bind_eq_error {e : ε} :
    (x >>= f) = .error e ↔ x = .error e ∨ ∃ a, x = .ok a ∧ f a = .error e := by
  cases x with
  | error fault => simp [bind, Except.bind]
  | ok a => simp [bind, Except.bind]

/-- A step that is only changed in its result gives one if it did. -/
theorem map_eq_ok {g : α → β} {b : β} : x.map g = .ok b ↔ ∃ a, x = .ok a ∧ g a = b := by
  cases x with
  | error fault => simp [Except.map]
  | ok a => simp [Except.map]

/-- A step that is only changed in its result fails as it did. -/
theorem map_eq_error {g : α → β} {e : ε} : x.map g = .error e ↔ x = .error e := by
  cases x with
  | error fault => simp [Except.map]
  | ok a => simp [Except.map]

/-- A step that is only changed in its result gives one just if it did. -/
@[simp] theorem isOk_map {g : α → β} : (x.map g).isOk = x.isOk := by
  cases x with
  | error fault => rfl
  | ok a => rfl

end Except

section List

variable {ε α β : Type} {f : α → Except ε β} {xs : List α} {ys : List β}

/-- The elements behind the results of a successful step over a list. -/
theorem map_of_mapM {g : β → α} (hg : ∀ x y, f x = .ok y → g y = x) (h : xs.mapM f = .ok ys) :
    ys.map g = xs := by
  induction xs generalizing ys with
  | nil =>
    obtain rfl := Except.ok.inj h
    rfl
  | cons x xs ih =>
    rw [List.mapM_cons] at h
    obtain ⟨y, hx, h⟩ := bind_eq_ok.mp h
    obtain ⟨rest, hxs, h⟩ := bind_eq_ok.mp h
    obtain rfl := Except.ok.inj h
    rw [List.map_cons, hg x y hx, ih hxs]

/-- Every result of a successful step over a list comes from an element. -/
theorem forall_of_mapM {p : β → Prop} (hp : ∀ x y, f x = .ok y → p y)
    (h : xs.mapM f = .ok ys) : ∀ y ∈ ys, p y := by
  induction xs generalizing ys with
  | nil =>
    obtain rfl := Except.ok.inj h
    simp
  | cons x xs ih =>
    rw [List.mapM_cons] at h
    obtain ⟨y, hx, h⟩ := bind_eq_ok.mp h
    obtain ⟨rest, hxs, h⟩ := bind_eq_ok.mp h
    obtain rfl := Except.ok.inj h
    exact List.forall_mem_cons.mpr ⟨hp x y hx, ih hxs⟩

/-- A step that succeeds over a list succeeds over what is kept of it, with the results of what
is kept. -/
theorem mapM_filter {keep : α → Bool} {kept : β → Bool}
    (hkeep : ∀ x y, f x = .ok y → kept y = keep x) (h : xs.mapM f = .ok ys) :
    (xs.filter keep).mapM f = .ok (ys.filter kept) := by
  induction xs generalizing ys with
  | nil =>
    obtain rfl := Except.ok.inj h
    rfl
  | cons x xs ih =>
    rw [List.mapM_cons] at h
    obtain ⟨y, hx, h⟩ := bind_eq_ok.mp h
    obtain ⟨rest, hxs, h⟩ := bind_eq_ok.mp h
    obtain rfl := Except.ok.inj h
    have hy : kept y = keep x := hkeep x y hx
    cases hkept : keep x with
    | false =>
      rw [List.filter_cons_of_neg (by simp [hkept]), List.filter_cons_of_neg (by simp [hy, hkept])]
      exact ih hxs
    | true =>
      rw [List.filter_cons_of_pos hkept, List.filter_cons_of_pos (hy.trans hkept),
        List.mapM_cons, hx, ih hxs]
      rfl

/-- A step over a list that fails does so as one of its elements does. -/
theorem exists_of_mapM_eq_error {e : ε} (h : xs.mapM f = .error e) : ∃ x ∈ xs, f x = .error e := by
  induction xs with
  | nil => exact nomatch h
  | cons x xs ih =>
    rw [List.mapM_cons] at h
    rcases bind_eq_error.mp h with hx | ⟨y, -, h⟩
    · exact ⟨x, List.mem_cons_self, hx⟩
    · rcases bind_eq_error.mp h with hxs | ⟨rest, -, h⟩
      · obtain ⟨other, hother, he⟩ := ih hxs
        exact ⟨other, List.mem_cons_of_mem x hother, he⟩
      · exact nomatch h

/-- A step over a list gives results if each of its elements gives one. -/
theorem isOk_mapM_iff : (xs.mapM f).isOk ↔ ∀ x ∈ xs, (f x).isOk := by
  cases h : xs.mapM f with
  | error e =>
    obtain ⟨x, hx, he⟩ := exists_of_mapM_eq_error h
    refine iff_of_false nofun fun hall ↦ ?_
    have hok := hall x hx
    rw [he] at hok
    exact nomatch hok
  | ok ys =>
    refine iff_of_true rfl ?_
    induction xs generalizing ys with
    | nil => simp
    | cons x xs ih =>
      rw [List.mapM_cons] at h
      obtain ⟨y, hx, h⟩ := bind_eq_ok.mp h
      obtain ⟨rest, hxs, -⟩ := bind_eq_ok.mp h
      exact List.forall_mem_cons.mpr ⟨by rw [hx]; rfl, ih rest hxs⟩

end List

namespace Logged

variable {α β : Type}

/-- The result of two logged steps. -/
theorem result_bind (x : Logged α) (f : α → Logged β) :
    (x >>= f).result = x.result >>= fun a ↦ (f a).result := by
  change (Logged.bind x f).result = _
  unfold Logged.bind
  cases x.result with
  | error fault => rfl
  | ok a => rfl

end Logged
end MailSearch
