import MailSearch.Numeric.Natural

/-!
# Postings

An inverted table from keys to the ids filed under them. Keys stand in the order in which
they came to be: a key that loses its last id is dropped, and stands at the end when it
comes back. The view is `ids`; `add` and `remove` change it at one key only.
-/

namespace MailSearch

/-- A table of keys, each with the ids filed under it. -/
structure Postings where
  entries : List (String × List String) := []
  deriving DecidableEq, Repr, Inhabited

namespace Postings

/-- The keys, in the order in which they came to be. -/
def keys (p : Postings) : List String := p.entries.map Prod.fst

/-- The number of keys. -/
def size (p : Postings) : Nat := p.entries.length

/-- The ids of a key among entries. -/
def idsIn (key : String) : List (String × List String) → List String
  | [] => []
  | (k, ids) :: rest => if k = key then ids else idsIn key rest

/-- The ids filed under a key. -/
def ids (p : Postings) (key : String) : List String := idsIn key p.entries

/-- A key that does not stand among entries has no ids. -/
theorem idsIn_eq_nil {key : String} {entries : List (String × List String)}
    (h : key ∉ entries.map Prod.fst) : idsIn key entries = [] := by
  induction entries with
  | nil => rfl
  | cons entry rest ih =>
    simp only [List.map_cons, List.mem_cons, not_or] at h
    simp [idsIn, Ne.symm h.1, ih h.2]

/-- File an id under a key among entries. -/
def addIn (key id : String) : List (String × List String) → List (String × List String)
  | [] => [(key, [id])]
  | (k, ids) :: rest =>
      if k = key then (k, if id ∈ ids then ids else ids ++ [id]) :: rest
      else (k, ids) :: addIn key id rest

/-- File an id under a key. -/
def add (p : Postings) (key id : String) : Postings := ⟨addIn key id p.entries⟩

/-- Filing under a key puts the id at the end of the key's ids unless it is there. -/
theorem idsIn_addIn (key id k : String) (entries : List (String × List String)) :
    idsIn k (addIn key id entries) =
      if k = key then
        if id ∈ idsIn key entries then idsIn key entries else idsIn key entries ++ [id]
      else idsIn k entries := by
  induction entries with
  | nil =>
    by_cases hk : k = key
    · simp [addIn, idsIn, hk]
    · simp [addIn, idsIn, hk, Ne.symm hk]
  | cons entry rest ih =>
    obtain ⟨own, ids⟩ := entry
    by_cases hown : own = key
    · subst hown
      by_cases hk : k = own
      · simp [addIn, idsIn, hk]
      · simp [addIn, idsIn, hk, Ne.symm hk]
    · by_cases hk : k = key
      · subst hk
        simpa [addIn, idsIn, hown] using ih
      · by_cases howner : own = k <;> simp [addIn, idsIn, hown, howner, hk, ih]

/-- What filing under a key does to the view. -/
theorem ids_add (p : Postings) (key id k : String) :
    (p.add key id).ids k =
      if k = key then if id ∈ p.ids key then p.ids key else p.ids key ++ [id] else p.ids k :=
  idsIn_addIn key id k p.entries

/-- Take an id from a key among entries, and the key away with its last id. -/
def removeIn (key id : String) : List (String × List String) → List (String × List String)
  | [] => []
  | (k, ids) :: rest =>
      if k = key then
        match ids.filter (· ≠ id) with
        | [] => rest
        | left => (k, left) :: rest
      else (k, ids) :: removeIn key id rest

/-- Taking an id from a key leaves the ids of every other key. -/
theorem idsIn_removeIn_of_ne {key k : String} (h : k ≠ key) (id : String)
    (entries : List (String × List String)) :
    idsIn k (removeIn key id entries) = idsIn k entries := by
  induction entries with
  | nil => rfl
  | cons entry rest ih =>
    obtain ⟨own, ids⟩ := entry
    by_cases hown : own = key
    · subst hown
      simp only [removeIn, if_true]
      split <;> simp [idsIn, Ne.symm h]
    · simp [removeIn, idsIn, hown, ih]

/-- Taking an id from a key takes it from the key's ids, if no key stands twice. -/
theorem idsIn_removeIn_self {entries : List (String × List String)}
    (h : (entries.map Prod.fst).Nodup) (key id : String) :
    idsIn key (removeIn key id entries) = (idsIn key entries).filter (· ≠ id) := by
  induction entries with
  | nil => rfl
  | cons entry rest ih =>
    obtain ⟨own, ids⟩ := entry
    simp only [List.map_cons, List.nodup_cons] at h
    by_cases hown : own = key
    · subst hown
      simp only [removeIn, if_true, idsIn]
      split
      · next hnone => rw [hnone, idsIn_eq_nil h.1]
      · simp [idsIn]
    · simp [removeIn, idsIn, hown, ih h.2]

/-- Take an id from a key. -/
def remove (p : Postings) (key id : String) : Postings := ⟨removeIn key id p.entries⟩

/-- File an id under several keys. -/
def addAll (p : Postings) (keys : List String) (id : String) : Postings :=
  keys.foldl (fun p key ↦ p.add key id) p

/-- Take an id from several keys. -/
def removeAll (p : Postings) (keys : List String) (id : String) : Postings :=
  keys.foldl (fun p key ↦ p.remove key id) p

/-- The number of ids filed under all keys together. -/
def load (p : Postings) : Nat := total (p.entries.map fun entry ↦ entry.2.length)

/-- The number of characters of all keys together. -/
def keyLength (p : Postings) : Nat := total (p.entries.map fun entry ↦ entry.1.length)

/-- Whether two tables file the same ids under the same keys, in whatever order. -/
def sameSets (p q : Postings) : Bool :=
  p.keys.all (q.keys.contains ·) && q.keys.all (p.keys.contains ·) &&
    p.keys.all fun key ↦
      (p.ids key).all ((q.ids key).contains ·) && (q.ids key).all ((p.ids key).contains ·)

end Postings
end MailSearch
