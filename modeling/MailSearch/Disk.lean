import MailSearch.Fault
import MailSearch.Path

/-!
# Files

A tree of folders and files as a value: entries at locations, which are lists of names
from the root, each with the folder it stands in. A file holds text, or bytes that are no
text. Its mode is that of a new file until it is changed.
-/

namespace MailSearch

/-- What a file holds: text, or bytes that are not UTF-8. -/
inductive Content where
  | text (s : String)
  | bytes (bs : List Nat)
  deriving DecidableEq, Repr, Inhabited

/-- An entry of the tree. -/
inductive Entry where
  | folder
  | file (content : Content) (mode : Nat)
  deriving DecidableEq, Repr, Inhabited

namespace Utf8

/-- Whether a byte continues a character. -/
def isContinuation (b : Nat) : Bool := 0x80 ≤ b && b < 0xC0

/-- The range in which the second byte must lie after a first byte, and how many bytes
follow the first; nothing if no character begins with it. -/
def lead? (b : Nat) : Option (Nat × Nat × Nat) :=
  if 0xC2 ≤ b ∧ b < 0xE0 then some (0x80, 0xC0, 1)
  else if b = 0xE0 then some (0xA0, 0xC0, 2)
  else if b = 0xED then some (0x80, 0xA0, 2)
  else if 0xE1 ≤ b ∧ b < 0xF0 then some (0x80, 0xC0, 2)
  else if b = 0xF0 then some (0x90, 0xC0, 3)
  else if 0xF1 ≤ b ∧ b < 0xF4 then some (0x80, 0xC0, 3)
  else if b = 0xF4 then some (0x80, 0x90, 3)
  else none

/-- How many of the bytes after a first byte belong to its character, and whether the
bytes ended there. -/
def following (low high count : Nat) (bs : List Nat) : Nat × Bool :=
  match bs with
  | [] => (0, true)
  | b :: more =>
      if low ≤ b ∧ b < high then
        let good := ((more.take (count - 1)).takeWhile isContinuation).length
        (good + 1, decide (good = more.length))
      else (0, false)

/-- The first place at which bytes are not UTF-8; at most `fuel` characters are passed. -/
def problemFrom? (offset : Nat) : Nat → List Nat → Option Utf8Problem
  | 0, _ => none
  | _, [] => none
  | fuel + 1, b :: bs =>
      if b < 0x80 then problemFrom? (offset + 1) fuel bs
      else
        match lead? b with
        | none => some ⟨b, offset, offset, "invalid start byte"⟩
        | some (low, high, count) =>
            let (good, ended) := following low high count bs
            if good = count then problemFrom? (offset + 1 + count) fuel (bs.drop count)
            else if ended then some ⟨b, offset, offset + good, "unexpected end of data"⟩
            else some ⟨b, offset, offset + good, "invalid continuation byte"⟩

/-- The first place at which bytes are not UTF-8. -/
def problem? (bs : List Nat) : Option Utf8Problem := problemFrom? 0 bs.length bs

end Utf8

namespace Content

/-- What some bytes are: text if they are UTF-8. -/
def ofBytes (bytes : ByteArray) : Content :=
  match String.fromUTF8? bytes with
  | some s => text s
  | none => .bytes (bytes.toList.map UInt8.toNat)

/-- The bytes of what a file holds. -/
def toBytes : Content → ByteArray
  | text s => s.toUTF8
  | bytes bs => ⟨(bs.map UInt8.ofNat).toArray⟩

/-- The number of bytes. -/
def size : Content → Nat
  | text s => s.utf8ByteSize
  | bytes bs => bs.length

/-- The text of what a file holds. -/
def toText : Content → Except Fault String
  | text s => .ok s
  | bytes bs => .error (.notUtf8 ((Utf8.problem? bs).getD ⟨0, 0, 0, ""⟩))

end Content

/-- Line ends of all kinds as line feeds. -/
def unifyLineEnds : List Char → List Char
  | [] => []
  | '\r' :: '\n' :: cs => '\n' :: unifyLineEnds cs
  | c :: cs => (if c = '\r' then '\n' else c) :: unifyLineEnds cs

/-- A tree of files, and the folder in which relative paths begin. -/
structure Disk where
  entries : List (List String × Entry) := []
  current : List String := []
  deriving DecidableEq, Repr, Inhabited

namespace Disk

/-- The mode of a new file. -/
def usualMode : Nat := 0o644

/-- The mode of a file that only its owner may read. -/
def privateMode : Nat := 0o600

/-- The entry at a location; the root is a folder. -/
def at? (d : Disk) (location : List String) : Option Entry :=
  if location = [] then some .folder else d.entries.lookup location

/-- Put an entry at a location. -/
def put (d : Disk) (location : List String) (entry : Entry) : Disk :=
  { d with entries := d.entries.filter (·.1 ≠ location) ++ [(location, entry)] }

/-- Take the entry at a location away. -/
def drop (d : Disk) (location : List String) : Disk :=
  { d with entries := d.entries.filter (·.1 ≠ location) }

/-- The locations that names pass from a location on. -/
def passed (location : List String) : List String → List (List String)
  | [] => []
  | name :: names =>
      let next := if name = ".." then location.dropLast else location ++ [name]
      next :: passed next names

/-- The greatest number of bytes of a name. -/
def nameLimit : Nat := 255

/-- The greatest number of bytes of a path. -/
def pathLimit : Nat := 4095

/-- Follow names from a location. Every name but the last must lead to a folder. -/
def follow (d : Disk) (shown : String) (location : List String) :
    List String → Except Fault (List String)
  | [] => .ok location
  | name :: names =>
      match d.at? location with
      | some .folder =>
          if nameLimit < name.utf8ByteSize then .error (.nameTooLong shown)
          else
            let next := if name = ".." then location.dropLast else location ++ [name]
            d.follow shown next names
      | some (.file _ _) => .error (.notAFolder shown)
      | none => .error (.noSuchEntry shown)

/-- The location in which a path begins. -/
def start (d : Disk) (p : Path) : List String := if p.root.isEmpty then d.current else []

/-- The location that a path leads to, whether there is an entry or not. -/
def locate (d : Disk) (p : Path) : Except Fault (List String) :=
  if p.toText.toList.contains '\x00' then .error .zeroInPath
  else if pathLimit < p.toText.utf8ByteSize then .error (.nameTooLong p.quoted)
  else d.follow p.quoted (d.start p) p.names

/-- The entry that a path leads to. -/
def entryAt? (d : Disk) (p : Path) : Option Entry :=
  match d.locate p with
  | .ok location => d.at? location
  | .error _ => none

/-- Whether a path leads to an entry. A name that is too long is a fault. -/
def hasEntry (d : Disk) (p : Path) : Except Fault Bool :=
  match d.locate p with
  | .ok location => .ok (d.at? location).isSome
  | .error (.nameTooLong shown) => .error (.nameTooLong shown)
  | .error _ => .ok false

/-- What the file of a path holds. -/
def content (d : Disk) (p : Path) : Except Fault Content := do
  match d.at? (← d.locate p) with
  | some (.file content _) => return content
  | some .folder => throw (.isAFolder p.quoted)
  | none => throw (.noSuchEntry p.quoted)

/-- Make one folder. -/
def makeFolder (d : Disk) (p : Path) : Except Fault Disk := do
  let location ← d.locate p
  match d.at? location with
  | some _ => throw (.fileExists p.quoted)
  | none =>
      match d.at? location.dropLast with
      | some .folder => return d.put location .folder
      | some (.file _ _) => throw (.notAFolder p.quoted)
      | none => throw (.noSuchEntry p.quoted)

/-- Make a folder unless it is there. -/
def ensureFolder (d : Disk) (p : Path) : Disk × Except Fault Unit :=
  match d.makeFolder p with
  | .ok made => (made, .ok ())
  | .error fault =>
      match d.entryAt? p with
      | some .folder => (d, .ok ())
      | _ => (d, .error fault)

/-- Make a folder and those it stands in, as far as they are not there; `names` are the
names of the path, last first. Folders that were made stay on failure. -/
def ensureNames (d : Disk) (root : String) : List String → Disk × Except Fault Unit
  | [] => d.ensureFolder ⟨root, []⟩
  | name :: names =>
      let p : Path := ⟨root, (name :: names).reverse⟩
      match d.makeFolder p with
      | .error (.noSuchEntry _) =>
          match d.ensureNames root names with
          | (d, .ok ()) => d.ensureFolder p
          | failed => failed
      | _ => d.ensureFolder p

/-- Make a folder and those it stands in, as far as they are not there. -/
def ensureFolders (d : Disk) (p : Path) : Disk × Except Fault Unit :=
  d.ensureNames p.root p.names.reverse

/-- Write a file; one that is there keeps its mode. -/
def writeFile (d : Disk) (p : Path) (content : Content) : Except Fault Disk := do
  let location ← d.locate p
  match d.at? location with
  | some .folder => throw (.isAFolder p.quoted)
  | some (.file _ mode) => return d.put location (.file content mode)
  | none =>
      match d.at? location.dropLast with
      | some .folder => return d.put location (.file content usualMode)
      | some (.file _ _) => throw (.notAFolder p.quoted)
      | none => throw (.noSuchEntry p.quoted)

/-- Let only the owner read a file. -/
def makePrivate (d : Disk) (p : Path) : Disk :=
  match d.locate p with
  | .ok location =>
      match d.at? location with
      | some (.file content _) => d.put location (.file content privateMode)
      | _ => d
  | .error _ => d

/-- Move a file to a path, in place of a file that is there. The path must end in a name. -/
def moveFile (d : Disk) (source target : Path) : Except Fault Disk := do
  let origin ← d.locate source
  let goal ← d.locate target
  if target.name = ".." then throw (.placeInUse (source.quoted ++ " -> " ++ target.quoted))
  match d.at? origin, d.at? goal with
  | some (.file _ _), some .folder =>
      throw (.isAFolder (source.quoted ++ " -> " ++ target.quoted))
  | some entry, _ => return (d.drop origin).put goal entry
  | none, _ => throw (.noSuchEntry (source.quoted ++ " -> " ++ target.quoted))

end Disk
end MailSearch
