import MailSearch.Value

/-!
# Writing JSON

A value is written as a sequence of pieces. A piece may be refused, for an integer with
too many digits or a value that has no JSON form, and what stands before it has been
written by then. `Layout.compact` puts everything on one line, `Layout.indented` puts
each item on a line of its own.
-/

namespace MailSearch.Json

/-- How values are laid out. -/
structure Layout where
  /-- characters beyond ASCII are written as numbers -/
  ascii : Bool
  /-- the width of one level of indentation, or everything on one line -/
  indent : Option Nat
  /-- the greatest number of digits of an integer -/
  limit : Option Nat

/-- One line, all characters but controls as they are. -/
def Layout.compact : Layout := ⟨false, none, some digitLimit⟩

/-- Two spaces for each level, in ASCII. -/
def Layout.indented : Layout := ⟨true, some 2, some digitLimit⟩

/-- One line, and integers of any size. -/
def Layout.unlimited : Layout := ⟨false, none, none⟩

/-- A sixteen-bit unit as a number after a backslash. -/
def unitText (n : Nat) : List Char := '\\' :: 'u' :: hexText 4 n

/-- A character inside quotes. -/
def writeChar (ascii : Bool) (c : Char) : List Char :=
  match c with
  | '"' => ['\\', '"']
  | '\\' => ['\\', '\\']
  | '\n' => ['\\', 'n']
  | '\r' => ['\\', 'r']
  | '\t' => ['\\', 't']
  | '\x08' => ['\\', 'b']
  | '\x0c' => ['\\', 'f']
  | c =>
      let n := c.toNat
      if n < 0x20 then unitText n
      else if !ascii || n < 0x7F then [c]
      else if n < 0x10000 then unitText n
      else
        unitText (0xD800 + (n - 0x10000) / 0x400) ++ unitText (0xDC00 + (n - 0x10000) % 0x400)

/-- A text in quotes. -/
def writeText (ascii : Bool) (s : String) : String :=
  String.ofList ('"' :: s.toList.flatMap (writeChar ascii) ++ ['"'])

/-- A floating-point number. -/
def writeFloat : Binary64 → String
  | .nan => "NaN"
  | .infinity negative => if negative then "-Infinity" else "Infinity"
  | x => x.text

/-- A part of what is written, or the cause that writing stops here. -/
abbrev Piece := Except Fault String

/-- An integer after what stands before it. -/
def writeInt (layout : Layout) (before : String) (n : Int) : Piece :=
  match layout.limit with
  | some most =>
      if powerOfTen most ≤ n.natAbs then .error .tooManyDigits else .ok (before ++ integerText n)
  | none => .ok (before ++ integerText n)

namespace Layout

/-- The line break and indentation in front of an item at a level. -/
def breakAt (layout : Layout) (level : Nat) : String :=
  match layout.indent with
  | some width => "\n" ++ String.ofList (List.replicate (width * level) ' ')
  | none => ""

/-- What stands between two items at a level. -/
def between (layout : Layout) (level : Nat) : String :=
  match layout.indent with
  | some _ => "," ++ layout.breakAt level
  | none => ", "

end Layout

mutual

/-- The pieces of a value at a level, with `before` in front of the first. -/
def pieces (layout : Layout) (level : Nat) (before : String) : Value → List Piece
  | .null => [.ok (before ++ "null")]
  | .bool b => [.ok (before ++ if b then "true" else "false")]
  | .int n => [writeInt layout before n]
  | .float x => [.ok (before ++ writeFloat x)]
  | .text s => [.ok (before ++ writeText layout.ascii s)]
  | .list items => .ok before :: listPieces layout level items
  | .tuple items => .ok before :: listPieces layout level items
  | .object [] => [.ok (before ++ "\x7b\x7d")]
  | .object fields =>
      .ok (before ++ "\x7b") ::
        fieldPieces layout (level + 1) (layout.breakAt (level + 1)) fields ++
          [.ok (layout.breakAt level ++ "\x7d")]
  | .moment _ => [.ok before, .error .notSerializable]

/-- The pieces of a list. -/
def listPieces (layout : Layout) (level : Nat) : List Value → List Piece
  | [] => [.ok "[]"]
  | item :: items =>
      pieces layout (level + 1) ("[" ++ layout.breakAt (level + 1)) item ++
        itemPieces layout (level + 1) items ++ [.ok (layout.breakAt level ++ "]")]

/-- The pieces of the items of a list after its first. -/
def itemPieces (layout : Layout) (level : Nat) : List Value → List Piece
  | [] => []
  | item :: items =>
      pieces layout level (layout.between level) item ++ itemPieces layout level items

/-- The pieces of an object's fields; the first begins with `before`. -/
def fieldPieces (layout : Layout) (level : Nat) (before : String) :
    List (String × Value) → List Piece
  | [] => []
  | (key, value) :: fields =>
      .ok (before ++ writeText layout.ascii key ++ ": ") :: pieces layout level "" value ++
        fieldPieces layout level (layout.between level) fields

end

/-- What has been written after `done` when writing ends, and why it stopped early if it
did. -/
def written (done : String) : List Piece → String × Option Fault
  | [] => (done, none)
  | .error fault :: _ => (done, some fault)
  | .ok s :: more => written (done ++ s) more

/-- Write a value as far as it can be written. -/
def write (layout : Layout) (value : Value) : String × Option Fault :=
  written "" (pieces layout 0 "" value)

/-- The text of a value, if all of it can be written. -/
def render (layout : Layout) (value : Value) : Except Fault String :=
  match write layout value with
  | (text, none) => .ok text
  | (_, some fault) => .error fault

end MailSearch.Json
