import MailSearch.Value

/-!
# Reading JSON

A document is read from left to right by a cursor that knows its offset, so that every
problem names its place. Beyond the grammar, `NaN` and the infinities are read, the last
of several equal keys counts and the first keeps the place. Limits may be set to the
digits of an integer and to the depth of lists and objects inside one another.
-/

namespace MailSearch.Json

/-- What remains of a document, and the offset at which it begins. -/
structure Cursor where
  rest : List Char
  offset : Nat

/-- How many digits an integer may have, and how many lists and objects may stand inside
one another; nothing if there is no limit. -/
structure Limits where
  digits : Option Nat := none
  depth : Option Nat := none
  deriving DecidableEq, Repr

/-- No limits. -/
def Limits.unlimited : Limits := {}

/-- Whether a number is above a limit. -/
def exceeds (n : Nat) (limit : Option Nat) : Bool := limit.any (· < n)

/-- What stops a reader: a problem of the document, an integer with too many digits, or a
list or an object too deep inside others. -/
inductive Stop where
  | problem (what : String) (offset : Nat)
  | longNumeral (digits : Nat)
  | tooDeep
  deriving DecidableEq, Repr

/-- White space of the format. -/
def isSpace (c : Char) : Bool := c = ' ' || c = '\t' || c = '\n' || c = '\r'

namespace Cursor

/-- Move past a number of characters. -/
def advance (c : Cursor) (count : Nat) : Cursor := ⟨c.rest.drop count, c.offset + count⟩

/-- Move past white space. -/
def skipSpace (c : Cursor) : Cursor :=
  ⟨c.rest.dropWhile isSpace, c.offset + (c.rest.takeWhile isSpace).length⟩

/-- Stop here. -/
def fail {α : Type} (c : Cursor) (what : String) : Except Stop (α × Cursor) :=
  .error (.problem what c.offset)

/-- Move past a word if it stands here. -/
def word? (c : Cursor) (word : String) : Option Cursor :=
  if word.toList.isPrefixOf c.rest then some (c.advance word.length) else none

end Cursor

/-- The value of a hexadecimal digit. -/
def hexValue? (c : Char) : Option Nat :=
  if '0' ≤ c ∧ c ≤ '9' then some (c.toNat - 0x30)
  else if 'a' ≤ c ∧ c ≤ 'f' then some (c.toNat - 0x57)
  else if 'A' ≤ c ∧ c ≤ 'F' then some (c.toNat - 0x37)
  else none

/-- The value of four hexadecimal digits. -/
def hexNumber? (cs : List Char) : Option Nat :=
  cs.foldlM (fun n c ↦ (hexValue? c).map (16 * n + ·)) 0

/-- The character that a letter stands for after a backslash. -/
def escaped? : Char → Option Char
  | '"' => some '"'
  | '\\' => some '\\'
  | '/' => some '/'
  | 'b' => some '\x08'
  | 'f' => some '\x0c'
  | 'n' => some '\n'
  | 'r' => some '\r'
  | 't' => some '\t'
  | _ => none

/-- The second half of a pair of surrogates: six characters, with more after them. -/
def lowSurrogate (high offset : Nat) : List Char → Except Stop (Option Char)
  | '\\' :: 'u' :: a :: b :: c :: d :: _ :: _ =>
      match hexNumber? [a, b, c, d] with
      | none => .error (.problem "Invalid \\uXXXX escape" (offset + 1))
      | some low =>
          if 0xDC00 ≤ low ∧ low < 0xE000 then
            .ok (some (Char.ofNat (0x10000 + (high - 0xD800) * 0x400 + (low - 0xDC00))))
          else .ok none
  | _ => .ok none

/-- Read the rest of a text whose opening quote stands at `start`; at most `fuel`
characters and escapes are read. An escape for half of a pair of surrogates that lacks the
other half is no character, so it is read as U+FFFD; a host whose texts can hold the half
keeps it. -/
def readText (start : Nat) : Nat → Cursor → List Char → Except Stop (String × Cursor)
  | 0, _, _ => .error (.problem "Unterminated string starting at" start)
  | fuel + 1, c, done =>
      match c.rest with
      | [] => .error (.problem "Unterminated string starting at" start)
      | '"' :: _ => .ok (String.ofList done.reverse, c.advance 1)
      | '\\' :: 'u' :: more =>
          match more with
          | h₁ :: h₂ :: h₃ :: h₄ :: _ :: _ =>
              match hexNumber? [h₁, h₂, h₃, h₄] with
              | none => .error (.problem "Invalid \\uXXXX escape" (c.offset + 1))
              | some n =>
                  if 0xD800 ≤ n ∧ n < 0xDC00 then
                    match lowSurrogate n (c.offset + 6) (more.drop 4) with
                    | .error stop => .error stop
                    | .ok (some pair) => readText start fuel (c.advance 12) (pair :: done)
                    | .ok none => readText start fuel (c.advance 6) ('\uFFFD' :: done)
                  else if 0xDC00 ≤ n ∧ n < 0xE000 then
                    readText start fuel (c.advance 6) ('\uFFFD' :: done)
                  else readText start fuel (c.advance 6) (Char.ofNat n :: done)
          | _ => .error (.problem "Invalid \\uXXXX escape" (c.offset + 1))
      | ['\\'] => .error (.problem "Unterminated string starting at" start)
      | '\\' :: letter :: _ =>
          match escaped? letter with
          | some e => readText start fuel (c.advance 2) (e :: done)
          | none => .error (.problem "Invalid \\escape" c.offset)
      | plain :: _ =>
          if plain.toNat < 0x20 then c.fail "Invalid control character at"
          else readText start fuel (c.advance 1) (plain :: done)

/-- The integer part of a number: a zero, or digits that do not begin with one. -/
def integerPart? : List Char → Option (List Char)
  | '0' :: _ => some ['0']
  | cs =>
      let digits := cs.takeWhile Literal.isDigit
      if digits = [] then none else some digits

/-- The fraction of a number, without its point. -/
def fractionPart : List Char → List Char
  | '.' :: cs => cs.takeWhile Literal.isDigit
  | _ => []

/-- The exponent of a number with its mark and sign: as long as digits follow them. -/
def exponentPart : List Char → List Char
  | mark :: cs =>
      if mark = 'e' ∨ mark = 'E' then
        let sign := match cs with
          | '+' :: _ => ['+']
          | '-' :: _ => ['-']
          | _ => []
        let digits := (cs.drop sign.length).takeWhile Literal.isDigit
        if digits = [] then [] else mark :: sign ++ digits
      else []
  | [] => []

/-- The integer that digits and a sign stand for. -/
def signed (negative : Bool) (digits : List Char) : Int :=
  if negative then -(Literal.value digits : Int) else Literal.value digits

/-- Read a number: an integer unless it has a fraction or an exponent. -/
def readNumber (limits : Limits) (c : Cursor) : Except Stop (Value × Cursor) :=
  let negative := c.rest.head? = some '-'
  let afterSign := if negative then c.rest.drop 1 else c.rest
  match integerPart? afterSign with
  | none => c.fail "Expecting value"
  | some whole =>
      let fraction := fractionPart (afterSign.drop whole.length)
      let width := whole.length + if fraction = [] then 0 else fraction.length + 1
      let exponent := exponentPart (afterSign.drop width)
      let stop := c.advance ((if negative then 1 else 0) + width + exponent.length)
      if fraction = [] ∧ exponent = [] then
        if exceeds whole.length limits.digits then .error (.longNumeral whole.length)
        else .ok (.int (signed negative whole), stop)
      else
        let power := (Literal.exponent? exponent).getD 0
        .ok (.float (Literal.scaled negative (whole ++ fraction) (power - fraction.length)), stop)

/-- Read one of the words that stand for values, if one stands here. -/
def readWord? (c : Cursor) : Option (Value × Cursor) :=
  let words : List (String × Value) :=
    [("null", .null), ("true", .bool true), ("false", .bool false), ("NaN", .float .nan),
      ("Infinity", .float (.infinity false)), ("-Infinity", .float (.infinity true))]
  words.findSome? fun (word, value) ↦ (c.word? word).map fun rest ↦ (value, rest)

mutual

/-- Read a value that stands inside a number of lists and objects. -/
def readValue (limits : Limits) (depth : Nat) : Nat → Cursor → Except Stop (Value × Cursor)
  | 0, c => c.fail "Expecting value"
  | fuel + 1, c =>
      match c.rest with
      | '"' :: more => do
          let (s, after) ← readText c.offset (more.length + 1) (c.advance 1) []
          return (.text s, after)
      | '[' :: _ =>
          let inside := (c.advance 1).skipSpace
          if exceeds (depth + 1) limits.depth then .error .tooDeep
          else if inside.rest.head? = some ']' then .ok (.list [], inside.advance 1)
          else do
            let (items, after) ← readItems limits (depth + 1) fuel inside
            return (.list items, after)
      | '\x7b' :: _ =>
          let inside := (c.advance 1).skipSpace
          if exceeds (depth + 1) limits.depth then .error .tooDeep
          else if inside.rest.head? = some '\x7d' then .ok (.object [], inside.advance 1)
          else do
            let (fields, after) ← readFields limits (depth + 1) fuel inside []
            return (.object fields, after)
      | _ =>
          match readWord? c with
          | some found => .ok found
          | none => readNumber limits c

/-- Read the items of a list up to its end. -/
def readItems (limits : Limits) (depth : Nat) : Nat → Cursor → Except Stop (List Value × Cursor)
  | 0, c => c.fail "Expecting value"
  | fuel + 1, c => do
      let (item, after) ← readValue limits depth fuel c
      let next := after.skipSpace
      match next.rest with
      | ']' :: _ => return ([item], next.advance 1)
      | ',' :: _ =>
          let (items, stop) ← readItems limits depth fuel (next.advance 1).skipSpace
          return (item :: items, stop)
      | _ => next.fail "Expecting ',' delimiter"

/-- Read the fields of an object up to its end and add them to those read before. -/
def readFields (limits : Limits) (depth : Nat) :
    Nat → Cursor → List (String × Value) → Except Stop (List (String × Value) × Cursor)
  | 0, c, _ => c.fail "Expecting value"
  | fuel + 1, c, done =>
      match c.rest with
      | '"' :: more => do
          let (key, afterKey) ← readText c.offset (more.length + 1) (c.advance 1) []
          let colon := afterKey.skipSpace
          match colon.rest with
          | ':' :: _ =>
              let (value, after) ← readValue limits depth fuel (colon.advance 1).skipSpace
              let fields := Value.setField key value done
              let next := after.skipSpace
              match next.rest with
              | '\x7d' :: _ => return (fields, next.advance 1)
              | ',' :: _ => readFields limits depth fuel (next.advance 1).skipSpace fields
              | _ => next.fail "Expecting ',' delimiter"
          | _ => colon.fail "Expecting ':' delimiter"
      | _ => c.fail "Expecting property name enclosed in double quotes"

end

/-- The problem at an offset of a document, with its line and column. -/
def problemAt (document : List Char) (what : String) (offset : Nat) : JsonProblem :=
  let before := document.take offset
  { what := what
    line := before.count '\n' + 1
    column := (before.reverse.takeWhile (· ≠ '\n')).length + 1
    offset := offset }

/-- What is wrong with a document: a problem at a place, an integer with too many digits,
or lists and objects too deep inside one another. -/
inductive Refusal where
  | problem (p : JsonProblem)
  | longNumeral (digits limit : Nat)
  | tooDeep
  deriving DecidableEq, Repr

/-- Read a whole document with nothing but white space after its value. -/
def readChars (limits : Limits) (document : List Char) : Except Stop Value :=
  match document with
  | '\uFEFF' :: _ => .error (.problem "Unexpected UTF-8 BOM (decode using utf-8-sig)" 0)
  | _ => do
      let start : Cursor := ⟨document, 0⟩
      let (value, after) ← readValue limits 0 (2 * document.length + 2) start.skipSpace
      let stop := after.skipSpace
      if stop.rest = [] then return value else .error (.problem "Extra data" stop.offset)

/-- Read a document within limits. -/
def read (limits : Limits) (document : String) : Except Refusal Value :=
  match readChars limits document.toList with
  | .ok value => .ok value
  | .error (.problem what offset) => .error (.problem (problemAt document.toList what offset))
  | .error (.longNumeral digits) => .error (.longNumeral digits (limits.digits.getD 0))
  | .error .tooDeep => .error .tooDeep

end MailSearch.Json
