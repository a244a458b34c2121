import MailSearch.Calendar
import MailSearch.Numeric.Literal
import MailSearch.Unicode.Printable

/-!
# Values of mail data

What a mail, a stored record or a document may hold: the values of JSON, and the tuples
and dates that a host program may put beside them; the sets that it may hand over are left
out. An object keeps its keys in order, each once. `shown` is the text that a value has in
place of a text, `quoted` the text that it has inside another value and in explanations.
Both take a value of any depth, where a host gives up on one that is too deep for it.
-/

namespace MailSearch

/-- A date and time of day, with the offset of its clock from UTC in seconds if it has
one. -/
structure Moment where
  date : Date
  secondOfDay : Nat
  micros : Nat
  offset : Option Int
  deriving DecidableEq, Repr, Inhabited

/-- A value of mail data. There are no sets. -/
inductive Value where
  | null
  | bool (b : Bool)
  | int (n : Int)
  | float (x : Binary64)
  | text (s : String)
  | list (items : List Value)
  | tuple (items : List Value)
  | object (fields : List (String × Value))
  | moment (m : Moment)
  deriving Inhabited

namespace Moment

/-- Whole seconds from the epoch. -/
def seconds (m : Moment) : Int :=
  m.date.toDays * 86400 + m.secondOfDay - m.offset.getD 0

/-- The floating-point seconds from the epoch. With an offset the microseconds are
divided as one count, without one the fraction is added to the seconds. -/
def timestamp (m : Moment) : Binary64 :=
  match m.offset with
  | some _ => Binary64.ofRatio (m.seconds * 1000000 + m.micros) 1000000
  | none => (Binary64.ofInt m.seconds).add (Binary64.ofRatio m.micros 1000000)

/-- The whole milliseconds from the epoch, toward zero. A moment without an offset is one of
the host's time zone, which is taken to be UTC; the day before it must be one of the
calendar's days too. -/
def millis (m : Moment) : Except Fault Int := do
  if m.offset.isNone then Instant.checkRange (m.seconds - 86400)
  return ((m.timestamp.mul (Binary64.ofInt 1000)).truncate?).getD 0

/-- Hours, minutes and seconds of a count of seconds. -/
def clockText (seconds : Nat) : String :=
  zeroPadded 2 (seconds / 3600) ++ ":" ++ zeroPadded 2 (seconds / 60 % 60)

/-- An offset with its sign; seconds only when there are any. -/
def offsetText (offset : Int) : String :=
  let size := offset.natAbs
  (if offset < 0 then "-" else "+") ++ clockText size ++
    (if size % 60 = 0 then "" else ":" ++ zeroPadded 2 (size % 60))

/-- The text of a moment. -/
def shown (m : Moment) : String :=
  zeroPadded 4 m.date.year.toNat ++ "-" ++ zeroPadded 2 m.date.month ++ "-" ++
    zeroPadded 2 m.date.day ++ " " ++ clockText m.secondOfDay ++ ":" ++
    zeroPadded 2 (m.secondOfDay % 60) ++
    (if m.micros = 0 then "" else "." ++ zeroPadded 6 m.micros) ++
    (m.offset.map offsetText).getD ""

/-- The text of an offset inside a moment's quoted text. -/
def quotedOffset (offset : Int) : String :=
  if offset = 0 then "datetime.timezone.utc"
  else
    let days := offset / 86400
    let rest := offset % 86400
    let parts := (if days = 0 then [] else [s!"days={days}"]) ++
      (if rest = 0 then [] else [s!"seconds={rest}"])
    "datetime.timezone(datetime.timedelta(" ++ ", ".intercalate parts ++ "))"

/-- The text of a moment inside other values: its numbers, trailing zeros of the time of
day left out after the minute. -/
def quoted (m : Moment) : String :=
  let second := m.secondOfDay % 60
  let time := [m.secondOfDay / 3600, m.secondOfDay / 60 % 60] ++
    (if m.micros ≠ 0 then [second, m.micros] else if second ≠ 0 then [second] else [])
  let numbers := [m.date.year.toNat, m.date.month, m.date.day] ++ time
  "datetime.datetime(" ++ ", ".intercalate (numbers.map fun n ↦ toString n) ++
    (m.offset.elim "" fun offset ↦ ", tzinfo=" ++ quotedOffset offset) ++ ")"

end Moment

/-- A number in hexadecimal with zeros in front up to a width. -/
def hexText (width n : Nat) : List Char :=
  (padLeft width '0' (String.ofList (Nat.toDigits 16 n))).toList

/-- A character inside quotes: a backslash before the quote and itself, letters for line
feed, return and tab, and a number for what is not printable. -/
def quoteChar (quote c : Char) : List Char :=
  if c = quote ∨ c = '\\' then ['\\', c]
  else if c = '\n' then ['\\', 'n']
  else if c = '\r' then ['\\', 'r']
  else if c = '\t' then ['\\', 't']
  else if Unicode.isPrintable c then [c]
  else if c.toNat < 0x100 then '\\' :: 'x' :: hexText 2 c.toNat
  else if c.toNat < 0x10000 then '\\' :: 'u' :: hexText 4 c.toNat
  else '\\' :: 'U' :: hexText 8 c.toNat

/-- A text in single quotes, or in double ones if it holds single quotes only. -/
def quoteText (s : String) : String :=
  let cs := s.toList
  let quote := if cs.contains '\'' && !cs.contains '"' then '"' else '\''
  String.ofList (quote :: cs.flatMap (quoteChar quote) ++ [quote])

/-- The text of a flag. -/
def flagText (b : Bool) : String := if b then "True" else "False"

/-- The text of an integer, if it has not too many digits. -/
def integerText? (n : Int) : Except Fault String :=
  if hasTooManyDigits n then .error .tooManyDigits else .ok (integerText n)

namespace Value

mutual

/-- The text of a value inside other values, however deep it is. -/
def quoted : Value → Except Fault String
  | null => .ok "None"
  | bool b => .ok (flagText b)
  | int n => integerText? n
  | float x => .ok x.text
  | text s => .ok (quoteText s)
  | list items => do
      let parts ← quotedItems items
      return "[" ++ ", ".intercalate parts ++ "]"
  | tuple items => do
      let parts ← quotedItems items
      match parts with
      | [single] => return "(" ++ single ++ ",)"
      | _ => return "(" ++ ", ".intercalate parts ++ ")"
  | object fields => do
      let parts ← quotedFields fields
      return "\x7b" ++ ", ".intercalate parts ++ "\x7d"
  | moment m => .ok m.quoted

/-- The texts of a list's items. -/
def quotedItems : List Value → Except Fault (List String)
  | [] => .ok []
  | item :: items => do
      let first ← quoted item
      let others ← quotedItems items
      return first :: others

/-- The texts of an object's fields. -/
def quotedFields : List (String × Value) → Except Fault (List String)
  | [] => .ok []
  | (key, value) :: fields => do
      let first ← quoted value
      let others ← quotedFields fields
      return (quoteText key ++ ": " ++ first) :: others

end

/-- The text that a value has in place of a text, however deep it is. -/
def shown : Value → Except Fault String
  | text s => .ok s
  | moment m => .ok m.shown
  | value => value.quoted

/-- The value of a key of an object. -/
def lookup? (key : String) : List (String × Value) → Option Value
  | [] => none
  | (k, value) :: fields => if k = key then some value else lookup? key fields

/-- The value of a key stands among the fields. -/
theorem mem_of_lookup? {key : String} {v : Value} {fields : List (String × Value)}
    (h : lookup? key fields = some v) : (key, v) ∈ fields := by
  induction fields with
  | nil => exact nomatch h
  | cons field fields ih =>
    rw [lookup?] at h
    split at h
    · next hkey =>
      obtain rfl := Option.some.inj h
      exact hkey ▸ List.mem_cons_self
    · exact List.mem_cons_of_mem field (ih h)

/-- The fields of an object; only an object has fields. -/
def fields? : Value → Except Fault (List (String × Value))
  | object fields => .ok fields
  | _ => .error .objectExpected

/-- Set a key of an object: a key that is there keeps its place. -/
def setField (key : String) (value : Value) : List (String × Value) → List (String × Value)
  | [] => [(key, value)]
  | (k, old) :: fields =>
      if k = key then (k, value) :: fields else (k, old) :: setField key value fields

/-- Whether a value is null. -/
def isNull : Value → Bool
  | null => true
  | _ => false

/-- Whether a value is null, false, zero or empty. -/
def isEmpty : Value → Bool
  | null => true
  | bool b => !b
  | int n => n = 0
  | float x => x.isZero
  | text s => s.isEmpty
  | list items => items.isEmpty
  | tuple items => items.isEmpty
  | object fields => fields.isEmpty
  | moment _ => false

/-- What a value yields item by item: a text its characters, an object its keys. -/
def items? : Value → Except Fault (List Value)
  | list items => .ok items
  | tuple items => .ok items
  | text s => .ok (s.toList.map fun c ↦ text (String.ofList [c]))
  | object fields => .ok (fields.map fun field ↦ text field.1)
  | _ => .error .itemsExpected

mutual

/-- Whether a value can be a key: no list and no object, nor a tuple that holds one. -/
def isKey : Value → Bool
  | list _ => false
  | object _ => false
  | tuple items => areKeys items
  | _ => true

/-- Whether all of a list's items can be keys. -/
def areKeys : List Value → Bool
  | [] => true
  | item :: items => isKey item && areKeys items

end

/-- Where a numeric value lies, exactly; flags count as zero and one. Finite numbers are
counted in steps of floating point. -/
def position? : Value → Option Int
  | bool b => some ((if b then 1 else 0) * Binary64.stepsPerUnit)
  | int n => some (n * Binary64.stepsPerUnit)
  | float (.finite negative steps) => some (if negative then -steps else steps)
  | _ => none

mutual

/-- Whether two values are equal. Numbers of all kinds compare by value, objects without
regard to order. -/
def same : Value → Value → Bool
  | null, null => true
  | text s, text t => s = t
  | list xs, list ys => sameItems xs ys
  | tuple xs, tuple ys => sameItems xs ys
  | object xs, object ys => xs.length = ys.length && sameFields xs ys
  | moment m, moment n =>
      m.offset.isSome = n.offset.isSome && m.seconds = n.seconds && m.micros = n.micros
  | float (.infinity s), float (.infinity t) => s = t
  | x, y =>
      match x.position?, y.position? with
      | some i, some j => i = j
      | _, _ => false

/-- Whether two lists are equal item by item. -/
def sameItems : List Value → List Value → Bool
  | [], [] => true
  | x :: xs, y :: ys => same x y && sameItems xs ys
  | _, _ => false

/-- Whether each field has an equal one of the same key among others. -/
def sameFields : List (String × Value) → List (String × Value) → Bool
  | [], _ => true
  | (key, x) :: xs, ys =>
      match lookup? key ys with
      | some y => same x y && sameFields xs ys
      | none => false

end

/-- A list of texts as a value. -/
def texts (items : List String) : Value := list (items.map text)

/-- A text or null. -/
def optionalText : Option String → Value
  | some s => text s
  | none => null

/-- An integer or null. -/
def optionalInt : Option Int → Value
  | some n => int n
  | none => null

end Value
end MailSearch
