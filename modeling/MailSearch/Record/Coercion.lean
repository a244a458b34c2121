import MailSearch.Unicode.Blank
import MailSearch.Unicode.Lowercase
import MailSearch.Value

/-!
# Coercions of field values

How the value of each kind of field is read: a null is the field's default, and every
other value is either read or refused with a cause that names the field or shows the
value.
-/

namespace MailSearch.Coercion

/-- A text; a null is the empty text, and a list or an object is refused. -/
def toText : Value → Except Fault String
  | .null => .ok ""
  | .list _ => .error (.textExpected "list")
  | .object _ => .error (.textExpected "dict")
  | value => value.shown

/-- The texts of a list's items. -/
def shownItems : List Value → Except Fault (List String)
  | [] => .ok []
  | item :: items => do
      let first ← item.shown
      let others ← shownItems items
      return first :: others

/-- A list of texts; a single text is a list of one, an empty one a list of none. A host takes
the items of a set too, but no value here is a set. -/
def toTexts (field : String) : Value → Except Fault (List String)
  | .null => .ok []
  | .text s => .ok (if s.isEmpty then [] else [s])
  | .list items => shownItems items
  | .tuple items => shownItems items
  | _ => .error (.listExpected field)

/-- Refuse a value with a cause that shows it. -/
def refuse {α : Type} (value : Value) (cause : String → Fault) : Except Fault α :=
  match value.quoted with
  | .ok shown => .error (cause shown)
  | .error fault => .error fault

/-- The flag that a word spells. -/
def flagOfWord? (word : String) : Option Bool :=
  if ["true", "1", "yes"].contains word then some true
  else if ["false", "0", "no", ""].contains word then some false
  else none

/-- A flag; zero, one and the usual words are flags too. -/
def toFlag (field : String) (value : Value) : Except Fault Bool :=
  match value with
  | .null => .ok false
  | .bool b => .ok b
  | .int 0 => .ok false
  | .int 1 => .ok true
  | .text s =>
      match flagOfWord? (Unicode.lowercase (Unicode.strip s)) with
      | some b => .ok b
      | none => refuse value (.flagExpected field)
  | _ => refuse value (.flagExpected field)

/-- The integer that a number or a numeral stands for; a fraction loses its places. -/
def toInteger? : Value → Option Int
  | .bool b => some (if b then 1 else 0)
  | .int n => some n
  | .float x => x.truncate?
  | .text s => readInteger? s
  | _ => none

/-- A date in milliseconds; a null or an empty text is zero. -/
def toMillis (value : Value) : Except Fault Int :=
  match value with
  | .moment m => m.millis
  | .null => .ok 0
  | .text "" => .ok 0
  | .bool _ => refuse value .invalidDate
  | _ =>
      match toInteger? value with
      | some n => .ok n
      | none => refuse value .invalidDate

/-- An integer or nothing. -/
def toOptionalInt (field : String) (value : Value) : Except Fault (Option Int) :=
  if value.isNull then .ok none
  else
    match toInteger? value with
    | some n => .ok (some n)
    | none => .error (.integerExpected field)

/-- A text or nothing. -/
def toOptionalText (value : Value) : Except Fault (Option String) :=
  if value.isNull then .ok none else (toText value).map some

end MailSearch.Coercion
