/-!
# Causes of failure

Every way in which reading a mail, a stored record, a query result or a snapshot can
fail, and the text that explains each cause to a user.
-/

namespace MailSearch

/-- Why a file is not valid JSON, with the line, the column and the offset of the place. -/
structure JsonProblem where
  what : String
  line : Nat
  column : Nat
  offset : Nat
  deriving DecidableEq, Repr

/-- The text of a problem: what is wrong and where. -/
def JsonProblem.message (p : JsonProblem) : String :=
  s!"{p.what}: line {p.line} column {p.column} (char {p.offset})"

/-- Why bytes are not UTF-8: the bad bytes from `first` to `last`, of which `byte` is the
first. -/
structure Utf8Problem where
  byte : Nat
  first : Nat
  last : Nat
  what : String
  deriving DecidableEq, Repr

/-- A byte as two hexadecimal digits. -/
def byteText (byte : Nat) : String :=
  String.ofList [(byte / 16).digitChar, (byte % 16).digitChar]

/-- The text of a problem: the bytes, the place and the reason. -/
def Utf8Problem.message (p : Utf8Problem) : String :=
  if p.first = p.last then
    s!"'utf-8' codec can't decode byte 0x{byteText p.byte} in position {p.first}: {p.what}"
  else s!"'utf-8' codec can't decode bytes in position {p.first}-{p.last}: {p.what}"

/-- A cause of failure. -/
inductive Fault where
  /-- a mail without an id cannot be indexed -/
  | mailWithoutId
  /-- a stored record must have an id -/
  | recordWithoutId
  /-- a list or an object stands where a text is needed -/
  | textExpected (kind : String)
  /-- a field must be a list of texts -/
  | listExpected (field : String)
  /-- a field must be a flag -/
  | flagExpected (field shown : String)
  /-- a field must be an integer -/
  | integerExpected (field : String)
  /-- a value is no date -/
  | invalidDate (shown : String)
  /-- an integer has too many digits to be written -/
  | tooManyDigits
  /-- an integer in a document has too many digits to be read -/
  | numeralTooLong (digits limit : Nat)
  /-- lists and objects of a document stand too deep inside one another -/
  | tooDeep
  /-- an object was needed -/
  | objectExpected
  /-- a text was needed -/
  | textNeeded
  /-- a list was needed -/
  | itemsExpected
  /-- a list or an object cannot be a key -/
  | notAKey
  /-- no saved search has this id -/
  | unknownSavedSearch (id : String)
  /-- a ratio is too large for a floating-point number -/
  | ratioTooLarge
  /-- a floating-point number has no integer value -/
  | notANumber
  /-- an instant lies in a year outside 1 to 9999 -/
  | yearOutOfRange (year : Int)
  /-- an instant lies outside the range of the clock -/
  | instantOutOfRange
  /-- the host's calendar does not reach an instant -/
  | calendarOutOfRange
  /-- a value has no JSON form -/
  | notSerializable
  /-- a file does not exist -/
  | fileNotFound (path : String)
  /-- a file is not valid JSON -/
  | invalidJson (path : String) (problem : JsonProblem)
  /-- a file is not UTF-8 text -/
  | notUtf8 (problem : Utf8Problem)
  /-- a file holds no index snapshot -/
  | notSnapshot (path : String)
  /-- a snapshot has a version from the future -/
  | unsupportedVersion (shown : String) (newest : Nat)
  /-- a file holds no list of emails -/
  | emailsExpected (path : String)
  /-- a file stands where a folder is needed -/
  | fileExists (path : String)
  /-- a file stands inside a path -/
  | notAFolder (path : String)
  /-- a folder stands where a file is needed -/
  | isAFolder (path : String)
  /-- the folder that should hold a file does not exist -/
  | noSuchEntry (path : String)
  /-- a path or a name in it is too long -/
  | nameTooLong (path : String)
  /-- a file cannot be moved to a place that two dots name -/
  | placeInUse (path : String)
  /-- a path holds the character of code zero -/
  | zeroInPath
  /-- a path names no file -/
  | emptyName (path : String)
  /-- a user's home folder is not known -/
  | noHome
  deriving DecidableEq, Repr

namespace Fault

/-- The explanation of a cause. -/
def message : Fault → String
  | mailWithoutId => "Cannot index an email without an id"
  | recordWithoutId => "Indexed email record has no id"
  | textExpected kind => s!"Expected text, got {kind}"
  | listExpected field => s!"Field '{field}' must be a list of strings"
  | flagExpected field shown => s!"Field '{field}' must be a boolean, got {shown}"
  | integerExpected field => s!"Field '{field}' must be an integer"
  | invalidDate shown => s!"Invalid date {shown}"
  | tooManyDigits =>
      "Exceeds the limit (4300 digits) for integer string conversion; " ++
        "use sys.set_int_max_str_digits() to increase the limit"
  | numeralTooLong digits limit =>
      s!"Exceeds the limit ({limit} digits) for integer string conversion: " ++
        s!"value has {digits} digits; use sys.set_int_max_str_digits() to increase the limit"
  | tooDeep => "lists and objects stand too deep inside one another"
  | objectExpected => "an object is needed"
  | textNeeded => "a text is needed"
  | itemsExpected => "a list is needed"
  | notAKey => "a list or an object cannot be a key"
  | unknownSavedSearch id => id
  | ratioTooLarge => "integer division result too large for a float"
  | notANumber => "cannot convert float NaN to integer"
  | yearOutOfRange year => s!"year {year} is out of range"
  | instantOutOfRange => "timestamp out of range for platform time_t"
  | calendarOutOfRange => "[Errno 75] Value too large for defined data type"
  | notSerializable => "value has no JSON form"
  | fileNotFound path => s!"File not found: {path}"
  | invalidJson path problem => s!"Invalid JSON in {path}: {problem.message}"
  | notUtf8 problem => problem.message
  | notSnapshot path => s!"Not an index snapshot: {path}"
  | unsupportedVersion shown newest => s!"Unsupported snapshot version {shown} (max {newest})"
  | emailsExpected path => s!"Expected a list of emails in {path}"
  | fileExists path => s!"[Errno 17] File exists: {path}"
  | notAFolder path => s!"[Errno 20] Not a directory: {path}"
  | isAFolder path => s!"[Errno 21] Is a directory: {path}"
  | noSuchEntry path => s!"[Errno 2] No such file or directory: {path}"
  | nameTooLong path => s!"[Errno 36] File name too long: {path}"
  | placeInUse path => s!"[Errno 16] Device or resource busy: {path}"
  | zeroInPath => "embedded null byte"
  | emptyName path => s!"{path} has an empty name"
  | noHome => "Could not determine home directory."

/-- Whether a cause lies in what a file holds. -/
def isUnreadable : Fault → Bool
  | invalidJson _ _ | notUtf8 _ | notSnapshot _ | unsupportedVersion _ _ | emailsExpected _
  | numeralTooLong _ _ | tooManyDigits => true
  | _ => false

/-- Whether a cause lies in the folders and files themselves. -/
def isFileTrouble : Fault → Bool
  | fileExists _ | notAFolder _ | isAFolder _ | noSuchEntry _ | nameTooLong _ | placeInUse _ => true
  | _ => false

end Fault
end MailSearch
