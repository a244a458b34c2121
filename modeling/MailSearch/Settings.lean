import MailSearch.Event
import MailSearch.Numeric.Literal
import MailSearch.Path
import MailSearch.Unicode.Lowercase

/-!
# Settings

Settings come from variables of the environment and have defaults. A variable that holds
no number of the right kind is reported and its default taken.
-/

namespace MailSearch

/-- Where settings come from: the variables that are set, and the home folder. -/
structure Settings where
  values : List (String × String) := []
  home : Path
  deriving DecidableEq, Repr, Inhabited

namespace Settings

/-- The variables that hold settings. -/
def variableNames : List String :=
  ["MAIL_SEARCH_SNAPSHOT_PATH", "MAIL_SEARCH_DEFAULT_LIMIT", "MAIL_SEARCH_FUZZY",
    "MAIL_SEARCH_SIMILARITY_THRESHOLD", "MAIL_SEARCH_SUGGESTION_LIMIT"]

/-- The value of a variable. -/
def get? (s : Settings) (name : String) : Option String := s.values.lookup name

/-- Set a variable. -/
def set (s : Settings) (name value : String) : Settings :=
  { s with values := (name, value) :: s.values.filter (·.1 ≠ name) }

/-- Take a variable away. -/
def unset (s : Settings) (name : String) : Settings :=
  { s with values := s.values.filter (·.1 ≠ name) }

/-- The number of a variable as `read?` reads it, or a default, whose text is `shown`. -/
def number {α : Type} (s : Settings) (name : String) (default : α) (shown : String)
    (read? : String → Option α) : Logged α :=
  match s.get? name with
  | none => pure default
  | some raw =>
      if Unicode.isBlankText raw then pure default
      else
        match read? raw with
        | some value => pure value
        | none => do
            Logged.warn .settings s!"Ignoring invalid {name}={quoteText raw}, using {shown}"
            return default

/-- A limit of a variable, or a default if it is not set or negative. -/
def limit (s : Settings) (name : String) (default : Int) : Logged Int := do
  let value ← s.number name default (integerText default) readInteger?
  return if 0 ≤ value then value else default

/-- How many results a search gives at most. -/
def searchLimit (s : Settings) : Logged Int := s.limit "MAIL_SEARCH_DEFAULT_LIMIT" 50

/-- How many suggestions are given at most. -/
def suggestionLimit (s : Settings) : Logged Int := s.limit "MAIL_SEARCH_SUGGESTION_LIMIT" 10

/-- The words that turn fuzzy matching off. -/
def offWords : List String := ["0", "false", "no", "off"]

/-- Whether matching is fuzzy. -/
def isFuzzy (s : Settings) : Bool :=
  !offWords.contains (Unicode.lowercase (Unicode.strip ((s.get? "MAIL_SEARCH_FUZZY").getD "true")))

/-- The usual share of its length in which a token may differ. -/
def usualThreshold : Binary64 := Binary64.ofRatio 3 10

/-- The share of its length in which a token may differ from one that is sought, between
zero and one. -/
def threshold (s : Settings) : Logged Binary64 := do
  let value ← s.number "MAIL_SEARCH_SIMILARITY_THRESHOLD" usualThreshold usualThreshold.text
    readBinary64?
  if Binary64.zero.le value && value.le Binary64.one then return value
  else
    Logged.warn .settings s!"Similarity threshold {value.text} out of range"
    return usualThreshold

/-- The snapshot file: that of the variable, if it is not empty, or one in the home
folder. -/
def snapshotPath (s : Settings) : Except Fault Path :=
  match (s.get? "MAIL_SEARCH_SNAPSHOT_PATH").getD "" with
  | "" => .ok { s.home with names := s.home.names ++ [".mail-search-index", "snapshot.json"] }
  | text => (Path.ofText text).expandHome s.home

end Settings
end MailSearch
