import MailSearch.Console.Token
import MailSearch.Search

/-!
# Command lines

A command line names a command and gives its parameters. Without a command's name the
service is meant. Integers may be written in several bases, and flags by several words.
-/

namespace MailSearch.Console

/-- What a user asks for. A snapshot that is not named is that of the settings. -/
inductive Command where
  | serve (snapshot : Option String) (verbose : Bool)
  | index (file : String) (snapshot : Option String) (replace verbose : Bool)
  | remove (id : String) (snapshot : Option String)
  | search (query : String) (snapshot : Option String) (limit : Int) (fuzzy : Bool)
      (order : Order) (json verbose : Bool)
  | suggest (start : String) (snapshot : Option String) (limit : Int)
  | status (snapshot : Option String)
  | save (name query : String) (snapshot : Option String)
  | saved (snapshot delete : Option String)
  deriving DecidableEq, Repr

/-- The snapshot that a command names. -/
def Command.snapshot? : Command → Option String
  | serve snapshot _ | index _ snapshot _ _ | remove _ snapshot | search _ snapshot _ _ _ _ _
  | suggest _ snapshot _ | status snapshot | save _ _ snapshot | saved snapshot _ => snapshot

/-- Why tokens spell no command. -/
inductive Misuse where
  /-- the tokens fit no command -/
  | unfit
  /-- a number with places has no integer near it -/
  | tooLarge
  deriving DecidableEq, Repr

/-- The explanation of a misuse. -/
def Misuse.message : Misuse → String
  | unfit => "The arguments spell no command."
  | tooLarge => "A number is too large."

/-- A value that must be there for the tokens to fit. -/
def fitting {α : Type} : Option α → Except Misuse α
  | some a => .ok a
  | none => .error .unfit

/-- A parameter that must be given. -/
def needed (given : List Given) (i : Nat) : Except Misuse String := fitting (given.lookup i)

/-- A parameter with a default. -/
def withDefault {α : Type} (given : List Given) (i : Nat) (default : α)
    (read : String → Except Misuse α) : Except Misuse α :=
  match given.lookup i with
  | some text => read text
  | none => .ok default

/-- A flag with a default. -/
def flag (given : List Given) (i : Nat) (default : Bool) : Except Misuse Bool :=
  withDefault given i default (fitting ∘ readFlag?)

/-- An integer, in a base that a mark names, or a number with places, which is rounded. -/
def readInteger (text : String) : Except Misuse Int :=
  match readMarked? text with
  | some n => .ok n
  | none =>
      if text.toList.contains '.' then
        match readBinary64? text with
        | some x => (x.roundPlaces 0).truncate?.elim (.error .tooLarge) .ok
        | none => .error .unfit
      else fitting (readInteger? text)

/-- The order that a word names. -/
def readOrder? : String → Option Order
  | "relevance" => some .relevance
  | "date" => some .date
  | _ => none

/-- The option for the snapshot. -/
def snapshotParameter : Parameter := ⟨["--snapshot", "-s"], [], false⟩

/-- The option for details. -/
def verboseParameter : Parameter := ⟨["--verbose", "-v"], ["--no-verbose"], true⟩

/-- The option for a greatest number. -/
def limitParameter : Parameter := ⟨["--limit", "-n"], [], false⟩

/-- How a command is written: its parameters, and what their values spell. -/
structure Form where
  parameters : List Parameter
  build : List Given → Except Misuse Command

/-- The form of the service. -/
def serveForm : Form where
  parameters := [snapshotParameter, verboseParameter]
  build given := do
    return .serve (given.lookup 0) (← flag given 1 false)

/-- The form of indexing. -/
def indexForm : Form where
  parameters := [⟨["--file"], [], false⟩, snapshotParameter,
    ⟨["--replace"], ["--no-replace"], true⟩, verboseParameter]
  build given := do
    return .index (← needed given 0) (given.lookup 1) (← flag given 2 false) (← flag given 3 false)

/-- The form of removing an email. -/
def removeForm : Form where
  parameters := [⟨["--email-id"], [], false⟩, snapshotParameter]
  build given := do
    return .remove (← needed given 0) (given.lookup 1)

/-- The form of searching. -/
def searchForm : Form where
  parameters := [⟨["--query"], [], false⟩, snapshotParameter, limitParameter,
    ⟨["--fuzzy"], ["--no-fuzzy"], true⟩, ⟨["--sort"], [], false⟩,
    ⟨["--json"], ["--no-json"], true⟩, verboseParameter]
  build given := do
    return .search (← needed given 0) (given.lookup 1)
      (← withDefault given 2 20 readInteger) (← flag given 3 true)
      (← withDefault given 4 .relevance (fitting ∘ readOrder?)) (← flag given 5 false)
      (← flag given 6 false)

/-- The form of completing a word. -/
def suggestForm : Form where
  parameters := [⟨["--prefix"], [], false⟩, snapshotParameter, limitParameter]
  build given := do
    return .suggest (← needed given 0) (given.lookup 1) (← withDefault given 2 10 readInteger)

/-- The form of showing the figures. -/
def statusForm : Form where
  parameters := [snapshotParameter]
  build given := .ok (.status (given.lookup 0))

/-- The form of saving a query. -/
def saveForm : Form where
  parameters := [⟨["--name"], [], false⟩, ⟨["--query"], [], false⟩, snapshotParameter]
  build given := do
    return .save (← needed given 0) (← needed given 1) (given.lookup 2)

/-- The form of showing or deleting saved queries. -/
def savedForm : Form where
  parameters := [snapshotParameter, ⟨["--delete", "-d"], [], false⟩]
  build given := .ok (.saved (given.lookup 0) (given.lookup 1))

/-- The commands and their forms. -/
def forms : List (String × Form) :=
  [("serve", serveForm), ("index", indexForm), ("remove", removeForm), ("search", searchForm),
    ("suggest", suggestForm), ("status", statusForm), ("save", saveForm), ("saved", savedForm)]

/-- Read the parameters of a command. Tokens that find no parameter count only after the
values have been read. -/
def Form.read (form : Form) (tokens : List String) : Except Misuse Command := do
  let (given, rest) ← fitting (assign form.parameters tokens)
  let command ← form.build given
  if rest.isEmpty then .ok command else .error .unfit

/-- Read a command line. -/
def readLine : List String → Except Misuse Command
  | [] => serveForm.read []
  | token :: tokens =>
      match forms.lookup token with
      | some form => form.read tokens
      | none => serveForm.read (token :: tokens)

end MailSearch.Console
