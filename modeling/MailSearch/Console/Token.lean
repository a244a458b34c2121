import MailSearch.Numeric.Literal
import MailSearch.Unicode.Lowercase

/-!
# Tokens of a command line

Options give values to parameters and tokens without a hyphen stand by position; every
parameter can be given either way, each once. Options of one letter may share a hyphen.
`assign` says which parameter gets which text, and which tokens are left.
-/

namespace MailSearch.Console

/-- A parameter: the options that give it and those that unset it, and whether it is a
flag, which needs no value. -/
structure Parameter where
  options : List String
  negatives : List String := []
  isFlag : Bool := false

/-- The value given to a parameter: its position among the parameters, and a text. -/
abbrev Given := Nat × String

/-- The text of a flag that is set or not. -/
def flagText (value : Bool) : String := if value then "true" else "false"

/-- The flag that a word spells. -/
def readFlag? (word : String) : Option Bool :=
  let lower := Unicode.lowercase word
  if ["yes", "y", "1", "true", "t"].contains lower then some true
  else if ["no", "n", "0", "false", "f"].contains lower then some false
  else none

/-- Whether a text is a range: a start, a stop and perhaps a step, integers with colons
between them, each of which may be missing. -/
def isRange (text : String) : Bool :=
  let bounds := text.splitOn ":"
  (bounds.length = 2 || bounds.length = 3) &&
    bounds.all fun bound ↦ Unicode.isBlankText bound || (readInteger? bound).isSome

/-- Whether a token that begins with a hyphen stands for numbers. The imaginary unit alone
is the name of an option. -/
def isNumberLike (token : String) : Bool :=
  Unicode.lowercase token ≠ "-j" &&
    (isNumeral token || (readMarked? token).isSome || isRange token)

/-- Whether a token looks like an option: it begins with a hyphen and stands for no
numbers. -/
def isOptionLike (token : String) : Bool := token.startsWith "-" && !isNumberLike token

/-- What an option does to a parameter. -/
inductive Effect where
  | sets (parameter : Nat)
  | unsets (parameter : Nat)

/-- What the option of a name does; hyphens and low lines are alike in names. -/
def effect? (ps : List Parameter) (name : String) : Option Effect :=
  let name := name.replace "_" "-"
  match ps.findIdx? (·.options.contains name), ps.findIdx? (·.negatives.contains name) with
  | some i, _ => some (.sets i)
  | none, some i => some (.unsets i)
  | none, none => none

/-- Whether a parameter is a flag. -/
def isFlagAt (ps : List Parameter) (i : Nat) : Bool := (ps[i]?.map (·.isFlag)).getD false

/-- What a token brings to a command line: values of parameters, tokens that no option
takes, and perhaps a parameter whose value is the next token. -/
structure Reading where
  given : List Given := []
  others : List String := []
  awaiting : Option Nat := none

/-- What an option with or without a value brings. A flag needs no value, but one that is
given must be a flag's word; given to an option that unsets a flag it counts the other way
round. -/
def givenBy? (ps : List Parameter) : Effect → Option String → Option Reading
  | .sets i, some text =>
      if isFlagAt ps i && (readFlag? text).isNone then none else some { given := [(i, text)] }
  | .sets i, none =>
      some (if isFlagAt ps i then { given := [(i, flagText true)] } else { awaiting := i })
  | .unsets i, some text =>
      (readFlag? text).map fun value ↦ { given := [(i, flagText !value)] }
  | .unsets i, none => some { given := [(i, flagText false)] }

/-- The option of one letter. -/
def letterOption (c : Char) : String := String.ofList ['-', c]

/-- The parameter that an option of one letter gives. -/
def letter? (ps : List Parameter) (c : Char) : Option Nat :=
  ps.findIdx? (·.options.contains (letterOption c))

/-- What several options of one letter bring that share a hyphen. Flags come first; the
first other option takes the rest of the token as its value, or else the next token. A
letter that is no option becomes a token of its own. -/
def givenByLetters (ps : List Parameter) : List Char → Reading
  | [] => {}
  | c :: cs =>
      match letter? ps c with
      | none =>
          let rest := givenByLetters ps cs
          { rest with others := letterOption c :: rest.others }
      | some i =>
          if isFlagAt ps i then
            let rest := givenByLetters ps cs
            { rest with given := (i, flagText true) :: rest.given }
          else if cs.isEmpty then { awaiting := i }
          else { given := [(i, String.ofList cs)] }

/-- An option without its value, and the value if one follows an equals sign. -/
def splitEquals (token : String) : String × Option String :=
  let cs := token.toList
  match cs.dropWhile (· ≠ '=') with
  | [] => (token, none)
  | _ :: value => (String.ofList (cs.takeWhile (· ≠ '=')), some (String.ofList value))

/-- What a token brings that looks like an option: it is one, or it is letters of which
the first is one, or no option takes it. -/
def readOption? (ps : List Parameter) (token : String) : Option Reading :=
  let (name, value) := splitEquals token
  match effect? ps name with
  | some effect => givenBy? ps effect value
  | none =>
      let letters := token.toList.tail
      if (letters.head?.bind (letter? ps)).isSome then some (givenByLetters ps letters)
      else some { others := [token] }

/-- What a token brings to a command line with some parameters. -/
def readToken? (ps : List Parameter) (token : String) : Option Reading :=
  if isOptionLike token then readOption? ps token else some { others := [token] }

/-- Sort tokens into what options give and what no option takes; no option takes two
hyphens and what follows them. -/
def sortTokens (ps : List Parameter) : List String → Option (List Given × List String)
  | [] => some ([], [])
  | "--" :: tokens => some ([], "--" :: tokens)
  | token :: tokens =>
      match readToken? ps token with
      | none => none
      | some r =>
          match r.awaiting with
          | none =>
              (sortTokens ps tokens).map fun (given, others) ↦
                (r.given ++ given, r.others ++ others)
          | some i =>
              match tokens with
              | [] => none
              | next :: rest =>
                  if isOptionLike next then none
                  else
                    (sortTokens ps rest).map fun (given, others) ↦
                      ((i, next) :: r.given ++ given, r.others ++ others)

/-- A token that stands by position, and whether it is free to look like an option. -/
abbrev Standing := String × Bool

/-- The tokens that stand by position. Those behind the first two hyphens are free; the
hyphens themselves do not count. -/
def standing (others : List String) : List Standing :=
  (others.takeWhile (· ≠ "--")).map (·, false) ++
    (others.dropWhile (· ≠ "--")).tail.map (·, true)

/-- Whether options gave a parameter. -/
def isGiven (given : List Given) (i : Nat) : Bool := given.any (·.1 = i)

/-- Give tokens by position to the parameters from one on, and tell which tokens find no
parameter. A token in front of a free parameter may not stand behind one that an option
gave, and must be free to look like an option if it does. -/
def place (given : List Given) (i count : Nat) :
    List Standing → Option (List Given × List String)
  | [] => some ([], [])
  | (token, free) :: tokens =>
      let left := some ([], token :: tokens.map (·.1))
      if count ≤ i then left
      else if isGiven given i then
        if (List.range count).all fun j ↦ j < i || isGiven given j then left else none
      else if !free && isOptionLike token then none
      else
        (place given (i + 1) count tokens).map fun (placed, rest) ↦ ((i, token) :: placed, rest)

/-- Whether every parameter is given at most once. -/
def areDistinct (given : List Given) : Bool :=
  given.all fun g ↦ given.countP (·.1 = g.1) = 1

/-- The values that tokens give to parameters, and the tokens that find no parameter. -/
def assign (ps : List Parameter) (tokens : List String) :
    Option (List Given × List String) := do
  let (given, others) ← sortTokens ps tokens
  let (placed, rest) ← place given 0 ps.length (standing others)
  if areDistinct given then some (given ++ placed, rest) else none

end MailSearch.Console
