import MailSearch.Unicode.Blank
import MailSearch.Value

/-!
# Paths

A path is the names that lead to a file from a root or from the current folder. Empty
names and single dots are left out when a path is read; two dots are kept. Exactly two
slashes in front are a root of their own, any other number is one slash.
-/

namespace MailSearch

/-- A root, empty for a relative path, and the names that follow it. -/
structure Path where
  root : String
  names : List String
  deriving DecidableEq, Repr, Inhabited

namespace Path

/-- The root that a number of slashes in front stands for. -/
def rootOf : Nat → String
  | 0 => ""
  | 2 => "//"
  | _ => "/"

/-- Read a path. -/
def ofText (text : String) : Path :=
  let cs := text.toList
  let parts := (Unicode.runs (· ≠ '/') cs).map String.ofList
  ⟨rootOf (cs.takeWhile (· = '/')).length, parts.filter (· ≠ ".")⟩

/-- The text of a path; that of the current folder is a dot. -/
def toText (p : Path) : String :=
  if p.root.isEmpty && p.names.isEmpty then "."
  else p.root ++ "/".intercalate p.names

/-- The text of a path in quotes. -/
def quoted (p : Path) : String := quoteText p.toText

/-- The last name of a path. -/
def name (p : Path) : String := p.names.getLastD ""

/-- The path without its last name. -/
def parent (p : Path) : Path := { p with names := p.names.dropLast }

/-- The path with something added to its last name, if it has one. -/
def withSuffix (p : Path) (suffix : String) : Except Fault Path :=
  if p.name.isEmpty then .error (.emptyName (quoteText p.toText))
  else .ok { p with names := p.names.dropLast ++ [p.name ++ suffix] }

/-- A path with a leading tilde replaced by the home folder. The homes of other users
are not known. -/
def expandHome (p home : Path) : Except Fault Path :=
  match p.names with
  | [] => .ok p
  | name :: names =>
    if !p.root.isEmpty then .ok p
    else if name = "~" then .ok { home with names := home.names ++ names }
    else if name.startsWith "~" then .error .noHome
    else .ok p

end Path
end MailSearch
