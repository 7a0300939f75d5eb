import Diorama.Text.Basic

/-!
# Paths

A path is a root and a list of names.  Doubled separators and names that are a single point are
dropped when a path is read; two points stay, because they depend on the directories there are.
-/

namespace Diorama

/-- Where a path starts. -/
inductive PathRoot
  | relative
  | absolute
  | doubleSlash
  deriving DecidableEq

/-- A path as a root and names. -/
structure Path where
  root : PathRoot
  names : List Text
  deriving DecidableEq

namespace Path

/-- The separator of names. -/
def slash : Symbol := .char '/'

/-- The parts of a text between separators. -/
def splitAtSlashes : Text → List Text
  | [] => [[]]
  | c :: rest =>
      if c = slash then [] :: splitAtSlashes rest
      else
        match splitAtSlashes rest with
        | [] => [[c]]
        | part :: parts => (c :: part) :: parts

/-- Whether a part of a path is a name. -/
def isName
    (part : Text) :
    Bool :=
  !part.isEmpty && part != "."

/-- The root of a path: exactly two leading separators are a root of their own. -/
def rootOf
    (t : Text) :
    PathRoot :=
  match (t.takeWhile (· == slash)).length with
  | 0 => .relative
  | 2 => .doubleSlash
  | _ => .absolute

/-- The path of a text. -/
def ofText
    (t : Text) :
    Path :=
  ⟨rootOf t, (splitAtSlashes t).filter isName⟩

/-- The text of a root. -/
def rootText : PathRoot → Text
  | .relative => ""
  | .absolute => "/"
  | .doubleSlash => "//"

/-- The text of a path; the empty one is a single point. -/
def toText
    (p : Path) :
    Text :=
  if p.root = .relative ∧ p.names = [] then "."
  else rootText p.root ++ Text.intercalate [slash] p.names

/-- Whether a path does not depend on a working directory. -/
def isAbsolute
    (p : Path) :
    Bool :=
  p.root != .relative

/-- A path taken from a directory; an absolute path stays as it is. -/
def join
    (directory p : Path) :
    Path :=
  if p.isAbsolute then p else ⟨directory.root, directory.names ++ p.names⟩

/-- The path without its last name. -/
def parent
    (p : Path) :
    Path :=
  { p with names := p.names.dropLast }

/-- The last name, if there is one. -/
def name
    (p : Path) :
    Text :=
  p.names.getLast?.getD []

/--
The ending of a name from its last point on.  A point at the beginning or the end of the name
begins no ending.
-/
def suffixOf
    (name : Text) :
    Text :=
  let afterLastPoint := (name.reverse.takeWhile (· != .char '.')).reverse
  if afterLastPoint.isEmpty ∨ name.length ≤ afterLastPoint.length + 1 then []
  else .char '.' :: afterLastPoint

/-- The ending of the last name. -/
def suffix
    (p : Path) :
    Text :=
  suffixOf p.name

end Path
end Diorama
