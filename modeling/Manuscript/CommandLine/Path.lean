/-!
# Paths

A path is a root and the names on the way from it. A single point and repeated
slashes say nothing; two points are a name like others. The last name has a *suffix*
from its last point on, if characters stand on both sides of that point.
-/

namespace Manuscript.CommandLine

/-- A path to a file. -/
structure Path where
  /-- One slash or two for an absolute path, nothing for a relative one. -/
  root : String
  /-- The names on the way. -/
  parts : List String
  deriving DecidableEq, Repr, Inhabited

/-- The names in a text between slashes. -/
def names : List Char → List (List Char)
  | [] => [[]]
  | '/' :: cs => [] :: names cs
  | c :: cs =>
    match names cs with
    | [] => [[c]]
    | n :: rest => (c :: n) :: rest

namespace Path

/-- The path that a text names. -/
def ofString (s : String) : Path :=
  let root :=
    match s.toList with
    | '/' :: '/' :: '/' :: _ => "/"
    | '/' :: '/' :: _ => "//"
    | '/' :: _ => "/"
    | _ => ""
  ⟨root, ((names s.toList).map String.ofList).filter fun n => !n.isEmpty && n != "."⟩

/-- The text of a path. -/
def written (p : Path) : String :=
  if p.parts.isEmpty && p.root.isEmpty then "." else p.root ++ "/".intercalate p.parts

/-- The last name of a path, empty if there is none. -/
def name (p : Path) : String := p.parts.getLast?.getD ""

/-- The path without its last name. -/
def parent (p : Path) : Path := { p with parts := p.parts.dropLast }

/-- The path with a name after it. -/
def child (p : Path) (name : String) : Path :=
  let q := ofString name
  if q.root.isEmpty then { p with parts := p.parts ++ q.parts } else q

end Path

/-- The characters of a name before its suffix; all of them if it has none. -/
def stemChars (name : List Char) : List Char :=
  let suffix := name.reverse.takeWhile (· != '.')
  let stem := (name.reverse.dropWhile (· != '.')).drop 1
  if suffix.isEmpty || stem.isEmpty then name else stem.reverse

/-- The characters of the suffix of a name; none of them if it has none. -/
def suffixChars (name : List Char) : List Char :=
  let ending := name.reverse.takeWhile (· != '.')
  let front := (name.reverse.dropWhile (· != '.')).drop 1
  if ending.isEmpty || front.isEmpty then [] else '.' :: ending.reverse

/-- The stem of a name: the name without its suffix. -/
def stem (name : String) : String := String.ofList (stemChars name.toList)

/-- The suffix of a name, with its point. -/
def suffix (name : String) : String := String.ofList (suffixChars name.toList)

/-- A name with another suffix: in the place of its own, or after the name if it has none. -/
def replaceSuffix (name new : String) : String :=
  if (suffix name).isEmpty then name ++ new
  else String.ofList (name.toList.take (name.length - (suffix name).length)) ++ new

/-- The name of the document for a source with a given name. -/
def documentName (name : String) : String := stem name ++ ".docx"

/-- The path with another suffix of its last name. None if it ends in no name. -/
def Path.withSuffix? (p : Path) (new : String) : Option Path :=
  if p.name.isEmpty then none
  else some { p with parts := p.parts.dropLast ++ [replaceSuffix p.name new] }

/-- Where the document goes if no place is given: beside the source. None if the path
    of the source ends in no name. -/
def Path.beside? (source : Path) : Option Path := source.withSuffix? ".docx"

end Manuscript.CommandLine
