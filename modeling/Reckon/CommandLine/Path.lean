/-!
# Paths

A path is a root, which is empty for a relative path, and the names on the way.  Names
that are empty or a single point say nothing and are dropped; a double point is kept,
because what it leads back from may be a link.

Two slashes at the beginning are a root of their own; one of them, or more than two, are
the ordinary one.
-/

namespace Reckon

/-- The way to a file. -/
structure Path where
  root : String
  names : List String
  deriving DecidableEq, Repr

namespace Path

/-- The parts of a text between slashes. -/
def parts (text : List Char) : List (List Char) :=
  text.foldr
    (fun c found => match c, found with
      | '/', found => [] :: found
      | c, part :: rest => (c :: part) :: rest
      | c, [] => [[c]])
    [[]]

/-- The root of a path that is written as a text. -/
def rootOf : List Char → String
  | '/' :: '/' :: '/' :: _ => "/"
  | '/' :: '/' :: _ => "//"
  | '/' :: _ => "/"
  | _ => ""

/-- The path that a text writes. -/
def ofText (text : String) : Path where
  root := rootOf text.toList
  names := ((parts text.toList).filter fun part => part ≠ [] && part ≠ ['.']).map String.ofList

/-- The text of a path; one that says nothing is a single point. -/
def text (path : Path) : String :=
  if path.root = "" && path.names = [] then "."
  else path.root ++ "/".intercalate path.names

end Path

end Reckon
