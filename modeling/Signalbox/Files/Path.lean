/-!
# Paths

A path is a text of names between slashes. `Path.names` are the names on the way to a file; the slashes at
the end of a path and the names `.` inside it lead nowhere and do not count.
-/

namespace Signalbox.Path

/-- The pieces of a path between its slashes, with a piece begun. -/
def piecesFrom (begun : List Char) : List Char → List String
  | [] => [String.ofList begun.reverse]
  | '/' :: rest => String.ofList begun.reverse :: piecesFrom [] rest
  | c :: rest => piecesFrom (c :: begun) rest

/-- The name in front of the names of a path that starts at the root. -/
def root : String := "/"

/-- The names on the way to the file of a path. -/
def names (path : String) : List String :=
  let inside := (piecesFrom [] path.toList).filter fun name => name ≠ "" ∧ name ≠ "."
  if path.toList.head? = some '/' then root :: inside else inside

/-- Holds of the paths that can only be those of a directory, because they end in a slash or a dot. -/
def asksForDirectory (path : String) : Bool :=
  match path.toList.reverse with
  | '/' :: _ => true
  | '.' :: '/' :: _ => true
  | _ => false

/-- A path, last character first, without what does not count at its end. -/
def dropEnd : List Char → List Char
  | '/' :: rest => dropEnd rest
  | '.' :: '/' :: rest => dropEnd rest
  | cs => cs

/-- The path of the directory that a path lies in; the root and the empty path lie in none. -/
def parent? (path : String) : Option String :=
  match dropEnd path.toList.reverse with
  | [] => none
  | cs =>
    match cs.dropWhile (· ≠ '/') with
    | [] => some ""
    | before =>
      match dropEnd before with
      | [] => some root
      | before => some (String.ofList before.reverse)

/-- A name up to its last dot; a dot at its start is part of it. -/
def stem (name : List Char) : List Char :=
  let upToDot := (name.reverse.dropWhile (· ≠ '.')).reverse
  if upToDot.length ≤ 1 then name else upToDot.dropLast

/-- The path with another ending in place of what follows the last dot of its last name. A path without a
name stays as it is. -/
def withEnding (path ending : String) : String :=
  let cs := dropEnd path.toList.reverse
  let name := (cs.takeWhile (· ≠ '/')).reverse
  if name = [] ∨ name = ['.'] ∨ name = ['.', '.'] then path
  else
    String.ofList ((cs.dropWhile (· ≠ '/')).reverse ++ stem name) ++ "." ++ ending

/-- A path inside a directory. -/
def join (directory name : String) : String :=
  if directory.isEmpty ∨ directory.toList.getLast? = some '/' then directory ++ name
  else s!"{directory}/{name}"

end Signalbox.Path
