set_option autoImplicit false

/-! # Paths

A path is the text that names a file. It is kept as it was built and never tidied up, for
messages show it. `join` builds paths, `segments` gives the names between the slashes, `parent?`
and `fileName?` take a path apart at its last component. A component is a name other than the
empty one and `.`, except that a relative path may start with `.`. -/

namespace Pipewright

/-- The text of a path. -/
abbrev Path := String

namespace Path

/-- The pieces of a text between its slashes: one more than it has slashes. -/
def splitSlash : List Char → List (List Char)
  | [] => [[]]
  | c :: rest =>
    if c = '/' then [] :: splitSlash rest
    else
      match splitSlash rest with
      | [] => [[c]]
      | piece :: pieces => (c :: piece) :: pieces

/-- Pieces with slashes between them. -/
def joinSlash : List (List Char) → List Char
  | [] => []
  | [piece] => piece
  | piece :: rest => piece ++ '/' :: joinSlash rest

/-- The names between the slashes of a text, without the empty ones. -/
def segments (path : Path) : List String :=
  ((splitSlash path.toList).filter (· ≠ [])).map String.ofList

def isAbsolute (path : Path) : Bool := path.toList.head? = some '/'

def isEmpty (path : Path) : Bool := path.toList = []

/-- Whether a path ends with a slash. -/
def endsWithSlash (path : Path) : Bool := path.toList.getLast? = some '/'

/-- A path taken from a directory: an absolute path stands for itself. -/
def join (base path : Path) : Path :=
  if isAbsolute path then path
  else if isEmpty base || endsWithSlash base then base ++ path
  else base ++ "/" ++ path

/-- Whether a piece is no component; the piece at the start of a path is one even if it is `.`, or
    if it is empty and so stands for the root. -/
def isSkipped (piece : List Char) : Bool := piece = [] || piece = ['.']

/-- Pieces, in reverse, without those at the end of the path that are no components. -/
def dropSkipped : List (List Char) → List (List Char)
  | [] => []
  | [first] => [first]
  | piece :: before => if isSkipped piece then dropSkipped before else piece :: before

/-- The path of pieces in reverse. -/
def ofReversed : List (List Char) → Path
  | [[]] => "/"
  | pieces => String.ofList (joinSlash pieces.reverse)

/-- The last component and the pieces before it, in reverse. -/
def splitLast (path : Path) : Option (List Char × List (List Char)) :=
  match dropSkipped (splitSlash path.toList).reverse with
  | [] => none
  | last :: before => if last = [] then none else some (last, before)

/-- The path without its last component. -/
def parent? (path : Path) : Option Path :=
  (splitLast path).map fun (_, before) =>
    match before with
    | [] => ""
    | _ => ofReversed (dropSkipped before)

/-- The last component, if it is a name. -/
def fileName? (path : Path) : Option String :=
  match splitLast path with
  | some (last, _) => if last = ['.'] || last = ['.', '.'] then none else some (String.ofList last)
  | none => none

example : join "a" "b" = "a/b" := by decide +kernel
example : join "a/" "" = "a/" := by decide +kernel
example : join "a" "" = "a/" := by decide +kernel
example : join "a" "/b" = "/b" := by decide +kernel
example : [parent? "a/b", parent? "a//b/", parent? "a/./b"] = [some "a", some "a", some "a"] := by
  decide +kernel
example : [parent? "/a", parent? "a", parent? "/"] = [some "/", some "", none] := by decide +kernel
example : [fileName? "a/b", fileName? "a/.", fileName? "a/..", fileName? "/", fileName? "."] =
    [some "b", some "a", none, none, none] := by decide +kernel

end Path

end Pipewright
