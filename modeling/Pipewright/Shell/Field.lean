import Pipewright.Shell.Pattern
import Pipewright.Shell.Utility

set_option autoImplicit false

/-! # Fields

What a word of a script expands to: cells, which are characters or borders between fields, and the
fields that the cells make up. A field that is a pattern stands for the paths that it matches, if
there are any. -/

namespace Pipewright.Shell

/-- A piece of an expanded word. -/
inductive Cell where
  | char (c : Char) (isQuoted : Bool)
  | border
  /-- Makes a field that has no characters. -/
  | nothing
  deriving DecidableEq, Repr

namespace Cell

/-- The cells of a text that is not split. -/
def ofText (isQuoted : Bool) (text : String) : List Cell :=
  if text = "" && isQuoted then [.nothing] else text.toList.map (.char · isQuoted)

/-- The cells of a text that blanks split. -/
def ofSplit (text : String) : List Cell :=
  text.toList.map fun c => if c = ' ' || c = '\t' || c = '\n' then .border else .char c false

/-- The cells of a value. -/
def ofValue (splits isQuoted : Bool) (text : String) : List Cell :=
  if splits && !isQuoted then ofSplit text else ofText isQuoted text

/-- The cells of several values, with borders between them. -/
def ofValues (splits isQuoted : Bool) : List String → List Cell
  | [] => []
  | [value] => ofValue splits isQuoted value
  | value :: rest =>
    ofValue splits isQuoted value ++
      (if splits then Cell.border else .char ' ' isQuoted) :: ofValues splits isQuoted rest

/-- The fields of cells; `begun` is the field that has been begun. -/
def fields (begun : Option (List Marked)) : List Cell → List (List Marked)
  | [] => begun.toList
  | .char c isQuoted :: rest => fields (some (begun.getD [] ++ [(c, isQuoted)])) rest
  | .nothing :: rest => fields (some (begun.getD [])) rest
  | .border :: rest => begun.toList ++ fields none rest

/-- The characters of cells, whose borders count as blanks. -/
def marked (cells : List Cell) : List Marked :=
  cells.filterMap fun
    | .char c isQuoted => some (c, isQuoted)
    | .border => some (' ', false)
    | .nothing => none

def text (cells : List Cell) : String := String.ofList ((marked cells).map (·.1))

end Cell

/-- The pieces of a pattern between its slashes. -/
def splitMarked : List Marked → List (List Marked)
  | [] => [[]]
  | (c, isQuoted) :: rest =>
    if c = '/' then [] :: splitMarked rest
    else
      match splitMarked rest with
      | [] => [[(c, isQuoted)]]
      | piece :: pieces => ((c, isQuoted) :: piece) :: pieces

/-- The paths that pieces of a pattern match below a path. -/
def matching (files : FileSystem) (directory : Location) (base : String) (isFirst : Bool) :
    List (List Marked) → List String
  | [] => [base]
  | piece :: rest =>
    let text := String.ofList (piece.map (·.1))
    let step := fun (name : String) => if isFirst then name else base ++ "/" ++ name
    if Glyph.isPattern piece then
      let here := if isFirst then "." else if base = "" then "/" else base
      match files.locate true directory here with
      | .ok (location, some .directory) =>
        let names := (Utility.namesIn files location).filter fun name =>
          Glyph.isMatch (Glyph.ofMarked piece) name.toList &&
            (name.toList.head? ≠ some '.' || text.toList.head? = some '.')
        names.flatMap fun name => matching files directory (step name) false rest
      | _ => []
    else
      let path := step text
      if rest.isEmpty && (files.exists? directory path).toOption ≠ some true then []
      else matching files directory path false rest

/-- The texts that a field stands for. -/
def fieldTexts (files : FileSystem) (directory : Location) (field : List Marked) : List String :=
  let text := String.ofList (field.map (·.1))
  if Glyph.isPattern field then
    match matching files directory "" true (splitMarked field) with
    | [] => [text]
    | paths => paths
  else [text]

end Pipewright.Shell
