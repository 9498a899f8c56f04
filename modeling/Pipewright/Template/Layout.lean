import Pipewright.Template.Tag

set_option autoImplicit false

/-! # Texts and tags

A template is a sequence of texts and tags. Blanks around tags are not always text:

* a tilde removes all blanks on its side of the tag;
* a tag that has a line to itself takes the line with it, unless it writes a value.

`pieces` reads the sequence, `layOut` settles its blanks. -/

namespace Pipewright.Template

/-- A tag, with the characters before it (the nearest first) and those after it. -/
structure Placed where
  tag : Scan.Tag
  before : List Char
  after : List Char

/-- A part of the sequence: a text, or a tag with what stands around it. -/
inductive Piece where
  | text (cs : List Char)
  | tag (placed : Placed)

/-- Reads texts and tags in turn, the texts also where they are empty; nothing, if braces do not
    open a tag. `before` holds what has been read, the nearest first. -/
def piecesFrom : Nat → List Char → List Char → Option (List Piece)
  | 0, _, _ => none
  | fuel + 1, before, cs =>
    let (text, rest) := Scan.textRun 2 (cs.length + 1) cs
    match rest with
    | [] => some [.text text]
    | _ =>
      match Scan.scanTag rest with
      | none => none
      | some (tag, after) =>
        let before := (cs.take (cs.length - rest.length)).reverse ++ before
        let passed := (rest.take (rest.length - after.length)).reverse ++ before
        (piecesFrom fuel passed after).map fun pieces =>
          .text text :: .tag ⟨tag, before, after⟩ :: pieces

/-- The texts and tags of a template. -/
def pieces (text : String) : Option (List Piece) :=
  piecesFrom (text.length + 1) [] text.toList

/-! ## Lines -/

def isLineBlank (c : Char) : Bool := c = ' ' || c = '\t'

def isLineBreak (c : Char) : Bool := c = '\n' || c = '\r'

/-- Whether nothing but blanks stands before a line break. -/
def endsLine (after : List Char) : Bool := ((after.dropWhile isLineBlank).head?).any isLineBreak

/-- Whether nothing but blanks stands after a line break or the start. -/
def startsLine (before : List Char) : Bool :=
  match before.dropWhile isLineBlank with
  | [] => true
  | c :: _ => isLineBreak c

/-- Whether a tag can have a line to itself. -/
def mayStandAlone : Scan.Shape → Bool
  | .leaf isSilent => isSilent
  | _ => true

/-- Whether a tag has a line to itself; the last line needs no break, except after a tag that
    includes another template. -/
def standsAlone (placed : Placed) : Bool :=
  let isInclude :=
    match placed.tag.shape with
    | .include _ => true
    | _ => false
  mayStandAlone placed.tag.shape &&
    (endsLine placed.after || (!isInclude && placed.after = [])) && startsLine placed.before

/-- The text without the blanks at the end of its last line. -/
def trimLineEnd (cs : List Char) : List Char := (cs.reverse.dropWhile isLineBlank).reverse

/-- The text without the rest of the line that a tag has to itself. -/
def trimLineStart (cs : List Char) : List Char :=
  match cs.dropWhile isLineBlank with
  | '\r' :: '\n' :: rest => rest
  | '\n' :: rest => rest
  | rest => rest

/-- What the tags so far ask of the next text: to lose all blanks at its start, or the rest of its
    first line. -/
structure Margin where
  dropBlanks : Bool
  dropLine : Bool

/-- The text that a margin leaves, and what stays asked of the text after it. -/
def Margin.apply (margin : Margin) (cs : List Char) : List Char × Margin :=
  if cs = [] then ([], margin)
  else if cs.all Scan.isBlank then
    if margin.dropBlanks then ([], margin)
    else (if margin.dropLine then trimLineStart cs else cs, { margin with dropLine := false })
  else
    (if margin.dropBlanks then Text.trimStartChars cs
      else if margin.dropLine then trimLineStart cs
      else cs, { margin with dropLine := false })

/-- What is asked of the text after a tag. -/
def Margin.past (margin : Margin) (placed : Placed) : Margin :=
  { dropBlanks :=
      match placed.tag.shape with
      | .comment => margin.dropBlanks
      | _ => placed.tag.trimAfter
    dropLine := if mayStandAlone placed.tag.shape then standsAlone placed else margin.dropLine }

/-- A text or a tag after the blanks are settled; a tag that includes another template has its
    indentation. -/
inductive Settled where
  | text (text : String)
  | tag (tag : Scan.Tag) (indent : Indent)

/-- The text as the tag after it leaves it. -/
def trimFor (placed : Placed) (cs : List Char) : List Char :=
  let cs := if placed.tag.trimBefore then Text.trimEndChars cs else cs
  if standsAlone placed then trimLineEnd cs else cs

/-- The indentation of a template that a tag includes: the blanks before the tag. -/
def indentOf (placed : Placed) : Indent :=
  match placed.tag.shape with
  | .include false =>
    let blanks := (placed.before.takeWhile isLineBlank).reverse
    { text := if placed.tag.trimBefore || blanks = [] then none else some (String.ofList blanks)
      first := standsAlone placed }
  | _ => ⟨none, false⟩

/-- Settles the blanks of the texts. -/
def layOut : Margin → List Piece → List Settled
  | _, [] => []
  | margin, .tag placed :: rest =>
    .tag placed.tag (indentOf placed) :: layOut (margin.past placed) rest
  | margin, .text cs :: .tag placed :: rest =>
    let (text, margin) := margin.apply cs
    .text (String.ofList (trimFor placed text)) ::
      .tag placed.tag (indentOf placed) :: layOut (margin.past placed) rest
  | margin, .text cs :: rest =>
    let (text, margin) := margin.apply cs
    .text (String.ofList text) :: layOut margin rest

end Pipewright.Template
