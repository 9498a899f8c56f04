set_option autoImplicit false

/-! # Patterns

A pattern matches texts: `?` stands for any character, `*` for any text, a bracket expression for a
character of a set. Quoted characters stand for themselves. -/

namespace Pipewright.Shell

/-- A part of a pattern. -/
inductive Glyph where
  | one (c : Char)
  | any
  | anyText
  | oneOf (isNegated : Bool) (ranges : List (Char × Char))
  deriving DecidableEq, Repr

/-- A character and whether it was quoted. -/
abbrev Marked := Char × Bool

namespace Glyph

/-- The ranges of a bracket expression. -/
def ranges : List Char → List (Char × Char)
  | a :: '-' :: b :: rest => (a, b) :: ranges rest
  | a :: rest => (a, a) :: ranges rest
  | [] => []

/-- What stands in front of the closing bracket; a bracket right at the start is a member. -/
def bracket (isFirst : Bool) : List Marked → Option (List Char × List Marked)
  | [] => none
  | (']', false) :: rest =>
    if isFirst then (bracket false rest).map fun (inside, rest) => (']' :: inside, rest)
    else some ([], rest)
  | (c, _) :: rest => (bracket false rest).map fun (inside, rest) => (c :: inside, rest)

/-- The pattern of a text of at most as many characters as fuel. -/
def compile : Nat → List Marked → List Glyph
  | 0, _ => []
  | _ + 1, [] => []
  | fuel + 1, (c, isQuoted) :: rest =>
    if isQuoted then .one c :: compile fuel rest
    else
      match c with
      | '?' => .any :: compile fuel rest
      | '*' => .anyText :: compile fuel rest
      | '[' =>
        let (isNegated, members) :=
          match rest with
          | ('!', false) :: members => (true, members)
          | ('^', false) :: members => (true, members)
          | members => (false, members)
        match bracket true members with
        | some (inside, rest) => .oneOf isNegated (ranges inside) :: compile fuel rest
        | none => .one c :: compile fuel rest
      | _ => .one c :: compile fuel rest

/-- The pattern of a text. -/
def ofMarked (text : List Marked) : List Glyph := compile text.length text

/-- Whether a text is matched as a whole. -/
def isMatch : List Glyph → List Char → Bool
  | [], cs => cs.isEmpty
  | .anyText :: glyphs, [] => isMatch glyphs []
  | .anyText :: glyphs, c :: cs => isMatch glyphs (c :: cs) || isMatch (.anyText :: glyphs) cs
  | .one d :: glyphs, c :: cs => c = d && isMatch glyphs cs
  | .any :: glyphs, _ :: cs => isMatch glyphs cs
  | .oneOf isNegated ranges :: glyphs, c :: cs =>
    (ranges.any fun (a, b) => a ≤ c && c ≤ b) != isNegated && isMatch glyphs cs
  | _ :: _, [] => false
termination_by glyphs cs => glyphs.length + cs.length

/-- The splits of a text, the shortest first part first. -/
def splits : List Char → List (List Char × List Char)
  | [] => [([], [])]
  | c :: cs => ([], c :: cs) :: (splits cs).map fun (a, b) => (c :: a, b)

/-- A text without a start that is matched. -/
def cutStart (longest : Bool) (glyphs : List Glyph) (cs : List Char) : List Char :=
  let found := (splits cs).filter fun (a, _) => isMatch glyphs a
  ((if longest then found.getLast? else found.head?).map (·.2)).getD cs

/-- A text without an end that is matched. -/
def cutEnd (longest : Bool) (glyphs : List Glyph) (cs : List Char) : List Char :=
  let found := (splits cs).filter fun (_, b) => isMatch glyphs b
  ((if longest then found.head? else found.getLast?).map (·.1)).getD cs

/-- Whether a text has a character that stands for others. -/
def isPattern (text : List Marked) : Bool :=
  text.any fun (c, isQuoted) => !isQuoted && (c = '*' || c = '?' || c = '[')

end Glyph

example :
    Glyph.isMatch (Glyph.ofMarked ("a*[b-d]?".toList.map fun c => (c, false))) "axxcz".toList =
      true := by decide +kernel
example : Glyph.isMatch [.anyText, .one 'b'] ['a'] = false := by decide +kernel

end Pipewright.Shell
