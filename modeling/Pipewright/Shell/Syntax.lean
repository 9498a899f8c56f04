set_option autoImplicit false

/-! # Shell scripts

The syntax of the scripts that stand for outside programs: a subset of the POSIX shell language.
A word is a list of parts, which know whether they were quoted; commands are simple or built from
other commands. -/

namespace Pipewright.Shell

/-- How the value of a parameter is used. The flag of the four tests says whether an empty value
    counts as missing; that of the two cuts, whether the longest match is cut. -/
inductive Use where
  | value
  | length
  | orElse (emptyIsMissing : Bool)
  | orAssign (emptyIsMissing : Bool)
  | orFail (emptyIsMissing : Bool)
  | ifThere (emptyIsMissing : Bool)
  | cutStart (longest : Bool)
  | cutEnd (longest : Bool)
  deriving DecidableEq, Repr

/-- Whether a parameter without a value has nothing to put in its place. -/
def Use.needsValue : Use → Bool
  | .value | .length | .cutStart _ | .cutEnd _ => true
  | .orElse _ | .orAssign _ | .orFail _ | .ifThere _ => false

/-- What is done to a descriptor. -/
inductive Direction where
  | input
  | output
  | append
  | duplicate
  | document
  deriving DecidableEq, Repr

mutual

/-- A part of a word. -/
inductive Part where
  | text (text : String) (isQuoted : Bool)
  | parameter (name : String) (use : Use) (word : List Part) (isQuoted : Bool)
  /-- What a command writes. -/
  | output (command : Command) (isQuoted : Bool)
  | arithmetic (word : List Part) (isQuoted : Bool)

inductive Redirection where
  | mk (descriptor : Nat) (direction : Direction) (target : List Part)

inductive Command where
  /-- Keeps how many line ends follow its beginning in the script. -/
  | simple (lineEnds : Nat) (assignments : List (String × List Part)) (words : List (List Part))
      (redirections : List Redirection)
  | sequence (commands : List Command)
  | both (first second : Command)
  | either (first second : Command)
  | negation (command : Command)
  | pipeline (first second : Command)
  | background (command : Command)
  | subshell (command : Command)
  | redirected (command : Command) (redirections : List Redirection)
  | conditional (test body otherwise : Command)
  | loop (test : Command) (goesOnWhile : Bool) (body : Command)
  /-- Without words, the arguments are taken. -/
  | forEach (name : String) (words : Option (List (List Part))) (body : Command)
  | choice (word : List Part) (branches : List (List (List Part) × Command))
  | define (name : String) (body : Command)

end

/-- A word of a script. -/
abbrev Word := List Part

/-- A script: commands in order, and what is wrong behind them, if anything. -/
structure Script where
  lineEnds : Nat
  commands : List Command
  fault : Option String

end Pipewright.Shell
