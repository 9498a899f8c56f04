import Pipewright.Decimal.Reading
import Pipewright.Text.LowerCase
import Pipewright.World

set_option autoImplicit false

/-! # What is logged

A `LogFilter` is a list of directives: a level, for all parts of the tool or for those whose name
begins with a target. The directive with the longest target decides about a record. -/

namespace Pipewright.CommandLine

/-- How much is logged: nothing, or all that matters at least as much as a level. -/
abbrev Threshold := Option LogLevel

/-- How much a record of a level matters. -/
def weight : LogLevel → Nat
  | .error => 1
  | .warn => 2
  | .info => 3
  | .debug => 4
  | .trace => 5

/-- The name of a level. -/
def levelName : LogLevel → String
  | .error => "ERROR"
  | .warn => "WARN"
  | .info => "INFO"
  | .debug => "DEBUG"
  | .trace => "TRACE"

/-- Whether a threshold lets a level through. -/
def passes (threshold : Threshold) (level : LogLevel) : Bool :=
  match threshold with
  | none => false
  | some limit => weight level ≤ weight limit

/-- The threshold that a text names, in letters of any case or as a number. -/
def threshold? (text : String) : Option Threshold :=
  match Text.lower text with
  | "off" => some none
  | "error" => some (some .error)
  | "warn" => some (some .warn)
  | "info" => some (some .info)
  | "debug" => some (some .debug)
  | "trace" => some (some .trace)
  | _ =>
    match readNat? text with
    | some 0 => some none
    | some 1 => some (some .error)
    | some 2 => some (some .warn)
    | some 3 => some (some .info)
    | some 4 => some (some .debug)
    | some 5 => some (some .trace)
    | _ => none

/-- A directive; without a target it holds for all parts of the tool. -/
structure Directive where
  target : Option String
  threshold : Threshold
  deriving DecidableEq, Repr

/-- The directives of a filter. -/
abbrev LogFilter := List Directive

/-- Why a directive is ignored. -/
inductive DirectiveFault where
  | level
  | form
  deriving DecidableEq, Repr

def DirectiveFault.message : DirectiveFault → String
  | .level =>
    "error parsing level filter: expected one of \"off\", \"error\", \"warn\", \"info\", " ++
      "\"debug\", \"trace\", or a number 0-5"
  | .form => "invalid filter directive"

/-- Reads a directive: a level, a target, or a target with its level. -/
def Directive.ofText? (text : String) : Except DirectiveFault Directive :=
  let cs := text.toList
  match cs.dropWhile (· ≠ '=') with
  | [] =>
    if !(cs.head?).any (fun c => c.isAlphanum || c = '-' || c = ':' || c = '_' || 0x80 ≤ c.toNat) ||
        cs.contains '[' then
      .error .form
    else
      match threshold? text with
      | some threshold => .ok ⟨none, threshold⟩
      | none => .ok ⟨some text, some .trace⟩
  | _ :: level =>
    let target := String.ofList (cs.takeWhile (· ≠ '='))
    if level = [] then .ok ⟨some target, some .trace⟩
    else
      match threshold? (String.ofList level) with
      | some threshold => .ok ⟨some target, threshold⟩
      | none => .error .level

namespace LogFilter

/-- The pieces of a text between its commas, without the empty ones. -/
def directiveTexts (text : String) : List String :=
  ((text.toList.splitOn ',').filter (· ≠ [])).map String.ofList

/-- The filter that a text describes, and its directives that are ignored. A filter without
    directives lets errors through. -/
def ofText (text : String) : LogFilter × List (String × DirectiveFault) :=
  let read := (directiveTexts text).map fun piece => (piece, Directive.ofText? piece)
  let directives := read.filterMap fun (_, result) => result.toOption
  let ignored := read.filterMap fun (piece, result) =>
    match result with
    | .error fault => some (piece, fault)
    | .ok _ => none
  (if directives.isEmpty then [⟨none, some .error⟩] else directives, ignored)

/-- Whether a directive is about a part of the tool, and how closely. -/
def Directive.closeness? (part : String) (directive : Directive) : Option Nat :=
  match directive.target with
  | none => some 0
  | some target =>
    if target.toList.isPrefixOf part.toList then some (target.length + 1) else none

/-- The threshold for a part of the tool: that of the closest directive, of equal ones the last. -/
def thresholdFor (part : String) : LogFilter → Nat → Threshold → Threshold
  | [], _, threshold => threshold
  | directive :: rest, best, threshold =>
    match Directive.closeness? part directive with
    | some closeness =>
      if best ≤ closeness then thresholdFor part rest closeness directive.threshold
      else thresholdFor part rest best threshold
    | none => thresholdFor part rest best threshold

/-- Whether a record is let through. -/
def shows (filter : LogFilter) (record : LogRecord) : Bool :=
  passes (thresholdFor record.part.name filter 0 none) record.level

end LogFilter

example : (LogFilter.ofText "warn,spirit_tool=trace").1.shows ⟨.debug, .rendering⟩ = true := by
  decide +kernel
example : (LogFilter.ofText "spirit_tool::runner=info").1.shows ⟨.warn, .tool⟩ = false := by
  decide +kernel
example : (LogFilter.ofText "").1.shows ⟨.warn, .tool⟩ = false := by decide +kernel

end Pipewright.CommandLine
