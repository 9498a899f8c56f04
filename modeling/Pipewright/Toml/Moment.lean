import Pipewright.Decimal.Reading
import Pipewright.Timestamp

set_option autoImplicit false

/-! # Dates and times in TOML documents

`Moment.read?` takes a date, a time of day, or both with or without an offset off the front of a
text, and gives them in their usual form: a `T` between date and time, no zeros at the end of a
fraction, and an offset that is `Z` or has a sign. -/

namespace Pipewright.Toml.Moment

/-- A number of exactly so many digits. -/
def digits? (count : Nat) (cs : List Char) : Option (Nat × List Char) :=
  let front := cs.take count
  if front.length = count && front.all Char.isDigit then some (digitsNat front, cs.drop count)
  else none

/-- A number of two digits within bounds. -/
def pair? (low high : Nat) (cs : List Char) : Option (Nat × List Char) := do
  let (n, rest) ← digits? 2 cs
  if low ≤ n && n ≤ high then some (n, rest) else none

def char? (c : Char) : List Char → Option (List Char)
  | d :: rest => if d = c then some rest else none
  | [] => none

def isLeap (year : Nat) : Bool := year % 4 = 0 && (year % 100 ≠ 0 || year % 400 = 0)

/-- The number of days of a month. -/
def daysOf (year month : Nat) : Nat :=
  if month = 2 then (if isLeap year then 29 else 28)
  else if month = 4 || month = 6 || month = 9 || month = 11 then 30
  else 31

def date? (cs : List Char) : Option (String × List Char) := do
  let (year, cs) ← digits? 4 cs
  let cs ← char? '-' cs
  let (month, cs) ← pair? 1 12 cs
  let cs ← char? '-' cs
  let (day, cs) ← pair? 1 31 cs
  if daysOf year month < day then none
  else
    some (Timestamp.padded 4 year ++ "-" ++ Timestamp.padded 2 month ++ "-" ++
      Timestamp.padded 2 day, cs)

/-- Digits of a fraction as nanoseconds. -/
def nanos (digits : List Char) : Nat :=
  digitsNat ((digits ++ List.replicate 9 '0').take 9)

/-- The fraction of a second in its usual form. -/
def fraction (nanos : Nat) : String :=
  if nanos = 0 then ""
  else
    let digits := (Timestamp.padded 9 nanos).toList
    "." ++ String.ofList (digits.reverse.dropWhile (· = '0')).reverse

def time? (cs : List Char) : Option (String × List Char) := do
  let (hour, cs) ← pair? 0 23 cs
  let cs ← char? ':' cs
  let (minute, cs) ← pair? 0 59 cs
  let cs ← char? ':' cs
  let (second, cs) ← pair? 0 60 cs
  let text := Timestamp.padded 2 hour ++ ":" ++ Timestamp.padded 2 minute ++ ":" ++
    Timestamp.padded 2 second
  match cs with
  | '.' :: rest =>
    let digits := rest.takeWhile Char.isDigit
    if digits = [] then none
    else some (text ++ fraction (nanos digits), rest.dropWhile Char.isDigit)
  | _ => some (text, cs)

def offset? (cs : List Char) : Option (String × List Char) :=
  match cs with
  | 'Z' :: rest | 'z' :: rest => some ("Z", rest)
  | c :: rest =>
    if c = '+' || c = '-' then do
      let (hours, rest) ← pair? 0 23 rest
      let rest ← char? ':' rest
      let (minutes, rest) ← pair? 0 59 rest
      let sign := if c = '-' && hours + minutes ≠ 0 then "-" else "+"
      some (sign ++ Timestamp.padded 2 hours ++ ":" ++ Timestamp.padded 2 minutes, rest)
    else none
  | [] => none

/-- Takes a date, a time or both off the front. -/
def read? (cs : List Char) : Option (String × List Char) :=
  match date? cs with
  | none => time? cs
  | some (date, rest) =>
    match rest with
    | c :: more =>
      if c = 'T' || c = 't' || c = ' ' then
        match time? more with
        | none => some (date, rest)
        | some (time, rest) =>
          match offset? rest with
          | none => some (date ++ "T" ++ time, rest)
          | some (offset, rest) => some (date ++ "T" ++ time ++ offset, rest)
      else some (date, rest)
    | [] => some (date, rest)

example : (read? "1979-05-27 07:32:00.120z".toList).map (·.1) = some "1979-05-27T07:32:00.12Z" := by
  decide +kernel
example : (read? "2023-02-29".toList).isNone = true := by decide +kernel

end Pipewright.Toml.Moment
