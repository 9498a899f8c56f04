set_option autoImplicit false

/-! # Points in time

A point in time is a number of nanoseconds since 1970-01-01T00:00:00Z. `Timestamp.rfc3339` writes
it as a date and time of day, with as many groups of three digits of the second's fraction as it
needs; `Timestamp.compact` writes it for file names. -/

namespace Pipewright

/-- Nanoseconds since 1970-01-01T00:00:00Z. -/
abbrev Timestamp := Nat

namespace Timestamp

/-- Year, month and day. -/
structure Date where
  year : Nat
  month : Nat
  day : Nat
  deriving DecidableEq, Repr

/-- The date of a day, counted from 1970-01-01. The year is taken to begin in March, so that the
    day that some years lack is the last. -/
def dateOfDay (days : Nat) : Date :=
  let shifted := days + 719468
  let era := shifted / 146097
  let dayOfEra := shifted % 146097
  let yearOfEra := (dayOfEra - dayOfEra / 1460 + dayOfEra / 36524 - dayOfEra / 146096) / 365
  let dayOfYear := dayOfEra - (365 * yearOfEra + yearOfEra / 4 - yearOfEra / 100)
  let shiftedMonth := (5 * dayOfYear + 2) / 153
  let day := dayOfYear - (153 * shiftedMonth + 2) / 5 + 1
  let month := if shiftedMonth < 10 then shiftedMonth + 3 else shiftedMonth - 9
  ⟨yearOfEra + era * 400 + (if month ≤ 2 then 1 else 0), month, day⟩

/-- A number with zeros in front, to the given number of digits. -/
def padded (width n : Nat) : String :=
  let digits := Nat.repr n
  String.ofList (List.replicate (width - digits.length) '0') ++ digits

/-- The fraction of a second: nothing, or a point and three, six or nine digits. -/
def fractionText (nanos : Nat) : String :=
  if nanos = 0 then ""
  else if nanos % 1000000 = 0 then "." ++ padded 3 (nanos / 1000000)
  else if nanos % 1000 = 0 then "." ++ padded 6 (nanos / 1000)
  else "." ++ padded 9 nanos

/-- The date and time, such as `2001-09-09T01:46:40Z`. -/
def rfc3339 (time : Timestamp) : String :=
  let seconds := time / 1000000000
  let date := dateOfDay (seconds / 86400)
  let ofDay := seconds % 86400
  padded 4 date.year ++ "-" ++ padded 2 date.month ++ "-" ++ padded 2 date.day ++ "T" ++
    padded 2 (ofDay / 3600) ++ ":" ++ padded 2 (ofDay / 60 % 60) ++ ":" ++ padded 2 (ofDay % 60) ++
    fractionText (time % 1000000000) ++ "Z"

/-- The date and time without separators, such as `20010909_014640`. -/
def compact (time : Timestamp) : String :=
  let seconds := time / 1000000000
  let date := dateOfDay (seconds / 86400)
  let ofDay := seconds % 86400
  padded 4 date.year ++ padded 2 date.month ++ padded 2 date.day ++ "_" ++
    padded 2 (ofDay / 3600) ++ padded 2 (ofDay / 60 % 60) ++ padded 2 (ofDay % 60)

example : rfc3339 1000000000123456789 = "2001-09-09T01:46:40.123456789Z" := by decide +kernel
example : rfc3339 951782400500000000 = "2000-02-29T00:00:00.500Z" := by decide +kernel
example : compact 1735689599000000000 = "20241231_235959" := by decide +kernel

end Timestamp

end Pipewright
