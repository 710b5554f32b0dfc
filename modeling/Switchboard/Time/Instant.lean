/-
# Instants

An instant is a count of milliseconds since 1970-01-01T00:00:00Z. Only the years
-262143 to 262142 have a calendar date, so only the milliseconds from
`-8334601228800000` (the start of year -262143) up to, not including,
`8210266876800000` (the start of year 262143) are instants; `Instant.ofMillis?` refuses
the others, and a clock given one falls back to the epoch (`Instant.ofMillisOrEpoch`).

`Instant.rfc3339` writes an instant in UTC to the second, cutting the milliseconds:
`2023-11-14T22:13:20Z`. The calendar is the proleptic Gregorian one with a year 0;
years 0 to 9999 take four digits, earlier years a minus sign and at least four digits,
later years a plus sign.
-/
namespace Switchboard.Time

/-- The first millisecond that has a date. -/
def minMillis : Int := -8334601228800000

/-- The first millisecond past the last date. -/
def endMillis : Int := 8210266876800000

/-- A point in time, in milliseconds since the epoch, within the dated range. -/
structure Instant where
  ms : Int
  deriving DecidableEq, Repr

namespace Instant

def epoch : Instant := ⟨0⟩

/-- The instant of a millisecond count, if it has a date. -/
def ofMillis? (ms : Int) : Option Instant :=
  if minMillis ≤ ms ∧ ms < endMillis then some ⟨ms⟩ else none

def ofMillisOrEpoch (ms : Int) : Instant := (ofMillis? ms).getD epoch

/-- Year, month and day of a day count since the epoch (proleptic Gregorian). -/
def civilOfDays (z : Int) : Int × Nat × Nat :=
  let z := z + 719468
  let era := Int.fdiv z 146097
  let doe := z - era * 146097
  let yoe := (doe - doe / 1460 + doe / 36524 - doe / 146096) / 365
  let y := yoe + era * 400
  let doy := doe - (365 * yoe + yoe / 4 - yoe / 100)
  let mp := (5 * doy + 2) / 153
  let d := doy - (153 * mp + 2) / 5 + 1
  let m := if mp < 10 then mp + 3 else mp - 9
  ((if m ≤ 2 then y + 1 else y), m.toNat, d.toNat)

def padded (w : Nat) (n : Nat) : String :=
  let s := toString n
  String.ofList (List.replicate (w - s.length) '0') ++ s

/-- A year: four digits from 0 to 9999, else signed. -/
def yearText (y : Int) : String :=
  if y < 0 then "-" ++ padded 4 y.natAbs
  else if y > 9999 then "+" ++ toString y
  else padded 4 y.toNat

/-- The instant in UTC to the second, as RFC 3339 with a `Z`. -/
def rfc3339 (t : Instant) : String :=
  let secs := Int.fdiv t.ms 1000
  let days := Int.fdiv secs 86400
  let sod := (secs - days * 86400).toNat
  let (y, m, d) := civilOfDays days
  yearText y ++ "-" ++ padded 2 m ++ "-" ++ padded 2 d ++ "T" ++
    padded 2 (sod / 3600) ++ ":" ++ padded 2 (sod % 3600 / 60) ++ ":" ++ padded 2 (sod % 60) ++ "Z"

example : rfc3339 ⟨1700000000999⟩ = "2023-11-14T22:13:20Z" := by decide
example : rfc3339 ⟨-1⟩ = "1969-12-31T23:59:59Z" := by decide

end Instant

end Switchboard.Time
