/-!
# Stamps of passes

When a pass was run, as what, and for how long.

## Main definitions

* `Date.ofDays`: a day of the Gregorian calendar
* `PassStamp`: the stamp of one pass
* `PassStamp.ofReadings`: the stamp for what the clock and a source of random bytes have given
-/

namespace TrafficPlane.CommandLine

/-- A day of the Gregorian calendar. -/
structure Date where
  year : Nat
  month : Nat
  day : Nat
deriving DecidableEq, Repr

/-- The day that comes a number of days after the first of January 1970. Years are counted from the
first of March, so that a leap day comes last, in spans of four hundred years. -/
def Date.ofDays (days : Nat) : Date :=
  let days := days + 719468
  let within := days % 146097
  let year := (within - within / 1460 + within / 36524 - within / 146096) / 365
  let dayOfYear := within - (365 * year + year / 4 - year / 100)
  let month := (5 * dayOfYear + 2) / 153
  let year := year + 400 * (days / 146097)
  {
    year := if month < 10 then year else year + 1
    month := if month < 10 then month + 3 else month - 9
    day := dayOfYear - (153 * month + 2) / 5 + 1 }

example : Date.ofDays 0 = ⟨1970, 1, 1⟩ := by decide

example : Date.ofDays 19782 = ⟨2024, 2, 29⟩ := by decide

/-- A number with leading zeros. -/
def zeroPadded (width n : Nat) : String :=
  let digits := Nat.toDigits 10 n
  .ofList (List.replicate (width - digits.length) '0' ++ digits)

/-- An instant in universal time: the seconds since the start of 1970, and nanoseconds. -/
def instantText (seconds nanos : Nat) : String :=
  let date := Date.ofDays (seconds / 86400)
  let time := seconds % 86400
  zeroPadded 4 date.year ++ "-" ++ zeroPadded 2 date.month ++ "-" ++ zeroPadded 2 date.day ++ "T" ++
    zeroPadded 2 (time / 3600) ++ ":" ++ zeroPadded 2 (time / 60 % 60) ++ ":" ++
    zeroPadded 2 (time % 60) ++ "." ++ zeroPadded 9 nanos ++ "Z"

/-- A byte as two digits in base sixteen. -/
def byteText (b : UInt8) : String :=
  let digits := Nat.toDigits 16 b.toNat
  .ofList (List.replicate (2 - digits.length) '0' ++ digits)

/-- Sixteen random bytes as an identifier of the fourth version, in which six bits are fixed. -/
def identifierText (bytes : List UInt8) : String :=
  let marked := bytes.zipIdx.map fun (b, place) =>
    if place = 6 then b % 16 + 64 else if place = 8 then b % 64 + 128 else b
  let part (start length : Nat) : String :=
    String.join (((marked.drop start).take length).map byteText)
  "-".intercalate [part 0 4, part 4 2, part 6 2, part 8 2, part 10 6]

/-- When a pass was run, as what, and for how many milliseconds. -/
structure PassStamp where
  createdAt : String
  passId : String
  millis : Nat
deriving DecidableEq, Repr

/-- The stamp for what the clock and a source of random bytes have given. -/
def PassStamp.ofReadings (seconds nanos millis : Nat) (random : List UInt8) : PassStamp where
  createdAt := instantText seconds nanos
  passId := identifierText random
  millis

end TrafficPlane.CommandLine
