import ServiceCapsule.Decimal.Dyadic
import ServiceCapsule.Text.Basic

/-!
# Points in time and hours

Points in time in UTC, read from and written as RFC 3339 text. A leap second is the second 60 of
its minute. Spans of time are hours, shown in a unit that suits their length.
-/

namespace ServiceCapsule

/-! ### Points in time -/

/-- Days since 1970-01-01, seconds of the day, nanoseconds; a leap second has a billion
nanoseconds or more. -/
structure Timestamp where
  day : Int
  second : Nat
  nanosecond : Nat
  deriving DecidableEq, Repr, Inhabited

structure Date where
  year : Int
  month : Nat
  day : Nat
  deriving DecidableEq, Repr

namespace Date

def isLeap (year : Int) : Bool := year % 4 == 0 && (year % 100 != 0 || year % 400 == 0)

def daysInMonth (year : Int) (month : Nat) : Nat :=
  if month == 2 then (if isLeap year then 29 else 28)
  else if month == 4 || month == 6 || month == 9 || month == 11 then 30 else 31

def valid (d : Date) : Bool :=
  1 ≤ d.month && d.month ≤ 12 && 1 ≤ d.day && d.day ≤ daysInMonth d.year d.month

/-- Days since 1970-01-01. Years are counted from March, so that the leap day is the last one. -/
def toDays (d : Date) : Int :=
  let y := if d.month ≤ 2 then d.year - 1 else d.year
  let era := y.fdiv 400
  let yearOfEra := y - era * 400
  let monthFromMarch : Int := (d.month + 9) % 12
  let dayOfYear := (153 * monthFromMarch + 2) / 5 + d.day - 1
  era * 146097 + (yearOfEra * 365 + yearOfEra / 4 - yearOfEra / 100 + dayOfYear) - 719468

def ofDays (days : Int) : Date :=
  let z := days + 719468
  let era := z.fdiv 146097
  let dayOfEra := z - era * 146097
  let yearOfEra := (dayOfEra - dayOfEra / 1460 + dayOfEra / 36524 - dayOfEra / 146096) / 365
  let dayOfYear := dayOfEra - (365 * yearOfEra + yearOfEra / 4 - yearOfEra / 100)
  let monthFromMarch := (5 * dayOfYear + 2) / 153
  let day := dayOfYear - (153 * monthFromMarch + 2) / 5 + 1
  let month := if monthFromMarch < 10 then monthFromMarch + 3 else monthFromMarch - 9
  ⟨yearOfEra + era * 400 + (if month ≤ 2 then 1 else 0), month.toNat, day.toNat⟩

example : (Date.mk 1970 1 1).toDays = 0 := by decide
example : Date.ofDays ((Date.mk 2024 2 29).toDays) = ⟨2024, 2, 29⟩ := by decide
example : Date.ofDays ((Date.mk 1 1 1).toDays) = ⟨1, 1, 1⟩ := by decide

end Date

namespace Timestamp

def skipBlanks (cs : List Char) : List Char := cs.dropWhile Text.isBlank

def readNumber (most : Nat) (cs : List Char) : Option (Nat × List Char) :=
  let cs := skipBlanks cs
  let ds := (cs.take most).takeWhile Char.isDigit
  if ds.isEmpty then none else some (Text.digitsValue ds, cs.drop ds.length)

def readMark (c : Char) (cs : List Char) : Option (List Char) :=
  match skipBlanks cs with
  | d :: rest => if c == d then some rest else none
  | [] => none

/-- A year: up to four digits, or any number of them after a sign. -/
def readYear (cs : List Char) : Option (Int × List Char) :=
  match skipBlanks cs with
  | '-' :: rest => (readNumber rest.length rest).map fun (n, rest) => (-(n : Int), rest)
  | '+' :: rest => (readNumber rest.length rest).map fun (n, rest) => ((n : Int), rest)
  | cs => (readNumber 4 cs).map fun (n, rest) => ((n : Int), rest)

/-- Digits after a point, as nanoseconds; digits beyond the ninth are dropped. -/
def readFraction (cs : List Char) : Option (Nat × List Char) :=
  match cs with
  | '.' :: rest =>
    let ds := rest.takeWhile Char.isDigit
    if ds.isEmpty then none
    else some (Text.digitsValue ((ds ++ List.replicate 9 '0').take 9), rest.drop ds.length)
  | _ => some (0, cs)

def readPair : List Char → Option (Nat × List Char)
  | a :: b :: rest =>
    if a.isDigit && b.isDigit then some (Text.digitsValue [a, b], rest) else none
  | _ => none

/-- Whether a text starts with the name of the time zone. -/
def isUtcName (cs : List Char) : Bool := (cs.take 3).map Char.toUpper == ['U', 'T', 'C']

def readOffset (cs : List Char) : Option (Int × List Char) :=
  match skipBlanks cs with
  | [] => none
  | sign :: rest =>
    if isUtcName (sign :: rest) then some (0, rest.drop 2)
    else if sign == 'Z' || sign == 'z' then some (0, rest)
    else do
      let (hours, rest) ← readPair rest
      let (minutes, rest) ← readPair (rest.dropWhile fun c => c == ':' || Text.isBlank c)
      let total : Int := (hours * 60 + minutes : Nat)
      if 59 < minutes || 23 < hours then none
      else if sign == '+' then some (total, rest)
      else if sign == '-' || sign == '\u2212' then some (-total, rest)
      else none

def isYear (year : Int) : Bool := decide (-262143 ≤ year) && decide (year ≤ 262142)

/-- Read RFC 3339 text and move it to UTC. Leading zeros may be left out, and blanks may stand
between the parts. -/
def parse? (s : String) : Option Timestamp := do
  let (year, cs) ← readYear s.toList
  let cs ← readMark '-' cs
  let (month, cs) ← readNumber 2 cs
  let cs ← readMark '-' cs
  let (day, cs) ← readNumber 2 cs
  let cs ← match cs with
    | c :: rest => if c == 'T' || c == 't' || c == ' ' then some rest else none
    | [] => none
  let (hour, cs) ← readNumber 2 cs
  let cs ← readMark ':' cs
  let (minute, cs) ← readNumber 2 cs
  let cs ← readMark ':' cs
  let (second, cs) ← readNumber 2 cs
  let (nanos, cs) ← readFraction cs
  let (offset, cs) ← readOffset cs
  let date : Date := ⟨year, month, day⟩
  if !(skipBlanks cs).isEmpty || !isYear year || !date.valid || 23 < hour || 59 < minute ||
      60 < second then none
  else
    let leap := second == 60
    let clock : Int := ((hour * 60 + minute) * 60 + (if leap then 59 else second) : Nat)
    let total := date.toDays * 86400 + clock - offset * 60
    some ⟨total.fdiv 86400, (total.fmod 86400).toNat, if leap then nanos + 1000000000 else nanos⟩

def dateText (t : Timestamp) : String :=
  let d := Date.ofDays t.day
  let year := if d.year < 0 then "-" ++ Decimal.padded 4 d.year.natAbs
    else if 9999 < d.year then "+" ++ Nat.repr d.year.natAbs else Decimal.padded 4 d.year.natAbs
  year ++ "-" ++ Decimal.padded 2 d.month ++ "-" ++ Decimal.padded 2 d.day

def clockText (t : Timestamp) : String :=
  Decimal.padded 2 (t.second / 3600) ++ ":" ++ Decimal.padded 2 (t.second / 60 % 60) ++ ":" ++
    Decimal.padded 2 (t.second % 60 + t.nanosecond / 1000000000)

/-- As many digits as the nanoseconds need: none, three, six or nine. -/
def fractionText (t : Timestamp) : String :=
  let n := t.nanosecond % 1000000000
  if n == 0 then ""
  else if n % 1000000 == 0 then "." ++ Decimal.padded 3 (n / 1000000)
  else if n % 1000 == 0 then "." ++ Decimal.padded 6 (n / 1000)
  else "." ++ Decimal.padded 9 n

/-- RFC 3339 with as many fractional digits as needed. -/
def text (t : Timestamp) : String := t.dateText ++ "T" ++ t.clockText ++ t.fractionText ++ "Z"

/-- RFC 3339 in whole seconds; a fraction is cut off. -/
def textInSeconds (t : Timestamp) : String := t.dateText ++ "T" ++ t.clockText ++ "Z"

def shown (t : Timestamp) : String := t.dateText ++ " " ++ t.clockText ++ " UTC"

end Timestamp

/-! ### Hours -/

namespace Hours

/-- Hours as seconds, minutes or hours. -/
def text (hours : Float) : String :=
  let seconds := hours * 3600.0
  if seconds < 60.0 then Decimal.fixed 1 seconds ++ "s"
  else if seconds < 3600.0 then Decimal.fixed 1 (seconds / 60.0) ++ "m"
  else Decimal.fixed 2 hours ++ "h"

def ofNanoseconds (n : Nat) : Float :=
  (Float.ofNat (n / 1000000000) + Float.ofNat (n % 1000000000) / 1000000000.0) / 3600.0

end Hours
end ServiceCapsule
