/-!
# Floats as decimal text

A finite float is a natural number times a power of two, with a sign. Everything that writes a
float as decimal text starts from this value and computes in exact arithmetic. With a fixed number
of places the value is rounded to the nearest decimal, a half going to the even neighbour. The
fewest digits that read back to a float are found digit by digit: for one digit, then two, and so
on, the value's two neighbours on the grid of decimals with that many digits are tested against the
interval of reals that round to the float.
-/

namespace ServiceCapsule

/-! ### Exact values -/

/-- The magnitude `mantissa * 2 ^ exponent` with a sign. -/
structure Dyadic where
  negative : Bool
  mantissa : Nat
  exponent : Int
  deriving DecidableEq, Repr

namespace Dyadic

/-- The value of a finite float; none for infinities and for what is no number. -/
def ofFloat? (x : Float) : Option Dyadic :=
  let bits := x.toBits.toNat
  let negative := bits / Nat.pow 2 63 == 1
  let field : Nat := bits / Nat.pow 2 52 % Nat.pow 2 11
  let fraction : Nat := bits % Nat.pow 2 52
  if field == Nat.pow 2 11 - 1 then none
  else if field == 0 then some ⟨negative, fraction, -1074⟩
  else some ⟨negative, Nat.pow 2 52 + fraction, (field : Int) - 1075⟩

def fraction (d : Dyadic) : Nat × Nat :=
  if 0 ≤ d.exponent then (d.mantissa * Nat.pow 2 d.exponent.toNat, 1)
  else (d.mantissa, Nat.pow 2 (-d.exponent).toNat)

end Dyadic

/-- The nearest integer to a quotient; of two equally near ones, the even one. -/
def roundDiv (num den : Nat) : Nat :=
  let q := num / den
  let twice := 2 * (num % den)
  if twice < den then q
  else if den < twice then q + 1
  else if q % 2 == 0 then q else q + 1

/-! ### A fixed number of places -/

namespace Decimal

def padded (width n : Nat) : String :=
  let digits := Nat.repr n
  String.ofList (List.replicate (width - digits.length) '0') ++ digits

/-- `n / 10 ^ places` as text. -/
def pointed (places n : Nat) : String :=
  if places == 0 then Nat.repr n
  else Nat.repr (n / Nat.pow 10 places) ++ "." ++ padded places (n % Nat.pow 10 places)

/-- A float with a fixed number of decimal places. -/
def fixed (places : Nat) (x : Float) : String :=
  match Dyadic.ofFloat? x with
  | some d =>
    let (num, den) := d.fraction
    (if d.negative then "-" else "") ++ pointed places (roundDiv (num * Nat.pow 10 places) den)
  | none => if x.isNaN then "NaN" else if x < 0 then "-inf" else "inf"

/-! ### The fewest digits -/

/-- The reals that round to a float, over a common denominator. -/
structure Interval where
  low : Nat
  value : Nat
  high : Nat
  denominator : Nat
  closed : Bool

/-- The interval of a positive value; below a power of two the floats lie twice as dense. -/
def Interval.ofDyadic (d : Dyadic) : Interval :=
  let scale := if 0 ≤ d.exponent then Nat.pow 2 d.exponent.toNat else 1
  let den := if 0 ≤ d.exponent then 4 else 4 * Nat.pow 2 (-d.exponent).toNat
  let below := if d.mantissa == Nat.pow 2 52 && d.exponent != -1074 then 1 else 2
  { low := (4 * d.mantissa - below) * scale
    value := 4 * d.mantissa * scale
    high := (4 * d.mantissa + 2) * scale
    denominator := den
    closed := d.mantissa % 2 == 0 }

/-- Whether `n * 10 ^ k` lies in the interval. -/
def Interval.contains (i : Interval) (n : Nat) (k : Int) : Bool :=
  let (x, y) := if 0 ≤ k then (n * Nat.pow 10 k.toNat * i.denominator, 1)
    else (n * i.denominator, Nat.pow 10 (-k).toNat)
  if i.closed then i.low * y ≤ x && x ≤ i.high * y else i.low * y < x && x < i.high * y

/-- The least `e` with `num / den < 10 ^ e`, for a positive quotient; `start` is a lower bound
and the search is cut off after `fuel` steps. -/
def magnitudeFrom (num den : Nat) (start : Int) : Nat → Int
  | 0 => start
  | fuel + 1 =>
    let reached := if 0 ≤ start then num < Nat.pow 10 start.toNat * den
      else num * Nat.pow 10 (-start).toNat < den
    if reached then start else magnitudeFrom num den (start + 1) fuel

/-- Of the two neighbours on the grid of step `10 ^ k`, the one in the interval; if both are, the
nearer one, and the lower one if they are equally near. -/
def Interval.onGrid? (i : Interval) (k : Int) : Option Nat :=
  let (num, den) := if 0 ≤ k then (i.value, i.denominator * Nat.pow 10 k.toNat)
    else (i.value * Nat.pow 10 (-k).toNat, i.denominator)
  let n := num / den
  let down := decide (2 * (num % den) < den) || (2 * (num % den) == den && n % 2 == 0)
  match i.contains n k && n != 0, i.contains (n + 1) k with
  | true, true => some (if down then n else n + 1)
  | true, false => some n
  | false, true => some (n + 1)
  | false, false => none

/-- Digits and exponent of the first grid with a hit. -/
def Interval.search (i : Interval) (magnitude : Int) (digits : Nat) : Nat → Nat × Int
  | 0 => (0, 0)
  | fuel + 1 =>
    let k := magnitude - digits
    match i.onGrid? k with
    | some n => (n, k)
    | none => i.search magnitude (digits + 1) fuel

/-- Drop zeros at the end of the digits. -/
def stripZeros : Nat → Nat → Int → Nat × Int
  | 0, n, k => (n, k)
  | fuel + 1, n, k => if n % 10 == 0 && n != 0 then stripZeros fuel (n / 10) (k + 1) else (n, k)

/-- Shortest digits `n` and exponent `k` such that `n * 10 ^ k` reads back to the value. -/
def shortest (d : Dyadic) : Nat × Int :=
  let i := Interval.ofDyadic d
  let size : Int := d.mantissa.log2 + d.exponent
  let start := size * 3 / 10 - 3
  let (n, k) := i.search (magnitudeFrom i.value i.denominator start 40) 1 20
  stripZeros 20 n k

structure Layout where
  /-- positional notation from this decimal exponent of the first digit on -/
  leastExponent : Int
  /-- and below this one -/
  mostExponent : Int
  /-- mark of a positive exponent -/
  positiveMark : String

def Layout.write (l : Layout) (n : Nat) (k : Int) : String :=
  let digits := Nat.repr n
  let count : Int := digits.length
  let point := count + k
  if n == 0 then "0.0"
  else if l.leastExponent ≤ point - 1 ∧ point - 1 < l.mostExponent then
    if 0 ≤ k then digits ++ String.ofList (List.replicate k.toNat '0') ++ ".0"
    else if 0 < point then
      String.ofList (digits.toList.take point.toNat) ++ "." ++
        String.ofList (digits.toList.drop point.toNat)
    else "0." ++ String.ofList (List.replicate (-point).toNat '0') ++ digits
  else
    let exponent := point - 1
    let mark := if exponent < 0 then "-" else l.positiveMark
    let fraction := if digits.length == 1 then "" else "." ++ String.ofList (digits.toList.drop 1)
    String.ofList (digits.toList.take 1) ++ fraction ++ "e" ++ mark ++ Nat.repr exponent.natAbs

def Layout.text? (l : Layout) (x : Float) : Option String :=
  (Dyadic.ofFloat? x).map fun d =>
    let (n, k) := if d.mantissa == 0 then (0, 0) else shortest d
    (if d.negative then "-" else "") ++ l.write n k

end Decimal
end ServiceCapsule
