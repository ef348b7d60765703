import ServiceCapsule.Text.Basic
import ServiceCapsule.Yaml.Token

/-!
# Plain words with a meaning

Plain scalars that are read as nothing, as truth values or as numbers. Digits that start with a
zero are a text, since they could be meant in base eight.
-/

namespace ServiceCapsule
namespace Yaml

def isNullWord (s : String) : Bool := s == "null" || s == "Null" || s == "NULL" || s == "~"

def boolWord? (s : String) : Option Bool :=
  if s == "true" || s == "True" || s == "TRUE" then some true
  else if s == "false" || s == "False" || s == "FALSE" then some false
  else none

def digitValue? (base : Nat) (c : Char) : Option Nat :=
  (Text.hexValue? c).bind fun n => if n < base then some n else none

def numberOf? (base : Nat) (cs : List Char) : Option Nat :=
  if cs.isEmpty then none
  else (cs.mapM (digitValue? base)).map fun ds => ds.foldl (fun n d => base * n + d) 0

def dropSign (cs : List Char) : List Char :=
  match cs with
  | '+' :: rest | '-' :: rest => rest
  | _ => cs

def dropPlus (cs : List Char) : List Char :=
  match cs with
  | '+' :: rest => rest
  | _ => cs

/-- Digits that start with a zero are no number. -/
def isPadded (cs : List Char) : Bool :=
  match dropSign cs with
  | '0' :: rest => !rest.isEmpty && rest.all Char.isDigit
  | _ => false

/-- The base that two characters stand for. -/
def baseOf? : List Char → Option (Nat × List Char)
  | '0' :: 'x' :: rest => some (16, rest)
  | '0' :: 'o' :: rest => some (8, rest)
  | '0' :: 'b' :: rest => some (2, rest)
  | _ => none

def unsigned? (cs : List Char) : Option Nat :=
  match baseOf? cs with
  | some (base, digits) => numberOf? base digits
  | none => numberOf? 10 cs

def integer? (s : String) : Option Int :=
  let cs := s.toList
  if isPadded cs then none
  else match cs with
    | '-' :: rest => (unsigned? rest).map fun n => -(n : Int)
    | _ => (unsigned? (dropPlus cs)).map Int.ofNat

/-- A whole number without a minus sign that fits into a machine word. -/
def natural? (s : String) : Option Nat :=
  if s.toList.head? == some '-' then none
  else (integer? s).bind fun n => if n.toNat < UInt64.size then some n.toNat else none

/-- The float nearest to `mantissa * 10 ^ exponent`. -/
def decimalFloat (mantissa : Nat) (exponent : Int) : Float :=
  let digits : Int := (Nat.repr mantissa).length
  if mantissa == 0 || digits + exponent < -400 then 0.0
  else if 400 < digits + exponent then 1.0 / 0.0
  else Float.ofScientific mantissa (decide (exponent < 0)) exponent.natAbs

structure Decimal where
  whole : List Char
  fraction : List Char
  exponent : Int

def exponent? (cs : List Char) : Option Int :=
  let digits := dropSign cs
  if digits.isEmpty || !digits.all Char.isDigit then none
  else
    let n : Int := Text.digitsValue digits
    some (if cs.head? == some '-' then -n else n)

def decimal? (cs : List Char) : Option Decimal :=
  let whole := cs.takeWhile Char.isDigit
  let rest := cs.dropWhile Char.isDigit
  let (fraction, rest) := match rest with
    | '.' :: more => (more.takeWhile Char.isDigit, more.dropWhile Char.isDigit)
    | _ => ([], rest)
  if whole.isEmpty && fraction.isEmpty then none
  else match rest with
    | [] => some ⟨whole, fraction, 0⟩
    | e :: digits =>
      if e == 'e' || e == 'E' then (exponent? digits).map (⟨whole, fraction, ·⟩) else none

namespace Decimal

/-- The value is `mantissa * 10 ^ scale`. -/
def mantissa (d : Decimal) : Nat := Text.digitsValue (d.whole ++ d.fraction)

def scale (d : Decimal) : Int := d.exponent - d.fraction.length

/-- Whether the number is less than all those that round to no finite number of 64 bits. -/
def isFinite (d : Decimal) : Bool :=
  let n := d.mantissa
  let size : Int := (Nat.repr n).length + d.scale
  if n == 0 || size < 309 then true
  else if 310 < size then false
  else
    let bound := Nat.pow 2 1024 - Nat.pow 2 970
    if d.scale < 0 then decide (n < bound * Nat.pow 10 d.scale.natAbs)
    else decide (n * Nat.pow 10 d.scale.natAbs < bound)

def toFloat (d : Decimal) : Float := decimalFloat d.mantissa d.scale

end Decimal

def float? (s : String) : Option Float :=
  let cs := s.toList
  let isMinus := cs.head? == some '-'
  let digits := if isMinus then cs.drop 1 else dropPlus cs
  let signed (x : Float) : Float := if isMinus then -x else x
  if ["inf", "Inf", "INF"].any (fun w => digits == '.' :: w.toList) then some (signed (1.0 / 0.0))
  else if [".nan", ".NaN", ".NAN"].contains s then some (0.0 / 0.0)
  else (decimal? digits).bind fun d => if d.isFinite then some (signed d.toFloat) else none

/-- Whether a whole number is one that any machine word holds. -/
def fitsWide (n : Int) : Bool := decide (-(Int.pow 2 127) ≤ n) && decide (n < Int.pow 2 128)

/-- Whether a plain scalar is not taken as a text, or has digits only. -/
def readsOtherwise (s : String) : Bool :=
  s.isEmpty || isNullWord s || (boolWord? s).isSome || (integer? s).any fitsWide ||
    (float? s).isSome || isPadded s.toList

end Yaml
end ServiceCapsule
