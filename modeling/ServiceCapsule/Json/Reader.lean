import ServiceCapsule.Json.Writer
import ServiceCapsule.Text.Basic

/-!
# Reading JSON

A strict reader: no comments, no trailing commas, no other quotes, and nothing but blanks after
the value. Values that nobody asks for can be skimmed, so that only their form has to be right.
-/

namespace ServiceCapsule
namespace Json

/-- A reader of a prefix of the text; none if the text starts with no such thing. -/
abbrev Reader (α : Type) := List Char → Option (α × List Char)

def isSpace (c : Char) : Bool := c == ' ' || c == '\t' || c == '\n' || c == '\r'

def skipSpaces (cs : List Char) : List Char := cs.dropWhile isSpace

def readUnit : Reader Nat
  | a :: b :: c :: d :: rest => do
    let digits ← [a, b, c, d].mapM Text.hexValue?
    some (digits.foldl (fun n d => 16 * n + d) 0, rest)
  | _ => none

/-- How closely a value is read: for what it stands for, or for its form alone. -/
inductive Care where
  | exact
  | skim
  deriving DecidableEq, Repr

/-- The code point after a backslash and `u`; a pair of surrogates stands for one character. When
skimmed, each half of a pair may be alone. -/
def readCodePoint (care : Care) : Reader Char := fun cs => do
  let (unit, rest) ← readUnit cs
  if care == .skim then some (Char.ofNat unit, rest)
  else if 0xd800 ≤ unit && unit < 0xdc00 then
    match rest with
    | '\\' :: 'u' :: rest =>
      let (low, rest) ← readUnit rest
      if 0xdc00 ≤ low && low < 0xe000 then
        some (Char.ofNat (0x10000 + (unit - 0xd800) * 0x400 + (low - 0xdc00)), rest)
      else none
    | _ => none
  else if 0xdc00 ≤ unit && unit < 0xe000 then none
  else some (Char.ofNat unit, rest)

/-- The characters of a text up to its closing quote. -/
def readChars (care : Care) : Nat → List Char → Reader (List Char)
  | 0, _, _ => none
  | fuel + 1, done, cs =>
    match cs with
    | [] => none
    | '"' :: rest => some (done.reverse, rest)
    | '\\' :: '"' :: rest => readChars care fuel ('"' :: done) rest
    | '\\' :: '\\' :: rest => readChars care fuel ('\\' :: done) rest
    | '\\' :: '/' :: rest => readChars care fuel ('/' :: done) rest
    | '\\' :: 'b' :: rest => readChars care fuel ('\x08' :: done) rest
    | '\\' :: 'f' :: rest => readChars care fuel ('\x0c' :: done) rest
    | '\\' :: 'n' :: rest => readChars care fuel ('\n' :: done) rest
    | '\\' :: 'r' :: rest => readChars care fuel ('\r' :: done) rest
    | '\\' :: 't' :: rest => readChars care fuel ('\t' :: done) rest
    | '\\' :: 'u' :: rest => do
      let (c, rest) ← readCodePoint care rest
      readChars care fuel (c :: done) rest
    | '\\' :: _ => none
    | c :: rest => if c.toNat < 0x20 then none else readChars care fuel (c :: done) rest

def readText (care : Care) : Reader String := fun cs =>
  match cs with
  | '"' :: rest =>
    (readChars care (rest.length + 1) [] rest).map fun (s, rest) => (String.ofList s, rest)
  | _ => none

structure Numeral where
  isNegative : Bool
  whole : List Char
  /-- the digits after a point, if there is one -/
  fraction : Option (List Char)
  /-- the power of ten, if there is one -/
  exponent : Option Int

namespace Numeral

/-- Digits as long as 64 bits hold the number that they make, after a number that has been read, and
how many of them that are. -/
def leading (n : Nat) : List Char → Nat × Nat
  | [] => (n, 0)
  | d :: ds =>
    let n' := 10 * n + Text.digitValue d
    if n' < UInt64.size then
      let (m, count) := leading n' ds
      (m, count + 1)
    else (n, 0)

/-- A number of 64 bits and a power of ten for it. Digits that do not fit are left out. -/
def parts (t : Numeral) : Nat × Int :=
  let (n, taken) := leading 0 t.whole
  let left := t.whole.length - taken
  let (m, more) := leading n (t.fraction.getD [])
  (m, (left : Int) - more + t.exponent.getD 0)

/-- Divide by a power of ten, by at most 308 places at a time. -/
def lower : Nat → Nat → Float → Float
  | 0, _, x => x
  | fuel + 1, places, x =>
    if places ≤ 308 then x / Float.ofScientific 1 false places
    else lower fuel (places - 308) (x / Float.ofScientific 1 false 308)

/-- The float that the parts make: one product or quotient of floats. There is none where it would
be infinite. -/
def float? (t : Numeral) : Option Float :=
  let (m, e) := t.parts
  let x := m.toUInt64.toFloat
  let sign (x : Float) : Float := if t.isNegative then -x else x
  if m == 0 then some (sign x)
  else if 308 < e then none
  else if 0 ≤ e then
    let x := x * Float.ofScientific 1 false e.natAbs
    if x.isInf then none else some (sign x)
  else if e < -800 then some (sign 0.0)
  else some (sign (lower 3 e.natAbs x))

/-- What a number is read as; one without a point and a power of ten is whole. -/
def value? (t : Numeral) : Option Json := do
  let x ← t.float?
  if t.fraction.isSome || t.exponent.isSome then return .real x
  let n : Int := Text.digitsValue t.whole
  return if t.isNegative && n == 0 then .real x else .integer (if t.isNegative then -n else n)

end Numeral

def readExponent : Reader (Option Int) := fun cs =>
  match cs with
  | e :: rest =>
    if e == 'e' || e == 'E' then
      let (isNegative, rest) := match rest with
        | '-' :: rest => (true, rest)
        | '+' :: rest => (false, rest)
        | _ => (false, rest)
      let digits := rest.takeWhile Char.isDigit
      let n : Int := Text.digitsValue digits
      if digits.isEmpty then none
      else some (some (if isNegative then -n else n), rest.drop digits.length)
    else some (none, cs)
  | [] => some (none, cs)

/-- A number: no leading zeros, digits on both sides of a point. -/
def readNumeral : Reader Numeral := fun cs => do
  let (isNegative, cs) := match cs with
    | '-' :: rest => (true, rest)
    | _ => (false, cs)
  let whole := cs.takeWhile Char.isDigit
  let cs := cs.drop whole.length
  if whole.isEmpty || (whole.head? == some '0' && whole.length != 1) then none
  let (fraction, cs) := match cs with
    | '.' :: rest => (some (rest.takeWhile Char.isDigit), rest.dropWhile Char.isDigit)
    | _ => (none, cs)
  if fraction == some [] then none
  let (exponent, cs) ← readExponent cs
  return (⟨isNegative, whole, fraction, exponent⟩, cs)

def readNumber (care : Care) : Reader Json := fun cs => do
  let (t, rest) ← readNumeral cs
  if care == .skim then return (.null, rest)
  return (← t.value?, rest)

/-- Items separated by commas up to the closing bracket, with the reader of an item given. -/
def readItems {α : Type} (item : Reader α) (close : Char) : Nat → Reader (List α)
  | 0, _ => none
  | fuel + 1, cs => do
    let (a, cs) ← item (skipSpaces cs)
    match skipSpaces cs with
    | ',' :: rest =>
      let (more, rest) ← readItems item close fuel rest
      some (a :: more, rest)
    | c :: rest => if c == close then some ([a], rest) else none
    | [] => none

def readField (care : Care) (value : String → Reader Json) : Reader (String × Json) := fun cs => do
  let (name, cs) ← readText care cs
  match skipSpaces cs with
  | ':' :: rest =>
    let (v, rest) ← value name (skipSpaces rest)
    some ((name, v), rest)
  | _ => none

def readFields (care : Care) (value : String → Reader Json) : Reader (List (String × Json)) :=
  fun cs =>
    match skipSpaces cs with
    | '\x7d' :: rest => some ([], rest)
    | rest => readItems (readField care value) '\x7d' (rest.length + 1) rest

def readScalar (care : Care) : Reader Json := fun cs =>
  match cs with
  | 'n' :: 'u' :: 'l' :: 'l' :: rest => some (.null, rest)
  | 't' :: 'r' :: 'u' :: 'e' :: rest => some (.bool true, rest)
  | 'f' :: 'a' :: 'l' :: 's' :: 'e' :: rest => some (.bool false, rest)
  | '"' :: _ => (readText care cs).map fun (s, rest) => (.text s, rest)
  | _ => readNumber care cs

/-- A value in which lists and objects are nested no deeper than this. -/
def readValue (care : Care) : Nat → Reader Json
  | 0, cs => readScalar care cs
  | depth + 1, cs =>
    match cs with
    | '[' :: rest =>
      match skipSpaces rest with
      | ']' :: rest => some (.list [], rest)
      | rest => (readItems (readValue care depth) ']' (rest.length + 1) rest).map
          fun (items, rest) => (.list items, rest)
    | '\x7b' :: rest =>
      (readFields care (fun _ => readValue care depth) rest).map
        fun (fields, rest) => (.object fields, rest)
    | _ => readScalar care cs

def whole? {α : Type} (read : Reader α) (s : String) : Option α := do
  let (v, rest) ← read (skipSpaces s.toList)
  if (skipSpaces rest).isEmpty then some v else none

/-- The value that a whole text stands for. -/
def parse? (s : String) : Option Json := whole? (readValue .exact s.length) s

end Json
end ServiceCapsule
