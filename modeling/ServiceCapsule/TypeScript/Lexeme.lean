import ServiceCapsule.TypeScript.Tree

/-!
# Lengths of lexemes

How many characters of a comment, a word, a number or an escape stand at the start of a text. Where
none of it stands there, the length is zero or missing. No lexeme goes on over a zero character. A
statement may end with its line, at the end of the text, or in front of a closing brace; what the
next line starts with decides whether it goes on, and so do comments in between.
-/

namespace ServiceCapsule
namespace TypeScript

/-! ### Blanks and comments -/

def isGap (c : Char) : Bool :=
  let n := c.toNat
  n == 0x20 || (0x09 ≤ n && n ≤ 0x0d) || n == 0xa0 || n == 0x1680 ||
    (0x2000 ≤ n && n ≤ 0x200b) || n == 0x2028 || n == 0x2029 || n == 0x202f || n == 0x205f ||
    n == 0x2060 || n == 0x3000 || n == 0xfeff

def isZero (c : Char) : Bool := c == '\x00'

def endsLine (c : Char) : Bool := c == '\n' || c == '\r' || c.toNat == 0x2028 || c.toNat == 0x2029

def blockLength : List Char → Option Nat
  | [] => none
  | '*' :: '/' :: _ => some 2
  | c :: rest => if isZero c then none else (blockLength rest).map (· + 1)

def commentLength? : List Char → Option Nat
  | '/' :: '/' :: rest =>
    some (2 + (rest.takeWhile fun c => !(endsLine c || isZero c)).length)
  | '/' :: '*' :: rest => (blockLength rest).map (· + 2)
  | _ => none

/-! ### Words, numbers and escapes -/

def isMark (c : Char) : Bool :=
  c.toNat < 0x20 || isGap c ||
    [':', ';', '\x60', '"', '\'', '@', '#', '.', ',', '|', '^', '&', '<', '=', '>', '+', '-', '*',
      '/', '\\', '%', '?', '!', '~', '(', ')', '[', ']', '\x7b', '\x7d', '\x7f'].contains c

def isHex (c : Char) : Bool := c.isDigit || ('a' ≤ c && c ≤ 'f') || ('A' ≤ c && c ≤ 'F')

def codePointLength? : List Char → Option Nat
  | 'u' :: '\x7b' :: rest =>
    let digits := rest.takeWhile isHex
    if digits.isEmpty then none
    else if (rest.drop digits.length).head? == some '\x7d' then some (digits.length + 3) else none
  | 'u' :: a :: b :: c :: d :: _ => if [a, b, c, d].all isHex then some 5 else none
  | _ => none

/-- How many characters of a word are at the start, after some that belong to it for certain. -/
def wordRest : Nat → List Char → Nat
  | _, [] => 0
  | certain + 1, _ :: rest => 1 + wordRest certain rest
  | 0, '\\' :: rest =>
    match codePointLength? rest with
    | some n => 1 + wordRest n rest
    | none => 0
  | 0, c :: rest => if isMark c then 0 else 1 + wordRest 0 rest

/-- Length of the word at the start; a word does not start with a digit. -/
def wordLength (cs : List Char) : Nat :=
  match cs with
  | [] => 0
  | c :: _ => if c.isDigit then 0 else wordRest 0 cs

def wordAt (cs : List Char) : String := String.ofList (cs.take (wordLength cs))

/-- Length of the digits that go on after a digit; single underscores may stand between. -/
def moreDigits (p : Char → Bool) : List Char → Nat
  | '_' :: c :: rest => if p c then 2 + moreDigits p rest else 0
  | c :: rest => if p c then 1 + moreDigits p rest else 0
  | [] => 0

def digitsLength (p : Char → Bool) : List Char → Nat
  | c :: rest => if p c then 1 + moreDigits p rest else 0
  | [] => 0

def exponentLength (cs : List Char) : Nat :=
  match cs with
  | e :: rest =>
    if e == 'e' || e == 'E' then
      let sign := match rest with
        | s :: _ => if s == '+' || s == '-' then 1 else 0
        | [] => 0
      let digits := digitsLength Char.isDigit (rest.drop sign)
      if digits == 0 then 0 else 1 + sign + digits
    else 0
  | [] => 0

def basedLength (small large : Char) (p : Char → Bool) : List Char → Nat
  | '0' :: x :: rest =>
    let digits := digitsLength p rest
    if (x == small || x == large) && digits != 0 then
      2 + digits + (if (rest.drop digits).head? == some 'n' then 1 else 0)
    else 0
  | _ => 0

def integerLength (cs : List Char) : Nat :=
  let digits := digitsLength Char.isDigit cs
  digits + (if digits != 0 && (cs.drop digits).head? == some 'n' then 1 else 0)

def wholeLength : List Char → Nat
  | '0' :: c :: rest =>
    if c.isDigit && c != '0' then 2 + moreDigits Char.isDigit rest else 1
  | cs => digitsLength Char.isDigit cs

def fractionLength (cs : List Char) : Nat :=
  let whole := wholeLength cs
  match cs.drop whole with
  | '.' :: rest =>
    let digits := digitsLength Char.isDigit rest
    if whole + digits == 0 then 0
    else whole + 1 + digits + exponentLength (rest.drop digits)
  | rest =>
    let exponent := exponentLength rest
    if whole == 0 || exponent == 0 then 0 else whole + exponent

def isOctal (c : Char) : Bool := '0' ≤ c && c ≤ '7'

def numberLength (cs : List Char) : Nat :=
  [basedLength 'x' 'X' isHex cs, basedLength 'b' 'B' (fun c => c == '0' || c == '1') cs,
    basedLength 'o' 'O' isOctal cs, integerLength cs, fractionLength cs].foldl max 0

def escapeLength? : List Char → Option Nat
  | [] => none
  | '\r' :: c :: _ => some (if endsLine c && c != '\r' then 2 else 1)
  | '?' :: c :: _ => some (if endsLine c && c != '\r' then 2 else 1)
  | 'x' :: a :: b :: _ => if isHex a && isHex b then some 3 else none
  | 'x' :: _ => none
  | 'u' :: rest => codePointLength? ('u' :: rest)
  | c :: rest =>
    if isZero c then none
    else some (if isOctal c then 1 + ((rest.take 2).takeWhile isOctal).length else 1)

/-! ### Ends of statements that no mark shows -/

namespace LineEnd

def isBlank (c : Char) : Bool := c == ' ' || ('\t' ≤ c && c ≤ '\r')

/-- A comment up to the end of its line goes on over a carriage return. -/
def endsComment (c : Char) : Bool :=
  c == '\n' || c.toNat == 0x2028 || c.toNat == 0x2029 || isZero c

/-- Where blanks and comments lead. -/
structure Passage where
  spot : Spot
  /-- whether there was a comment -/
  comment : Bool
  /-- whether a slash is there that starts no comment -/
  slash : Bool

/-- Go over blanks and comments. A comment that does not end takes all the rest up to a zero
character. -/
def pass : Nat → Bool → Spot → Passage
  | 0, comment, s => ⟨s, comment, false⟩
  | fuel + 1, comment, s =>
    let s := s.skipWhile isBlank
    match s.rest with
    | '/' :: '/' :: _ => pass fuel true ((s.skip 2).skipWhile fun c => !endsComment c)
    | '/' :: '*' :: rest =>
      match blockLength rest with
      | some n => pass fuel true (s.skip (2 + n))
      | none => ⟨s.skipWhile (!isZero ·), comment, false⟩
    | '/' :: _ => ⟨s.skip 1, comment, true⟩
    | _ => ⟨s, comment, false⟩

/-- Whether a statement ends at a spot; if it does not, where the decision fell, and whether a
comment was read for it. -/
inductive Decision where
  | ends
  | goesOn (spot : Spot) (comment : Bool)

structure Around where
  /-- the sign of a disjunction: an expression may go on -/
  disjunction : Bool
  /-- the end of a function without a body: a body may follow -/
  signature : Bool

/-- Decide by what the next line starts with. -/
def decideBefore (around : Around) (comment : Bool) (s : Spot) : Decision :=
  let goOn (n : Nat) : Decision := .goesOn (s.skip n) comment
  let endIf (b : Bool) (n : Nat) : Decision := if b then .ends else goOn n
  match s.rest with
  | [] => .ends
  | '\x7b' :: _ => endIf (!around.signature) 0
  | '(' :: _ | '[' :: _ => endIf (!around.disjunction) 0
  | '+' :: rest => endIf (rest.head? == some '+') 1
  | '-' :: rest => endIf (rest.head? == some '-') 1
  | '!' :: rest => endIf (rest.head? != some '=') 1
  | 'i' :: 'n' :: rest =>
    if !(rest.head?.any Char.isAlpha) then goOn 2
    else
      let tail := "stanceof".toList
      endIf (!tail.isPrefixOf rest || (rest.drop tail.length).head?.any Char.isAlpha)
        (2 + tail.length)
  | c :: _ =>
    let continues := ['\x60', ',', '.', ';', '*', '%', '>', '<', '=', '?', '^', '|', '&', '/', ':']
    endIf (!continues.contains c) 0

/-- Decide before a closing brace; a label after it may mean that it closes an object. -/
def decideAtBrace (around : Around) (s : Spot) : Decision :=
  let after := (s.skip 1).skipWhile isBlank
  if after.rest.head? == some ':' && !around.disjunction then .goesOn after false else .ends

/-- Whether a statement ends at a spot. A comment on its line leaves that open. -/
def decide (around : Around) (s : Spot) : Decision :=
  let s := s.skipWhile fun c => isBlank c && c != '\n'
  match s.rest with
  | [] | '\x00' :: _ => .ends
  | '\x7d' :: _ => decideAtBrace around s
  | '\n' :: _ =>
    let line := pass (s.rest.length + 1) false (s.skip 1)
    if line.slash then .goesOn line.spot line.comment
    else decideBefore around line.comment line.spot
  | _ => .goesOn s false

def endsAt (around : Around) (s : Spot) : Bool :=
  match decide around s with
  | .ends => true
  | .goesOn _ _ => false

end LineEnd
end TypeScript
end ServiceCapsule
