/-!
# Places in a YAML text

A place knows what is left of the text, and its line and column. There are five line breaks; a
carriage return and a newline together are one.
-/

namespace ServiceCapsule
namespace Yaml

/-- Characters that may stand in a text at all. -/
def isAllowed (c : Char) : Bool :=
  let n := c.toNat
  n == 0x09 || n == 0x0a || n == 0x0d || (0x20 ≤ n && n ≤ 0x7e) || n == 0x85 ||
    (0xa0 ≤ n && n ≤ 0xd7ff) || (0xe000 ≤ n && n ≤ 0xfffd) || 0x10000 ≤ n

def isBreak (c : Char) : Bool :=
  c == '\n' || c == '\r' || c == '\u0085' || c == '\u2028' || c == '\u2029'

def isSpace (c : Char) : Bool := c == ' ' || c == '\t'

def isGap : Option Char → Bool
  | none => true
  | some c => isSpace c || isBreak c

structure Mark where
  line : Nat
  column : Nat
  deriving DecidableEq, Repr, Inhabited

/-- Where something is; nothing is said of the very start. -/
def Mark.shown (m : Mark) : String :=
  if m.line == 0 && m.column == 0 then ""
  else " at line " ++ Nat.repr (m.line + 1) ++ " column " ++ Nat.repr (m.column + 1)

structure Spot where
  rest : List Char
  index : Nat
  line : Nat
  column : Nat
  deriving Repr, Inhabited

namespace Spot

def start (s : String) : Spot := ⟨s.toList, 0, 0, 0⟩

def mark (s : Spot) : Mark := ⟨s.line, s.column⟩

def peek (s : Spot) : Option Char := s.rest.head?

def peekAt (s : Spot) (n : Nat) : Option Char := s.rest[n]?

def atEnd (s : Spot) : Bool := s.rest.isEmpty

def atBreak (s : Spot) : Bool := s.peek.any isBreak

def atSpace (s : Spot) : Bool := s.peek.any isSpace

def next (s : Spot) : Spot := ⟨s.rest.drop 1, s.index + 1, s.line, s.column + 1⟩

def skip : Nat → Spot → Spot
  | 0, s => s
  | n + 1, s => skip n s.next

def nextLine (s : Spot) : List Char × Spot :=
  match s.rest with
  | '\r' :: '\n' :: rest => (['\n'], ⟨rest, s.index + 2, s.line + 1, 0⟩)
  | c :: rest =>
    if isBreak c then
      ([if c == '\u2028' || c == '\u2029' then c else '\n'], ⟨rest, s.index + 1, s.line + 1, 0⟩)
    else ([], s)
  | [] => ([], s)

def skipWhile (p : Char → Bool) (s : Spot) : Spot := s.skip (s.rest.takeWhile p).length

/-- Three marks in a row at the start of a line, and a gap after them. -/
def atMarker (mark : Char) (s : Spot) : Bool :=
  s.column == 0 && s.rest.take 3 == [mark, mark, mark] && isGap (s.peekAt 3)

def atDocumentMarker (s : Spot) : Bool := s.atMarker '-' || s.atMarker '.'

end Spot
end Yaml
end ServiceCapsule
