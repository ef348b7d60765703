import ServiceCapsule.Text.Basic
import ServiceCapsule.Yaml.Spot

/-!
# Scalars

A scalar is written plain, between quotes, or as a block of lines. In the first two forms lines are
folded: one break counts as a blank, and each further one as a newline.
-/

namespace ServiceCapsule
namespace Yaml

/-- Blanks and breaks between two pieces of a scalar. -/
structure Gap where
  blanks : List Char
  breaks : List Char
  deriving Repr

namespace Gap

def none : Gap := ⟨[], []⟩

def text (g : Gap) : List Char :=
  match g.breaks with
  | [] => g.blanks
  | ['\n'] => [' ']
  | '\n' :: more => more
  | breaks => breaks

def read (leastColumn : Int) : Nat → Spot → Gap → Option (Gap × Spot)
  | 0, _, _ => Option.none
  | fuel + 1, s, g =>
    if s.atSpace then
      if g.breaks.isEmpty then
        read leastColumn fuel s.next { g with blanks := g.blanks ++ s.peek.toList }
      else if s.peek == some '\t' && (s.column : Int) < leastColumn then Option.none
      else read leastColumn fuel s.next g
    else if s.atBreak then
      let (b, s') := s.nextLine
      read leastColumn fuel s' { g with breaks := g.breaks ++ b }
    else some (g, s)

end Gap

/-- What ends a plain scalar in brackets. -/
def isFlowMark (c : Char) : Bool := c == ',' || c == '[' || c == ']' || c == '{' || c == '}'

/-- A piece of a plain scalar without gaps; inside brackets a colon right before a mark is a
fault. -/
def plainPiece (inFlow : Bool) : Nat → Spot → List Char → Option (List Char × Spot)
  | 0, _, _ => none
  | fuel + 1, s, done =>
    match s.peek with
    | none => some (done.reverse, s)
    | some c =>
      if isGap (some c) then some (done.reverse, s)
      else if inFlow && c == ':' && (s.peekAt 1).any (fun d => isFlowMark d || d == '?') then none
      else if (c == ':' && isGap (s.peekAt 1)) || (inFlow && isFlowMark c) then
        some (done.reverse, s)
      else plainPiece inFlow fuel s.next (c :: done)

/-- A plain scalar from its first character on: its text, where it ends, and whether a line ends
there. Outside of brackets it goes on only in lines that are indented more than what it is in. -/
def plainScalar (inFlow : Bool) (indent : Int) :
    Nat → Spot → Gap → List Char → Option (List Char × Spot × Bool)
  | 0, _, _, _ => none
  | fuel + 1, s, gap, done => do
    let ended := !gap.breaks.isEmpty
    if s.atDocumentMarker || s.peek == some '#' then return (done, s, ended)
    let (piece, s') ← plainPiece inFlow (s.rest.length + 1) s []
    if piece.isEmpty then return (done, s, ended)
    let done := done ++ gap.text ++ piece
    if !(s'.atSpace || s'.atBreak) then return (done, s', false)
    let (gap', s'') ← Gap.read (indent + 1) (s'.rest.length + 1) s' .none
    if !inFlow && (s''.column : Int) < indent + 1 then
      return (done, s'', !gap'.breaks.isEmpty)
    plainScalar inFlow indent fuel s'' gap' done

def hexChar (digits : List Char) (width : Nat) : Option Char := do
  if digits.length != width then none
  let values ← digits.mapM Text.hexValue?
  let n := values.foldl (fun n d => 16 * n + d) 0
  if (0xd800 ≤ n && n ≤ 0xdfff) || 0x10ffff < n then none
  return Char.ofNat n

/-- What an escape stands for, and how many characters it takes after the backslash. -/
def escaped (s : Spot) : Option (Char × Nat) := do
  match ← s.peekAt 1 with
  | '0' => return ('\x00', 1)
  | 'a' => return ('\x07', 1)
  | 'b' => return ('\x08', 1)
  | 't' | '\t' => return ('\t', 1)
  | 'n' => return ('\n', 1)
  | 'v' => return ('\x0b', 1)
  | 'f' => return ('\x0c', 1)
  | 'r' => return ('\r', 1)
  | 'e' => return ('\x1b', 1)
  | ' ' => return (' ', 1)
  | '"' => return ('"', 1)
  | '/' => return ('/', 1)
  | '\'' => return ('\'', 1)
  | '\\' => return ('\\', 1)
  | 'N' => return ('\u0085', 1)
  | '_' => return ('\u00a0', 1)
  | 'L' => return ('\u2028', 1)
  | 'P' => return ('\u2029', 1)
  | 'x' => return (← hexChar ((s.rest.drop 2).take 2) 2, 3)
  | 'u' => return (← hexChar ((s.rest.drop 2).take 4) 4, 5)
  | 'U' => return (← hexChar ((s.rest.drop 2).take 8) 8, 9)
  | _ => none

inductive PieceEnd where
  | quote
  | gap
  | escapedBreak
  deriving DecidableEq

def quotedPiece (single : Bool) : Nat → Spot → List Char → Option (List Char × Spot × PieceEnd)
  | 0, _, _ => none
  | fuel + 1, s, done => do
    match s.peek with
    | none => none
    | some c =>
      if isGap (some c) then return (done.reverse, s, .gap)
      else if single && c == '\'' && s.peekAt 1 == some '\'' then
        quotedPiece single fuel (s.skip 2) ('\'' :: done)
      else if c == (if single then '\'' else '"') then return (done.reverse, s, .quote)
      else if !single && c == '\\' then
        if (s.peekAt 1).any isBreak then return (done.reverse, s.next.nextLine.2, .escapedBreak)
        else
          let (d, n) ← escaped s
          quotedPiece single fuel (s.skip (n + 1)) (d :: done)
      else quotedPiece single fuel s.next (c :: done)

/-- A scalar between quotes from after the opening quote on. -/
def quotedScalar (single : Bool) : Nat → Spot → List Char → Option (List Char × Spot)
  | 0, _, _ => none
  | fuel + 1, s, done => do
    if s.atDocumentMarker then none
    let (piece, s', ending) ← quotedPiece single (s.rest.length + 1) s []
    match ending with
    | .quote => return (done ++ piece, s'.next)
    | .gap =>
      let (gap, s'') ← Gap.read (-1) (s'.rest.length + 1) s' .none
      quotedScalar single fuel s'' (done ++ piece ++ gap.text)
    | .escapedBreak =>
      let (gap, s'') ← Gap.read (-1) (s'.rest.length + 1) s' .none
      quotedScalar single fuel s'' (done ++ piece ++ gap.breaks)

/-- What happens to the breaks at the end of a block of lines. -/
inductive Chomp where
  | strip
  | clip
  | keep
  deriving DecidableEq

/-- The line after the mark of a block: what happens at the end, and an indentation. -/
def blockHeader (s : Spot) : Option (Chomp × Option Nat × Spot) := do
  let chompOf := fun (c : Char) =>
    if c == '+' then some Chomp.keep else if c == '-' then some Chomp.strip else none
  let digitOf := fun (c : Char) => if c.isDigit then some (Text.digitValue c) else none
  let (chomp, digit, s) : Chomp × Option Nat × Spot :=
    match s.peek.bind chompOf with
    | some chomp =>
      match s.next.peek.bind digitOf with
      | some n => (chomp, some n, s.skip 2)
      | none => (chomp, none, s.next)
    | none =>
      match s.peek.bind digitOf with
      | some n =>
        match s.next.peek.bind chompOf with
        | some chomp => (chomp, some n, s.skip 2)
        | none => (.clip, some n, s.next)
      | none => (.clip, none, s)
  if digit == some 0 then none
  let s := s.skipWhile isSpace
  let s := if s.peek == some '#' then s.skipWhile (!isBreak ·) else s
  if s.atEnd then return (chomp, digit, s)
  else if s.atBreak then return (chomp, digit, s.nextLine.2)
  else none

/-- Empty lines of a block. Where the indentation is not known yet, the widest one is kept. -/
def blockBreaks (indent : Option Nat) : Nat → Spot → Nat → List Char →
    Option (List Char × Nat × Spot)
  | 0, _, _, _ => none
  | fuel + 1, s, widest, breaks =>
    let inside := fun (s : Spot) => indent.all (s.column < ·)
    if inside s && s.peek == some ' ' then blockBreaks indent fuel s.next widest breaks
    else
      let widest := max widest s.column
      if inside s && s.peek == some '\t' then none
      else if s.atBreak then
        let (b, s') := s.nextLine
        blockBreaks indent fuel s' widest (breaks ++ b)
      else some (breaks, widest, s)

/-- Lines of a block at an indentation. The break of the last line and those of the empty lines
after it wait for what comes next. -/
def blockLines (literal : Bool) (indent : Nat) :
    Nat → Spot → List Char → List Char → List Char → Bool →
      Option (List Char × List Char × List Char × Spot)
  | 0, _, _, _, _, _ => none
  | fuel + 1, s, done, lastBreak, breaks, blankBefore => do
    if s.column != indent || s.atEnd then return (done, lastBreak, breaks, s)
    let blank := s.atSpace
    let joined :=
      if !literal && lastBreak == ['\n'] && !blankBefore && !blank then
        if breaks.isEmpty then [' '] else []
      else lastBreak
    let line := s.rest.takeWhile (!isBreak ·)
    let (b, s') := (s.skip line.length).nextLine
    let (breaks', _, s'') ← blockBreaks (some indent) (s'.rest.length + 1) s' 0 []
    blockLines literal indent fuel s'' (done ++ joined ++ breaks ++ line) b breaks' blank

/-- A block of lines from after its mark on. -/
def blockScalar (literal : Bool) (outer : Int) (s : Spot) : Option (List Char × Spot) := do
  let (chomp, digit, s) ← blockHeader s
  let fuel := s.rest.length + 1
  let given := digit.map fun n => if 0 ≤ outer then outer.toNat + n else n
  let (breaks, widest, s) ← blockBreaks given fuel s 0 []
  let indent := given.getD (max widest (max (outer + 1).toNat 1))
  let (text, lastBreak, breaks, s) ← blockLines literal indent fuel s [] [] breaks false
  return (text ++ (if chomp = .strip then [] else lastBreak) ++
    (if chomp = .keep then breaks else []), s)

end Yaml
end ServiceCapsule
