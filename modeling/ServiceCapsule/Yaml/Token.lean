import ServiceCapsule.Yaml.Property

/-!
# Tokens of a YAML text

Indentation is turned into tokens that start and end blocks. Whether a scalar is a key shows only
at the colon after it, so that a place where a key may start is marked by a token of its own. In
the end the marks become keys or go away.
-/

namespace ServiceCapsule
namespace Yaml

inductive Style where
  | plain
  | quoted
  | literal
  | folded
  deriving DecidableEq, Repr, Inhabited

inductive Token where
  | streamEnd
  | directive (d : Directive)
  | documentStart
  | documentEnd
  | blockSequenceStart
  | blockMappingStart
  | blockEnd
  | flowSequenceStart
  | flowSequenceEnd
  | flowMappingStart
  | flowMappingEnd
  | blockEntry
  | flowEntry
  | key
  | value
  | alias (name : String)
  | anchor (name : String)
  | tag (name : TagName)
  | scalar (style : Style) (text : String)
  /-- a place where a key may start -/
  | mark (number : Nat)
  /-- the text breaks off, or goes on as no token can -/
  | broken
  deriving DecidableEq, Repr, Inhabited

structure Placed where
  token : Token
  mark : Mark
  deriving DecidableEq, Repr, Inhabited

/-- A key that may have started; where nothing else fits it has to be one. -/
structure KeyStart where
  number : Nat
  required : Bool
  at_ : Spot

/-- What a mark turned out to be: a key, and maybe the first one of a block. -/
structure Resolved where
  number : Nat
  startsBlock : Bool

structure Scanner where
  spot : Spot
  /-- the tokens so far, the last one first -/
  tokens : List Placed
  /-- the column of the innermost block, and those of the blocks around it -/
  indent : Int
  outer : List Int
  keyAllowed : Bool
  /-- the key that may have started, in the innermost brackets and in those around them -/
  keys : List (Option KeyStart)
  marks : Nat
  resolved : List Resolved

namespace Scanner

def start (s : String) : Scanner := ⟨Spot.start s, [], -1, [], true, [none], 0, []⟩

def inFlow (s : Scanner) : Bool := 1 < s.keys.length

def emit (t : Token) (s : Scanner) : Scanner :=
  { s with tokens := ⟨t, s.spot.mark⟩ :: s.tokens }

def moveTo (spot : Spot) (s : Scanner) : Scanner := { s with spot := spot }

def currentKey (s : Scanner) : Option KeyStart := s.keys.head?.join

def setKey (k : Option KeyStart) (s : Scanner) : Scanner := { s with keys := k :: s.keys.drop 1 }

def dropKey (s : Scanner) : Option Scanner :=
  match s.currentKey with
  | some k => if k.required then none else some (s.setKey none)
  | none => some s

/-- Note that a key may start here. -/
def saveKey (s : Scanner) : Option Scanner :=
  if s.keyAllowed then do
    let s' ← s.dropKey
    let required := !s.inFlow && s.indent == (s.spot.column : Int)
    return { s'.emit (.mark s.marks) with
      marks := s.marks + 1, keys := some ⟨s.marks, required, s.spot⟩ :: s.keys.drop 1 }
  else some s

def isStale (spot : Spot) (k : KeyStart) : Bool :=
  decide (k.at_.line < spot.line) || decide (k.at_.index + 1024 < spot.index)

/-- Give up keys that did not end in time. -/
def dropStale (s : Scanner) : Option Scanner := do
  let keys ← s.keys.mapM fun key =>
    match key with
    | some k => if isStale s.spot k then (if k.required then none else some none) else some key
    | none => some none
  return { s with keys := keys }

/-- Close the blocks that stand further right than a column. -/
def unroll (column : Int) : Nat → Scanner → Scanner
  | 0, s => s
  | fuel + 1, s =>
    if s.indent ≤ column then s
    else
      unroll column fuel
        { s.emit .blockEnd with indent := s.outer.headD (-1), outer := s.outer.drop 1 }

def unrollTo (column : Int) (s : Scanner) : Scanner :=
  if s.inFlow then s else unroll column (s.outer.length + 1) s

/-- Open a block at a column, unless one is open there. -/
def roll (column : Nat) (t : Token) (s : Scanner) : Scanner :=
  if s.inFlow || (column : Int) ≤ s.indent then s
  else { s.emit t with indent := column, outer := s.indent :: s.outer }

/-- Past blanks, comments and breaks to the next token. At the start of a line a byte order mark is
a blank. -/
def toNextToken : Nat → Scanner → Scanner
  | 0, s => s
  | fuel + 1, s =>
    if s.spot.column == 0 && s.spot.peek == some '\ufeff' then
      toNextToken fuel (s.moveTo s.spot.next)
    else if s.spot.peek == some ' ' ||
        (s.spot.peek == some '\t' && (s.inFlow || !s.keyAllowed)) then
      toNextToken fuel (s.moveTo s.spot.next)
    else if s.spot.peek == some '#' then
      toNextToken fuel (s.moveTo (s.spot.skipWhile (!isBreak ·)))
    else if s.spot.atBreak then
      toNextToken fuel
        { s with spot := s.spot.nextLine.2, keyAllowed := s.keyAllowed || !s.inFlow }
    else s

/-- The tokens `[`, `]` and their like in brackets. -/
def openBracket (t : Token) (s : Scanner) : Option Scanner := do
  let s ← s.saveKey
  return { (s.emit t).moveTo s.spot.next with keys := none :: s.keys, keyAllowed := true }

def closeBracket (t : Token) (s : Scanner) : Option Scanner := do
  let s ← s.dropKey
  let keys := if s.inFlow then s.keys.drop 1 else s.keys
  return { (s.emit t).moveTo s.spot.next with keys := keys, keyAllowed := false }

def flowEntry (s : Scanner) : Option Scanner := do
  let s ← s.dropKey
  return { (s.emit .flowEntry).moveTo s.spot.next with keyAllowed := true }

def blockEntry (s : Scanner) : Option Scanner := do
  if !s.inFlow && !s.keyAllowed then none
  let s ← (s.roll s.spot.column .blockSequenceStart).dropKey
  return { (s.emit .blockEntry).moveTo s.spot.next with keyAllowed := true }

def explicitKey (s : Scanner) : Option Scanner := do
  if !s.inFlow && !s.keyAllowed then none
  let s ← (s.roll s.spot.column .blockMappingStart).dropKey
  return { (s.emit .key).moveTo s.spot.next with keyAllowed := !s.inFlow }

def colon (s : Scanner) : Option Scanner :=
  match s.currentKey with
  | some k =>
    let starts := !s.inFlow && decide (s.indent < (k.at_.column : Int))
    let s := s.setKey none
    let s := if starts then { s with indent := k.at_.column, outer := s.indent :: s.outer } else s
    some { (s.emit .value).moveTo s.spot.next with
      resolved := ⟨k.number, starts⟩ :: s.resolved, keyAllowed := false }
  | none => do
    if !s.inFlow && !s.keyAllowed then none
    let s := s.roll s.spot.column .blockMappingStart
    return { (s.emit .value).moveTo s.spot.next with keyAllowed := !s.inFlow }

/-- A token that may be the key itself. -/
def keyToken (read : Spot → Option (Token × Spot)) (s : Scanner) : Option Scanner := do
  let s ← s.saveKey
  let (t, spot) ← read s.spot
  return { (s.emit t).moveTo spot with keyAllowed := false }

def blockText (literal : Bool) (s : Scanner) : Option Scanner := do
  let s ← s.dropKey
  let (text, spot) ← blockScalar literal s.indent s.spot.next
  let style := if literal then Style.literal else .folded
  return { (s.emit (.scalar style (String.ofList text))).moveTo spot with keyAllowed := true }

def quotedText (single : Bool) (s : Scanner) : Option Scanner :=
  s.keyToken fun spot => do
    let (text, spot') ← quotedScalar single (spot.rest.length + 1) spot.next []
    return (.scalar .quoted (String.ofList text), spot')

def plainText (s : Scanner) : Option Scanner := do
  let s ← s.saveKey
  let (text, spot, ended) ←
    plainScalar s.inFlow s.indent (s.spot.rest.length + 1) s.spot .none []
  return { (s.emit (.scalar .plain (String.ofList text))).moveTo spot with keyAllowed := ended }

/-- Marks that no plain scalar starts with. -/
def isIndicator (c : Char) : Bool :=
  ['-', '?', ':', ',', '[', ']', '{', '}', '#', '&', '*', '!', '|', '>', '\'', '"', '%', '@',
    '\x60'].contains c

def startsPlain (inFlow : Bool) (c : Char) (after : Option Char) : Bool :=
  (!isGap (some c) && !isIndicator c) || (c == '-' && !after.any isSpace) ||
    (!inFlow && (c == '?' || c == ':') && !isGap after)

def finish (s : Scanner) : Option Scanner := do
  let s ← (s.unrollTo (-1)).dropKey
  return s.emit .streamEnd

/-- A line of three marks, or a directive, stands outside of all blocks. -/
def outside (read : Spot → Option (Token × Spot)) (s : Scanner) : Option Scanner := do
  let s ← (s.unrollTo (-1)).dropKey
  let (t, spot) ← read s.spot
  return { (s.emit t).moveTo spot with keyAllowed := false }

def token (c : Char) (s : Scanner) : Option Scanner :=
  let after := s.spot.peekAt 1
  let ends := s.inFlow || isGap after
  if s.spot.column == 0 && c == '%' then
    s.outside fun spot => (Directive.read spot).map fun (d, spot') => (.directive d, spot')
  else if s.spot.atMarker '-' then s.outside fun spot => some (.documentStart, spot.skip 3)
  else if s.spot.atMarker '.' then s.outside fun spot => some (.documentEnd, spot.skip 3)
  else if c == '[' then s.openBracket .flowSequenceStart
  else if c == '{' then s.openBracket .flowMappingStart
  else if c == ']' then s.closeBracket .flowSequenceEnd
  else if c == '}' then s.closeBracket .flowMappingEnd
  else if c == ',' then s.flowEntry
  else if c == '-' && isGap after then s.blockEntry
  else if c == '?' && ends then s.explicitKey
  else if c == ':' && ends then s.colon
  else if c == '*' then
    s.keyToken fun spot => (anchorName spot.next).map fun (name, spot') => (.alias name, spot')
  else if c == '&' then
    s.keyToken fun spot => (anchorName spot.next).map fun (name, spot') => (.anchor name, spot')
  else if c == '!' then
    s.keyToken fun spot => (TagName.read s.inFlow spot).map fun (t, spot') => (.tag t, spot')
  else if c == '|' && !s.inFlow then s.blockText true
  else if c == '>' && !s.inFlow then s.blockText false
  else if c == '\'' then s.quotedText true
  else if c == '"' then s.quotedText false
  else if startsPlain s.inFlow c after then s.plainText
  else none

def run : Nat → Scanner → Scanner
  | 0, s => s.emit .broken
  | fuel + 1, s =>
    match (s.toNextToken (2 * s.spot.rest.length + 1)).dropStale with
    | none => s.emit .broken
    | some s =>
      let s := s.unrollTo s.spot.column
      match s.spot.peek with
      | none => s.finish.getD (s.emit .broken)
      | some c =>
        match s.token c with
        | some s' => run fuel s'
        | none => s.emit .broken

/-- Marks become keys, or go away. -/
def settle (resolved : List Resolved) (t : Placed) : List Placed :=
  match t.token with
  | .mark n =>
    match resolved.find? (·.number == n) with
    | some r =>
      if r.startsBlock then [⟨.blockMappingStart, t.mark⟩, ⟨.key, t.mark⟩] else [⟨.key, t.mark⟩]
    | none => []
  | _ => [t]

end Scanner

def tokens (text : String) : List Placed :=
  let cs := text.toList
  if !cs.all isAllowed then [⟨.broken, default⟩]
  else
    let s := Scanner.run (cs.length + 2) (Scanner.start text)
    s.tokens.reverse.flatMap (Scanner.settle s.resolved)

end Yaml
end ServiceCapsule
