import ServiceCapsule.TypeScript.Automaton.Table
import ServiceCapsule.TypeScript.Lexeme
import ServiceCapsule.TypeScript.Reading.Piece

/-!
# The next token in a state

What the next token is depends on the tokens that fit in a state. Tokens that follow from what is
around them come first: the end of a line may end a statement, and a question mark may be the middle
of a condition; plain characters of a template and the text between tags go up to what interrupts
them. Where none of the tokens stands, the token is read as after a fault; where that fails too,
characters are passed over up to the next one that starts a token.
-/

namespace ServiceCapsule

/-! ### Implied tokens -/

namespace TypeScript

structure Found where
  token : Nat
  start : Spot
  stop : Spot

namespace Implied

open LineEnd

/-- The question mark of a condition: not one of two, and not in front of a point or of what
follows a parameter that may be left out. -/
def conditionMark? (s : Spot) : Option Found :=
  let start := s.skipWhile isBlank
  let stop := start.skip 1
  let found : Found := ⟨Token.conditionMark, start, stop⟩
  match start.rest with
  | '?' :: '?' :: _ | '?' :: '.' :: _ => none
  | '?' :: rest =>
    match rest.dropWhile isBlank with
    | ':' :: _ | ')' :: _ | ',' :: _ => none
    | '.' :: rest => if rest.head?.any Char.isDigit then some found else none
    | _ => some found
  | _ => none

def plainLength? : List Char → Option Nat
  | [] => none
  | '\x60' :: _ => some 0
  | '\\' :: _ => some 0
  | '$' :: '\x7b' :: _ => some 0
  | c :: rest => if isZero c then none else (plainLength? rest).map (· + 1)

def templateText? (s : Spot) : Option Found :=
  match plainLength? s.rest with
  | some (n + 1) => some ⟨Token.templateText, s, s.skip (n + 1)⟩
  | _ => none

def markupComment? (s : Spot) : Option Found :=
  let start := s.skipWhile fun c => isBlank c || c.toNat == 0x2028 || c.toNat == 0x2029
  if start.startsWith "<!--" || start.startsWith "-->" then
    some ⟨Token.markupComment, start, start.skipWhile fun c => !endsComment c⟩
  else none

def endsMarkupText (c : Char) : Bool :=
  ['<', '>', '\x7b', '\x7d', '&'].contains c || isZero c

/-- Whether characters between tags are text: blanks after the end of a line are none. -/
def isText (afterLine : Bool) : List Char → Bool
  | [] => false
  | '\n' :: rest => isText true rest
  | c :: rest => !(afterLine && isBlank c) || isText true rest

/-- The text between tags, or a comment after blanks that are no text. -/
def markupText? (s : Spot) : Option Found :=
  let stop := s.skipWhile fun c => !endsMarkupText c
  if isText false (s.rest.takeWhile fun c => !endsMarkupText c) then
    some ⟨Token.markupText, s, stop⟩
  else (markupComment? stop).map ({ · with start := s })

/-- The token that follows from what is around a spot, if one of these tokens fits. -/
def token? (a : Automaton) (state : Nat) (s : Spot) : Option Found :=
  let fits := (a.valid state).testBit
  if state == Automaton.afterFault then none
  else if fits Token.templateText then if fits Token.lineEnd then none else templateText? s
  else if fits Token.markupText then markupText? s
  else if fits Token.lineEnd || fits Token.signatureEnd then
    match decide ⟨fits Token.disjunction, fits Token.signatureEnd⟩ s with
    | .ends => some ⟨Token.lineEnd, s, s⟩
    | .goesOn spot comment =>
      if !comment && fits Token.conditionMark && spot.rest.head? == some '?' then
        conditionMark? spot
      else none
  else if fits Token.conditionMark then conditionMark? s
  else if fits Token.disjunction || fits Token.escape || fits Token.pattern then none
  else markupComment? s

end Implied

/-! ### All tokens -/

namespace Lookahead

/-- A token that fits a spot, with its number of characters. -/
structure Candidate where
  token : Nat
  start : Spot
  length : Nat

def Candidate.shape (c : Candidate) : Shape := Token.shape c.token

/-- Whether the second candidate is taken instead of the first one. -/
def Candidate.yieldsTo (c d : Candidate) : Bool :=
  if c.shape.precedence != d.shape.precedence then c.shape.precedence < d.shape.precedence
  else if c.length != d.length then c.length < d.length
  else if c.shape.closeness != d.shape.closeness then c.shape.closeness < d.shape.closeness
  else d.token < c.token

def best? : List Candidate → Option Candidate
  | [] => none
  | c :: cs => some (cs.foldl (fun c d => if c.yieldsTo d then d else c) c)

def keywords : Nat :=
  Automaton.toggle ((List.range Token.count).filter fun t => (Token.shape t).isKeyword) 0

/-- Whether a token is looked for where some tokens fit; keywords are looked for as words. -/
def isWanted (valid token : Nat) : Bool :=
  if token == Token.identifier then valid.testBit token || (valid &&& keywords) != 0
  else valid.testBit token

def written (immediate : Bool) : List (Nat × Shape) :=
  (List.range Token.count).filterMap fun token =>
    let shape := Token.shape token
    if shape.isKeyword || shape.isImmediate != immediate then none else some (token, shape)

def immediate : List (Nat × Shape) := written true

def spaced : List (Nat × Shape) := written false

def candidates (valid : Nat) (tokens : List (Nat × Shape)) (s : Spot) : List Candidate :=
  tokens.filterMap fun (token, shape) =>
    if isWanted valid token then
      let length := shape.length s.rest
      if length == 0 then none else some ⟨token, s, length⟩
    else none

def plain? (valid : Nat) (s : Spot) : Option Found :=
  let after := s.skipWhile isGap
  let blanks := after.position.byte != s.position.byte
  let found (c : Candidate) : Found := ⟨c.token, c.start, c.start.skip c.length⟩
  match best? (candidates valid immediate s) with
  | some c =>
    if c.shape.precedence > 0 || (blanks && c.shape.precedence == 0) then some (found c)
    else (best? (c :: candidates valid spaced after)).map found
  | none =>
    match best? (candidates valid spaced after) with
    | some c => some (found c)
    | none =>
      if after.rest.isEmpty && valid.testBit Token.finish then some ⟨Token.finish, after, after⟩
      else none

/-- Where the search for a token stops: after blanks, or where a comment breaks off. -/
def stuck (s : Spot) : Spot :=
  let after := s.skipWhile isGap
  if after.startsWith "/*" then after.skipWhile (!isZero ·) else after

/-- The end of the characters that no token takes, given where the last search started and where
the fault ends so far. -/
def faultEnd (a : Automaton) : Nat → Spot → Spot → Spot
  | 0, _, last => last
  | fuel + 1, s, last =>
    let here := stuck s
    if here.position.byte == last.position.byte && here.rest.isEmpty then last
    else
      let here := if here.position.byte == last.position.byte then here.skip 1 else here
      if (plain? a.anywhere here).isSome then here else faultEnd a fuel here here

/-- Characters that no token takes, from a spot on. -/
def fault (a : Automaton) (s : Spot) : Piece :=
  let start := s.skipWhile isGap
  Piece.leaf .fault s.position start (faultEnd a (2 * s.rest.length + 2) s start)

def piece (a : Automaton) (state : Nat) (s : Spot) (found : Found) : Piece :=
  let leaf (token : Nat) : Piece := Piece.leaf (.symbol token) s.position found.start found.stop
  if found.token == Token.identifier then
    match Token.keyword? (wordAt found.start.rest) with
    | some k =>
      if a.fits state k then (leaf k).withFacts ({ · with keyword := true })
      else leaf found.token
    | none => leaf found.token
  else leaf found.token

/-- The next token in a state. A token without characters counts only if it leads on, and if
something was read since the last fault. -/
def read (a : Automaton) (state : Nat) (advanced : Bool) (s : Spot) : Piece :=
  let counts (found : Found) : Bool :=
    found.stop.position.byte != s.position.byte ||
      (advanced && a.next state found.token != state)
  match (Implied.token? a state s).filter counts with
  | some found => piece a state s found
  | none =>
    match (plain? (a.valid state) s).or (plain? a.anywhere s) with
    | some found => piece a state s found
    | none => fault a s

end Lookahead
end TypeScript
end ServiceCapsule
