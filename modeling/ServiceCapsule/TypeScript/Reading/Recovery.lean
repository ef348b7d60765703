import ServiceCapsule.TypeScript.Reading.Completion

/-!
# Going on after a fault

Where nothing fits, a reading goes on in one of three ways: with a token that is put in, from an
earlier place at which the next token fits, what lies between being passed over, or by passing
over the next token. Readings that got too expensive are given up.
-/

namespace ServiceCapsule
namespace TypeScript
namespace Readings

def deepest : Nat := 16

def isKnown (depth state : Nat) : List Place → Bool
  | [] => false
  | p :: ps =>
    if p.depth < depth then false
    else (p.depth == depth && p.state == state) || isKnown depth state ps

def placesOf (r : Readings) (v : Nat) : List Place :=
  (r.descend v (fun (places : List Place) w =>
    let node := r.node w.node
    if w.count > deepest then (places, true)
    else if isKnown w.count node.state places then (places, false)
    else (⟨node.spot.position, w.count, node.state⟩ :: places, false)) []).reverse

def moveTo (v number : Nat) (r : Readings) : Readings :=
  r.modify v ({ · with top := number, condition := .active })

/-- The fault at the top of a reading, which is taken off. -/
def takeFault (v : Nat) (r : Readings) : Readings × Option Piece :=
  let isFault (p : Piece) : Bool := p.sign == .fault
  if (r.top v).links.any (fun link => link.piece.any isFault) then
    let found := r.descend v (fun (found : Option Walker) w =>
      match w.pieces, found with
      | [], _ => (found, false)
      | p :: _, none => (if isFault p then some w else none, true)
      | _, some _ => (found, true)) none
    match found with
    | some w => (r.moveTo v w.node, w.pieces.head?)
    | none => (r, none)
  else (r, none)

/-- One more reading that goes back to a node in a state; a fault takes in what lies above. -/
def backAt (state : Nat) (base : Nat) (r : Readings) (found : Ways) : Readings × Bool :=
  match (r.node found.node).state == state, found.ways with
  | true, way :: _ =>
    let w := r.count
    let (r, fault?) := (r.add found.node base).takeFault w
    let (parts, extras) := Piece.trimmed ((fault?.map Piece.children).getD [] ++ way)
    let r := if parts.isEmpty then r
      else r.push w (some ((Piece.ofParts .fault none (r.spot w) parts).asExtra true)) state
    (r.pushAll w extras state, true)
  | _, _ => (r, false)

def back (v depth state : Nat) (r : Readings) : Readings × Bool :=
  (r.down v depth).foldl (fun (r, done) found =>
    let (r, more) := backAt state (r.reading v).base r found
    (r, done || more)) (r, false)

def isAt (r : Readings) (count v state : Nat) : Bool :=
  (List.range count).any fun w => r.state w == state && r.byte w == r.byte v

/-- Go back to the nearest place at which a token fits, as long as this is worth its price. -/
def goBack (v : Nat) (token : Nat) (count : Nat) (r : Readings) : List Place → Readings × Bool
  | [] => (r, false)
  | place :: places =>
    let here := (r.spot v).position
    if place.state == Automaton.afterFault || place.position.byte == here.byte ||
        r.isAt count v place.state then
      goBack v token count r places
    else
      let price := r.cost v + place.depth * prices.tree +
        (here.byte - place.position.byte) * prices.byte +
        (here.row - place.position.row) * prices.line
      if r.hasBetter v price then (r, false)
      else if r.automaton.fits place.state token then
        let depth := if r.since v > 0 then place.depth + 1 else place.depth
        let (r', done) := r.back v depth place.state
        if done then (r', true) else goBack v token count r places
      else goBack v token count r places

/-- Pass over a token: it becomes part of the fault that grows at the top. -/
def passOver (v : Nat) (token : Piece) (r : Readings) : Readings :=
  let spot := token.facts.stop
  let part := Piece.ofParts .faultPart none spot [token]
  if r.since v > 0 then
    match (r.down v 1).head? with
    | some ⟨number, way :: _⟩ =>
      (r.moveTo v number).push v (some (Piece.ofParts .faultPart none spot (way ++ [part])))
        Automaton.afterFault
    | _ => r.push v (some part) Automaton.afterFault
  else r.push v (some part) Automaton.afterFault

/-- Go on after a fault in front of a token. -/
def recover (v : Nat) (token : Piece) (r : Readings) : Readings :=
  let r := r.lower v
  let count := r.count
  let (r, done) :=
    match token.sign with
    | .symbol t => goBack v t count r ((r.reading v).places.getD [])
    | _ => (r, false)
  if done && r.count > limits.kept then r.halt v
  else if token.sign == .finish then
    let rest := Piece.ofParts .fault none (r.spot v) []
    (r.push v (some rest) Automaton.start).accept v token
  else
    let price := r.cost v + prices.tree + token.size * prices.byte +
      (token.facts.stop.position.row - token.facts.before.row) * prices.line
    if r.hasBetter v price then r.halt v
    else
      let isComment := (token.sign.actions r.automaton Automaton.start).getLast? == some .passOver
      r.passOver v (if isComment then token.asExtra true else token)

/-- One more reading, in which a token is put in front of another one, if phrases are complete
between the two; says whether the other one can then be taken. -/
def putIn (v : Nat) (token : Nat) (r : Readings) (symbol : Nat) : Readings × Bool :=
  let state := r.state v
  let next := r.automaton.next state symbol
  if next == Automaton.afterFault || next == state || !r.automaton.completes next token then
    (r, false)
  else
    let w := r.count
    let copy := { r.reading v with places := none }
    let r := { r with readings := r.readings.push copy }.push w
      (some (Piece.absent symbol (r.spot v))) next
    let c := r.completeAll w token
    (c.readings, c.takes)

/-- Put in the first token that helps. -/
def putInFirst (v : Nat) (token : Nat) : List Nat → Readings → Readings × Bool
  | [], r => (r, false)
  | symbol :: symbols, r =>
    match r.putIn v token symbol with
    | (r, true) => (r, true)
    | (r, false) => putInFirst v token symbols r

def standAfterFault (token : Sign) (r : Readings) (done : Bool) (v : Nat) : Readings × Bool :=
  let (r, done) :=
    match token, done with
    | .symbol t, false => putInFirst v t (List.range' 1 (Token.count - 1)) r
    | _, done => (r, done)
  (r.push v none Automaton.afterFault, done)

/-- A fault is met in front of a token: all that can be complete is completed, and all readings
that come of it are joined after the fault. -/
def meetFault (v : Nat) (token : Piece) (r : Readings) : Readings :=
  let before := r.count
  let r := (r.completeAll v Token.finish).readings
  let added := List.range' before (r.count - before)
  let (r, _) := (v :: added).foldl
    (fun (r, done) w => standAfterFault token.sign r done w) (r, false)
  let r := added.foldl (fun r _ => (r.merge? v before).getD r) r
  (r.modify v fun reading => { reading with places := some (r.placesOf v) }).recover v token

end Readings
end TypeScript
end ServiceCapsule
