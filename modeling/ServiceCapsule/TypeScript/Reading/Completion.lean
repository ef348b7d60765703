import ServiceCapsule.TypeScript.Reading.Graph

/-!
# Completing phrases

A phrase is completed by taking its parts off the top of a reading and putting the phrase in their
place. Where more than one way leads down, there is one reading more for each node at which the
ways end. The end of a text completes the text itself.
-/

namespace ServiceCapsule
namespace TypeScript
namespace Readings

/-- The best phrase over one of the ways, with the extras that stay behind it. -/
def phraseOver (rule : Nat) (spot : Spot) (ways : List (List Piece)) :
    Option (Piece × List Piece) :=
  let choices := ways.map fun way =>
    let (parts, extras) := Piece.trimmed way
    (Piece.ofParts (.symbol (Rule.get rule).symbol) (some rule) spot parts, extras)
  match choices with
  | [] => none
  | c :: cs => some (cs.foldl (fun best d => if best.1.isReplacedBy d.1 then d else best) c)

/-- One more reading, in which a phrase is complete; it may turn out to be one with an earlier
reading other than the one that it comes from. -/
def completeAt (v rule : Nat) (r : Readings) (found : Ways) : Readings :=
  if r.count > limits.kept + limits.more then r
  else
    let below := r.node found.node
    match phraseOver rule below.spot found.ways with
    | none => r
    | some (phrase, extras) =>
      let w := r.count
      let phrase := phrase.withFacts fun f => { f with weight := f.weight + (Rule.get rule).weight }
      let state := r.automaton.next below.state (Rule.get rule).symbol
      let r := (r.add found.node (r.reading v).base).pushAll w (phrase :: extras) state
      (r.mergeFirst w ((List.range w).filter (· != v))).getD r

/-- Complete a phrase in a reading, which stays as it is; the first of the new readings is given,
if there is any. -/
def complete (v rule : Nat) (r : Readings) : Readings × Option Nat :=
  let before := r.count
  let r := (r.down v (Rule.get rule).length).foldl (completeAt v rule) r
  (r, if r.count > before then some before else none)

/-- The tree of a whole text from the pieces on the way down to its start: the last one that is
no extra gives way to its children. -/
def rootOf? (spot : Spot) (pieces : List Piece) : Option Piece :=
  let after := (pieces.reverse.takeWhile Piece.isExtra).reverse
  match pieces.reverse.dropWhile Piece.isExtra with
  | [] => none
  | root :: before =>
    some (Piece.ofParts root.sign root.facts.rule spot (before.reverse ++ root.children ++ after))

def finish (root : Piece) (r : Readings) : Readings :=
  { r with
    accepted := r.accepted + 1
    finished :=
      match r.finished with
      | some best => if best.isReplacedBy root then some root else some best
      | none => some root }

def accept (v : Nat) (token : Piece) (r : Readings) : Readings :=
  let r := r.push v (some token) Automaton.start
  let ways := ((r.toStart v).map (·.ways)).flatten
  ((ways.filterMap (rootOf? (r.spot v))).foldl (fun r root => r.finish root) r).halt v

/-- The rules by which phrases with parts are complete in a state in front of some tokens; of two
with the same phrase and length, the first one counts. -/
def rulesBefore (a : Automaton) (state : Nat) (tokens : List Nat) : List Nat :=
  tokens.foldl (fun rules token =>
    (a.actions state token).foldl (fun rules action =>
      match action with
      | .complete n =>
        let rule := Rule.get n
        let known := rules.any fun m =>
          (Rule.get m).symbol == rule.symbol && (Rule.get m).length == rule.length
        if rule.length == 0 || known then rules else rules ++ [n]
      | _ => rules) rules) []

def takesAny (a : Automaton) (state : Nat) (tokens : List Nat) : Bool :=
  tokens.any fun token => (a.actions state token).any fun action =>
    match action with
    | .recover => true
    | .take _ repeats => !repeats
    | _ => false

/-- Readings in which phrases are being completed. -/
structure Completing where
  readings : Readings
  /-- whether the token can be taken in one of them -/
  takes : Bool

/-- The turns in which phrases are completed; readings and replacements are few, so that there is
always one left. -/
def mostTurns : Nat := 256

/-- Complete all phrases that can be complete before a token, from one reading on. The first
reading is followed by those that come of it. A reading that only completes phrases gives way to
the last one that comes of it, and goes if there is none. -/
def completeFrom (first before token : Nat) : Nat → Nat → Nat → Completing → Completing
  | 0, _, _, c => c
  | fuel + 1, v, turn, c =>
    let count := c.readings.count
    if v ≥ count then c
    else
      match c.readings.mergeFirst v (List.range' before (v - before)) with
      | some r => completeFrom first before token fuel v (turn + 1) { c with readings := r }
      | none =>
        let a := c.readings.automaton
        let state := c.readings.state v
        let tokens := if token == Token.finish then List.range' 1 (Token.count - 1) else [token]
        let (r, last) := (rulesBefore a state tokens).foldl
          (fun (r, _) rule => complete v rule r) (c.readings, none)
        let next := if v == first then count else v + 1
        if takesAny a state tokens then
          completeFrom first before token fuel next (turn + 1) ⟨r, true⟩
        else
          match last, decide (turn < limits.kept) with
          | some w, true =>
            completeFrom first before token fuel v (turn + 1) ⟨r.replace w v, c.takes⟩
          | _, _ =>
            let r := if token == Token.finish then r else r.remove v
            completeFrom first before token fuel next (turn + 1) ⟨r, c.takes⟩

def completeAll (v token : Nat) (r : Readings) : Completing :=
  completeFrom v r.count token mostTurns v 0 ⟨r, false⟩

end Readings
end TypeScript
end ServiceCapsule
