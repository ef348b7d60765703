import ServiceCapsule.TypeScript.Automaton.Table
import ServiceCapsule.TypeScript.Tree

/-!
# Pieces of a text

A piece is a token or a phrase that was read, or what was passed over. It knows what the faults
below it cost; of two readings of a text the one that costs less is better.
-/

namespace ServiceCapsule
namespace TypeScript

inductive Sign where
  | symbol (number : Nat)
  | fault
  /-- a part of a fault that is still growing -/
  | faultPart
  deriving DecidableEq, Repr, Inhabited

namespace Sign

def finish : Sign := .symbol Token.finish

/-- Symbols come in the order of their numbers, faults after them. -/
def rank : Sign → Nat
  | symbol n => n
  | faultPart => 65534
  | fault => 65535

def isFault (s : Sign) : Bool := s == .fault || s == .faultPart

/-- Whether the tree has a node for it. -/
def shows : Sign → Bool
  | symbol n =>
    if n < Token.count then (Token.shape n).label?.isSome else (Phrase.kindOf? n).isSome
  | fault => true
  | faultPart => false

def actions (a : Automaton) (state : Nat) : Sign → List Action
  | symbol n => a.actions state n
  | _ => []

end Sign

structure Prices where
  fault : Nat
  missing : Nat
  tree : Nat
  line : Nat
  byte : Nat

def prices : Prices := ⟨500, 110, 100, 30, 1⟩

structure Facts where
  sign : Sign
  /-- the number of the rule by which a phrase was completed -/
  rule : Option Nat
  /-- where the token before the piece ends -/
  before : Position
  start : Position
  stop : Spot
  /-- what the faults below cost -/
  cost : Nat
  weight : Int
  /-- stands beside the rules: a comment, or what was passed over -/
  extra : Bool
  /-- was put in without standing in the text -/
  missing : Bool
  /-- a word that was read as a keyword -/
  keyword : Bool
  /-- how many children show in a tree, hidden ones being replaced by theirs -/
  shown : Nat
  /-- how many nodes below show in a tree -/
  shownBelow : Nat
  deriving Inhabited

inductive Piece where
  | mk (facts : Facts) (children : List Piece)
  deriving Inhabited

namespace Piece

def facts : Piece → Facts
  | mk f _ => f

def children : Piece → List Piece
  | mk _ cs => cs

def sign (p : Piece) : Sign := p.facts.sign

def isExtra (p : Piece) : Bool := p.facts.extra

def weight (p : Piece) : Int := p.facts.weight

def withFacts (change : Facts → Facts) : Piece → Piece
  | mk f cs => mk (change f) cs

def asExtra (extra : Bool) (p : Piece) : Piece := p.withFacts ({ · with extra := extra })

def cost (p : Piece) : Nat :=
  if p.facts.missing then prices.missing + prices.fault else p.facts.cost

def size (p : Piece) : Nat := p.facts.stop.position.byte - p.facts.before.byte

def gap (p : Piece) : Nat := p.facts.start.byte - p.facts.before.byte

def length (p : Piece) : Nat := p.facts.stop.position.byte - p.facts.start.byte

def nodes (p : Piece) : Nat :=
  p.facts.shownBelow + (if p.sign.shows || p.sign == .faultPart then 1 else 0)

def leaf (sign : Sign) (before : Position) (start stop : Spot) : Piece :=
  mk ⟨sign, none, before, start.position, stop, 0, 0, sign == .finish, false, false, 0, 0⟩ []

/-- A token that has to stand at a spot and does not. -/
def absent (symbol : Nat) (spot : Spot) : Piece :=
  (leaf (.symbol symbol) spot.position spot spot).withFacts ({ · with missing := true })

/-- What a child of a fault costs its fault. -/
def costInFault (p : Piece) : Nat :=
  if p.isExtra || (p.sign == .fault && p.children.isEmpty) then 0
  else if p.sign.shows then prices.tree
  else if p.children.isEmpty then 0
  else prices.tree * p.facts.shown

/-- What a child adds to the facts of its parent; a named child shows. -/
def addChild (parent : Facts) (child : Piece) (named : Bool) : Facts :=
  let shows := named || child.sign.shows
  { parent with
    cost := parent.cost + (if child.sign == .faultPart then 0 else child.cost) +
      (if parent.sign.isFault then child.costInFault else 0)
    weight := parent.weight + child.weight
    shown := parent.shown +
      (if shows then 1 else if child.children.isEmpty then 0 else child.facts.shown)
    shownBelow := parent.shownBelow + child.facts.shownBelow + (if shows then 1 else 0) }

def addChildren (rule : Option Rule) : List Piece → Nat → Facts → Facts
  | [], _, parent => parent
  | c :: cs, place, parent =>
    if c.isExtra then addChildren rule cs place (addChild parent c false)
    else
      let named := c.sign != .finish && (rule.bind (·.alias? place)).isSome
      addChildren rule cs (place + 1) (addChild parent c named)

def faultPrice (start stop : Position) : Nat :=
  prices.fault + prices.byte * (stop.byte - start.byte) + prices.line * (stop.row - start.row)

/-- A piece over others; without any it stands at a spot. -/
def ofParts (sign : Sign) (rule : Option Nat) (spot : Spot) (children : List Piece) : Piece :=
  let before := (children.head?.map (·.facts.before)).getD spot.position
  let start := (children.head?.map (·.facts.start)).getD spot.position
  let stop := (children.getLast?.map (·.facts.stop)).getD spot
  let price := if sign.isFault then faultPrice start stop.position else 0
  let empty : Facts := ⟨sign, rule, before, start, stop, price, 0, false, false, false, 0, 0⟩
  mk (addChildren (rule.map Rule.get) children 0 empty) children

/-- Pieces without the extras at their end, and these extras. -/
def trimmed (ps : List Piece) : List Piece × List Piece :=
  let extras := (ps.reverse.takeWhile isExtra).reverse
  (ps.take (ps.length - extras.length), extras)

/-! ### Choice between two pieces over the same text -/

/-- Whether two pieces are as good as one: the same symbol over the same text, or both at fault. -/
def isLike (p q : Piece) : Bool :=
  p.sign == q.sign &&
    ((p.cost > 0 && q.cost > 0) ||
      (p.gap == q.gap && p.length == q.length && p.children.length == q.children.length &&
        p.isExtra == q.isExtra))

mutual

/-- Which piece comes first by its symbols, from the top down and from left to right. -/
def order : Piece → Piece → Ordering
  | mk f cs, mk g ds =>
    match compare f.sign.rank g.sign.rank, compare cs.length ds.length with
    | .eq, .eq => orderAll cs ds
    | .eq, o => o
    | o, _ => o

def orderAll : List Piece → List Piece → Ordering
  | c :: cs, d :: ds =>
    match order c d with
    | .eq => orderAll cs ds
    | o => o
  | _, _ => .eq

end

/-- Whether the second piece replaces the first one. -/
def isReplacedBy (p q : Piece) : Bool :=
  if p.cost != q.cost then q.cost < p.cost
  else if p.weight != q.weight then p.weight < q.weight
  else p.cost > 0 || order p q == .gt

end Piece
end TypeScript
end ServiceCapsule
