import ServiceCapsule.TypeScript.Reading.Lookahead

/-!
# Readings of a text, side by side

A text with faults is read in several ways at once. What they have in common is kept once: each
reading stands at a node of one graph, and the links lead from a node down to the nodes below it,
over the piece that was read between them.
-/

namespace ServiceCapsule
namespace TypeScript

/-- Without a piece, a link leads over the place where a fault was met. -/
structure Link where
  below : Nat
  piece : Option Piece
  deriving Inhabited

structure Node where
  state : Nat
  links : List Link
  spot : Spot
  /-- what the faults so far cost -/
  cost : Nat
  /-- how many nodes of the tree were read so far -/
  count : Nat
  weight : Int
  deriving Inhabited

structure Place where
  position : Position
  /-- how many pieces lie above -/
  depth : Nat
  state : Nat
  deriving Inhabited

inductive Condition where
  | active
  /-- nothing fits in front of a token -/
  | paused (token : Piece)
  | halted
  deriving Inhabited

structure Reading where
  top : Nat
  /-- how many nodes there were at the last fault -/
  base : Nat
  condition : Condition
  places : Option (List Place)
  deriving Inhabited

structure Readings where
  automaton : Automaton
  nodes : Array Node
  readings : Array Reading
  /-- the best tree of the whole text so far -/
  finished : Option Piece
  /-- how often the end of the text was reached -/
  accepted : Nat
  deriving Inhabited

namespace Condition

def isActive : Condition → Bool
  | active => true
  | _ => false

def isPaused : Condition → Bool
  | paused _ => true
  | _ => false

def isHalted : Condition → Bool
  | halted => true
  | _ => false

end Condition

namespace Node

/-- Whether two nodes may be one. -/
def isLike (n m : Node) : Bool :=
  n.state == m.state && n.spot.position.byte == m.spot.position.byte && n.cost == m.cost

/-- The number of nodes and the weight of all that is read once a link is followed up. -/
def above (below : Node) (link : Link) : Nat × Int :=
  match link.piece with
  | some p => (below.count + p.nodes, below.weight + p.weight)
  | none => (below.count, below.weight)

def upon (number : Nat) (below : Node) (piece : Option Piece) (state : Nat) : Node :=
  let (count, weight) := below.above ⟨number, piece⟩
  ⟨state, [⟨number, piece⟩], (piece.map (·.facts.stop)).getD below.spot,
    below.cost + (piece.map Piece.cost).getD 0, count, weight⟩

end Node

namespace Link

def isLike (l m : Link) : Bool :=
  match l.piece, m.piece with
  | some p, some q => p.isLike q
  | none, none => true
  | _, _ => false

def weight (l : Link) : Int := (l.piece.map Piece.weight).getD 0

end Link

namespace Readings

/-- How many readings are kept, how many more there may be for a while, and how many ways may
lead down from a node or be followed at once. -/
structure Limits where
  kept : Nat
  more : Nat
  links : Nat
  walkers : Nat

def limits : Limits := ⟨6, 4, 8, 64⟩

def start (a : Automaton) (s : Spot) : Readings :=
  ⟨a, #[⟨Automaton.start, [], s, 0, 0, 0⟩], #[⟨0, 0, .active, none⟩], none, 0⟩

def count (r : Readings) : Nat := r.readings.size

def node (r : Readings) (n : Nat) : Node := r.nodes.getD n default

def reading (r : Readings) (v : Nat) : Reading := r.readings.getD v default

def top (r : Readings) (v : Nat) : Node := r.node (r.reading v).top

def state (r : Readings) (v : Nat) : Nat := (r.top v).state

def spot (r : Readings) (v : Nat) : Spot := (r.top v).spot

def byte (r : Readings) (v : Nat) : Nat := (r.spot v).position.byte

def isActive (r : Readings) (v : Nat) : Bool :=
  (r.readings[v]?).any (·.condition.isActive)

/-! ### Changes to one reading -/

def modify (v : Nat) (f : Reading → Reading) (r : Readings) : Readings :=
  { r with readings := r.readings.modify v f }

def modifyNode (n : Nat) (f : Node → Node) (r : Readings) : Readings :=
  { r with nodes := r.nodes.modify n f }

def remove (v : Nat) (r : Readings) : Readings :=
  { r with readings := r.readings.eraseIdxIfInBounds v }

def halt (v : Nat) (r : Readings) : Readings := r.modify v ({ · with condition := .halted })

def push (v : Nat) (piece : Option Piece) (state : Nat) (r : Readings) : Readings :=
  let number := (r.reading v).top
  let node := Node.upon number (r.node number) piece state
  { r with nodes := r.nodes.push node }.modify v fun reading =>
    { reading with
      top := r.nodes.size
      base := if piece.isNone then node.count else reading.base }

def pushAll (v : Nat) (pieces : List Piece) (state : Nat) (r : Readings) : Readings :=
  pieces.foldl (fun r p => r.push v (some p) state) r

def add (number : Nat) (base : Nat) (r : Readings) : Readings :=
  { r with readings := r.readings.push ⟨number, base, .active, none⟩ }

def replace (v old : Nat) (r : Readings) : Readings :=
  if v == old then r
  else
    let reading := r.reading v
    let places := if reading.places.isNone then (r.reading old).places else reading.places
    { r with readings := r.readings.setIfInBounds old { reading with places := places } }.remove v

/-! ### Joining readings -/

/-- Whether a link changes nothing or replaces a piece: one like it leads to the same node or to
a node that may be one with its own. -/
inductive Match where
  | same (index : Nat)
  | like (index : Nat)
  | new

def matchLink (r : Readings) (link : Link) : Nat → List Link → Match
  | _, [] => .new
  | i, l :: ls =>
    if l.isLike link then
      if l.below == link.below then .same i
      else if (r.node l.below).isLike (r.node link.below) then .like i
      else matchLink r link (i + 1) ls
    else matchLink r link (i + 1) ls

/-- Add a link to a node. Where one like it is there, the two are made one, and so are the links
below them. -/
def addLink : Nat → Nat → Link → Readings → Readings
  | 0, _, _, r => r
  | fuel + 1, n, link, r =>
    if link.below == n then r
    else
      let node := r.node n
      let (count, weight) := (r.node link.below).above link
      match r.matchLink link 0 node.links with
      | .same i =>
        if (node.links.getD i default).weight < link.weight then
          r.modifyNode n fun node => { node with links := node.links.set i link, weight := weight }
        else r
      | .like i =>
        let below := (node.links.getD i default).below
        let r := (r.node link.below).links.foldl (fun r l => addLink fuel below l r) r
        r.modifyNode n fun node => { node with weight := max node.weight weight }
      | .new =>
        if node.links.length == limits.links then r
        else
          r.modifyNode n fun node =>
            { node with
              links := node.links ++ [link]
              count := max node.count count
              weight := max node.weight weight }

def canMerge (r : Readings) (v w : Nat) : Bool :=
  r.isActive v && r.isActive w && (r.top v).isLike (r.top w)

/-- Make two readings one, if they are in the same state at the same place. -/
def merge? (v w : Nat) (r : Readings) : Option Readings :=
  if r.canMerge v w then
    let n := (r.reading v).top
    let r := (r.top w).links.foldl (fun r link => addLink (r.nodes.size + 1) n link r) r
    let r := if (r.node n).state == Automaton.afterFault then
        r.modify v ({ · with base := (r.node n).count })
      else r
    some (r.remove w)
  else none

def mergeFirst (w : Nat) (r : Readings) : List Nat → Option Readings
  | [] => none
  | v :: vs => (r.merge? v w).or (mergeFirst w r vs)

/-! ### Ways down -/

/-- A way down from the top: the pieces on it in the order of the text, and how many count. -/
structure Walker where
  node : Nat
  pieces : List Piece
  count : Nat
  deriving Inhabited

def steps (r : Readings) (w : Walker) : List Walker :=
  (r.node w.node).links.map fun link =>
    match link.piece with
    | some p => ⟨link.below, p :: w.pieces, if p.isExtra then w.count else w.count + 1⟩
    | none => ⟨link.below, w.pieces, w.count + 1⟩

/-- Visit each walker once. Those that do not stop go down; where they have a choice there are
more of them, as long as there are not too many. -/
def round {σ : Type} (r : Readings) (visit : σ → Walker → σ × Bool) :
    List Walker → Nat → σ → Array Walker → Array Walker → σ × List Walker
  | [], _, seen, kept, forked => (seen, (kept ++ forked).toList)
  | w :: ws, live, seen, kept, forked =>
    let (seen, stops) := visit seen w
    match stops, r.steps w with
    | false, first :: others =>
      let others := others.take (limits.walkers - live)
      round r visit ws (live + others.length) seen (kept.push first) (forked ++ others.toArray)
    | _, _ => round r visit ws (live - 1) seen kept forked

def walk {σ : Type} (r : Readings) (visit : σ → Walker → σ × Bool) : Nat → List Walker → σ → σ
  | 0, _, seen => seen
  | fuel + 1, ws, seen =>
    if ws.isEmpty then seen
    else
      let (seen, ws) := r.round visit ws ws.length seen #[] #[]
      walk r visit fuel ws seen

def descend {σ : Type} (r : Readings) (v : Nat) (visit : σ → Walker → σ × Bool) (seen : σ) : σ :=
  r.walk visit (r.nodes.size + 1) [⟨(r.reading v).top, [], 0⟩] seen

structure Ways where
  node : Nat
  ways : List (List Piece)

def Ways.add (w : Walker) : List Ways → List Ways
  | [] => [⟨w.node, [w.pieces]⟩]
  | g :: gs =>
    if g.node == w.node then ⟨g.node, g.ways ++ [w.pieces]⟩ :: gs else g :: Ways.add w gs

def down (r : Readings) (v count : Nat) : List Ways :=
  r.descend v (fun found w =>
    if w.count == count then (Ways.add w found, true) else (found, false)) []

def toStart (r : Readings) (v : Nat) : List Ways :=
  r.descend v (fun found w =>
    if (r.node w.node).links.isEmpty then (Ways.add w found, true) else (found, false)) []

/-! ### Comparing readings -/

def since (r : Readings) (v : Nat) : Nat := (r.top v).count - (r.reading v).base

/-- A reading that has fewer nodes than at its last fault starts to count from there. -/
def lower (v : Nat) (r : Readings) : Readings :=
  r.modify v fun reading => { reading with base := min reading.base (r.top v).count }

/-- Whether a fault was met at the top and nothing was passed over yet. -/
def meetsFault (r : Readings) (v : Nat) : Bool :=
  let node := r.top v
  node.state == Automaton.afterFault && (node.links.head?).any (·.piece.isNone)

def cost (r : Readings) (v : Nat) : Nat :=
  (r.top v).cost +
    (if (r.reading v).condition.isPaused || r.meetsFault v then prices.fault else 0)

/-- Whether something was read since the last fault, from a node on down. -/
def advancedFrom (r : Readings) (base : Nat) : Nat → Nat → Bool
  | 0, _ => false
  | fuel + 1, n =>
    let node := r.node n
    match node.links with
    | link :: _ =>
      match link.piece with
      | some p =>
        p.size > 0 || (node.count > base && p.cost == 0 && advancedFrom r base fuel link.below)
      | none => false
    | [] => false

def hasAdvanced (r : Readings) (v : Nat) : Bool :=
  (r.top v).cost == 0 ||
    r.advancedFrom (r.reading v).base (r.nodes.size + 1) (r.reading v).top

structure Standing where
  cost : Nat
  since : Nat
  weight : Int
  atFault : Bool
  deriving Inhabited

def standing (r : Readings) (v : Nat) : Standing :=
  let paused := (r.reading v).condition.isPaused
  ⟨r.cost v + (if paused then prices.tree else 0), r.since v, (r.top v).weight,
    paused || r.state v == Automaton.afterFault⟩

inductive Verdict where
  | takeLeft | preferLeft | undecided | preferRight | takeRight
  deriving DecidableEq

/-- A reading is given up for one that costs so much less, the more so the more was read since. -/
def greatestGap : Nat := 18 * 100

def compare (a b : Standing) : Verdict :=
  if !a.atFault && b.atFault then if a.cost < b.cost then .takeLeft else .preferLeft
  else if a.atFault && !b.atFault then if b.cost < a.cost then .takeRight else .preferRight
  else if a.cost < b.cost then
    if (b.cost - a.cost) * (1 + a.since) > greatestGap then .takeLeft else .preferLeft
  else if b.cost < a.cost then
    if (a.cost - b.cost) * (1 + b.since) > greatestGap then .takeRight else .preferRight
  else if a.weight > b.weight then .preferLeft
  else if b.weight > a.weight then .preferRight
  else .undecided

/-- Whether there is a better reading than one with a cost without a fault at its top. -/
def hasBetter (r : Readings) (v : Nat) (cost : Nat) : Bool :=
  r.finished.any (·.cost ≤ cost) ||
    (List.range r.count).any fun w =>
      w != v && r.isActive w && r.byte v ≤ r.byte w &&
        match compare ⟨cost, r.since v, (r.top v).weight, false⟩ (r.standing w) with
        | .takeRight => true
        | .preferRight => r.canMerge w v
        | _ => false

end Readings
end TypeScript
end ServiceCapsule
