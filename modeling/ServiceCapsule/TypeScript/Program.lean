import ServiceCapsule.TypeScript.Reading.Recovery

/-!
# Trees of programs

Each reading takes a token in its turn. After each round the readings are weighed against each
other: those that are worse for certain go, those that are alike become one, and if all of them
have met a fault, the best one goes on after it. The best reading of a text becomes a tree. Pieces
that do not show give way to their children, which play their roles unless they have their own. Any
text has a tree; what does not fit the grammar shows as faults.
-/

namespace ServiceCapsule
namespace TypeScript
namespace Readings

inductive Turn where
  /-- the token was dealt with -/
  | dealt (r : Readings)
  /-- phrases were completed; the last reading that came of it is given -/
  | completed (r : Readings) (last : Nat)
  /-- nothing fits -/
  | stuck (r : Readings)

/-- Do what may be done in front of a token, one action after another. -/
def act (v : Nat) (token : Piece) : List Action → Option Nat → Readings → Turn
  | [], some last, r => .completed r last
  | [], none, r => .stuck r
  | .complete rule :: actions, last, r =>
    let (r, new) := r.complete v rule
    act v token actions (new.or last) r
  | .take _ true :: actions, last, r => act v token actions last r
  | .take state false :: _, _, r => .dealt (r.push v (some (token.asExtra false)) state)
  | .passOver :: _, _, r => .dealt (r.push v (some (token.asExtra true)) (r.state v))
  | .accept :: _, _, r => .dealt (r.accept v token)
  | .recover :: _, _, r => .dealt (r.recover v token)

/-- Nothing fits in front of a token: a fault that is growing takes it in, and otherwise the
reading waits. -/
def wait (v : Nat) (token : Piece) (r : Readings) : Readings :=
  if r.state v == Automaton.afterFault then r.recover v token
  else r.modify v fun reading =>
    { reading with condition := .paused token, base := (r.top v).count }

/-- Deal with a token. A keyword that does not fit is a word. -/
def deal (v : Nat) : Nat → Piece → Readings → Readings
  | 0, token, r => r.wait v token
  | fuel + 1, token, r =>
    match r.act v token (token.sign.actions r.automaton (r.state v)) none with
    | .dealt r => r
    | .completed r last => deal v fuel token (r.replace last v)
    | .stuck r =>
      if token.facts.keyword && token.sign != .symbol Token.identifier &&
          r.automaton.fits (r.state v) Token.identifier then
        deal v fuel (token.withFacts ({ · with sign := .symbol Token.identifier })) r
      else r.wait v token

def advance (v : Nat) (r : Readings) : Readings :=
  let token := Lookahead.read r.automaton (r.state v) (r.hasAdvanced v) (r.spot v)
  r.deal v (32 * (r.nodes.size + 32)) token

/-! ### Weighing -/

/-- Weigh a reading against the earlier ones from one on; says which reading is next. -/
def weighFrom (standing : Standing) : Nat → Nat → Nat → Readings → Readings × Nat
  | 0, _, i, r => (r, i + 1)
  | fuel + 1, j, i, r =>
    if j ≥ i then (r, i + 1)
    else
      match compare (r.standing j) standing with
      | .takeLeft => (r.remove i, i)
      | .preferLeft | .undecided =>
        match r.merge? j i with
        | some r => (r, i)
        | none => weighFrom standing fuel (j + 1) i r
      | .preferRight =>
        match r.merge? j i with
        | some r => (r, i)
        | none =>
          let r := { r with readings := r.readings.swapIfInBounds i j }
          weighFrom standing fuel (j + 1) i r
      | .takeRight => weighFrom standing fuel j (i - 1) (r.remove j)

def least (a : Option Nat) (b : Nat) : Option Nat := some ((a.map (min · b)).getD b)

/-- Weigh all readings from one on, with the least cost of those that are not at a fault. -/
def weigh : Nat → Nat → Option Nat → Readings → Readings × Option Nat
  | 0, _, cost, r => (r, cost)
  | fuel + 1, i, cost, r =>
    if i ≥ r.count then (r, cost)
    else if (r.reading i).condition.isHalted then weigh fuel i cost (r.remove i)
    else
      let r := r.lower i
      let standing := r.standing i
      let cost := if standing.atFault then cost else least cost standing.cost
      let (r, next) := weighFrom standing (r.count + 1) 0 i r
      weigh fuel next cost r

/-- Paused readings go, but for one that goes on after its fault if there is no better one. -/
def resume : Nat → Nat → Bool → Option Nat → Readings → Readings × Option Nat
  | 0, _, _, cost, r => (r, cost)
  | left + 1, i, going, cost, r =>
    match (r.reading i).condition with
    | .paused token =>
      if !going && r.accepted < limits.kept then
        let cost := r.cost i
        let r := (r.modify i ({ · with condition := .active })).meetFault i token
        resume left (i + 1) true (some cost) r
      else resume left i going cost (r.remove i)
    | _ => resume left (i + 1) true cost r

/-- Weigh the readings and go on after faults; gives the least cost of what is left. -/
def condense (r : Readings) : Readings × Option Nat :=
  let (r, cost) := weigh (r.count + 1) 0 none r
  let r := { r with readings := r.readings.take limits.kept }
  resume r.count 0 false cost r

/-! ### Rounds -/

/-- Read tokens until a reading has gone further than all others so far; gives how far. -/
def advanceFurther (v : Nat) : Nat → Nat → Readings → Readings × Nat
  | 0, furthest, r => (r, furthest)
  | fuel + 1, furthest, r =>
    if r.isActive v then
      let r := r.advance v
      if v ≥ r.count then (r, furthest)
      else if r.byte v > furthest || (v > 0 && r.byte v == furthest) then (r, r.byte v)
      else advanceFurther v fuel furthest r
    else (r, furthest)

def advanceAll (tokens : Nat) : Nat → Nat → Nat → Readings → Readings × Nat
  | 0, _, furthest, r => (r, furthest)
  | fuel + 1, v, furthest, r =>
    if v ≥ r.count then (r, furthest)
    else
      let (r, furthest) := r.advanceFurther v tokens furthest
      advanceAll tokens fuel (v + 1) furthest r

def run (tokens : Nat) : Nat → Nat → Readings → Option Piece
  | 0, _, r => r.finished
  | fuel + 1, furthest, r =>
    let (r, furthest) := r.advanceAll tokens (r.count + limits.walkers) 0 furthest
    let (r, least) := r.condense
    let isBest := r.finished.any fun root => least.all (root.cost < ·)
    if isBest || r.count == 0 then r.finished else run tokens fuel furthest r

def best? (a : Automaton) (source : String) : Option Piece :=
  let tokens := 16 * (source.length + 16)
  run tokens tokens 0 (start a (Spot.start source))

end Readings

/-! ### Trees -/

namespace Piece

/-- What a piece is in a tree, by the name that its parent gives it or by its symbol. -/
def label? (p : Piece) (name : Option String) : Option Label :=
  match p.sign with
  | .fault => some .error
  | .faultPart => none
  | .symbol n =>
    match name with
    | some name =>
      let label := Phrase.aliasLabel name
      some (if p.facts.missing then label.asMissing name else label)
    | none =>
      if n < Token.count then
        let shape := Token.shape n
        if p.facts.missing then shape.label?.map (·.asMissing shape.missingName)
        else shape.label?
      else (Phrase.kindOf? n).map .kind

def span (p : Piece) : Span := ⟨p.facts.start, p.facts.stop.position⟩

mutual

/-- The nodes of a tree for a piece with the name and the role that it has in its parent. -/
def toTrees (name : Option String) (role : Option Role) : Piece → List Tree
  | mk f cs =>
    match label? (mk f cs) name with
    | some label => [.node label role (span (mk f cs)) (childTrees (f.rule.map Rule.get) none 0 cs)]
    | none => childTrees (f.rule.map Rule.get) role 0 cs

def childTrees (rule : Option Rule) (role : Option Role) (place : Nat) : List Piece → List Tree
  | [] => []
  | c :: cs =>
    if c.isExtra then toTrees none none c ++ childTrees rule role place cs
    else
      toTrees (rule.bind (·.alias? place)) ((rule.bind (·.role? place)).or role) c ++
        childTrees rule role (place + 1) cs

end

end Piece

/-- The tree of a source; faults and all that is missing are nodes of it. In a source with markup,
elements may stand where an expression may stand. -/
def parse (source : String) (markup : Bool) : Tree :=
  let automaton := if markup then Automaton.withMarkup else Automaton.plain
  match (Readings.best? automaton source).map (Piece.toTrees none none) with
  | some (root :: _) => root
  | _ =>
    let stop := (Spot.start source).skip source.length
    .node .error none ⟨.start, stop.position⟩ []

end TypeScript
end ServiceCapsule
