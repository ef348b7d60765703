import ServiceCapsule.Text.Basic
import ServiceCapsule.Text.Word

/-!
# Patterns

Patterns over text with ordered alternatives: of the ways to match at a place, the first one in
the order of preference is taken, and a repeat prefers more (`many`) or fewer (`few`) rounds.
A place knows the text before it, so that line starts and word edges can be tested.
-/

namespace ServiceCapsule

/-- A place in a text: what was read, last character first, and what is left. -/
structure Place where
  before : List Char
  rest : List Char
  deriving DecidableEq

namespace Place

def start (s : String) : Place := ⟨[], s.toList⟩

def textTo (first last : Place) : String :=
  String.ofList (last.before.take (last.before.length - first.before.length)).reverse

def atLineStart (p : Place) : Bool := p.before.head?.all (· == '\n')

def atLineEnd (p : Place) : Bool := p.rest.head?.all (· == '\n')

/-- A word character on exactly one side. -/
def atWordEdge (p : Place) : Bool :=
  (p.before.head?.any Text.isWord) != (p.rest.head?.any Text.isWord)

end Place

inductive Pattern where
  | empty
  | char (accepts : Char → Bool)
  | seq (first second : Pattern)
  | alt (preferred other : Pattern)
  | many (body : Pattern)
  | few (body : Pattern)
  | group (index : Nat) (body : Pattern)
  | lineStart
  | lineEnd
  | wordEdge

namespace Pattern

/-- The texts of the groups matched so far, the latest first. -/
abbrev Groups := List (Nat × String)

section

variable {β : Type}

/-- Rounds of a greedy repeat; a round that reads nothing is the last. -/
def manyRounds (step : Place → Groups → (Place → Groups → Option β) → Option β)
    (done : Place → Groups → Option β) : Nat → Place → Groups → Option β
  | 0, here, groups => done here groups
  | n + 1, here, groups =>
    (step here groups fun after groups' =>
      if after.rest.length < here.rest.length then manyRounds step done n after groups'
      else none).or (done here groups)

/-- Rounds of a reluctant repeat. -/
def fewRounds (step : Place → Groups → (Place → Groups → Option β) → Option β)
    (done : Place → Groups → Option β) : Nat → Place → Groups → Option β
  | 0, here, groups => done here groups
  | n + 1, here, groups =>
    (done here groups).or (step here groups fun after groups' =>
      if after.rest.length < here.rest.length then fewRounds step done n after groups'
      else none)

/-- Match at a place and go on with the continuation; the first way through is the answer. -/
def run : Pattern → Place → Groups → (Place → Groups → Option β) → Option β
  | empty, here, groups, done => done here groups
  | char accepts, here, groups, done =>
    match here.rest with
    | [] => none
    | c :: rest => if accepts c then done ⟨c :: here.before, rest⟩ groups else none
  | seq first second, here, groups, done =>
    run first here groups fun middle groups' => run second middle groups' done
  | alt preferred other, here, groups, done =>
    (run preferred here groups done).or (run other here groups done)
  | many body, here, groups, done =>
    manyRounds (fun p g k => run body p g k) done here.rest.length here groups
  | few body, here, groups, done =>
    fewRounds (fun p g k => run body p g k) done here.rest.length here groups
  | group index body, here, groups, done =>
    run body here groups fun after groups' => done after ((index, here.textTo after) :: groups')
  | lineStart, here, groups, done => if here.atLineStart then done here groups else none
  | lineEnd, here, groups, done => if here.atLineEnd then done here groups else none
  | wordEdge, here, groups, done => if here.atWordEdge then done here groups else none

end

def text (s : String) : Pattern :=
  s.toList.foldr (fun c p => seq (char (· == c)) p) empty

def oneOrMore (body : Pattern) : Pattern := seq body (many body)

def optional (body : Pattern) : Pattern := alt body empty

def all (parts : List Pattern) : Pattern := parts.foldr seq empty

def blanks : Pattern := many (char Text.isBlank)

def oneBlank : Pattern := oneOrMore (char Text.isBlank)

def wordChars : Pattern := many (char fun c => Text.isWord c || c == '$')

/-- The first match at or after a place: where it ends, and its groups. -/
def searchFrom (p : Pattern) (before : List Char) : List Char → Option (Place × Groups)
  | [] => p.run ⟨before, []⟩ [] fun after groups => some (after, groups)
  | c :: rest =>
    (p.run ⟨before, c :: rest⟩ [] fun after groups => some (after, groups)).or
      (searchFrom p (c :: before) rest)

def occursIn (p : Pattern) (s : String) : Bool := (p.searchFrom [] s.toList).isSome

/-- The groups of the successive matches that do not overlap. -/
def matchesFrom (p : Pattern) : Nat → Place → List Groups
  | 0, _ => []
  | fuel + 1, here =>
    match p.searchFrom here.before here.rest with
    | none => []
    | some (after, groups) =>
      groups :: match after.rest with
        | [] => []
        | c :: rest =>
          if after.rest.length < here.rest.length then matchesFrom p fuel after
          else matchesFrom p fuel ⟨c :: after.before, rest⟩

/-- The groups of all matches in a text, in order. -/
def matchesIn (p : Pattern) (s : String) : List Groups :=
  p.matchesFrom (s.length + 1) (Place.start s)

def Groups.text (groups : Groups) (index : Nat) : Option String := groups.lookup index

end Pattern
end ServiceCapsule
