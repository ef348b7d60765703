import ServiceCapsule.Capsule.Analysis
import ServiceCapsule.Text.Casing
import ServiceCapsule.Text.Lines
import ServiceCapsule.TypeScript.Tree

/-!
# Size, complexity and modes

Lines, decision points, and what is estimated from them: the quality of the sources, and how much of
a migration is done mechanically, by limits on size and complexity.
-/

namespace ServiceCapsule

/-! ### Size, complexity and quality -/

structure FileMetrics where
  path : Path
  lines : Nat
  complexity : Nat
  deriving DecidableEq, Repr, Inhabited

structure Metrics where
  lines : Nat
  complexity : Nat
  maintainability : Float
  hours : Float
  files : List FileMetrics
  deriving Repr, Inhabited

structure Quality where
  hasTypes : Bool
  hasErrorHierarchy : Bool
  hasTests : Bool
  hasDocumentation : Bool
  deriving DecidableEq, Repr, Inhabited

namespace Metrics

open TypeScript

/-- The operator of an expression with two sides. -/
def isShortCircuit (source : String) (t : Tree) : Bool :=
  t.roleText? .operator source == some "&&" || t.roleText? .operator source == some "||"

/-- Where the flow of control divides. -/
def isDecision (source : String) (t : Tree) : Bool :=
  match t.kind? with
  | some .ifStatement | some .ternaryExpression | some .forStatement | some .forInStatement
  | some .whileStatement | some .doStatement | some .switchCase | some .catchClause => true
  | some .binaryExpression => isShortCircuit source t
  | _ => false

/-- One more than the number of decision points. -/
def complexityOf (source : String) (root : Tree) : Nat := 1 + root.count (isDecision source)

/-- From 100 down to 0 with the logarithm of the lines and with the complexity. -/
def maintainabilityOf (lines complexity : Nat) : Float :=
  let loc := Float.ofNat (max lines 1)
  let raw := 171.0 - 5.2 * loc.log - 0.23 * Float.ofNat complexity
  let scaled := raw * 100.0 / 171.0
  if scaled < 0.0 then 0.0 else scaled

/-- Twice the hours for a number of lines. -/
def halfHoursForLines (lines : Nat) : Nat :=
  if lines < 200 then 1 else if lines < 500 then 2 else if lines < 1000 then 4 else 8

def halfHoursForComplexity (complexity : Nat) : Nat :=
  if complexity < 10 then 1 else if complexity < 30 then 2 else 4

/-- Hours for a migration: one, and more in steps with size and complexity. -/
def hoursOf (lines complexity : Nat) : Float :=
  Float.ofNat (2 + halfHoursForLines lines + halfHoursForComplexity complexity) / 2.0

def total (ns : List Nat) : Nat := ns.foldr (· + ·) 0

def ofFiles (files : List FileMetrics) : Metrics :=
  let lines := total (files.map (·.lines))
  let complexity := total (files.map (·.complexity))
  ⟨lines, complexity, maintainabilityOf lines complexity, hoursOf lines complexity, files⟩

end Metrics

namespace Quality

/-- Documentation is looked for on all declarations but state. -/
def ofAnalysis (a : Analysis) : Quality where
  hasTypes := !a.types.isEmpty || !a.interfaces.isEmpty
  hasErrorHierarchy := !a.errors.isEmpty
  hasTests := false
  hasDocumentation :=
    a.types.any (·.docs.isSome) || a.interfaces.any (·.docs.isSome) ||
      a.classes.any (·.docs.isSome) || a.functions.any (·.docs.isSome) ||
      a.constants.any (·.docs.isSome)

end Quality

/-! ### Modes of migration -/

inductive Mode where
  | auto
  | semi
  | manual
  deriving DecidableEq, Repr, Inhabited

namespace Mode

def name : Mode → String
  | auto => "auto"
  | semi => "semi"
  | manual => "manual"

structure Unknown where
  word : String
  deriving DecidableEq, Repr

def Unknown.message (u : Unknown) : String :=
  s!"Unknown migration mode '{u.word}' (expected auto, semi or manual)"

def parse (s : String) : Except Unknown Mode :=
  let word := Text.lowercase s
  if word == "auto" then .ok auto
  else if word == "semi" then .ok semi
  else if word == "manual" then .ok manual
  else .error ⟨word⟩

/-- Below both limits a migration can be all mechanical. -/
def autoLines : Nat := 500

def autoComplexity : Nat := 10

/-- Above either limit it cannot. -/
def semiLines : Nat := 2000

def semiComplexity : Nat := 30

def recommended (lines complexity : Nat) : Mode :=
  if lines < autoLines && complexity < autoComplexity then auto
  else if lines ≤ semiLines && complexity ≤ semiComplexity then semi
  else manual

/-- A mode that was asked for, the one that is used, and what there is to say about it. -/
structure Selection where
  requested : Mode
  effective : Mode
  warning : Option String
  deriving DecidableEq, Repr

def isTooLarge (lines complexity : Nat) : Bool :=
  decide (semiLines < lines) || decide (semiComplexity < complexity)

def downgradeMessage (id : String) (lines complexity : Nat) : String :=
  s!"Capsule {id} has {lines} lines and complexity {complexity} " ++
    s!"(limits {semiLines} / {semiComplexity}); downgrading auto migration to semi"

/-- The mode that was asked for, but nothing too large is migrated all mechanically. -/
def select (id : String) (requested : Mode) (lines complexity : Nat) : Selection :=
  if requested = auto ∧ isTooLarge lines complexity then
    ⟨requested, semi, some (downgradeMessage id lines complexity)⟩
  else ⟨requested, requested, none⟩

theorem select_effective_ne_iff (id : String) (requested : Mode) (lines complexity : Nat) :
    (select id requested lines complexity).effective ≠ requested ↔
      requested = auto ∧ isTooLarge lines complexity := by
  unfold select
  split
  · next h => simp [h]
  · next h => simp [h]

end Mode
end ServiceCapsule
