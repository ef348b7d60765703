import ServiceCapsule.Capsule.Parsed
import ServiceCapsule.Package.Generation
import ServiceCapsule.Validation.Encoding

/-!
# Report of a migration

What became of one capsule: its size before and after, how its package was judged, and what is left
to do by hand.
-/

namespace ServiceCapsule

/-- Where a migration stands. -/
inductive Status where
  | pending
  | inProgress
  | complete
  | failed
  deriving DecidableEq, Repr, Inhabited

namespace Status

def all : List Status := [pending, inProgress, complete, failed]

def name : Status → String
  | pending => "pending"
  | inProgress => "in_progress"
  | complete => "complete"
  | failed => "failed"

def ofName? (s : String) : Option Status := all.find? fun status => status.name == s

theorem ofName?_name (s : Status) : ofName? s.name = some s := by cases s <;> decide

def ofParts (generation : GenerationResult) (validation : Validation) : Status :=
  if !generation.errors.isEmpty || !validation.isValid then failed
  else if generation.mode != .auto && !generation.manualActions.isEmpty then inProgress
  else complete

theorem ofParts_eq_failed_iff (generation : GenerationResult) (validation : Validation) :
    ofParts generation validation = failed ↔
      generation.errors ≠ [] ∨ validation.isValid = false := by
  unfold ofParts
  split
  · next h => simpa using h
  · next h =>
    constructor
    · split <;> simp
    · intro hf
      exact absurd (by simpa using hf) h

end Status

structure CodeSize where
  files : Nat
  lines : Nat
  deriving DecidableEq, Repr, Inhabited

structure MigrationReport where
  metadata : Metadata
  status : Status
  mode : Mode
  /-- hours that the migration took -/
  time : Float
  before : CodeSize
  after : CodeSize
  metrics : Metrics
  validation : Validation
  generationErrors : List String
  generationWarnings : List String
  manualActions : List String
  outputDirectory : Path
  generatedAt : Timestamp
  deriving Repr, Inhabited

namespace MigrationReport

def id (r : MigrationReport) : String := r.metadata.id

def score (r : MigrationReport) : Float := r.validation.score

def isFailed (r : MigrationReport) : Bool := r.status == .failed

def ofParts (time : Timestamp) (c : ParsedCapsule) (generation : GenerationResult)
    (validation : Validation) (hours : Float) : MigrationReport where
  metadata := c.metadata
  status := Status.ofParts generation validation
  mode := generation.mode
  time := hours
  before := ⟨c.sources.length, c.metrics.lines⟩
  after := ⟨generation.files.length, generation.totalLines⟩
  metrics := c.metrics
  validation := validation
  generationErrors := generation.errors
  generationWarnings := generation.warnings
  manualActions := generation.manualActions
  outputDirectory := generation.outputDirectory
  generatedAt := time

end MigrationReport
end ServiceCapsule
