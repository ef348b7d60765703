import ServiceCapsule.Capsule.Discovery
import ServiceCapsule.Capsule.Loading
import ServiceCapsule.Package.Generation
import ServiceCapsule.Report.Saving
import ServiceCapsule.Validation.Validator

/-!
# Migration of one capsule

A capsule is parsed, its package is generated into a directory named by its id, and the package is
validated. A package that is not valid makes a failed report and no error. A migration fails because
its capsule cannot be parsed or its package cannot be generated; a batch also because of its
settings, because two capsules have one id, or because it was aborted.
-/

namespace ServiceCapsule

/-! ### Why a migration fails -/

inductive MigrationError where
  | parse (cause : ParseError)
  | generate (cause : GenerationError)
  | save (cause : ReportError)
  | settings (reason : String)
  | duplicate (id : String) (first : Path)
  | aborted (capsule : String) (cause : MigrationError)
  deriving Repr, Inhabited

namespace MigrationError

def code : MigrationError → String
  | parse cause => cause.code
  | generate cause => cause.code
  | save cause => cause.code
  | settings _ => "CONFIG_INVALID"
  | duplicate _ _ => "BATCH_DUPLICATE_CAPSULE"
  | aborted _ _ => "BATCH_ABORTED"

def message : MigrationError → String
  | parse cause => cause.message
  | generate cause => cause.message
  | save cause => cause.message
  | settings reason => "Invalid configuration: " ++ reason
  | duplicate id first =>
    "Capsule id " ++ id ++ " is already taken by " ++ first.text ++ " in this batch"
  | aborted capsule cause => "Batch aborted on capsule " ++ capsule ++ ": " ++ cause.message

def shown (e : MigrationError) : String := "[" ++ e.code ++ "] " ++ e.message

end MigrationError

/-! ### Migration -/

structure Tools where
  sources : SourceFilter
  /-- what generated files are formatted with, if they are -/
  formatter : Option Formatter
  provider : Provider
  /-- the time that stands in packages and reports -/
  time : Timestamp
  /-- hours that one migration is taken to last -/
  hours : Float

namespace Tools

def packageDirectory (output : Path) (id : String) : Path := output.child id

/-- Migrate a capsule that was parsed. -/
def migrateParsed (t : Tools) (d : Disk) (c : ParsedCapsule) (output : Path) (mode : Mode) :
    Disk × Except MigrationError MigrationReport :=
  let selection := Mode.select c.metadata.id mode c.metrics.lines c.metrics.complexity
  let dir := packageDirectory output c.metadata.id
  match Generation.run t.formatter t.time d c dir selection.effective with
  | (d', .error e) => (d', .error (.generate e))
  | (d', .ok generation) =>
    let generation :=
      { generation with warnings := selection.warning.toList ++ generation.warnings }
    let validation := Validation.ofDirectory t.provider d' dir
    (d', .ok (.ofParts t.time c generation validation t.hours))

def migrate (t : Tools) (d : Disk) (input output : Path) (mode : Mode) :
    Disk × Except MigrationError MigrationReport :=
  match ParsedCapsule.ofDirectory t.sources d input with
  | .error e => (d, .error (.parse e))
  | .ok c => t.migrateParsed d c output mode

theorem migrate_of_parse_error {t : Tools} {d : Disk} {input : Path} {e : ParseError}
    (h : ParsedCapsule.ofDirectory t.sources d input = .error e) (output : Path) (mode : Mode) :
    t.migrate d input output mode = (d, .error (.parse e)) := by
  simp [migrate, h]

theorem migrate_of_parsed {t : Tools} {d : Disk} {input : Path} {c : ParsedCapsule}
    (h : ParsedCapsule.ofDirectory t.sources d input = .ok c) (output : Path) (mode : Mode) :
    t.migrate d input output mode = t.migrateParsed d c output mode := by
  simp only [migrate, h]

end Tools
end ServiceCapsule
