import ServiceCapsule.Capsule.Encoding
import ServiceCapsule.CommandLine.Command
import ServiceCapsule.Json.Writer
import ServiceCapsule.Migration.Batch
import ServiceCapsule.Migration.Single
import ServiceCapsule.Report.Batch
import ServiceCapsule.Report.Saving
import ServiceCapsule.Settings.Basic
import ServiceCapsule.Time.Hours

/-!
# Running commands

A command is run on a disk: it gives the new disk, what is printed, and why it failed if it did.
What was printed before a failure stays printed. A command that was understood fails because of its
settings, its files or its migrations.
-/

namespace ServiceCapsule

/-! ### Failures -/

inductive CommandFailure where
  | settingsNotFound (path : Path)
  | settings (cause : SettingsError)
  | alreadyExists (path : Path)
  | unwritable (cause : FileError)
  | migration (cause : MigrationError)
  /-- the report of a migration that was finished is not saved -/
  | unsaved (cause : ReportError)
  | notADirectory (root : Path)
  | noCapsules (root : Path)
  | invalidPackage (id : String)
  | failedCapsules (failed capsules : Nat)
  deriving Repr, Inhabited

namespace CommandFailure

def message : CommandFailure → String
  | settingsNotFound path => "Configuration file not found: " ++ Text.quoted path.text
  | settings cause => cause.message
  | alreadyExists path =>
    Text.quoted path.text ++ " already exists; pass --force to overwrite it"
  | unwritable cause => cause.message
  | migration cause => cause.message
  | unsaved cause => cause.message
  | notADirectory root => "Capsule root is not a directory: " ++ Text.quoted root.text
  | noCapsules root => "No capsules found under " ++ Text.quoted root.text
  | invalidPackage id => "Migration of " ++ id ++ " failed"
  | failedCapsules failed capsules =>
    Nat.repr failed ++ " of " ++ Nat.repr capsules ++ " capsules failed"

end CommandFailure

/-! ### What is printed -/

namespace ParsedCapsule

def metadataLines (m : Metadata) : List String :=
  [m.name ++ " (" ++ m.id ++ ") v" ++ m.version, "Category: " ++ m.category,
    "Platforms: " ++ ", ".intercalate (m.platforms.map Platform.name)] ++
    if m.dependencies.isEmpty then []
    else ["Dependencies: " ++ ", ".intercalate m.dependencies]

def countLine (name : String) (count : Nat) : String := "  " ++ name ++ ": " ++ Nat.repr count

def declarationLines (a : Analysis) : List String :=
  ["Declarations:", countLine "Types" a.types.length, countLine "Interfaces" a.interfaces.length,
    countLine "Classes" a.classes.length, countLine "Functions" a.functions.length,
    countLine "Constants" a.constants.length, countLine "Error classes" a.errors.length,
    countLine "Imports" a.imports.length, countLine "Exports" a.exports.length]

def fileLine (f : FileMetrics) : String :=
  "    " ++ f.path.text ++ " (" ++ Nat.repr f.lines ++ " lines, complexity " ++
    Nat.repr f.complexity ++ ")"

def complexityLines (files : Nat) (m : Metrics) : List String :=
  ["Complexity:", countLine "Files" files, countLine "Lines of code" m.lines,
    countLine "Cyclomatic complexity" m.complexity,
    "  Maintainability index: " ++ Decimal.fixed 1 m.maintainability,
    "  Estimated migration effort: " ++ Decimal.fixed 1 m.hours ++ "h"] ++ m.files.map fileLine

def summary (c : ParsedCapsule) : List String :=
  metadataLines c.metadata ++ [""] ++ declarationLines c.analysis ++ [""] ++
    complexityLines c.sources.length c.metrics ++
    ["", "Recommended mode: " ++ (Mode.recommended c.metrics.lines c.metrics.complexity).name]

end ParsedCapsule

namespace CodeSize

def text (s : CodeSize) : String := Nat.repr s.lines ++ " in " ++ Nat.repr s.files ++ " files"

end CodeSize

namespace MigrationReport

def passedOf (v : Validation) : String :=
  Nat.repr (Validation.passedChecks v.checks) ++ "/" ++ Nat.repr v.checks.length

def warnings (r : MigrationReport) : List String := r.generationWarnings ++ r.validation.warnings

def errors (r : MigrationReport) : List String := r.generationErrors ++ r.validation.errors

def summary (r : MigrationReport) : List String :=
  [r.status.name ++ " " ++ r.id ++ " -> " ++ r.outputDirectory.text, "Mode: " ++ r.mode.name,
    "Lines: " ++ r.before.text ++ " -> " ++ r.after.text,
    "Quality score: " ++ Decimal.fixed 1 r.score ++ " (" ++ passedOf r.validation ++
      " checks passed)",
    "Time: " ++ Hours.text r.time] ++
    r.warnings.map ("  Warning: " ++ ·) ++
    if r.manualActions.isEmpty then []
    else ["Manual actions:"] ++ r.manualActions.map ("  - " ++ ·)

def errorLines (r : MigrationReport) : List String := r.errors.map ("  Error: " ++ ·)

end MigrationReport

namespace BatchReport

def summary (b : BatchReport) : List String :=
  ["", "Batch migration finished", "Capsules: " ++ Nat.repr b.capsules,
    "Successful: " ++ Nat.repr b.successful, "Failed: " ++ Nat.repr b.failed,
    "Average quality score: " ++ Decimal.fixed 1 b.score, "Total time: " ++ Hours.text b.time]

end BatchReport

/-! ### Commands -/

/-- What commands find around them. -/
structure Surroundings where
  /-- the directory of settings that hold for all working directories -/
  settingsDirectory : Option Path
  /-- the time that stands in packages and reports -/
  time : Timestamp
  /-- hours that one migration is taken to last -/
  hours : Float

structure Outcome where
  stdout : List String
  stderr : List String
  result : Except CommandFailure Unit
  deriving Inhabited

namespace Outcome

def failed (e : CommandFailure) : Outcome := ⟨[], [], .error e⟩

def printed (lines : List String) : Outcome := ⟨lines, [], .ok ()⟩

end Outcome

namespace Settings

/-- Files in the working directory that settings are looked for in. -/
def usualFiles : List Path :=
  [⟨".capsule-migrate.yaml"⟩, ⟨".capsule-migrate.yml"⟩, ⟨"capsule-migrate.yaml"⟩]

/-- The file of the settings that hold for all working directories. -/
def sharedFile (directory : Path) : Path := (directory.child "capsule-migrate").child "config.yaml"

/-- Where settings may be if nothing is said. -/
def places (s : Surroundings) : List Path :=
  usualFiles ++ (s.settingsDirectory.map sharedFile).toList

/-- The file with the settings: the one that is named, or the first one that is there. -/
def locate (s : Surroundings) (d : Disk) : Option Path → Except CommandFailure (Option Path)
  | some path => if d.isFile path then .ok (some path) else .error (.settingsNotFound path)
  | none => .ok ((places s).find? d.isFile)

/-- Settings from their file, or the standard ones where there is none. -/
def load (s : Surroundings) (d : Disk) (named : Option Path) : Except CommandFailure Settings := do
  match ← locate s d named with
  | some path => (read d path).mapError .settings
  | none => .ok standard

/-- Settings changed by what a command says. -/
def override (s : Settings) (o : Overrides) : Settings :=
  { s with
    generation := ⟨o.mode.getD s.generation.mode, s.generation.format && !o.noFormat⟩
    output := o.output.getD s.output }

def overrideBatch (s : Settings) (o : Overrides) (parallel : Option Nat) (stopOnError : Bool) :
    Settings :=
  { s.override o with
    batch := ⟨parallel.getD s.batch.parallel, s.batch.stopOnError || stopOnError,
      s.batch.saveReports && !o.noReport⟩ }

def provider (s : Settings) (launcher : Provider.Launcher) : Provider :=
  match s.validation.diagnostics with
  | .syntaxOnly => .syntaxOnly
  | .compiler => .compiler ⟨s.validation.compilerPath, launcher⟩

def tools (s : Settings) (launcher : Provider.Launcher) (around : Surroundings) : Tools where
  sources := s.sources
  formatter := if s.generation.format then some Formatter.whitespace else none
  provider := s.provider launcher
  time := around.time
  hours := around.hours

end Settings

namespace Command

def runInit (d : Disk) (output : Path) (force : Bool) : Disk × Outcome :=
  if d.exists output && !force then (d, .failed (.alreadyExists output))
  else match Settings.standard.write d output with
    | .error e => (d, .failed (.unwritable e))
    | .ok d' => (d', .printed ["Configuration file created: " ++ output.text,
        "Edit it to change the migration mode, batch width or diagnostics."])

def runAnalyze (around : Surroundings) (d : Disk) (input : Path) (asJson : Bool)
    (settings : Option Path) : Outcome :=
  let parsed := do
    let s ← Settings.load around d settings
    (ParsedCapsule.ofDirectory s.sources d input).mapError fun e => .migration (.parse e)
  match parsed with
  | .error e => .failed e
  | .ok c => .printed (if asJson then [c.toJson.pretty 0] else c.summary)

/-- The settings of a migration, which have to be usable. -/
def settingsFor (around : Surroundings) (d : Disk) (o : Overrides)
    (change : Settings → Settings) : Except CommandFailure Settings := do
  let s ← Settings.load around d o.settings
  (change s).check.mapError .settings
  return change s

/-- How a migration with a report ended. -/
def verdict (r : MigrationReport) : Except CommandFailure Unit :=
  if r.isFailed then .error (.invalidPackage r.id) else .ok ()

/-- Save the report of a migration, if that is wanted, and print where. -/
def finishMigration (d : Disk) (r : MigrationReport) (output : Path) (noReport : Bool) :
    Disk × Outcome :=
  if noReport then (d, ⟨r.summary, r.errorLines, verdict r⟩)
  else match r.save d output with
    | (d', .error e) => (d', ⟨r.summary, r.errorLines, .error (.unsaved e)⟩)
    | (d', .ok written) =>
      let lines := written.map fun path => "Report: " ++ path.text
      (d', ⟨r.summary ++ lines, r.errorLines, verdict r⟩)

def runMigrate (launcher : Provider.Launcher) (around : Surroundings) (d : Disk) (input : Path)
    (o : Overrides) : Disk × Outcome :=
  match settingsFor around d o (Settings.override · o) with
  | .error e => (d, .failed e)
  | .ok s =>
    match (s.tools launcher around).migrate d input s.output s.generation.mode with
    | (d', .error e) => (d', .failed (.migration e))
    | (d', .ok r) => finishMigration d' r s.output o.noReport

/-- How a batch with a report ended. -/
def batchVerdict (b : BatchReport) : Except CommandFailure Unit :=
  if b.hasFailures then .error (.failedCapsules b.failed b.capsules) else .ok ()

def batchOf (s : Settings) (capsules : List Path) : Batch where
  capsules := capsules
  output := s.output
  parallel := s.batch.parallel
  mode := s.generation.mode
  stopOnError := s.batch.stopOnError
  saveReports := s.batch.saveReports

/-- What a batch printed, with its totals after it if it came to its end. -/
def batchOutcome (s : Settings) (f : Batch.Finished) : Outcome :=
  match f.result with
  | .error e => ⟨f.stdout, f.stderr, .error (.migration e)⟩
  | .ok b =>
    let saved :=
      if s.batch.saveReports then ["Reports: " ++ (Saving.directory s.output).text] else []
    ⟨f.stdout ++ b.summary ++ saved, f.stderr, batchVerdict b⟩

def capsulesIn (s : Settings) (d : Disk) (input : Path) : Except CommandFailure (List Path) :=
  match s.sources.capsules d input with
  | none => .error (.notADirectory input)
  | some [] => .error (.noCapsules input)
  | some capsules => .ok capsules

def runBatch (launcher : Provider.Launcher) (around : Surroundings) (d : Disk) (input : Path)
    (o : Overrides) (parallel : Option Nat) (stopOnError : Bool) : Disk × Outcome :=
  let ready := do
    let s ← settingsFor around d o (Settings.overrideBatch · o parallel stopOnError)
    return (s, ← capsulesIn s d input)
  match ready with
  | .error e => (d, .failed e)
  | .ok (s, capsules) =>
    let (d', finished) := (batchOf s capsules).run (s.tools launcher around) d
    (d', batchOutcome s finished)

/-- The file that a command takes its settings from, if it names one. -/
def settingsFile : Command → Option Path
  | overview | init _ _ => none
  | analyze _ _ settings => settings
  | migrate _ o | batch _ o _ _ => o.settings

/-- What a command reads and writes under some settings, apart from the settings themselves. -/
def paths (s : Settings) : Command → List Path
  | overview => []
  | init output _ => [output]
  | analyze input _ _ => [input]
  | migrate input o | batch input o _ _ =>
    [input, (s.override o).output] ++ s.validation.compilerPath.toList

/-- Run a command with a way to start programs. -/
def runWith (launcher : Provider.Launcher) (around : Surroundings) (d : Disk) :
    Command → Disk × Outcome
  | overview => (d, .printed Help.overview)
  | init output force => runInit d output force
  | analyze input asJson settings => (d, runAnalyze around d input asJson settings)
  | migrate input o => runMigrate launcher around d input o
  | batch input o parallel stopOnError => runBatch launcher around d input o parallel stopOnError

/-- Run a command where no program can be started. -/
def run (around : Surroundings) (d : Disk) : Command → Disk × Outcome :=
  runWith Provider.Compiler.refuse around d

end Command
end ServiceCapsule
