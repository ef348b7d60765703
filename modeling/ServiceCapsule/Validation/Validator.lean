import ServiceCapsule.Package.Overview
import ServiceCapsule.Validation.Encoding
import ServiceCapsule.Validation.Provider
import ServiceCapsule.Validation.Shape

/-!
# Validation of a directory

A directory is checked for the eight files of a capsule, for diagnostics, and for the shapes of
four of its files. Each check adds its finding; nothing stops the ones after it, except that a
directory has to be there at all.
-/

namespace ServiceCapsule
namespace Validation

/-- What one check adds to a validation. -/
structure Finding where
  check : Check
  errors : List String
  warnings : List String
  diagnostics : List Diagnostic
  deriving Repr

namespace Finding

def pass (name message : String) : Finding := ⟨⟨name, true, message⟩, [], [], []⟩

def fail (name message : String) : Finding := ⟨⟨name, false, message⟩, [message], [], []⟩

def withWarnings (f : Finding) (warnings : List String) : Finding :=
  { f with warnings := f.warnings ++ warnings }

end Finding

def ofFindings (fs : List Finding) : Validation :=
  ofParts (fs.map (·.check)) (fs.flatMap (·.errors)) (fs.flatMap (·.warnings))
    (fs.flatMap (·.diagnostics))

def requiredFiles : List String := FileKind.all.map FileKind.fileName

def missingFiles (d : Disk) (dir : Path) : List String :=
  requiredFiles.filter fun name => !d.isFile (dir.child name)

def presentSources (d : Disk) (dir : Path) : List String :=
  ((FileKind.all.filter FileKind.isSource).map FileKind.fileName).filter fun name =>
    !(missingFiles d dir).contains name

def filesFinding (missing : List String) : Finding :=
  if missing.isEmpty then .pass "required_files" "All 8 required files present"
  else .fail "required_files" ("Missing required files: " ++ ", ".intercalate missing)

/-- As many diagnostics are errors of their own; the rest is one more error. -/
def shownDiagnostics : Nat := 20

def diagnosticErrors (ds : List Diagnostic) : List String :=
  (ds.take shownDiagnostics).map Diagnostic.shown ++
    if shownDiagnostics < ds.length then
      ["... and " ++ Nat.repr (ds.length - shownDiagnostics) ++ " more diagnostics"]
    else []

def diagnosticsFinding (sources : Nat) (ds : List Diagnostic) : Finding :=
  if ds.isEmpty then
    .pass "compile_diagnostics" (Nat.repr sources ++ " files compile without diagnostics")
  else
    ⟨⟨"compile_diagnostics", false, Nat.repr ds.length ++ " compile diagnostics"⟩,
      diagnosticErrors ds, [], ds⟩

def syntaxFinding (d : Disk) (dir : Path) (sources : List String) : Finding :=
  match Provider.syntaxOnly.diagnose d dir sources with
  | .ok ds => diagnosticsFinding sources.length ds
  | .error e => .fail "compile_diagnostics" ("Diagnostics could not run: " ++ e.message)

def fallbackWarning (provider : String) (e : DiagnosticsError) : String :=
  provider ++ " diagnostics unavailable (" ++ e.message ++ "); fell back to syntax diagnostics"

/-- The finding of a provider, or that of the syntax where the provider has none. -/
def compileFinding (p : Provider) (d : Disk) (dir : Path) (sources : List String) : Finding :=
  if sources.isEmpty then .fail "compile_diagnostics" "No TypeScript sources to check"
  else match p.diagnose d dir sources with
    | .ok ds => diagnosticsFinding sources.length ds
    | .error e => (syntaxFinding d dir sources).withWarnings [fallbackWarning p.name e]

/-- A file of errors has to define so many kinds. -/
def leastErrorKinds : Nat := 8

/-- A readme with fewer bytes gets a warning. -/
def leastReadmeBytes : Nat := 200

def errorsFinding : Option String → Finding
  | none => .fail "error_types" "errors.ts not found"
  | some s =>
    let n := Shape.errorKindCount s
    if leastErrorKinds ≤ n then .pass "error_types" (Nat.repr n ++ " error types defined")
    else
      .fail "error_types" ("Only " ++ Nat.repr n ++ " error types defined, at least " ++
        Nat.repr leastErrorKinds ++ " required")

def serviceFinding : Option String → Finding
  | none => .fail "service_lifecycle" "service.ts not found"
  | some s =>
    let shape := Shape.Service.ofText s
    let finding :=
      if shape.isComplete then
        Finding.pass "service_lifecycle" "Service implements initialize/execute/cleanup"
      else if !shape.hasClass then .fail "service_lifecycle" "No service class found"
      else .fail "service_lifecycle" ("Service is missing: " ++ ", ".intercalate shape.missing)
    finding.withWarnings
      (if shape.hasGetState then [] else ["Service has no getState() accessor"])

def indexFinding : Option String → Finding
  | none => .fail "index_exports" "index.ts not found"
  | some s =>
    let shape := Shape.Index.ofText s
    let finding :=
      if !shape.hasWildcard then
        Finding.fail "index_exports" "Index has no `export * from` re-exports"
      else if shape.hasMetadata then
        .pass "index_exports" "Index re-exports modules and metadata"
      else .fail "index_exports" "Index does not export CAPSULE_METADATA"
    finding.withWarnings (if shape.hasDefault then [] else ["Index has no default export"])

def readmeFinding : Option String → Finding
  | none => .fail "readme_sections" "README.md not found"
  | some s =>
    let missing := Shape.missingSections s Draft.readmeSections
    let finding :=
      if missing.isEmpty then
        Finding.pass "readme_sections"
          ("README has all " ++ Nat.repr Draft.readmeSections.length ++ " sections")
      else .fail "readme_sections" ("README is missing sections: " ++ ", ".intercalate missing)
    finding.withWarnings
      (if s.utf8ByteSize < leastReadmeBytes then
        ["README is only " ++ Nat.repr s.utf8ByteSize ++ " bytes (expected at least " ++
          Nat.repr leastReadmeBytes ++ ")"]
      else [])

def readKind (d : Disk) (dir : Path) (k : FileKind) : Option String :=
  (d.read (dir.child k.fileName)).toOption

/-- Validate a directory. -/
def ofDirectory (p : Provider) (d : Disk) (dir : Path) : Validation :=
  if d.isDirectory dir then
    ofFindings
      [.pass "directory_exists" "Capsule directory exists",
       filesFinding (missingFiles d dir),
       compileFinding p d dir (presentSources d dir),
       errorsFinding (readKind d dir .errors),
       serviceFinding (readKind d dir .service),
       indexFinding (readKind d dir .index),
       readmeFinding (readKind d dir .readme)]
  else
    ofFindings
      [.fail "directory_exists" ("Capsule directory " ++ dir.text ++ " does not exist")]

end Validation
end ServiceCapsule
