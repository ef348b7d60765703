import ServiceCapsule.Capsule.Discovery
import ServiceCapsule.Capsule.Metrics

/-!
# Settings

What can be set for migrations: which sources are read, how files are generated and checked, how a
batch runs and where its results go. Settings are only used after they were checked.
-/

namespace ServiceCapsule

structure GenerationSettings where
  mode : Mode
  /-- whether generated files are formatted -/
  format : Bool
  deriving DecidableEq, Repr, Inhabited

inductive DiagnosticsKind where
  | syntaxOnly
  | compiler
  deriving DecidableEq, Repr, Inhabited

def DiagnosticsKind.name : DiagnosticsKind → String
  | syntaxOnly => "syntax"
  | compiler => "tsc"

structure ValidationSettings where
  diagnostics : DiagnosticsKind
  /-- the compiler to start, if it is not to be looked for -/
  compilerPath : Option Path
  deriving DecidableEq, Repr, Inhabited

structure BatchSettings where
  /-- how many capsules are migrated at a time -/
  parallel : Nat
  stopOnError : Bool
  saveReports : Bool
  deriving DecidableEq, Repr, Inhabited

structure Settings where
  version : String
  sources : SourceFilter
  generation : GenerationSettings
  validation : ValidationSettings
  batch : BatchSettings
  /-- the directory that capsules are migrated into -/
  output : Path
  deriving DecidableEq, Repr, Inhabited

namespace GenerationSettings

def standard : GenerationSettings := ⟨.auto, true⟩

end GenerationSettings

namespace ValidationSettings

def standard : ValidationSettings := ⟨.compiler, none⟩

end ValidationSettings

namespace BatchSettings

def standard : BatchSettings := ⟨3, false, true⟩

end BatchSettings

inductive SettingsError where
  | unreadable (path : Path)
  | malformed (path : Path)
  | unsupportedVersion (version : String)
  | badPattern (pattern : String) (fault : Glob.Fault)
  | strayCompilerPath
  | noParallelism
  | emptyOutput
  deriving DecidableEq, Repr

def SettingsError.message : SettingsError → String
  | unreadable path => "Failed to read configuration file " ++ Text.quoted path.text
  | malformed path => "Failed to parse configuration file " ++ Text.quoted path.text
  | unsupportedVersion version => "Unsupported configuration version: " ++ version
  | badPattern pattern fault =>
    "Invalid exclude pattern '" ++ pattern ++ "': " ++ fault.message
  | strayCompilerPath => "validation.tsc_path is only used with `diagnostics: tsc`"
  | noParallelism => "batch.parallel must be at least 1"
  | emptyOutput => "Output base path cannot be empty"

namespace Settings

def currentVersion : String := "1.0"

def standard : Settings :=
  ⟨currentVersion, .standard, .standard, .standard, .standard, ⟨"./migrated"⟩⟩

/-- The first of these patterns that is none. -/
def checkPatterns : List String → Except SettingsError Unit
  | [] => .ok ()
  | pattern :: rest =>
    match Glob.parse pattern with
    | .error fault => .error (.badPattern pattern fault)
    | .ok _ => checkPatterns rest

def check (s : Settings) : Except SettingsError Unit := do
  if s.version != currentVersion then .error (.unsupportedVersion s.version)
  checkPatterns s.sources.excludedPatterns
  if s.validation.compilerPath.isSome && s.validation.diagnostics != .compiler then
    .error .strayCompilerPath
  if s.batch.parallel = 0 then .error .noParallelism
  if s.output.text.isEmpty then .error .emptyOutput

theorem check_standard : standard.check = .ok () := rfl

end Settings
end ServiceCapsule
