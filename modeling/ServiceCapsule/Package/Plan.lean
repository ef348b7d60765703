import ServiceCapsule.Capsule.Parsed
import ServiceCapsule.Package.Admission
import ServiceCapsule.Package.Naming
import ServiceCapsule.Time.Hours

/-!
# Plans

All that is decided before a file of the generated capsule is written: names, kinds of errors,
what is carried over, and what is left for a human to do.
-/

namespace ServiceCapsule

/-- Names that the generated files define, however a capsule is called. -/
def fixedNames : List String :=
  ["Platform", "ServiceState", "OperationResult", "PlatformCapabilities", "CapsuleInfo",
   "ErrorCode", "ErrorContext",
   "CAPSULE_ID", "CAPSULE_NAME", "CAPSULE_VERSION", "CAPSULE_CATEGORY", "SUPPORTED_PLATFORMS",
   "DEFAULT_TIMEOUT_MS", "DEFAULT_RETRY_ATTEMPTS", "DEFAULT_RETRY_DELAY_MS", "DEFAULT_CONFIG",
   "sleep", "withTimeout", "retry", "isPlainObject", "deepMerge", "formatDuration",
   "PLATFORM", "CAPABILITIES", "LogLevel", "PlatformAdapter", "NodeAdapter", "WebAdapter",
   "UniversalAdapter", "selectAdapter", "detectPlatform", "getCapabilities",
   "isPlatformSupported",
   "CAPSULE_METADATA"]

/-- Names that are made of the class name of a capsule. -/
def derivedNames (className : String) : List String :=
  [className ++ "Config", className ++ "Error", "is" ++ className ++ "Error",
   "to" ++ className ++ "Error", className ++ "Service", "create" ++ className,
   "create" ++ className ++ "AndInitialize"]

/-- Names that no declaration of the sources may have. -/
def reservedNames (className : String) (kinds : List ErrorKind) : List String :=
  fixedNames ++ kinds.map ErrorKind.className ++ derivedNames className

structure Plan where
  metadata : Metadata
  className : String
  needs : Needs
  mode : Mode
  metrics : Metrics
  /-- imports of packages -/
  imports : List Import
  preserved : Preserved
  manualActions : List String
  generatedAt : String
  deriving Inhabited

namespace Plan

def placeText (l : Location) : String := "(" ++ l.file.text ++ ":" ++ Nat.repr l.line ++ ")"

def actionsOfMode (mode : Mode) (p : Preserved) : List String :=
  match mode with
  | .auto => []
  | .semi =>
    (if p.functions.isEmpty && p.classes.isEmpty then []
      else ["Review " ++ Nat.repr p.functions.length ++ " preserved function(s) and " ++
        Nat.repr p.classes.length ++ " class(es) in utils.ts for platform-specific behavior"]) ++
      ["Wire original business logic into the service execute() operation"]
  | .manual =>
    p.functions.map (fun f => "Port function " ++ f.name ++ " " ++ placeText f.location) ++
      p.classes.map (fun c => "Port class " ++ c.name ++ " " ++ placeText c.location) ++
      p.vars.map (fun v => "Port module state " ++ v.name ++ " " ++ placeText v.location) ++
      ["Implement the service lifecycle against the original capsule behavior"]

/-- What is left to do because of databases, the network and complexity. -/
def actionsOfNeeds (mode : Mode) (needs : Needs) (complexity : Nat) : List String :=
  if mode = .auto then []
  else
    (if needs.database then
      ["Verify database connection handling and map driver errors to DatabaseError"] else []) ++
    (if needs.network then ["Map network failures to NetworkError and TimeoutError"] else []) ++
    (if Mode.semiComplexity < complexity then
      ["Split high-complexity logic (cyclomatic complexity " ++ Nat.repr complexity ++ ")"]
      else [])

def actionOfSkipped (s : Skipped) : String :=
  "Resolve skipped declaration " ++ s.name ++ " (" ++ s.reason.message ++ ")"

def ofCapsule (c : ParsedCapsule) (mode : Mode) (time : Timestamp) : Plan :=
  let needs := Needs.ofImports c.analysis.imports
  let className := Naming.className c.metadata.id
  let preserved := Preserved.ofAnalysis (reservedNames className (ErrorKind.all needs)) c.analysis
  { metadata := c.metadata
    className := className
    needs := needs
    mode := mode
    metrics := c.metrics
    imports := c.analysis.imports.filter fun i => !i.isRelative
    preserved := preserved
    manualActions := actionsOfMode mode preserved ++
      actionsOfNeeds mode needs c.metrics.complexity ++ preserved.skipped.map actionOfSkipped
    generatedAt := time.textInSeconds }

def errorKinds (p : Plan) : List ErrorKind := ErrorKind.all p.needs

def packageName (p : Plan) : String := Naming.packageName p.metadata.id

def isMultiPlatform (p : Plan) : Bool := p.metadata.isMultiPlatform

def primaryPlatform (p : Plan) : Platform := p.metadata.platforms.head?.getD .universal

def serviceName (p : Plan) : String := p.className ++ "Service"

def baseErrorName (p : Plan) : String := p.className ++ "Error"

def configName (p : Plan) : String := p.className ++ "Config"

/-- Whether functions, classes and state are carried over as code. -/
def carriesCode (p : Plan) : Bool := p.mode != .manual

end Plan
end ServiceCapsule
