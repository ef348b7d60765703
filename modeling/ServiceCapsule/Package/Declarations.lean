import ServiceCapsule.Package.Draft

/-!
# The files of types, errors and constants

Types that every capsule shares, and the type aliases, enumerations and interfaces of the sources;
the enumeration of error codes, a base class, a class for each kind of error, and the error classes
of the sources; what a capsule is called, its defaults, and the constants of the sources.
-/

namespace ServiceCapsule

/-! ### Types -/

namespace Draft

/-- The types that every capsule has. -/
def sharedTypes (p : Plan) : Draft :=
  [.declaration true "type" "Platform" [" = 'node' | 'web' | 'universal';"],
   .gap,
   .declaration true "type" "ServiceState"
    [" = 'uninitialized' | 'initializing' | 'ready' | 'executing' | 'error';"],
   .gap,
   .comment ["/** Configuration accepted by the " ++ p.metadata.name ++ " service */"],
   .declaration true "interface" p.configName (Code.block ""
    ["/** Emit debug logging */",
     "debug?: boolean;",
     "/** Operation timeout in milliseconds */",
     "timeout?: number;",
     "/** Retry attempts for failed operations */",
     "retries?: number;",
     "/** Force a platform instead of detecting it */",
     "platform?: Platform;",
     "[key: string]: unknown;"] ""),
   .gap,
   .declaration true "interface" "OperationResult" (Code.block "<T = unknown>"
    ["success: boolean;", "data?: T;", "error?: string;", "duration: number;"] ""),
   .gap,
   .declaration true "interface" "PlatformCapabilities" (Code.block ""
    ["supportsFileSystem: boolean;",
     "supportsNetwork: boolean;",
     "supportsConsoleColors: boolean;",
     "supportsLocalStorage: boolean;",
     "supportsProcessEnv: boolean;"] ""),
   .gap,
   .declaration true "interface" "CapsuleInfo" (Code.block ""
    ["id: string;",
     "name: string;",
     "version: string;",
     "category: string;",
     "platforms: readonly Platform[];"] "")]

def carriedCode (name : String) (docs : Option String) (code : String) : Item :=
  .carried name (docComment "" docs) (exportedCode code)

def carriedTypes (p : Plan) : Draft :=
  if p.preserved.types.isEmpty && p.preserved.interfaces.isEmpty then []
  else
    [.gap, .note "Original type declarations", .gap] ++
      p.preserved.types.flatMap (fun t => [carriedCode t.name t.docs t.sourceText, .gap]) ++
      p.preserved.interfaces.flatMap (fun i => [carriedCode i.name i.docs i.sourceText, .gap])

/-- What could be an identifier in the carried types. -/
def typesTokens (p : Plan) : List String :=
  (p.preserved.types.map (·.sourceText) ++ p.preserved.interfaces.map (·.sourceText)).flatMap
    Naming.identifiers

def typesFile (p : Plan) : Except Refusal Draft := do
  requireIdentifier p.className "capsule class name"
  return header p "Type definitions" ++ importBlock p .types (typesTokens p) ++ sharedTypes p ++
    carriedTypes p ++ remarks p .types

/-! ### Errors -/

def codeEnumeration (p : Plan) : Item :=
  .declaration true "enum" "ErrorCode" (Code.block ""
    (p.errorKinds.map fun k => k.code ++ " = '" ++ k.code ++ "',") "")

def baseErrorClass (p : Plan) : Draft :=
  let base := p.baseErrorName
  [.comment ["/** Base class for every " ++ p.metadata.name ++ " error */"],
   .declaration true "class" base (Code.block " extends Error"
    (["public readonly code: ErrorCode;",
      "public readonly context?: ErrorContext;",
      ""] ++
     Code.block ("constructor(message: string, code: ErrorCode = ErrorCode.UNKNOWN_ERROR, " ++
        "context?: ErrorContext)")
      ["super(message);",
       "this.name = '" ++ base ++ "';",
       "this.code = code;",
       "this.context = context;",
       "Object.setPrototypeOf(this, new.target.prototype);"] "" ++
     [""] ++
     Code.block "toJSON(): Record<string, unknown>"
      ["return \x7b name: this.name, code: this.code, message: this.message, " ++
        "context: this.context \x7d;"] "") "")]

def kindClass (base : String) (k : ErrorKind) : Draft :=
  [.gap,
   .comment ["/** " ++ k.description ++ " */"],
   .declaration true "class" k.className (Code.block (" extends " ++ base)
    (Code.block "constructor(message: string, context?: ErrorContext)"
      ["super(message, ErrorCode." ++ k.code ++ ", context);",
       "this.name = '" ++ k.className ++ "';"] "") "")]

/-- Functions that tell errors of the capsule apart and make them. -/
def errorFunctions (base : String) : Draft :=
  [.gap,
   .declaration true "function" ("is" ++ base)
    (Code.block ("(error: unknown): error is " ++ base)
      ["return error instanceof " ++ base ++ ";"] ""),
   .gap,
   .comment ["/** Wrap anything thrown into the capsule error hierarchy */"],
   .declaration true "function" ("to" ++ base) (Code.block ("(error: unknown): " ++ base)
    (Code.block ("if (error instanceof " ++ base ++ ")") ["return error;"] "" ++
     Code.block "if (error instanceof Error)"
      ["return new " ++ base ++
        "(error.message, ErrorCode.UNKNOWN_ERROR, \x7b cause: error.name \x7d);"] "" ++
     ["return new " ++ base ++ "(String(error), ErrorCode.UNKNOWN_ERROR);"]) "")]

def carriedErrors (p : Plan) : Draft :=
  if p.preserved.errors.isEmpty then []
  else [.gap, .note "Original error classes"] ++
    p.preserved.errors.flatMap fun e => [.gap, carriedCode e.name e.docs e.sourceText]

def errorsTokens (p : Plan) : List String :=
  (p.preserved.errors.map (·.sourceText)).flatMap Naming.identifiers

def sharedErrors (p : Plan) : Draft :=
  [codeEnumeration p, .gap,
   .declaration true "type" "ErrorContext" [" = Record<string, unknown>;"], .gap] ++
    baseErrorClass p ++ p.errorKinds.flatMap (kindClass p.baseErrorName) ++
    errorFunctions p.baseErrorName

def errorsFile (p : Plan) : Except Refusal Draft := do
  requireIdentifier p.baseErrorName "base error class"
  return header p "Error definitions" ++ importBlock p .errors (errorsTokens p) ++
    sharedErrors p ++ carriedErrors p ++ remarks p .errors

/-! ### Constants -/

def sharedConstants (p : Plan) : Draft :=
  let m := p.metadata
  let own := fun (name value : String) =>
    Item.declaration true "const" name [" = " ++ value ++ ";"]
  [own "CAPSULE_ID" (Naming.quote m.id),
   own "CAPSULE_NAME" (Naming.quote m.name),
   own "CAPSULE_VERSION" (Naming.quote m.version),
   own "CAPSULE_CATEGORY" (Naming.quote m.category),
   .gap,
   .declaration true "const" "SUPPORTED_PLATFORMS"
    [": readonly Platform[] = [" ++ Naming.quoteAll (m.platforms.map (·.name)) ++ "];"],
   .gap,
   own "DEFAULT_TIMEOUT_MS" "30000",
   own "DEFAULT_RETRY_ATTEMPTS" "3",
   own "DEFAULT_RETRY_DELAY_MS" "100",
   .gap,
   .declaration true "const" "DEFAULT_CONFIG" (Code.block " ="
    ["debug: false,", "timeout: DEFAULT_TIMEOUT_MS,", "retries: DEFAULT_RETRY_ATTEMPTS,"] ";")]

/-- A constant of the sources, which is exported whether it was or not. -/
def carriedConstant (c : ConstantDeclaration) : Item :=
  let typed := match c.typeText with
    | some t => ": " ++ t
    | none => ""
  .carried c.name (docComment "" c.docs)
    ("export const " ++ c.name ++ typed ++ " = " ++ c.value ++ ";")

def carriedConstants (p : Plan) : Draft :=
  if p.preserved.constants.isEmpty then []
  else [.gap, .note "Original constants", .gap] ++ p.preserved.constants.map carriedConstant

def constantsTokens (p : Plan) : List String :=
  p.preserved.constants.flatMap fun c => (c.typeText.toList ++ [c.value]).flatMap
    Naming.identifiers

def constantsImports (p : Plan) : Draft :=
  let tokens := constantsTokens p
  externals p tokens ++
    siblings .constants (referenced p tokens ++ [⟨"Platform", .types, false⟩]) ++ [.gap]

def constantsFile (p : Plan) : Except Refusal Draft :=
  .ok (header p "Constants" ++ constantsImports p ++ sharedConstants p ++ carriedConstants p ++
    remarks p .constants)

end Draft
end ServiceCapsule
