import ServiceCapsule.Package.Draft

/-!
# The file of the service

The service of a capsule goes from `uninitialized` over `initializing` to `ready`, and between
`ready` and `executing`; cleaning up leads back to the start. A failed operation sets `error`, and
what comes at last sets `ready` again.
-/

namespace ServiceCapsule
namespace Draft

def serviceImports (p : Plan) : Draft :=
  let base := p.baseErrorName
  [.sibling true [p.configName, "OperationResult", "PlatformCapabilities", "ServiceState"] .types,
   .sibling false [base, "ExecutionError", "InitializationError", "to" ++ base] .errors,
   .sibling false ["DEFAULT_CONFIG"] .constants] ++
    (if p.isMultiPlatform then
      [.sibling false ["selectAdapter"] .adapters, .sibling true ["PlatformAdapter"] .adapters]
    else [.sibling false ["getCapabilities"] .adapters]) ++ [.gap]

def serviceFields (p : Plan) : List String :=
  ["private state: ServiceState = 'uninitialized';",
   "private readonly config: " ++ p.configName ++ ";",
   "private lastError?: " ++ p.baseErrorName ++ ";"] ++
    (if p.isMultiPlatform then ["private adapter?: PlatformAdapter;"] else []) ++
    ["private capabilities?: PlatformCapabilities;"]

def serviceConstructor (p : Plan) : List String :=
  Code.block ("constructor(config: " ++ p.configName ++ " = \x7b\x7d)")
    ["this.config = \x7b ...DEFAULT_CONFIG, ...config \x7d;"] ""

/-- A text that cannot end a template literal. -/
def withoutBackticks (s : String) : String :=
  String.ofList (s.toList.map fun c => if c = '\x60' then '\'' else c)

def initializeMethod (p : Plan) : List String :=
  let platformSteps :=
    if p.isMultiPlatform then
      ["this.adapter = selectAdapter(this.config.platform);",
       "this.capabilities = this.adapter.capabilities;"]
    else ["this.capabilities = getCapabilities();"]
  Code.block "async initialize(): Promise<void>"
    (Code.block "if (this.state === 'ready')" ["return;"] "" ++
     Code.block "if (this.state === 'initializing')"
      ["throw new InitializationError('Initialization already in progress');"] "" ++
     ["this.state = 'initializing';"] ++
     Code.chain "try" (platformSteps ++ ["this.state = 'ready';"])
      [("catch (error)",
        ["this.state = 'error';",
         "this.lastError = to" ++ p.baseErrorName ++ "(error);",
         "throw new InitializationError(`Failed to initialize " ++
          withoutBackticks p.metadata.name ++
          ": $\x7bthis.lastError.message\x7d`, \x7b cause: this.lastError.code \x7d);"])]) ""

def executeMethod (p : Plan) : List String :=
  Code.block "async execute<T>(operation: () => Promise<T> | T): Promise<OperationResult<T>>"
    (Code.block "if (this.state !== 'ready')"
      ["throw new ExecutionError(`Cannot execute while service is $\x7bthis.state\x7d`, " ++
        "\x7b state: this.state \x7d);"] "" ++
     ["const started = Date.now();", "this.state = 'executing';"] ++
     Code.chain "try"
      ["const data = await operation();",
       "this.state = 'ready';",
       "return \x7b success: true, data, duration: Date.now() - started \x7d;"]
      [("catch (error)",
        ["this.state = 'error';",
         "this.lastError = to" ++ p.baseErrorName ++ "(error);",
         "throw this.lastError;"]),
       ("finally", ["this.state = 'ready';"])]) ""

def cleanupMethod (p : Plan) : List String :=
  Code.block "async cleanup(): Promise<void>"
    ((if p.isMultiPlatform then ["this.adapter = undefined;"] else []) ++
     ["this.capabilities = undefined;",
      "this.lastError = undefined;",
      "this.state = 'uninitialized';"]) ""

/-- Methods that only tell what the service knows. -/
def accessMethods (p : Plan) : List String :=
  Code.block "getState(): ServiceState" ["return this.state;"] "" ++
   [""] ++ Code.block ("getConfig(): Readonly<" ++ p.configName ++ ">")
    ["return this.config;"] "" ++
   [""] ++ Code.block "getCapabilities(): PlatformCapabilities | undefined"
    ["return this.capabilities;"] "" ++
   [""] ++ Code.block ("getLastError(): " ++ p.baseErrorName ++ " | undefined")
    ["return this.lastError;"] ""

def serviceClass (p : Plan) : Draft :=
  [.comment ["/** Lifecycle-managed entry point for " ++ p.metadata.name ++ " */"],
   .declaration true "class" p.serviceName (Code.block ""
    (serviceFields p ++ [""] ++ serviceConstructor p ++ [""] ++ initializeMethod p ++ [""] ++
     executeMethod p ++ [""] ++ cleanupMethod p ++ [""] ++ accessMethods p) "")]

def serviceFile (p : Plan) : Except Refusal Draft := do
  requireIdentifier p.serviceName "service class"
  return header p "Service" ++ serviceImports p ++ serviceClass p

end Draft
end ServiceCapsule
