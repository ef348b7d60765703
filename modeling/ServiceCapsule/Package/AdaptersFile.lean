import ServiceCapsule.Capsule.Manifest
import ServiceCapsule.Package.Draft

/-!
# The file of adapters

A capsule for one platform says which one it is; a capsule for several platforms has an adapter for
each of them and picks the first one that fits. A platform has its capabilities, and running code can
tell where it runs.
-/

namespace ServiceCapsule

/-! ### What platforms offer -/

structure Capabilities where
  fileSystem : Bool
  network : Bool
  consoleColors : Bool
  localStorage : Bool
  processEnv : Bool
  deriving DecidableEq, Repr

namespace Capabilities

def wordOf (b : Bool) : String := if b then "true" else "false"

/-- The fields of the object that stands for the capabilities in generated code. -/
def fieldLines (c : Capabilities) : List String :=
  ["supportsFileSystem: " ++ wordOf c.fileSystem ++ ",",
   "supportsNetwork: " ++ wordOf c.network ++ ",",
   "supportsConsoleColors: " ++ wordOf c.consoleColors ++ ",",
   "supportsLocalStorage: " ++ wordOf c.localStorage ++ ",",
   "supportsProcessEnv: " ++ wordOf c.processEnv ++ ","]

/-- That object, all but its first line indented. -/
def literal (c : Capabilities) (indent : String) : String :=
  let fields := c.fieldLines.map fun line => indent ++ "  " ++ line ++ "\n"
  "\x7b\n" ++ String.join fields ++ indent ++ "\x7d"

end Capabilities

namespace Platform

def capabilities : Platform → Capabilities
  | node => ⟨true, true, true, false, true⟩
  | web => ⟨false, true, false, true, false⟩
  | universal => ⟨false, false, false, false, false⟩

def adapterClass : Platform → String
  | node => "NodeAdapter"
  | web => "WebAdapter"
  | universal => "UniversalAdapter"

/-- An expression over the global object `g` that holds on the platform. -/
def detection : Platform → String
  | node =>
    "typeof g['process'] === 'object' && g['process'] !== null && typeof (g['process'] as " ++
      "\x7b versions?: \x7b node?: string \x7d \x7d).versions?.node === 'string'"
  | web => "typeof g['window'] === 'object' && typeof g['document'] === 'object'"
  | universal => "true"

/-- Platforms in the order in which adapters are tried; the one that always fits is last. -/
def selectionOrder (ps : List Platform) : List Platform :=
  [node, web].filter ps.contains ++ [universal]

end Platform

/-! ### The file -/

namespace Draft

def globalObject : String := "const g = globalThis as unknown as Record<string, unknown>;"

def adapterTypes : Draft := [.sibling true ["Platform", "PlatformCapabilities"] .types, .gap]

/-- What a capsule for one platform says about it. -/
def singlePlatform (platform : Platform) : Draft :=
  [.declaration true "const" "PLATFORM" [": Platform = " ++ Naming.quote platform.name ++ ";"],
   .gap,
   .declaration true "const" "CAPABILITIES"
    (Code.block ": PlatformCapabilities =" platform.capabilities.fieldLines ";"),
   .gap,
   .comment ["/** True when the current runtime looks like the target platform */"],
   .declaration true "function" "isPlatformSupported" (Code.block "(): boolean"
    [globalObject, "return " ++ platform.detection ++ ";"] ""),
   .gap,
   .declaration true "function" "detectPlatform" (Code.block "(): Platform"
    ["return PLATFORM;"] ""),
   .gap,
   .declaration true "function" "getCapabilities" (Code.block "(): PlatformCapabilities"
    ["return CAPABILITIES;"] "")]

def adapterInterface : Draft :=
  [.declaration true "type" "LogLevel" [" = 'debug' | 'info' | 'warn' | 'error';"],
   .gap,
   .declaration true "interface" "PlatformAdapter" (Code.block ""
    ["readonly platform: Platform;",
     "readonly capabilities: PlatformCapabilities;",
     "isAvailable(): boolean;",
     "now(): number;",
     "log(level: LogLevel, message: string): void;"] "")]

def adapter (platform : Platform) : Draft :=
  let available :=
    if platform = .universal then ["return true;"]
    else [globalObject, "return " ++ platform.detection ++ ";"]
  [.gap,
   .declaration true "class" platform.adapterClass (Code.block " implements PlatformAdapter"
    (["readonly platform: Platform = " ++ Naming.quote platform.name ++ ";"] ++
     Code.block "readonly capabilities: PlatformCapabilities ="
      platform.capabilities.fieldLines ";" ++
     [""] ++ Code.block "isAvailable(): boolean" available "" ++
     [""] ++ Code.block "now(): number" ["return Date.now();"] "" ++
     [""] ++ Code.block "log(level: LogLevel, message: string): void"
      ["console[level](`[$\x7bnew Date().toISOString()\x7d] [" ++ platform.name ++
        "] $\x7bmessage\x7d`);"] "") "")]

/-- How one of the adapters is picked. -/
def adapterSelection (order : List Platform) : Draft :=
  [.gap,
   .comment ["/** Adapters in detection order; the universal fallback is always last */"],
   .declaration false "const" "ADAPTERS"
    ([": ReadonlyArray<() => PlatformAdapter> = ["] ++
     order.map (fun platform => "  () => new " ++ platform.adapterClass ++ "(),") ++ ["];"]),
   .gap,
   .declaration true "function" "selectAdapter"
    (Code.block "(preferred?: Platform): PlatformAdapter"
      (["const adapters = ADAPTERS.map((create) => create());"] ++
       Code.block "if (preferred !== undefined)"
        (["const match = adapters.find((adapter) => adapter.platform === preferred);"] ++
         Code.block "if (match !== undefined)" ["return match;"] "") "" ++
       Code.block "for (const adapter of adapters)"
        (Code.block "if (adapter.isAvailable())" ["return adapter;"] "") "" ++
       ["return new UniversalAdapter();"]) ""),
   .gap,
   .declaration true "function" "detectPlatform" (Code.block "(): Platform"
    ["return selectAdapter().platform;"] ""),
   .gap,
   .declaration true "function" "getCapabilities" (Code.block "(): PlatformCapabilities"
    ["return selectAdapter().capabilities;"] "")]

def multiPlatform (platforms : List Platform) : Draft :=
  let order := Platform.selectionOrder platforms
  adapterInterface ++ order.flatMap adapter ++ adapterSelection order

def adaptersFile (p : Plan) : Except Refusal Draft :=
  .ok (header p "Platform adapters" ++ adapterTypes ++
    if p.isMultiPlatform then multiPlatform p.metadata.platforms
    else singlePlatform p.primaryPlatform)

end Draft
end ServiceCapsule
