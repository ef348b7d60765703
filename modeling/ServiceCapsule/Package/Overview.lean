import ServiceCapsule.Decimal.Dyadic
import ServiceCapsule.Package.Draft

/-!
# The index and the readme

The index has everything that a capsule exports, what it says about itself, and functions that make
its service. The readme is what a human reads first, with what is left to do at its end.
-/

namespace ServiceCapsule

/-! ### The index -/

namespace Draft

def indexHeader (p : Plan) : Draft :=
  [.comment ["/**", " * " ++ p.metadata.name, " *",
    " * " ++ withoutEnds p.metadata.description, " *",
    " * @packageDocumentation " ++ p.packageName, " */"], .gap]

def reexports : Draft :=
  (FileKind.all.filter (·.modulePath?.isSome)).map .reexport ++ [.gap]

def indexImports (p : Plan) : Draft :=
  [.sibling false [p.serviceName] .service, .sibling true [p.configName, "Platform"] .types, .gap]

def metadataConstant (p : Plan) : Item :=
  let m := p.metadata
  .declaration true "const" "CAPSULE_METADATA" (Code.block " ="
    ["id: " ++ Naming.quote m.id ++ ",",
     "name: " ++ Naming.quote m.name ++ ",",
     "version: " ++ Naming.quote m.version ++ ",",
     "category: " ++ Naming.quote m.category ++ ",",
     "description: " ++ Naming.quote m.description ++ ",",
     "platforms: [" ++ Naming.quoteAll (m.platforms.map (·.name)) ++ "] as Platform[],",
     "dependencies: [" ++ Naming.quoteAll m.dependencies ++ "],",
     "migrationMode: " ++ Naming.quote p.mode.name ++ ",",
     "generatedAt: " ++ Naming.quote p.generatedAt ++ ","] " as const;")

def factories (p : Plan) : Draft :=
  let service := p.serviceName
  let config := p.configName
  let create := "create" ++ p.className
  [.comment ["/** Create a " ++ service ++ " without initializing it */"],
   .declaration true "function" create
    (Code.block ("(config?: " ++ config ++ "): " ++ service)
      ["return new " ++ service ++ "(config);"] ""),
   .gap,
   .comment ["/** Create a " ++ service ++ " and wait for it to become ready */"],
   .declaration true "async function" (create ++ "AndInitialize")
    (Code.block ("(config?: " ++ config ++ "): Promise<" ++ service ++ ">")
      ["const service = " ++ create ++ "(config);",
       "await service.initialize();",
       "return service;"] ""),
   .gap]

def indexFile (p : Plan) : Except Refusal Draft := do
  requireIdentifier p.className "factory name"
  return indexHeader p ++ reexports ++ indexImports p ++ [metadataConstant p, .gap] ++
    factories p ++ [.plain ["export default " ++ p.serviceName ++ ";"]]

/-! ### The readme -/

def readmeSections : List String := ["## Overview", "## Installation", "## Usage", "## API"]

def ticked (s : String) : String := "`" ++ s ++ "`"

def overview (p : Plan) : List String :=
  let m := p.metadata
  ["## Overview",
   "",
   "| Property | Value |",
   "|----------|-------|",
   "| Capsule ID | " ++ ticked m.id ++ " |",
   "| Category | " ++ m.category ++ " |",
   "| Version | " ++ m.version ++ " |",
   "| Platforms | " ++ ", ".intercalate (m.platforms.map (·.name)) ++ " |",
   "| Migration mode | " ++ p.mode.name ++ " |",
   ""]

def installation (p : Plan) : List String :=
  ["## Installation", "", "```bash", "npm install " ++ p.packageName, "```", ""] ++
    if p.metadata.dependencies.isEmpty then []
    else ["Runtime dependencies:", ""] ++ p.metadata.dependencies.map ("- " ++ ticked ·) ++ [""]

def usage (p : Plan) : List String :=
  let create := "create" ++ p.className ++ "AndInitialize"
  ["## Usage",
   "",
   "```typescript",
   "import \x7b " ++ create ++ " \x7d from '" ++ p.packageName ++ "';",
   "",
   "const service = await " ++ create ++ "(\x7b timeout: 10000 \x7d);",
   "const result = await service.execute(async () => \x7b",
   "  // capsule work",
   "  return true;",
   "\x7d);",
   "await service.cleanup();",
   "```",
   ""]

def methodTable : List String :=
  ["| Method | Description |",
   "|--------|-------------|",
   "| `initialize()` | Move from `uninitialized` to `ready` |",
   "| `execute(operation)` | Run an operation; only allowed while `ready` |",
   "| `cleanup()` | Release resources and return to `uninitialized` |",
   "| `getState()` | Current lifecycle state |",
   ""]

def errorList (p : Plan) : List String :=
  ["### Errors",
   "",
   "Every error extends " ++ ticked p.baseErrorName ++ " and carries an `ErrorCode`.",
   ""] ++
    p.errorKinds.map (fun k =>
      "- " ++ ticked k.className ++ " (" ++ ticked k.code ++ "): " ++ k.description) ++ [""]

def preservedList (p : Plan) : List String :=
  match p.preserved.names with
  | [] => []
  | names => ["### Preserved declarations", ""] ++ names.map ("- " ++ ticked ·) ++ [""]

def programInterface (p : Plan) : List String :=
  ["## API", "", "### " ++ ticked p.serviceName, ""] ++ methodTable ++
    ["### Factories", "", "- " ++ ticked ("create" ++ p.className ++ "(config?)"),
     "- " ++ ticked ("create" ++ p.className ++ "AndInitialize(config?)"), ""] ++
    errorList p ++ preservedList p

def migrationNotes (p : Plan) : List String :=
  ["## Migration Notes",
   "",
   "- Lines of code: " ++ Nat.repr p.metrics.lines,
   "- Cyclomatic complexity: " ++ Nat.repr p.metrics.complexity,
   "- Maintainability index: " ++ Decimal.fixed 1 p.metrics.maintainability,
   "- Estimated migration effort: " ++ Decimal.fixed 1 p.metrics.hours ++ "h",
   ""] ++
    if p.manualActions.isEmpty then ["No manual actions required."]
    else ["Manual actions:", ""] ++ p.manualActions.map ("- [ ] " ++ ·)

def readmeFile (p : Plan) : Except Refusal Draft :=
  .ok [.plain (["# " ++ p.metadata.name, "", p.metadata.description, ""] ++ overview p ++
    installation p ++ usage p ++ programInterface p ++ migrationNotes p)]

end Draft
end ServiceCapsule
