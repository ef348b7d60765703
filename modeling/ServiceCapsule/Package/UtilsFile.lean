import ServiceCapsule.Package.Declarations

/-!
# The file of utilities

Helpers that every capsule has, and the state, functions and classes of the sources. Where a human
does the migration, these are listed in remarks instead.
-/

namespace ServiceCapsule
namespace Draft

def sleepHelper : Item :=
  .declaration true "function" "sleep" (Code.block "(ms: number): Promise<void>"
    ["return new Promise((resolve) => setTimeout(resolve, ms));"] "")

def timeoutHelper : Item :=
  .declaration true "async function" "withTimeout"
    (Code.block "<T>(promise: Promise<T>, ms: number, operation = 'operation'): Promise<T>"
      (["let timer: ReturnType<typeof setTimeout> | undefined;"] ++
       Code.block "const timeout = new Promise<never>((_, reject) =>"
        ["timer = setTimeout(() => reject(new TimeoutError(" ++
          "`$\x7boperation\x7d timed out after $\x7bms\x7dms`, \x7b timeoutMs: ms \x7d)), ms);"]
        ");" ++
       Code.chain "try" ["return await Promise.race([promise, timeout]);"]
        [("finally", Code.block "if (timer !== undefined)" ["clearTimeout(timer);"] "")]) "")

def retryHelper : Item :=
  .declaration true "async function" "retry"
    (["<T>(",
      "  fn: () => Promise<T>,",
      "  attempts: number = DEFAULT_RETRY_ATTEMPTS,",
      "  delayMs: number = DEFAULT_RETRY_DELAY_MS,"] ++
     Code.block "): Promise<T>"
      (["let lastError: unknown;"] ++
       Code.block "for (let attempt = 1; attempt <= attempts; attempt++)"
        (Code.chain "try" ["return await fn();"]
          [("catch (error)",
            ["lastError = error;"] ++
            Code.block "if (attempt < attempts)" ["await sleep(delayMs * attempt);"] "")]) "" ++
       ["throw lastError;"]) "")

def plainObjectHelper : Item :=
  .declaration true "function" "isPlainObject"
    (Code.block "(value: unknown): value is Record<string, unknown>"
      ["return typeof value === 'object' && value !== null && !Array.isArray(value);"] "")

def mergeHelper : Item :=
  .declaration true "function" "deepMerge"
    (Code.block "<T extends Record<string, unknown>>(target: T, source: Partial<T>): T"
      (["const result: Record<string, unknown> = \x7b ...target \x7d;"] ++
       Code.block "for (const [key, value] of Object.entries(source))"
        ["const existing = result[key];",
         "result[key] = isPlainObject(existing) && isPlainObject(value) ? " ++
          "deepMerge(existing, value) : value;"] "" ++
       ["return result as T;"]) "")

def durationHelper : Item :=
  .declaration true "function" "formatDuration" (Code.block "(ms: number): string"
    (Code.block "if (ms < 1000)" ["return `$\x7bms\x7dms`;"] "" ++
     Code.block "if (ms < 60000)" ["return `$\x7b(ms / 1000).toFixed(1)\x7ds`;"] "" ++
     ["return `$\x7bMath.floor(ms / 60000)\x7dm $\x7bMath.round((ms % 60000) / 1000)\x7ds`;"]) "")

def helpers : Draft :=
  [sleepHelper, .gap,
   .comment ["/** Reject with a TimeoutError when `promise` does not settle within `ms` */"],
   timeoutHelper, .gap,
   .comment ["/** Run `fn` until it succeeds, backing off linearly between attempts */"],
   retryHelper, .gap, plainObjectHelper, .gap, mergeHelper, .gap, durationHelper]

/-- State of the sources; it is exported where it was. -/
def carriedVariable (v : VariableDeclaration) : Item :=
  .carried v.name (docComment "" v.docs)
    (if v.exported then exportedCode v.sourceText else Text.trim v.sourceText)

def carriedUtils (p : Plan) : Draft :=
  (if p.preserved.vars.isEmpty then []
    else [.gap, .note "Original module state", .gap] ++
      p.preserved.vars.map carriedVariable) ++
    (if p.preserved.functions.isEmpty && p.preserved.classes.isEmpty then []
      else [.gap, .note "Original functions and classes"]) ++
    p.preserved.functions.flatMap (fun f => [.gap, carriedCode f.name f.docs f.sourceText]) ++
    p.preserved.classes.flatMap (fun c => [.gap, carriedCode c.name c.docs c.sourceText])

def parameterText (p : Parameter) : String :=
  p.name ++ (if p.isOptional then "?" else "") ++
    match p.typeText with
    | some t => ": " ++ t
    | none => ""

def signature (f : FunctionDeclaration) : String :=
  f.name ++ "(" ++ ", ".intercalate (f.parameters.map parameterText) ++ ")" ++
    match f.returnType with
    | some t => ": " ++ t
    | none => ""

def listedUtils (p : Plan) : Draft :=
  if p.preserved.functions.isEmpty && p.preserved.classes.isEmpty &&
      p.preserved.vars.isEmpty then []
  else
    [.gap, .note "Manual migration required; these were not carried over:"] ++
      p.preserved.vars.map (fun v =>
        .note ("  state " ++ Text.trim v.sourceText ++ "  " ++ Plan.placeText v.location)) ++
      p.preserved.functions.map (fun f =>
        .note ("  function " ++ signature f ++ "  " ++ Plan.placeText f.location)) ++
      p.preserved.classes.map (fun c =>
        .note ("  class " ++ c.name ++ " with " ++ Nat.repr c.methods.length ++ " method(s)  " ++
          Plan.placeText c.location))

def utilsTokens (p : Plan) : List String :=
  if p.carriesCode then
    (p.preserved.vars.map (·.sourceText) ++ p.preserved.functions.map (·.sourceText) ++
      p.preserved.classes.map (·.sourceText)).flatMap Naming.identifiers
  else []

def utilsImports (p : Plan) : Draft :=
  let tokens := utilsTokens p
  externals p tokens ++
    siblings .utils (referenced p tokens ++
      [⟨"TimeoutError", .errors, true⟩, ⟨"DEFAULT_RETRY_ATTEMPTS", .constants, true⟩,
       ⟨"DEFAULT_RETRY_DELAY_MS", .constants, true⟩]) ++ [.gap]

def utilsFile (p : Plan) : Except Refusal Draft :=
  .ok (header p "Utilities" ++ utilsImports p ++ helpers ++
    (if p.carriesCode then carriedUtils p else listedUtils p) ++ remarks p .utils)

end Draft
end ServiceCapsule
