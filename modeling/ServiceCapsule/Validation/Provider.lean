import ServiceCapsule.Files.Disk
import ServiceCapsule.Text.Quoted
import ServiceCapsule.Validation.Diagnostic

/-!
# Where diagnostics come from

A provider makes diagnostics for the files of a directory, or says why it cannot. One of them only
looks at syntax, another one asks a compiler.
-/

namespace ServiceCapsule

inductive DiagnosticsError where
  | compilerNotFound (reason : String)
  | launch (program : Path) (cause : FileError)
  | read (path : Path) (cause : FileError)
  | task (reason : String)
  deriving DecidableEq, Repr, Inhabited

def DiagnosticsError.message : DiagnosticsError → String
  | compilerNotFound reason => "TypeScript compiler not found: " ++ reason
  | launch program cause =>
    "Failed to launch " ++ Text.quoted program.text ++ ": " ++ cause.message
  | read path cause => "Failed to read " ++ Text.quoted path.text ++ ": " ++ cause.message
  | task reason => "Diagnostics task failed: " ++ reason

structure Provider where
  name : String
  /-- diagnostics for files of a directory, given by their names in it -/
  diagnose : Disk → Path → List String → Except DiagnosticsError (List Diagnostic)

namespace Provider

def readAll (d : Disk) (dir : Path) :
    List String → Except DiagnosticsError (List (String × String))
  | [] => .ok []
  | name :: names =>
    let path := dir.child name
    match d.read path with
    | .error e => .error (.read path e)
    | .ok source => (readAll d dir names).map ((name, source) :: ·)

/-- Diagnostics about syntax only. -/
def syntaxOnly : Provider where
  name := "syntax"
  diagnose d dir names :=
    (readAll d dir names).map fun sources =>
      sources.flatMap fun (name, source) => Diagnostic.ofSource ⟨name⟩ source

/-- How programs are found and started. -/
structure Launcher where
  /-- where a program with a name is, or why there is none -/
  find : Disk → String → Except String Path
  /-- start a program in a directory with arguments; it prints to two streams -/
  launch : Disk → Path → Path → List String → Except FileError (String × String)

/-- A compiler, at a path of its own or wherever its name is found. -/
structure Compiler where
  path : Option Path
  launcher : Launcher

namespace Compiler

/-- The program to start. -/
def locate (c : Compiler) (d : Disk) : Except DiagnosticsError Path :=
  match c.path with
  | some path =>
    if d.isFile path then .ok path
    else .error (.compilerNotFound (path.text ++ " does not exist"))
  | none => (c.launcher.find d "tsc").mapError .compilerNotFound

/-- Check strictly and write nothing. -/
def flags : List String :=
  ["--noEmit", "--strict", "--target", "ES2020", "--module", "ESNext", "--moduleResolution", "node",
    "--skipLibCheck", "--pretty", "false", "--lib"]

def libraries : String := "ES2020,DOM"

def arguments (names : List String) : List String := flags ++ libraries :: names

/-- No program is found by its name, and what is on the disk may not be started. -/
def refuse : Launcher where
  find _ _ := .error "cannot find binary path"
  launch d dir program _ :=
    if d.isFile (dir.join program) then .error .permissionDenied else .error .notFound

end Compiler

/-- Diagnostics of a compiler, from all that it prints. -/
def compiler (c : Compiler) : Provider where
  name := "tsc"
  diagnose d dir names := do
    let program ← c.locate d
    match c.launcher.launch d dir program (Compiler.arguments names) with
    | .ok (stdout, stderr) => .ok (Diagnostic.ofCompilerOutput (stdout ++ stderr))
    | .error e => .error (.launch program e)

end Provider
end ServiceCapsule
