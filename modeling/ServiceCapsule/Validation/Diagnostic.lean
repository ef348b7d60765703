import ServiceCapsule.Files.Path
import ServiceCapsule.Text.Basic
import ServiceCapsule.Text.Pattern
import ServiceCapsule.TypeScript.Program

/-!
# Diagnostics

What is wrong with a source. Each outermost fault of a syntax tree is a diagnostic. The output of a
compiler has one in a line, with the file, the place, a code and a message; those that only say that
a package is not installed are passed over.
-/

namespace ServiceCapsule

/-! ### Output of a compiler -/

structure Diagnostic where
  message : String
  file : Path
  line : Nat
  deriving DecidableEq, Repr, Inhabited

namespace Diagnostic

def shown (d : Diagnostic) : String :=
  d.file.text ++ ":" ++ Nat.repr d.line ++ ": " ++ d.message

/-- Codes of diagnostics that are about missing declarations of the surroundings. -/
def environmentCodes : List String := ["TS2580", "TS2591", "TS2592", "TS7016"]

def missingModulePattern : Pattern :=
  .all [.text "Cannot find module '", .group 1 (.oneOrMore (.char (· != '\''))), .text "'"]

/-- Whether a message is about a module that is not a file of the capsule. -/
def missesPackage (message : String) : Bool :=
  match missingModulePattern.matchesIn message with
  | groups :: _ => !Text.startsWith ((groups.text 1).getD "") "."
  | [] => false

/-- Diagnostics that say nothing about the code itself. -/
def isEnvironment (code message : String) : Bool :=
  environmentCodes.contains code || (code == "TS2307" && missesPackage message)

def digits : Pattern := .oneOrMore (.char Text.isDecimalDigit)

/-- A line of a compiler: file, line, column, code, message. -/
def linePattern : Pattern :=
  let any := Pattern.char (· != '\n')
  .all [.lineStart, .group 1 (.seq any (.few any)), .text "(", .group 2 digits, .text ",",
    .group 3 digits, .text "):", .blanks, .text "error", .oneBlank,
    .group 4 (.seq (.text "TS") digits), .text ":", .blanks, .group 5 (.many any), .lineEnd]

def lineNumber (s : String) : Nat :=
  let cs := s.toList
  if cs.isEmpty || !cs.all Char.isDigit then 0
  else
    let n := Text.digitsValue cs
    if n < UInt64.size then n else 0

def ofGroups (groups : Pattern.Groups) : Option Diagnostic :=
  let part := fun i => (groups.text i).getD ""
  if isEnvironment (part 4) (part 5) then none
  else some ⟨part 4 ++ ": " ++ Text.trim (part 5), ⟨Text.trim (part 1)⟩, lineNumber (part 2)⟩

/-- The diagnostics in the output of a compiler. -/
def ofCompilerOutput (output : String) : List Diagnostic :=
  (linePattern.matchesIn output).filterMap ofGroups

/-! ### Faults of syntax -/

open TypeScript

def shortened (most : Nat) (s : String) : String :=
  let cs := s.toList
  if most < cs.length then String.ofList (cs.take most ++ ['.', '.', '.']) else s

def firstLine (s : String) : String := Text.trim ((Text.lines s).head?.getD "")

def faultMessage (source : String) (t : Tree) : String :=
  match t.label with
  | .missing _ token => "missing `" ++ token ++ "`"
  | _ =>
    let text := firstLine (t.text source)
    if text.isEmpty then "syntax error" else "syntax error near `" ++ shortened 40 text ++ "`"

def ofFault (file : Path) (source : String) (t : Tree) : Diagnostic :=
  ⟨faultMessage source t, file, t.span.start.row + 1⟩

/-- The diagnostics of a tree whose nodes are flagged where there is a fault in them. -/
def ofFlagged (flag : Tree → Bool) (file : Path) (source : String) (t : Tree) : List Diagnostic :=
  if flag t then (t.faults flag).map (ofFault file source) else []

def ofTree (file : Path) (source : String) (t : Tree) : List Diagnostic :=
  ofFlagged Tree.hasFault file source t

def ofSource (file : Path) (source : String) : List Diagnostic :=
  ofTree file source (parse source false)

end Diagnostic
end ServiceCapsule
