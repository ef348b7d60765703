import ServiceCapsule.Package.AdaptersFile
import ServiceCapsule.Package.Declarations
import ServiceCapsule.Package.Overview
import ServiceCapsule.Package.ServiceFile
import ServiceCapsule.Package.UtilsFile
import ServiceCapsule.Text.Lines

/-!
# Layout of a generated capsule

The draft of each of the eight files, and what goes over its text before it is written. The
formatter that is used unless there is another keeps blanks in order: none at the ends of lines, at
most two empty lines in a row, one newline at the end.
-/

namespace ServiceCapsule

/-! ### Formatters -/

structure Formatter where
  name : String
  /-- the new text of a file, by its name and its text -/
  format : String → String → String

namespace Formatter

/-- Lines without blanks at their ends, and no empty line after two empty ones. -/
def collapse (emptySoFar : Nat) : List (List Char) → List (List Char)
  | [] => []
  | line :: rest =>
    match Text.dropEndWhile Text.isBlank line with
    | [] =>
      if emptySoFar < 2 then [] :: collapse (emptySoFar + 1) rest
      else collapse emptySoFar rest
    | kept => kept :: collapse 0 rest

def dropEmptyEnd (ls : List (List Char)) : List (List Char) :=
  (ls.reverse.dropWhile List.isEmpty).reverse

/-- A text with its blanks in order. -/
def tidy (s : String) : String :=
  let ls := dropEmptyEnd (collapse 0 (Text.charLines s.toList))
  "\n".intercalate (ls.map String.ofList) ++ "\n"

def whitespace : Formatter := ⟨"whitespace", fun _ s => tidy s⟩

end Formatter

/-! ### Drafts -/

namespace Draft

def ofKind (p : Plan) : FileKind → Except Refusal Draft
  | .types => typesFile p
  | .errors => errorsFile p
  | .constants => constantsFile p
  | .utils => utilsFile p
  | .adapters => adaptersFile p
  | .service => serviceFile p
  | .index => indexFile p
  | .readme => readmeFile p

/-- The text of one file before it is tidied. -/
def render (p : Plan) (k : FileKind) : Except Refusal String := (ofKind p k).map text

end Draft
end ServiceCapsule
