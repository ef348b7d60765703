import ServiceCapsule.Package.Plan
import ServiceCapsule.Text.Basic

/-!
# Drafts of files

A file is drafted as a list of items: what it imports, declares, carries over and remarks. Its text
is made of the lines of its items; a name or a piece of carried code that stands in a line may
itself have line breaks. Carried code brings along the imports that it needs: those of packages as
they stand in the sources, and those of names that another file of the capsule now defines.
-/

namespace ServiceCapsule

/-! ### Items -/

namespace Code

def indented (lines : List String) : List String :=
  lines.map fun line => if line.isEmpty then line else "  " ++ line

/-- Lines in braces after a head, and what follows the closing brace. -/
def block (head : String) (body : List String) (tail : String) : List String :=
  (head ++ " \x7b") :: indented body ++ ["\x7d" ++ tail]

/-- Blocks each of which starts where the one before it ends. -/
def chain (head : String) (body : List String) : List (String × List String) → List String
  | [] => block head body ""
  | (next, nextBody) :: rest =>
    (head ++ " \x7b") :: indented body ++ chain ("\x7d " ++ next) nextBody rest

/-- Put a text in front of the first line. -/
def lead (start : String) : List String → List String
  | [] => [start]
  | line :: rest => (start ++ line) :: rest

end Code

inductive Item where
  /-- an empty line -/
  | gap
  /-- lines that declare nothing -/
  | plain (lines : List String)
  /-- a block comment -/
  | comment (lines : List String)
  /-- a remark in line comments -/
  | note (text : String)
  /-- an import of the sources -/
  | external (i : Import)
  /-- an import from another file of the capsule -/
  | sibling (typeOnly : Bool) (names : List String) (owner : FileKind)
  /-- all exports of another file of the capsule -/
  | reexport (owner : FileKind)
  /-- a declaration of the capsule's own -/
  | declaration (isExported : Bool) (keyword name : String) (rest : List String)
  /-- a declaration of the sources -/
  | carried (name : String) (docs : List String) (code : String)
  deriving Repr, Inhabited

namespace Item

def nameList (names : List String) : String :=
  " \x7b " ++ ", ".intercalate names ++ " \x7d from '"

def moduleText (owner : FileKind) : String := (owner.modulePath?.getD "") ++ "';"

def lines : Item → List String
  | gap => [""]
  | plain ls => ls
  | comment ls => ls
  | note text => ["// " ++ text]
  | external i => [Text.trim i.sourceText]
  | sibling typeOnly names owner =>
    [(if typeOnly then "import type" else "import") ++ nameList names ++ moduleText owner]
  | reexport owner => ["export * from '" ++ moduleText owner]
  | declaration isExported keyword name rest =>
    Code.lead ((if isExported then "export " else "") ++ keyword ++ " " ++ name) rest
  | carried _ docs code => docs ++ [code]

/-- The name that an item of the capsule's own declares. -/
def declared? : Item → Option String
  | declaration _ _ name _ => some name
  | _ => none

end Item

abbrev Draft := List Item

namespace Draft

def lines (d : Draft) : List String := d.flatMap Item.lines

/-- The text of a draft: each line ends in a newline. -/
def text (d : Draft) : String := String.join (d.lines.map (· ++ "\n"))

@[simp] theorem lines_append (d e : Draft) : lines (d ++ e) = lines d ++ lines e :=
  List.flatMap_append

/-- The names that a draft declares of its own. -/
def declared (d : Draft) : List String := d.filterMap Item.declared?

@[simp] theorem declared_append (d e : Draft) : declared (d ++ e) = declared d ++ declared e :=
  List.filterMap_append

/-- The comment at the top of a file; it does not depend on the time. -/
def header (p : Plan) (title : String) : Draft :=
  [.comment ["/**", " * " ++ p.metadata.name ++ " - " ++ title, " *",
    " * Capsule " ++ p.metadata.id ++ " v" ++ p.metadata.version ++ " (" ++ p.mode.name ++
      " migration)", " */"], .gap]

/-- Keep the end of a comment out of a text: a blank goes between star and slash. -/
def openEnds : List Char → List Char
  | [] => []
  | '*' :: '/' :: rest => '*' :: ' ' :: '/' :: openEnds rest
  | c :: rest => c :: openEnds rest

def withoutEnds (s : String) : String := String.ofList (openEnds s.toList)

/-- Documentation as a block comment: one line stays on the line of the comment marks. -/
def docComment (indent : String) : Option String → List String
  | none => []
  | some docs =>
    match Text.lines docs with
    | [line] => [indent ++ "/** " ++ withoutEnds line ++ " */"]
    | ls =>
      (indent ++ "/**") :: ls.map (fun line => indent ++ " * " ++ withoutEnds line) ++
        [indent ++ " */"]

/-- Code with the keyword for export in front, unless it is there. -/
def exportedCode (code : String) : String :=
  let trimmed := Text.trim code
  if Text.startsWith trimmed "export " then trimmed else "export " ++ trimmed

def remarks (p : Plan) (target : FileKind) : Draft :=
  match p.preserved.skippedFor target with
  | [] => []
  | skipped =>
    .gap :: skipped.map (fun s =>
      .note ("Skipped original declaration " ++ s.name ++ ": " ++ s.reason.message)) ++ [.gap]

/-- Why a file cannot be drafted: a name in it would be no identifier. -/
structure Refusal where
  name : String
  role : String
  deriving DecidableEq, Repr

def Refusal.message (r : Refusal) : String :=
  "'" ++ r.name ++ "' is not a valid identifier for the " ++ r.role

def requireIdentifier (name role : String) : Except Refusal Unit :=
  if Naming.isIdentifier name then .ok () else .error ⟨name, role⟩

end Draft

/-! ### Imports -/

namespace Import

/-- The local names that an import binds. -/
def bindings (i : Import) : List String := i.defaultName.toList ++ i.namespaceName.toList ++ i.named

end Import

namespace Draft

/-- Imports that bind a name in use which no import before them binds. -/
def neededImports (tokens bound : List String) : List Import → List Import
  | [] => []
  | i :: rest =>
    let used := i.bindings.filter tokens.contains
    if used.any (fun name => !bound.contains name) then
      i :: neededImports tokens (used ++ bound) rest
    else neededImports tokens bound rest

def externals (p : Plan) (tokens : List String) : Draft :=
  (neededImports tokens [] p.imports).map .external

/-- A name that a file of the capsule exports and others may import. -/
structure Importable where
  name : String
  owner : FileKind
  /-- whether it is there when the code runs -/
  isValue : Bool
  deriving DecidableEq, Repr

/-- The names of carried declarations, and those of the error classes. -/
def importables (p : Plan) : List Importable :=
  p.preserved.types.map (fun t => ⟨t.name, .types, t.isEnum⟩) ++
    p.preserved.interfaces.map (fun i => ⟨i.name, .types, false⟩) ++
    [⟨p.baseErrorName, .errors, true⟩] ++
    p.errorKinds.map (fun k => ⟨k.className, .errors, true⟩) ++
    p.preserved.errors.map (fun e => ⟨e.name, .errors, true⟩) ++
    p.preserved.constants.map (fun c => ⟨c.name, .constants, true⟩) ++
    (if p.carriesCode then
      p.preserved.functions.map (fun f => ⟨f.name, .utils, true⟩) ++
        p.preserved.classes.map (fun c => ⟨c.name, .utils, true⟩)
      else [])

/-- Imports from one file. Where types are all that is used, everything is imported as a type. -/
def importsFrom (target owner : FileKind) (wanted : List Importable) : Draft :=
  let asValue := fun (w : Importable) => w.isValue && target != .types
  let mine := wanted.filter fun w => w.owner == owner && w.owner != target
  let values := Text.sorted ((mine.filter asValue).map (·.name))
  let types := (Text.sorted ((mine.filter (!asValue ·)).map (·.name))).filter (!values.contains ·)
  (if types.isEmpty then [] else [.sibling true types owner]) ++
    (if values.isEmpty then [] else [.sibling false values owner])

def siblings (target : FileKind) (wanted : List Importable) : Draft :=
  (FileKind.all.filter (·.modulePath?.isSome)).flatMap fun owner =>
    importsFrom target owner wanted

/-- The importable names among these tokens. -/
def referenced (p : Plan) (tokens : List String) : List Importable :=
  (importables p).filter fun w => tokens.contains w.name

/-- All imports of a file, with an empty line after them if there are any. -/
def importBlock (p : Plan) (target : FileKind) (tokens : List String) : Draft :=
  match externals p tokens ++ siblings target (referenced p tokens) with
  | [] => []
  | imports => imports ++ [.gap]

end Draft
end ServiceCapsule
