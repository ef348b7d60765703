import ServiceCapsule.Files.Path
import ServiceCapsule.Text.Basic

/-!
# Declarations of a capsule

Everything that the sources of a capsule declare, import and export at their top level, in flat
lists in the order of the sources.
-/

namespace ServiceCapsule

/-- Where a declaration stands, counted from one. -/
structure Location where
  file : Path
  line : Nat
  column : Nat
  deriving DecidableEq, Repr, Inhabited

structure TypeDeclaration where
  name : String
  exported : Bool
  docs : Option String
  location : Location
  isEnum : Bool
  definition : String
  sourceText : String
  deriving DecidableEq, Repr, Inhabited

structure Member where
  name : String
  typeText : Option String
  isOptional : Bool
  isMethod : Bool
  deriving DecidableEq, Repr, Inhabited

structure InterfaceDeclaration where
  name : String
  exported : Bool
  docs : Option String
  location : Location
  bases : List String
  members : List Member
  sourceText : String
  deriving DecidableEq, Repr, Inhabited

structure Parameter where
  name : String
  typeText : Option String
  isOptional : Bool
  deriving DecidableEq, Repr, Inhabited

structure Method where
  name : String
  parameters : List Parameter
  returnType : Option String
  isAsync : Bool
  isStatic : Bool
  deriving DecidableEq, Repr, Inhabited

structure ClassDeclaration where
  name : String
  exported : Bool
  docs : Option String
  location : Location
  base : Option String
  interfaces : List String
  methods : List Method
  properties : List String
  isAbstract : Bool
  sourceText : String
  deriving DecidableEq, Repr, Inhabited

/-- A function, or a constant that holds one. -/
structure FunctionDeclaration where
  name : String
  exported : Bool
  docs : Option String
  location : Location
  parameters : List Parameter
  returnType : Option String
  isAsync : Bool
  sourceText : String
  deriving DecidableEq, Repr, Inhabited

structure ConstantDeclaration where
  name : String
  exported : Bool
  docs : Option String
  location : Location
  typeText : Option String
  value : String
  deriving DecidableEq, Repr, Inhabited

/-- State of a module: a binding that can be assigned again. -/
structure VariableDeclaration where
  name : String
  exported : Bool
  docs : Option String
  location : Location
  sourceText : String
  deriving DecidableEq, Repr, Inhabited

structure Import where
  source : String
  defaultName : Option String
  namespaceName : Option String
  named : List String
  typeOnly : Bool
  location : Location
  sourceText : String
  deriving DecidableEq, Repr, Inhabited

inductive ExportKind where
  | named
  | default
  | again
  | wildcard
  deriving DecidableEq, Repr, Inhabited

structure Export where
  name : String
  kind : ExportKind
  source : Option String
  location : Location
  deriving DecidableEq, Repr, Inhabited

/-- A class whose base is an error. -/
structure ErrorClass where
  name : String
  base : String
  exported : Bool
  docs : Option String
  location : Location
  sourceText : String
  deriving DecidableEq, Repr, Inhabited

namespace Import

/-- Relative imports mean other files of the capsule. -/
def isRelativeSource (source : String) : Bool :=
  match source.toList.head? with
  | some c => c == '.' || c == '/'
  | none => false

def isRelative (i : Import) : Bool := isRelativeSource i.source

/-- A module specifier without the mark of built-in modules. -/
def withoutScheme (source : String) : String :=
  match source.toList with
  | 'n' :: 'o' :: 'd' :: 'e' :: ':' :: rest => String.ofList rest
  | _ => source

/-- The package of a module specifier: its first part, or the first two where the first is a
scope. -/
def packageOf (source : String) : String :=
  match Text.splitChar '/' (withoutScheme source) with
  | scope :: name :: _ => if scope.toList.head? == some '@' then scope ++ "/" ++ name else scope
  | [name] => name
  | [] => ""

def package (i : Import) : String := packageOf i.source

end Import

structure Analysis where
  types : List TypeDeclaration
  interfaces : List InterfaceDeclaration
  classes : List ClassDeclaration
  functions : List FunctionDeclaration
  constants : List ConstantDeclaration
  vars : List VariableDeclaration
  imports : List Import
  exports : List Export
  errors : List ErrorClass
  deriving DecidableEq, Repr, Inhabited

namespace Analysis

def empty : Analysis := ⟨[], [], [], [], [], [], [], [], []⟩

def append (a b : Analysis) : Analysis :=
  ⟨a.types ++ b.types, a.interfaces ++ b.interfaces, a.classes ++ b.classes,
    a.functions ++ b.functions, a.constants ++ b.constants, a.vars ++ b.vars,
    a.imports ++ b.imports, a.exports ++ b.exports, a.errors ++ b.errors⟩

instance : Append Analysis := ⟨append⟩

@[simp] theorem empty_append (a : Analysis) : empty ++ a = a := by cases a; rfl

theorem append_assoc (a b c : Analysis) : a ++ b ++ c = a ++ (b ++ c) := by
  show append (append a b) c = append a (append b c)
  simp [append]

def concat : List Analysis → Analysis
  | [] => empty
  | a :: as => a ++ concat as

theorem concat_append (as bs : List Analysis) : concat (as ++ bs) = concat as ++ concat bs := by
  induction as with
  | nil => simp [concat]
  | cons a as ih => simp [concat, ih, append_assoc]

def declarationCount (a : Analysis) : Nat :=
  a.types.length + a.interfaces.length + a.classes.length + a.functions.length +
    a.constants.length + a.vars.length

/-- Each element of a list once, where it occurs first. -/
def firstOfEach (names : List String) : List String :=
  names.foldl (fun seen name => if seen.contains name then seen else seen ++ [name]) []

def externalPackages (a : Analysis) : List String :=
  firstOfEach (((a.imports.filter fun i => !i.isRelative).map Import.package).filter (· != ""))

def namesError (s : String) : Bool := Text.containsText s "Error"

/-- The error classes among the classes: the base is named an error, or the base of the base is,
where the base is the first class of its name. -/
def errorClasses (classes : List ClassDeclaration) : List ErrorClass :=
  classes.filterMap fun c => do
    let base ← c.base
    let parent := classes.find? (·.name == base)
    let grandparent := parent.bind ClassDeclaration.base
    if namesError base || grandparent.any namesError then
      some ⟨c.name, base, c.exported, c.docs, c.location, c.sourceText⟩
    else none

end Analysis
end ServiceCapsule
