import ServiceCapsule.Package.ErrorKind

/-!
# Which declarations are carried over

Declarations of the sources go into the eight files of a generated capsule under their own names. A
name that the generated files define themselves is reserved, and a name that was given to an earlier
declaration is taken; declarations with such names are left out.
-/

namespace ServiceCapsule

/-! ### Files of a generated capsule -/

inductive FileKind where
  | types
  | errors
  | constants
  | utils
  | adapters
  | service
  | index
  | readme
  deriving DecidableEq, Repr, Inhabited

namespace FileKind

def all : List FileKind := [types, errors, constants, utils, adapters, service, index, readme]

theorem mem_all (k : FileKind) : k ∈ all := by cases k <;> simp [all]

def name : FileKind → String
  | types => "types"
  | errors => "errors"
  | constants => "constants"
  | utils => "utils"
  | adapters => "adapters"
  | service => "service"
  | index => "index"
  | readme => "readme"

def fileName : FileKind → String
  | types => "types.ts"
  | errors => "errors.ts"
  | constants => "constants.ts"
  | utils => "utils.ts"
  | adapters => "adapters.ts"
  | service => "service.ts"
  | index => "index.ts"
  | readme => "README.md"

/-- What other files of the capsule import a file by. -/
def modulePath? : FileKind → Option String
  | types => some "./types"
  | errors => some "./errors"
  | constants => some "./constants"
  | utils => some "./utils"
  | adapters => some "./adapters"
  | service => some "./service"
  | index | readme => none

def isSource : FileKind → Bool
  | readme => false
  | _ => true

def ofName? (s : String) : Option FileKind := all.find? (·.name == s)

end FileKind

/-! ### Admission -/

inductive SkipReason where
  | reserved
  | duplicate
  deriving DecidableEq, Repr, Inhabited

def SkipReason.message : SkipReason → String
  | reserved => "name is reserved by the generated capsule"
  | duplicate => "duplicate declaration name"

/-- A declaration that is left out of a file. -/
structure Skipped where
  name : String
  target : FileKind
  reason : SkipReason
  deriving DecidableEq, Repr, Inhabited

/-- Declarations of one kind that are carried over, those left out, and all names taken so far. -/
structure Admission (α : Type) where
  kept : List α
  skipped : List Skipped
  taken : List String

namespace Admission

variable {α : Type}

/-- Go through declarations of one kind. -/
def ofList (reserved : List String) (target : FileKind) (name : α → String)
    (taken : List String) : List α → Admission α
  | [] => ⟨[], [], taken⟩
  | a :: as =>
    if reserved.contains (name a) then
      let rest := ofList reserved target name taken as
      { rest with skipped := ⟨name a, target, .reserved⟩ :: rest.skipped }
    else if taken.contains (name a) then
      let rest := ofList reserved target name taken as
      { rest with skipped := ⟨name a, target, .duplicate⟩ :: rest.skipped }
    else
      let rest := ofList reserved target name (name a :: taken) as
      { rest with kept := a :: rest.kept }

theorem length_ofList (reserved : List String) (target : FileKind) (name : α → String)
    (taken : List String) (as : List α) :
    (ofList reserved target name taken as).kept.length +
      (ofList reserved target name taken as).skipped.length = as.length := by
  induction as generalizing taken with
  | nil => rfl
  | cons a as ih =>
    simp only [ofList]
    split
    · have := ih taken
      simp only [List.length_cons]
      omega
    · split
      · have := ih taken
        simp only [List.length_cons]
        omega
      · have := ih (name a :: taken)
        simp only [List.length_cons]
        omega

theorem kept_sublist (reserved : List String) (target : FileKind) (name : α → String)
    (taken : List String) (as : List α) :
    (ofList reserved target name taken as).kept.Sublist as := by
  induction as generalizing taken with
  | nil => exact List.Sublist.refl _
  | cons a as ih =>
    simp only [ofList]
    split
    · exact (ih taken).cons a
    · split
      · exact (ih taken).cons a
      · exact (ih _).cons_cons a

end Admission

/-- The declarations that are carried over, and those that are left out. -/
structure Preserved where
  types : List TypeDeclaration
  interfaces : List InterfaceDeclaration
  errors : List ErrorClass
  constants : List ConstantDeclaration
  functions : List FunctionDeclaration
  classes : List ClassDeclaration
  vars : List VariableDeclaration
  skipped : List Skipped
  deriving Repr, Inhabited

namespace Preserved

def plainClasses (a : Analysis) : List ClassDeclaration :=
  a.classes.filter fun c => !(a.errors.map (·.name)).contains c.name

/-- Go through all declarations, kind after kind, with one set of names. -/
def ofAnalysis (reserved : List String) (a : Analysis) : Preserved :=
  let types := Admission.ofList reserved .types TypeDeclaration.name [] a.types
  let interfaces :=
    Admission.ofList reserved .types InterfaceDeclaration.name types.taken a.interfaces
  let errors := Admission.ofList reserved .errors ErrorClass.name interfaces.taken a.errors
  let constants :=
    Admission.ofList reserved .constants ConstantDeclaration.name errors.taken a.constants
  let vars :=
    Admission.ofList reserved .utils VariableDeclaration.name constants.taken a.vars
  let functions :=
    Admission.ofList reserved .utils FunctionDeclaration.name vars.taken a.functions
  let classes :=
    Admission.ofList reserved .utils ClassDeclaration.name functions.taken (plainClasses a)
  { types := types.kept
    interfaces := interfaces.kept
    errors := errors.kept
    constants := constants.kept
    functions := functions.kept
    classes := classes.kept
    vars := vars.kept
    skipped := types.skipped ++ interfaces.skipped ++ errors.skipped ++ constants.skipped ++
      vars.skipped ++ functions.skipped ++ classes.skipped }

def skippedFor (p : Preserved) (target : FileKind) : List Skipped :=
  p.skipped.filter (·.target == target)

def names (p : Preserved) : List String :=
  p.types.map (·.name) ++ p.interfaces.map (·.name) ++ p.errors.map (·.name) ++
    p.constants.map (·.name) ++ p.vars.map (·.name) ++ p.functions.map (·.name) ++
    p.classes.map (·.name)

end Preserved
end ServiceCapsule
