import Mathlib.Data.List.Basic
import ServiceCapsule.Package.Plan

/-!
# What becomes of declarations

Every declaration of the sources is carried over or listed among those left out, with one exception:
a class that is no error but has the name of an error class is neither. So nothing is lost exactly
if the classes that have the name of an error class are error classes themselves.
-/

namespace ServiceCapsule

namespace Admission

variable {α : Type}

theorem perm_ofList (reserved : List String) (target : FileKind) (name : α → String)
    (taken : List String) (as : List α) :
    ((ofList reserved target name taken as).kept.map name ++
      (ofList reserved target name taken as).skipped.map (·.name)).Perm (as.map name) := by
  induction as generalizing taken with
  | nil => exact List.Perm.refl _
  | cons a as ih =>
    simp only [ofList]
    split
    · exact List.perm_middle.trans ((ih taken).cons (name a))
    · split
      · exact List.perm_middle.trans ((ih taken).cons (name a))
      · exact (ih (name a :: taken)).cons (name a)

end Admission

namespace Analysis

/-- Whether a class is an error among these classes. -/
def isError (classes : List ClassDeclaration) (c : ClassDeclaration) : Bool :=
  c.base.any fun base => namesError base ||
    ((classes.find? (·.name == base)).bind ClassDeclaration.base).any namesError

def errorClass? (classes : List ClassDeclaration) (c : ClassDeclaration) : Option ErrorClass := do
  let base ← c.base
  let parent := classes.find? (·.name == base)
  let grandparent := parent.bind ClassDeclaration.base
  if namesError base || grandparent.any namesError then
    some ⟨c.name, base, c.exported, c.docs, c.location, c.sourceText⟩
  else none

theorem map_name_errorClass? (classes : List ClassDeclaration) (c : ClassDeclaration) :
    (errorClass? classes c).map (·.name) = if isError classes c then some c.name else none := by
  cases hbase : c.base with
  | none => simp [errorClass?, isError, hbase]
  | some base =>
    simp only [errorClass?, isError, hbase, Option.any_some, Option.bind_eq_bind, Option.bind_some]
    split <;> rfl

theorem map_name_errorClasses (classes : List ClassDeclaration) :
    (errorClasses classes).map (·.name) = (classes.filter (isError classes)).map (·.name) := by
  have hclasses : errorClasses classes = classes.filterMap (errorClass? classes) := rfl
  rw [hclasses, List.map_filterMap, ← List.filterMap_eq_map, List.filterMap_filter]
  simp only [map_name_errorClass?, Function.comp_apply]

def names (a : Analysis) : List String :=
  a.types.map (·.name) ++ a.interfaces.map (·.name) ++ a.classes.map (·.name) ++
    a.functions.map (·.name) ++ a.constants.map (·.name) ++ a.vars.map (·.name)

theorem length_names (a : Analysis) : a.names.length = a.declarationCount := by
  simp only [names, declarationCount, List.length_append, List.length_map]

/-- The classes that are no errors but have the name of an error class. -/
def maskedClasses (a : Analysis) : List ClassDeclaration :=
  a.classes.filter fun c => (a.errors.map (·.name)).contains c.name && !isError a.classes c

end Analysis

namespace Preserved

/-- Error classes, plain classes and the masked ones are together all classes. -/
theorem perm_classes {a : Analysis} (h : a.errors = Analysis.errorClasses a.classes) :
    (a.errors.map (·.name) ++ (plainClasses a).map (·.name) ++
      a.maskedClasses.map (·.name)).Perm (a.classes.map (·.name)) := by
  have hnames : a.errors.map (·.name) =
      (a.classes.filter (Analysis.isError a.classes)).map (·.name) := by
    rw [h, Analysis.map_name_errorClasses]
  have hplain : plainClasses a = (a.classes.filter (fun c => !Analysis.isError a.classes c)).filter
      fun c => !(a.errors.map (·.name)).contains c.name := by
    rw [plainClasses, List.filter_filter]
    apply List.filter_congr
    intro c hc
    -- an error is among the error classes, so what is not among them is no error
    cases herror : Analysis.isError a.classes c with
    | false => simp
    | true =>
      have hmem : c.name ∈ a.errors.map (·.name) := by
        rw [hnames]
        exact List.mem_map_of_mem (List.mem_filter.2 ⟨hc, herror⟩)
      simp [hmem]
  have hmasked : a.maskedClasses = (a.classes.filter (fun c => !Analysis.isError a.classes c)).filter
      fun c => (a.errors.map (·.name)).contains c.name := by
    rw [Analysis.maskedClasses, List.filter_filter]
  have hsplit := List.filter_append_perm (Analysis.isError a.classes) a.classes
  have hrest := List.filter_append_perm
    (fun c : ClassDeclaration => (a.errors.map (·.name)).contains c.name)
    (a.classes.filter fun c => !Analysis.isError a.classes c)
  rw [← hplain, ← hmasked] at hrest
  rw [hnames, ← List.map_append, ← List.map_append, List.append_assoc]
  exact (((List.perm_append_comm.trans hrest).append_left _).trans hsplit).map _

/-- How many declarations are carried over. -/
def count (p : Preserved) : Nat :=
  p.types.length + p.interfaces.length + p.errors.length + p.constants.length + p.vars.length +
    p.functions.length + p.classes.length

theorem length_names (p : Preserved) : p.names.length = p.count := by
  simp only [names, count, List.length_append, List.length_map]

theorem perm_append_append {kept kept' skipped skipped' names names' : List String}
    (h : (kept ++ skipped).Perm names) (h' : (kept' ++ skipped').Perm names') :
    (kept ++ kept' ++ (skipped ++ skipped')).Perm (names ++ names') := by
  have hswap := (List.perm_append_comm_assoc kept' skipped skipped').append_left kept
  rw [← List.append_assoc, ← List.append_assoc kept skipped] at hswap
  exact hswap.trans (h.append h')

theorem perm_ofAnalysis (reserved : List String) (a : Analysis) :
    ((ofAnalysis reserved a).names ++ (ofAnalysis reserved a).skipped.map (·.name)).Perm
      (a.types.map (·.name) ++ a.interfaces.map (·.name) ++ a.errors.map (·.name) ++
        a.constants.map (·.name) ++ a.vars.map (·.name) ++ a.functions.map (·.name) ++
        (plainClasses a).map (·.name)) := by
  simp only [ofAnalysis, names, List.map_append]
  -- one stage for each kind of declarations, in the order of the set of names
  refine perm_append_append (perm_append_append (perm_append_append (perm_append_append
    (perm_append_append (perm_append_append ?_ ?_) ?_) ?_) ?_) ?_) ?_
  all_goals exact Admission.perm_ofList _ _ _ _ _

/-- What is carried over, what is left out and what is masked are together all declarations. -/
theorem perm_names {a : Analysis} (h : a.errors = Analysis.errorClasses a.classes)
    (reserved : List String) :
    ((ofAnalysis reserved a).names ++ (ofAnalysis reserved a).skipped.map (·.name) ++
      a.maskedClasses.map (·.name)).Perm a.names := by
  rw [List.perm_iff_count]
  intro name
  have hseen := (perm_ofAnalysis reserved a).count_eq name
  have hclasses := (perm_classes h).count_eq name
  simp only [Analysis.names, List.count_append] at hseen hclasses ⊢
  omega

theorem count_add_masked {a : Analysis} (h : a.errors = Analysis.errorClasses a.classes)
    (reserved : List String) :
    (ofAnalysis reserved a).count + (ofAnalysis reserved a).skipped.length +
      a.maskedClasses.length = a.declarationCount := by
  have hlength := (perm_names h reserved).length_eq
  simpa only [List.length_append, List.length_map, length_names, Analysis.length_names] using
    hlength

/-- Whatever facts the trees of the sources give, each declaration is carried over, listed among
those left out, or masked by an error class of its name, and only one of these. So nothing is lost
exactly if every class that has the name of an error class is an error class. -/
theorem accounted_ofFacts (root : Path) (manifest : Option Manifest) (paths : List Path)
    (facts : List SourceFacts) (mode : Mode) (time : Timestamp) :
    let c := ParsedCapsule.ofFacts root manifest paths facts
    let p := (Plan.ofCapsule c mode time).preserved
    (p.names ++ p.skipped.map (·.name) ++ c.analysis.maskedClasses.map (·.name)).Perm
        c.analysis.names ∧
      (p.count + p.skipped.length = c.analysis.declarationCount ↔
        ∀ d ∈ c.analysis.classes, d.name ∈ c.analysis.errors.map (·.name) →
          Analysis.isError c.analysis.classes d = true) := by
  intro c p
  have herrors : c.analysis.errors = Analysis.errorClasses c.analysis.classes := rfl
  refine ⟨perm_names herrors _, ?_⟩
  have hcount : p.count + p.skipped.length + c.analysis.maskedClasses.length =
      c.analysis.declarationCount := count_add_masked herrors _
  have hmasked : c.analysis.maskedClasses.length = 0 ↔
      ∀ d ∈ c.analysis.classes, d.name ∈ c.analysis.errors.map (·.name) →
        Analysis.isError c.analysis.classes d = true := by
    rw [List.length_eq_zero_iff, Analysis.maskedClasses, List.filter_eq_nil_iff]
    simp only [Bool.and_eq_true, List.contains_iff_mem, Bool.not_eq_true', not_and,
      Bool.not_eq_false]
  rw [← hmasked]
  omega

section

open TypeScript

def inFirstLine (start stop : Nat) : Span := ⟨⟨start, 0, start⟩, ⟨stop, 0, stop⟩⟩

def leaf (label : Label) (role : Option Role) (start stop : Nat) : Tree :=
  .node label role (inFirstLine start stop) []

def exportedClass (heritage : List Tree) (stop : Nat) : Tree :=
  .node (.kind .program) none ⟨.start, ⟨stop + 1, 1, 0⟩⟩
    [.node (.kind .exportStatement) none (inFirstLine 0 stop)
      [leaf (.token "export") none 0 6,
       .node (.kind .classDeclaration) (some .declaration) (inFirstLine 7 stop)
        ([leaf (.token "class") none 7 12, leaf (.kind .typeIdentifier) (some .name) 13 18] ++
          heritage ++
          [.node (.kind .classBody) (some .body) (inFirstLine (stop - 2) stop)
            [leaf (.token "\x7b") none (stop - 2) (stop - 1),
             leaf (.token "\x7d") none (stop - 1) stop]])]]

/-- An error class and another class of its name, in two sources. -/
def faultCapsule : ParsedCapsule :=
  let error : SourceFile := ⟨⟨"flt/a.ts"⟩, "export class Fault extends Error \x7b\x7d\n"⟩
  let plain : SourceFile := ⟨⟨"flt/b.ts"⟩, "export class Fault \x7b\x7d\n"⟩
  let heritage : Tree := .node (.kind .classHeritage) none (inFirstLine 19 32)
    [.node (.kind .extendsClause) none (inFirstLine 19 32)
      [leaf (.token "extends") none 19 26, leaf (.kind .identifier) (some .value) 27 32]]
  ParsedCapsule.ofFacts ⟨"flt"⟩ none [error.path, plain.path]
    [SourceFacts.ofTree ⟨"flt"⟩ error (exportedClass [heritage] 35),
     SourceFacts.ofTree ⟨"flt"⟩ plain (exportedClass [] 21)]

end

/-- The class that is no error is neither carried over nor listed. -/
theorem not_accounted_faultCapsule :
    faultCapsule.analysis.declarationCount = 2 ∧
      (Plan.ofCapsule faultCapsule .auto default).preserved.names = ["Fault"] ∧
      (Plan.ofCapsule faultCapsule .auto default).preserved.count = 1 ∧
      (Plan.ofCapsule faultCapsule .auto default).preserved.skipped = [] := by
  decide

end Preserved

end ServiceCapsule
