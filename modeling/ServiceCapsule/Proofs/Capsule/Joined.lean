import Mathlib.Data.List.Nodup
import ServiceCapsule.Proofs.Package.Preserved

/-!
# Capsules of joined sources

Every source is analysed on its own, so that the analysis of sources that come after others comes
after theirs, and sizes add up. Error classes are the one thing that is told apart over all sources
together. Where the names of classes are distinct, more sources make more of them errors, and the
order of the sources makes no difference.
-/

namespace ServiceCapsule

namespace Analysis

section

variable {classes more : List ClassDeclaration} {c : ClassDeclaration}

theorem find?_name_eq_some_iff {name : String} (h : (classes.map (·.name)).Nodup) :
    classes.find? (·.name == name) = some c ↔ c ∈ classes ∧ c.name = name := by
  constructor
  · intro hfind
    exact ⟨List.mem_of_find?_eq_some hfind, by simpa using List.find?_some hfind⟩
  · rintro ⟨hc, rfl⟩
    obtain ⟨found, hfound⟩ : ∃ found, classes.find? (·.name == c.name) = some found :=
      Option.isSome_iff_exists.1 (List.find?_isSome.2 ⟨c, hc, by simp⟩)
    have heq : found = c := List.inj_on_of_nodup_map h (List.mem_of_find?_eq_some hfound) hc
      (by simpa using List.find?_some hfound)
    rw [hfound, heq]

/-- What is an error among some classes is an error among more of them. -/
theorem errorClass?_mono (h : (more.map (·.name)).Nodup) (hclasses : classes ⊆ more)
    {e : ErrorClass} (he : errorClass? classes c = some e) : errorClass? more c = some e := by
  cases hbase : c.base with
  | none => simp [errorClass?, hbase] at he
  | some base =>
    simp only [errorClass?, hbase, Option.bind_eq_bind, Option.bind_some] at he ⊢
    split at he
    · rename_i herror
      rw [← he, if_pos]
      simp only [Bool.or_eq_true] at herror ⊢
      refine herror.imp_right fun hgrandparent => ?_
      -- the base was found among the classes, so it is the one that is found among more of them
      cases hparent : classes.find? (·.name == base) with
      | none => simp [hparent] at hgrandparent
      | some parent =>
        have hmem := List.mem_of_find?_eq_some hparent
        have hname : parent.name = base := by simpa using List.find?_some hparent
        rw [(find?_name_eq_some_iff h).2 ⟨hclasses hmem, hname⟩]
        rwa [hparent] at hgrandparent
    · simp at he

theorem errorClasses_eq (classes : List ClassDeclaration) :
    errorClasses classes = classes.filterMap (errorClass? classes) := rfl

theorem errorClasses_subset (h : (more.map (·.name)).Nodup) (hclasses : classes ⊆ more) :
    errorClasses classes ⊆ errorClasses more := by
  intro e he
  obtain ⟨c, hc, he⟩ := List.mem_filterMap.1 he
  exact List.mem_filterMap.2 ⟨c, hclasses hc, errorClass?_mono h hclasses he⟩

theorem perm_errorClasses (h : (more.map (·.name)).Nodup) (hperm : classes.Perm more) :
    (errorClasses classes).Perm (errorClasses more) := by
  have hnames : (classes.map (·.name)).Nodup := (hperm.map _).nodup_iff.2 h
  have hsame : errorClass? classes = errorClass? more := by
    funext c
    ext e
    exact ⟨errorClass?_mono h hperm.subset, errorClass?_mono hnames hperm.symm.subset⟩
  rw [errorClasses_eq, errorClasses_eq, hsame]
  exact hperm.filterMap _

end

theorem classes_concat (as : List Analysis) : (concat as).classes = as.flatMap (·.classes) := by
  induction as with
  | nil => rfl
  | cons a as ih => exact congrArg (a.classes ++ ·) ih

end Analysis

namespace Metrics

theorem total_append (ms ns : List Nat) : total (ms ++ ns) = total ms + total ns := by
  induction ms with
  | nil => simp [total]
  | cons m ms ih =>
    show m + total (ms ++ ns) = m + total ms + total ns
    rw [ih, Nat.add_assoc]

end Metrics

namespace ParsedCapsule

open TypeScript

/-- A capsule from its sources, whatever reads their texts as trees. -/
def ofTrees (read : SourceFile → Tree) (root : Path) (sources : List SourceFile)
    (manifest : Option Manifest) : ParsedCapsule :=
  ofFacts root manifest (sources.map (·.path))
    (sources.map fun source => SourceFacts.ofTree root source (read source))

def treeOf (source : SourceFile) : Tree :=
  parse source.content (SourceFacts.hasMarkup source.path)

/-- Whether a capsule has everything of one capsule and then everything of another one; error
classes are left open. -/
structure IsJoin (a b joined : ParsedCapsule) : Prop where
  types : joined.analysis.types = a.analysis.types ++ b.analysis.types
  interfaces : joined.analysis.interfaces = a.analysis.interfaces ++ b.analysis.interfaces
  classes : joined.analysis.classes = a.analysis.classes ++ b.analysis.classes
  functions : joined.analysis.functions = a.analysis.functions ++ b.analysis.functions
  constants : joined.analysis.constants = a.analysis.constants ++ b.analysis.constants
  vars : joined.analysis.vars = a.analysis.vars ++ b.analysis.vars
  imports : joined.analysis.imports = a.analysis.imports ++ b.analysis.imports
  exports : joined.analysis.exports = a.analysis.exports ++ b.analysis.exports
  files : joined.metrics.files = a.metrics.files ++ b.metrics.files
  lines : joined.metrics.lines = a.metrics.lines + b.metrics.lines
  complexity : joined.metrics.complexity = a.metrics.complexity + b.metrics.complexity

/-- The facts of sources that come after others come after theirs. -/
theorem isJoin_ofFacts (root : Path) (manifestA manifestB manifest : Option Manifest)
    (pathsA pathsB paths : List Path) (as bs : List SourceFacts) :
    IsJoin (ofFacts root manifestA pathsA as) (ofFacts root manifestB pathsB bs)
      (ofFacts root manifest paths (as ++ bs)) := by
  have hanalysis : Analysis.concat ((as ++ bs).map (·.analysis)) =
      Analysis.concat (as.map (·.analysis)) ++ Analysis.concat (bs.map (·.analysis)) := by
    rw [List.map_append, Analysis.concat_append]
  have hfiles : (as ++ bs).map (·.metrics) = as.map (·.metrics) ++ bs.map (·.metrics) :=
    List.map_append
  constructor
  all_goals simp only [ofFacts, Analysis.ofFacts, Metrics.ofFiles, hanalysis, hfiles]
  case lines => rw [List.map_append, Metrics.total_append]
  case complexity => rw [List.map_append, Metrics.total_append]
  all_goals rfl

theorem classes_ofTrees (read : SourceFile → Tree) (root : Path) (sources : List SourceFile)
    (manifest : Option Manifest) :
    (ofTrees read root sources manifest).analysis.classes =
      sources.flatMap fun source =>
        (SourceFacts.ofTree root source (read source)).analysis.classes := by
  show (Analysis.concat _).classes = _
  rw [Analysis.classes_concat, List.flatMap_map, List.flatMap_map]

/-- A capsule is made of the trees of its sources. Whatever reads texts as trees, a capsule of
sources after others has everything of these and then everything of those, and its sizes are their
sums. Where the names of its classes are distinct, it has the error classes of both, and any order
of its sources gives the same ones. -/
theorem ofSources_append (root : Path) :
    (∀ sources manifest,
      ofSources root sources manifest = ofTrees treeOf root sources manifest) ∧
    ∀ (read : SourceFile → Tree) (as bs : List SourceFile)
      (manifestA manifestB manifest : Option Manifest),
      let a := ofTrees read root as manifestA
      let b := ofTrees read root bs manifestB
      let joined := ofTrees read root (as ++ bs) manifest
      IsJoin a b joined ∧
        ((joined.analysis.classes.map (·.name)).Nodup →
          a.analysis.errors ⊆ joined.analysis.errors ∧
          b.analysis.errors ⊆ joined.analysis.errors ∧
          ∀ sources manifest', sources.Perm (as ++ bs) →
            (ofTrees read root sources manifest').analysis.errors.Perm joined.analysis.errors) := by
  refine ⟨fun sources manifest => rfl, ?_⟩
  intro read as bs manifestA manifestB manifest a b joined
  have hjoin : IsJoin a b joined := by
    have hfacts := isJoin_ofFacts root manifestA manifestB manifest (as.map (·.path))
      (bs.map (·.path)) ((as ++ bs).map (·.path))
      (as.map fun source => SourceFacts.ofTree root source (read source))
      (bs.map fun source => SourceFacts.ofTree root source (read source))
    rwa [← List.map_append] at hfacts
  refine ⟨hjoin, fun hnames => ⟨?_, ?_, fun sources manifest' hperm => ?_⟩⟩
  · exact Analysis.errorClasses_subset hnames (hjoin.classes ▸ List.subset_append_left _ _)
  · exact Analysis.errorClasses_subset hnames (hjoin.classes ▸ List.subset_append_right _ _)
  · have hclasses : (ofTrees read root sources manifest').analysis.classes.Perm
        joined.analysis.classes := by
      rw [classes_ofTrees, classes_ofTrees]
      exact hperm.flatMap_right _
    exact Analysis.perm_errorClasses hnames hclasses

section

open Preserved

/-- A source with a class whose base is another source's class. -/
def faultSource : SourceFile := ⟨⟨"flt/a.ts"⟩, "export class Fault extends Crash \x7b\x7d\n"⟩

def crashSource : SourceFile := ⟨⟨"flt/b.ts"⟩, "export class Crash extends Error \x7b\x7d\n"⟩

def extendingClass : Tree :=
  exportedClass [.node (.kind .classHeritage) none (inFirstLine 19 32)
    [.node (.kind .extendsClause) none (inFirstLine 19 32)
      [leaf (.token "extends") none 19 26, leaf (.kind .identifier) (some .value) 27 32]]] 35

end

/-- A class is an error only together with the source of its base, and then in either order. -/
theorem ofSources_append_faultSource :
    let capsule := fun sources => ofTrees (fun _ => extendingClass) ⟨"flt"⟩ sources none
    ((capsule [faultSource, crashSource]).analysis.classes.map (·.name)).Nodup ∧
      (capsule [faultSource]).analysis.errors = [] ∧
      (capsule [crashSource, faultSource]).analysis.errors.map (·.name) = ["Crash", "Fault"] ∧
      (capsule [crashSource]).analysis.errors ⊆
        (capsule [faultSource, crashSource]).analysis.errors ∧
      (capsule [crashSource, faultSource]).analysis.errors.Perm
        (capsule [faultSource, crashSource]).analysis.errors := by
  intro capsule
  have hnames : ((capsule [faultSource, crashSource]).analysis.classes.map (·.name)).Nodup := by
    decide +kernel
  obtain ⟨-, -, hcrash, hperm⟩ := ((ofSources_append ⟨"flt"⟩).2 (fun _ => extendingClass)
    [faultSource] [crashSource] none none none).imp_right fun h => h hnames
  exact ⟨hnames, by decide +kernel, by decide +kernel, hcrash,
    hperm [crashSource, faultSource] none (List.Perm.swap _ _ _)⟩

end ParsedCapsule
end ServiceCapsule
