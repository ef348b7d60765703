import Mathlib.Data.List.Perm.Basic
import ServiceCapsule.Proofs.Capsule.TopLevel

/-!
# Documentation of a capsule

All that a statement declares has the documentation in front of it, whatever the statement declares
and whether it exports that. Whether a capsule is documented is asked of all its declarations but
module state. So the answer is right exactly where documented module state is not alone: some other
declaration has documentation too, or no module state has any.
-/

namespace ServiceCapsule

namespace Quality

/-- All kinds of declarations but one are asked. -/
theorem hasDocumentation_iff (a : Analysis) : (ofAnalysis a).hasDocumentation = true ↔
    ∃ d ∈ a.declared, d.isState = false ∧ d.docs.isSome = true := by
  have hlists : a.declared.any (fun d => !d.isState && d.docs.isSome) =
      (ofAnalysis a).hasDocumentation := by
    have hstate : a.vars.any (fun _ => false) = false := by simp
    simp [Analysis.declared, ofAnalysis, Function.comp_def, hstate, Bool.or_assoc]
  simp [← hlists]

end Quality

namespace Extraction

open TypeScript

/-- Some statement of a source declares module state, or something else, below its documentation. -/
def Documents (s : Scope) (root : Tree) (state : Bool) : Prop :=
  ∃ p ∈ topLevel root, declaresState p.2 = state ∧ declaredIn p.2 ≠ [] ∧
    (docsFrom s p.1 p.2).isSome = true

theorem documents_iff {s : Scope} {root : Tree} {state : Bool} : Documents s root state ↔
    ∃ d ∈ (ofTree s root).declared, d.isState = state ∧ d.docs.isSome = true := by
  simp only [(declared_ofTree s root).mem_iff, List.mem_flatMap, List.mem_map]
  constructor
  · rintro ⟨p, hp, hstate, hnodes, hdocs⟩
    obtain ⟨node, rest, hnode⟩ := List.exists_cons_of_ne_nil hnodes
    exact ⟨_, ⟨p, hp, node, by simp [hnode], rfl⟩, hstate, hdocs⟩
  · rintro ⟨_, ⟨p, hp, node, hnode, rfl⟩, hstate, hdocs⟩
    exact ⟨p, hp, hstate, List.ne_nil_of_mem hnode, hdocs⟩

end Extraction

namespace ParsedCapsule

open TypeScript Extraction

variable {read : SourceFile → Tree} {root : Path} {sources : List SourceFile}
  {manifest : Option Manifest}

/-- Some source of a capsule documents module state, or something else. -/
def DocumentedIn (read : SourceFile → Tree) (root : Path) (sources : List SourceFile)
    (state : Bool) : Prop :=
  ∃ source ∈ sources, Documents (scopeOf root source) (read source) state

theorem documentedIn_iff (manifest : Option Manifest) {state : Bool} :
    DocumentedIn read root sources state ↔
    ∃ d ∈ (ofTrees read root sources manifest).analysis.declared,
      d.isState = state ∧ d.docs.isSome = true := by
  simp only [DocumentedIn, documents_iff, (declared_ofTrees read root sources manifest).mem_iff,
    List.mem_flatMap]
  constructor
  · rintro ⟨source, hsource, d, hd, h⟩
    exact ⟨d, ⟨source, hsource, hd⟩, h⟩
  · rintro ⟨d, ⟨source, hsource, hd⟩, h⟩
    exact ⟨source, hsource, d, hd, h⟩

theorem exists_documented_iff :
    (∃ d ∈ (ofTrees read root sources manifest).analysis.declared, d.docs.isSome = true) ↔
      DocumentedIn read root sources false ∨ DocumentedIn read root sources true := by
  rw [documentedIn_iff manifest, documentedIn_iff manifest]
  constructor
  · rintro ⟨d, hd, hdocs⟩
    cases hstate : d.isState with
    | false => exact .inl ⟨d, hd, hstate, hdocs⟩
    | true => exact .inr ⟨d, hd, hstate, hdocs⟩
  · rintro (⟨d, hd, -, hdocs⟩ | ⟨d, hd, -, hdocs⟩) <;> exact ⟨d, hd, hdocs⟩

/-- Every declaration at the top level of a source is captured with the documentation in front of its
statement, and there are no more of them than are counted. A capsule counts as documented exactly
where some source documents what is not module state. So this is the same as to have a declaration
with documentation exactly where documented module state does not stand alone. -/
theorem documentation_seen_iff (read : SourceFile → Tree) (root : Path) (sources : List SourceFile)
    (manifest : Option Manifest) :
    ofSources root sources manifest = ofTrees treeOf root sources manifest ∧
    let c := ofTrees read root sources manifest
    c.analysis.declared.Perm (sources.flatMap fun source =>
      (topLevel (read source)).flatMap fun p =>
        (declaredIn p.2).map (declareIn (scopeOf root source) p.1 p.2)) ∧
    c.analysis.declared.length = c.analysis.declarationCount ∧
    (c.quality.hasDocumentation = true ↔ DocumentedIn read root sources false) ∧
    ((∃ d ∈ c.analysis.declared, d.docs.isSome = true) ↔
      DocumentedIn read root sources false ∨ DocumentedIn read root sources true) ∧
    ((c.quality.hasDocumentation = true ↔ ∃ d ∈ c.analysis.declared, d.docs.isSome = true) ↔
      (DocumentedIn read root sources true → DocumentedIn read root sources false)) := by
  refine ⟨rfl, ?_⟩
  intro c
  have hseen : c.quality.hasDocumentation = true ↔ DocumentedIn read root sources false :=
    (Quality.hasDocumentation_iff c.analysis).trans (documentedIn_iff manifest).symm
  refine ⟨?_, Analysis.length_declared _, hseen, exists_documented_iff, ?_⟩
  · refine (declared_ofTrees read root sources manifest).trans ?_
    exact List.Perm.flatMap_left _ fun source _ => declared_ofTree _ _
  · rw [hseen, exists_documented_iff, iff_self_or]

section

open Preserved

def countedSource : SourceFile := ⟨⟨"cap/a.ts"⟩, "/** Requests seen so far */\nlet hits = 0;\n"⟩

/-- A stretch of the second line, which starts at the byte 28. -/
def inSecondLine (start stop : Nat) : Span := ⟨⟨28 + start, 1, start⟩, ⟨28 + stop, 1, stop⟩⟩

def countedTree : Tree :=
  .node (.kind .program) none ⟨.start, ⟨42, 2, 0⟩⟩
    [leaf (.kind .comment) none 0 27,
     .node (.kind .lexicalDeclaration) none (inSecondLine 0 13)
      [.node (.token "let") none (inSecondLine 0 3) [],
       .node (.kind .variableDeclarator) none (inSecondLine 4 12)
        [.node (.kind .identifier) (some .name) (inSecondLine 4 8) [],
         .node (.token "=") none (inSecondLine 9 10) [],
         .node (.kind .number) (some .value) (inSecondLine 11 12) []],
       .node (.token ";") none (inSecondLine 12 13) []]]

/-- The only declaration has documentation, and the capsule counts as one without any. -/
theorem documentation_unseen_countedSource :
    let c := ofTrees (fun _ => countedTree) ⟨"cap"⟩ [countedSource] none
    c.analysis.declared =
        [⟨"hits", false, some "Requests seen so far", ⟨⟨"a.ts"⟩, 2, 5⟩, true⟩] ∧
      c.analysis.declarationCount = 1 ∧ c.quality.hasDocumentation = false := by
  decide +kernel

end

end ParsedCapsule
end ServiceCapsule
