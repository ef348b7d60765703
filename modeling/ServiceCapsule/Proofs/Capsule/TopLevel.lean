import ServiceCapsule.Proofs.Capsule.Exports
import ServiceCapsule.Proofs.Capsule.Joined

/-!
# Declarations at the top level

A declaration at the top level of a source stands by itself or under the keyword for export. Each
name in it is captured once, as a declaration of its kind, and what is captured is the same for all
kinds: the name, its place, whether the keyword is there, and the documentation that the node in
front of the statement gives. Bindings are module state unless they are constant.
-/

namespace ServiceCapsule

/-- What a declaration of any kind was captured with. -/
structure Declared where
  name : String
  exported : Bool
  docs : Option String
  location : Location
  isState : Bool
  deriving DecidableEq, Repr

namespace Analysis

def declared (a : Analysis) : List Declared :=
  a.types.map (fun t => ⟨t.name, t.exported, t.docs, t.location, false⟩) ++
    a.interfaces.map (fun i => ⟨i.name, i.exported, i.docs, i.location, false⟩) ++
    a.classes.map (fun c => ⟨c.name, c.exported, c.docs, c.location, false⟩) ++
    a.functions.map (fun f => ⟨f.name, f.exported, f.docs, f.location, false⟩) ++
    a.constants.map (fun c => ⟨c.name, c.exported, c.docs, c.location, false⟩) ++
    a.vars.map (fun v => ⟨v.name, v.exported, v.docs, v.location, true⟩)

theorem length_declared (a : Analysis) : a.declared.length = a.declarationCount := by
  simp only [declared, declarationCount, List.length_append, List.length_map]

theorem perm_declared_append (a b : Analysis) :
    (a ++ b).declared.Perm (a.declared ++ b.declared) := by
  show (append a b).declared.Perm _
  rw [List.perm_iff_count]
  intro d
  simp only [declared, append, List.map_append, List.count_append]
  omega

theorem perm_declared_concat (as : List Analysis) :
    (concat as).declared.Perm (as.flatMap declared) := by
  induction as with
  | nil => exact List.Perm.refl _
  | cons a as ih => exact (perm_declared_append a (concat as)).trans (ih.append_left _)

end Analysis

namespace Extraction

open TypeScript

/-! ### Nodes that declare -/

def namedNodes (t : Tree) : List Tree :=
  let nodes :=
    if t.is .lexicalDeclaration || t.is .variableDeclaration then
      t.namedChildren.filter (Tree.is .variableDeclarator)
    else if (namedKinds.any fun kind => t.is kind) then [t] else []
  nodes.filter fun node => (node.inRole? .name).isSome

def bindsState (t : Tree) : Bool :=
  (t.is .lexicalDeclaration || t.is .variableDeclaration) && bindingKeyword t != "const"

/-- What a node is captured as. -/
def declare (s : Scope) (exported : Bool) (docs : Option String) (isState : Bool) (node : Tree) :
    Declared :=
  ⟨(s.textOf? .name node).getD "", exported, docs, s.location node, isState⟩

theorem isSome_inRole? (s : Scope) (role : Role) (t : Tree) :
    (t.inRole? role).isSome = (s.textOf? role t).isSome := by
  simp [Scope.textOf?, Tree.roleText?]

section

variable (s : Scope) (exported : Bool) (docs : Option String) {t : Tree}

theorem declared_bound (keyword : String) (t : Tree) :
    (bound s exported docs keyword t).1.declared =
      if t.is .variableDeclarator && (t.inRole? .name).isSome then
        [declare s exported docs (keyword != "const") t]
      else [] := by
  rw [isSome_inRole? s, declare, bound]
  cases t.is .variableDeclarator with
  | false => rfl
  | true =>
    cases s.textOf? .name t with
    | none => rfl
    | some name =>
      simp only [Bool.not_true, Bool.false_eq_true, if_false, Option.isSome_some, Bool.and_self,
        if_true, Option.getD_some]
      cases keyword != "const" with
      | true => rfl
      | false =>
        simp only [Bool.false_eq_true, if_false]
        repeat' split
        all_goals rfl

theorem declared_bindings (ht : (t.is .lexicalDeclaration || t.is .variableDeclaration) = true) :
    (bindings s exported docs t).1.declared.Perm
      ((namedNodes t).map (declare s exported docs (bindsState t))) := by
  refine (Analysis.perm_declared_concat _).trans (.of_eq ?_)
  rw [namedNodes, if_pos ht, List.filter_filter, List.map_map, List.flatMap_map, bindsState, ht,
    Bool.true_and]
  generalize t.namedChildren = cs
  induction cs with
  | nil => rfl
  | cons c cs ih =>
    rw [List.flatMap_cons, ih, Function.comp_apply, declared_bound, List.filter_cons]
    simp only [Bool.and_comm]
    split <;> rfl

theorem not_bindings_of_mem_namedKinds {kind : Kind} (hkind : kind ∈ namedKinds)
    (ht : t.kind? = some kind) :
    (t.is .lexicalDeclaration || t.is .variableDeclaration) = false := by
  simp only [Tree.is, ht, Option.some_beq_some]
  exact (by decide : ∀ kind ∈ namedKinds,
    (kind == .lexicalDeclaration || kind == .variableDeclaration) = false) kind hkind

theorem declared_of_mem_namedKinds {kind : Kind} (hkind : kind ∈ namedKinds)
    (ht : t.kind? = some kind) :
    (declaration s exported docs t).1.declared =
      (namedNodes t).map (declare s exported docs (bindsState t)) := by
  have hnone := not_bindings_of_mem_namedKinds hkind ht
  have hnodes : namedNodes t = if (s.textOf? .name t).isSome then [t] else [] := by
    have hany : (namedKinds.any fun kind => t.is kind) = true :=
      List.any_eq_true.2 ⟨kind, hkind, by simp [Tree.is, ht]⟩
    rw [namedNodes, hnone, hany]
    simp [List.filter_singleton, isSome_inRole? s]
  have hstate : bindsState t = false := by rw [bindsState, hnone, Bool.false_and]
  rw [hnodes, hstate]
  simp only [namedKinds, List.mem_cons, List.not_mem_nil, or_false] at hkind
  cases htext : s.textOf? .name t with
  | none =>
    rcases hkind with rfl | rfl | rfl | rfl | rfl | rfl | rfl | rfl <;>
      simp only [declaration, ht, typeAlias, interface, classDeclaration, function, htext] <;> rfl
  | some name =>
    have hdeclare : declare s exported docs false t =
        ⟨name, exported, docs, s.location t, false⟩ := by
      simp [declare, htext]
    rcases hkind with rfl | rfl | rfl | rfl | rfl | rfl | rfl | rfl <;>
      simp only [declaration, ht, typeAlias, interface, classDeclaration, function, htext,
        Option.isSome_some, if_true, List.map_cons, hdeclare] <;> rfl

theorem declaration_of_bindings
    (ht : (t.is .lexicalDeclaration || t.is .variableDeclaration) = true) :
    declaration s exported docs t = bindings s exported docs t := by
  simp only [Tree.is, Bool.or_eq_true, beq_iff_eq] at ht
  rcases ht with ht | ht <;> simp only [declaration, ht]

theorem declaration_of_others
    (ht : (t.is .lexicalDeclaration || t.is .variableDeclaration) = false)
    (hnamed : ∀ kind ∈ namedKinds, t.kind? ≠ some kind) :
    declaration s exported docs t = nothing := by
  simp only [Tree.is, Bool.or_eq_false_iff, beq_eq_false_iff_ne] at ht
  unfold declaration
  split
  case h_9 hk => exact absurd hk ht.1
  case h_10 hk => exact absurd hk ht.2
  case h_11 => rfl
  all_goals
    rename_i hk
    exact absurd hk (hnamed _ (by decide))

theorem declared_declaration (t : Tree) : (declaration s exported docs t).1.declared.Perm
    ((namedNodes t).map (declare s exported docs (bindsState t))) := by
  cases hbindings : t.is .lexicalDeclaration || t.is .variableDeclaration with
  | true =>
    rw [declaration_of_bindings s exported docs hbindings]
    exact declared_bindings s exported docs hbindings
  | false =>
    by_cases hnamed : ∃ kind ∈ namedKinds, t.kind? = some kind
    · obtain ⟨kind, hkind, ht⟩ := hnamed
      exact .of_eq (declared_of_mem_namedKinds s exported docs hkind ht)
    · have hnone : ∀ kind ∈ namedKinds, t.kind? ≠ some kind := fun kind hkind ht =>
        hnamed ⟨kind, hkind, ht⟩
      have hany : (namedKinds.any fun kind => t.is kind) = false :=
        List.any_eq_false.2 fun kind hkind => by simpa [Tree.is] using hnone kind hkind
      rw [declaration_of_others s exported docs hbindings hnone, namedNodes, hbindings, hany]
      exact .of_eq rfl

end

/-! ### Statements -/

/-- What a statement declares, by itself or under the keyword for export. -/
def declaredIn (t : Tree) : List Tree :=
  ((if t.is .exportStatement then t.inRole? .declaration else some t).map namedNodes).getD []

def declaresState (t : Tree) : Bool :=
  (if t.is .exportStatement then t.inRole? .declaration else some t).any bindsState

/-- What the nodes of a statement are captured as, with the node in front of it. -/
def declareIn (s : Scope) (before : Option Tree) (t : Tree) : Tree → Declared :=
  declare s (t.is .exportStatement) (docsFrom s before t) (declaresState t)

theorem declared_exportOf (s : Scope) (docs : Option String) {t : Tree}
    (ht : t.is .exportStatement = true) :
    (exportOf s docs t).declared.Perm
      ((declaredIn t).map (declare s true docs (declaresState t))) := by
  rw [declaredIn, declaresState, if_pos ht]
  unfold exportOf
  cases t.inRole? .declaration with
  | none =>
    simp only
    repeat' split
    all_goals exact .of_eq rfl
  | some inner =>
    refine (Analysis.perm_declared_append _ _).trans ?_
    have hnone : ∀ exports, ({ Analysis.empty with exports } : Analysis).declared = [] :=
      fun _ => rfl
    rw [hnone, List.append_nil]
    exact declared_declaration s true docs inner

/-- A statement captures what it declares, with the mark that it is an export statement. -/
theorem declared_statement (s : Scope) (before : Option Tree) (t : Tree) :
    (statement s before t).declared.Perm ((declaredIn t).map (declareIn s before t)) := by
  unfold statement declareIn
  split
  · rename_i hkind
    have hnone : declaredIn t = [] := by
      simp [declaredIn, namedNodes, namedKinds, Tree.is, hkind]
    rw [hnone]
    exact .of_eq rfl
  · rename_i hkind
    have ht : t.is .exportStatement = true := by simp [Tree.is, hkind]
    rw [ht]
    exact declared_exportOf s _ ht
  · rename_i hkind
    have ht : t.is .exportStatement = false := by simpa [Tree.is] using hkind
    rw [declaredIn, declaresState, ht]
    exact declared_declaration s false _ t

def withBefore : Option Tree → List Tree → List (Option Tree × Tree)
  | _, [] => []
  | before, t :: ts => (before, t) :: withBefore (some t) ts

theorem map_snd_withBefore (before : Option Tree) (ts : List Tree) :
    (withBefore before ts).map Prod.snd = ts := by
  induction ts generalizing before with
  | nil => rfl
  | cons t ts ih => exact congrArg (t :: ·) (ih (some t))

/-- The statements of a source. -/
def topLevel (root : Tree) : List (Option Tree × Tree) := withBefore none root.namedChildren

/-- What the statements of a source declare is captured, one after the other. -/
theorem declared_ofTree (s : Scope) (root : Tree) : (ofTree s root).declared.Perm
    ((topLevel root).flatMap fun p => (declaredIn p.2).map (declareIn s p.1 p.2)) := by
  unfold ofTree topLevel
  generalize root.namedChildren = ts
  suffices ∀ before, (statements s before ts).declared.Perm
      ((withBefore before ts).flatMap fun p => (declaredIn p.2).map (declareIn s p.1 p.2)) from
    this none
  induction ts with
  | nil => exact fun _ => .of_eq rfl
  | cons t ts ih =>
    intro before
    exact (Analysis.perm_declared_append _ _).trans
      ((declared_statement s before t).append (ih (some t)))

end Extraction

namespace ParsedCapsule

open TypeScript Extraction

/-- A source of a capsule as the tree of it is read. -/
def scopeOf (root : Path) (source : SourceFile) : Scope :=
  ⟨source.content, (root.below? source.path).getD source.path⟩

theorem declared_ofTrees (read : SourceFile → Tree) (root : Path) (sources : List SourceFile)
    (manifest : Option Manifest) :
    (ofTrees read root sources manifest).analysis.declared.Perm
      (sources.flatMap fun source => (ofTree (scopeOf root source) (read source)).declared) := by
  show (Analysis.concat _).declared.Perm _
  refine (Analysis.perm_declared_concat _).trans (.of_eq ?_)
  rw [List.flatMap_map, List.flatMap_map]
  rfl

end ParsedCapsule
end ServiceCapsule
