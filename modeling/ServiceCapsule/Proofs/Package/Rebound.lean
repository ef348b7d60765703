import ServiceCapsule.Proofs.Package.Bindings

/-!
# Names that imports of packages bind twice

An import of a package is needed where it binds a name in use that no import before it binds, and
then it is emitted as a whole. So every name in use is bound. A name is bound twice exactly if two
needed imports share it, which they may although each of them binds something new.
-/

namespace ServiceCapsule

namespace Import

/-- Whether an import binds a name in use that no import before it binds. -/
def IsNeeded (tokens : List String) (before : List Import) (i : Import) : Prop :=
  ∃ name ∈ i.bindings, name ∈ tokens ∧ ∀ j ∈ before, name ∉ j.bindings

instance (tokens : List String) (before : List Import) (i : Import) :
    Decidable (IsNeeded tokens before i) :=
  inferInstanceAs (Decidable (∃ name ∈ i.bindings, _))

/-- Whether two imports have no local name in common. -/
def Apart (i j : Import) : Prop := i.bindings.Disjoint j.bindings

/-- Whether names are, of those in use, the ones that some imports bind. -/
def Covers (tokens bound : List String) (before : List Import) : Prop :=
  ∀ name ∈ tokens, name ∈ bound ↔ ∃ j ∈ before, name ∈ j.bindings

end Import

def Item.external? : Item → Option Import
  | external i => some i
  | _ => none

namespace Draft

open Import

def externalImports (d : Draft) : List Import := d.filterMap Item.external?

section

variable {tokens bound : List String} {before imports : List Import} {first i : Import}

theorem isNeeded_iff (first : Import) (h : Covers tokens bound before) :
    (first.bindings.filter tokens.contains).any (fun name => !bound.contains name) = true ↔
      first.IsNeeded tokens before := by
  simp only [List.any_eq_true, List.mem_filter, List.contains_iff_mem, Bool.not_eq_true',
    ← Bool.not_eq_true, and_assoc]
  refine exists_congr fun name => and_congr_right fun _ => and_congr_right fun htoken => ?_
  rw [h name htoken]
  simp

theorem neededImports_cons (first : Import) (imports : List Import)
    (h : Covers tokens bound before) :
    ∃ bound', Covers tokens bound' (before ++ [first]) ∧
      neededImports tokens bound (first :: imports) =
        (if first.IsNeeded tokens before then [first] else []) ++
          neededImports tokens bound' imports := by
  have hneeded := isNeeded_iff first h
  by_cases hfirst : first.IsNeeded tokens before
  · refine ⟨first.bindings.filter tokens.contains ++ bound, fun name htoken => ?_, ?_⟩
    · simp [h name htoken, htoken, or_comm, or_and_right, exists_or]
    · simp only [neededImports, if_pos hfirst, if_pos (hneeded.2 hfirst), List.singleton_append]
  · refine ⟨bound, fun name htoken => ?_, ?_⟩
    · -- what the import binds of the names in use is bound before
      have hbound : name ∈ first.bindings → ∃ j ∈ before, name ∈ j.bindings := by
        intro hname
        by_contra hnew
        exact hfirst ⟨name, hname, htoken, fun j hj hmem => hnew ⟨j, hj, hmem⟩⟩
      rw [h name htoken]
      simp only [List.mem_append, List.mem_singleton, or_and_right, exists_or, exists_eq_left]
      exact ⟨Or.inl, fun hname => hname.elim id hbound⟩
    · simp only [neededImports, if_neg hfirst, if_neg (mt hneeded.1 hfirst), List.nil_append]

theorem mem_neededImports_iff (h : Covers tokens bound before) :
    i ∈ neededImports tokens bound imports ↔
      ∃ above below, imports = above ++ i :: below ∧ i.IsNeeded tokens (before ++ above) := by
  -- of the imports before only the names that they bind matter, which `bound` covers
  induction imports generalizing bound before with
  | nil => simp [neededImports]
  | cons first imports ih =>
    obtain ⟨bound', hbound, heq⟩ := neededImports_cons first imports h
    rw [heq, List.mem_append, ih hbound]
    constructor
    · rintro (hi | ⟨above, below, rfl, hi⟩)
      · split at hi
        · rename_i hfirst
          obtain rfl := List.mem_singleton.1 hi
          exact ⟨[], imports, rfl, by simpa using hfirst⟩
        · simp at hi
      · exact ⟨first :: above, below, rfl, by simpa using hi⟩
    · rintro ⟨above, below, himports, hi⟩
      cases above with
      | nil =>
        obtain ⟨rfl, rfl⟩ := List.cons.inj himports
        rw [List.append_nil] at hi
        exact .inl (by simp [hi])
      | cons other above =>
        obtain ⟨rfl, rfl⟩ := List.cons.inj himports
        exact .inr ⟨above, below, rfl, by simpa using hi⟩

/-- What holds of any two needed imports, in their order, holds of any two that are emitted. -/
theorem pairwise_neededImports_iff (imports : List Import) {R : Import → Import → Prop}
    (h : Covers tokens bound before) :
    (neededImports tokens bound imports).Pairwise R ↔
      ∀ above i between j below, imports = above ++ i :: (between ++ j :: below) →
        i.IsNeeded tokens (before ++ above) →
        j.IsNeeded tokens (before ++ above ++ i :: between) → R i j := by
  induction imports generalizing bound before with
  | nil => simp [neededImports]
  | cons first imports ih =>
    obtain ⟨bound', hbound, heq⟩ := neededImports_cons first imports h
    rw [heq, List.pairwise_append, ih hbound]
    constructor
    · rintro ⟨-, hrest, hfirst⟩ above i between j below himports hi hj
      cases above with
      | nil =>
        obtain ⟨rfl, rfl⟩ := List.cons.inj himports
        rw [List.append_nil] at hi
        refine hfirst first (by simp [hi]) j ((mem_neededImports_iff hbound).2 ?_)
        exact ⟨between, below, rfl, by simpa using hj⟩
      | cons other above =>
        obtain ⟨rfl, rfl⟩ := List.cons.inj himports
        exact hrest above i between j below rfl (by simpa using hi) (by simpa using hj)
    · intro hall
      refine ⟨by split <;> simp, ?_, ?_⟩
      · rintro above i between j below rfl hi hj
        exact hall (first :: above) i between j below rfl (by simpa using hi) (by simpa using hj)
      · intro i hi j hj
        obtain ⟨between, below, rfl, hj⟩ := (mem_neededImports_iff hbound).1 hj
        split at hi
        · rename_i hfirst
          obtain rfl := List.mem_singleton.1 hi
          exact hall [] i between j below rfl (by simpa using hfirst) (by simpa using hj)
        · simp at hi

theorem neededImports_sublist (tokens bound : List String) (imports : List Import) :
    (neededImports tokens bound imports).Sublist imports := by
  induction imports generalizing bound with
  | nil => exact List.Sublist.refl _
  | cons first imports ih =>
    simp only [neededImports]
    split
    · exact (ih _).cons_cons first
    · exact (ih bound).cons first

end

theorem externalImports_externals (p : Plan) (tokens : List String) :
    externalImports (externals p tokens) = neededImports tokens [] p.imports := by
  rw [externalImports, externals, List.filterMap_map]
  exact List.filterMap_some

/-- The imports that are emitted are in their order and bind every name in use that some import
binds. No name is bound by two of them exactly if no two imports, each of which binds a name in use
that is not bound before it, have a local name in common. This is so if imports with a local name in
common bind the same of the names in use, as repeated imports do. -/
theorem externals_apart_iff (p : Plan) (tokens : List String) :
    let emitted := externalImports (externals p tokens)
    emitted.Sublist p.imports ∧
      (∀ i ∈ p.imports, ∀ name ∈ i.bindings, name ∈ tokens →
        ∃ j ∈ emitted, name ∈ j.bindings) ∧
      (emitted.Pairwise Apart ↔
        ∀ above i between j below, p.imports = above ++ i :: (between ++ j :: below) →
          i.IsNeeded tokens above → j.IsNeeded tokens (above ++ i :: between) → i.Apart j) ∧
      ((∀ i ∈ p.imports, ∀ j ∈ p.imports, ¬ i.Apart j →
          ∀ name ∈ tokens, name ∈ i.bindings ↔ name ∈ j.bindings) →
        emitted.Pairwise Apart) := by
  intro emitted
  have hemitted : emitted = neededImports tokens [] p.imports := externalImports_externals p tokens
  have hnone : Covers tokens [] [] := by simp [Covers]
  have hiff := pairwise_neededImports_iff p.imports (R := Apart) hnone
  simp only [List.nil_append, ← hemitted] at hiff
  refine ⟨hemitted ▸ neededImports_sublist _ _ _, ?_, hiff, fun hsame => hiff.2 ?_⟩
  · intro i hi name hname htoken
    rw [hemitted]
    exact (exists_mem_neededImports [] htoken hi hname).resolve_left (by simp)
  · rintro above i between j below himports - ⟨name, hname, htoken, hnew⟩
    by_contra hshared
    have hi : i ∈ p.imports := himports ▸ by simp
    have hj : j ∈ p.imports := himports ▸ by simp
    exact hnew i (by simp) ((hsame i hi j hj hshared name htoken).2 hname)

end Draft

namespace Plan

/-- A capsule of two sources that import different names of one package, one of them in both. -/
def datesCapsule : ParsedCapsule :=
  { (default : ParsedCapsule) with
    metadata := { (default : Metadata) with id := "dates", platforms := [.universal] }
    analysis :=
      { Analysis.empty with
        imports := [⟨"date-kit", none, none, ["parse", "format"], false, default,
            "import \x7b parse, format \x7d from 'date-kit';"⟩,
          ⟨"date-kit", none, none, ["format", "add"], false, default,
            "import \x7b format, add \x7d from 'date-kit';"⟩]
        functions := [⟨"read", true, none, default, [⟨"text", some "string", false⟩], some "Date",
            false, "function read(text: string): Date \x7b return parse(text); \x7d"⟩,
          ⟨"shift", true, none, default, [⟨"day", some "Date", false⟩], some "string", false,
            "function shift(day: Date): string \x7b return format(add(day, 1)); \x7d"⟩] } }

/-- Both imports are emitted, and both bind the name that they share. -/
theorem format_bound_twice_datesCapsule : ∃ d : Draft,
    Draft.ofKind (ofCapsule datesCapsule .auto default) .utils = .ok d ∧
      (Draft.externalImports d).map Import.bindings = [["parse", "format"], ["format", "add"]] ∧
      ¬ (Draft.externalImports d).Pairwise Import.Apart := by
  have himports : Draft.externalImports
      (Draft.sections (ofCapsule datesCapsule .auto default) .utils) =
        datesCapsule.analysis.imports := by
    decide
  refine ⟨_, Draft.ofKind_ofCapsule datesCapsule .auto default .utils, ?_, fun hapart => ?_⟩
  · rw [himports]
    rfl
  · rw [himports] at hapart
    have hshared := (List.pairwise_cons.1 hapart).1 _ List.mem_cons_self
    have hformat : "format" ∈ ["parse", "format"] := by decide
    exact hshared hformat (by decide)

end Plan
end ServiceCapsule
