import ServiceCapsule.Proofs.Package.References

/-!
# Names that imports of packages bind

Declarations of the sources are left out where the capsule defines their names itself; imports of
packages are not. Whatever carried code uses of a package is bound in its file, and it is bound
there only by imports of packages as long as the capsule does not define the name and no declaration
that is carried over has it.
-/

namespace ServiceCapsule
namespace Draft

/-- An import that binds a name in use is needed, unless the name is bound already. -/
theorem exists_mem_neededImports (bound : List String) {tokens : List String}
    {imports : List Import} {i : Import} {name : String} (htoken : name ∈ tokens)
    (hi : i ∈ imports) (hname : name ∈ i.bindings) :
    name ∈ bound ∨ ∃ j ∈ neededImports tokens bound imports, name ∈ j.bindings := by
  have hused {j : Import} (h : name ∈ j.bindings) : name ∈ j.bindings.filter tokens.contains :=
    List.mem_filter.2 ⟨h, by simpa using htoken⟩
  induction imports generalizing bound with
  | nil => simp at hi
  | cons j rest ih =>
    simp only [neededImports]
    split
    · rcases List.mem_cons.1 hi with rfl | hi
      · exact .inr ⟨i, List.mem_cons_self, hname⟩
      · have hrest := ih (j.bindings.filter tokens.contains ++ bound) hi
        rcases hrest with hbound | ⟨other, hother, hmem⟩
        · rcases List.mem_append.1 hbound with hbound | hbound
          · exact .inr ⟨j, List.mem_cons_self, (List.mem_filter.1 hbound).1⟩
          · exact .inl hbound
        · exact .inr ⟨other, List.mem_cons_of_mem _ hother, hmem⟩
    · rename_i hnone
      rcases List.mem_cons.1 hi with rfl | hi
      · left
        by_contra hbound
        exact hnone (List.any_eq_true.2 ⟨name, hused hname, by simpa using hbound⟩)
      · exact ih bound hi

variable {p : Plan} {k : FileKind}

theorem exists_external {i : Import} {name : String} (hk : k ∈ FileKind.carriers)
    (htoken : name ∈ p.tokensIn k) (hi : i ∈ p.imports) (hname : name ∈ i.bindings) :
    ∃ j, .external j ∈ sections p k ∧ name ∈ j.bindings := by
  rcases exists_mem_neededImports [] htoken hi hname with hbound | ⟨j, hj, hmem⟩
  · simp at hbound
  · exact ⟨j, imports_subset hk (List.mem_append_left _ (List.mem_map_of_mem hj)), hmem⟩

theorem mem_carriers_of_external {i : Import} (h : .external i ∈ sections p k) :
    k ∈ FileKind.carriers := by
  have himports : .external i ∈ imports p k := (mem_sections_iff Part.noConfusion).1 h
  cases k with
  | types | errors | constants | utils => decide
  | adapters | index => simp [imports, adapterTypes, indexImports] at himports
  | service =>
    simp only [imports, serviceImports] at himports
    split at himports <;> simp at himports
  | readme => simp [imports] at himports

theorem declared_sections (h : Naming.IsCapitalized p.className) (k : FileKind) :
    declared (sections p k) = p.namesIn k := by
  obtain ⟨d, hd, hnames⟩ := declared_ofKind h k
  rw [← hnames, Except.ok.inj (hd.symm.trans (ofKind_eq h k))]

end Draft

namespace Plan

variable {p : Plan} {k : FileKind} {name : String}

theorem namesIn_subset_reserved (hk : k ∈ FileKind.carriers) :
    p.namesIn k ⊆ reservedNames p.className p.errorKinds := by
  have hexports : p.exportsIn k = p.namesIn k := by
    cases k with
    | adapters => simp [FileKind.carriers] at hk
    | _ => rfl
  rw [← hexports]
  exact p.exportsIn_subset k

theorem reserved_or_carried_of_imported (hname : Naming.IsCapitalized p.className)
    (hk : k ∈ FileKind.carriers)
    (h : name ∈ (Draft.imported (Draft.sections p k)).map Prod.snd) :
    name ∈ reservedNames p.className p.errorKinds ∨ name ∈ p.preserved.names := by
  obtain ⟨⟨owner, name⟩, himported, rfl⟩ := List.mem_map.1 h
  obtain ⟨w, -, -, rfl, -, hown | ⟨d, hd, hdname, -⟩⟩ :=
    Draft.isOwn_or_isCarried_of_imported hname hk himported
  · exact .inl (p.exportsIn_subset w.owner hown.2)
  · exact .inr (hdname ▸ hd.mem_names)

/-- What carried code uses of a package is bound in its file by an import of a package. The file
does not declare what such an import binds, and does not import it from another file, if the capsule
does not reserve the name and it stands in no name of a declaration that is carried over. -/
theorem bindings_apart (c : ParsedCapsule) (mode : Mode) (time : Timestamp) :
    let p := ofCapsule c mode time
    ∃ drafts : FileKind → Draft, (∀ k, Draft.ofKind p k = .ok (drafts k)) ∧
      (∀ k ∈ FileKind.carriers, ∀ i ∈ p.imports, ∀ name ∈ i.bindings, name ∈ p.tokensIn k →
        ∃ j, .external j ∈ drafts k ∧ name ∈ j.bindings) ∧
      ∀ k i, .external i ∈ drafts k → ∀ name ∈ i.bindings,
        name ∉ reservedNames p.className p.errorKinds →
        (∀ other ∈ p.preserved.names, ¬ Code.StandsIn name other) →
          name ∉ Draft.declared (drafts k) ∧
          (∀ other code, (other, code) ∈ Draft.carriedOver (drafts k) →
            ¬ Code.StandsIn name other) ∧
          name ∉ (Draft.imported (drafts k)).map Prod.snd := by
  intro p
  have hname : Naming.IsCapitalized p.className := Draft.isCapitalized_ofCapsule c mode time
  refine ⟨Draft.sections p, Draft.ofKind_ofCapsule c mode time,
    fun k hk i hi name hbound htoken => Draft.exists_external hk htoken hi hbound, ?_⟩
  intro k i hexternal name hbound hreserved hfree
  have hk := Draft.mem_carriers_of_external hexternal
  refine ⟨?_, ?_, ?_⟩
  · rw [Draft.declared_sections hname]
    exact fun hmem => hreserved (namesIn_subset_reserved hk hmem)
  · intro other code hmem
    rw [Draft.carriedOver_sections] at hmem
    obtain ⟨d, hd, heq⟩ := List.mem_map.1 hmem
    obtain ⟨rfl, -⟩ := Prod.mk.inj heq
    exact hfree _ (mem_carriedIn_iff.1 hd).mem_names
  · intro hmem
    rcases reserved_or_carried_of_imported hname hk hmem with hmem | hmem
    · exact hreserved hmem
    · exact hfree name hmem ⟨[], [], by simp, rfl, rfl⟩

/-- A capsule with a function that uses a package for retries. -/
def fetcherCapsule : ParsedCapsule :=
  { (default : ParsedCapsule) with
    metadata := { (default : Metadata) with id := "fetcher", platforms := [.universal] }
    analysis :=
      { Analysis.empty with
        imports := [⟨"async-retry", none, none, ["retry"], false, default,
          "import \x7b retry \x7d from 'async-retry';"⟩]
        functions := [⟨"load", true, none, default, [], some "unknown", false,
          "function load(): unknown \x7b return retry(() => 1); \x7d"⟩] } }

/-- The import and a helper bind one name in one file. -/
theorem bindings_clash_fetcherCapsule : ∃ d : Draft,
    Draft.ofKind (ofCapsule fetcherCapsule .auto default) .utils = .ok d ∧
      ∃ i, .external i ∈ d ∧ "retry" ∈ i.bindings ∧ "retry" ∈ Draft.declared d := by
  have himport : ∃ i ∈ (ofCapsule fetcherCapsule .auto default).imports, "retry" ∈ i.bindings := by
    decide
  obtain ⟨i, hi, hname⟩ := himport
  obtain ⟨j, hj, hbound⟩ := Draft.exists_external (k := .utils) (by decide) (by decide) hi hname
  exact ⟨_, Draft.ofKind_ofCapsule fetcherCapsule .auto default .utils, j, hj, hbound, by decide⟩

end Plan
end ServiceCapsule
