import Mathlib.Data.List.Induction
import Mathlib.Data.List.Nodup
import Mathlib.Data.List.Pairwise
import ServiceCapsule.Capsule.Manifest

/-!
# What a capsule depends on

The packages of a capsule are listed from its imports where its manifest lists none. An import that
is only there on a server is told by the scheme `node:` or by a table of packages, and the list
looks at the table alone: a package beyond the table that is imported with the scheme is listed too.
The list is the one of all other imports exactly where every package of it is also imported without
the scheme, and where the packages come in the same order there.
-/

namespace ServiceCapsule

namespace Analysis

/-! ### Each element once -/

variable {names listed : List String}

theorem firstOfEach_concat (names : List String) (name : String) :
    firstOfEach (names ++ [name]) =
      if name ∈ firstOfEach names then firstOfEach names else firstOfEach names ++ [name] := by
  simp [firstOfEach]

theorem mem_firstOfEach {name : String} : name ∈ firstOfEach names ↔ name ∈ names := by
  induction names using List.reverseRecOn with
  | nil => simp [firstOfEach]
  | append_singleton names last ih =>
    rw [firstOfEach_concat, List.mem_append, List.mem_singleton, ← ih]
    split
    · rename_i hlast
      exact ⟨.inl, fun h => h.elim id fun h => h ▸ hlast⟩
    · simp

theorem filter_firstOfEach (keep : String → Bool) (names : List String) :
    (firstOfEach names).filter keep = firstOfEach (names.filter keep) := by
  induction names using List.reverseRecOn with
  | nil => rfl
  | append_singleton names last ih =>
    rw [firstOfEach_concat, List.filter_append]
    cases hlast : keep last with
    | false =>
      rw [List.filter_singleton, hlast, cond_false, List.append_nil, ← ih]
      split <;> simp [hlast]
    | true =>
      have hiff : last ∈ (firstOfEach names).filter keep ↔ last ∈ firstOfEach names := by
        simp [hlast]
      rw [List.filter_singleton, hlast, cond_true, firstOfEach_concat, ← ih]
      simp only [hiff]
      split <;> simp [hlast]

theorem pairwise_firstOfEach (names : List String) :
    (firstOfEach names).Pairwise fun p q => names.idxOf p < names.idxOf q := by
  induction names using List.reverseRecOn with
  | nil => simp [firstOfEach]
  | append_singleton names last ih =>
    have hkept : (firstOfEach names).Pairwise fun p q =>
        (names ++ [last]).idxOf p < (names ++ [last]).idxOf q := by
      refine ih.imp_of_mem fun hp hq h => ?_
      rwa [List.idxOf_append_of_mem (mem_firstOfEach.1 hp),
        List.idxOf_append_of_mem (mem_firstOfEach.1 hq)]
    rw [firstOfEach_concat]
    split
    · exact hkept
    · rename_i hlast
      rw [mem_firstOfEach] at hlast
      refine List.pairwise_append.2 ⟨hkept, List.pairwise_singleton _ _, fun p hp q hq => ?_⟩
      obtain rfl := List.mem_singleton.1 hq
      rw [mem_firstOfEach] at hp
      rw [List.idxOf_append_of_mem hp, List.idxOf_append_of_notMem hlast]
      exact Nat.lt_of_lt_of_le (List.idxOf_lt_length_iff.2 hp) (Nat.le_add_right _ _)

theorem nodup_of_pairwise_idxOf
    (h : listed.Pairwise fun p q => names.idxOf p < names.idxOf q) : listed.Nodup :=
  h.imp fun hlt heq => by simp [heq] at hlt

theorem eq_firstOfEach_iff : listed = firstOfEach names ↔
    (∀ p, p ∈ listed ↔ p ∈ names) ∧
      listed.Pairwise fun p q => names.idxOf p < names.idxOf q := by
  constructor
  · rintro rfl
    exact ⟨fun _ => mem_firstOfEach, pairwise_firstOfEach names⟩
  · rintro ⟨hmem, horder⟩
    have hnodup : (firstOfEach names).Nodup := nodup_of_pairwise_idxOf (pairwise_firstOfEach names)
    have hperm : listed.Perm (firstOfEach names) :=
      (List.perm_ext_iff_of_nodup (nodup_of_pairwise_idxOf horder) hnodup).2 fun p =>
        (hmem p).trans mem_firstOfEach.symm
    exact hperm.eq_of_pairwise (fun _ _ _ _ h h' => absurd h (Nat.lt_asymm h')) horder
      (pairwise_firstOfEach names)

/-- Elements that one order sorts are sorted by another one too where no two of them stand the other
way round there. -/
theorem pairwise_idxOf_iff {others : List String}
    (h : listed.Pairwise fun p q => names.idxOf p < names.idxOf q) :
    (listed.Pairwise fun p q => others.idxOf p < others.idxOf q) ↔
      ∀ p ∈ listed, ∀ q ∈ listed, names.idxOf p < names.idxOf q →
        others.idxOf p < others.idxOf q := by
  constructor
  · intro hothers
    have hforth : listed.Pairwise fun p q =>
        names.idxOf p < names.idxOf q → others.idxOf p < others.idxOf q := by
      refine hothers.imp ?_
      exact fun hlt _ => hlt
    have hback : listed.Pairwise fun p q =>
        names.idxOf q < names.idxOf p → others.idxOf q < others.idxOf p :=
      h.imp fun hlt hgt => absurd hgt (Nat.lt_asymm hlt)
    intro p hp q hq
    exact hforth.forall_of_forall_of_flip (fun _ _ hlt => absurd hlt (Nat.lt_irrefl _)) hback hp hq
  · exact fun hagree => h.imp_of_mem fun hp hq => hagree _ hp _ hq

/-! ### The packages that are imported -/

def packages (a : Analysis) (ofSort : Import → Bool) : List String :=
  ((a.imports.filter fun i => !i.isRelative && ofSort i).map Import.package).filter (· != "")

theorem mem_packages {a : Analysis} {ofSort : Import → Bool} {p : String} :
    p ∈ a.packages ofSort ↔
      p ≠ "" ∧ ∃ i ∈ a.imports, i.isRelative = false ∧ ofSort i = true ∧ i.package = p := by
  simp [packages, and_assoc, and_comm (a := p ≠ "")]

end Analysis

namespace Metadata

open Analysis

def isBeyondTable (i : Import) : Bool := !builtins.contains i.package

/-- The packages of the imports that are not only there on a server. -/
def required (a : Analysis) : List String := a.packages fun i => !needsServer i

/-- A package beyond the table that is imported with the scheme of a server alone. -/
def ImportedByScheme (a : Analysis) (p : String) : Prop :=
  p ∈ a.packages isBeyondTable ∧
    ∀ i ∈ a.imports, i.isRelative = false → i.package = p → Text.startsWith i.source "node:" = true

variable {a : Analysis} {p : String}

/-- Without a word of the manifest the list asks for the table alone. -/
theorem dependencies_eq_firstOfEach {manifest : Option Manifest}
    (h : (manifest.getD .empty).dependencies = []) (dir : Path) (a : Analysis)
    (usesBrowser : Bool) :
    (build dir manifest a usesBrowser).dependencies = firstOfEach (a.packages isBeyondTable) := by
  have hfilter : (((a.imports.filter fun i => !i.isRelative).map Import.package).filter
      (· != "")).filter (fun p => !builtins.contains p) = a.packages isBeyondTable := by
    simp only [packages, List.filter_map, List.filter_filter]
    congr 2
    funext i
    simp [isBeyondTable, Bool.and_comm, Bool.and_left_comm, Bool.and_assoc]
  simp only [build, h, List.isEmpty_nil, if_true, externalPackages, filter_firstOfEach, hfilter]

theorem mem_packages_isBeyondTable :
    p ∈ a.packages isBeyondTable ↔ p ∈ required a ∨ ImportedByScheme a p := by
  constructor
  · intro hp
    by_cases hscheme : ∀ i ∈ a.imports, i.isRelative = false → i.package = p →
        Text.startsWith i.source "node:" = true
    · exact .inr ⟨hp, hscheme⟩
    · obtain ⟨i, hi, hrelative, rfl, hplain⟩ : ∃ i ∈ a.imports, i.isRelative = false ∧
          i.package = p ∧ Text.startsWith i.source "node:" = false := by simpa using hscheme
      obtain ⟨hne, other, -, -, hbeyond, hother⟩ := mem_packages.1 hp
      refine .inl (mem_packages.2 ⟨hne, i, hi, hrelative, ?_, rfl⟩)
      rw [isBeyondTable, hother] at hbeyond
      simpa [needsServer, hplain] using hbeyond
  · rintro (hp | hp)
    · obtain ⟨hne, i, hi, hrelative, hneeds, rfl⟩ := mem_packages.1 hp
      refine mem_packages.2 ⟨hne, i, hi, hrelative, ?_, rfl⟩
      simp only [needsServer, Bool.not_or, Bool.and_eq_true] at hneeds
      exact hneeds.2
    · exact hp.1

/-- What is required is not imported by the scheme alone. -/
theorem not_importedByScheme (h : p ∈ required a) : ¬ ImportedByScheme a p := by
  rintro ⟨-, hscheme⟩
  obtain ⟨-, i, hi, hrelative, hneeds, hpackage⟩ := mem_packages.1 h
  simp [needsServer, hscheme i hi hrelative hpackage] at hneeds

theorem node_mem_inferPlatforms {usesBrowser : Bool} :
    Platform.node ∈ inferPlatforms a usesBrowser ↔
      ∃ i ∈ a.imports, i.isRelative = false ∧ needsServer i = true := by
  have hany : (a.imports.filter fun i => !i.isRelative).any needsServer = true ↔
      ∃ i ∈ a.imports, i.isRelative = false ∧ needsServer i = true := by
    simp
  rw [← hany, inferPlatforms]
  cases (a.imports.filter fun i => !i.isRelative).any needsServer <;>
    cases usesBrowser <;> simp

theorem ImportedByScheme.node_mem (h : ImportedByScheme a p) (usesBrowser : Bool) :
    Platform.node ∈ inferPlatforms a usesBrowser := by
  obtain ⟨hp, hscheme⟩ := h
  obtain ⟨-, i, hi, hrelative, -, hpackage⟩ := mem_packages.1 hp
  refine node_mem_inferPlatforms.2 ⟨i, hi, hrelative, ?_⟩
  simp [needsServer, hscheme i hi hrelative hpackage]

/-- A capsule depends on the packages beyond the table, each once and in the order in which they are
first imported: those that are required, and those that are imported by the scheme alone, though the
same imports make it a capsule for a server. These are just the required ones exactly where the
scheme is nowhere the only way to a package, and where the packages come in the same order without
the imports by the scheme. -/
theorem dependencies_iff {manifest : Option Manifest}
    (h : (manifest.getD .empty).dependencies = []) (dir : Path) (a : Analysis)
    (usesBrowser : Bool) :
    let listed := (build dir manifest a usesBrowser).dependencies
    (listed.Nodup ∧ listed.Pairwise fun p q =>
      (a.packages isBeyondTable).idxOf p < (a.packages isBeyondTable).idxOf q) ∧
    (∀ p, p ∈ listed ↔ p ∈ required a ∨ ImportedByScheme a p) ∧
    (∀ p, ImportedByScheme a p → Platform.node ∈ inferPlatforms a usesBrowser) ∧
    (listed = firstOfEach (required a) ↔
      (∀ p, ¬ ImportedByScheme a p) ∧
        ∀ p ∈ listed, ∀ q ∈ listed,
          (a.packages isBeyondTable).idxOf p < (a.packages isBeyondTable).idxOf q →
            (required a).idxOf p < (required a).idxOf q) := by
  intro listed
  have hlisted : listed = firstOfEach (a.packages isBeyondTable) :=
    dependencies_eq_firstOfEach h dir a usesBrowser
  obtain ⟨hmem, horder⟩ := eq_firstOfEach_iff.1 hlisted
  have hmem : ∀ p, p ∈ listed ↔ p ∈ required a ∨ ImportedByScheme a p := fun p =>
    (hmem p).trans mem_packages_isBeyondTable
  refine ⟨⟨nodup_of_pairwise_idxOf horder, horder⟩, hmem, fun p hp => hp.node_mem usesBrowser, ?_⟩
  rw [eq_firstOfEach_iff, pairwise_idxOf_iff horder]
  refine and_congr_left fun _ => forall_congr' fun p => ?_
  rw [hmem p]
  constructor
  · exact fun hiff hscheme => not_importedByScheme (hiff.1 (.inr hscheme)) hscheme
  · exact fun hnone => or_iff_left hnone

def importing (sources : List String) : Analysis :=
  { Analysis.empty with
    imports := sources.map fun source => ⟨source, none, none, [], false, ⟨⟨"a.ts"⟩, 1, 1⟩, ""⟩ }

/-- One package under two paths, a built-in one and a file of the capsule. -/
theorem importedByScheme_client :
    (Option.getD none Manifest.empty).dependencies = [] ∧
      ∀ p, ¬ ImportedByScheme (importing ["axios", "fs", "./helpers", "axios/lib/core"]) p :=
  have hnone : (Option.getD none Manifest.empty).dependencies = [] := rfl
  ⟨rfl, ((dependencies_iff hnone ⟨"client"⟩ _ false).2.2.2.1 (by decide)).1⟩

/-- The test runner of a server is taken for a package of its name. -/
theorem dependencies_testRunner :
    (build ⟨"client"⟩ none (importing ["node:test"]) false).platforms = [.node] ∧
      (build ⟨"client"⟩ none (importing ["node:test"]) false).dependencies = ["test"] ∧
      firstOfEach (required (importing ["node:test"])) = [] := by
  decide

end Metadata
end ServiceCapsule
