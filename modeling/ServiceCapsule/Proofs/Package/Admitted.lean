import ServiceCapsule.Proofs.Package.Exported

/-!
# Names of what is carried over

All declarations are gone through in one order and with one set of names, whatever their kind. A
name is admitted where it occurs first, unless it is reserved. So the names of what is carried over
are distinct, none of them is exported by a generated file of its own, and a declaration is left out
only because its name is reserved or was admitted before.
-/

namespace ServiceCapsule

namespace Admission

def admitted (reserved : List String) : List String → List String → List String
  | _, [] => []
  | taken, name :: names =>
    if reserved.contains name || taken.contains name then admitted reserved taken names
    else name :: admitted reserved (name :: taken) names

section

variable {reserved : List String} {name : String}

theorem mem_admitted_iff {taken names : List String} :
    name ∈ admitted reserved taken names ↔ name ∈ names ∧ name ∉ reserved ∧ name ∉ taken := by
  induction names generalizing taken with
  | nil => simp [admitted]
  | cons first names ih =>
    simp only [admitted, Bool.or_eq_true, List.contains_iff_mem]
    split
    · rw [ih, List.mem_cons]
      constructor
      · rintro ⟨hname, hfree⟩
        exact ⟨.inr hname, hfree⟩
      · rintro ⟨rfl | hname, hreserved, htaken⟩
        · simp_all
        · exact ⟨hname, hreserved, htaken⟩
    · rename_i hfirst
      rw [not_or] at hfirst
      rw [List.mem_cons, ih, List.mem_cons, List.mem_cons]
      by_cases h : name = first
      · simp [h, hfirst]
      · simp [h]

theorem nodup_admitted (taken names : List String) : (admitted reserved taken names).Nodup := by
  induction names generalizing taken with
  | nil => exact List.nodup_nil
  | cons first names ih =>
    simp only [admitted]
    split
    · exact ih taken
    · rw [List.nodup_cons, mem_admitted_iff]
      exact ⟨fun h => h.2.2 List.mem_cons_self, ih _⟩

theorem admitted_append (taken names more : List String) :
    admitted reserved taken (names ++ more) =
      admitted reserved taken names ++
        admitted reserved ((admitted reserved taken names).reverse ++ taken) more := by
  induction names generalizing taken with
  | nil => rfl
  | cons first names ih =>
    simp only [List.cons_append, admitted]
    split
    · exact ih taken
    · simp [ih]

end

/-! ### One kind of declarations -/

section

variable {α : Type} (reserved : List String) (target : FileKind) (nameOf : α → String)

theorem map_kept_ofList (taken : List String) (as : List α) :
    (ofList reserved target nameOf taken as).kept.map nameOf =
      admitted reserved taken (as.map nameOf) := by
  induction as generalizing taken with
  | nil => rfl
  | cons a as ih =>
    simp only [ofList, List.map_cons, admitted, Bool.or_eq_true]
    split
    · rename_i h
      rw [if_pos (.inl h), ih]
    · rename_i hreserved
      split
      · rename_i h
        rw [if_pos (.inr h), ih]
      · rename_i htaken
        rw [if_neg (by simp_all), List.map_cons, ih]

theorem taken_ofList (taken : List String) (as : List α) :
    (ofList reserved target nameOf taken as).taken =
      (admitted reserved taken (as.map nameOf)).reverse ++ taken := by
  induction as generalizing taken with
  | nil => rfl
  | cons a as ih =>
    simp only [ofList, List.map_cons, admitted, Bool.or_eq_true]
    split
    · rename_i h
      rw [if_pos (.inl h), ih]
    · rename_i hreserved
      split
      · rename_i h
        rw [if_pos (.inr h), ih]
      · rename_i htaken
        rw [if_neg (by simp_all), ih]
        simp

/-- Whether a declaration that is left out has its place in a sequence of names and files, and a
name that is reserved or was admitted before this place. -/
def IsExplained (reserved : List String) (sequence : List (String × FileKind)) (s : Skipped) :
    Prop :=
  ∃ before after, sequence = before ++ (s.name, s.target) :: after ∧
    (s.reason = .reserved ∧ s.name ∈ reserved ∨
      s.reason = .duplicate ∧ s.name ∈ admitted reserved [] (before.map Prod.fst))

/-- What is left out after some names were gone through is explained by these names and those
before it of its own kind. -/
theorem isExplained_of_mem_skipped (front : List (String × FileKind)) {as : List α} {s : Skipped}
    (h : s ∈ (ofList reserved target nameOf
      (admitted reserved [] (front.map Prod.fst)).reverse as).skipped) :
    IsExplained reserved (front ++ as.map fun a => (nameOf a, target)) s := by
  -- every declaration goes into `front`, and only what `front` admits is taken later on
  induction as generalizing front with
  | nil => simp [ofList] at h
  | cons a as ih =>
    have hmore := ih (front ++ [(nameOf a, target)])
    simp only [List.map_append, List.map_cons, List.map_nil, admitted_append, admitted, List.append_nil,
      List.append_assoc, List.singleton_append, Bool.or_eq_true] at hmore
    simp only [ofList] at h
    rw [List.map_cons]
    split at h
    · rename_i hreserved
      rw [if_pos (.inl hreserved), List.append_nil] at hmore
      rcases List.mem_cons.1 h with rfl | h
      · exact ⟨front, _, rfl, .inl ⟨rfl, by simpa using hreserved⟩⟩
      · exact hmore h
    · rename_i hreserved
      split at h
      · rename_i htaken
        rw [if_pos (.inr htaken), List.append_nil] at hmore
        rcases List.mem_cons.1 h with rfl | h
        · exact ⟨front, _, rfl, .inr ⟨rfl, by simpa using htaken⟩⟩
        · exact hmore h
      · rename_i htaken
        rw [if_neg (by simp_all)] at hmore
        simp only [List.reverse_append, List.reverse_cons, List.reverse_nil, List.nil_append,
          List.singleton_append] at hmore
        exact hmore h

end

/-! ### Kind after kind -/

variable {reserved taken names : List String} {sequence : List (String × FileKind)}
  {skipped : List Skipped}

theorem IsExplained.append {s : Skipped} (h : IsExplained reserved sequence s)
    (more : List (String × FileKind)) : IsExplained reserved (sequence ++ more) s := by
  obtain ⟨before, after, rfl, hcause⟩ := h
  exact ⟨before, after ++ more, by simp, hcause⟩

/-- What is known once a sequence was gone through: the names of what is kept, the names that are
taken, and why the others were left out. -/
structure Passed (reserved : List String) (sequence : List (String × FileKind))
    (names taken : List String) (skipped : List Skipped) : Prop where
  names_eq : names = admitted reserved [] (sequence.map Prod.fst)
  taken_eq : taken = names.reverse
  explained : ∀ s ∈ skipped, IsExplained reserved sequence s

theorem Passed.start : Passed reserved [] [] [] [] := ⟨rfl, rfl, by simp⟩

theorem Passed.next {α : Type} (h : Passed reserved sequence names taken skipped)
    (target : FileKind) (nameOf : α → String) (as : List α) :
    Passed reserved (sequence ++ as.map fun a => (nameOf a, target))
      (names ++ (ofList reserved target nameOf taken as).kept.map nameOf)
      (ofList reserved target nameOf taken as).taken
      (skipped ++ (ofList reserved target nameOf taken as).skipped) := by
  have htaken : taken = (admitted reserved [] (sequence.map Prod.fst)).reverse := by
    rw [h.taken_eq, h.names_eq]
  refine ⟨?_, ?_, List.forall_mem_append.2 ⟨fun s hs => (h.explained s hs).append _, ?_⟩⟩
  · rw [map_kept_ofList, List.map_append, admitted_append, ← h.names_eq, List.append_nil,
      ← h.taken_eq, List.map_map]
    rfl
  · rw [taken_ofList, map_kept_ofList, List.reverse_append, ← h.taken_eq]
  · intro s hs
    rw [htaken] at hs
    exact isExplained_of_mem_skipped reserved target nameOf _ hs

end Admission

/-! ### All kinds of declarations -/

namespace Preserved

open Admission

def sequence (a : Analysis) : List (String × FileKind) :=
  (a.types.map fun t => (t.name, .types)) ++ (a.interfaces.map fun i => (i.name, .types)) ++
    (a.errors.map fun e => (e.name, .errors)) ++
    (a.constants.map fun c => (c.name, .constants)) ++ (a.vars.map fun v => (v.name, .utils)) ++
    (a.functions.map fun f => (f.name, .utils)) ++
    (plainClasses a).map fun c => (c.name, .utils)

/-- The declarations that are carried over are in the order in which they stood. -/
structure KeepsOrder (p : Preserved) (a : Analysis) : Prop where
  types : p.types.Sublist a.types
  interfaces : p.interfaces.Sublist a.interfaces
  errors : p.errors.Sublist a.errors
  constants : p.constants.Sublist a.constants
  vars : p.vars.Sublist a.vars
  functions : p.functions.Sublist a.functions
  classes : p.classes.Sublist a.classes

variable (reserved : List String) (a : Analysis)

theorem keepsOrder_ofAnalysis : (ofAnalysis reserved a).KeepsOrder a where
  types := kept_sublist ..
  interfaces := kept_sublist ..
  errors := kept_sublist ..
  constants := kept_sublist ..
  vars := kept_sublist ..
  functions := kept_sublist ..
  classes := (kept_sublist ..).trans List.filter_sublist

/-- The seven kinds are gone through as one sequence. -/
theorem passed_ofAnalysis : ∃ taken, Passed reserved (sequence a)
    (ofAnalysis reserved a).names taken (ofAnalysis reserved a).skipped := by
  have hstart : Passed reserved [] [] [] [] := .start
  have htypes := hstart.next .types TypeDeclaration.name a.types
  have hinterfaces := htypes.next .types InterfaceDeclaration.name a.interfaces
  have herrors := hinterfaces.next .errors ErrorClass.name a.errors
  have hconstants := herrors.next .constants ConstantDeclaration.name a.constants
  have hvars := hconstants.next .utils VariableDeclaration.name a.vars
  have hfunctions := hvars.next .utils FunctionDeclaration.name a.functions
  exact ⟨_, hfunctions.next .utils ClassDeclaration.name (plainClasses a)⟩

theorem names_ofAnalysis :
    (ofAnalysis reserved a).names = admitted reserved [] ((sequence a).map Prod.fst) := by
  obtain ⟨taken, h⟩ := passed_ofAnalysis reserved a
  exact h.names_eq

theorem nodup_names : (ofAnalysis reserved a).names.Nodup := by
  rw [names_ofAnalysis]
  exact nodup_admitted _ _

variable {reserved a}

theorem notMem_reserved {name : String} (h : name ∈ (ofAnalysis reserved a).names) :
    name ∉ reserved := by
  rw [names_ofAnalysis, mem_admitted_iff] at h
  exact h.2.1

/-- The declarations of a capsule that are carried over have distinct names and stand in their
order; no file exports one of these names of its own; and what is left out has a name that is
reserved or was admitted before, in the order of types, interfaces, errors, constants, state,
functions and other classes. -/
theorem names_ofCapsule_apart (c : ParsedCapsule) (mode : Mode) (time : Timestamp) :
    let p := Plan.ofCapsule c mode time
    p.preserved.names.Nodup ∧ p.preserved.KeepsOrder c.analysis ∧
      (∃ drafts : FileKind → Draft, (∀ k, Draft.ofKind p k = .ok (drafts k)) ∧
        ∀ k, ∀ name ∈ p.preserved.names, name ∉ Draft.exported (drafts k)) ∧
      ∀ s ∈ p.preserved.skipped,
        IsExplained (reservedNames p.className p.errorKinds) (sequence c.analysis) s := by
  intro p
  obtain ⟨taken, hpassed⟩ := passed_ofAnalysis (reservedNames p.className p.errorKinds) c.analysis
  refine ⟨nodup_names _ _, keepsOrder_ofAnalysis _ _,
    ⟨Draft.sections p, Draft.ofKind_ofCapsule c mode time, ?_⟩, hpassed.explained⟩
  intro k name hmem hexported
  rw [Draft.exported_sections, Plan.exported_own] at hexported
  exact notMem_reserved hmem (Plan.exportsIn_subset p k hexported)

end Preserved
end ServiceCapsule
