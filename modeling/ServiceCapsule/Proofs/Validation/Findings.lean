import ServiceCapsule.Validation.Validator

/-!
# Findings

What each check adds to a validation. Every check but that of the diagnostics is plain: it adds one
error if it fails and none if it passes. The check of the diagnostics adds an error for each
diagnostic, up to a limit.
-/

namespace ServiceCapsule
namespace Validation

/-! ### Plain findings -/

/-- A finding whose only error, if it has one, is that its check failed. -/
structure Finding.IsPlain (f : Finding) (name : String) : Prop where
  name_eq : f.check.name = name
  length_errors : f.errors.length = if f.check.passed then 0 else 1
  diagnostics_eq : f.diagnostics = []

namespace Finding

theorem isPlain_pass (name message : String) : (pass name message).IsPlain name :=
  ⟨rfl, rfl, rfl⟩

theorem isPlain_fail (name message : String) : (fail name message).IsPlain name :=
  ⟨rfl, rfl, rfl⟩

theorem IsPlain.withWarnings {f : Finding} {name : String} (h : f.IsPlain name)
    (warnings : List String) : (f.withWarnings warnings).IsPlain name :=
  ⟨h.name_eq, h.length_errors, h.diagnostics_eq⟩

end Finding

open Finding

theorem isPlain_filesFinding (missing : List String) :
    (filesFinding missing).IsPlain "required_files" := by
  unfold filesFinding
  split
  · exact isPlain_pass _ _
  · exact isPlain_fail _ _

theorem isPlain_errorsFinding (s : Option String) : (errorsFinding s).IsPlain "error_types" := by
  cases s with
  | none => exact isPlain_fail _ _
  | some s =>
    simp only [errorsFinding]
    split
    · exact isPlain_pass _ _
    · exact isPlain_fail _ _

theorem isPlain_serviceFinding (s : Option String) :
    (serviceFinding s).IsPlain "service_lifecycle" := by
  cases s with
  | none => exact isPlain_fail _ _
  | some s =>
    refine IsPlain.withWarnings ?_ _
    split
    · exact isPlain_pass _ _
    · split
      · exact isPlain_fail _ _
      · exact isPlain_fail _ _

theorem isPlain_indexFinding (s : Option String) : (indexFinding s).IsPlain "index_exports" := by
  cases s with
  | none => exact isPlain_fail _ _
  | some s =>
    refine IsPlain.withWarnings ?_ _
    split
    · exact isPlain_fail _ _
    · split
      · exact isPlain_pass _ _
      · exact isPlain_fail _ _

theorem isPlain_readmeFinding (s : Option String) :
    (readmeFinding s).IsPlain "readme_sections" := by
  cases s with
  | none => exact isPlain_fail _ _
  | some s =>
    refine IsPlain.withWarnings ?_ _
    split
    · exact isPlain_pass _ _
    · exact isPlain_fail _ _

/-! ### The finding on diagnostics -/

section

variable {p : Provider} {d : Disk} {dir : Path} {sources : List String}

theorem name_diagnosticsFinding (n : Nat) (ds : List Diagnostic) :
    (diagnosticsFinding n ds).check.name = "compile_diagnostics" := by
  unfold diagnosticsFinding
  split <;> rfl

theorem passed_diagnosticsFinding (n : Nat) (ds : List Diagnostic) :
    (diagnosticsFinding n ds).check.passed = ds.isEmpty := by
  unfold diagnosticsFinding
  split <;> simp_all [Finding.pass]

theorem warnings_diagnosticsFinding (n : Nat) (ds : List Diagnostic) :
    (diagnosticsFinding n ds).warnings = [] := by
  unfold diagnosticsFinding
  split <;> rfl

theorem diagnostics_diagnosticsFinding (n : Nat) (ds : List Diagnostic) :
    (diagnosticsFinding n ds).diagnostics = ds := by
  cases ds <;> rfl

/-- As many errors as there are diagnostics, but all beyond the limit are one. -/
theorem length_diagnosticErrors (ds : List Diagnostic) :
    (diagnosticErrors ds).length = min ds.length 20 + if 20 < ds.length then 1 else 0 := by
  simp only [diagnosticErrors, shownDiagnostics, List.length_append, List.length_map,
    List.length_take]
  by_cases h : 20 < ds.length <;> simp [h, Nat.min_comm]

theorem errors_diagnosticsFinding (n : Nat) (ds : List Diagnostic) :
    (diagnosticsFinding n ds).errors = diagnosticErrors ds := by
  cases ds <;> rfl

theorem diagnosticErrors_eq_nil_iff (ds : List Diagnostic) : diagnosticErrors ds = [] ↔ ds = [] := by
  cases ds with
  | nil => simp [diagnosticErrors, shownDiagnostics]
  | cons e ds => simp [diagnosticErrors, shownDiagnostics]

theorem compileFinding_of_ok (hsources : sources ≠ []) {ds : List Diagnostic}
    (hds : p.diagnose d dir sources = .ok ds) :
    compileFinding p d dir sources = diagnosticsFinding sources.length ds := by
  rw [compileFinding, if_neg (by simpa using hsources), hds]

theorem passed_compileFinding {ds : List Diagnostic} (hds : p.diagnose d dir sources = .ok ds) :
    (compileFinding p d dir sources).check.passed = (!sources.isEmpty && ds.isEmpty) := by
  by_cases hsources : sources = []
  · subst hsources
    rfl
  · rw [compileFinding_of_ok hsources hds, passed_diagnosticsFinding]
    simp [hsources]

/-- A provider that fails leaves the finding of the syntax, with a warning. -/
theorem compileFinding_of_error (hsources : sources ≠ []) {e : DiagnosticsError}
    (he : p.diagnose d dir sources = .error e) :
    compileFinding p d dir sources =
      (syntaxFinding d dir sources).withWarnings [fallbackWarning p.name e] := by
  rw [compileFinding, if_neg (by simpa using hsources), he]

theorem syntaxFinding_cases (d : Disk) (dir : Path) (sources : List String) :
    (∃ ds, Provider.syntaxOnly.diagnose d dir sources = .ok ds ∧
      syntaxFinding d dir sources = diagnosticsFinding sources.length ds) ∨
    ∃ e, Provider.syntaxOnly.diagnose d dir sources = .error e ∧
      syntaxFinding d dir sources =
        fail "compile_diagnostics" ("Diagnostics could not run: " ++ e.message) := by
  unfold syntaxFinding
  cases Provider.syntaxOnly.diagnose d dir sources with
  | ok ds => exact .inl ⟨ds, rfl, rfl⟩
  | error e => exact .inr ⟨e, rfl, rfl⟩

theorem name_compileFinding :
    (compileFinding p d dir sources).check.name = "compile_diagnostics" := by
  by_cases hsources : sources = []
  · subst hsources
    rfl
  · cases hds : p.diagnose d dir sources with
    | ok ds =>
      rw [compileFinding_of_ok hsources hds]
      exact name_diagnosticsFinding _ _
    | error e =>
      rw [compileFinding_of_error hsources hds]
      rcases syntaxFinding_cases d dir sources with ⟨ds, -, h⟩ | ⟨e', -, h⟩
      · rw [h]
        exact name_diagnosticsFinding _ _
      · rw [h]
        rfl

theorem warnings_compileFinding (hsources : sources ≠ []) :
    (compileFinding p d dir sources).warnings =
      match p.diagnose d dir sources with
      | .ok _ => []
      | .error e => [fallbackWarning p.name e] := by
  cases hds : p.diagnose d dir sources with
  | ok ds =>
    rw [compileFinding_of_ok hsources hds]
    exact warnings_diagnosticsFinding _ _
  | error e =>
    rw [compileFinding_of_error hsources hds]
    rcases syntaxFinding_cases d dir sources with ⟨ds, -, h⟩ | ⟨e', -, h⟩
    · rw [h, Finding.withWarnings, warnings_diagnosticsFinding, List.nil_append]
    · rw [h]
      rfl

theorem errors_compileFinding (hsources : sources ≠ []) {ds : List Diagnostic}
    (hds : p.diagnose d dir sources = .ok ds) :
    (compileFinding p d dir sources).errors = [] ↔ ds = [] := by
  rw [compileFinding_of_ok hsources hds, errors_diagnosticsFinding]
  exact diagnosticErrors_eq_nil_iff ds

end

/-! ### All findings of a directory -/

def presenceFindings (d : Disk) (dir : Path) : List Finding :=
  [.pass "directory_exists" "Capsule directory exists", filesFinding (missingFiles d dir)]

def shapeFindings (d : Disk) (dir : Path) : List Finding :=
  [errorsFinding (readKind d dir .errors), serviceFinding (readKind d dir .service),
   indexFinding (readKind d dir .index), readmeFinding (readKind d dir .readme)]

theorem ofDirectory_eq {d : Disk} {dir : Path} (p : Provider) (hdir : d.isDirectory dir = true) :
    ofDirectory p d dir = ofFindings (presenceFindings d dir ++
      compileFinding p d dir (presentSources d dir) :: shapeFindings d dir) :=
  if_pos hdir

theorem isPlain_of_mem_presenceFindings {d : Disk} {dir : Path} {f : Finding}
    (h : f ∈ presenceFindings d dir) : ∃ name, f.IsPlain name ∧ name ≠ "compile_diagnostics" := by
  simp only [presenceFindings, List.mem_cons, List.not_mem_nil, or_false] at h
  rcases h with rfl | rfl
  · exact ⟨_, isPlain_pass _ _, by decide⟩
  · exact ⟨_, isPlain_filesFinding _, by decide⟩

theorem isPlain_of_mem_shapeFindings {d : Disk} {dir : Path} {f : Finding}
    (h : f ∈ shapeFindings d dir) : ∃ name, f.IsPlain name ∧ name ≠ "compile_diagnostics" := by
  simp only [shapeFindings, List.mem_cons, List.not_mem_nil, or_false] at h
  rcases h with rfl | rfl | rfl | rfl
  · exact ⟨_, isPlain_errorsFinding _, by decide⟩
  · exact ⟨_, isPlain_serviceFinding _, by decide⟩
  · exact ⟨_, isPlain_indexFinding _, by decide⟩
  · exact ⟨_, isPlain_readmeFinding _, by decide⟩

theorem check?_compile_diagnostics {p : Provider} {d : Disk} {dir : Path}
    (hdir : d.isDirectory dir = true) :
    (ofDirectory p d dir).check? "compile_diagnostics" =
      some (compileFinding p d dir (presentSources d dir)).check := by
  have hbefore : ∀ f ∈ presenceFindings d dir, (f.check.name == "compile_diagnostics") = false := by
    intro f hf
    obtain ⟨name, hplain, hname⟩ := isPlain_of_mem_presenceFindings hf
    simpa [hplain.name_eq] using hname
  have hnone : ((presenceFindings d dir).map (·.check)).find?
      (·.name == "compile_diagnostics") = none := by
    simpa using hbefore
  rw [ofDirectory_eq p hdir, check?]
  simp only [ofFindings, ofParts, List.map_append, List.find?_append, hnone, List.map_cons,
    Option.none_or]
  rw [List.find?_cons_of_pos (by simp [name_compileFinding])]

theorem mem_presentSources {d : Disk} {dir : Path} {name : String} :
    name ∈ presentSources d dir ↔
      ∃ k : FileKind, k.isSource = true ∧ k.fileName = name ∧ d.isFile (dir.child name) = true := by
  have hrequired : ∀ k : FileKind, k.fileName ∈ requiredFiles :=
    fun k => List.mem_map_of_mem k.mem_all
  simp only [presentSources, missingFiles, List.mem_filter, List.mem_map, FileKind.mem_all,
    true_and, List.contains_eq_mem, Bool.not_eq_true', decide_eq_false_iff_not, not_and,
    Bool.not_eq_true', Bool.not_eq_false]
  constructor
  · rintro ⟨⟨k, hk, rfl⟩, h⟩
    exact ⟨k, hk, rfl, h (hrequired k)⟩
  · rintro ⟨k, hk, rfl, h⟩
    exact ⟨⟨k, hk, rfl⟩, fun _ => h⟩

theorem presentSources_eq_nil_iff {d : Disk} {dir : Path} :
    presentSources d dir = [] ↔
      ∀ k : FileKind, k.isSource = true → d.isFile (dir.child k.fileName) = false := by
  rw [List.eq_nil_iff_forall_not_mem]
  constructor
  · intro h k hk
    refine Bool.eq_false_iff.2 fun hfile => h k.fileName ?_
    exact mem_presentSources.2 ⟨k, hk, rfl, hfile⟩
  · intro h name hname
    obtain ⟨k, hk, rfl, hfile⟩ := mem_presentSources.1 hname
    exact Bool.noConfusion (hfile.symm.trans (h k hk))

def typesDisk : Disk :=
  ⟨.directory [("out", .directory [("types.ts", .file (.text "export type Id = string;\n"))])], []⟩

end Validation
end ServiceCapsule
