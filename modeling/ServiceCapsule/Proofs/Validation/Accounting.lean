import ServiceCapsule.Proofs.Validation.Findings

/-!
# Accounts of a validation

Checks, errors and diagnostics of a validation fit together: it is valid exactly if every check
passed, every diagnostic is kept, and the errors can be counted from the failed checks and the
diagnostics.
-/

namespace ServiceCapsule
namespace Validation

def failed (checks : List Check) : List Check := checks.filter fun check => !check.passed

theorem failed_append (checks checks' : List Check) :
    failed (checks ++ checks') = failed checks ++ failed checks' :=
  List.filter_append _ _

theorem failed_cons (check : Check) (checks : List Check) :
    failed (check :: checks) = if check.passed then failed checks else check :: failed checks := by
  unfold failed
  rw [List.filter_cons]
  cases check.passed <;> rfl

def otherFailed (checks : List Check) : List Check :=
  (failed checks).filter fun check => check.name != "compile_diagnostics"

/-- The diagnostics that a directory gets: those of the provider, or those of the syntax where the
provider has none. Without sources there are none. -/
def gathered (p : Provider) (d : Disk) (dir : Path) : List Diagnostic :=
  let sources := presentSources d dir
  if sources = [] then []
  else match p.diagnose d dir sources with
    | .ok ds => ds
    | .error _ =>
      match Provider.syntaxOnly.diagnose d dir sources with
      | .ok ds => ds
      | .error _ => []

/-- What a finding adds goes with its diagnostics: without any it is plain, and with some its check
failed and they are its errors. -/
structure Finding.Gathers (f : Finding) (ds : List Diagnostic) : Prop where
  diagnostics_eq : f.diagnostics = ds
  isPlain : ds = [] → f.IsPlain "compile_diagnostics"
  passed_eq : ds ≠ [] → f.check.passed = false
  errors_eq : ds ≠ [] → f.errors = diagnosticErrors ds

theorem Finding.Gathers.withWarnings {f : Finding} {ds : List Diagnostic} (h : f.Gathers ds)
    (warnings : List String) : (f.withWarnings warnings).Gathers ds :=
  ⟨h.diagnostics_eq, fun hds => (h.isPlain hds).withWarnings warnings, h.passed_eq, h.errors_eq⟩

theorem gathers_diagnosticsFinding (n : Nat) (ds : List Diagnostic) :
    (diagnosticsFinding n ds).Gathers ds where
  diagnostics_eq := diagnostics_diagnosticsFinding n ds
  isPlain := by
    rintro rfl
    exact Finding.isPlain_pass _ _
  passed_eq h := (passed_diagnosticsFinding n ds).trans (by simpa using h)
  errors_eq _ := errors_diagnosticsFinding n ds

theorem gathers_nil_of_isPlain {f : Finding} (h : f.IsPlain "compile_diagnostics") :
    f.Gathers [] where
  diagnostics_eq := h.diagnostics_eq
  isPlain _ := h
  passed_eq hne := absurd rfl hne
  errors_eq hne := absurd rfl hne

variable {p : Provider} {d : Disk} {dir : Path}

theorem gathers_compileFinding (p : Provider) (d : Disk) (dir : Path) :
    (compileFinding p d dir (presentSources d dir)).Gathers (gathered p d dir) := by
  unfold gathered
  by_cases hsources : presentSources d dir = []
  · rw [hsources]
    exact gathers_nil_of_isPlain (Finding.isPlain_fail _ _)
  · rw [if_neg hsources]
    cases hds : p.diagnose d dir (presentSources d dir) with
    | ok ds =>
      rw [compileFinding_of_ok hsources hds]
      exact gathers_diagnosticsFinding _ ds
    | error e =>
      rw [compileFinding_of_error hsources hds]
      rcases syntaxFinding_cases d dir (presentSources d dir) with ⟨ds, hsyntax, h⟩ | ⟨e', he', h⟩
      · rw [h, hsyntax]
        exact (gathers_diagnosticsFinding _ ds).withWarnings _
      · rw [h, he']
        exact gathers_nil_of_isPlain ((Finding.isPlain_fail _ _).withWarnings _)

/-! ### A finding has errors exactly if its check failed -/

theorem Finding.IsPlain.errors_eq_nil_iff {f : Finding} {name : String} (h : f.IsPlain name) :
    f.errors = [] ↔ f.check.passed = true := by
  rw [← List.length_eq_zero_iff, h.length_errors]
  cases f.check.passed <;> simp

theorem Finding.Gathers.errors_eq_nil_iff {f : Finding} {ds : List Diagnostic}
    (h : f.Gathers ds) : f.errors = [] ↔ f.check.passed = true := by
  by_cases hds : ds = []
  · exact (h.isPlain hds).errors_eq_nil_iff
  · rw [h.errors_eq hds, h.passed_eq hds, diagnosticErrors_eq_nil_iff]
    simpa using hds

theorem isValid_ofFindings {fs : List Finding}
    (h : ∀ f ∈ fs, f.errors = [] ↔ f.check.passed = true) :
    (ofFindings fs).isValid = true ↔ ∀ check ∈ (ofFindings fs).checks, check.passed = true := by
  have hvalid : (ofFindings fs).isValid = (fs.flatMap (·.errors)).isEmpty := rfl
  have hchecks : (ofFindings fs).checks = fs.map (·.check) := rfl
  rw [hvalid, hchecks, List.isEmpty_iff, List.flatMap_eq_nil_iff, List.forall_mem_map]
  exact ⟨fun herrors f hf => (h f hf).1 (herrors f hf), fun hpassed f hf => (h f hf).2 (hpassed f hf)⟩

/-! ### Counting errors -/

theorem length_errors_of_isPlain {fs : List Finding}
    (h : ∀ f ∈ fs, ∃ name, f.IsPlain name ∧ name ≠ "compile_diagnostics") :
    (fs.flatMap (·.errors)).length = (failed (fs.map (·.check))).length ∧
      otherFailed (fs.map (·.check)) = failed (fs.map (·.check)) := by
  unfold otherFailed
  induction fs with
  | nil => exact ⟨rfl, rfl⟩
  | cons f fs ih =>
    obtain ⟨⟨name, hplain, hname⟩, hfs⟩ := List.forall_mem_cons.1 h
    obtain ⟨hlength, hothers⟩ := ih hfs
    rw [← hplain.name_eq] at hname
    have herrors := hplain.length_errors
    rw [List.flatMap_cons, List.length_append, hlength, List.map_cons, failed_cons]
    cases hpassed : f.check.passed with
    | true => simp [herrors, hpassed, hothers]
    | false => simp [herrors, hpassed, hothers, hname, Nat.add_comm]

theorem diagnostics_of_isPlain {fs : List Finding}
    (h : ∀ f ∈ fs, ∃ name, f.IsPlain name ∧ name ≠ "compile_diagnostics") :
    fs.flatMap (·.diagnostics) = [] := by
  refine List.flatMap_eq_nil_iff.2 fun f hf => ?_
  obtain ⟨name, hplain, -⟩ := h f hf
  exact hplain.diagnostics_eq

/-- The errors of one finding on diagnostics among plain ones. -/
theorem length_errors_ofFindings {before after : List Finding} {f : Finding}
    {ds : List Diagnostic}
    (hbefore : ∀ f ∈ before, ∃ name, f.IsPlain name ∧ name ≠ "compile_diagnostics")
    (hafter : ∀ f ∈ after, ∃ name, f.IsPlain name ∧ name ≠ "compile_diagnostics")
    (hf : f.Gathers ds) (hname : f.check.name = "compile_diagnostics") :
    (ofFindings (before ++ f :: after)).errors.length =
      let checks := (ofFindings (before ++ f :: after)).checks
      if ds = [] then (failed checks).length
      else (otherFailed checks).length + (min ds.length 20 + if 20 < ds.length then 1 else 0) := by
  obtain ⟨hlength, hothers⟩ := length_errors_of_isPlain hbefore
  obtain ⟨hlength', hothers'⟩ := length_errors_of_isPlain hafter
  have herrors : (ofFindings (before ++ f :: after)).errors.length =
      (before.flatMap (·.errors)).length + (f.errors.length + (after.flatMap (·.errors)).length) := by
    simp [ofFindings, ofParts]
  have hchecks : (ofFindings (before ++ f :: after)).checks =
      before.map (·.check) ++ f.check :: after.map (·.check) := by
    simp [ofFindings, ofParts]
  have hfailed := failed_cons f.check (after.map (·.check))
  rw [herrors, hchecks, hlength, hlength']
  by_cases hds : ds = []
  · have hplain := (hf.isPlain hds).length_errors
    simp only [hds, if_true, failed_append, hfailed, hplain, List.length_append]
    cases f.check.passed <;> simp [Nat.add_comm]
  · have hother : otherFailed (before.map (·.check) ++ f.check :: after.map (·.check)) =
        failed (before.map (·.check)) ++ failed (after.map (·.check)) := by
      rw [← hothers, ← hothers', otherFailed, failed_append, hfailed, hf.passed_eq hds]
      simp [otherFailed, hname]
    simp only [hds, if_false, hother, hf.errors_eq hds, length_diagnosticErrors,
      List.length_append]
    omega

/-! ### Required files -/

theorem missingFiles_isEmpty_iff :
    (missingFiles d dir).isEmpty = true ↔ ∀ k : FileKind, d.isFile (dir.child k.fileName) = true := by
  simp [missingFiles, requiredFiles, List.isEmpty_iff, FileKind.mem_all]

theorem passed_filesFinding :
    (filesFinding (missingFiles d dir)).check.passed = true ↔
      ∀ k : FileKind, d.isFile (dir.child k.fileName) = true := by
  rw [← missingFiles_isEmpty_iff]
  unfold filesFinding
  cases (missingFiles d dir).isEmpty <;> simp [Finding.pass, Finding.fail]

/-- Whatever is on the disk and whatever the provider says: a path that is no directory fails the one
check that asks for it, and that is its one error. In a directory all seven checks are made, the
required files are there exactly if each of them is a file, the validation is valid exactly if every
check passed, all diagnostics are kept, and as many errors are told as checks failed; but of the
diagnostics the first twenty are errors of their own, and the rest is one more. -/
theorem accounts_of_directory (p : Provider) (d : Disk) (dir : Path) :
    (d.isDirectory dir = false →
      (ofDirectory p d dir).checks = [⟨"directory_exists", false,
        "Capsule directory " ++ dir.text ++ " does not exist"⟩] ∧
      (ofDirectory p d dir).errors = ["Capsule directory " ++ dir.text ++ " does not exist"] ∧
      (ofDirectory p d dir).isValid = false) ∧
    (d.isDirectory dir = true →
      (ofDirectory p d dir).checks.map (·.name) =
        ["directory_exists", "required_files", "compile_diagnostics", "error_types",
         "service_lifecycle", "index_exports", "readme_sections"] ∧
      (∃ check, (ofDirectory p d dir).check? "required_files" = some check ∧
        (check.passed = true ↔ ∀ k : FileKind, d.isFile (dir.child k.fileName) = true)) ∧
      ((ofDirectory p d dir).isValid = true ↔
        ∀ check ∈ (ofDirectory p d dir).checks, check.passed = true) ∧
      (ofDirectory p d dir).diagnostics = gathered p d dir ∧
      (ofDirectory p d dir).errors.length =
        if gathered p d dir = [] then (failed (ofDirectory p d dir).checks).length
        else (otherFailed (ofDirectory p d dir).checks).length +
          (min (gathered p d dir).length 20 + if 20 < (gathered p d dir).length then 1 else 0)) := by
  constructor
  · intro hdir
    rw [ofDirectory, if_neg (by simp [hdir])]
    exact ⟨rfl, rfl, rfl⟩
  · intro hdir
    have hpresence (f : Finding) (h : f ∈ presenceFindings d dir) :=
      isPlain_of_mem_presenceFindings h
    have hshape (f : Finding) (h : f ∈ shapeFindings d dir) := isPlain_of_mem_shapeFindings h
    have hcompile := gathers_compileFinding p d dir
    have hname : (compileFinding p d dir (presentSources d dir)).check.name =
        "compile_diagnostics" := name_compileFinding
    have hrequired := (isPlain_filesFinding (missingFiles d dir)).name_eq
    rw [ofDirectory_eq p hdir]
    refine ⟨?_, ⟨(filesFinding (missingFiles d dir)).check, ?_, passed_filesFinding⟩,
      isValid_ofFindings ?_, ?_, length_errors_ofFindings hpresence hshape hcompile hname⟩
    · simp [ofFindings, ofParts, presenceFindings, shapeFindings, Finding.pass, hrequired, hname,
        (isPlain_errorsFinding _).name_eq, (isPlain_serviceFinding _).name_eq,
        (isPlain_indexFinding _).name_eq, (isPlain_readmeFinding _).name_eq]
    · simp [check?, ofFindings, ofParts, presenceFindings, Finding.pass, hrequired]
    · intro f hf
      rcases List.mem_append.1 hf with hf | hf
      · obtain ⟨name, hplain, -⟩ := hpresence f hf
        exact hplain.errors_eq_nil_iff
      · rcases List.mem_cons.1 hf with rfl | hf
        · exact hcompile.errors_eq_nil_iff
        · obtain ⟨name, hplain, -⟩ := hshape f hf
          exact hplain.errors_eq_nil_iff
    · have hall : (ofFindings (presenceFindings d dir ++ compileFinding p d dir (presentSources d dir)
          :: shapeFindings d dir)).diagnostics =
            (presenceFindings d dir).flatMap (·.diagnostics) ++
              ((compileFinding p d dir (presentSources d dir)).diagnostics ++
                (shapeFindings d dir).flatMap (·.diagnostics)) := by
        simp [ofFindings, ofParts]
      rw [hall, diagnostics_of_isPlain hpresence, diagnostics_of_isPlain hshape,
        hcompile.diagnostics_eq, List.nil_append, List.append_nil]

/-- With 25 diagnostics there are 21 errors for them and one for each of the five other checks that
fail. -/
theorem accounts_of_typesDisk :
    typesDisk.isDirectory ⟨"/out"⟩ = true ∧
    (ofDirectory ⟨"reporting", fun _ _ _ => .ok (List.replicate 25 default)⟩ typesDisk
      ⟨"/out"⟩).errors.length = 26 := by
  have hdir : typesDisk.isDirectory ⟨"/out"⟩ = true := by decide
  obtain ⟨-, -, -, -, herrors⟩ := (accounts_of_directory
    ⟨"reporting", fun _ _ _ => .ok (List.replicate 25 default)⟩ typesDisk ⟨"/out"⟩).2 hdir
  refine ⟨hdir, herrors.trans ?_⟩
  decide

end Validation
end ServiceCapsule
