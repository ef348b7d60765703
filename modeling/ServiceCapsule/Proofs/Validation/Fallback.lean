import ServiceCapsule.Proofs.Validation.Findings

/-!
# Providers that fail

A validation whose provider fails is the one that goes by the syntax, with one warning more. Where
there are no sources, no provider is asked.
-/

namespace ServiceCapsule
namespace Validation

/-- Two validations that differ in their warnings, and in the score that goes by them. -/
structure Agrees (v w : Validation) : Prop where
  isValid_eq : v.isValid = w.isValid
  checks_eq : v.checks = w.checks
  errors_eq : v.errors = w.errors
  diagnostics_eq : v.diagnostics = w.diagnostics

namespace Agrees

variable {v w x : Validation}

theorem refl (v : Validation) : v.Agrees v := ⟨rfl, rfl, rfl, rfl⟩

theorem symm (h : v.Agrees w) : w.Agrees v :=
  ⟨h.isValid_eq.symm, h.checks_eq.symm, h.errors_eq.symm, h.diagnostics_eq.symm⟩

theorem trans (h : v.Agrees w) (h' : w.Agrees x) : v.Agrees x :=
  ⟨h.isValid_eq.trans h'.isValid_eq, h.checks_eq.trans h'.checks_eq,
    h.errors_eq.trans h'.errors_eq, h.diagnostics_eq.trans h'.diagnostics_eq⟩

end Agrees

section

variable {before after : List Finding} {f : Finding}

theorem agrees_withWarnings (warnings : List String) :
    (ofFindings (before ++ f.withWarnings warnings :: after)).Agrees
      (ofFindings (before ++ f :: after)) where
  isValid_eq := by simp [ofFindings, ofParts, Finding.withWarnings]
  checks_eq := by simp [ofFindings, ofParts, Finding.withWarnings]
  errors_eq := by simp [ofFindings, ofParts, Finding.withWarnings]
  diagnostics_eq := by simp [ofFindings, ofParts, Finding.withWarnings]

theorem warnings_ofFindings (hbefore : before.flatMap (·.warnings) = []) :
    (ofFindings (before ++ f :: after)).warnings =
      f.warnings ++ after.flatMap (·.warnings) := by
  simp only [ofFindings, ofParts, List.flatMap_append, List.flatMap_cons, hbefore, List.nil_append]

end

variable {p : Provider} {d : Disk} {dir : Path}

theorem warnings_presenceFindings (d : Disk) (dir : Path) :
    (presenceFindings d dir).flatMap (·.warnings) = [] := by
  have hfiles : (filesFinding (missingFiles d dir)).warnings = [] := by
    unfold filesFinding
    split <;> rfl
  simp [presenceFindings, Finding.pass, hfiles]

theorem warnings_ofDirectory (hdir : d.isDirectory dir = true) :
    (ofDirectory p d dir).warnings = (compileFinding p d dir (presentSources d dir)).warnings ++
      (shapeFindings d dir).flatMap (·.warnings) := by
  rw [ofDirectory_eq p hdir]
  exact warnings_ofFindings (warnings_presenceFindings d dir)

/-- What a directory is found to be when its diagnostics are those of the syntax. -/
def bySyntax (d : Disk) (dir : Path) : Validation :=
  ofFindings (presenceFindings d dir ++
    syntaxFinding d dir (presentSources d dir) :: shapeFindings d dir)

/-- A provider that fails has the directory judged by its syntax. -/
theorem agrees_bySyntax (hdir : d.isDirectory dir = true) (hsources : presentSources d dir ≠ [])
    {e : DiagnosticsError} (he : p.diagnose d dir (presentSources d dir) = .error e) :
    (ofDirectory p d dir).Agrees (bySyntax d dir) := by
  rw [ofDirectory_eq p hdir, compileFinding_of_error hsources he]
  exact agrees_withWarnings _

theorem syntaxOnly_agrees_bySyntax (hdir : d.isDirectory dir = true)
    (hsources : presentSources d dir ≠ []) :
    (ofDirectory .syntaxOnly d dir).Agrees (bySyntax d dir) := by
  rcases syntaxFinding_cases d dir (presentSources d dir) with ⟨ds, hds, h⟩ | ⟨e, he, -⟩
  · rw [ofDirectory_eq _ hdir, compileFinding_of_ok hsources hds, ← h]
    exact .refl _
  · exact agrees_bySyntax hdir hsources he

theorem warnings_of_ok (hdir : d.isDirectory dir = true) (hsources : presentSources d dir ≠ [])
    {ds : List Diagnostic} (hds : p.diagnose d dir (presentSources d dir) = .ok ds) :
    (ofDirectory p d dir).warnings = (shapeFindings d dir).flatMap (·.warnings) := by
  rw [warnings_ofDirectory hdir, warnings_compileFinding hsources, hds]
  rfl

theorem warnings_of_error (hdir : d.isDirectory dir = true) (hsources : presentSources d dir ≠ [])
    {e : DiagnosticsError} (he : p.diagnose d dir (presentSources d dir) = .error e) :
    (ofDirectory p d dir).warnings =
      fallbackWarning p.name e :: (shapeFindings d dir).flatMap (·.warnings) := by
  rw [warnings_ofDirectory hdir, warnings_compileFinding hsources, he]
  rfl

theorem ofDirectory_congr (hdir : d.isDirectory dir = true) (hsources : presentSources d dir = [])
    (p q : Provider) : ofDirectory p d dir = ofDirectory q d dir := by
  rw [ofDirectory_eq p hdir, ofDirectory_eq q hdir, hsources]
  rfl

/-- In a directory with sources a provider that fails makes no difference to going by the syntax, but
for the warnings: if the syntax can be looked at, there is exactly one more, which stands first and
tells the provider and why it failed. In a directory without sources what a provider says makes no
difference. -/
theorem ofDirectory_of_failing_provider (p : Provider) (d : Disk) (dir : Path)
    (hdir : d.isDirectory dir = true) :
    ((∃ k : FileKind, k.isSource = true ∧ d.isFile (dir.child k.fileName) = true) →
      ∀ e, p.diagnose d dir (presentSources d dir) = .error e →
        (ofDirectory p d dir).Agrees (ofDirectory .syntaxOnly d dir) ∧
        ∀ ds, Provider.syntaxOnly.diagnose d dir (presentSources d dir) = .ok ds →
          (ofDirectory p d dir).warnings =
            (p.name ++ " diagnostics unavailable (" ++ e.message ++
              "); fell back to syntax diagnostics") ::
              (ofDirectory .syntaxOnly d dir).warnings) ∧
    ((∀ k : FileKind, k.isSource = true → d.isFile (dir.child k.fileName) = false) →
      ∀ q, ofDirectory p d dir = ofDirectory q d dir) := by
  constructor
  · rintro ⟨k, hk, hfile⟩ e he
    have hsources : presentSources d dir ≠ [] := by
      intro hnil
      exact Bool.noConfusion (hfile.symm.trans (presentSources_eq_nil_iff.1 hnil k hk))
    have hsyntax := syntaxOnly_agrees_bySyntax hdir hsources
    refine ⟨(agrees_bySyntax hdir hsources he).trans hsyntax.symm, fun ds hds => ?_⟩
    rw [warnings_of_error hdir hsources he, warnings_of_ok hdir hsources hds]
    rfl
  · intro hnone
    exact ofDirectory_congr hdir (presentSources_eq_nil_iff.2 hnone) p

def absentProvider : Provider :=
  ⟨"failing", fun _ _ _ => .error (.compilerNotFound "not installed")⟩

theorem ofDirectory_of_absentProvider :
    typesDisk.isDirectory ⟨"/out"⟩ = true ∧
    (ofDirectory absentProvider typesDisk ⟨"/out"⟩).warnings =
      ("failing diagnostics unavailable (TypeScript compiler not found: not installed)" ++
          "; fell back to syntax diagnostics") ::
        (ofDirectory .syntaxOnly typesDisk ⟨"/out"⟩).warnings := by
  have hdir : typesDisk.isDirectory ⟨"/out"⟩ = true := by decide
  have hfile : typesDisk.isFile (Path.child ⟨"/out"⟩ FileKind.types.fileName) = true := by decide
  have hsources : presentSources typesDisk ⟨"/out"⟩ = ["types.ts"] := by decide
  have hsyntax : ∃ ds, Provider.syntaxOnly.diagnose typesDisk ⟨"/out"⟩
      (presentSources typesDisk ⟨"/out"⟩) = .ok ds := by
    rw [hsources]
    exact ⟨_, rfl⟩
  obtain ⟨ds, hds⟩ := hsyntax
  have hfails := (ofDirectory_of_failing_provider absentProvider typesDisk ⟨"/out"⟩ hdir).1
    ⟨.types, rfl, hfile⟩ _ rfl
  exact ⟨hdir, hfails.2 ds hds⟩

end Validation
end ServiceCapsule
