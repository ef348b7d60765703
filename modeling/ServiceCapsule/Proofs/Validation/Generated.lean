import ServiceCapsule.Proofs.Package.Lines
import ServiceCapsule.Proofs.Package.Written
import ServiceCapsule.Proofs.Validation.Findings

/-!
# Validation of generated directories

A directory that all eight files of a capsule were generated into passes every check except that of
its diagnostics, and it gets no warning about its files.
-/

namespace ServiceCapsule
namespace Validation

/-- A finding that tells of nothing wrong. -/
structure Finding.IsClean (f : Finding) (name : String) : Prop where
  name_eq : f.check.name = name
  passed : f.check.passed = true
  errors_eq : f.errors = []
  warnings_eq : f.warnings = []

theorem Finding.isClean_pass (name message : String) : (pass name message).IsClean name :=
  ⟨rfl, rfl, rfl, rfl⟩

/-! ### What each check asks for -/

theorem isClean_errorsFinding {s : String} (h : leastErrorKinds ≤ Shape.errorKindCount s) :
    (errorsFinding (some s)).IsClean "error_types" := by
  simp only [errorsFinding, h, if_true]
  exact Finding.isClean_pass _ _

theorem isClean_serviceFinding {s : String} (h : Shape.Service.ofText s = ⟨true, [], true⟩) :
    (serviceFinding (some s)).IsClean "service_lifecycle" := by
  simp only [serviceFinding, h]
  exact Finding.isClean_pass _ _

theorem isClean_indexFinding {s : String} (h : Shape.Index.ofText s = ⟨true, true, true⟩) :
    (indexFinding (some s)).IsClean "index_exports" := by
  simp only [indexFinding, h]
  exact Finding.isClean_pass _ _

theorem isClean_readmeFinding {s : String}
    (hsections : Shape.missingSections s Draft.readmeSections = [])
    (hbytes : leastReadmeBytes ≤ s.utf8ByteSize) :
    (readmeFinding (some s)).IsClean "readme_sections" := by
  have hlong : ¬ s.utf8ByteSize < leastReadmeBytes := Nat.not_lt.2 hbytes
  simp only [readmeFinding, hsections, hlong, if_false]
  exact Finding.isClean_pass _ _

/-! ### Generated files -/

section

variable {format : Bool} {c : ParsedCapsule} {mode : Mode} {time : Timestamp} {s : String}

theorem isClean_generated_errors
    (hs : Generation.content (if format then some .whitespace else none)
      (Plan.ofCapsule c mode time) .errors = .ok s) :
    (errorsFinding (some s)).IsClean "error_types" := by
  apply isClean_errorsFinding
  have hcount := Shape.length_le_errorKindCount (Generation.shows_errors hs)
    (by
      intro name hname
      obtain ⟨k, -, rfl⟩ := List.mem_map.1 hname
      exact k.isMemberName_code)
    (ErrorKind.nodup_codes _)
  rw [List.length_map] at hcount
  exact Nat.le_trans (ErrorKind.length_base_le_all _) hcount

theorem isClean_generated_service
    (hs : Generation.content (if format then some .whitespace else none)
      (Plan.ofCapsule c mode time) .service = .ok s) :
    (serviceFinding (some s)).IsClean "service_lifecycle" := by
  obtain ⟨hname, hclass, hmembers⟩ := Generation.shows_service hs
  have hidentifier := Naming.isIdentifier_of_append (Naming.className_ne_empty _) hname
  exact isClean_serviceFinding (Shape.service_ofText hidentifier hclass hmembers)

theorem isClean_generated_index
    (hs : Generation.content (if format then some .whitespace else none)
      (Plan.ofCapsule c mode time) .index = .ok s) :
    (indexFinding (some s)).IsClean "index_exports" := by
  obtain ⟨hmodule, hmetadata, hdefault⟩ := Generation.shows_index hs
  exact isClean_indexFinding (Shape.index_ofText hmodule hmetadata hdefault)

theorem isClean_generated_readme
    (hs : Generation.content (if format then some .whitespace else none)
      (Plan.ofCapsule c mode time) .readme = .ok s) :
    (readmeFinding (some s)).IsClean "readme_sections" := by
  obtain ⟨hsections, hrows⟩ := Generation.shows_readme hs
  have htidy : ∀ title ∈ Draft.readmeSections, Text.IsTidy title.toList := by decide +kernel
  have hbytes : leastReadmeBytes ≤
      (Text.joined (Generation.methodRows.map String.toList)).length := by decide +kernel
  exact isClean_readmeFinding
    (Shape.missingSections_eq_nil fun title htitle =>
      ⟨htidy title htitle, hsections title htitle⟩)
    (Nat.le_trans hbytes (Text.length_joined_le_of_shows hrows))

end

def generatedSources : List String := (FileKind.all.filter FileKind.isSource).map FileKind.fileName

/-- What a README below the least size is warned of. -/
def readmeWarning (bytes : Nat) : String :=
  "README is only " ++ Nat.repr bytes ++ " bytes (expected at least " ++
    Nat.repr leastReadmeBytes ++ ")"

theorem getLast?_toList_append (start : String) (c : Char) :
    (start ++ String.ofList [c]).toList.getLast? = some c := by
  rw [String.toList_append, String.toList_ofList, List.getLast?_concat]

theorem ne_fallbackWarning {warning : String} (h : warning.toList.getLast? ≠ some 's')
    (provider : String) (e : DiagnosticsError) : warning ≠ fallbackWarning provider e := by
  obtain ⟨start, hstart⟩ :
      ∃ start, fallbackWarning provider e = start ++ String.ofList ['s'] :=
    ⟨provider ++ " diagnostics unavailable (" ++ e.message ++
      "); fell back to syntax diagnostic", by simp [fallbackWarning, String.append_assoc]⟩
  rintro rfl
  exact h (hstart ▸ getLast?_toList_append start 's')

theorem getLast?_readmeWarning (bytes : Nat) :
    (readmeWarning bytes).toList.getLast? = some ')' := by
  obtain ⟨start, hstart⟩ : ∃ start, readmeWarning bytes = start ++ String.ofList [')'] :=
    ⟨_, rfl⟩
  exact hstart ▸ getLast?_toList_append start ')'

section

variable {format : Bool} {c : ParsedCapsule} {mode : Mode} {time : Timestamp} {d d' : Disk}
variable {output dir : Path} {r : GenerationResult}
variable (hrun : Generation.run (if format then some .whitespace else none) time d c output mode =
  (d', .ok r))
variable (hall : r.files.map (·.kind) = FileKind.all) (hdir : Generation.IsTarget d output r dir)

include hrun hall hdir

theorem missingFiles_generated : missingFiles d' dir = [] := by
  simp only [missingFiles, requiredFiles, List.filter_eq_nil_iff, List.forall_mem_map,
    Bool.not_eq_true', Bool.not_eq_false]
  intro k _
  obtain ⟨s, -, hentry⟩ := Generation.entry_of_run hrun hall hdir k
  simp [Disk.isFile, Disk.entry?, hentry, Except.toOption, Entry.isFile]

theorem presentSources_generated : presentSources d' dir = generatedSources := by
  simp only [presentSources, missingFiles_generated hrun hall hdir]
  decide

theorem isDirectory_generated : d'.isDirectory dir = true := by
  obtain ⟨s, -, hentry⟩ := Generation.entry_of_run hrun hall hdir .types
  have htext := (Generation.entry_target hrun hdir).1
  exact Disk.isDirectory_of_entry_child htext FileKind.types.isName_fileName hentry

theorem readKind_generated (k : FileKind) :
    ∃ s, readKind d' dir k = some s ∧
      Generation.content (if format then some .whitespace else none) (Plan.ofCapsule c mode time)
        k = .ok s := by
  obtain ⟨s, hs, hentry⟩ := Generation.entry_of_run hrun hall hdir k
  refine ⟨s, ?_, hs⟩
  rw [readKind, Disk.read_eq, hentry]
  rfl

/-- The findings in a generated directory: all are clean but that of the diagnostics. -/
theorem findings_generated (p : Provider) :
    ∃ errors service index readme, ofDirectory p d' dir = ofFindings
        [.pass "directory_exists" "Capsule directory exists", filesFinding [],
         compileFinding p d' dir generatedSources, errors, service, index, readme] ∧
      errors.IsClean "error_types" ∧ service.IsClean "service_lifecycle" ∧
      index.IsClean "index_exports" ∧ readme.IsClean "readme_sections" := by
  obtain ⟨errors, herrors, hs⟩ := readKind_generated hrun hall hdir .errors
  obtain ⟨service, hservice, hs'⟩ := readKind_generated hrun hall hdir .service
  obtain ⟨index, hindex, hs''⟩ := readKind_generated hrun hall hdir .index
  obtain ⟨readme, hreadme, hs'''⟩ := readKind_generated hrun hall hdir .readme
  refine ⟨_, _, _, _, ?_, isClean_generated_errors hs, isClean_generated_service hs',
    isClean_generated_index hs'', isClean_generated_readme hs'''⟩
  rw [ofDirectory, if_pos (isDirectory_generated hrun hall hdir),
    missingFiles_generated hrun hall hdir, presentSources_generated hrun hall hdir, herrors,
    hservice, hindex, hreadme]

/-- Only what the provider finds makes a generated directory invalid. -/
theorem isValid_generated_iff (p : Provider) {ds : List Diagnostic}
    (hds : p.diagnose d' dir generatedSources = .ok ds) :
    (ofDirectory p d' dir).isValid = true ↔ ds = [] := by
  obtain ⟨errors, service, index, readme, hfindings, herrors, hservice, hindex, hreadme⟩ :=
    findings_generated hrun hall hdir p
  have hsources : generatedSources ≠ [] := by decide
  rw [← errors_compileFinding hsources hds]
  simp [hfindings, ofFindings, ofParts, Finding.pass, filesFinding, herrors.errors_eq,
    hservice.errors_eq, hindex.errors_eq, hreadme.errors_eq]

end

/-- Whatever a capsule is called and holds, a directory that all its files were generated into
passes every check but that of the diagnostics, gets no warning about its files, and is valid
exactly if there are no diagnostics. -/
theorem validation_of_generated {format : Bool} {c : ParsedCapsule} {mode : Mode}
    {time : Timestamp} {d d' : Disk} {output dir : Path} {r : GenerationResult}
    (hrun : Generation.run (if format then some .whitespace else none) time d c output mode =
      (d', .ok r))
    (hall : r.files.map (·.kind) = FileKind.all)
    (hdir : Generation.IsTarget d output r dir) (p : Provider) :
    (∃ compiles, (ofDirectory p d' dir).checks.map (fun check => (check.name, check.passed)) =
      [("directory_exists", true), ("required_files", true), ("compile_diagnostics", compiles),
       ("error_types", true), ("service_lifecycle", true), ("index_exports", true),
       ("readme_sections", true)]) ∧
    "Service has no getState() accessor" ∉ (ofDirectory p d' dir).warnings ∧
    "Index has no default export" ∉ (ofDirectory p d' dir).warnings ∧
    (∀ bytes, readmeWarning bytes ∉ (ofDirectory p d' dir).warnings) ∧
    ∀ ds, p.diagnose d' dir generatedSources = .ok ds →
      ((ofDirectory p d' dir).isValid = true ↔ ds = []) := by
  obtain ⟨errors, service, index, readme, hfindings, herrors, hservice, hindex, hreadme⟩ :=
    findings_generated hrun hall hdir p
  have hsources : generatedSources ≠ [] := by decide
  have hname : (compileFinding p d' dir generatedSources).check.name = "compile_diagnostics" :=
    name_compileFinding
  have hwarnings : (ofDirectory p d' dir).warnings =
      (compileFinding p d' dir generatedSources).warnings := by
    simp [hfindings, ofFindings, ofParts, Finding.pass, filesFinding, herrors.warnings_eq,
      hservice.warnings_eq, hindex.warnings_eq, hreadme.warnings_eq]
  have hnot : ∀ warning : String, warning.toList.getLast? ≠ some 's' →
      warning ∉ (ofDirectory p d' dir).warnings := by
    intro warning hlast
    rw [hwarnings, warnings_compileFinding hsources]
    split
    · simp
    · simpa using ne_fallbackWarning hlast p.name _
  refine ⟨⟨(compileFinding p d' dir generatedSources).check.passed, ?_⟩, hnot _ (by decide),
    hnot _ (by decide), ?_, fun ds => isValid_generated_iff hrun hall hdir p⟩
  · simp [hfindings, ofFindings, ofParts, Finding.pass, filesFinding, hname, herrors.name_eq,
      herrors.passed, hservice.name_eq, hservice.passed, hindex.name_eq, hindex.passed,
      hreadme.name_eq, hreadme.passed]
  · intro bytes
    apply hnot
    rw [getLast?_readmeWarning]
    decide

/-- A capsule whose name and description look like parts of generated files. -/
def misleadingCapsule : ParsedCapsule :=
  { (default : ParsedCapsule) with
    metadata :=
      { id := "*/ 1st"
        name := "*/ export enum ErrorCode \x7b\n## Overview"
        category := "| ```"
        description := "\r\n```\n  A = 'A',\n// class"
        version := "`"
        platforms := []
        dependencies := ["\n"] } }

theorem validation_of_misleadingCapsule : ∃ d' r,
    Generation.run (if true then some .whitespace else none) default (Disk.empty ["work"])
      misleadingCapsule ⟨"out"⟩ .auto = (d', .ok r) ∧
    r.files.map (·.kind) = FileKind.all ∧
    Generation.IsTarget (Disk.empty ["work"]) ⟨"out"⟩ r ⟨"out"⟩ ∧
    (ofDirectory ⟨"silent", fun _ _ _ => .ok []⟩ d' ⟨"out"⟩).isValid = true := by
  have hkinds : (Generation.run (if true then some .whitespace else none) default
      (Disk.empty ["work"]) misleadingCapsule ⟨"out"⟩ .auto).2.toOption.map
        (fun r => r.files.map (·.kind)) = some FileKind.all := by decide +kernel
  have hnames : ∀ name ∈ (Disk.empty ["work"]).place, Path.IsName name := by decide
  cases hrun : Generation.run (if true then some .whitespace else none) default
      (Disk.empty ["work"]) misleadingCapsule ⟨"out"⟩ .auto with
  | mk d' outcome =>
    rw [hrun] at hkinds
    cases outcome with
    | error e => simp [Except.toOption] at hkinds
    | ok r =>
      have hall : r.files.map (·.kind) = FileKind.all := by
        simpa [Except.toOption] using hkinds
      have hvalid := validation_of_generated hrun hall (.inr ⟨rfl, hnames⟩)
        ⟨"silent", fun _ _ _ => .ok []⟩
      exact ⟨d', r, rfl, hall, .inr ⟨rfl, hnames⟩, (hvalid.2.2.2.2 [] rfl).2 rfl⟩

end Validation
end ServiceCapsule
