import ServiceCapsule.Proofs.Migration.Confined
import ServiceCapsule.Proofs.Package.Isolated
import ServiceCapsule.Proofs.Validation.Generated

/-!
# What a report answers

The mode that was asked for is the mode of the report, unless the capsule is too large to be migrated
all mechanically; then the first warning says so. A report is failed exactly if a file is missing or
the package is invalid. Every mode but the mechanical one leaves something to do by hand, so that the
mode alone tells a complete migration from one that is in progress.
-/

namespace ServiceCapsule

/-! ### Modes -/

namespace Mode

theorem isTooLarge_iff {lines complexity : Nat} :
    isTooLarge lines complexity = true ↔ 2000 < lines ∨ 30 < complexity := by
  simp only [isTooLarge, Bool.or_eq_true, decide_eq_true_eq]
  exact Iff.rfl

theorem head?_downgradeMessage (id : String) (lines complexity : Nat) :
    (downgradeMessage id lines complexity).toList.head? = some 'C' := by
  unfold downgradeMessage
  simp [toString]

theorem select_cases (id : String) (requested : Mode) (lines complexity : Nat) :
    (requested = auto ∧ (2000 < lines ∨ 30 < complexity) ∧
      select id requested lines complexity =
        ⟨requested, semi, some (downgradeMessage id lines complexity)⟩) ∨
    (¬ (requested = auto ∧ (2000 < lines ∨ 30 < complexity)) ∧
      select id requested lines complexity = ⟨requested, requested, none⟩) := by
  rw [← isTooLarge_iff]
  by_cases h : requested = auto ∧ isTooLarge lines complexity = true
  · exact .inl ⟨h.1, h.2, if_pos h⟩
  · exact .inr ⟨h, if_neg h⟩

end Mode

/-- The mode that a capsule is migrated in, by its own size. -/
def ParsedCapsule.selection (c : ParsedCapsule) (requested : Mode) : Mode.Selection :=
  Mode.select c.metadata.id requested c.metrics.lines c.metrics.complexity

/-! ### What is left to do -/

namespace Plan

theorem actionsOfMode_ne_nil {mode : Mode} (h : mode ≠ .auto) (p : Preserved) :
    actionsOfMode mode p ≠ [] := by
  cases mode with
  | auto => exact absurd rfl h
  | semi => simp [actionsOfMode]
  | manual => simp [actionsOfMode]

/-- Every mode but the mechanical one leaves something to do, whatever is in the capsule. -/
theorem manualActions_ne_nil (c : ParsedCapsule) {mode : Mode} (h : mode ≠ .auto)
    (time : Timestamp) : (ofCapsule c mode time).manualActions ≠ [] := by
  have hactions := actionsOfMode_ne_nil h (ofCapsule c mode time).preserved
  simp only [ofCapsule, ne_eq, List.append_eq_nil_iff, not_and]
  exact fun hnil => absurd hnil.1 hactions

end Plan

namespace Status

variable {generation : GenerationResult} {validation : Validation}

theorem ofParts_of_ne_failed (h : ofParts generation validation ≠ failed)
    (hactions : generation.mode ≠ .auto → generation.manualActions ≠ []) :
    ofParts generation validation = if generation.mode = .auto then complete else inProgress := by
  unfold ofParts at h ⊢
  split
  · rename_i hfailed
    exact absurd (if_pos hfailed) h
  · by_cases hauto : generation.mode = .auto
    · simp [hauto]
    · simp [hauto, hactions hauto]

end Status

/-! ### Results of a generation -/

namespace Generation

variable {formatter : Option Formatter} {time : Timestamp} {d d' : Disk} {c : ParsedCapsule}
  {output : Path} {mode : Mode} {r : GenerationResult}

theorem mode_of_run (h : run formatter time d c output mode = (d', .ok r)) : r.mode = mode := by
  obtain ⟨made, path, -, -, rfl⟩ := run_eq_ok h
  rfl

theorem manualActions_of_run (h : run formatter time d c output mode = (d', .ok r)) :
    r.manualActions = (Plan.ofCapsule c mode time).manualActions := by
  obtain ⟨made, path, -, -, rfl⟩ := run_eq_ok h
  rfl

theorem warnings_of_run (h : run formatter time d c output mode = (d', .ok r)) :
    r.warnings = (Plan.ofCapsule c mode time).preserved.skipped.map skippedWarning ++
      countWarning r.files.length := by
  obtain ⟨made, path, -, -, rfl⟩ := run_eq_ok h
  rfl

theorem exists_run_of_prepare {made : Disk} {path : Path} (formatter : Option Formatter)
    (time : Timestamp) (mode : Mode) (h : prepare d c.metadata.id output = (made, .ok path)) :
    ∃ d' r, run formatter time d c output mode = (d', .ok r) := by
  unfold run
  rw [h]
  exact ⟨_, _, rfl⟩

theorem errors_ne_nil_iff_of_run (h : run formatter time d c output mode = (d', .ok r)) :
    r.errors ≠ [] ↔ ∃ k, ∀ f ∈ r.files, f.kind ≠ k := by
  obtain ⟨made, path, hprepare, -, rfl⟩ := run_eq_ok h
  have hpath := Disk.canonical_text_ne_empty (prepare_eq_ok hprepare).2
  obtain ⟨texts, htexts⟩ : ∃ texts : FileKind → String,
      ∀ k, content formatter (Plan.ofCapsule c mode time) k = .ok (texts k) :=
    ⟨_, content_ofCapsule formatter c mode time⟩
  have hsuccess := success_iff (Plan.ofCapsule c mode time) path made texts
  rw [writeFiles_outcomes hpath FileKind.nodup_all htexts]
  rw [GenerationResult.success, List.isEmpty_iff] at hsuccess
  rw [ne_eq, hsuccess, List.eq_nil_iff_forall_not_mem, not_forall, report_outcomes]
  refine exists_congr fun k => ?_
  simp only [List.mem_map, List.mem_filter, FileKind.mem_all, true_and, decide_eq_true_eq,
    forall_exists_index, and_imp, not_not]
  constructor
  · rintro hk f l hl rfl rfl
    exact hl hk
  · intro hall
    by_contra hk
    exact hall _ k hk rfl rfl

theorem head?_skippedWarning (s : Skipped) : (skippedWarning s).toList.head? = some 'S' := by
  show ("Skipped original declaration " ++ s.name ++ " in " ++ s.target.fileName ++ ": " ++
    s.reason.message).toList.head? = some 'S'
  simp

theorem head?_of_mem_countWarning {n : Nat} {warning : String} (h : warning ∈ countWarning n) :
    warning.toList.head? = some 'O' := by
  unfold countWarning at h
  split at h
  · rw [List.mem_singleton.1 h]
    simp
  · simp at h

/-- No warning of a generation is about the mode: they start differently. -/
theorem downgradeMessage_notMem_of_run (h : run formatter time d c output mode = (d', .ok r))
    (id : String) (lines complexity : Nat) :
    Mode.downgradeMessage id lines complexity ∉ r.warnings := by
  have hhead := Mode.head?_downgradeMessage id lines complexity
  rw [warnings_of_run h]
  generalize Mode.downgradeMessage id lines complexity = message at hhead
  intro hmem
  rcases List.mem_append.1 hmem with hskipped | hcount
  · obtain ⟨s, -, rfl⟩ := List.mem_map.1 hskipped
    exact absurd ((head?_skippedWarning s).symm.trans hhead) (by decide)
  · exact absurd ((head?_of_mem_countWarning hcount).symm.trans hhead) (by decide)

end Generation

/-! ### Reports -/

/-- How a report answers what was asked for, when these are the files that were generated. -/
structure MigrationReport.Answers (r : MigrationReport) (requested : Mode)
    (files : List GeneratedFile) : Prop where
  within_of_auto : r.mode = .auto → r.metrics.lines ≤ 2000 ∧ r.metrics.complexity ≤ 30
  changed_iff : r.mode ≠ requested ↔
    requested = .auto ∧ (2000 < r.metrics.lines ∨ 30 < r.metrics.complexity)
  of_changed : r.mode ≠ requested → r.mode = .semi ∧
    r.generationWarnings.head? =
      some (Mode.downgradeMessage r.metadata.id r.metrics.lines r.metrics.complexity)
  of_kept : r.mode = requested →
    ∀ id lines complexity, Mode.downgradeMessage id lines complexity ∉ r.generationWarnings
  failed_iff : r.status = .failed ↔
    (∃ k : FileKind, ∀ f ∈ files, f.kind ≠ k) ∨ r.validation.isValid = false
  status_eq : r.status ≠ .failed →
    r.status = if r.mode = .auto then .complete else .inProgress

namespace MigrationReport

variable {formatter : Option Formatter} {time : Timestamp} {d d' : Disk} {c : ParsedCapsule}
  {dir : Path} {requested : Mode} {g : GenerationResult}

/-- The status goes by the files, the validation and the mode, since every mode but the mechanical
one leaves something to do. -/
theorem status_ofParts {mode : Mode} (hrun : Generation.run formatter time d c dir mode = (d', .ok g))
    (v : Validation) :
    (Status.ofParts g v = .failed ↔
      (∃ k : FileKind, ∀ f ∈ g.files, f.kind ≠ k) ∨ v.isValid = false) ∧
    (Status.ofParts g v ≠ .failed →
      Status.ofParts g v = if g.mode = .auto then .complete else .inProgress) := by
  constructor
  · rw [Status.ofParts_eq_failed_iff, Generation.errors_ne_nil_iff_of_run hrun]
  · intro hfailed
    refine Status.ofParts_of_ne_failed hfailed fun hmode => ?_
    rw [Generation.mode_of_run hrun] at hmode
    rw [Generation.manualActions_of_run hrun]
    exact Plan.manualActions_ne_nil c hmode time

theorem answers_ofParts (hrun : Generation.run formatter time d c dir
      (c.selection requested).effective = (d', .ok g)) (v : Validation) (hours : Float) :
    (ofParts time c { g with warnings := (c.selection requested).warning.toList ++ g.warnings }
      v hours).Answers requested g.files := by
  have hmode := Generation.mode_of_run hrun
  have hplain := Generation.downgradeMessage_notMem_of_run hrun
  obtain ⟨hfailed, hstatus⟩ := status_ofParts hrun v
  rcases Mode.select_cases c.metadata.id requested c.metrics.lines c.metrics.complexity with
    ⟨hauto, hlarge, hselect⟩ | ⟨hfits, hselect⟩
  · rw [ParsedCapsule.selection, hselect] at hmode ⊢
    have hchanged : g.mode ≠ requested := fun h =>
      Mode.noConfusion (hmode.symm.trans (h.trans hauto))
    exact {
      within_of_auto := fun h => absurd (h.trans hauto.symm) hchanged
      changed_iff := iff_of_true hchanged ⟨hauto, hlarge⟩
      of_changed := fun _ => ⟨hmode, rfl⟩
      of_kept := fun h => absurd h hchanged
      failed_iff := hfailed
      status_eq := hstatus }
  · rw [ParsedCapsule.selection, hselect] at hmode ⊢
    exact {
      within_of_auto := fun h => by
        have hsmall := not_and.1 hfits (hmode.symm.trans h)
        exact ⟨Nat.le_of_not_lt fun hl => hsmall (.inl hl),
          Nat.le_of_not_lt fun hc => hsmall (.inr hc)⟩
      changed_iff := iff_of_false (fun h => h hmode) hfits
      of_changed := fun h => absurd hmode h
      of_kept := fun _ => hplain
      failed_iff := hfailed
      status_eq := hstatus }

end MigrationReport

namespace Tools

variable {t : Tools} {d d' : Disk} {input output : Path} {requested : Mode} {r : MigrationReport}

theorem migrateParsed_eq_ok {c : ParsedCapsule}
    (h : t.migrateParsed d c output requested = (d', .ok r)) :
    ∃ g, Generation.run t.formatter t.time d c (packageDirectory output c.metadata.id)
        (c.selection requested).effective = (d', .ok g) ∧
      r = .ofParts t.time c
        { g with warnings := (c.selection requested).warning.toList ++ g.warnings }
        (Validation.ofDirectory t.provider d' (packageDirectory output c.metadata.id)) t.hours := by
  unfold migrateParsed at h
  dsimp only at h
  split at h
  · simp at h
  · rename_i made g hrun
    obtain ⟨rfl, hr⟩ := Prod.mk.inj h
    exact ⟨g, hrun, (Except.ok.inj hr).symm⟩

theorem exists_report_of_prepare {c : ParsedCapsule} {made : Disk} {path : Path} (t : Tools)
    (requested : Mode) (h : Generation.prepare d c.metadata.id
      (packageDirectory output c.metadata.id) = (made, .ok path)) :
    ∃ d' r, t.migrateParsed d c output requested = (d', .ok r) := by
  obtain ⟨d', g, hrun⟩ := Generation.exists_run_of_prepare t.formatter t.time
    (c.selection requested).effective h
  rw [ParsedCapsule.selection] at hrun
  unfold migrateParsed
  dsimp only
  rw [hrun]
  exact ⟨_, _, rfl⟩

/-- A report answers what was asked for. Its package is generated in the mode of the report and
judged as it then stands on the disk; the mode is the one that was asked for unless the capsule is
too large to be migrated all mechanically; and the status goes by the files, the validation and the
mode alone. -/
theorem migrate_answers (t : Tools) (d d' : Disk) (input output : Path) (requested : Mode)
    (r : MigrationReport) (h : t.migrate d input output requested = (d', .ok r)) :
    ∃ c g, ParsedCapsule.ofDirectory t.sources d input = .ok c ∧
      Generation.run t.formatter t.time d c (packageDirectory output c.metadata.id) r.mode =
        (d', .ok g) ∧
      r.validation = Validation.ofDirectory t.provider d' (packageDirectory output c.metadata.id) ∧
      r.metadata = c.metadata ∧ r.metrics = c.metrics ∧ r.Answers requested g.files := by
  cases hparse : ParsedCapsule.ofDirectory t.sources d input with
  | error e => simp [migrate_of_parse_error hparse] at h
  | ok c =>
    rw [migrate_of_parsed hparse] at h
    obtain ⟨g, hrun, rfl⟩ := migrateParsed_eq_ok h
    have hanswers := MigrationReport.answers_ofParts hrun
      (Validation.ofDirectory t.provider d' (packageDirectory output c.metadata.id)) t.hours
    refine ⟨c, g, rfl, ?_, rfl, rfl, rfl, hanswers⟩
    rw [← Generation.mode_of_run hrun] at hrun
    exact hrun

/-- Tools that find nothing wrong with any source. -/
def lenient : Tools := ⟨.standard, none, ⟨"silent", fun _ _ _ => .ok []⟩, default, 0⟩

/-- A disk with a capsule of one source, and an empty directory for its package. -/
def packageDisk (source : String) : Disk :=
  ⟨.directory [("Mail Sender", .directory [("a.ts", .file (.text source))]),
    ("out", .directory [("mail-sender", .directory [])])], []⟩

section

variable (source : String)

theorem ofDirectory_packageDisk :
    ParsedCapsule.ofDirectory lenient.sources (packageDisk source) ⟨"Mail Sender"⟩ =
      .ok (.ofSources ⟨"Mail Sender"⟩ [⟨⟨"Mail Sender/a.ts"⟩, source⟩] none) := by
  have hentry : (packageDisk source).entry ⟨"Mail Sender"⟩ =
      .ok (.directory [("a.ts", .file (.text source))]) := rfl
  have hadmits : lenient.sources.admits "a.ts" ["a.ts"] = true := by decide +kernel
  have hmanifest : ∀ candidate ∈ Manifest.candidates, candidate.1 ≠ "a.ts" := by decide
  have hpath : Path.child ⟨"Mail Sender"⟩ "a.ts" = ⟨"Mail Sender/a.ts"⟩ := by decide
  rw [← hpath]
  exact ParsedCapsule.ofDirectory_of_single (by decide) (by decide) hadmits hmanifest hentry

theorem prepare_packageDisk : Generation.prepare (packageDisk source) "mail-sender"
    (packageDirectory ⟨"out"⟩ "mail-sender") = (packageDisk source, .ok ⟨"/out/mail-sender"⟩) :=
  rfl

theorem id_packageDisk : (ParsedCapsule.ofSources ⟨"Mail Sender"⟩
    [⟨⟨"Mail Sender/a.ts"⟩, source⟩] none).metadata.id = "mail-sender" := by
  rw [ParsedCapsule.id_ofSources]
  decide +kernel

theorem lines_packageDisk : (ParsedCapsule.ofSources ⟨"Mail Sender"⟩
    [⟨⟨"Mail Sender/a.ts"⟩, source⟩] none).metrics.lines = Text.lineCount source := rfl

end

def notes (n : Nat) : String := String.ofList (Text.joined (List.replicate n "// note".toList))

theorem lineCount_notes (n : Nat) : Text.lineCount (notes n) = n := by
  have htidy : ∀ line ∈ List.replicate n "// note".toList, line = [] ∨ Text.IsTidy line := by
    intro line hline
    rw [List.eq_of_mem_replicate hline]
    exact .inr (by decide)
  have hlines := Text.charLines_joined htidy []
  rw [List.append_nil] at hlines
  rw [Text.lineCount, notes, String.toList_ofList, hlines]
  simp [Text.charLines, Text.cutLines, Text.joinReturns]

/-- A capsule that is too large to be migrated all mechanically is in progress after its migration,
and the first warning says why. -/
theorem migrate_answers_notes : ∃ d' r,
    lenient.migrate (packageDisk (notes 2001)) ⟨"Mail Sender"⟩ ⟨"out"⟩ .auto = (d', .ok r) ∧
      r.metrics.lines = 2001 ∧ r.mode = .semi ∧ r.status = .inProgress ∧
      r.generationWarnings.head? =
        some (Mode.downgradeMessage "mail-sender" 2001 r.metrics.complexity) := by
  generalize hsource : notes 2001 = source
  have hid := id_packageDisk source
  obtain ⟨d', r, hmigrate⟩ :=
    lenient.exists_report_of_prepare .auto (hid.symm ▸ prepare_packageDisk source)
  rw [← migrate_of_parsed (ofDirectory_packageDisk source)] at hmigrate
  obtain ⟨c, g, hc, hrun, hvalidation, hmetadata, hmetrics, hanswers⟩ :=
    migrate_answers lenient (packageDisk source) d' ⟨"Mail Sender"⟩ ⟨"out"⟩ .auto r hmigrate
  obtain rfl := Except.ok.inj ((ofDirectory_packageDisk source).symm.trans hc)
  rw [hid] at hrun hvalidation
  have hlines : r.metrics.lines = 2001 := by
    rw [hmetrics, lines_packageDisk, ← hsource]
    exact lineCount_notes 2001
  have hall := Generation.kinds_of_run hrun fun made path h => by
    rw [hid, prepare_packageDisk, Prod.mk.injEq, Except.ok.injEq] at h
    obtain ⟨rfl, rfl⟩ := h
    exact Generation.blocked_eq_nil_of_entry (by decide) rfl fun name => rfl
  have hvalid : r.validation.isValid = true := by
    have hplain : Generation.run (if false then some .whitespace else none) lenient.time
      (packageDisk source) _ _ r.mode = (d', .ok g) := hrun
    rw [hvalidation]
    exact (Validation.isValid_generated_iff hplain hall (.inr ⟨rfl, fun _ h => nomatch h⟩)
      lenient.provider rfl).2 rfl
  have hchanged : r.mode ≠ .auto := hanswers.changed_iff.2 ⟨rfl, .inl (by omega)⟩
  obtain ⟨hmode, hwarning⟩ := hanswers.of_changed hchanged
  have hfailed : r.status ≠ .failed := by
    rw [ne_eq, hanswers.failed_iff, hvalid]
    rintro (⟨k, hk⟩ | h)
    · have hmem : k ∈ g.files.map (·.kind) := hall ▸ k.mem_all
      obtain ⟨f, hf, rfl⟩ := List.mem_map.1 hmem
      exact hk f hf rfl
    · exact Bool.noConfusion h
  refine ⟨d', r, hmigrate, hlines, hmode, ?_, ?_⟩
  · rw [hanswers.status_eq hfailed, hmode]
    rfl
  · rw [hwarning, hmetadata, hid, hlines]

end Tools

end ServiceCapsule
