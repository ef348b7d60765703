import ServiceCapsule.Capsule.Encoding
import ServiceCapsule.Json.Writer
import ServiceCapsule.Report.Batch
import ServiceCapsule.Report.Markdown
import ServiceCapsule.Validation.Encoding

/-!
# Saving reports

All reports of an output directory are kept in one directory in it. Each report is saved twice, for
readers and as JSON, under a name made from the id of its capsule; the report of a batch has a name
of its own.
-/

namespace ServiceCapsule

/-! ### Reports as JSON -/

def Timestamp.toJson (t : Timestamp) : Json := .text t.text

def CodeSize.toJson (s : CodeSize) : Json :=
  .object [("files", .nat s.files), ("lines", .nat s.lines)]

def MigrationReport.toJson (r : MigrationReport) : Json :=
  .object [("metadata", r.metadata.toJson), ("status", .text r.status.name),
    ("mode", r.mode.toJson), ("time_taken", .real r.time), ("before", r.before.toJson),
    ("after", r.after.toJson), ("complexity", r.metrics.toJson),
    ("validation", r.validation.toJson), ("generation_errors", .texts r.generationErrors),
    ("generation_warnings", .texts r.generationWarnings),
    ("manual_actions", .texts r.manualActions), ("output_dir", r.outputDirectory.toJson),
    ("generated_at", r.generatedAt.toJson)]

def BatchReport.toJson (b : BatchReport) : Json :=
  .object [("total_capsules", .nat b.capsules), ("successful_migrations", .nat b.successful),
    ("failed_migrations", .nat b.failed), ("total_time_taken", .real b.time),
    ("avg_quality_score", .real b.score), ("total_lines_before", .nat b.linesBefore),
    ("total_lines_after", .nat b.linesAfter),
    ("reports", .list (b.reports.map MigrationReport.toJson)),
    ("generated_at", b.generatedAt.toJson)]

def Progress.toJson (p : Progress) : Json :=
  .object [("total_capsules", .nat p.capsules), ("processed_capsules", .nat p.processed),
    ("successful", .nat p.successful), ("failed", .nat p.failed),
    ("percent_complete", .real p.percent), ("average_time_per_capsule", .real p.averageTime),
    ("estimated_time_remaining", .real p.remainingTime)]

/-! ### Saving -/

structure ReportError where
  path : Path
  cause : FileError
  deriving DecidableEq, Repr, Inhabited

namespace ReportError

def code (_ : ReportError) : String := "REPORT_IO"

def message (e : ReportError) : String :=
  "Failed to write report " ++ Text.quoted e.path.text ++ ": " ++ e.cause.message

end ReportError

namespace Saving

/-- The directory of the reports of an output directory. -/
def directory (output : Path) : Path := output.child "reports"

def filesOf (stem markdown : String) (json : Json) : List (String × String) :=
  [(stem ++ ".md", markdown), (stem ++ ".json", json.pretty 0)]

def stemOf (id : String) : String := id ++ "-migration-report"

def batchStem : String := "batch-migration-report"

def writeAll (dir : Path) (d : Disk) :
    List (String × String) → Disk × Except ReportError (List Path)
  | [] => (d, .ok [])
  | (name, text) :: rest =>
    let path := dir.child name
    match d.write path (.text text) with
    | .error e => (d, .error ⟨path, e⟩)
    | .ok d' =>
      let (d'', written) := writeAll dir d' rest
      (d'', written.map (path :: ·))

/-- Save files in the directory of the reports, which is made if it is not there. -/
def save (d : Disk) (output : Path) (files : List (String × String)) :
    Disk × Except ReportError (List Path) :=
  let dir := directory output
  match d.makeDirectories dir with
  | (d', .error e) => (d', .error ⟨dir, e⟩)
  | (d', .ok ()) => writeAll dir d' files

end Saving

def MigrationReport.files (r : MigrationReport) : List (String × String) :=
  Saving.filesOf (Saving.stemOf r.id) r.markdown r.toJson

/-- The files that a batch is saved as: those of all its reports, and then its own. -/
def BatchReport.files (b : BatchReport) : List (String × String) :=
  b.reports.flatMap MigrationReport.files ++ Saving.filesOf Saving.batchStem b.markdown b.toJson

def MigrationReport.save (r : MigrationReport) (d : Disk) (output : Path) :
    Disk × Except ReportError (List Path) :=
  Saving.save d output r.files

def BatchReport.save (b : BatchReport) (d : Disk) (output : Path) :
    Disk × Except ReportError (List Path) :=
  Saving.save d output b.files

end ServiceCapsule
