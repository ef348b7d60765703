import ServiceCapsule.Report.Batch

/-!
# Reports as text

Reports for readers: headings, tables and lists.
-/

namespace ServiceCapsule

def Status.badge : Status → String
  | pending => "⏳ pending"
  | inProgress => "🔧 in progress"
  | complete => "✅ complete"
  | failed => "❌ failed"

def unlined (lines : List String) : String := String.join (lines.map (· ++ "\n"))

namespace MigrationReport

/-- A heading and a list under it; nothing if the list is empty. -/
def listed (heading : String) (items : List String) : List String :=
  if items.isEmpty then [] else [heading, ""] ++ items.map ("- " ++ ·) ++ [""]

def summaryLines (r : MigrationReport) : List String :=
  ["## Summary", "", "| Field | Value |", "|-------|-------|",
    "| Capsule ID | `" ++ r.id ++ "` |",
    "| Version | " ++ r.metadata.version ++ " |",
    "| Category | " ++ r.metadata.category ++ " |",
    "| Status | " ++ r.status.badge ++ " |",
    "| Mode | " ++ r.mode.name ++ " |",
    "| Time taken | " ++ Decimal.fixed 3 r.time ++ "h |",
    "| Quality score | " ++ Decimal.fixed 1 r.score ++ "/100 |",
    "| Output | `" ++ r.outputDirectory.text ++ "` |",
    "| Generated | " ++ r.generatedAt.shown ++ " |", ""]

def sizeLine (side : String) (s : CodeSize) : String :=
  "| " ++ side ++ " | " ++ Nat.repr s.files ++ " | " ++ Nat.repr s.lines ++ " |"

def metricsLines (r : MigrationReport) : List String :=
  ["## Complexity", "",
    "- Cyclomatic complexity: " ++ Nat.repr r.metrics.complexity,
    "- Maintainability index: " ++ Decimal.fixed 1 r.metrics.maintainability,
    "- Estimated migration effort: " ++ Decimal.fixed 1 r.metrics.hours ++ "h", ""]

def checkLine (c : Check) : String :=
  "- [" ++ (if c.passed then "x" else " ") ++ "] `" ++ c.name ++ "`: " ++ c.message

def manualLines (r : MigrationReport) : List String :=
  ["## Manual Actions", ""] ++
    if r.manualActions.isEmpty then ["None."] else r.manualActions.map ("- [ ] " ++ ·)

def markdown (r : MigrationReport) : String :=
  unlined (["# Migration Report: " ++ r.metadata.name, ""] ++ r.summaryLines ++
    ["## Code Size", "", "| | Files | Lines |", "|---|---|---|", sizeLine "Before" r.before,
      sizeLine "After" r.after, ""] ++
    r.metricsLines ++ ["## Validation", ""] ++ r.validation.checks.map checkLine ++ [""] ++
    listed "### Errors" r.validation.errors ++
    listed "### Warnings" r.validation.warnings ++
    listed "### Generation Errors" r.generationErrors ++
    listed "### Generation Warnings" r.generationWarnings ++ r.manualLines)

def row (r : MigrationReport) : String :=
  "| `" ++ r.id ++ "` | " ++ r.status.badge ++ " | " ++ r.mode.name ++ " | " ++
    Decimal.fixed 1 r.score ++ " | " ++ Nat.repr r.before.lines ++ " → " ++
    Nat.repr r.after.lines ++ " | " ++ Decimal.fixed 3 r.time ++ "h |"

end MigrationReport

namespace BatchReport

def summaryLines (b : BatchReport) : List String :=
  ["## Summary", "",
    "- Total capsules: " ++ Nat.repr b.capsules,
    "- Successful: " ++ Nat.repr b.successful,
    "- Failed: " ++ Nat.repr b.failed,
    "- Complete / in progress: " ++ Nat.repr (b.countWith .complete) ++ " / " ++
      Nat.repr (b.countWith .inProgress),
    "- Total time: " ++ Decimal.fixed 3 b.time ++ "h",
    "- Average quality score: " ++ Decimal.fixed 1 b.score,
    "- Lines: " ++ Nat.repr b.linesBefore ++ " before, " ++ Nat.repr b.linesAfter ++ " after",
    ""]

def unreportedLines (b : BatchReport) : List String :=
  if b.unreported = 0 then []
  else ["", Nat.repr b.unreported ++ " capsule(s) failed before a report could be produced."]

def tableLines (b : BatchReport) : List String :=
  if b.reports.isEmpty then ["No capsules produced a report."]
  else
    ["| Capsule | Status | Mode | Quality | Lines (before → after) | Time |",
      "|---------|--------|------|---------|------------------------|------|"] ++
      b.reports.map MigrationReport.row ++ b.unreportedLines

def markdown (b : BatchReport) : String :=
  unlined (["# Batch Migration Report", "", "Generated " ++ b.generatedAt.shown, ""] ++
    b.summaryLines ++ ["## Capsules", ""] ++ b.tableLines)

end BatchReport
end ServiceCapsule
