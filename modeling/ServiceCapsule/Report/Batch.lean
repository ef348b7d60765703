import ServiceCapsule.Decimal.Dyadic
import ServiceCapsule.Report.Migration

/-!
# Reports of a batch

Totals over the reports of a batch, and how far a running batch has come. A capsule without a
report counts as failed.
-/

namespace ServiceCapsule

namespace MigrationReport

def successes (reports : List MigrationReport) : Nat := (reports.filter (!·.isFailed)).length

theorem successes_le (reports : List MigrationReport) : successes reports ≤ reports.length :=
  List.length_filter_le _ _

/-- The sum of no numbers is the negative zero, which changes no other number. -/
def total (values : List Float) : Float := values.foldl (· + ·) (-0.0)

/-- The mean of no numbers is zero. -/
def mean (values : List Float) : Float :=
  if values.isEmpty then 0.0 else values.foldl (· + ·) 0.0 / Float.ofNat values.length

end MigrationReport

structure BatchReport where
  capsules : Nat
  successful : Nat
  failed : Nat
  /-- hours over all reports -/
  time : Float
  /-- mean over all reports -/
  score : Float
  linesBefore : Nat
  linesAfter : Nat
  reports : List MigrationReport
  generatedAt : Timestamp
  deriving Repr, Inhabited

namespace BatchReport

def hasFailures (b : BatchReport) : Bool := decide (0 < b.failed)

def countWith (b : BatchReport) (status : Status) : Nat :=
  (b.reports.filter fun r => r.status == status).length

/-- Capsules that no report is about. -/
def unreported (b : BatchReport) : Nat := b.capsules - b.reports.length

def ofReports (time : Timestamp) (capsules : Nat) (reports : List MigrationReport) :
    BatchReport where
  capsules := capsules
  successful := MigrationReport.successes reports
  failed := (reports.length - MigrationReport.successes reports) + (capsules - reports.length)
  time := MigrationReport.total (reports.map (·.time))
  score := MigrationReport.mean (reports.map (·.score))
  linesBefore := Metrics.total (reports.map (·.before.lines))
  linesAfter := Metrics.total (reports.map (·.after.lines))
  reports := reports
  generatedAt := time

theorem successful_add_failed (time : Timestamp) {capsules : Nat} {reports : List MigrationReport}
    (h : reports.length ≤ capsules) :
    (ofReports time capsules reports).successful + (ofReports time capsules reports).failed =
      capsules := by
  have := MigrationReport.successes_le reports
  simp only [ofReports]
  omega

end BatchReport

/-- How far a batch has come. -/
structure Progress where
  capsules : Nat
  processed : Nat
  successful : Nat
  failed : Nat
  percent : Float
  /-- hours for one capsule -/
  averageTime : Float
  /-- hours for the capsules that are left -/
  remainingTime : Float
  deriving Repr, Inhabited

namespace Progress

def percentOf (processed capsules : Nat) : Float :=
  if capsules == 0 then 100.0
  else Validation.atMost 100.0 (Float.ofNat processed / Float.ofNat capsules * 100.0)

def ofReports (capsules processed : Nat) (reports : List MigrationReport) : Progress :=
  let average := MigrationReport.mean (reports.map (·.time))
  { capsules := capsules
    processed := processed
    successful := MigrationReport.successes reports
    failed := processed - MigrationReport.successes reports
    percent := percentOf processed capsules
    averageTime := average
    remainingTime := average * Float.ofNat (capsules - processed) }

def counts (p : Progress) : String :=
  "Progress: " ++ Nat.repr p.processed ++ "/" ++ Nat.repr p.capsules ++ " (" ++
    Decimal.fixed 1 p.percent ++ "%) | " ++ Nat.repr p.successful ++ " ok, " ++
    Nat.repr p.failed ++ " failed"

def times (p : Progress) : String :=
  " | avg " ++ Decimal.fixed 3 p.averageTime ++ "h/capsule | ~" ++
    Decimal.fixed 3 p.remainingTime ++ "h remaining"

def line (p : Progress) : String := p.counts ++ p.times

end Progress
end ServiceCapsule
