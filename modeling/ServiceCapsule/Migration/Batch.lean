import ServiceCapsule.Migration.Single

/-!
# Batches

Capsules are migrated in groups of neighbours. All members of a group are attempted before the next
group starts; a batch that stops on errors stops after the group of the first one. A capsule whose
id an earlier capsule has is not migrated.
-/

namespace ServiceCapsule

structure Batch where
  capsules : List Path
  output : Path
  /-- how many capsules make a group -/
  parallel : Nat
  mode : Mode
  stopOnError : Bool
  saveReports : Bool
  deriving DecidableEq, Repr, Inhabited

namespace Batch

/-! ### Groups -/

/-- Groups of `n + 1` neighbours; the last group may have fewer. -/
def groups {α : Type} (n : Nat) : List α → List (List α)
  | [] => []
  | x :: xs => (x :: xs.take n) :: groups n (xs.drop n)
termination_by xs => xs.length
decreasing_by simp only [List.length_cons, List.length_drop]; omega

@[simp] theorem groups_nil {α : Type} (n : Nat) : groups n ([] : List α) = [] := by
  rw [groups]

theorem groups_cons {α : Type} (n : Nat) (x : α) (xs : List α) :
    groups n (x :: xs) = (x :: xs.take n) :: groups n (xs.drop n) := by
  rw [groups]

theorem flatten_groups {α : Type} (n : Nat) (xs : List α) : (groups n xs).flatten = xs := by
  fun_induction groups n xs with
  | case1 => rfl
  | case2 x xs ih => simp [ih]

theorem length_le_of_mem_groups {α : Type} {n : Nat} {xs group : List α}
    (h : group ∈ groups n xs) : group.length ≤ n + 1 := by
  fun_induction groups n xs with
  | case1 => simp at h
  | case2 x xs ih =>
    rcases List.mem_cons.1 h with rfl | h
    · simp only [List.length_cons, List.length_take]
      omega
    · exact ih h

/-! ### Ids -/

/-- An id, and the capsule that has it. -/
structure Claim where
  id : String
  first : Path
  deriving DecidableEq, Repr

/-- For each capsule in order the claim of an earlier one on its id. The first capsule with an id
claims it; an id that is not known is not claimed. -/
def earlierClaims (resolve : Path → Option String) (taken : List (String × Path)) :
    List Path → List (Option Claim)
  | [] => []
  | path :: rest =>
    match resolve path with
    | none => none :: earlierClaims resolve taken rest
    | some id =>
      match taken.lookup id with
      | some first => some ⟨id, first⟩ :: earlierClaims resolve taken rest
      | none => none :: earlierClaims resolve ((id, path) :: taken) rest

theorem length_earlierClaims (resolve : Path → Option String) (taken : List (String × Path))
    (paths : List Path) : (earlierClaims resolve taken paths).length = paths.length := by
  fun_induction earlierClaims resolve taken paths <;> simp_all

structure Candidate where
  path : Path
  claim : Option Claim
  deriving DecidableEq, Repr

/-- Capsules with their claims, as far as there are both. -/
def candidates (paths : List Path) (claims : List (Option Claim)) : List Candidate :=
  List.zipWith Candidate.mk paths claims

/-- Groups with their claims. The claims of a group start where the groups before it end. -/
def claimedGroups (parallel : Nat) (claims : List (Option Claim)) (index : Nat) :
    List (List Path) → List (List Candidate)
  | [] => []
  | group :: rest =>
    candidates group (claims.drop (index * parallel)) ::
      claimedGroups parallel claims (index + 1) rest

/-! ### Attempts -/

abbrev Outcome := Except MigrationError MigrationReport

structure Attempt where
  path : Path
  outcome : Outcome

namespace Attempt

def report? (a : Attempt) : Option MigrationReport := a.outcome.toOption

def error? (a : Attempt) : Option MigrationError :=
  match a.outcome with
  | .ok _ => none
  | .error e => some e

/-- The name of a capsule in messages: that of its directory. -/
def label (a : Attempt) : String := a.path.fileName?.getD a.path.text

/-- What is printed of an error. -/
def complaint? (a : Attempt) : Option String :=
  a.error?.map fun e => "✗ " ++ a.label ++ ": " ++ e.shown

end Attempt

def reportsOf (attempts : List Attempt) : List MigrationReport := attempts.filterMap (·.report?)

def firstError? : List Attempt → Option (String × MigrationError)
  | [] => none
  | a :: rest =>
    match a.error? with
    | some e => some (a.label, e)
    | none => firstError? rest

variable {σ : Type} (migrate : σ → Path → σ × Outcome)

/-- Migrate a capsule, unless its id is taken. -/
def attempt (s : σ) (c : Candidate) : σ × Attempt :=
  match c.claim with
  | some claim => (s, ⟨c.path, .error (.duplicate claim.id claim.first)⟩)
  | none =>
    let (s', outcome) := migrate s c.path
    (s', ⟨c.path, outcome⟩)

theorem path_attempt (s : σ) (c : Candidate) : (attempt migrate s c).2.path = c.path := by
  unfold attempt
  split <;> rfl

def attemptAll (s : σ) : List Candidate → σ × List Attempt
  | [] => (s, [])
  | c :: rest =>
    let (s', a) := attempt migrate s c
    let (s'', as) := attemptAll s' rest
    (s'', a :: as)

theorem length_attemptAll (s : σ) (cs : List Candidate) :
    (attemptAll migrate s cs).2.length = cs.length := by
  induction cs generalizing s with
  | nil => rfl
  | cons c cs ih => simp [attemptAll, ih]

/-- What has happened in a batch so far. -/
structure Trace where
  attempts : List Attempt
  /-- the progress after each group -/
  progress : List Progress

def Trace.empty : Trace := ⟨[], []⟩

def Trace.reports (t : Trace) : List MigrationReport := reportsOf t.attempts

/-- The trace with one more group, in a batch of some number of capsules. -/
def Trace.extend (t : Trace) (total : Nat) (attempts : List Attempt) : Trace :=
  let all := t.attempts ++ attempts
  ⟨all, t.progress ++ [Progress.ofReports total all.length (reportsOf all)]⟩

/-- How the groups of a batch ended. -/
structure Ended (σ : Type) where
  state : σ
  trace : Trace
  /-- the error that the batch was stopped by -/
  stoppedBy : Option (String × MigrationError)

def runGroups (stop : Bool) (total : Nat) (s : σ) (t : Trace) : List (List Candidate) → Ended σ
  | [] => ⟨s, t, none⟩
  | group :: rest =>
    let (s', attempts) := attemptAll migrate s group
    let t' := t.extend total attempts
    match if stop then firstError? attempts else none with
    | some e => ⟨s', t', some e⟩
    | none => runGroups stop total s' t' rest

/-! ### Whole batches -/

/-- What a batch printed, and what came of it. -/
structure Finished where
  stdout : List String
  stderr : List String
  result : Except MigrationError BatchReport

/-- Save the reports of a batch if that is wanted. -/
def saved (b : Batch) (d : Disk) (report : BatchReport) :
    Disk × Except MigrationError BatchReport :=
  if b.saveReports then
    match report.save d b.output with
    | (d', .ok _) => (d', .ok report)
    | (d', .error e) => (d', .error (.save e))
  else (d, .ok report)

/-- The ids under which capsules would be migrated, as far as they are known. -/
def resolver (d : Disk) (path : Path) : Option String := (Metadata.resolveIdIn d path).toOption

/-- The claims on the capsules of a batch, made before any of them is migrated. -/
def claims (b : Batch) (d : Disk) : List (Option Claim) := earlierClaims (resolver d) [] b.capsules

/-- Run all groups of a batch, or those up to the first one with an error. -/
def ended (b : Batch) (migrate : Disk → Path → Disk × Outcome) (d : Disk) : Ended Disk :=
  runGroups migrate b.stopOnError b.capsules.length d .empty
    (claimedGroups b.parallel (b.claims d) 0 (groups (b.parallel - 1) b.capsules))

/-- What comes of a batch once its groups have ended. -/
def finish (b : Batch) (time : Timestamp) (ended : Ended Disk) : Disk × Finished :=
  let stdout := ended.trace.progress.map Progress.line
  let stderr := ended.trace.attempts.filterMap Attempt.complaint?
  match ended.stoppedBy with
  | some (capsule, e) => (ended.state, ⟨stdout, stderr, .error (.aborted capsule e)⟩)
  | none =>
    let (d', result) := b.saved ended.state (.ofReports time b.capsules.length ended.trace.reports)
    (d', ⟨stdout, stderr, result⟩)

/-- Run a batch with a way to migrate one capsule. -/
def runWith (b : Batch) (migrate : Disk → Path → Disk × Outcome) (time : Timestamp) (d : Disk) :
    Disk × Finished :=
  if b.parallel = 0 then
    (d, ⟨[], [], .error (.settings "batch parallelism must be at least 1")⟩)
  else b.finish time (b.ended migrate d)

def run (b : Batch) (t : Tools) (d : Disk) : Disk × Finished :=
  b.runWith (fun d path => t.migrate d path b.output b.mode) t.time d

end Batch
end ServiceCapsule
