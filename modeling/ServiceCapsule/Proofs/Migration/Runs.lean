import ServiceCapsule.Proofs.Migration.Groups

/-!
# Runs of batches

A batch whose capsules do not touch each other has one report, however large its groups are. A
batch that stops on errors tells of the first error in the order of its capsules and saves nothing.
-/

namespace ServiceCapsule
namespace Batch

variable {b : Batch} {migrate : Disk → Path → Disk × Outcome} {time : Timestamp} {d : Disk}

/-- The capsules of a batch with the claims on them. -/
def candidatesOn (b : Batch) (d : Disk) : List Candidate := candidates b.capsules (b.claims d)

theorem length_claims (b : Batch) (d : Disk) : (b.claims d).length = b.capsules.length :=
  length_earlierClaims _ _ _

theorem length_candidatesOn (b : Batch) (d : Disk) :
    (b.candidatesOn d).length = b.capsules.length :=
  length_candidates (b.length_claims d)

theorem map_path_candidatesOn (b : Batch) (d : Disk) :
    (b.candidatesOn d).map (·.path) = b.capsules :=
  Batch.map_path_candidates (b.length_claims d)

theorem ended_eq (hparallel : 1 ≤ b.parallel) :
    b.ended migrate d = runGroups migrate b.stopOnError b.capsules.length d .empty
      (groups (b.parallel - 1) (b.candidatesOn d)) := by
  have hgroups := claimedGroups_groups (n := b.parallel - 1) (b.length_claims d)
  rw [Nat.sub_add_cancel hparallel] at hgroups
  rw [ended, hgroups]
  rfl

theorem runWith_eq (hparallel : 1 ≤ b.parallel) :
    b.runWith migrate time d = b.finish time (b.ended migrate d) := by
  have hzero : b.parallel ≠ 0 := by omega
  simp [runWith, hzero]

theorem ended_goOn (hparallel : 1 ≤ b.parallel) (hstop : b.stopOnError = false)
    (migrate : Disk → Path → Disk × Outcome) (d : Disk) :
    (b.ended migrate d).state = (attemptAll migrate d (b.candidatesOn d)).1 ∧
      (b.ended migrate d).trace.attempts = (attemptAll migrate d (b.candidatesOn d)).2 ∧
      (b.ended migrate d).stoppedBy = none := by
  have hall := runGroups_goOn migrate b.capsules.length d .empty
    (groups (b.parallel - 1) (b.candidatesOn d))
  rw [flatten_groups] at hall
  rw [ended_eq hparallel, hstop]
  exact hall

theorem result_finish_of_none {ended : Ended Disk} (h : ended.stoppedBy = none) :
    (b.finish time ended).2.result =
      (b.saved ended.state (.ofReports time b.capsules.length ended.trace.reports)).2 := by
  simp [finish, h]

theorem finish_of_some {ended : Ended Disk} {capsule : String} {e : MigrationError}
    (h : ended.stoppedBy = some (capsule, e)) :
    (b.finish time ended).2.result = .error (.aborted capsule e) ∧
      (b.finish time ended).1 = ended.state := by
  simp [finish, h]

theorem reports_of_result (hparallel : 1 ≤ b.parallel) {report : BatchReport}
    (h : (b.runWith migrate time d).2.result = .ok report) :
    report.reports = (b.ended migrate d).trace.reports := by
  rw [runWith_eq hparallel] at h
  cases hstopped : (b.ended migrate d).stoppedBy with
  | some stopped => simp [(finish_of_some hstopped).1] at h
  | none =>
    rw [result_finish_of_none hstopped, saved] at h
    split at h
    · split at h
      · obtain rfl := Except.ok.inj h
        rfl
      · simp at h
    · obtain rfl := Except.ok.inj h
      rfl

theorem saved_of_save {report : BatchReport} (h : b.saveReports = true →
    ∃ after paths, report.save d b.output = (after, .ok paths)) :
    (b.saved d report).2 = .ok report := by
  unfold saved
  split
  · rename_i hsave
    obtain ⟨after, paths, hpaths⟩ := h hsave
    simp [hpaths]
  · rfl

theorem saved_ne_aborted (report : BatchReport) (capsule : String) (e : MigrationError) :
    (b.saved d report).2 ≠ .error (.aborted capsule e) := by
  unfold saved
  split
  · split <;> simp
  · simp

theorem disk_saved (b : Batch) (d : Disk) (report : BatchReport) :
    (b.saved d report).1 = d ∨ (b.saved d report).1 = (report.save d b.output).1 := by
  unfold saved
  split
  · right
    split <;> rename_i hsave <;> rw [hsave]
  · exact .inl rfl

theorem disk_finish (b : Batch) (time : Timestamp) (ended : Ended Disk) :
    (b.finish time ended).1 = ended.state ∨
      ∃ report : BatchReport, (b.finish time ended).1 = (report.save ended.state b.output).1 := by
  cases hstopped : ended.stoppedBy with
  | some stopped => exact .inl (finish_of_some hstopped).2
  | none =>
    simp only [finish, hstopped]
    exact (disk_saved _ _ _).imp_right fun hsave => ⟨_, hsave⟩

/-! ### Capsules that do not touch each other -/

def migrateAll (migrate : Disk → Path → Disk × Outcome) (d : Disk) (paths : List Path) : Disk :=
  paths.foldl (fun s path => (migrate s path).1) d

/-- What comes of migrating a capsule does not depend on the capsules before it. -/
def Independent (migrate : Disk → Path → Disk × Outcome) (d : Disk) (paths : List Path) : Prop :=
  ∀ before path, before ++ [path] <+: paths →
    (migrate (migrateAll migrate d before) path).2 = (migrate d path).2

/-- What comes of a capsule on its own; one whose id is taken is turned away. -/
def outcomeAlone (migrate : Disk → Path → Disk × Outcome) (d : Disk) (c : Candidate) : Outcome :=
  match c.claim with
  | some claim => .error (.duplicate claim.id claim.first)
  | none => (migrate d c.path).2

/-- The capsules that no earlier one has a claim on. -/
def accepted (cs : List Candidate) : List Path := (cs.filter (·.claim.isNone)).map (·.path)

theorem accepted_append (xs ys : List Candidate) :
    accepted (xs ++ ys) = accepted xs ++ accepted ys := by
  simp [accepted]

/-- Each capsule that is not turned away is migrated once, and they are migrated in order. -/
theorem state_attemptAll (migrate : Disk → Path → Disk × Outcome) (d : Disk)
    (cs : List Candidate) :
    (attemptAll migrate d cs).1 = migrateAll migrate d (accepted cs) := by
  induction cs generalizing d with
  | nil => rfl
  | cons c cs ih =>
    rw [attemptAll_cons, ih]
    cases hclaim : c.claim with
    | some claim => simp [accepted, attempt, hclaim]
    | none => simp [accepted, attempt, hclaim, migrateAll]

theorem attemptAll_of_independent {cs : List Candidate}
    (h : Independent migrate d (accepted cs)) :
    (attemptAll migrate d cs).2 = cs.map fun c => ⟨c.path, outcomeAlone migrate d c⟩ := by
  -- on its turn a capsule finds what the accepted ones before it left
  apply List.ext_getElem?
  intro j
  rw [getElem?_attemptAll, List.getElem?_map]
  cases hj : cs[j]? with
  | none => rfl
  | some c =>
    obtain ⟨hlt, hc⟩ := List.getElem?_eq_some_iff.1 hj
    simp only [Option.map_some, Option.some.injEq, state_attemptAll, attempt, outcomeAlone]
    cases hclaim : c.claim with
    | some claim => rfl
    | none =>
      have hsplit : cs = cs.take j ++ [c] ++ cs.drop (j + 1) := by
        rw [← hc, List.append_assoc, List.singleton_append, ← List.drop_eq_getElem_cons hlt,
          List.take_append_drop]
      have hprefix : accepted (cs.take j) ++ [c.path] <+: accepted cs := by
        refine ⟨accepted (cs.drop (j + 1)), ?_⟩
        have haccepted := congrArg accepted hsplit
        rw [haccepted, accepted_append, accepted_append]
        simp [accepted, hclaim]
      simp only [h _ _ hprefix]

def reportAlone (b : Batch) (migrate : Disk → Path → Disk × Outcome) (time : Timestamp)
    (d : Disk) : BatchReport :=
  .ofReports time b.capsules.length
    ((b.candidatesOn d).filterMap fun c => (outcomeAlone migrate d c).toOption)

/-- However large the groups are: a batch that goes on after errors has the reports of its capsules
in their order, each of them is attempted or turned away once, and no more is migrated. -/
theorem runWith_of_independent (hstop : b.stopOnError = false)
    (hindependent : Independent migrate d (accepted (b.candidatesOn d)))
    (hsaved : b.saveReports = true → ∃ after paths,
      (b.reportAlone migrate time d).save
        (migrateAll migrate d (accepted (b.candidatesOn d))) b.output = (after, .ok paths))
    (parallel : Nat) (hparallel : 1 ≤ parallel) :
    ({ b with parallel := parallel }.runWith migrate time d).2.result =
        .ok (b.reportAlone migrate time d) ∧
      (b.reportAlone migrate time d).reports =
        (b.candidatesOn d).filterMap (fun c => (outcomeAlone migrate d c).toOption) ∧
      ({ b with parallel := parallel }.ended migrate d).trace.attempts =
        (b.candidatesOn d).map (fun c => ⟨c.path, outcomeAlone migrate d c⟩) ∧
      (b.candidatesOn d).map (·.path) = b.capsules ∧
      ({ b with parallel := parallel }.ended migrate d).state =
        migrateAll migrate d (accepted (b.candidatesOn d)) := by
  let regrouped : Batch := { b with parallel := parallel }
  obtain ⟨hstate, hattempts, hstopped⟩ :=
    ended_goOn (b := regrouped) hparallel hstop migrate d
  have halone := attemptAll_of_independent hindependent
  have hreports : (regrouped.ended migrate d).trace.reports =
      (b.candidatesOn d).filterMap fun c => (outcomeAlone migrate d c).toOption := by
    rw [Trace.reports, reportsOf, hattempts]
    exact (congrArg _ halone).trans List.filterMap_map
  refine ⟨?_, rfl, hattempts.trans halone, b.map_path_candidatesOn d,
    hstate.trans (state_attemptAll _ _ _)⟩
  rw [runWith_eq hparallel, result_finish_of_none hstopped, hreports, hstate, state_attemptAll]
  exact saved_of_save (b := regrouped) hsaved

/-- Three capsules, the last of which has the id of the first. -/
def mixedBatch (stopOnError : Bool) : Batch where
  capsules := [⟨"in/a"⟩, ⟨"in/b"⟩, ⟨"other/a"⟩]
  output := ⟨"out"⟩
  parallel := 1
  mode := .auto
  stopOnError := stopOnError
  saveReports := false

def mixedMigrate (d : Disk) (path : Path) : Disk × Outcome :=
  (d, if path.text = "in/b" then .error (.settings "b") else .ok default)

theorem candidatesOn_mixedBatch (stopOnError : Bool) :
    (mixedBatch stopOnError).candidatesOn (Disk.empty []) =
      [⟨⟨"in/a"⟩, none⟩, ⟨⟨"in/b"⟩, none⟩, ⟨⟨"other/a"⟩, some ⟨"a", ⟨"in/a"⟩⟩⟩] := by
  cases stopOnError <;> decide +kernel

theorem runWith_mixedBatch :
    Independent mixedMigrate (Disk.empty [])
        (accepted ((mixedBatch false).candidatesOn (Disk.empty []))) ∧
      ({ mixedBatch false with parallel := 2 }.runWith mixedMigrate default
        (Disk.empty [])).2.result =
          .ok ((mixedBatch false).reportAlone mixedMigrate default (Disk.empty [])) ∧
      ({ mixedBatch false with parallel := 2 }.ended mixedMigrate
        (Disk.empty [])).trace.attempts =
          [⟨⟨"in/a"⟩, .ok default⟩, ⟨⟨"in/b"⟩, .error (.settings "b")⟩,
            ⟨⟨"other/a"⟩, .error (.duplicate "a" ⟨"in/a"⟩)⟩] := by
  have hindependent : Independent mixedMigrate (Disk.empty [])
      (accepted ((mixedBatch false).candidatesOn (Disk.empty []))) := fun _ _ _ => rfl
  have hsaved : (mixedBatch false).saveReports = true → ∃ after paths,
      ((mixedBatch false).reportAlone mixedMigrate default (Disk.empty [])).save
        (migrateAll mixedMigrate (Disk.empty []) (accepted ((mixedBatch false).candidatesOn
          (Disk.empty [])))) (mixedBatch false).output = (after, .ok paths) := by
    simp [mixedBatch]
  obtain ⟨hresult, -, hattempts, -⟩ := runWith_of_independent rfl hindependent hsaved 2 (by decide)
  refine ⟨hindependent, hresult, hattempts.trans ?_⟩
  rw [candidatesOn_mixedBatch]
  rfl

/-! ### Batches that stop on errors -/

theorem Attempt.error?_eq_some {a : Attempt} {e : MigrationError} :
    a.error? = some e ↔ a.outcome = .error e := by
  unfold Attempt.error?
  cases a.outcome <;> simp

theorem ended_of_forall (hparallel : 1 ≤ b.parallel) (hstop : b.stopOnError = true)
    (h : ∀ a ∈ (attemptAll migrate d (b.candidatesOn d)).2, a.error? = none) :
    b.ended migrate d = { b with stopOnError := false }.ended migrate d := by
  have hgroups := runGroups_stop_of_forall migrate b.capsules.length d .empty
    (groups (b.parallel - 1) (b.candidatesOn d)) (by rwa [flatten_groups])
  rw [ended_eq hparallel, hstop, hgroups]
  exact (ended_eq (b := { b with stopOnError := false }) hparallel).symm

/-- With an error a batch that stops on errors ends after the group of the first one. -/
theorem ended_of_isFirstError (hparallel : 1 ≤ b.parallel) (hstop : b.stopOnError = true)
    {k : Nat} {a : Attempt} {e : MigrationError}
    (h : IsFirstError (attemptAll migrate d (b.candidatesOn d)).2 k a e) :
    (b.ended migrate d).stoppedBy = some (a.label, e) ∧
      (b.ended migrate d).state = (attemptAll migrate d ((b.candidatesOn d).take
        (stopsAt b.parallel b.capsules.length k))).1 ∧
      (b.ended migrate d).trace.attempts = (attemptAll migrate d (b.candidatesOn d)).2.take
        (stopsAt b.parallel b.capsules.length k) := by
  have hgroups := runGroups_stop_of_isFirstError (n := b.parallel - 1) h b.capsules.length .empty
  rw [Nat.sub_add_cancel hparallel, length_candidatesOn, attemptAll_take] at hgroups
  rw [ended_eq hparallel, hstop]
  exact hgroups

/-- A batch goes through its capsules in order, up to some position. -/
theorem exists_ended_eq_take (hparallel : 1 ≤ b.parallel)
    (migrate : Disk → Path → Disk × Outcome) (d : Disk) :
    ∃ m, (b.ended migrate d).state = (attemptAll migrate d ((b.candidatesOn d).take m)).1 ∧
      (b.ended migrate d).trace.attempts =
        (attemptAll migrate d ((b.candidatesOn d).take m)).2 := by
  have hgoOn : ∀ b' : Batch, 1 ≤ b'.parallel → b'.stopOnError = false →
      ∃ m, (b'.ended migrate d).state = (attemptAll migrate d ((b'.candidatesOn d).take m)).1 ∧
        (b'.ended migrate d).trace.attempts =
          (attemptAll migrate d ((b'.candidatesOn d).take m)).2 := by
    intro b' hparallel' hstop'
    obtain ⟨hstate, hattempts, -⟩ := ended_goOn hparallel' hstop' migrate d
    refine ⟨(b'.candidatesOn d).length, ?_⟩
    rw [List.take_length]
    exact ⟨hstate, hattempts⟩
  cases hstop : b.stopOnError with
  | false => exact hgoOn b hparallel hstop
  | true =>
    rcases forall_or_isFirstError (attemptAll migrate d (b.candidatesOn d)).2 with
      hnone | ⟨k, a, e, hfirst⟩
    · rw [ended_of_forall hparallel hstop hnone]
      exact hgoOn { b with stopOnError := false } hparallel rfl
    · obtain ⟨-, hstate, hattempts⟩ := ended_of_isFirstError hparallel hstop hfirst
      exact ⟨_, hstate, hattempts.trans (attemptAll_take _ _ _ _).symm⟩

theorem finish_goOn (b : Batch) (time : Timestamp) (ended : Ended Disk) :
    { b with stopOnError := false }.finish time ended = b.finish time ended := by
  simp only [finish, saved]

theorem runWith_of_forall (hparallel : 1 ≤ b.parallel) (hstop : b.stopOnError = true)
    (h : ∀ a ∈ (attemptAll migrate d (b.candidatesOn d)).2, a.error? = none) :
    b.runWith migrate time d = { b with stopOnError := false }.runWith migrate time d := by
  rw [runWith_eq hparallel, ended_of_forall hparallel hstop h,
    runWith_eq (b := { b with stopOnError := false }) hparallel, finish_goOn]

theorem runWith_of_isFirstError (time : Timestamp) (hparallel : 1 ≤ b.parallel)
    (hstop : b.stopOnError = true) {k : Nat} {a : Attempt} {e : MigrationError}
    (h : IsFirstError (attemptAll migrate d (b.candidatesOn d)).2 k a e) :
    (b.runWith migrate time d).2.result = .error (.aborted a.label e) ∧
      (b.runWith migrate time d).1 = (b.ended migrate d).state := by
  rw [runWith_eq hparallel]
  exact finish_of_some (ended_of_isFirstError hparallel hstop h).1

theorem runWith_ne_aborted (hparallel : 1 ≤ b.parallel) (hstop : b.stopOnError = false)
    (capsule : String) (e : MigrationError) :
    (b.runWith migrate time d).2.result ≠ .error (.aborted capsule e) := by
  obtain ⟨-, -, hstopped⟩ := ended_goOn hparallel hstop migrate d
  rw [runWith_eq hparallel, result_finish_of_none hstopped]
  exact saved_ne_aborted _ capsule e

/-- A batch that stops on errors is like one that goes on unless a capsule has an error; a failed
report is none. With an error it tells of the first one in the order of the capsules, the capsules
up to the end of its group were attempted or turned away and no others, and nothing is saved. -/
theorem runWith_of_stopOnError (b : Batch) (hparallel : 1 ≤ b.parallel)
    (hstop : b.stopOnError = true) (migrate : Disk → Path → Disk × Outcome) (time : Timestamp)
    (d : Disk) :
    ((∀ a ∈ (attemptAll migrate d (b.candidatesOn d)).2, a.error? = none) →
      b.runWith migrate time d = { b with stopOnError := false }.runWith migrate time d) ∧
    (∀ k a e, IsFirstError (attemptAll migrate d (b.candidatesOn d)).2 k a e →
      b.capsules[k]? = some a.path ∧
      (b.runWith migrate time d).2.result = .error (.aborted a.label e) ∧
      (b.ended migrate d).trace.attempts.map (·.path) =
        b.capsules.take (min b.capsules.length (b.parallel * (k / b.parallel + 1))) ∧
      (b.ended migrate d).trace.attempts = (attemptAll migrate d (b.candidatesOn d)).2.take
        (min b.capsules.length (b.parallel * (k / b.parallel + 1))) ∧
      (b.runWith migrate time d).1 = (attemptAll migrate d ((b.candidatesOn d).take
        (min b.capsules.length (b.parallel * (k / b.parallel + 1))))).1) ∧
    ((∃ capsule e, (b.runWith migrate time d).2.result = .error (.aborted capsule e)) ↔
      ∃ a ∈ (attemptAll migrate d (b.candidatesOn d)).2, ∃ e, a.outcome = .error e) := by
  have hpaths : (attemptAll migrate d (b.candidatesOn d)).2.map (·.path) = b.capsules := by
    rw [map_path_attemptAll, map_path_candidatesOn]
  refine ⟨runWith_of_forall hparallel hstop, ?_, ?_⟩
  · intro k a e hfirst
    obtain ⟨-, hstate, hattempts⟩ := ended_of_isFirstError hparallel hstop hfirst
    obtain ⟨hresult, hdisk⟩ := runWith_of_isFirstError time hparallel hstop hfirst
    refine ⟨?_, hresult, ?_, hattempts, hdisk.trans hstate⟩
    · rw [← hpaths, List.getElem?_map, hfirst.1]
      rfl
    · rw [hattempts, List.map_take, hpaths]
      rfl
  · rcases forall_or_isFirstError (attemptAll migrate d (b.candidatesOn d)).2 with
      hnone | ⟨k, a, e, hfirst⟩
    · constructor
      · rintro ⟨capsule, e, hresult⟩
        rw [runWith_of_forall hparallel hstop hnone] at hresult
        exact absurd hresult
          (runWith_ne_aborted (b := { b with stopOnError := false }) hparallel rfl capsule e)
      · rintro ⟨a, ha, e, he⟩
        exact absurd (hnone a ha) (by simp [Attempt.error?_eq_some.2 he])
    · have hresult := (runWith_of_isFirstError time hparallel hstop hfirst).1
      exact iff_of_true ⟨_, _, hresult⟩
        ⟨a, List.mem_of_getElem? hfirst.1, e, Attempt.error?_eq_some.1 hfirst.2.1⟩

theorem runWith_mixedBatch_stopOnError :
    1 ≤ (mixedBatch true).parallel ∧
      ((mixedBatch true).runWith mixedMigrate default (Disk.empty [])).2.result =
        .error (.aborted "b" (.settings "b")) ∧
      ((mixedBatch true).ended mixedMigrate (Disk.empty [])).trace.attempts.map (·.path) =
        [⟨"in/a"⟩, ⟨"in/b"⟩] := by
  have hfirst : IsFirstError
      (attemptAll mixedMigrate (Disk.empty []) ((mixedBatch true).candidatesOn (Disk.empty []))).2
      1 ⟨⟨"in/b"⟩, .error (.settings "b")⟩ (.settings "b") := by
    rw [candidatesOn_mixedBatch]
    exact ⟨rfl, rfl, by simp [attempt, mixedMigrate, Attempt.error?]⟩
  have hlabel : Attempt.label ⟨⟨"in/b"⟩, .error (.settings "b")⟩ = "b" := by decide +kernel
  obtain ⟨-, hresult, hpaths, -⟩ := (runWith_of_stopOnError (mixedBatch true) (by decide) rfl
    mixedMigrate default (Disk.empty [])).2.1 _ _ _ hfirst
  rw [hlabel] at hresult
  exact ⟨by decide, hresult, hpaths⟩

end Batch
end ServiceCapsule
