import ServiceCapsule.Proofs.Migration.Runs

/-!
# Accounts of a batch

After each group of a batch its progress tells of all attempts so far, and each of them is counted
once: as successful, or as failed where there is no report or a failed one. What the last line of
progress says is what the report of the batch says.
-/

namespace ServiceCapsule

namespace MigrationReport

theorem successes_eq_length_iff {reports : List MigrationReport} :
    successes reports = reports.length ↔ ∀ r ∈ reports, r.status ≠ .failed := by
  rw [successes, List.length_filter_eq_length_iff]
  simp [isFailed]

end MigrationReport

namespace Batch

/-! ### Reports of attempts -/

theorem length_reportsOf_le (attempts : List Attempt) :
    (reportsOf attempts).length ≤ attempts.length :=
  List.length_filterMap_le _ _

theorem successes_reportsOf_le (attempts : List Attempt) :
    MigrationReport.successes (reportsOf attempts) ≤ attempts.length :=
  Nat.le_trans (MigrationReport.successes_le _) (length_reportsOf_le _)

theorem Attempt.report?_eq_some {a : Attempt} {r : MigrationReport} :
    a.report? = some r ↔ a.outcome = .ok r := by
  unfold Attempt.report?
  cases a.outcome <;> simp [Except.toOption]

/-- As many successes as attempts: each attempt has a report, and none of them failed. -/
theorem successes_reportsOf_eq_length_iff {attempts : List Attempt} :
    MigrationReport.successes (reportsOf attempts) = attempts.length ↔
      ∀ a ∈ attempts, ∃ r, a.outcome = .ok r ∧ r.status ≠ .failed := by
  constructor
  · intro h
    have hreports : (reportsOf attempts).length = attempts.length :=
      Nat.le_antisymm (length_reportsOf_le _) (h ▸ MigrationReport.successes_le _)
    have hgood := MigrationReport.successes_eq_length_iff.1 (h.trans hreports.symm)
    have hsome := List.filterMap_length_eq_length.1 hreports
    intro a ha
    obtain ⟨r, hr⟩ := Option.isSome_iff_exists.1 (hsome a ha)
    exact ⟨r, Attempt.report?_eq_some.1 hr, hgood r (List.mem_filterMap.2 ⟨a, ha, hr⟩)⟩
  · intro h
    have hreports : (reportsOf attempts).length = attempts.length := by
      refine List.filterMap_length_eq_length.2 fun a ha => ?_
      obtain ⟨r, hr, -⟩ := h a ha
      simp [Attempt.report?_eq_some.2 hr]
    rw [← hreports, MigrationReport.successes_eq_length_iff]
    intro r hr
    obtain ⟨a, ha, har⟩ := List.mem_filterMap.1 hr
    obtain ⟨r', hr', hgood⟩ := h a ha
    rw [Attempt.report?_eq_some, hr'] at har
    exact Except.ok.inj har ▸ hgood

/-! ### Progress of groups -/

/-- Progress that tells of some attempts in a batch of some number of capsules. None of the
differences in it stops at zero. -/
structure TellsOf (p : Progress) (capsules : Nat) (attempts : List Attempt) : Prop where
  capsules_eq : p.capsules = capsules
  processed_eq : p.processed = attempts.length
  processed_le : p.processed ≤ p.capsules
  successful_eq : p.successful = MigrationReport.successes (reportsOf attempts)
  successful_le : p.successful ≤ p.processed
  successful_add_failed : p.successful + p.failed = p.processed

theorem tellsOf_ofReports {capsules : Nat} {attempts : List Attempt}
    (h : attempts.length ≤ capsules) :
    TellsOf (.ofReports capsules attempts.length (reportsOf attempts)) capsules attempts where
  capsules_eq := rfl
  processed_eq := rfl
  processed_le := h
  successful_eq := rfl
  successful_le := successes_reportsOf_le attempts
  successful_add_failed := Nat.add_sub_cancel' (successes_reportsOf_le attempts)

def progressAfter (capsules width : Nat) (attempts : List Attempt) (count : Nat) : Progress :=
  .ofReports capsules (attempts.take (count * width)).length
    (reportsOf (attempts.take (count * width)))

theorem progressAfter_append {capsules width count : Nat} {attempts : List Attempt}
    (h : count * width ≤ attempts.length) (more : List Attempt) :
    progressAfter capsules width (attempts ++ more) count =
      progressAfter capsules width attempts count := by
  rw [progressAfter, List.take_append_of_le_length h, progressAfter]

/-- A trace has the progress after each of its groups. -/
def Trace.HasProgress (t : Trace) (capsules width count : Nat) : Prop :=
  t.progress = (List.range count).map fun g => progressAfter capsules width t.attempts (g + 1)

theorem Trace.hasProgress_empty (capsules width : Nat) :
    Trace.empty.HasProgress capsules width 0 := rfl

theorem Trace.HasProgress.extend {t : Trace} {capsules width count : Nat}
    (h : t.HasProgress capsules width count) (hfull : t.attempts.length = count * width)
    {more : List Attempt} (hmore : more.length ≤ width) :
    (t.extend capsules more).HasProgress capsules width (count + 1) := by
  have hbefore : ∀ g ∈ List.range count,
      progressAfter capsules width t.attempts (g + 1) =
        progressAfter capsules width (t.attempts ++ more) (g + 1) := by
    intro g hg
    have hle : (g + 1) * width ≤ t.attempts.length :=
      hfull ▸ Nat.mul_le_mul_right width (List.mem_range.1 hg)
    exact (progressAfter_append hle more).symm
  have hall : (t.attempts ++ more).take ((count + 1) * width) = t.attempts ++ more := by
    apply List.take_of_length_le
    rw [List.length_append, hfull, Nat.add_mul, Nat.one_mul]
    exact Nat.add_le_add_left hmore _
  have hlast : progressAfter capsules width (t.attempts ++ more) (count + 1) =
      .ofReports capsules (t.attempts ++ more).length (reportsOf (t.attempts ++ more)) := by
    rw [progressAfter, hall]
  unfold Trace.HasProgress at h ⊢
  simp only [Trace.extend, List.range_succ, List.map_append, List.map_cons, List.map_nil, hlast]
  rw [h, List.map_congr_left hbefore]

theorem length_groups {α : Type} (n : Nat) (xs : List α) :
    (groups n xs).length = (xs.length + n) / (n + 1) := by
  fun_induction groups n xs with
  | case1 => simp [Nat.div_eq_of_lt]
  | case2 x xs ih =>
    have hsub : (x :: xs).length + n = xs.length + (n + 1) := by
      simp only [List.length_cons]
      omega
    rw [List.length_cons, ih, hsub, Nat.add_div_right _ (Nat.succ_pos n), List.length_drop]
    by_cases hle : n ≤ xs.length
    · rw [Nat.sub_add_cancel hle]
    · rw [Nat.sub_eq_zero_of_le (by omega), Nat.zero_add, Nat.div_eq_of_lt (by omega),
        Nat.div_eq_of_lt (by omega)]

theorem le_groups_mul {width : Nat} (h : 1 ≤ width) (n : Nat) :
    n ≤ (n + (width - 1)) / width * width := by
  have hmod := Nat.div_add_mod (n + (width - 1)) width
  have hlt := Nat.mod_lt (n + (width - 1)) h
  rw [Nat.mul_comm] at hmod
  omega

section

variable {σ : Type} {migrate : σ → Path → σ × Outcome} {s : σ} {stop : Bool} {t : Trace}

/-- A batch that is not stopped has the progress after each of its groups. Only the last group may
be short, so the groups before one that starts are full. -/
theorem hasProgress_runGroups {n capsules count : Nat} {cs : List Candidate}
    (ht : t.HasProgress capsules (n + 1) count)
    (hfull : cs ≠ [] → t.attempts.length = count * (n + 1))
    (h : (runGroups migrate stop capsules s t (groups n cs)).stoppedBy = none) :
    (runGroups migrate stop capsules s t (groups n cs)).trace.HasProgress capsules (n + 1)
      (count + (groups n cs).length) := by
  -- every group but the last is full, so the count of capsules goes up by as many each time
  fun_induction groups n cs generalizing s t count with
  | case1 => exact ht
  | case2 c cs ih =>
    have hlength : (attemptAll migrate s (c :: cs.take n)).2.length = (cs.take n).length + 1 :=
      length_attemptAll _ _ _
    have hcount := hfull (List.cons_ne_nil c cs)
    have hstep := ht.extend hcount (show (attemptAll migrate s (c :: cs.take n)).2.length ≤ n + 1 by
      rw [hlength, List.length_take]
      omega)
    have hnext : cs.drop n ≠ [] →
        (t.extend capsules (attemptAll migrate s (c :: cs.take n)).2).attempts.length =
          (count + 1) * (n + 1) := by
      intro hrest
      have hlong : n < cs.length := by
        simpa using hrest
      rw [Trace.extend, List.length_append, hcount, hlength, List.length_take,
        Nat.min_eq_left (Nat.le_of_lt hlong), Nat.add_mul, Nat.one_mul]
    have hadd : count + ((c :: cs.take n) :: groups n (cs.drop n)).length =
        count + 1 + (groups n (cs.drop n)).length := by
      rw [List.length_cons]
      omega
    rw [hadd]
    simp only [runGroups] at h ⊢
    split at h
    · simp at h
    · exact ih hstep hnext h

end

/-! ### Runs -/

section

variable {b : Batch} {migrate : Disk → Path → Disk × Outcome} {time : Timestamp} {d : Disk}

theorem stoppedBy_eq_none (hparallel : 1 ≤ b.parallel)
    (h : ∀ capsule e, (b.runWith migrate time d).2.result ≠ .error (.aborted capsule e)) :
    (b.ended migrate d).stoppedBy = none := by
  cases hstopped : (b.ended migrate d).stoppedBy with
  | none => rfl
  | some stopped =>
    refine absurd ?_ (h stopped.1 stopped.2)
    rw [runWith_eq hparallel]
    exact (finish_of_some hstopped).1

theorem map_path_attempts_of_stoppedBy (hparallel : 1 ≤ b.parallel)
    (h : (b.ended migrate d).stoppedBy = none) :
    (b.ended migrate d).trace.attempts.map (·.path) = b.capsules := by
  have hgoOn : ∀ b' : Batch, 1 ≤ b'.parallel → b'.stopOnError = false →
      (b'.ended migrate d).trace.attempts.map (·.path) = b'.capsules := by
    intro b' hparallel' hstop'
    rw [(ended_goOn hparallel' hstop' migrate d).2.1, map_path_attemptAll, map_path_candidatesOn]
  cases hstop : b.stopOnError with
  | false => exact hgoOn b hparallel hstop
  | true =>
    rcases forall_or_isFirstError (attemptAll migrate d (b.candidatesOn d)).2 with
      hnone | ⟨k, a, e, hfirst⟩
    · rw [ended_of_forall hparallel hstop hnone]
      exact hgoOn { b with stopOnError := false } hparallel rfl
    · rw [(ended_of_isFirstError hparallel hstop hfirst).1] at h
      cases h

theorem progress_of_stoppedBy (hparallel : 1 ≤ b.parallel)
    (h : (b.ended migrate d).stoppedBy = none) :
    (b.ended migrate d).trace.HasProgress b.capsules.length b.parallel
      ((b.capsules.length + (b.parallel - 1)) / b.parallel) := by
  rw [ended_eq hparallel] at h
  have hrun := hasProgress_runGroups (Trace.hasProgress_empty _ _) (fun _ => (Nat.zero_mul _).symm) h
  rw [← ended_eq hparallel, length_groups, length_candidatesOn, Nat.sub_add_cancel hparallel,
    Nat.zero_add] at hrun
  exact hrun

def reportOf (b : Batch) (migrate : Disk → Path → Disk × Outcome) (time : Timestamp) (d : Disk) :
    BatchReport :=
  .ofReports time b.capsules.length (b.ended migrate d).trace.reports

theorem result_of_stoppedBy (hparallel : 1 ≤ b.parallel)
    (h : (b.ended migrate d).stoppedBy = none) :
    (b.runWith migrate time d).2.result = .ok (b.reportOf migrate time d) ∨
      ∃ e, (b.runWith migrate time d).2.result = .error (.save e) := by
  rw [runWith_eq hparallel, result_finish_of_none h]
  unfold saved
  split
  · split
    · exact .inl rfl
    · exact .inr ⟨_, rfl⟩
  · exact .inl rfl

theorem stdout_runWith (hparallel : 1 ≤ b.parallel) :
    (b.runWith migrate time d).2.stdout = (b.ended migrate d).trace.progress.map Progress.line := by
  rw [runWith_eq hparallel, finish]
  split <;> rfl

theorem getLast?_progress {t : Trace} {capsules width count : Nat}
    (ht : t.HasProgress capsules width count) (hall : t.attempts.length ≤ count * width)
    {p : Progress} (hp : t.progress.getLast? = some p) :
    p = .ofReports capsules t.attempts.length t.reports := by
  cases count with
  | zero =>
    rw [ht] at hp
    simp at hp
  | succ count =>
    rw [ht, List.range_succ, List.map_append, List.map_cons, List.map_nil,
      List.getLast?_concat, progressAfter, List.take_of_length_le hall] at hp
    exact (Option.some.inj hp).symm

theorem hasFailures_eq_false_iff {report : BatchReport}
    (h : report.successful + report.failed = report.capsules) :
    report.hasFailures = false ↔ report.successful = report.capsules := by
  simp only [BatchReport.hasFailures, decide_eq_false_iff_not]
  omega

/-- In a batch that is not aborted the progress after each group tells of all capsules up to the
end of the group, the last progress has the numbers of the report, and the report counts every
capsule once. There is no failure exactly if each capsule has a report that did not fail. -/
theorem accounts_of_runWith (b : Batch) (hparallel : 1 ≤ b.parallel)
    (migrate : Disk → Path → Disk × Outcome) (time : Timestamp) (d : Disk)
    (h : ∀ capsule e, (b.runWith migrate time d).2.result ≠ .error (.aborted capsule e)) :
    ((b.runWith migrate time d).2.stdout = (b.ended migrate d).trace.progress.map Progress.line ∧
      ((b.runWith migrate time d).2.result = .ok (b.reportOf migrate time d) ∨
        ∃ e, (b.runWith migrate time d).2.result = .error (.save e))) ∧
    (b.ended migrate d).trace.attempts.map (·.path) = b.capsules ∧
    (b.ended migrate d).trace.progress.length =
      (b.capsules.length + (b.parallel - 1)) / b.parallel ∧
    (∀ g p, (b.ended migrate d).trace.progress[g]? = some p →
      p.processed = min ((g + 1) * b.parallel) b.capsules.length ∧
      TellsOf p b.capsules.length ((b.ended migrate d).trace.attempts.take p.processed)) ∧
    (∀ p, (b.ended migrate d).trace.progress.getLast? = some p →
      p.successful = (b.reportOf migrate time d).successful ∧
      p.failed = (b.reportOf migrate time d).failed) ∧
    ((b.reportOf migrate time d).reports.length ≤ b.capsules.length ∧
      (b.reportOf migrate time d).successful ≤ (b.reportOf migrate time d).reports.length) ∧
    (b.reportOf migrate time d).successful + (b.reportOf migrate time d).failed =
      b.capsules.length ∧
    ((b.reportOf migrate time d).hasFailures = false ↔
      ∀ a ∈ (b.ended migrate d).trace.attempts, ∃ r, a.outcome = .ok r ∧ r.status ≠ .failed) := by
  have hstopped := stoppedBy_eq_none hparallel h
  have hpaths := map_path_attempts_of_stoppedBy hparallel hstopped
  have hprogress := progress_of_stoppedBy hparallel hstopped
  have hlength : (b.ended migrate d).trace.attempts.length = b.capsules.length := by
    rw [← hpaths, List.length_map]
  have hreports : (b.ended migrate d).trace.reports.length ≤ b.capsules.length :=
    hlength ▸ length_reportsOf_le _
  have hsum : (b.reportOf migrate time d).successful + (b.reportOf migrate time d).failed =
      b.capsules.length := BatchReport.successful_add_failed time hreports
  have hcount : (b.ended migrate d).trace.progress.length =
      (b.capsules.length + (b.parallel - 1)) / b.parallel := by
    rw [hprogress, List.length_map, List.length_range]
  refine ⟨⟨stdout_runWith hparallel, result_of_stoppedBy hparallel hstopped⟩, hpaths, hcount, ?_,
    ?_, ⟨hreports, MigrationReport.successes_le _⟩, hsum, ?_⟩
  · intro g p hp
    rw [hprogress, List.getElem?_map, Option.map_eq_some_iff] at hp
    obtain ⟨g', hg', rfl⟩ := hp
    obtain ⟨-, rfl⟩ := List.getElem?_eq_some_iff.1 hg'
    have hprocessed : (progressAfter b.capsules.length b.parallel
        (b.ended migrate d).trace.attempts (g + 1)).processed =
          min ((g + 1) * b.parallel) b.capsules.length := by
      rw [← hlength, ← List.length_take]
      rfl
    simp only [List.getElem_range]
    refine ⟨hprocessed, ?_⟩
    rw [hprocessed, ← hlength, ← List.take_eq_take_min]
    exact tellsOf_ofReports (List.length_take_le' _ _)
  · intro p hp
    have hall := Nat.le_trans (Nat.le_of_eq hlength) (le_groups_mul hparallel _)
    obtain rfl := getLast?_progress hprogress hall hp
    refine ⟨rfl, ?_⟩
    have hfailed := (tellsOf_ofReports (Nat.le_of_eq hlength)).successful_add_failed
    exact Nat.add_left_cancel (hfailed.trans (hlength.trans hsum.symm))
  · rw [hasFailures_eq_false_iff hsum, ← successes_reportsOf_eq_length_iff, hlength]
    rfl

theorem accounts_of_mixedBatch :
    1 ≤ ({ mixedBatch false with parallel := 2 } : Batch).parallel ∧
    (∀ capsule e, ({ mixedBatch false with parallel := 2 }.runWith mixedMigrate default
      (Disk.empty [])).2.result ≠ .error (.aborted capsule e)) ∧
    ({ mixedBatch false with parallel := 2 }.ended mixedMigrate
      (Disk.empty [])).trace.progress.length = 2 ∧
    ({ mixedBatch false with parallel := 2 }.reportOf mixedMigrate default
      (Disk.empty [])).successful +
        ({ mixedBatch false with parallel := 2 }.reportOf mixedMigrate default
          (Disk.empty [])).failed = 3 := by
  have hends : ∀ capsule e, ({ mixedBatch false with parallel := 2 }.runWith mixedMigrate default
      (Disk.empty [])).2.result ≠ .error (.aborted capsule e) :=
    runWith_ne_aborted (by decide) rfl
  obtain ⟨-, -, hgroups, -, -, -, hsum, -⟩ := accounts_of_runWith
    { mixedBatch false with parallel := 2 } (by decide) mixedMigrate default (Disk.empty []) hends
  exact ⟨by decide, hends, hgroups, hsum⟩

end

end Batch
end ServiceCapsule
