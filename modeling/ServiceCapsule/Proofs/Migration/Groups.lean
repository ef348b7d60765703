import ServiceCapsule.Migration.Batch

/-!
# Groups of a batch

The groups of a batch are its capsules with their claims, cut at the same places. Without an error,
running them one after the other is going through all capsules; a batch that stops on errors goes
through the capsules up to the end of the group of the first error.
-/

namespace ServiceCapsule
namespace Batch

/-! ### Claims and groups -/

section

variable {n : Nat} {paths : List Path} {claims : List (Option Claim)}

theorem length_candidates (h : claims.length = paths.length) :
    (candidates paths claims).length = paths.length := by
  simp [candidates, h]

theorem map_path_candidates (h : claims.length = paths.length) :
    (candidates paths claims).map (·.path) = paths := by
  induction paths generalizing claims with
  | nil => simp [candidates]
  | cons path paths ih =>
    cases claims with
    | nil => simp at h
    | cons claim claims =>
      have hrest := ih (by simpa using h)
      unfold candidates at hrest ⊢
      simpa using hrest

theorem getElem?_candidates {j : Nat} {path : Path} (hj : paths[j]? = some path) :
    (candidates paths claims)[j]? = claims[j]?.map fun claim => ⟨path, claim⟩ := by
  rw [candidates, List.getElem?_zipWith, hj]
  cases claims[j]? <;> rfl

theorem candidates_take (n : Nat) (paths : List Path) (claims : List (Option Claim)) :
    candidates (paths.take n) claims = (candidates paths claims).take n := by
  induction paths generalizing n claims with
  | nil => simp [candidates]
  | cons path paths ih =>
    cases n with
    | zero => simp [candidates]
    | succ n =>
      cases claims with
      | nil => simp [candidates]
      | cons claim claims =>
        have hrest := ih n claims
        unfold candidates at hrest ⊢
        simpa using hrest

/-- Claims that are cut by the number of the group are the claims of its members: no claim moves
to another capsule, also where the last group is short. -/
theorem claimedGroups_drop (index : Nat)
    (h : (claims.drop (index * (n + 1))).length = paths.length) :
    claimedGroups (n + 1) claims index (groups n paths) =
      groups n (candidates paths (claims.drop (index * (n + 1)))) := by
  fun_induction groups n paths generalizing index with
  | case1 => simp [claimedGroups, candidates]
  | case2 path paths ih =>
    obtain ⟨claim, rest, hrest⟩ := List.exists_cons_of_length_eq_add_one h
    have hdrop : claims.drop ((index + 1) * (n + 1)) = rest.drop n := by
      have hmore := congrArg (List.drop (n + 1)) hrest
      rw [List.drop_drop, List.drop_succ_cons] at hmore
      rw [← hmore, Nat.add_mul, Nat.one_mul]
    have hlength : rest.length = paths.length := by simpa [hrest] using h
    have hgroup := ih (index + 1) (by rw [hdrop, List.length_drop, List.length_drop, hlength])
    have hcons : ∀ (path : Path) (paths : List Path) (claims : List (Option Claim)),
        candidates (path :: paths) (claim :: claims) =
          ⟨path, claim⟩ :: candidates paths claims := fun _ _ _ => rfl
    rw [claimedGroups, hgroup, hrest, hdrop, hcons, hcons, groups_cons, candidates_take]
    congr 2
    simp only [candidates, List.drop_zipWith]

theorem claimedGroups_groups (h : claims.length = paths.length) :
    claimedGroups (n + 1) claims 0 (groups n paths) = groups n (candidates paths claims) := by
  have hall : (claims.drop (0 * (n + 1))).length = paths.length := by simpa using h
  simpa using claimedGroups_drop 0 hall

end

/-! ### Attempts one after the other -/

section

variable {σ : Type} {migrate : σ → Path → σ × Outcome}

@[simp] theorem attemptAll_cons (migrate : σ → Path → σ × Outcome) (s : σ) (c : Candidate)
    (cs : List Candidate) :
    attemptAll migrate s (c :: cs) =
      ((attemptAll migrate (attempt migrate s c).1 cs).1,
        (attempt migrate s c).2 :: (attemptAll migrate (attempt migrate s c).1 cs).2) := rfl

theorem attemptAll_append (migrate : σ → Path → σ × Outcome) (s : σ) (xs ys : List Candidate) :
    attemptAll migrate s (xs ++ ys) =
      ((attemptAll migrate (attemptAll migrate s xs).1 ys).1,
        (attemptAll migrate s xs).2 ++
          (attemptAll migrate (attemptAll migrate s xs).1 ys).2) := by
  induction xs generalizing s with
  | nil => rfl
  | cons x xs ih => simp [ih]

theorem attempt_preserves {I : σ → Prop} (hstep : ∀ s path, I s → I (migrate s path).1) {s : σ}
    (h : I s) (c : Candidate) : I (attempt migrate s c).1 := by
  unfold attempt
  split
  · exact h
  · exact hstep s c.path h

/-- What every migration preserves holds after all attempts. -/
theorem attemptAll_preserves {I : σ → Prop} (hstep : ∀ s path, I s → I (migrate s path).1) {s : σ}
    (h : I s) (cs : List Candidate) : I (attemptAll migrate s cs).1 := by
  induction cs generalizing s with
  | nil => exact h
  | cons c cs ih => exact ih (attempt_preserves hstep h c)

theorem attemptAll_take (migrate : σ → Path → σ × Outcome) (s : σ) (cs : List Candidate)
    (m : Nat) :
    (attemptAll migrate s (cs.take m)).2 = (attemptAll migrate s cs).2.take m := by
  induction cs generalizing s m with
  | nil => simp [attemptAll]
  | cons c cs ih =>
    cases m with
    | zero => rfl
    | succ m => simp [ih]

theorem map_path_attemptAll (migrate : σ → Path → σ × Outcome) (s : σ) (cs : List Candidate) :
    (attemptAll migrate s cs).2.map (·.path) = cs.map (·.path) := by
  induction cs generalizing s with
  | nil => rfl
  | cons c cs ih => simp [path_attempt, ih]

theorem getElem?_attemptAll (migrate : σ → Path → σ × Outcome) (s : σ) (cs : List Candidate)
    (j : Nat) :
    (attemptAll migrate s cs).2[j]? =
      cs[j]?.map fun c => (attempt migrate (attemptAll migrate s (cs.take j)).1 c).2 := by
  induction cs generalizing s j with
  | nil => simp [attemptAll]
  | cons c cs ih =>
    cases j with
    | zero => rfl
    | succ j => simp [ih]

/-! ### The first error -/

theorem firstError?_eq_none {attempts : List Attempt} (h : ∀ a ∈ attempts, a.error? = none) :
    firstError? attempts = none := by
  induction attempts with
  | nil => rfl
  | cons a attempts ih =>
    have ha := h a List.mem_cons_self
    simp only [firstError?, ha]
    exact ih fun a' ha' => h a' (List.mem_cons_of_mem _ ha')

/-- A position holds the first error of attempts. -/
def IsFirstError (attempts : List Attempt) (k : Nat) (a : Attempt) (e : MigrationError) : Prop :=
  attempts[k]? = some a ∧ a.error? = some e ∧ ∀ a' ∈ attempts.take k, a'.error? = none

theorem IsFirstError.firstError? {attempts : List Attempt} {k : Nat} {a : Attempt}
    {e : MigrationError} (h : IsFirstError attempts k a e) :
    firstError? attempts = some (a.label, e) := by
  obtain ⟨hk, ha, hbefore⟩ := h
  induction attempts generalizing k with
  | nil => simp at hk
  | cons a' attempts ih =>
    cases k with
    | zero =>
      obtain rfl : a' = a := by simpa using hk
      simp [Batch.firstError?, ha]
    | succ k =>
      have ha' := hbefore a' (by simp)
      simp only [Batch.firstError?, ha']
      exact ih (by simpa using hk) fun a'' ha'' => hbefore a'' (by simp [ha''])

theorem IsFirstError.lt_length {attempts : List Attempt} {k : Nat} {a : Attempt}
    {e : MigrationError} (h : IsFirstError attempts k a e) : k < attempts.length :=
  (List.getElem?_eq_some_iff.1 h.1).1

theorem IsFirstError.take {attempts : List Attempt} {k : Nat} {a : Attempt}
    {e : MigrationError} (h : IsFirstError attempts k a e) {m : Nat} (hm : k < m) :
    IsFirstError (attempts.take m) k a e := by
  obtain ⟨hk, ha, hbefore⟩ := h
  refine ⟨by rw [List.getElem?_take_of_lt hm, hk], ha, ?_⟩
  rwa [List.take_take, Nat.min_eq_left (Nat.le_of_lt hm)]

theorem IsFirstError.drop {attempts : List Attempt} {k : Nat} {a : Attempt}
    {e : MigrationError} (h : IsFirstError attempts k a e) {m : Nat} (hm : m ≤ k) :
    IsFirstError (attempts.drop m) (k - m) a e := by
  obtain ⟨hk, ha, hbefore⟩ := h
  refine ⟨by rw [List.getElem?_drop, Nat.add_sub_cancel' hm, hk], ha, ?_⟩
  intro a' ha'
  rw [List.take_drop, Nat.add_sub_cancel' hm] at ha'
  exact hbefore a' (List.drop_subset _ _ ha')

theorem forall_or_isFirstError (attempts : List Attempt) :
    (∀ a ∈ attempts, a.error? = none) ∨ ∃ k a e, IsFirstError attempts k a e := by
  induction attempts with
  | nil => exact .inl (by simp)
  | cons a attempts ih =>
    cases ha : a.error? with
    | some e => exact .inr ⟨0, a, e, rfl, ha, by simp⟩
    | none =>
      rcases ih with hnone | ⟨k, b, e, hk, hbe, hbefore⟩
      · exact .inl (List.forall_mem_cons.2 ⟨ha, hnone⟩)
      · refine .inr ⟨k + 1, b, e, hk, hbe, ?_⟩
        rw [List.take_succ_cons]
        exact List.forall_mem_cons.2 ⟨ha, hbefore⟩

/-! ### Runs of groups -/

theorem runGroups_goOn (migrate : σ → Path → σ × Outcome) (total : Nat) (s : σ) (t : Trace)
    (gs : List (List Candidate)) :
    (runGroups migrate false total s t gs).state = (attemptAll migrate s gs.flatten).1 ∧
      (runGroups migrate false total s t gs).trace.attempts =
        t.attempts ++ (attemptAll migrate s gs.flatten).2 ∧
      (runGroups migrate false total s t gs).stoppedBy = none := by
  induction gs generalizing s t with
  | nil => simp [runGroups, attemptAll]
  | cons group gs ih =>
    obtain ⟨hstate, hattempts, hstopped⟩ := ih (attemptAll migrate s group).1
      (t.extend total (attemptAll migrate s group).2)
    simp only [runGroups, Bool.false_eq_true, if_false, List.flatten_cons, attemptAll_append]
    exact ⟨hstate, by rw [hattempts, Trace.extend, List.append_assoc], hstopped⟩

theorem runGroups_stop_of_forall (migrate : σ → Path → σ × Outcome) (total : Nat) (s : σ)
    (t : Trace) (gs : List (List Candidate))
    (h : ∀ a ∈ (attemptAll migrate s gs.flatten).2, a.error? = none) :
    runGroups migrate true total s t gs = runGroups migrate false total s t gs := by
  induction gs generalizing s t with
  | nil => rfl
  | cons group gs ih =>
    simp only [List.flatten_cons, attemptAll_append, List.mem_append] at h
    have hgroup := firstError?_eq_none fun a ha => h a (.inl ha)
    simp only [runGroups, if_true, hgroup, Bool.false_eq_true, if_false]
    exact ih _ _ fun a ha => h a (.inr ha)

/-- Where a batch stops whose first error is at a position: at the end of its group, or of all. -/
def stopsAt (parallel total k : Nat) : Nat := min total (parallel * (k / parallel + 1))

theorem stopsAt_of_lt {n total k : Nat} (hk : k < n + 1) :
    stopsAt (n + 1) total k = min total (n + 1) := by
  simp [stopsAt, Nat.div_eq_of_lt hk]

theorem stopsAt_of_le {n total k : Nat} (hk : n + 1 ≤ k) (htotal : n + 1 ≤ total) :
    stopsAt (n + 1) total k = n + 1 + stopsAt (n + 1) (total - (n + 1)) (k - (n + 1)) := by
  have hdiv : k / (n + 1) = (k - (n + 1)) / (n + 1) + 1 := by
    rw [Nat.div_eq_sub_div (Nat.succ_pos n) hk]
  have hmul : (n + 1) * (k / (n + 1) + 1) =
      (n + 1) + (n + 1) * ((k - (n + 1)) / (n + 1) + 1) := by
    rw [hdiv, Nat.mul_add (n + 1) _ 1, Nat.mul_one, Nat.add_comm]
  unfold stopsAt
  omega

/-- What is attempted beyond the first group is attempted of the groups after it. -/
theorem take_stopsAt_of_le {α : Type} {n k : Nat} {x : α} {xs : List α} (hk : n + 1 ≤ k)
    (hlength : k < (x :: xs).length) :
    (x :: xs).take (stopsAt (n + 1) (x :: xs).length k) =
      (x :: xs.take n) ++ (xs.drop n).take (stopsAt (n + 1) (xs.drop n).length (k - (n + 1))) := by
  have hsplit : (x :: xs.take n) ++ xs.drop n = x :: xs := by simp
  have hfull : (x :: xs.take n).length = n + 1 := by
    simp only [List.length_cons, List.length_take] at hlength ⊢
    omega
  have hmore (i : Nat) :
      (x :: xs).take (n + 1 + i) = (x :: xs.take n) ++ (xs.drop n).take i := by
    rw [← hfull, ← List.take_length_add_append, hsplit]
  rw [stopsAt_of_le hk (by omega), ← hmore]
  simp

/-- A batch that stops on errors stops with the first error, after the group that it is in. -/
theorem runGroups_stop_of_isFirstError {n k : Nat} {a : Attempt} {e : MigrationError}
    {cs : List Candidate} {s : σ} (h : IsFirstError (attemptAll migrate s cs).2 k a e)
    (total : Nat) (t : Trace) :
    (runGroups migrate true total s t (groups n cs)).stoppedBy = some (a.label, e) ∧
      (runGroups migrate true total s t (groups n cs)).state =
        (attemptAll migrate s (cs.take (stopsAt (n + 1) cs.length k))).1 ∧
      (runGroups migrate true total s t (groups n cs)).trace.attempts =
        t.attempts ++ (attemptAll migrate s (cs.take (stopsAt (n + 1) cs.length k))).2 := by
  -- the first error is in this group, or it is the first one of the groups after it
  fun_induction groups n cs generalizing s t k with
  | case1 => simpa [attemptAll] using h.lt_length
  | case2 c cs ih =>
    have hgroup : c :: cs.take n = (c :: cs).take (n + 1) := rfl
    by_cases hk : k < n + 1
    · have hfirst := (h.take hk).firstError?
      rw [← attemptAll_take, ← hgroup] at hfirst
      have hstop : (c :: cs).take (stopsAt (n + 1) (c :: cs).length k) = c :: cs.take n := by
        rw [stopsAt_of_lt hk, Nat.min_comm, ← List.take_eq_take_min, hgroup]
      rw [hstop]
      simp only [runGroups, if_true, hfirst, Trace.extend, and_self]
    · have hle : n + 1 ≤ k := Nat.le_of_not_lt hk
      have hlength : k < (c :: cs).length := by
        rw [← length_attemptAll migrate s (c :: cs)]
        exact h.lt_length
      have hnone : Batch.firstError? (attemptAll migrate s (c :: cs.take n)).2 = none := by
        apply firstError?_eq_none
        intro a' ha'
        rw [hgroup, attemptAll_take] at ha'
        exact h.2.2 a' (List.take_subset_take_left _ hle ha')
      have hsplit : (c :: cs.take n) ++ cs.drop n = c :: cs := by simp
      have hfull : (c :: cs.take n).length = n + 1 := by
        rw [hgroup, List.length_take, Nat.min_eq_left (by omega)]
      have hrest : (attemptAll migrate s (c :: cs)).2.drop (n + 1) =
          (attemptAll migrate (attemptAll migrate s (c :: cs.take n)).1 (cs.drop n)).2 := by
        rw [← hsplit, attemptAll_append]
        exact List.drop_left' (by rw [length_attemptAll, hfull])
      have hlast := h.drop hle
      rw [hrest] at hlast
      obtain ⟨hstopped, hstate, hattempts⟩ := ih hlast
        (t.extend total (attemptAll migrate s (c :: cs.take n)).2)
      rw [take_stopsAt_of_le hle hlength, attemptAll_append]
      simp only [runGroups, if_true, hnone]
      refine ⟨hstopped, hstate, ?_⟩
      rw [hattempts, Trace.extend, List.append_assoc]

end

end Batch
end ServiceCapsule
