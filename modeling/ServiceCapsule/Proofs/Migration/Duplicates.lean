import ServiceCapsule.Proofs.Migration.Protocol
import ServiceCapsule.Proofs.Migration.Runs

/-!
# Capsules with one id

Of the capsules with one id only the first is migrated. As long as the directories of the capsules
are left alone, the ids of all reports of a batch are different, and so are the directories that
packages are generated into.
-/

namespace ServiceCapsule

namespace Tools

variable {t : Tools} {d : Disk} {input output : Path} {mode : Mode}

theorem migrateParsed_cases (t : Tools) (d : Disk) (c : ParsedCapsule) (output : Path)
    (mode : Mode) :
    (∃ e, (t.migrateParsed d c output mode).2 = .error (.generate e)) ∨
      ∃ r, (t.migrateParsed d c output mode).2 = .ok r ∧ r.metadata = c.metadata := by
  unfold migrateParsed
  dsimp only
  split
  · exact .inl ⟨_, rfl⟩
  · exact .inr ⟨_, rfl, rfl⟩

theorem exists_parsed_of_migrate {r : MigrationReport}
    (h : (t.migrate d input output mode).2 = .ok r) :
    ∃ c, ParsedCapsule.ofDirectory t.sources d input = .ok c ∧ r.metadata = c.metadata := by
  cases hparse : ParsedCapsule.ofDirectory t.sources d input with
  | error e =>
    rw [migrate_of_parse_error hparse] at h
    cases h
  | ok c =>
    simp only [migrate, hparse] at h
    rcases t.migrateParsed_cases d c output mode with ⟨e, he⟩ | ⟨r', hr', hmetadata⟩
    · rw [he] at h
      cases h
    · obtain rfl := Except.ok.inj (hr'.symm.trans h)
      exact ⟨c, rfl, hmetadata⟩

theorem migrate_ne_duplicate (t : Tools) (d : Disk) (input output : Path) (mode : Mode)
    (id : String) (first : Path) :
    (t.migrate d input output mode).2 ≠ .error (.duplicate id first) := by
  intro h
  cases hparse : ParsedCapsule.ofDirectory t.sources d input with
  | error e =>
    rw [migrate_of_parse_error hparse] at h
    cases h
  | ok c =>
    simp only [migrate, hparse] at h
    rcases t.migrateParsed_cases d c output mode with ⟨e, he⟩ | ⟨r, hr, -⟩
    · rw [he] at h
      cases h
    · rw [hr] at h
      cases h

theorem packageDirectory_ne (output : Path) {id other : String} (hid : Path.IsName id)
    (hother : Path.IsName other) (hne : id ≠ other) :
    packageDirectory output id ≠ packageDirectory output other ∧
      ∀ (d : Disk) (place : List String), d.locate (packageDirectory output id) = .ok place →
        d.locate (packageDirectory output other) ≠ .ok place := by
  refine ⟨fun h => hne (Path.child_injective hid hother h), ?_⟩
  intro d place hplace hother'
  have hlast := Disk.getLast?_of_locate_child hid hplace
  rw [Disk.getLast?_of_locate_child hother hother'] at hlast
  exact hne (Option.some.inj hlast).symm

end Tools

namespace Batch

/-! ### Claims -/

section

variable {resolve : Path → Option String}

def claimAmong (resolve : Path → Option String) (past : List Path) (path : Path) :
    Option Claim :=
  (resolve path).bind fun id =>
    (past.find? fun earlier => resolve earlier == some id).map fun first => ⟨id, first⟩

/-- The ids that are taken are those of some capsules, each with the first that has it. -/
structure IsTakenBy (resolve : Path → Option String) (taken : List (String × Path))
    (past : List Path) : Prop where
  lookup_eq : ∀ id, taken.lookup id = past.find? fun earlier => resolve earlier == some id

namespace IsTakenBy

variable {taken : List (String × Path)} {past : List Path} {path first : Path} {id : String}

theorem claimAmong_eq (h : IsTakenBy resolve taken past) (path : Path) :
    claimAmong resolve past path =
      (resolve path).bind fun id => (taken.lookup id).map fun first => ⟨id, first⟩ := by
  simp only [claimAmong, h.lookup_eq]

theorem unknown (h : IsTakenBy resolve taken past) (hpath : resolve path = none) :
    IsTakenBy resolve taken (past ++ [path]) := by
  refine ⟨fun id => ?_⟩
  simp [List.find?_append, hpath, h.lookup_eq]

theorem again (h : IsTakenBy resolve taken past) (hpath : resolve path = some id)
    (hfirst : taken.lookup id = some first) : IsTakenBy resolve taken (past ++ [path]) := by
  refine ⟨fun other => ?_⟩
  by_cases hid : id = other
  · subst hid
    simp [List.find?_append, ← h.lookup_eq, hfirst]
  · simp [List.find?_append, hpath, hid, h.lookup_eq]

theorem add (h : IsTakenBy resolve taken past) (hpath : resolve path = some id)
    (hnone : taken.lookup id = none) :
    IsTakenBy resolve ((id, path) :: taken) (past ++ [path]) := by
  refine ⟨fun other => ?_⟩
  by_cases hid : id = other
  · subst hid
    simp [List.find?_append, ← h.lookup_eq, hnone, hpath]
  · have hother : (other == id) = false := by simpa using Ne.symm hid
    simp [List.find?_append, List.lookup_cons, hpath, hid, hother, h.lookup_eq]

end IsTakenBy

/-- Claims are made by the first capsule with an id. The ids that are taken stand for the capsules
before. -/
theorem getElem?_earlierClaims_from {past : List Path} {taken : List (String × Path)}
    (htaken : IsTakenBy resolve taken past) (paths : List Path) (j : Nat) :
    (earlierClaims resolve taken paths)[j]? =
      paths[j]?.map (claimAmong resolve (past ++ paths.take j)) := by
  -- what is taken are the ids of the capsules before, whatever becomes of each of them
  induction paths generalizing past taken j with
  | nil => simp [earlierClaims]
  | cons path paths ih =>
    have hclaim := htaken.claimAmong_eq path
    have hmore : ∀ j, past ++ (path :: paths).take (j + 1) = (past ++ [path]) ++ paths.take j := by
      simp
    cases hpath : resolve path with
    | none =>
      simp only [earlierClaims, hpath]
      cases j with
      | zero => simp [hclaim, hpath]
      | succ j => simpa [hmore] using ih (htaken.unknown hpath) j
    | some id =>
      cases hfirst : taken.lookup id with
      | some first =>
        simp only [earlierClaims, hpath, hfirst]
        cases j with
        | zero => simp [hclaim, hpath, hfirst]
        | succ j => simpa [hmore] using ih (htaken.again hpath hfirst) j
      | none =>
        simp only [earlierClaims, hpath, hfirst]
        cases j with
        | zero => simp [hclaim, hpath, hfirst]
        | succ j => simpa [hmore] using ih (htaken.add hpath hfirst) j

theorem getElem?_earlierClaims (paths : List Path) (j : Nat) :
    (earlierClaims resolve [] paths)[j]? =
      paths[j]?.map (claimAmong resolve (paths.take j)) := by
  have htaken : IsTakenBy resolve [] [] := ⟨fun _ => rfl⟩
  simpa using getElem?_earlierClaims_from htaken paths j

def IsFirstWith (resolve : Path → Option String) (paths : List Path) (id : String) (i : Nat)
    (first : Path) : Prop :=
  paths[i]? = some first ∧ resolve first = some id ∧
    ∀ i' < i, ∀ earlier, paths[i']? = some earlier → resolve earlier ≠ some id

theorem claimAmong_take {paths : List Path} {j : Nat} {path first : Path} {id : String} :
    claimAmong resolve (paths.take j) path = some ⟨id, first⟩ ↔
      resolve path = some id ∧ ∃ i < j, IsFirstWith resolve paths id i first := by
  have hfind : ∀ {id first}, ((paths.take j).find? fun earlier => resolve earlier == some id) =
      some first ↔ ∃ i < j, IsFirstWith resolve paths id i first := by
    intro id first
    rw [List.find?_eq_some_iff_getElem]
    constructor
    · rintro ⟨hfirst, i, hi, hget, hbefore⟩
      rw [List.length_take] at hi
      rw [List.getElem_take] at hget
      refine ⟨i, by omega, ?_, by simpa using hfirst, ?_⟩
      · rw [List.getElem?_eq_getElem (by omega), hget]
      · intro i' hi' earlier hearlier
        obtain ⟨hlt, rfl⟩ := List.getElem?_eq_some_iff.1 hearlier
        simpa using hbefore i' hi'
    · rintro ⟨i, hi, hget, hfirst, hbefore⟩
      obtain ⟨hlt, rfl⟩ := List.getElem?_eq_some_iff.1 hget
      refine ⟨by simpa using hfirst, i, by rw [List.length_take]; omega, by simp, ?_⟩
      intro i' hi'
      have hne := hbefore i' hi' _ (List.getElem?_eq_getElem (by omega))
      simpa using hne
  unfold claimAmong
  cases hpath : resolve path with
  | none => simp
  | some id' =>
    simp only [Option.bind_some, Option.map_eq_some_iff, Claim.mk.injEq, Option.some.injEq]
    constructor
    · rintro ⟨first', hfirst, rfl, rfl⟩
      exact ⟨rfl, hfind.1 hfirst⟩
    · rintro ⟨rfl, hfirst⟩
      exact ⟨first, hfind.2 hfirst, rfl, rfl⟩

theorem ne_of_claimAmong_take {paths : List Path} {i j : Nat} {path earlier : Path} {id : String}
    (hclaim : claimAmong resolve (paths.take j) path = none) (hpath : resolve path = some id)
    (hij : i < j) (hi : paths[i]? = some earlier) : resolve earlier ≠ some id := by
  intro hearlier
  simp only [claimAmong, hpath, Option.bind_some, Option.map_eq_none_iff, List.find?_eq_none]
    at hclaim
  have hmem : earlier ∈ paths.take j := by
    rw [List.mem_take_iff_getElem]
    obtain ⟨hlt, rfl⟩ := List.getElem?_eq_some_iff.1 hi
    exact ⟨i, by omega, rfl⟩
  exact hclaim earlier hmem (by simp [hearlier])

end

/-! ### Attempts of a run -/

section

variable {b : Batch} {t : Tools} {d : Disk}

def migrateWith (b : Batch) (t : Tools) (d : Disk) (path : Path) : Disk × Outcome :=
  t.migrate d path b.output b.mode

/-- What a run attempts, in order. Without room for a capsule in a group there is no run. -/
def attemptsOf (b : Batch) (t : Tools) (d : Disk) : List Attempt :=
  if b.parallel = 0 then [] else (b.ended (b.migrateWith t) d).trace.attempts

/-- What is there when it is the turn of the capsule at a position. -/
def diskBefore (b : Batch) (t : Tools) (d : Disk) (j : Nat) : Disk :=
  (attemptAll (b.migrateWith t) d ((b.candidatesOn d).take j)).1

theorem attemptsOf_eq (hparallel : 1 ≤ b.parallel) :
    b.attemptsOf t d = (b.ended (b.migrateWith t) d).trace.attempts := by
  have hzero : b.parallel ≠ 0 := by omega
  simp [attemptsOf, hzero]

theorem map_path_attemptsOf (hparallel : 1 ≤ b.parallel) (hstop : b.stopOnError = false) :
    (b.attemptsOf t d).map (·.path) = b.capsules := by
  rw [attemptsOf_eq hparallel, (ended_goOn hparallel hstop _ d).2.1, map_path_attemptAll,
    map_path_candidatesOn]

theorem parallel_of_attemptsOf {j : Nat} {a : Attempt} (ha : (b.attemptsOf t d)[j]? = some a) :
    1 ≤ b.parallel := by
  refine Nat.one_le_iff_ne_zero.2 fun hzero => ?_
  simp [attemptsOf, hzero] at ha

/-- The attempt at a position is made on what is there when it is its turn, with the claim of the
capsules before. -/
theorem attempt_of_attemptsOf {j : Nat} {a : Attempt} (ha : (b.attemptsOf t d)[j]? = some a) :
    ∃ path, b.capsules[j]? = some path ∧
      attempt (b.migrateWith t) (b.diskBefore t d j)
        ⟨path, claimAmong (resolver d) (b.capsules.take j) path⟩ =
          (b.diskBefore t d (j + 1), a) := by
  have hparallel := parallel_of_attemptsOf ha
  obtain ⟨m, -, hm⟩ := exists_ended_eq_take hparallel (b.migrateWith t) d
  rw [attemptsOf_eq hparallel, hm, attemptAll_take, List.getElem?_take] at ha
  split at ha
  · rw [getElem?_attemptAll, Option.map_eq_some_iff] at ha
    obtain ⟨c, hc, rfl⟩ := ha
    have hpath : b.capsules[j]? = some c.path := by
      rw [← b.map_path_candidatesOn d, List.getElem?_map, hc]
      rfl
    have hclaim : c = ⟨c.path, claimAmong (resolver d) (b.capsules.take j) c.path⟩ := by
      have hcandidate := hc
      rw [candidatesOn, getElem?_candidates hpath, claims, getElem?_earlierClaims, hpath]
        at hcandidate
      exact (Option.some.inj hcandidate).symm
    refine ⟨c.path, hpath, ?_⟩
    rw [← hclaim, diskBefore, diskBefore, List.take_add_one, hc, attemptAll_append]
    rfl
  · simp at ha

theorem disk_of_run : (b.run t d).1 = b.diskBefore t d (b.attemptsOf t d).length ∨
    ∃ report : BatchReport, (b.run t d).1 =
      (report.save (b.diskBefore t d (b.attemptsOf t d).length) b.output).1 := by
  by_cases hzero : b.parallel = 0
  · simp [run, runWith, attemptsOf, hzero, diskBefore, attemptAll]
  · have hparallel : 1 ≤ b.parallel := Nat.one_le_iff_ne_zero.2 hzero
    obtain ⟨m, hstate, hattempts⟩ := exists_ended_eq_take hparallel (b.migrateWith t) d
    have hstate' : (b.ended (b.migrateWith t) d).state =
        b.diskBefore t d (b.attemptsOf t d).length := by
      rw [attemptsOf_eq hparallel, hattempts, length_attemptAll, diskBefore, List.length_take,
        ← List.take_eq_take_min, hstate]
    have hrun : b.run t d = b.finish t.time (b.ended (b.migrateWith t) d) :=
      runWith_eq hparallel
    rw [hrun, ← hstate']
    exact disk_finish b t.time _

/-- The directories of the capsules are the same before a run and when it is their turn. -/
def Undisturbed (b : Batch) (t : Tools) (d : Disk) : Prop :=
  ∀ j path, j < (b.attemptsOf t d).length → b.capsules[j]? = some path →
    (b.diskBefore t d j).entry path = d.entry path

/-- What no package can get into is there as before when it is the turn of a capsule. -/
theorem keeps_diskBefore {names : List String} (hplace : ∀ name ∈ d.place, Path.IsName name)
    (havoids : ∀ id, Path.IsName id →
      Disk.Avoids d.place (Disk.IsAncestor (Tools.packageDirectory b.output id)) names) (j : Nat) :
    Disk.Keeps names d (b.diskBefore t d j) := by
  refine attemptAll_preserves (fun s path h => ?_) (.refl names d) _
  rw [← h.place] at hplace havoids
  exact h.trans (t.keeps_migrate s path b.output b.mode hplace havoids)

theorem undisturbed_of_avoids (hplace : ∀ name ∈ d.place, Path.IsName name)
    (h : ∀ path ∈ b.capsules, ∃ names, d.locate path = .ok names ∧ ∀ id, Path.IsName id →
      Disk.Avoids d.place (Disk.IsAncestor (Tools.packageDirectory b.output id)) names) :
    b.Undisturbed t d := by
  intro j path _ hpath
  obtain ⟨names, hlocate, havoids⟩ := h path (List.mem_of_getElem? hpath)
  exact (keeps_diskBefore hplace havoids j).entry hlocate

/-- A run turns a capsule away exactly if there is a claim on it. -/
theorem outcome_eq_duplicate {j : Nat} {a : Attempt} {id : String}
    {first : Path} (ha : (b.attemptsOf t d)[j]? = some a) :
    a.outcome = .error (.duplicate id first) ↔
      ∃ path, b.capsules[j]? = some path ∧
        claimAmong (resolver d) (b.capsules.take j) path = some ⟨id, first⟩ := by
  obtain ⟨path, hpath, hattempt⟩ := attempt_of_attemptsOf ha
  have hget : ∀ path', b.capsules[j]? = some path' ↔ path' = path := by
    intro path'
    rw [hpath, Option.some.injEq, eq_comm]
  simp only [hget, exists_eq_left]
  unfold attempt at hattempt
  cases hclaim : claimAmong (resolver d) (b.capsules.take j) path with
  | some claim =>
    obtain ⟨id', first'⟩ := claim
    simp only [hclaim, Prod.mk.injEq] at hattempt
    rw [← hattempt.2]
    simp
  | none =>
    simp only [hclaim, Prod.mk.injEq] at hattempt
    rw [← hattempt.2]
    simpa [migrateWith] using Tools.migrate_ne_duplicate t _ path b.output b.mode id first

theorem diskBefore_succ_of_duplicate {j : Nat} {a : Attempt}
    {id : String} {first : Path} (ha : (b.attemptsOf t d)[j]? = some a)
    (h : a.outcome = .error (.duplicate id first)) :
    b.diskBefore t d (j + 1) = b.diskBefore t d j := by
  obtain ⟨path, hpath, hattempt⟩ := attempt_of_attemptsOf ha
  obtain ⟨path', hpath', hclaim⟩ := (outcome_eq_duplicate ha).1 h
  obtain rfl : path = path' := Option.some.inj (hpath.symm.trans hpath')
  simp only [attempt, hclaim, Prod.mk.injEq] at hattempt
  exact hattempt.1.symm

/-- A capsule that is not turned away is parsed, and its package goes into a directory. -/
def GeneratesInto (b : Batch) (t : Tools) (d : Disk) (j : Nat) (dir : Path) : Prop :=
  ∃ path a c, b.capsules[j]? = some path ∧ (b.attemptsOf t d)[j]? = some a ∧
    (∀ id first, a.outcome ≠ .error (.duplicate id first)) ∧
    ParsedCapsule.ofDirectory t.sources (b.diskBefore t d j) path = .ok c ∧
    dir = Tools.packageDirectory b.output c.metadata.id

/-- As long as its directory is left alone, a capsule is parsed under the id that was resolved
before the run. -/
theorem resolver_of_parsed (h : b.Undisturbed t d) {j : Nat} {path : Path} {c : ParsedCapsule}
    (hj : j < (b.attemptsOf t d).length) (hpath : b.capsules[j]? = some path)
    (hc : ParsedCapsule.ofDirectory t.sources (b.diskBefore t d j) path = .ok c) :
    resolver d path = some c.metadata.id := by
  have htext := ParsedCapsule.text_ne_empty_of_ofDirectory hc
  have hid := ParsedCapsule.resolveIdIn_of_ofDirectory hc
  rw [Metadata.resolveIdIn_congr htext (h j path hj hpath)] at hid
  rw [resolver, hid]
  rfl

theorem claimAmong_eq_none {j : Nat} {path : Path} {a : Attempt}
    (hpath : b.capsules[j]? = some path) (ha : (b.attemptsOf t d)[j]? = some a)
    (hne : ∀ id first, a.outcome ≠ .error (.duplicate id first)) :
    claimAmong (resolver d) (b.capsules.take j) path = none := by
  cases hclaim : claimAmong (resolver d) (b.capsules.take j) path with
  | none => rfl
  | some claim =>
    exact absurd ((outcome_eq_duplicate ha).2 ⟨path, hpath, hclaim⟩) (hne _ _)

/-- Capsules that are not turned away are parsed under different ids. -/
theorem id_ne_of_lt (h : b.Undisturbed t d) {i j : Nat}
    (hij : i < j) {path path' : Path} {a a' : Attempt} {c c' : ParsedCapsule}
    (hpath : b.capsules[i]? = some path) (hpath' : b.capsules[j]? = some path')
    (ha : (b.attemptsOf t d)[i]? = some a) (ha' : (b.attemptsOf t d)[j]? = some a')
    (hne' : ∀ id first, a'.outcome ≠ .error (.duplicate id first))
    (hc : ParsedCapsule.ofDirectory t.sources (b.diskBefore t d i) path = .ok c)
    (hc' : ParsedCapsule.ofDirectory t.sources (b.diskBefore t d j) path' = .ok c') :
    c.metadata.id ≠ c'.metadata.id := by
  have hid := resolver_of_parsed h (List.getElem?_eq_some_iff.1 ha).1 hpath hc
  have hid' := resolver_of_parsed h (List.getElem?_eq_some_iff.1 ha').1 hpath' hc'
  have hclaim := claimAmong_eq_none hpath' ha' hne'
  intro heq
  exact ne_of_claimAmong_take hclaim hid' hij hpath (heq ▸ hid)

theorem exists_parsed_of_report {j : Nat} {a : Attempt}
    {report : MigrationReport} (ha : (b.attemptsOf t d)[j]? = some a)
    (hreport : a.report? = some report) :
    ∃ path c, b.capsules[j]? = some path ∧
      (∀ id first, a.outcome ≠ .error (.duplicate id first)) ∧
      ParsedCapsule.ofDirectory t.sources (b.diskBefore t d j) path = .ok c ∧
      report.id = c.metadata.id := by
  obtain ⟨path, hpath, hattempt⟩ := attempt_of_attemptsOf ha
  have hok : a.outcome = .ok report := by
    unfold Attempt.report? at hreport
    cases ho : a.outcome with
    | error e => simp [ho, Except.toOption] at hreport
    | ok r => simpa [ho, Except.toOption] using hreport
  have hne : ∀ id first, a.outcome ≠ .error (.duplicate id first) := by
    simp [hok]
  simp only [attempt, claimAmong_eq_none hpath ha hne, Prod.mk.injEq] at hattempt
  have hmigrate : (t.migrate (b.diskBefore t d j) path b.output b.mode).2 = .ok report := by
    rw [← hok, ← hattempt.2]
    rfl
  obtain ⟨c, hc, hmetadata⟩ := Tools.exists_parsed_of_migrate hmigrate
  exact ⟨path, c, hpath, hne, hc, congrArg Metadata.id hmetadata⟩

theorem nodup_ids_reportsOf (h : b.Undisturbed t d) :
    ((reportsOf (b.attemptsOf t d)).map (·.id)).Nodup := by
  rw [List.Nodup, List.pairwise_map, reportsOf, List.pairwise_filterMap,
    List.pairwise_iff_getElem]
  intro i j hi hj hij report hreport report' hreport'
  have ha := List.getElem?_eq_getElem hi
  have ha' := List.getElem?_eq_getElem hj
  obtain ⟨path, c, hpath, -, hc, hid⟩ := exists_parsed_of_report ha hreport
  obtain ⟨path', c', hpath', hne', hc', hid'⟩ := exists_parsed_of_report ha' hreport'
  rw [hid, hid']
  exact id_ne_of_lt h hij hpath hpath' ha ha' hne' hc hc'

theorem generatesInto_ne_of_lt (h : b.Undisturbed t d) {i j : Nat}
    {dir dir' : Path} (hij : i < j) (hi : b.GeneratesInto t d i dir)
    (hj : b.GeneratesInto t d j dir') :
    dir ≠ dir' ∧ ∀ (s : Disk) (place : List String),
      s.locate dir = .ok place → s.locate dir' ≠ .ok place := by
  obtain ⟨path, a, c, hpath, ha, -, hc, rfl⟩ := hi
  obtain ⟨path', a', c', hpath', ha', hne', hc', rfl⟩ := hj
  have hid := ParsedCapsule.resolveIdIn_of_ofDirectory hc
  have hid' := ParsedCapsule.resolveIdIn_of_ofDirectory hc'
  exact Tools.packageDirectory_ne b.output (Metadata.isName_of_resolveIdIn hid)
    (Metadata.isName_of_resolveIdIn hid')
    (id_ne_of_lt h hij hpath hpath' ha ha' hne' hc hc')

end

/-- Of the capsules with one id a run turns away all but the first, which it names, and it does so
without writing anything. The id that is resolved is the one that the capsule is parsed under; so
no two reports have one id, and no two packages go into one directory. -/
theorem run_duplicates (b : Batch) (t : Tools) (d : Disk) (hundisturbed : b.Undisturbed t d) :
    (1 ≤ b.parallel → b.stopOnError = false → (b.attemptsOf t d).map (·.path) = b.capsules) ∧
    (∀ j a id first, (b.attemptsOf t d)[j]? = some a →
      (a.outcome = .error (.duplicate id first) ↔
        ∃ path, b.capsules[j]? = some path ∧ resolver d path = some id ∧
          ∃ i < j, IsFirstWith (resolver d) b.capsules id i first)) ∧
    (∀ (s : Disk) (dir : Path) (c : ParsedCapsule),
      ParsedCapsule.ofDirectory t.sources s dir = .ok c →
        Metadata.resolveIdIn s dir = .ok c.metadata.id) ∧
    ((reportsOf (b.attemptsOf t d)).map (·.id)).Nodup ∧
    (∀ report, (b.run t d).2.result = .ok report → (report.reports.map (·.id)).Nodup) ∧
    (∀ i j dir dir', i ≠ j → b.GeneratesInto t d i dir → b.GeneratesInto t d j dir' →
      dir ≠ dir' ∧ ∀ (s : Disk) (place : List String),
        s.locate dir = .ok place → s.locate dir' ≠ .ok place) ∧
    (∀ j a id first, (b.attemptsOf t d)[j]? = some a →
      a.outcome = .error (.duplicate id first) →
        b.diskBefore t d (j + 1) = b.diskBefore t d j) ∧
    ((b.run t d).1 = b.diskBefore t d (b.attemptsOf t d).length ∨ ∃ report : BatchReport,
      (b.run t d).1 =
        (report.save (b.diskBefore t d (b.attemptsOf t d).length) b.output).1) := by
  have hnodup := nodup_ids_reportsOf hundisturbed
  refine ⟨map_path_attemptsOf, ?_, fun s dir c => ParsedCapsule.resolveIdIn_of_ofDirectory,
    hnodup, ?_, ?_, fun j a id first => diskBefore_succ_of_duplicate, disk_of_run⟩
  · intro j a id first ha
    simp only [outcome_eq_duplicate ha, claimAmong_take]
  · intro report hreport
    have hparallel : 1 ≤ b.parallel := by
      refine Nat.one_le_iff_ne_zero.2 fun hzero => ?_
      simp [run, runWith, hzero] at hreport
    have hreports : report.reports = (b.ended (b.migrateWith t) d).trace.reports :=
      reports_of_result hparallel hreport
    rw [attemptsOf_eq hparallel] at hnodup
    rwa [hreports]
  · intro i j dir dir' hne hi hj
    rcases Nat.lt_or_gt_of_ne hne with hij | hij
    · exact generatesInto_ne_of_lt hundisturbed hij hi hj
    · obtain ⟨hdir, hplace⟩ := generatesInto_ne_of_lt hundisturbed hij hj hi
      exact ⟨hdir.symm, fun s place h h' => hplace s place h' h⟩

/-- A disk with capsules of one source each, two of them with one name, and with directories for
their packages. -/
def capsulesDisk : Disk :=
  ⟨.directory [
    ("in", .directory [("a", .directory [("a.ts", .file (.text "export const a = 1;"))]),
      ("b", .directory [("a.ts", .file (.text "export const b = 2;"))])]),
    ("other", .directory [("a", .directory [("a.ts", .file (.text "export const c = 3;"))])]),
    ("out", .directory [("a", .directory []), ("b", .directory [])])], []⟩

theorem avoids_capsulesDisk {top : String} (hne : top ≠ "out") (names : List String) :
    ∀ id, Path.IsName id → Disk.Avoids capsulesDisk.place
      (Disk.IsAncestor (Tools.packageDirectory (mixedBatch false).output id)) (top :: names) := by
  intro id hid
  refine Tools.avoids_packageDirectory (by decide) hid ?_
  constructor <;> simp [capsulesDisk, hne, Ne.symm hne]

theorem undisturbed_capsulesDisk : (mixedBatch false).Undisturbed Tools.lenient capsulesDisk := by
  refine undisturbed_of_avoids (fun _ h => nomatch h) fun path hpath => ?_
  simp only [mixedBatch, List.mem_cons, List.not_mem_nil, or_false] at hpath
  rcases hpath with rfl | rfl | rfl
  · exact ⟨["in", "a"], rfl, avoids_capsulesDisk (by decide) _⟩
  · exact ⟨["in", "b"], rfl, avoids_capsulesDisk (by decide) _⟩
  · exact ⟨["other", "a"], rfl, avoids_capsulesDisk (by decide) _⟩

theorem report_capsulesDisk (id : String) {j : Nat} {a : Attempt} {path : Path} {source : String}
    (ha : ((mixedBatch false).attemptsOf Tools.lenient capsulesDisk)[j]? = some a)
    (hpath : (mixedBatch false).capsules[j]? = some path) (htext : path.text ≠ "")
    (hentry : capsulesDisk.entry path = .ok (.directory [("a.ts", .file (.text source))]))
    (hid : Metadata.resolveId path none = id)
    (hdir : capsulesDisk.locate (Tools.packageDirectory ⟨"out"⟩ id) = .ok ["out", id])
    (hthere : capsulesDisk.sight ["out", id] = .directory)
    (hslash : Text.dropEndWhile (· == '/') (Tools.packageDirectory ⟨"out"⟩ id).text.toList =
      (Tools.packageDirectory ⟨"out"⟩ id).text.toList)
    (hne : ∀ id first, a.outcome ≠ .error (.duplicate id first)) :
    ∃ r, a = ⟨path, .ok r⟩ ∧ r.id = id ∧
      (mixedBatch false).GeneratesInto Tools.lenient capsulesDisk j
        (Tools.packageDirectory ⟨"out"⟩ id) := by
  obtain ⟨hj, -⟩ := List.getElem?_eq_some_iff.1 ha
  have hnow := (undisturbed_capsulesDisk j path hj hpath).trans hentry
  have hadmits : Tools.lenient.sources.admits "a.ts" ["a.ts"] = true := by decide +kernel
  have hmanifest : ∀ candidate ∈ Manifest.candidates, candidate.1 ≠ "a.ts" := by decide
  have hparsed := ParsedCapsule.ofDirectory_of_single htext (by decide) hadmits hmanifest hnow
  obtain ⟨c, hc, rfl⟩ : ∃ c, ParsedCapsule.ofDirectory Tools.lenient.sources
      ((mixedBatch false).diskBefore Tools.lenient capsulesDisk j) path = .ok c ∧
        c.metadata.id = id :=
    ⟨_, hparsed, (ParsedCapsule.id_ofSources _ _ _).trans hid⟩
  -- the directory of the package is there before the run, and no directory goes away
  have hkept : Disk.Keeps ["in"] capsulesDisk
      ((mixedBatch false).diskBefore Tools.lenient capsulesDisk j) :=
    keeps_diskBefore (by decide) (avoids_capsulesDisk (by decide) []) j
  obtain ⟨made, hprepare⟩ := Generation.prepare_of_directory c.metadata.id (hkept.locate hdir)
    (hkept.sight_directory _ hthere) hslash
  obtain ⟨after, r, hmigrate⟩ := Tools.lenient.exists_report_of_prepare .auto hprepare
  rw [← Tools.migrate_of_parsed hc] at hmigrate
  have hresult := congrArg Prod.snd hmigrate
  obtain ⟨path', hpath', hattempt⟩ := attempt_of_attemptsOf ha
  obtain rfl : path = path' := Option.some.inj (hpath.symm.trans hpath')
  simp only [attempt, claimAmong_eq_none hpath ha hne, Prod.mk.injEq] at hattempt
  obtain ⟨c', hc', hmetadata⟩ := Tools.exists_parsed_of_migrate hresult
  obtain rfl := Except.ok.inj (hc.symm.trans hc')
  refine ⟨r, ?_, congrArg Metadata.id hmetadata, path, a, c, hpath, ha, hne, hc, rfl⟩
  rw [← hattempt.2]
  exact congrArg (Attempt.mk path) hresult

/-- Of three capsules two are migrated, and the one with the id of the first is turned away. -/
theorem run_duplicates_capsulesDisk :
    (mixedBatch false).Undisturbed Tools.lenient capsulesDisk ∧
      ∃ r r', (mixedBatch false).attemptsOf Tools.lenient capsulesDisk =
          [⟨⟨"in/a"⟩, .ok r⟩, ⟨⟨"in/b"⟩, .ok r'⟩,
            ⟨⟨"other/a"⟩, .error (.duplicate "a" ⟨"in/a"⟩)⟩] ∧
        r.id = "a" ∧ r'.id = "b" ∧
        (mixedBatch false).GeneratesInto Tools.lenient capsulesDisk 0 ⟨"out/a"⟩ ∧
        (mixedBatch false).GeneratesInto Tools.lenient capsulesDisk 1 ⟨"out/b"⟩ := by
  obtain ⟨hall, hduplicate, -⟩ :=
    run_duplicates (mixedBatch false) Tools.lenient capsulesDisk undisturbed_capsulesDisk
  have hpaths := hall (by decide) rfl
  obtain ⟨first, second, third, hattempts⟩ :
      ∃ x y z, (mixedBatch false).attemptsOf Tools.lenient capsulesDisk = [x, y, z] := by
    rw [← List.length_eq_three, ← List.length_map, hpaths]
    rfl
  have hfirst := congrArg (·[0]?) hattempts
  have hsecond := congrArg (·[1]?) hattempts
  have hthird := congrArg (·[2]?) hattempts
  have ha : resolver capsulesDisk ⟨"in/a"⟩ = some "a" := by decide +kernel
  have hb : resolver capsulesDisk ⟨"in/b"⟩ = some "b" := by decide +kernel
  have hother : resolver capsulesDisk ⟨"other/a"⟩ = some "a" := by decide +kernel
  obtain ⟨r, rfl, hr, hinto⟩ := report_capsulesDisk "a" hfirst rfl (by decide) rfl
    (by decide +kernel) rfl rfl (by decide) fun id path h => by
      obtain ⟨-, -, -, i, hi, -⟩ := (hduplicate 0 first id path hfirst).1 h
      exact absurd hi (Nat.not_lt_zero i)
  obtain ⟨r', rfl, hr', hinto'⟩ := report_capsulesDisk "b" hsecond rfl (by decide) rfl
    (by decide +kernel) rfl rfl (by decide) fun id path h => by
      obtain ⟨path', hpath', hid, i, hi, hget, hid', -⟩ := (hduplicate 1 second id path hsecond).1 h
      obtain rfl : i = 0 := by omega
      cases hpath'
      cases hget
      rw [hb] at hid
      rw [ha] at hid'
      simp [← hid] at hid'
  have hturned := (hduplicate 2 third "a" ⟨"in/a"⟩ hthird).2
    ⟨⟨"other/a"⟩, rfl, hother, 0, by decide, rfl, ha, fun i hi => absurd hi (Nat.not_lt_zero i)⟩
  have hpath : third.path = ⟨"other/a"⟩ := by
    rw [hattempts] at hpaths
    simpa [mixedBatch] using hpaths
  obtain ⟨path, outcome⟩ := third
  cases hpath
  cases hturned
  exact ⟨undisturbed_capsulesDisk, r, r', hattempts, hr, hr', hinto, hinto'⟩

end Batch
end ServiceCapsule
