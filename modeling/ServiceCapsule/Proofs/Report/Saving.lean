import Mathlib.Data.List.Nodup
import ServiceCapsule.Report.Saving
import ServiceCapsule.Proofs.Capsule.Identity

/-!
# Saved reports

Reports of different capsules are saved under different names, and each file holds what was written
last under its name. The files of a batch are named like those of a capsule whose id is `batch`, so
such a capsule is the one whose own report is lost.
-/

namespace ServiceCapsule

namespace Saving

/-! ### Names of files -/

def namesOf (id : String) : List String := [stemOf id ++ ".md", stemOf id ++ ".json"]

/-- A batch is saved like a capsule with this id. -/
theorem batchStem_eq : batchStem = stemOf "batch" := by decide

theorem map_fst_filesOf (id markdown : String) (json : Json) :
    (filesOf (stemOf id) markdown json).map (·.1) = namesOf id := rfl

theorem stemOf_injective {id other : String} (h : stemOf id = stemOf other) : id = other :=
  (String.append_left_inj _).1 h

theorem append_md_ne_append_json (s t : String) : s ++ ".md" ≠ t ++ ".json" := by
  intro h
  have hlast := congrArg (fun s => s.toList.getLast?) h
  simp at hlast

theorem nodup_namesOf (id : String) : (namesOf id).Nodup := by
  simp [namesOf]

theorem eq_of_mem_namesOf {name id other : String} (h : name ∈ namesOf id)
    (hother : name ∈ namesOf other) : id = other := by
  simp only [namesOf, List.mem_cons, List.not_mem_nil, or_false] at h hother
  obtain rfl | rfl := h
  · rcases hother with h | h
    · exact stemOf_injective ((String.append_left_inj _).1 h)
    · exact absurd h (append_md_ne_append_json _ _)
  · rcases hother with h | h
    · exact absurd h.symm (append_md_ne_append_json _ _)
    · exact stemOf_injective ((String.append_left_inj _).1 h)

theorem nodup_flatMap_namesOf {ids : List String} :
    (ids.flatMap namesOf).Nodup ↔ ids.Nodup := by
  rw [List.nodup_flatMap]
  constructor
  · rintro ⟨-, hdisjoint⟩
    refine hdisjoint.imp fun {id other} hids heq => ?_
    subst heq
    exact hids List.mem_cons_self List.mem_cons_self
  · intro hids
    refine ⟨fun id _ => nodup_namesOf id, hids.imp fun {id other} hne => ?_⟩
    intro name hname hother
    exact hne (eq_of_mem_namesOf hname hother)

theorem isName_of_mem_namesOf {id name : String} (hid : Path.IsName id)
    (h : name ∈ namesOf id) : Path.IsName name := by
  have hstem : Path.IsName (stemOf id) := hid.append (by decide) (by decide)
  simp only [namesOf, List.mem_cons, List.not_mem_nil, or_false] at h
  rcases h with rfl | rfl
  · exact hstem.append (by decide) (by decide)
  · exact hstem.append (by decide) (by decide)

theorem eq_of_mem_filesOf {id markdown : String} {json : Json} {f g : String × String}
    (hf : f ∈ filesOf (stemOf id) markdown json) (hg : g ∈ filesOf (stemOf id) markdown json)
    (h : g.1 = f.1) : g = f := by
  have hnames : ((filesOf (stemOf id) markdown json).map (·.1)).Nodup := nodup_namesOf id
  exact List.inj_on_of_nodup_map hnames hg hf h

/-! ### Writing several files -/

section

variable {dir : Path} {d d' : Disk} {files : List (String × String)} {paths : List Path}

theorem writeAll_nil (dir : Path) (d : Disk) : writeAll dir d [] = (d, .ok []) := (rfl)

-- in brackets: the definition is to be opened here and not by whoever uses the equation
theorem writeAll_cons (dir : Path) (d : Disk) (f : String × String)
    (rest : List (String × String)) :
    writeAll dir d (f :: rest) =
      match d.write (dir.child f.1) (.text f.2) with
      | .error e => (d, .error ⟨dir.child f.1, e⟩)
      | .ok next => ((writeAll dir next rest).1,
          (writeAll dir next rest).2.map (dir.child f.1 :: ·)) := (rfl)

theorem writeAll_cons_eq_ok {f : String × String} {rest : List (String × String)}
    (h : writeAll dir d (f :: rest) = (d', .ok paths)) :
    ∃ next written, d.write (dir.child f.1) (.text f.2) = .ok next ∧
      writeAll dir next rest = (d', .ok written) ∧ paths = dir.child f.1 :: written := by
  rw [writeAll_cons] at h
  cases hwrite : d.write (dir.child f.1) (.text f.2) with
  | error e => simp [hwrite] at h
  | ok next =>
    cases hrest : writeAll dir next rest with
    | mk after outcome =>
      cases outcome with
      | error e => simp [hwrite, hrest, Except.map] at h
      | ok written =>
        simp only [hwrite, hrest, Except.map, Prod.mk.injEq, Except.ok.injEq] at h
        exact ⟨next, written, rfl, by rw [hrest, h.1], h.2.symm⟩

theorem paths_of_writeAll (h : writeAll dir d files = (d', .ok paths)) :
    paths = files.map fun f => dir.child f.1 := by
  induction files generalizing d paths with
  | nil =>
    rw [writeAll_nil, Prod.mk.injEq, Except.ok.injEq] at h
    exact h.2.symm
  | cons f rest ih =>
    obtain ⟨next, written, -, hrest, rfl⟩ := writeAll_cons_eq_ok h
    rw [List.map_cons, ih hrest]

theorem entry_writeAll_of_notMem (hdir : dir.text ≠ "")
    (hnames : ∀ f ∈ files, Path.IsName f.1) {name : String} (hname : Path.IsName name)
    (hne : ∀ f ∈ files, f.1 ≠ name) (h : writeAll dir d files = (d', .ok paths)) :
    d'.entry (dir.child name) = d.entry (dir.child name) := by
  induction files generalizing d paths with
  | nil =>
    rw [writeAll_nil, Prod.mk.injEq] at h
    rw [h.1]
  | cons f rest ih =>
    obtain ⟨next, written, hwrite, hrest, rfl⟩ := writeAll_cons_eq_ok h
    rw [List.forall_mem_cons] at hnames hne
    obtain ⟨entries, hbefore, hafter⟩ := Disk.entry_of_write_child hdir hnames.1 hwrite
    rw [ih hnames.2 hne.2 hrest, Disk.entry_child _ hdir hname, Disk.entry_child _ hdir hname,
      hbefore, hafter]
    simp [Except.bind, Entry.under, Entry.lookup_setChild, hne.1.symm]

/-- A name holds the last text that was written under it. -/
theorem entry_writeAll (hdir : dir.text ≠ "") (hnames : ∀ f ∈ files, Path.IsName f.1)
    {name text : String} (hlast : files.reverse.lookup name = some text)
    (h : writeAll dir d files = (d', .ok paths)) :
    d'.entry (dir.child name) = .ok (.file (.text text)) := by
  induction files generalizing d paths with
  | nil => simp at hlast
  | cons f rest ih =>
    obtain ⟨next, written, hwrite, hrest, rfl⟩ := writeAll_cons_eq_ok h
    rw [List.forall_mem_cons] at hnames
    rw [List.reverse_cons, List.lookup_append] at hlast
    cases hlater : rest.reverse.lookup name with
    | some later =>
      rw [hlater, Option.some_or] at hlast
      exact ih hnames.2 (hlater.trans hlast) hrest
    | none =>
      rw [hlater, Option.none_or] at hlast
      obtain ⟨rfl, rfl⟩ : name = f.1 ∧ f.2 = text := by
        rw [List.lookup_cons, List.lookup_nil] at hlast
        cases hname : name == f.1 with
        | false => simp [hname] at hlast
        | true => exact ⟨by simpa using hname, by simpa [hname] using hlast⟩
      have hne : ∀ g ∈ rest, g.1 ≠ f.1 := by
        intro g hg heq
        have hnone := List.lookup_eq_none_iff.1 hlater g (List.mem_reverse.2 hg)
        simp [heq] at hnone
      obtain ⟨entries, -, hafter⟩ := Disk.entry_of_write_child hdir hnames.1 hwrite
      rw [entry_writeAll_of_notMem hdir hnames.2 hnames.1 hne hrest,
        Disk.entry_child _ hdir hnames.1, hafter]
      simp [Except.bind, Entry.under, Entry.lookup_setChild]

theorem exists_writeAll (hdir : dir.text ≠ "") (hnames : ∀ f ∈ files, Path.IsName f.1)
    {entries : List (String × Entry)} (hentry : d.entry dir = .ok (.directory entries))
    (hfree : ∀ f ∈ files, ∀ es, entries.lookup f.1 ≠ some (.directory es)) :
    ∃ d' paths, writeAll dir d files = (d', .ok paths) := by
  induction files generalizing d entries with
  | nil => exact ⟨d, [], writeAll_nil dir d⟩
  | cons f rest ih =>
    rw [List.forall_mem_cons] at hnames hfree
    obtain ⟨next, hwrite⟩ := Disk.exists_write_child hdir hnames.1 hentry hfree.1 (.text f.2)
    obtain ⟨before, hbefore, hafter⟩ := Disk.entry_of_write_child hdir hnames.1 hwrite
    obtain rfl : before = entries := by simpa [hbefore] using hentry
    have hnext : ∀ g ∈ rest, ∀ es,
        (Entry.setChild f.1 (.file (.text f.2)) before).lookup g.1 ≠ some (.directory es) := by
      intro g hg es
      rw [Entry.lookup_setChild]
      split
      · simp
      · exact hfree.2 g hg es
    obtain ⟨d', paths, hrest⟩ := ih hnames.2 hafter hnext
    refine ⟨d', dir.child f.1 :: paths, ?_⟩
    rw [writeAll_cons, hwrite]
    simp only [hrest, Except.map]

end

theorem text_directory_ne_empty (output : Path) : (directory output).text ≠ "" := by
  by_cases h : output.text = ""
  · simp [directory, Path.child, Path.join, h]
  · exact Path.text_child_ne_empty h _

theorem lookup_of_unique {files : List (String × String)} {f : String × String} (hf : f ∈ files)
    (h : ∀ g ∈ files, g.1 = f.1 → g = f) : files.lookup f.1 = some f.2 := by
  cases hlookup : files.lookup f.1 with
  | none =>
    have hne := List.lookup_eq_none_iff.1 hlookup f hf
    simp at hne
  | some text =>
    obtain ⟨before, after, hsplit, -⟩ := List.lookup_eq_some_iff.1 hlookup
    have hmem : (f.1, text) ∈ files := by simp [hsplit]
    rw [← h _ hmem rfl]

theorem save_eq_ok {d d' : Disk} {output : Path} {files : List (String × String)}
    {paths : List Path} (h : save d output files = (d', .ok paths)) :
    ∃ made, writeAll (directory output) made files = (d', .ok paths) := by
  unfold save at h
  cases hmake : d.makeDirectories (directory output) with
  | mk made outcome =>
    cases outcome with
    | error e => simp [hmake] at h
    | ok u => exact ⟨made, by simpa [hmake] using h⟩

end Saving

/-! ### Reports of a batch -/

theorem unlined_cons (line : String) (lines : List String) :
    unlined (line :: lines) = line ++ "\n" ++ unlined lines := by
  simp [unlined, String.join_cons]

namespace BatchReport

variable {b : BatchReport} {r : MigrationReport}

def ownFiles (b : BatchReport) : List (String × String) :=
  Saving.filesOf Saving.batchStem b.markdown b.toJson

theorem files_eq (b : BatchReport) :
    b.files = b.reports.flatMap MigrationReport.files ++ b.ownFiles := rfl

theorem mem_files_of_mem {f : String × String} (hr : r ∈ b.reports) (hf : f ∈ r.files) :
    f ∈ b.files :=
  List.mem_append_left _ (List.mem_flatMap.2 ⟨r, hr, hf⟩)

theorem map_fst_ownFiles (b : BatchReport) : b.ownFiles.map (·.1) = Saving.namesOf "batch" := by
  rw [ownFiles, Saving.batchStem_eq, Saving.map_fst_filesOf]

theorem map_fst_files (b : BatchReport) :
    b.files.map (·.1) = (b.reports.map (·.id) ++ ["batch"]).flatMap Saving.namesOf := by
  have hreports : (b.reports.flatMap MigrationReport.files).map (·.1) =
      (b.reports.map (·.id)).flatMap Saving.namesOf := by
    rw [List.map_flatMap, List.flatMap_map]
    rfl
  rw [files_eq, List.map_append, hreports, map_fst_ownFiles, List.flatMap_append,
    List.flatMap_singleton]

theorem isName_of_mem_files (h : ∀ r ∈ b.reports, Path.IsName r.id) :
    ∀ f ∈ b.files, Path.IsName f.1 := by
  intro f hf
  have hname : f.1 ∈ b.files.map (·.1) := List.mem_map_of_mem hf
  rw [map_fst_files, List.mem_flatMap] at hname
  obtain ⟨id, hid, hname⟩ := hname
  refine Saving.isName_of_mem_namesOf ?_ hname
  rcases List.mem_append.1 hid with hid | hid
  · obtain ⟨r, hr, rfl⟩ := List.mem_map.1 hid
    exact h r hr
  · obtain rfl := List.mem_singleton.1 hid
    decide

theorem lookup_ownFiles {f : String × String} (hf : f ∈ b.ownFiles) :
    b.files.reverse.lookup f.1 = some f.2 := by
  have hown : b.ownFiles.reverse.lookup f.1 = some f.2 := by
    apply Saving.lookup_of_unique (List.mem_reverse.2 hf)
    intro g hg hname
    rw [List.mem_reverse] at hg
    rw [ownFiles, Saving.batchStem_eq] at hf hg
    exact Saving.eq_of_mem_filesOf hf hg hname
  rw [files_eq, List.reverse_append, List.lookup_append, hown, Option.some_or]

theorem lookup_files (hids : (b.reports.map (·.id)).Nodup) (hr : r ∈ b.reports)
    (hbatch : r.id ≠ "batch") {f : String × String} (hf : f ∈ r.files) :
    b.files.reverse.lookup f.1 = some f.2 := by
  have hname : f.1 ∈ Saving.namesOf r.id := by
    rw [← Saving.map_fst_filesOf]
    exact List.mem_map_of_mem hf
  apply Saving.lookup_of_unique (List.mem_reverse.2 (mem_files_of_mem hr hf))
  intro g hg heq
  rw [List.mem_reverse, files_eq, List.mem_append, List.mem_flatMap] at hg
  rcases hg with ⟨other, hother, hg⟩ | hg
  · have hgname : f.1 ∈ Saving.namesOf other.id := by
      rw [← heq, ← Saving.map_fst_filesOf]
      exact List.mem_map_of_mem hg
    have hsame : other = r :=
      List.inj_on_of_nodup_map hids hother hr (Saving.eq_of_mem_namesOf hgname hname)
    subst hsame
    exact Saving.eq_of_mem_filesOf hf hg heq
  · have hgname : f.1 ∈ Saving.namesOf "batch" := by
      rw [← heq, ← map_fst_ownFiles]
      exact List.mem_map_of_mem hg
    exact absurd (Saving.eq_of_mem_namesOf hname hgname) hbatch

/-- The report of a batch does not read like that of a capsule. -/
theorem markdown_ne (b : BatchReport) (r : MigrationReport) : b.markdown ≠ r.markdown := by
  intro h
  simp only [markdown, MigrationReport.markdown, List.cons_append, unlined_cons] at h
  have hthird := congrArg (fun s => s.toList[2]?) h
  simp at hthird

section

variable {d d' : Disk} {output : Path} {paths : List Path}

theorem paths_of_save (h : b.save d output = (d', .ok paths)) :
    paths = b.files.map fun f => (Saving.directory output).child f.1 := by
  obtain ⟨made, hwrite⟩ := Saving.save_eq_ok h
  exact Saving.paths_of_writeAll hwrite

theorem nodup_paths_iff (hnames : ∀ r ∈ b.reports, Path.IsName r.id)
    (h : b.save d output = (d', .ok paths)) :
    paths.Nodup ↔ (b.reports.map (·.id) ++ ["batch"]).Nodup := by
  have hpaths : paths = (b.files.map (·.1)).map (Saving.directory output).child := by
    rw [paths_of_save h, List.map_map]
    rfl
  have hinjective : ∀ name ∈ b.files.map (·.1), ∀ other ∈ b.files.map (·.1),
      (Saving.directory output).child name = (Saving.directory output).child other →
        name = other := by
    intro name hname other hother heq
    obtain ⟨f, hf, rfl⟩ := List.mem_map.1 hname
    obtain ⟨g, hg, rfl⟩ := List.mem_map.1 hother
    exact Path.child_injective (isName_of_mem_files hnames f hf)
      (isName_of_mem_files hnames g hg) heq
  rw [hpaths, ← Saving.nodup_flatMap_namesOf, ← map_fst_files]
  exact ⟨List.Nodup.of_map _, fun hnodup => (List.nodup_map_iff_inj_on hnodup).2 hinjective⟩

theorem nodup_append_batch_iff (hids : (b.reports.map (·.id)).Nodup) :
    (b.reports.map (·.id) ++ ["batch"]).Nodup ↔ ∀ r ∈ b.reports, r.id ≠ "batch" := by
  rw [List.nodup_append]
  simp [hids]

theorem read_of_save (hnames : ∀ r ∈ b.reports, Path.IsName r.id)
    (h : b.save d output = (d', .ok paths)) {name text : String}
    (hlast : b.files.reverse.lookup name = some text) :
    d'.read ((Saving.directory output).child name) = .ok text := by
  obtain ⟨made, hwrite⟩ := Saving.save_eq_ok h
  have hentry := Saving.entry_writeAll (Saving.text_directory_ne_empty output)
    (isName_of_mem_files hnames) hlast hwrite
  rw [Disk.read_eq, hentry]
  rfl

theorem exists_save {made : Disk} (hnames : ∀ r ∈ b.reports, Path.IsName r.id)
    (hmake : d.makeDirectories (Saving.directory output) = (made, .ok ()))
    (hentry : made.entry (Saving.directory output) = .ok (.directory [])) :
    ∃ d' paths, b.save d output = (d', .ok paths) := by
  obtain ⟨d', paths, hwrite⟩ := Saving.exists_writeAll (Saving.text_directory_ne_empty output)
    (isName_of_mem_files hnames) hentry (by simp)
  exact ⟨d', paths, by simp only [save, Saving.save, hmake, hwrite]⟩

/-- The own files of a capsule hold its report, unless it is called like the batch. -/
theorem read_files_iff (hids : (b.reports.map (·.id)).Nodup)
    (hnames : ∀ r ∈ b.reports, Path.IsName r.id) (h : b.save d output = (d', .ok paths))
    (hr : r ∈ b.reports) :
    (∀ f ∈ r.files, d'.read ((Saving.directory output).child f.1) = .ok f.2) ↔
      r.id ≠ "batch" := by
  constructor
  · intro hread hbatch
    have hmine : (Saving.stemOf r.id ++ ".md", r.markdown) ∈ r.files := by
      rw [MigrationReport.files, Saving.filesOf]
      exact List.mem_cons_self
    have hbatchFile : (Saving.stemOf r.id ++ ".md", b.markdown) ∈ b.ownFiles := by
      rw [hbatch, ownFiles, Saving.batchStem_eq, Saving.filesOf]
      exact List.mem_cons_self
    have hown := read_of_save hnames h (lookup_ownFiles hbatchFile)
    rw [hread _ hmine] at hown
    simp only [Except.ok.injEq] at hown
    exact markdown_ne b r hown.symm
  · intro hbatch f hf
    exact read_of_save hnames h (lookup_files hids hr hbatch hf)

/-- Where the reports of a batch are saved, all paths are different exactly if no capsule is called
`batch`, each other capsule has its own report in its files, and the batch has its own. -/
theorem save_keeps_reports (b : BatchReport) (hids : (b.reports.map (·.id)).Nodup)
    (hslugs : ∀ r ∈ b.reports, Identity.IsSlug r.id)
    (h : b.save d output = (d', .ok paths)) :
    paths = b.files.map (fun f => (Saving.directory output).child f.1) ∧
    (paths.Nodup ↔ ∀ r ∈ b.reports, r.id ≠ "batch") ∧
    (∀ r ∈ b.reports,
      (∀ f ∈ r.files, d'.read ((Saving.directory output).child f.1) = .ok f.2) ↔
        r.id ≠ "batch") ∧
    ∀ f ∈ Saving.filesOf Saving.batchStem b.markdown b.toJson,
      d'.read ((Saving.directory output).child f.1) = .ok f.2 := by
  have hnames : ∀ r ∈ b.reports, Path.IsName r.id := fun r hr => (hslugs r hr).isName
  refine ⟨paths_of_save h, ?_, fun r hr => read_files_iff hids hnames h hr, ?_⟩
  · rw [nodup_paths_iff hnames h, nodup_append_batch_iff hids]
  · intro f hf
    exact read_of_save hnames h (lookup_ownFiles hf)

end

/-! ### Reports of two batches -/

def named (ids : List String) : BatchReport :=
  .ofReports default ids.length (ids.map fun id =>
    { (default : MigrationReport) with metadata := { (default : Metadata) with id := id } })

theorem map_id_named (ids : List String) : (named ids).reports.map (·.id) = ids := by
  rw [named, BatchReport.ofReports, List.map_map]
  exact List.map_id ids

theorem isSlug_named (ids : List String) (h : ∀ id ∈ ids, Identity.kebab id = id) :
    ∀ r ∈ (named ids).reports, Identity.IsSlug r.id := by
  intro r hr
  have hid : r.id ∈ ids := map_id_named ids ▸ List.mem_map_of_mem hr
  exact ⟨r.id, h r.id hid⟩

theorem exists_made_directory :
    ∃ made, (Disk.empty []).makeDirectories (Saving.directory ⟨"out"⟩) = (made, .ok ()) ∧
      made.entry (Saving.directory ⟨"out"⟩) = .ok (.directory []) :=
  ⟨⟨.directory [("out", .directory [("reports", .directory [])])], []⟩, by rfl, by rfl⟩

theorem save_keeps_reports_named :
    ∃ d' paths, (named ["cache", "mailer"]).save (Disk.empty []) ⟨"out"⟩ = (d', .ok paths) ∧
      paths.Nodup ∧
      ∀ r ∈ (named ["cache", "mailer"]).reports, ∀ f ∈ r.files,
        d'.read ((Saving.directory ⟨"out"⟩).child f.1) = .ok f.2 := by
  have hids := map_id_named ["cache", "mailer"]
  have hslugs := isSlug_named ["cache", "mailer"] (by decide)
  have hbatch : ∀ r ∈ (named ["cache", "mailer"]).reports, r.id ≠ "batch" := by
    intro r hr heq
    have hmem : "batch" ∈ ["cache", "mailer"] := heq ▸ hids ▸ List.mem_map_of_mem hr
    exact absurd hmem (by decide)
  obtain ⟨made, hmake, hentry⟩ := exists_made_directory
  obtain ⟨d', paths, hsave⟩ := exists_save (fun r hr => (hslugs r hr).isName) hmake hentry
  obtain ⟨-, hnodup, hreports, -⟩ :=
    save_keeps_reports (named ["cache", "mailer"]) (hids ▸ by decide) hslugs hsave
  exact ⟨d', paths, hsave, hnodup.2 hbatch, fun r hr => (hreports r hr).2 (hbatch r hr)⟩

/-- The report of a capsule with the id `batch` is lost. -/
theorem save_loses_report_of_batch :
    ((named ["batch"]).reports.map (·.id)).Nodup ∧
      (∀ r ∈ (named ["batch"]).reports, Identity.IsSlug r.id) ∧
      ∃ d' paths, (named ["batch"]).save (Disk.empty []) ⟨"out"⟩ = (d', .ok paths) ∧
        ¬ paths.Nodup ∧
        ∀ r ∈ (named ["batch"]).reports, ¬ ∀ f ∈ r.files,
          d'.read ((Saving.directory ⟨"out"⟩).child f.1) = .ok f.2 := by
  have hids : ((named ["batch"]).reports.map (·.id)).Nodup := by
    rw [map_id_named]
    decide
  have hslugs := isSlug_named ["batch"] (by decide)
  have hnames : ∀ r ∈ (named ["batch"]).reports, Path.IsName r.id :=
    fun r hr => (hslugs r hr).isName
  obtain ⟨made, hmake, hentry⟩ := exists_made_directory
  obtain ⟨d', paths, hsave⟩ := exists_save hnames hmake hentry
  refine ⟨hids, hslugs, d', paths, hsave, ?_, ?_⟩
  · rw [nodup_paths_iff hnames hsave, map_id_named]
    decide
  · intro r hr
    rw [read_files_iff hids hnames hsave hr, not_not]
    have hid : r.id ∈ ["batch"] := map_id_named ["batch"] ▸ List.mem_map_of_mem hr
    exact List.mem_singleton.1 hid

end BatchReport
end ServiceCapsule
