import ServiceCapsule.Proofs.Package.Sections
import ServiceCapsule.Proofs.Package.Written

/-!
# Files that cannot be written

Every file of a capsule is rendered. Where a directory has taken the name of a file, the file cannot
be written. This is noted as one error, and each of the other files is written with the text that it
has when nothing is in the way.
-/

namespace ServiceCapsule

namespace Disk

variable {d d' : Disk} {p base : Path} {name other : String} {content : Content}

/-- Why no file can be written at a path, whatever is to stand in it. -/
def refusal? (d : Disk) (p : Path) : Option FileError :=
  match d.write p (.text "") with
  | .ok _ => none
  | .error e => some e

theorem write_eq_error_iff (d : Disk) (p : Path) (content : Content) (e : FileError) :
    d.write p content = .error e ↔ d.refusal? p = some e := by
  unfold refusal? write
  split
  · simp [bind, Except.bind]
  · cases d.locate p with
    | error err => simp [bind, Except.bind]
    | ok place =>
      cases hget : d.tree.get? place with
      | none => simp [bind, Except.bind, hget]
      | some there => cases there <;> simp [bind, Except.bind, hget]

theorem refusal?_of_write (h : d.write p content = .ok d') : d.refusal? p = none := by
  cases hrefusal : d.refusal? p with
  | none => rfl
  | some e => simp [(write_eq_error_iff d p content e).2 hrefusal] at h

theorem exists_write_of_refusal? (h : d.refusal? p = none) (content : Content) :
    ∃ d', d.write p content = .ok d' := by
  cases hwrite : d.write p content with
  | ok d' => exact ⟨d', rfl⟩
  | error e => simp [(write_eq_error_iff d p content e).1 hwrite] at h

theorem refusal?_child (hbase : base.text ≠ "") (hn : Path.IsName name)
    {entries : List (String × Entry)} (hentry : d.entry base = .ok (.directory entries)) :
    d.refusal? (base.child name) =
      if (entries.lookup name).any Entry.isDirectory then some .isADirectory else none := by
  split
  · rename_i hthere
    have hplace := hentry
    obtain ⟨place, hlocate, hget⟩ := entry_eq_ok_iff.1 hplace
    have hchild : d.locate (base.child name) = .ok (place ++ [name]) := by
      rw [locate_child d hbase hn, hlocate]
      simp [Except.bind, follow, hget]
    have hentry' : d.tree.get? (place ++ [name]) = entries.lookup name := by
      rw [Entry.get?_append, hget, Option.bind_some, Entry.get?_singleton, Entry.child?]
    rw [← write_eq_error_iff d _ (.text "")]
    unfold write
    split
    · rfl
    · cases hlookup : entries.lookup name with
      | none => simp [hlookup] at hthere
      | some e =>
        cases e with
        | file was => simp [hlookup, Entry.isDirectory] at hthere
        | directory es => simp [hchild, hentry', hlookup, bind, Except.bind]
  · rename_i hfree
    obtain ⟨d', hwrite⟩ := exists_write_child hbase hn hentry
      (fun es hes => hfree (by simp [hes, Entry.isDirectory])) (.text "")
    exact refusal?_of_write hwrite

theorem refusal?_of_write_child (hbase : base.text ≠ "") (hn : Path.IsName name)
    (ho : Path.IsName other) (hne : other ≠ name) (h : d.write (base.child name) content = .ok d') :
    d'.refusal? (base.child other) = d.refusal? (base.child other) := by
  obtain ⟨entries, hbefore, hafter⟩ := entry_of_write_child hbase hn h
  rw [refusal?_child hbase ho hbefore, refusal?_child hbase ho hafter, Entry.lookup_setChild,
    if_neg hne]

end Disk

namespace Generation

variable {formatter : Option Formatter} {p : Plan} {output : Path} {d : Disk}
  {texts : FileKind → String} {ks : List FileKind} {k l : FileKind}

/-- What becomes of a file with a text, as things are on a disk. -/
def outcome (id : String) (output : Path) (d : Disk) (texts : FileKind → String) (k : FileKind) :
    Except GenerationError GeneratedFile :=
  match d.refusal? (output.child k.fileName) with
  | none => .ok ⟨k, output.child k.fileName, texts k⟩
  | some e => .error (.write id (output.child k.fileName) e)

/-- The files that cannot be written into a directory, in their order. -/
def blocked (d : Disk) (output : Path) : List FileKind :=
  FileKind.all.filter fun k => (d.refusal? (output.child k.fileName)).isSome

theorem mem_blocked : k ∈ blocked d output ↔
    (d.refusal? (output.child k.fileName)).isSome = true := by
  simp [blocked, FileKind.mem_all]

theorem writeFile_outcome (hk : content formatter p k = .ok (texts k)) :
    (writeFile formatter p output d k).2 = outcome p.metadata.id output d texts k := by
  unfold writeFile outcome
  rw [hk]
  cases hwrite : d.write (output.child k.fileName) (.text (texts k)) with
  | ok d' => simp [hwrite, Disk.refusal?_of_write hwrite]
  | error e => simp [hwrite, (Disk.write_eq_error_iff ..).1 hwrite]

theorem refusal?_writeFile (hbase : output.text ≠ "") (hne : l ≠ k) :
    (writeFile formatter p output d k).1.refusal? (output.child l.fileName) =
      d.refusal? (output.child l.fileName) := by
  rcases writeFile_cases formatter p output d k with ⟨s, d', -, hwrite, h⟩ | ⟨e, h⟩
  · rw [h]
    exact Disk.refusal?_of_write_child hbase k.isName_fileName l.isName_fileName
      (fun heq => hne (FileKind.fileName_injective heq)) hwrite
  · rw [h]

theorem outcome_writeFile (hbase : output.text ≠ "") (hne : l ≠ k) (id : String) :
    outcome id output (writeFile formatter p output d k).1 texts l = outcome id output d texts l := by
  unfold outcome
  rw [refusal?_writeFile hbase hne]

/-- What becomes of each file is settled before any of them is written. -/
theorem writeFiles_outcomes (hbase : output.text ≠ "") (hks : ks.Nodup)
    (htexts : ∀ k, content formatter p k = .ok (texts k)) :
    (writeFiles formatter p output d ks).2 = ks.map (outcome p.metadata.id output d texts) := by
  induction ks generalizing d with
  | nil => rfl
  | cons k ks ih =>
    obtain ⟨hk, hks⟩ := List.nodup_cons.1 hks
    have hrest : ks.map (outcome p.metadata.id output (writeFile formatter p output d k).1 texts) =
        ks.map (outcome p.metadata.id output d texts) := by
      refine List.map_congr_left fun l hl => outcome_writeFile hbase ?_ _
      rintro rfl
      exact hk hl
    simp only [writeFiles, List.map_cons]
    rw [writeFile_outcome (htexts k), ih hks, hrest]

/-- A file that can be written holds its text in the end; what stands in the way of another stays. -/
theorem entry_writeFiles_of_mem (hbase : output.text ≠ "") (hks : ks.Nodup)
    (htexts : ∀ k, content formatter p k = .ok (texts k)) (hk : k ∈ ks) :
    (writeFiles formatter p output d ks).1.entry (output.child k.fileName) =
      if (d.refusal? (output.child k.fileName)).isNone then .ok (.file (.text (texts k)))
      else d.entry (output.child k.fileName) := by
  -- the other files have other names, so what stands at this one is decided on its own turn
  induction ks generalizing d with
  | nil => simp at hk
  | cons l ks ih =>
    obtain ⟨hl, hks⟩ := List.nodup_cons.1 hks
    simp only [writeFiles]
    rcases List.mem_cons.1 hk with rfl | hmem
    · rw [entry_writeFiles_of_notMem hbase hl]
      cases hrefusal : d.refusal? (output.child k.fileName) with
      | none =>
        obtain ⟨d', hwrite⟩ := Disk.exists_write_of_refusal? hrefusal (.text (texts k))
        obtain ⟨entries, -, hafter⟩ := Disk.entry_of_write_child hbase k.isName_fileName hwrite
        have hd' : (writeFile formatter p output d k).1 = d' := by
          simp [writeFile, htexts k, hwrite]
        rw [hd', Disk.entry_child _ hbase k.isName_fileName, hafter]
        simp [Except.bind, Entry.under, Entry.lookup_setChild]
      | some e =>
        have hd : (writeFile formatter p output d k).1 = d := by
          simp [writeFile, htexts k, (Disk.write_eq_error_iff ..).2 hrefusal]
        rw [hd]
        rfl
    · have hne : k ≠ l := by
        rintro rfl
        exact hl hmem
      rw [ih hks hmem, refusal?_writeFile hbase hne, entry_writeFile_of_ne hbase k.isName_fileName
        fun heq => hne (FileKind.fileName_injective heq)]

/-! ### Results -/

theorem filterMap_written_outcome (id : String) (ks : List FileKind) :
    (ks.map (outcome id output d texts)).filterMap written =
      (ks.filter fun k => (d.refusal? (output.child k.fileName)).isNone).map fun k =>
        ⟨k, output.child k.fileName, texts k⟩ := by
  induction ks with
  | nil => rfl
  | cons k ks ih =>
    rw [List.map_cons, List.filterMap_cons, List.filter_cons, ih]
    unfold outcome
    cases d.refusal? (output.child k.fileName) <;> simp [written]

theorem filterMap_failed_outcome (id : String) (ks : List FileKind) :
    (ks.map (outcome id output d texts)).filterMap failed =
      ks.filterMap fun k => (d.refusal? (output.child k.fileName)).map fun e =>
        (GenerationError.write id (output.child k.fileName) e).shown := by
  induction ks with
  | nil => rfl
  | cons k ks ih =>
    rw [List.map_cons, List.filterMap_cons, List.filterMap_cons, ih]
    unfold outcome
    cases d.refusal? (output.child k.fileName) <;> simp [failed]

theorem length_written_add_blocked (d : Disk) (output : Path) :
    (FileKind.all.filter fun k => (d.refusal? (output.child k.fileName)).isNone).length +
      (blocked d output).length = FileKind.all.length := by
  rw [blocked, List.length_eq_length_filter_add (l := FileKind.all)
    fun k => (d.refusal? (output.child k.fileName)).isNone]
  simp

theorem blocked_eq_nil_iff : blocked d output = [] ↔
    ∀ k : FileKind, d.refusal? (output.child k.fileName) = none := by
  simp [blocked, FileKind.mem_all]

theorem countWarning_of_blocked {n : Nat} (h : n + (blocked d output).length = FileKind.all.length) :
    countWarning n =
      if blocked d output = [] then []
      else ["Only " ++ Nat.repr n ++ " of 8 files were generated"] := by
  have hpos : blocked d output = [] ↔ ¬ n < FileKind.all.length := by
    rw [← List.length_eq_zero_iff]
    omega
  have hall : Nat.repr FileKind.all.length = "8" := by decide
  unfold countWarning
  rw [hall]
  split <;> simp_all [String.append_assoc]

theorem report_outcomes (p : Plan) (output : Path) (d : Disk) (texts : FileKind → String) :
    report p output (FileKind.all.map (outcome p.metadata.id output d texts)) =
      { capsule := p.metadata.id
        outputDirectory := output
        mode := p.mode
        files := (FileKind.all.filter fun k => k ∉ blocked d output).map fun k =>
          ⟨k, output.child k.fileName, texts k⟩
        errors := FileKind.all.filterMap fun k =>
          (d.refusal? (output.child k.fileName)).map fun e =>
            (GenerationError.write p.metadata.id (output.child k.fileName) e).shown
        warnings := p.preserved.skipped.map skippedWarning ++
          if blocked d output = [] then []
          else ["Only " ++ Nat.repr (FileKind.all.filter fun k => k ∉ blocked d output).length ++
            " of 8 files were generated"]
        manualActions := p.manualActions } := by
  have hfree : (FileKind.all.filter fun k => k ∉ blocked d output) =
      FileKind.all.filter fun k => (d.refusal? (output.child k.fileName)).isNone :=
    List.filter_congr fun k _ => by
      simp only [mem_blocked]
      cases d.refusal? (output.child k.fileName) <;> rfl
  rw [report, filterMap_written_outcome, filterMap_failed_outcome, List.length_map, hfree,
    countWarning_of_blocked (length_written_add_blocked d output)]

/-- No error is told exactly if nothing is in the way. -/
theorem success_iff (p : Plan) (output : Path) (d : Disk) (texts : FileKind → String) :
    (report p output (FileKind.all.map (outcome p.metadata.id output d texts))).success = true ↔
      blocked d output = [] := by
  rw [report_outcomes, GenerationResult.success, List.isEmpty_iff]
  exact Iff.trans (by simp [FileKind.mem_all]) blocked_eq_nil_iff.symm

theorem blocked_eq_nil_of_entry (hbase : output.text ≠ "") {entries : List (String × Entry)}
    (hentry : d.entry output = .ok (.directory entries))
    (hfree : ∀ name, (entries.lookup name).any Entry.isDirectory = false) :
    blocked d output = [] := by
  refine blocked_eq_nil_iff.2 fun k => ?_
  rw [Disk.refusal?_child hbase k.isName_fileName hentry, if_neg (by simp [hfree])]

theorem kinds_of_run {d' : Disk} {c : ParsedCapsule} {mode : Mode} {time : Timestamp}
    {r : GenerationResult} (h : run formatter time d c output mode = (d', .ok r))
    (hfree : ∀ made path, prepare d c.metadata.id output = (made, .ok path) →
      blocked made path = []) : r.files.map (·.kind) = FileKind.all := by
  obtain ⟨made, path, hprepare, -, rfl⟩ := run_eq_ok h
  have hpath := Disk.canonical_text_ne_empty (prepare_eq_ok hprepare).2
  obtain ⟨texts, htexts⟩ : ∃ texts : FileKind → String,
      ∀ k, content formatter (Plan.ofCapsule c mode time) k = .ok (texts k) :=
    ⟨_, content_ofCapsule formatter c mode time⟩
  rw [writeFiles_outcomes hpath FileKind.nodup_all htexts, report_outcomes,
    hfree made path hprepare]
  simp [Function.comp_def]

/-! ### Every set of files can be in the way -/

def obstructed (ks : List FileKind) : Disk :=
  ⟨.directory [("out", .directory (ks.map fun k => (k.fileName, .directory [])))], []⟩

theorem prepare_obstructed (id : String) (ks : List FileKind) :
    prepare (obstructed ks) id ⟨"out"⟩ = (obstructed ks, .ok ⟨"/out"⟩) := rfl

theorem lookup_obstructed (ks : List FileKind) (k : FileKind) :
    (ks.map fun l => (l.fileName, Entry.directory [])).lookup k.fileName =
      if k ∈ ks then some (.directory []) else none := by
  induction ks with
  | nil => rfl
  | cons l ks ih =>
    rw [List.map_cons, List.lookup_cons, ih]
    by_cases hkl : k = l
    · simp [hkl]
    · have hname : (k.fileName == l.fileName) = false :=
        beq_eq_false_iff_ne.2 fun heq => hkl (FileKind.fileName_injective heq)
      simp [hname, hkl]

theorem mem_blocked_obstructed (ks : List FileKind) (k : FileKind) :
    k ∈ blocked (obstructed ks) ⟨"/out"⟩ ↔ k ∈ ks := by
  have hentry : (obstructed ks).entry ⟨"/out"⟩ =
      .ok (.directory (ks.map fun l => (l.fileName, .directory []))) := rfl
  have hrefusal := Disk.refusal?_child (by decide) k.isName_fileName hentry
  rw [lookup_obstructed] at hrefusal
  rw [mem_blocked, hrefusal]
  by_cases hk : k ∈ ks <;> simp [hk, Entry.isDirectory]

end Generation
end ServiceCapsule
