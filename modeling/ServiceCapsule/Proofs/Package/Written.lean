import ServiceCapsule.Package.Generation
import ServiceCapsule.Proofs.Files.Canonical

/-!
# Written files

The files of a capsule are written into one directory under eight different names. A file that was
written stays as it is while the others are written, so in the end each of them holds the text that
was drafted for it.
-/

namespace ServiceCapsule

namespace FileKind

theorem isName_fileName (k : FileKind) : Path.IsName k.fileName := by
  cases k <;> decide

theorem fileName_injective {k l : FileKind} (h : k.fileName = l.fileName) : k = l := by
  cases k <;> cases l <;> first | rfl | exact absurd h (by decide)

theorem nodup_all : all.Nodup := by decide

end FileKind

namespace Disk

theorem isDirectory_of_entry_child {d : Disk} {base : Path} (hbase : base.text ≠ "")
    {name : String} (hn : Path.IsName name) {e : Entry} (h : d.entry (base.child name) = .ok e) :
    d.isDirectory base = true := by
  rw [entry_child d hbase hn] at h
  cases hb : d.entry base with
  | error err => simp [hb, Except.bind] at h
  | ok e' =>
    cases e' with
    | file content => simp [hb, Except.bind, Entry.under] at h
    | directory entries => simp [isDirectory, entry?, hb, Except.toOption, Entry.isDirectory]

end Disk

namespace Generation

variable {formatter : Option Formatter} {p : Plan} {output : Path} {d d' : Disk}

theorem writeFile_cases (formatter : Option Formatter) (p : Plan) (output : Path) (d : Disk)
    (k : FileKind) :
    (∃ s d', content formatter p k = .ok s ∧
      d.write (output.child k.fileName) (.text s) = .ok d' ∧
      writeFile formatter p output d k = (d', .ok ⟨k, output.child k.fileName, s⟩)) ∨
    ∃ e, writeFile formatter p output d k = (d, .error e) := by
  unfold writeFile
  cases hs : content formatter p k with
  | error refusal => exact .inr ⟨_, rfl⟩
  | ok s =>
    cases hw : d.write (output.child k.fileName) (.text s) with
    | error e => exact .inr ⟨.write p.metadata.id (output.child k.fileName) e, by simp [hw]⟩
    | ok d' => exact .inl ⟨s, d', rfl, hw, by simp [hw]⟩

theorem entry_writeFile_of_ne (hbase : output.text ≠ "") {k : FileKind} {name : String}
    (hn : Path.IsName name) (hne : name ≠ k.fileName) :
    (writeFile formatter p output d k).1.entry (output.child name) =
      d.entry (output.child name) := by
  rcases writeFile_cases formatter p output d k with ⟨s, d', -, hw, h⟩ | ⟨e, h⟩
  · obtain ⟨entries, hbefore, hafter⟩ :=
      Disk.entry_of_write_child hbase k.isName_fileName hw
    rw [h, Disk.entry_child _ hbase hn, Disk.entry_child _ hbase hn, hbefore, hafter]
    simp [Except.bind, Entry.under, Entry.lookup_setChild, hne]
  · rw [h]

theorem entry_writeFiles_of_notMem (hbase : output.text ≠ "") {ks : List FileKind}
    {k : FileKind} (hk : k ∉ ks) :
    (writeFiles formatter p output d ks).1.entry (output.child k.fileName) =
      d.entry (output.child k.fileName) := by
  induction ks generalizing d with
  | nil => rfl
  | cons l ks ih =>
    have hne : k.fileName ≠ l.fileName :=
      fun h => hk (FileKind.fileName_injective h ▸ List.mem_cons_self)
    have hks : k ∉ ks := fun h => hk (List.mem_cons_of_mem _ h)
    simp only [writeFiles]
    rw [ih hks, entry_writeFile_of_ne hbase k.isName_fileName hne]

theorem entry_writeFiles (hbase : output.text ≠ "") {ks : List FileKind} (hks : ks.Nodup)
    (h : ∀ outcome ∈ (writeFiles formatter p output d ks).2, (written outcome).isSome)
    {k : FileKind} (hk : k ∈ ks) :
    ∃ s, content formatter p k = .ok s ∧
      (writeFiles formatter p output d ks).1.entry (output.child k.fileName) =
        .ok (.file (.text s)) := by
  induction ks generalizing d with
  | nil => simp at hk
  | cons l ks ih =>
    obtain ⟨hl, hks⟩ := List.nodup_cons.1 hks
    simp only [writeFiles, List.forall_mem_cons] at h ⊢
    rcases List.mem_cons.1 hk with rfl | hk
    · rcases writeFile_cases formatter p output d k with ⟨s, d', hs, hw, heq⟩ | ⟨e, heq⟩
      · obtain ⟨entries, -, hafter⟩ :=
          Disk.entry_of_write_child hbase k.isName_fileName hw
        refine ⟨s, hs, ?_⟩
        rw [entry_writeFiles_of_notMem hbase hl, heq,
          Disk.entry_child _ hbase k.isName_fileName, hafter]
        simp [Except.bind, Entry.under, Entry.lookup_setChild]
      · simp [heq, written] at h
    · exact ih hks h.2 hk

theorem locate_writeFiles {q : Path} {place : List String} (hq : d.locate q = .ok place)
    (ks : List FileKind) : (writeFiles formatter p output d ks).1.locate q = .ok place := by
  induction ks generalizing d with
  | nil => exact hq
  | cons k ks ih =>
    simp only [writeFiles]
    apply ih
    rcases writeFile_cases formatter p output d k with ⟨s, d', -, hw, h⟩ | ⟨e, h⟩
    · rw [h]
      exact Disk.locate_of_write hw hq
    · rw [h]
      exact hq

/-- The directory that files are written into is there, and its path leads where the path that was
asked for leads. -/
theorem prepare_eq_ok {capsule : String} {path : Path}
    (h : prepare d capsule output = (d', .ok path)) :
    d'.place = d.place ∧ d'.canonical output = .ok path := by
  unfold prepare at h
  have hplace := Disk.place_makeDirectories d output
  cases hmake : d.makeDirectories output with
  | mk made outcome =>
    rw [hmake] at hplace
    cases outcome with
    | error e => simp [hmake] at h
    | ok u =>
      cases hc : made.canonical output with
      | error e => simp [hmake, hc] at h
      | ok q =>
        obtain ⟨rfl, rfl⟩ : made = d' ∧ q = path := by simpa [hmake, hc] using h
        exact ⟨hplace, hc⟩

variable {time : Timestamp} {c : ParsedCapsule} {mode : Mode} {r : GenerationResult}

theorem run_eq_ok (h : run formatter time d c output mode = (d', .ok r)) :
    ∃ made path, prepare d c.metadata.id output = (made, .ok path) ∧
      d' = (writeFiles formatter (Plan.ofCapsule c mode time) path made FileKind.all).1 ∧
      r = report (Plan.ofCapsule c mode time) path
        (writeFiles formatter (Plan.ofCapsule c mode time) path made FileKind.all).2 := by
  unfold run at h
  cases hp : prepare d c.metadata.id output with
  | mk made outcome =>
    cases outcome with
    | error e => simp [hp] at h
    | ok path =>
      simp only [hp, Prod.mk.injEq, Except.ok.injEq] at h
      exact ⟨made, path, rfl, h.1.symm, h.2.symm⟩

/-- A directory that a capsule was generated into: the one that is told in the result, or the one
that was asked for, whose way may start from the working directory. -/
def IsTarget (d : Disk) (output : Path) (r : GenerationResult) (dir : Path) : Prop :=
  dir = r.outputDirectory ∨ dir = output ∧ ∀ name ∈ d.place, Path.IsName name

theorem entry_target (h : run formatter time d c output mode = (d', .ok r)) {dir : Path}
    (hdir : IsTarget d output r dir) :
    dir.text ≠ "" ∧ d'.entry dir = d'.entry r.outputDirectory := by
  obtain ⟨made, path, hprepare, rfl, rfl⟩ := run_eq_ok h
  obtain ⟨hplace, hcanonical⟩ := prepare_eq_ok hprepare
  rcases hdir with rfl | ⟨rfl, hnames⟩
  · exact ⟨Disk.canonical_text_ne_empty hcanonical, rfl⟩
  · have hlocate := Disk.locate_canonical hcanonical (by rwa [hplace])
    cases hp : made.locate dir with
    | error e => simp [Disk.canonical, hp, bind, Except.bind] at hcanonical
    | ok place =>
      refine ⟨?_, ?_⟩
      · intro hempty
        simp [Disk.locate, hempty] at hp
      · rw [Disk.entry_eq, Disk.entry_eq, locate_writeFiles hp,
          show (report _ path _).outputDirectory = path from rfl,
          locate_writeFiles (hlocate.trans hp)]

/-- If all eight files are written, each of them holds the text of its draft. -/
theorem entry_of_run (h : run formatter time d c output mode = (d', .ok r))
    (hall : r.files.map (·.kind) = FileKind.all) {dir : Path} (hdir : IsTarget d output r dir)
    (k : FileKind) :
    ∃ s, content formatter (Plan.ofCapsule c mode time) k = .ok s ∧
      d'.entry (dir.child k.fileName) = .ok (.file (.text s)) := by
  obtain ⟨htext, htarget⟩ := entry_target h hdir
  obtain ⟨made, path, hprepare, rfl, rfl⟩ := run_eq_ok h
  have hpath := Disk.canonical_text_ne_empty (prepare_eq_ok hprepare).2
  have hlength := congrArg List.length hall
  simp only [report, List.length_map] at hlength
  rw [← length_writeFiles formatter (Plan.ofCapsule c mode time) path made FileKind.all,
    List.filterMap_length_eq_length] at hlength
  obtain ⟨s, hs, hentry⟩ := entry_writeFiles hpath FileKind.nodup_all hlength k.mem_all
  refine ⟨s, hs, ?_⟩
  rw [Disk.entry_child _ htext k.isName_fileName, htarget, ← hentry,
    Disk.entry_child _ hpath k.isName_fileName]
  rfl

end Generation
end ServiceCapsule
