import ServiceCapsule.Migration.Single
import ServiceCapsule.Proofs.Capsule.Identity
import ServiceCapsule.Proofs.Capsule.Slugs
import ServiceCapsule.Proofs.Files.Changed
import ServiceCapsule.Proofs.Files.PathOrder
import ServiceCapsule.Proofs.Package.Written

/-!
# Where a migration writes

A migration makes the directory of the package, with the directories on the way to it that are
missing, and writes the files of the package directly into it. Nothing else on the disk changes.
-/

namespace ServiceCapsule

open Disk

/-- Nothing has happened on a disk but that a package was put into a directory. -/
structure Confined (dir : Path) (d d' : Disk) : Prop where
  place : d'.place = d.place
  sight : ∀ names,
    d'.sight names = d.sight names ∨
    (d.sight names = .nothing ∧ d'.sight names = .directory ∧
      ∃ p, IsAncestor dir p ∧ d'.locate p = .ok names) ∨
    (d.sight names ≠ .directory ∧ (∃ content, d'.sight names = .file content) ∧
      ∃ place k, d'.locate dir = .ok place ∧ names = place ++ [FileKind.fileName k])

variable {d d' d'' : Disk} {dir output path : Path} {place : List String}

theorem confined_of_made (h : Made (IsAncestor dir) d d') : Confined dir d d' where
  place := h.place
  sight names := (h.sight names).imp_right .inl

/-- The directory comes first, and the files go into it. -/
theorem confined_of_made_of_wrote (h : Made (IsAncestor dir) d d')
    (hdir : d'.locate dir = .ok place)
    (h' : Wrote (fun names => ∃ k, names = place ++ [FileKind.fileName k]) d' d'') :
    Confined dir d d'' where
  place := h'.place.trans h.place
  sight names := by
    rcases h'.sight names with hsame' | ⟨⟨k, hk⟩, hfree, hfile⟩
    · rcases h.sight names with hsame | ⟨hnothing, hmade, p, hp, hlocate⟩
      · exact .inl (hsame'.trans hsame)
      · exact .inr (.inl ⟨hnothing, hsame'.trans hmade, p, hp, h'.locate hlocate⟩)
    · exact .inr (.inr ⟨fun hnames => hfree (h.sight_directory hnames), hfile, place, k,
        h'.locate hdir, hk⟩)

namespace Generation

variable {formatter : Option Formatter} {p : Plan}

theorem wrote_writeFile (hbase : path.text ≠ "") (hpath : d.locate path = .ok place)
    (k : FileKind) :
    Wrote (fun names => ∃ k, names = place ++ [FileKind.fileName k]) d
      (writeFile formatter p path d k).1 := by
  rcases writeFile_cases formatter p path d k with ⟨s, d', -, hwrite, h⟩ | ⟨e, h⟩
  · obtain ⟨target, htarget, -⟩ := write_eq_ok hwrite
    have hchild : target = place ++ [k.fileName] := by
      rw [locate_child d hbase k.isName_fileName, hpath] at htarget
      exact eq_of_follow_name htarget
    rw [h]
    exact (wrote_of_write hwrite htarget).mono fun names hnames => ⟨k, hnames.trans hchild⟩
  · rw [h]
    exact .refl _ d

theorem wrote_writeFiles (hbase : path.text ≠ "") (hpath : d.locate path = .ok place)
    (ks : List FileKind) :
    Wrote (fun names => ∃ k, names = place ++ [FileKind.fileName k]) d
      (writeFiles formatter p path d ks).1 := by
  induction ks generalizing d with
  | nil => exact .refl _ d
  | cons k ks ih =>
    have hstep : Wrote _ d (writeFile formatter p path d k).1 := wrote_writeFile hbase hpath k
    exact hstep.trans (ih (hstep.locate hpath))

theorem made_prepare (d : Disk) (capsule : String) (output : Path) :
    Made (IsAncestor output) d (prepare d capsule output).1 := by
  have hmade := made_makeDirectories d output
  unfold prepare
  split
  · rename_i d' e h
    rw [h] at hmade
    exact hmade
  · rename_i d' h
    rw [h] at hmade
    split <;> exact hmade

/-- First the directory of a package is made, and then files are written into it, if it is there. -/
theorem made_wrote_run (formatter : Option Formatter) (time : Timestamp) (d : Disk)
    (c : ParsedCapsule) (output : Path) (mode : Mode) (hplace : ∀ name ∈ d.place, Path.IsName name) :
    ∃ made, Made (IsAncestor output) d made ∧
      ((run formatter time d c output mode).1 = made ∨ ∃ place, made.locate output = .ok place ∧
        Wrote (fun names => ∃ k, names = place ++ [FileKind.fileName k]) made
          (run formatter time d c output mode).1) := by
  have hmade := made_prepare d c.metadata.id output
  unfold run
  cases hprepare : prepare d c.metadata.id output with
  | mk made outcome =>
    rw [hprepare] at hmade
    refine ⟨made, hmade, ?_⟩
    cases outcome with
    | error e => exact .inl rfl
    | ok path =>
      obtain ⟨hsame, hcanonical⟩ := prepare_eq_ok hprepare
      have hlocate := locate_canonical hcanonical (by rwa [hsame])
      cases hdir : made.locate output with
      | error e => simp [Disk.canonical, hdir, bind, Except.bind] at hcanonical
      | ok place =>
        exact .inr ⟨place, rfl,
          wrote_writeFiles (canonical_text_ne_empty hcanonical) (hlocate.trans hdir) _⟩

theorem prepare_of_directory (capsule : String) (hdir : d.locate output = .ok place)
    (hthere : d.sight place = .directory)
    (hslash : Text.dropEndWhile (· == '/') output.text.toList = output.text.toList) :
    ∃ path, prepare d capsule output = (d, .ok path) := by
  have hany := Sight.ofEntry_eq_directory_iff.1 hthere
  obtain ⟨e, hget⟩ : ∃ e, d.tree.get? place = some e := by
    cases hget : d.tree.get? place with
    | none => simp [hget] at hany
    | some e => exact ⟨e, rfl⟩
  have hdirectory : d.isDirectory output = true := by
    have hentry : d.entry output = .ok e := entry_eq_ok_iff.2 ⟨place, hdir, hget⟩
    simpa [isDirectory, entry?, hentry, Except.toOption, hget] using hany
  have hempty : output.text.isEmpty = false := by
    rw [String.isEmpty_eq_false_iff]
    intro htext
    simp [locate, htext] at hdir
  have hmake : d.makeDirectory output = .error .alreadyExists := by
    unfold makeDirectory
    rw [hslash, String.ofList_toList]
    simp [hdir, hget, bind, Except.bind]
  have hmade : d.makeDirectories output = (d, .ok ()) := by
    obtain ⟨parents, hparents⟩ : ∃ parents,
        ancestors output.parts.length output = output :: parents := by
      cases output.parts.length with
      | zero => exact ⟨[], rfl⟩
      | succ n =>
        unfold ancestors
        cases output.parent? with
        | none => exact ⟨[], rfl⟩
        | some parent => exact ⟨_, rfl⟩
    simp [makeDirectories, hparents, makeChain, hempty, hmake, hdirectory]
  refine ⟨place.foldl Path.child ⟨"/"⟩, ?_⟩
  simp [prepare, hmade, Disk.canonical, hdir, hget, bind, Except.bind]

theorem confined_run (formatter : Option Formatter) (time : Timestamp) (c : ParsedCapsule)
    (output : Path) (mode : Mode) (hplace : ∀ name ∈ d.place, Path.IsName name) :
    Confined output d (run formatter time d c output mode).1 := by
  obtain ⟨made, hmade, hdisk | ⟨place, hdir, hwrote⟩⟩ :=
    made_wrote_run formatter time d c output mode hplace
  · rw [hdisk]
    exact confined_of_made hmade
  · exact confined_of_made_of_wrote hmade hdir hwrote

theorem keeps_run {names : List String} (formatter : Option Formatter) (time : Timestamp)
    (c : ParsedCapsule) (output : Path) (mode : Mode)
    (hplace : ∀ name ∈ d.place, Path.IsName name)
    (havoids : Avoids d.place (IsAncestor output) names) :
    Keeps names d (run formatter time d c output mode).1 := by
  obtain ⟨made, hmade, hdisk | ⟨place, hdir, hwrote⟩⟩ :=
    made_wrote_run formatter time d c output mode hplace
  · rw [hdisk]
    exact hmade.keeps havoids
  · have hapart := havoids made hmade.place output .refl place hdir
    refine (hmade.keeps havoids).trans (hwrote.keeps ?_)
    rintro - ⟨k, rfl⟩
    exact hapart.concat _

end Generation

namespace Tools

theorem migrateParsed_disk (t : Tools) (d : Disk) (c : ParsedCapsule) (output : Path)
    (mode : Mode) : ∃ effective,
      (t.migrateParsed d c output mode).1 = (Generation.run t.formatter t.time d c
        (packageDirectory output c.metadata.id) effective).1 := by
  refine ⟨(Mode.select c.metadata.id mode c.metrics.lines c.metrics.complexity).effective, ?_⟩
  unfold migrateParsed
  dsimp only
  split <;> rename_i h <;> rw [h]

theorem migrateParsed_ne_parse (t : Tools) (d : Disk) (c : ParsedCapsule) (output : Path)
    (mode : Mode) (e : ParseError) : (t.migrateParsed d c output mode).2 ≠ .error (.parse e) := by
  intro h
  unfold migrateParsed at h
  dsimp only at h
  split at h <;> simp at h

/-- A migration leaves alone what no package can get into. -/
theorem keeps_migrate {names : List String} (t : Tools) (d : Disk) (input output : Path)
    (mode : Mode) (hplace : ∀ name ∈ d.place, Path.IsName name)
    (havoids : ∀ id, Path.IsName id →
      Avoids d.place (IsAncestor (packageDirectory output id)) names) :
    Keeps names d (t.migrate d input output mode).1 := by
  cases hparse : ParsedCapsule.ofDirectory t.sources d input with
  | error e =>
    rw [migrate_of_parse_error hparse]
    exact .refl names d
  | ok c =>
    obtain ⟨effective, hdisk⟩ := t.migrateParsed_disk d c output mode
    rw [migrate_of_parsed hparse, hdisk]
    exact Generation.keeps_run t.formatter t.time c _ effective hplace
      (havoids _ (ParsedCapsule.isSlug_of_ofDirectory hparse).isName)

/-- The directory of a package stands under its id in the output directory, or in the working
directory if there is no other. -/
theorem locate_packageDirectory {id : String} (hid : Path.IsName id)
    (h : d.locate (packageDirectory output id) = .ok place) :
    ∃ root, place = root ++ [id] ∧
      (d.locate output = .ok root ∨ output.text = "" ∧ root = d.place) := by
  by_cases hempty : output.text = ""
  · have hchild : packageDirectory output id = ⟨id⟩ := by
      simp [packageDirectory, Path.child, Path.join, hempty]
    have hsteps : steps ⟨id⟩ = [.name id] := by rw [steps_eq, stepsOf_name hid]
    rw [hchild, Disk.locate, if_neg (by simpa using hid.ne_empty), hid.not_isAbsolute, hsteps] at h
    exact ⟨d.place, eq_of_follow_name h, .inr ⟨hempty, rfl⟩⟩
  · rw [packageDirectory, locate_child d hempty hid] at h
    cases hroot : d.locate output with
    | error e => simp [hroot, Except.bind] at h
    | ok root =>
      rw [hroot] at h
      exact ⟨root, eq_of_follow_name h, .inl rfl⟩

/-- A migration changes nothing on the disk if the capsule cannot be parsed. Else it makes the
directory that is called by the id of the capsule, with those on the way to it that are missing, and
writes files of the package directly into it. The id is a plain name, whatever it was made of. -/
theorem migrate_confined (t : Tools) (d : Disk) (input output : Path) (mode : Mode)
    (hplace : ∀ name ∈ d.place, Path.IsName name) :
    (∀ e, (t.migrate d input output mode).2 = .error (.parse e) →
      (t.migrate d input output mode).1 = d) ∧
    ((t.migrate d input output mode).1 = d ∨
      ∃ id, Metadata.resolveIdIn d input = .ok id ∧ Identity.IsHyphenated id ∧ Path.IsName id ∧
        Confined (packageDirectory output id) d (t.migrate d input output mode).1 ∧
        ∀ place, (t.migrate d input output mode).1.locate (packageDirectory output id) = .ok place →
          ∃ root, place = root ++ [id] ∧
            ((t.migrate d input output mode).1.locate output = .ok root ∨
              output.text = "" ∧ root = d.place)) := by
  cases hparse : ParsedCapsule.ofDirectory t.sources d input with
  | error e =>
    rw [migrate_of_parse_error hparse]
    exact ⟨fun _ _ => rfl, .inl rfl⟩
  | ok c =>
    have hslug := ParsedCapsule.isSlug_of_ofDirectory hparse
    have hmigrate : t.migrate d input output mode = t.migrateParsed d c output mode := by
      simp only [migrate, hparse]
    obtain ⟨effective, hdisk⟩ := t.migrateParsed_disk d c output mode
    have hconfined := Generation.confined_run t.formatter t.time c
      (packageDirectory output c.metadata.id) effective hplace
    rw [hmigrate]
    refine ⟨?_, .inr ⟨c.metadata.id, ParsedCapsule.resolveIdIn_of_ofDirectory hparse,
      hslug.isHyphenated, hslug.isName, ?_, fun place hlocate => ?_⟩⟩
    · exact fun e he => absurd he (t.migrateParsed_ne_parse d c output mode e)
    · rw [hdisk]
      exact hconfined
    · have hroot := locate_packageDirectory hslug.isName hlocate
      rwa [hdisk, hconfined.place, ← hdisk] at hroot

theorem isAncestor_packageDirectory {name id : String} (hname : Path.IsName name)
    (hid : Path.IsName id) {p : Path} (h : IsAncestor (packageDirectory ⟨name⟩ id) p) :
    p = packageDirectory ⟨name⟩ id ∨ p = ⟨name⟩ ∨ p = ⟨""⟩ := by
  have hparts : Path.parts ⟨name⟩ = [.name name] := by
    rw [Path.parts_eq, hname.not_isAbsolute, Path.pieces_of_isName hname]
    simp [(Path.isName_iff.1 hname).2.1, hname.1]
  have hparent : (packageDirectory ⟨name⟩ id).parent? = some ⟨name⟩ := by
    unfold packageDirectory Path.parent?
    rw [Path.parts_child hname.ne_empty hid, Path.isAbsolute_child hname.ne_empty hid, hparts,
      hname.not_isAbsolute]
    simp
  have htop : Path.parent? ⟨name⟩ = some ⟨""⟩ := by
    unfold Path.parent?
    rw [hparts, hname.not_isAbsolute]
    simp
  have hnone : Path.parent? ⟨""⟩ = none := by decide
  rcases h.cases_head with rfl | ⟨q, hq, h⟩
  · exact .inl rfl
  obtain rfl : Path.mk name = q := Option.some.inj (hparent.symm.trans hq)
  rcases h.cases_head with rfl | ⟨q, hq, h⟩
  · exact .inr (.inl rfl)
  obtain rfl : Path.mk "" = q := Option.some.inj (htop.symm.trans hq)
  rcases h.cases_head with rfl | ⟨q, hq, h⟩
  · exact .inr (.inr rfl)
  · simp [hnone] at hq

theorem avoids_packageDirectory {name id : String} (hname : Path.IsName name)
    (hid : Path.IsName id) {working names : List String}
    (hapart : Entry.Apart (working ++ [name]) names) :
    Avoids working (IsAncestor (packageDirectory ⟨name⟩ id)) names := by
  rintro s rfl p hp place hplace
  have houtput : ∀ {root}, s.locate ⟨name⟩ = .ok root → root = s.place ++ [name] := by
    intro root hroot
    rw [Disk.locate, if_neg (by simpa using hname.ne_empty), hname.not_isAbsolute, steps_eq,
      stepsOf_name hname] at hroot
    exact eq_of_follow_name hroot
  rcases isAncestor_packageDirectory hname hid hp with rfl | rfl | rfl
  · obtain ⟨root, rfl, hroot | ⟨hempty, -⟩⟩ := locate_packageDirectory hid hplace
    · rw [houtput hroot]
      exact hapart.concat id
    · exact absurd hempty hname.ne_empty
  · rw [houtput hplace]
    exact hapart
  · simp [Disk.locate] at hplace

def sourceDisk : Disk :=
  ⟨.directory [("work", .directory [("Mail Sender", .directory [("a.ts", .file (.text ""))])])],
    ["work"]⟩

/-- A source stays as it is. -/
theorem migrate_confined_sourceDisk : ∃ t : Tools,
    (t.migrate sourceDisk ⟨"Mail Sender"⟩ ⟨"out"⟩ .auto).1.sight ["work", "Mail Sender", "a.ts"] =
      .file (.text "") := by
  let t : Tools := ⟨.standard, none, ⟨"silent", fun _ _ _ => .ok []⟩, default, 0⟩
  refine ⟨t, ?_⟩
  have hbefore : sourceDisk.sight ["work", "Mail Sender", "a.ts"] = .file (.text "") := rfl
  obtain ⟨-, hsame | ⟨id, -, -, -, hconfined, -⟩⟩ :=
    migrate_confined t sourceDisk ⟨"Mail Sender"⟩ ⟨"out"⟩ .auto (by decide)
  · rw [hsame, hbefore]
  · rcases hconfined.sight ["work", "Mail Sender", "a.ts"] with hsame | ⟨hnothing, -⟩ | ⟨-, -, hfile⟩
    · rw [hsame, hbefore]
    · exact absurd (hbefore.symm.trans hnothing) (by simp)
    · obtain ⟨place, k, -, hk⟩ := hfile
      have hlast := congrArg List.getLast? hk
      rw [List.getLast?_concat] at hlast
      cases k <;> exact absurd hlast (by decide)

end Tools
end ServiceCapsule
