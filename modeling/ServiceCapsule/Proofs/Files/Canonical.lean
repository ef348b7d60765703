import ServiceCapsule.Proofs.Files.Directory

/-!
# Canonical paths

The canonical path of what is there leads back to it, wherever the working directory is.
-/

namespace ServiceCapsule
namespace Disk

open ServiceCapsule.Path

theorem isName_of_follow {tree : Entry} {place q : List String} {ps : List Part}
    (hq : follow tree place ps = .ok q) (hplace : ∀ name ∈ place, IsName name)
    (hps : ∀ s, Part.name s ∈ ps → IsName s) : ∀ name ∈ q, IsName name := by
  induction ps generalizing place with
  | nil =>
    obtain rfl : place = q := by simpa [follow] using hq
    exact hplace
  | cons p ps ih =>
    have hrest : ∀ s, Part.name s ∈ ps → IsName s :=
      fun s hs => hps s (List.mem_cons_of_mem _ hs)
    simp only [follow] at hq
    cases he : tree.get? place with
    | none => simp [he] at hq
    | some e =>
      cases e with
      | file content => simp [he] at hq
      | directory entries =>
        simp only [he] at hq
        cases p with
        | name s =>
          refine ih hq ?_ hrest
          intro name hname
          rcases List.mem_append.1 hname with hname | hname
          · exact hplace name hname
          · obtain rfl : name = s := by simpa using hname
            exact hps name List.mem_cons_self
        | up => exact ih hq (fun name hname => hplace name (List.dropLast_subset _ hname)) hrest
        | root => exact ih hq hplace hrest
        | here => exact ih hq hplace hrest

theorem isName_of_locate {d : Disk} {p : Path} {place : List String}
    (hp : d.locate p = .ok place) (hd : ∀ name ∈ d.place, IsName name) :
    ∀ name ∈ place, IsName name := by
  unfold locate at hp
  split at hp
  · simp at hp
  · refine isName_of_follow hp ?_ fun s hs => isName_of_mem_steps hs
    intro name hname
    split at hname
    · simp at hname
    · exact hd name hname

theorem locate_foldl_child {d : Disk} {base : Path} (hbase : base.text ≠ "")
    {start names : List String} (hstart : d.locate base = .ok start)
    (hnames : ∀ name ∈ names, IsName name) (hthere : (d.tree.get? (start ++ names)).isSome) :
    d.locate (names.foldl Path.child base) = .ok (start ++ names) := by
  induction names generalizing base start with
  | nil => simpa using hstart
  | cons name names ih =>
    have hn := hnames name List.mem_cons_self
    have hstep : d.locate (base.child name) = .ok (start ++ [name]) := by
      rw [locate_child d hbase hn, hstart]
      rw [Entry.get?_append] at hthere
      cases he : d.tree.get? start with
      | none => simp [he] at hthere
      | some e =>
        cases e with
        | file content => simp [he, Entry.get?, Entry.child?] at hthere
        | directory entries => simp [Except.bind, follow, he]
    have hmore := ih (text_child_ne_empty hbase name) hstep
      (fun n hmem => hnames n (List.mem_cons_of_mem _ hmem)) (by simpa using hthere)
    simpa using hmore

theorem root_of_locate {d : Disk} {p : Path} {place : List String} (hp : d.locate p = .ok place) :
    ∃ entries, d.tree = .directory entries := by
  unfold locate at hp
  split at hp
  · simp at hp
  · obtain ⟨step, more, hsteps⟩ := List.exists_cons_of_ne_nil
      (show steps p ≠ [] by simp [steps, pieces, Text.splitChar, Text.splitAtEach_ne_nil])
    rw [hsteps] at hp
    cases htree : d.tree with
    | directory entries => exact ⟨entries, rfl⟩
    | file content =>
      rw [htree] at hp
      generalize (if p.isAbsolute then [] else d.place) = start at hp
      cases start with
      | nil => simp [follow, Entry.get?] at hp
      | cons name names => simp [follow, Entry.get?, Entry.child?] at hp

/-- The canonical path of a path leads to the same place. -/
theorem locate_canonical {d : Disk} {p path : Path} (h : d.canonical p = .ok path)
    (hd : ∀ name ∈ d.place, IsName name) : d.locate path = d.locate p := by
  cases hp : d.locate p with
  | error e => simp [canonical, bind, Except.bind, hp] at h
  | ok place =>
    cases he : d.tree.get? place with
    | none => simp [canonical, bind, Except.bind, hp, he] at h
    | some e =>
      obtain rfl : place.foldl Path.child ⟨"/"⟩ = path := by
        simpa [canonical, bind, Except.bind, hp, he] using h
      obtain ⟨entries, hroot⟩ := root_of_locate hp
      have hslash : d.locate ⟨"/"⟩ = .ok [] := by
        have hsteps : steps ⟨"/"⟩ = [.here, .here] := by decide
        have habs : isAbsolute ⟨"/"⟩ = true := by decide
        simp [locate, hsteps, habs, follow, Entry.get?, hroot]
      have hall := locate_foldl_child (by decide) hslash (isName_of_locate hp hd)
        (by simp [he])
      simpa using hall

theorem canonical_text_ne_empty {d : Disk} {p path : Path} (h : d.canonical p = .ok path) :
    path.text ≠ "" := by
  have hfold : ∀ (names : List String) (base : Path), base.text ≠ "" →
      (names.foldl Path.child base).text ≠ "" := by
    intro names
    induction names with
    | nil => exact fun _ hbase => hbase
    | cons name names ih => exact fun _ hbase => ih _ (text_child_ne_empty hbase name)
  cases hp : d.locate p with
  | error e => simp [canonical, bind, Except.bind, hp] at h
  | ok place =>
    cases he : d.tree.get? place with
    | none => simp [canonical, bind, Except.bind, hp, he] at h
    | some e =>
      obtain rfl : place.foldl Path.child ⟨"/"⟩ = path := by
        simpa [canonical, bind, Except.bind, hp, he] using h
      exact hfold place _ (by decide)

/-! ### Making directories leaves the working directory -/

theorem place_of_makeDirectory {d d' : Disk} {p : Path} (h : d.makeDirectory p = .ok d') :
    d'.place = d.place := by
  unfold makeDirectory at h
  cases hp : d.locate ⟨String.ofList (Text.dropEndWhile (· == '/') p.text.toList)⟩ with
  | error e => simp [bind, Except.bind, hp] at h
  | ok place =>
    cases he : d.tree.get? place with
    | some e => simp [bind, Except.bind, hp, he] at h
    | none =>
      simp only [bind, Except.bind, hp, he, Except.ok.injEq] at h
      rw [← h]

theorem place_makeUnlessThere (d : Disk) (p : Path) :
    (makeChain.makeUnlessThere d p).1.place = d.place := by
  unfold makeChain.makeUnlessThere
  cases h : d.makeDirectory p with
  | ok d' => exact place_of_makeDirectory h
  | error e => rfl

theorem place_makeChain (d : Disk) (ps : List Path) : (d.makeChain ps).1.place = d.place := by
  induction ps with
  | nil => rfl
  | cons p parents ih =>
    simp only [makeChain]
    split
    · rfl
    · split
      · rename_i d' h
        exact place_of_makeDirectory h
      · split
        · rfl
        · split
          · rename_i d' e h
            rw [h] at ih
            exact ih
          · rename_i d' h
            rw [h] at ih
            rw [place_makeUnlessThere]
            exact ih
      · rfl

theorem place_makeDirectories (d : Disk) (p : Path) : (d.makeDirectories p).1.place = d.place :=
  place_makeChain d _

end Disk
end ServiceCapsule
