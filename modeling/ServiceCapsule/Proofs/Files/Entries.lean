import ServiceCapsule.Proofs.Files.Directory

/-!
# Directory trees

The entries of a directory have names, and no two have the same, so that a name stands for one entry
wherever it comes in the list. A tree that names its entries in another order is the same tree to
whoever follows a path in it.
-/

namespace ServiceCapsule

namespace Entry

/-! ### Names -/

/-- In every directory of a tree the entries have names, and no two have the same. -/
def WellNamed (e : Entry) : Prop :=
  ∀ place entries, e.get? place = some (.directory entries) →
    (entries.map Prod.fst).Nodup ∧ ∀ name ∈ entries.map Prod.fst, Path.IsName name

theorem lookup_eq_some_iff_mem {entries : List (String × Entry)}
    (h : (entries.map Prod.fst).Nodup) {name : String} {e : Entry} :
    entries.lookup name = some e ↔ (name, e) ∈ entries := by
  induction entries with
  | nil => simp
  | cons entry rest ih =>
    obtain ⟨other, e'⟩ := entry
    obtain ⟨hother, hrest⟩ := List.nodup_cons.1 h
    by_cases hname : name = other
    · subst hname
      have hnot : (name, e) ∉ rest := fun he => hother (List.mem_map.2 ⟨_, he, rfl⟩)
      simp [hnot, eq_comm]
    · simp [List.lookup_cons, beq_eq_false_iff_ne.2 hname, hname, ih hrest]

theorem WellNamed.of_get? {e e' : Entry} {place : List String} (h : e.WellNamed)
    (he : e.get? place = some e') : e'.WellNamed := by
  intro below entries hentries
  exact h (place ++ below) entries (by rw [get?_append, he, Option.bind_some, hentries])

theorem wellNamed_file (content : Content) : (file content).WellNamed := by
  rintro (_ | ⟨name, names⟩) entries h <;> simp [Entry.get?, child?] at h

theorem wellNamed_directory {entries : List (String × Entry)} :
    (directory entries).WellNamed ↔ (entries.map Prod.fst).Nodup ∧
      ∀ entry ∈ entries, Path.IsName entry.1 ∧ entry.2.WellNamed := by
  constructor
  · intro h
    obtain ⟨hnodup, hnames⟩ := h [] entries rfl
    refine ⟨hnodup, fun entry hentry => ⟨hnames _ (List.mem_map_of_mem hentry), ?_⟩⟩
    have hget : (directory entries).get? [entry.1] = some entry.2 := by
      rw [get?_singleton, child?, lookup_eq_some_iff_mem hnodup]
      exact hentry
    exact h.of_get? hget
  · rintro ⟨hnodup, hentries⟩ place es hes
    cases place with
    | nil =>
      obtain rfl : entries = es := by simpa [Entry.get?] using hes
      refine ⟨hnodup, List.forall_mem_map.2 fun entry hentry => (hentries entry hentry).1⟩
    | cons name names =>
      obtain ⟨e, he, hes⟩ := Option.bind_eq_some_iff.1 hes
      rw [child?, lookup_eq_some_iff_mem hnodup] at he
      exact (hentries _ he).2 names es hes

theorem WellNamed.isName {e e' : Entry} {place : List String} (h : e.WellNamed)
    (he : e.get? place = some e') : ∀ name ∈ place, Path.IsName name := by
  induction place generalizing e with
  | nil => simp
  | cons name names ih =>
    obtain ⟨next, hnext, hbelow⟩ := Option.bind_eq_some_iff.1 he
    cases e with
    | file content => simp [child?] at hnext
    | directory entries =>
      obtain ⟨hnodup, hentries⟩ := wellNamed_directory.1 h
      rw [child?, lookup_eq_some_iff_mem hnodup] at hnext
      obtain ⟨hname, hwell⟩ := hentries _ hnext
      exact List.forall_mem_cons.2 ⟨hname, ih hwell hbelow⟩

/-! ### Other enumerations -/

inductive Alike : Entry → Entry → Prop where
  | file (content : Content) : Alike (file content) (file content)
  | directory {entries entries' : List (String × Entry)}
      (h : (entries.map Prod.fst).Perm (entries'.map Prod.fst)) :
      Alike (directory entries) (directory entries')

/-- The same tree, where each directory may name its entries in another order. -/
def Rearranged (e e' : Entry) : Prop := ∀ place, Option.Rel Alike (e.get? place) (e'.get? place)

theorem Alike.refl : ∀ e : Entry, Alike e e
  | .file content => .file content
  | .directory _ => .directory (List.Perm.refl _)

theorem rel_alike_refl (found : Option Entry) : Option.Rel Alike found found := by
  cases found with
  | none => exact .none
  | some e => exact .some (Alike.refl e)

theorem rearranged_of_perm {entries entries' : List (String × Entry)}
    (hnodup : (entries.map Prod.fst).Nodup) (h : entries.Perm entries') :
    (directory entries).Rearranged (directory entries') := by
  have hnodup' := (h.map Prod.fst).nodup_iff.1 hnodup
  rintro (_ | ⟨name, names⟩)
  · exact .some (.directory (h.map Prod.fst))
  · have hlookup : entries.lookup name = entries'.lookup name := by
      ext e
      rw [lookup_eq_some_iff_mem hnodup, lookup_eq_some_iff_mem hnodup', h.mem_iff]
    simp only [Entry.get?, child?, hlookup]
    exact rel_alike_refl _

section Rearranged

variable {e e' : Entry} (h : e.Rearranged e')
include h

theorem Rearranged.isDirectory {place : List String} :
    (e.get? place).any Entry.isDirectory = (e'.get? place).any Entry.isDirectory := by
  have hplace := h place
  generalize e.get? place = found, e'.get? place = found' at hplace
  cases hplace with
  | none => rfl
  | some hrel => cases hrel <;> rfl

theorem Rearranged.file_iff {place : List String} {content : Content} :
    e.get? place = some (.file content) ↔ e'.get? place = some (.file content) := by
  have hplace := h place
  generalize e.get? place = found, e'.get? place = found' at hplace
  cases hplace with
  | none => rfl
  | some hrel => cases hrel <;> simp

theorem Rearranged.wellNamed (hnamed : e.WellNamed) : e'.WellNamed := by
  intro place entries hentries
  have hplace := h place
  rw [hentries] at hplace
  generalize hget : e.get? place = found at hplace
  cases hplace with
  | some hrel =>
    cases hrel with
    | directory hperm =>
      obtain ⟨hnodup, hnames⟩ := hnamed place _ hget
      exact ⟨hperm.nodup_iff.1 hnodup, fun name hname => hnames name (hperm.mem_iff.2 hname)⟩

theorem Rearranged.of_get? {place : List String} {below below' : Entry}
    (hbelow : e.get? place = some below) (hbelow' : e'.get? place = some below') :
    below.Rearranged below' := by
  intro names
  have hnames := h (place ++ names)
  rwa [get?_append, get?_append, hbelow, hbelow'] at hnames

end Rearranged

end Entry

namespace Disk

theorem text_ne_empty (d : Disk) {p : Path} {e : Entry} (h : d.entry p = .ok e) :
    p.text ≠ "" := by
  intro hempty
  obtain ⟨place, hplace, -⟩ := entry_eq_ok_iff.1 h
  simp [locate, hempty] at hplace

theorem wellNamed_entry (d : Disk) (hd : d.tree.WellNamed) {p : Path} {e : Entry}
    (h : d.entry p = .ok e) : e.WellNamed := by
  obtain ⟨place, -, hget⟩ := entry_eq_ok_iff.1 h
  exact hd.of_get? hget

/-- The same disk, where each directory may name its entries in another order. -/
structure Rearranged (d d' : Disk) : Prop where
  tree : d.tree.Rearranged d'.tree
  place : d.place = d'.place

/-- A path leads to the same directory, whatever the order of the entries. -/
theorem Rearranged.entry_directory {d d' : Disk} (h : d.Rearranged d') {p : Path}
    {entries : List (String × Entry)} (hp : d.entry p = .ok (.directory entries)) :
    ∃ entries', d'.entry p = .ok (.directory entries') ∧
      (Entry.directory entries).Rearranged (.directory entries') := by
  obtain ⟨place, hplace, hget⟩ := entry_eq_ok_iff.1 hp
  have hlocate : d'.locate p = .ok place := by
    unfold locate at hplace ⊢
    split at hplace
    · simp at hplace
    · rename_i hempty
      rw [if_neg hempty, ← h.place]
      exact follow_of_isDirectory (fun names hnames => h.tree.isDirectory ▸ hnames) hplace
  have hrel := h.tree place
  rw [hget] at hrel
  generalize hget' : d'.tree.get? place = found at hrel
  cases hrel with
  | some hrel =>
    cases hrel with
    | directory hperm =>
      exact ⟨_, entry_eq_ok_iff.2 ⟨place, hlocate, hget'⟩, h.tree.of_get? hget hget'⟩

end Disk

end ServiceCapsule
