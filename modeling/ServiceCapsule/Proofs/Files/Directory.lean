import ServiceCapsule.Files.Disk

/-!
# The files of a directory

A name below a path stands for the entry under that name in what the path stands for. Writing a
file below a path changes that one entry, and no directory goes away.
-/

namespace ServiceCapsule

namespace Path

def IsName (name : String) : Prop := partOf? name = some (.name name) ∧ '/' ∉ name.toList

instance : DecidablePred IsName := fun _ => inferInstanceAs (Decidable (_ ∧ _))

theorem IsName.ne_empty {name : String} (h : IsName name) : name ≠ "" := by
  rintro rfl
  exact absurd h.1 (by decide)

theorem IsName.not_isAbsolute {name : String} (h : IsName name) : isAbsolute ⟨name⟩ = false := by
  unfold isAbsolute
  cases hcs : name.toList with
  | nil => rfl
  | cons c cs =>
    have hc : c ≠ '/' := fun hc => h.2 (by simp [hcs, hc])
    simpa using hc

theorem isName_iff {name : String} :
    IsName name ↔ name ≠ "" ∧ name ≠ "." ∧ name ≠ ".." ∧ '/' ∉ name.toList := by
  unfold IsName partOf?
  by_cases hempty : name = "" <;> by_cases hdot : name = "." <;> by_cases hup : name = ".." <;>
    simp [hempty, hdot, hup]

/-- A name with an ending that is longer than two dots is a name. -/
theorem IsName.append {name ending : String} (h : IsName name) (hending : '/' ∉ ending.toList)
    (hlong : 2 < ending.length) : IsName (name ++ ending) := by
  have hlength : 2 < (name ++ ending).length := by
    rw [String.length_append]
    omega
  have hne : ∀ short : String, short.length ≤ 2 → name ++ ending ≠ short := by
    rintro short hshort rfl
    omega
  refine isName_iff.2 ⟨hne _ (by decide), hne _ (by decide), hne _ (by decide), ?_⟩
  rw [String.toList_append, List.mem_append, not_or]
  exact ⟨h.2, hending⟩

theorem text_child {base : Path} (hbase : base.text ≠ "") {name : String} (hn : IsName name) :
    (base.child name).text = if base.text.toList.getLast? = some '/' then base.text ++ name
      else base.text ++ "/" ++ name := by
  have hempty : base.text.isEmpty = false := by simpa using hbase
  simp only [child, join, hn.not_isAbsolute, hempty, Bool.or_self, Bool.false_eq_true, if_false,
    beq_iff_eq]
  split <;> rfl

theorem text_child_ne_empty {base : Path} (hbase : base.text ≠ "") (name : String) :
    (base.child name).text ≠ "" := by
  have hempty : base.text.isEmpty = false := by simpa using hbase
  simp only [child, join, hempty, Bool.or_false]
  split
  · rename_i habs
    rintro rfl
    simp [isAbsolute] at habs
  · split <;> simp [hbase]

theorem child_injective {base : Path} {name other : String} (hn : IsName name)
    (ho : IsName other) (h : base.child name = base.child other) : name = other := by
  by_cases hbase : base.text = ""
  · simpa [child, join, hbase] using h
  · have htext := congrArg Path.text h
    rw [text_child hbase hn, text_child hbase ho] at htext
    split at htext
    · exact String.toList_inj.1 (by simpa using congrArg String.toList htext)
    · exact String.toList_inj.1 (by simpa using congrArg String.toList htext)

theorem isAbsolute_child {base : Path} (hbase : base.text ≠ "") {name : String}
    (hn : IsName name) : (base.child name).isAbsolute = base.isAbsolute := by
  have hcs : base.text.toList ≠ [] := by simpa using hbase
  obtain ⟨c, cs, hc⟩ := List.exists_cons_of_ne_nil hcs
  simp only [isAbsolute, text_child hbase hn]
  split <;> simp [hc]

end Path

namespace Disk

open ServiceCapsule.Path

/-- Steps that a list of characters asks for. -/
def stepsOf (cs : List Char) : List Part :=
  (Text.splitAtEach (· == '/') cs).map fun piece => (partOf? (String.ofList piece)).getD .here

theorem steps_eq (p : Path) : steps p = stepsOf p.text.toList := by
  simp [steps, stepsOf, pieces, Text.splitChar]

theorem stepsOf_append_slash (as bs : List Char) :
    stepsOf (as ++ '/' :: bs) = stepsOf as ++ stepsOf bs := by
  simp [stepsOf, Text.splitAtEach_append_cons]

theorem stepsOf_name {name : String} (hn : IsName name) : stepsOf name.toList = [.name name] := by
  have hslash : ∀ c ∈ name.toList, (c == '/') = false := by
    intro c hc
    have hne : c ≠ '/' := fun he => hn.2 (he ▸ hc)
    simpa using hne
  simp [stepsOf, Text.splitAtEach_of_forall hslash, hn.1]

theorem isName_of_mem_steps {p : Path} {s : String} (h : Part.name s ∈ steps p) : IsName s := by
  rw [steps_eq] at h
  obtain ⟨piece, hpiece, hpart⟩ := List.mem_map.1 h
  have hslash : '/' ∉ piece := by
    intro hc
    simpa using Text.eq_false_of_mem_splitAtEach hpiece hc
  unfold partOf? at hpart
  split at hpart
  · simp at hpart
  · rename_i hdot
    split at hpart
    · simp at hpart
    · rename_i hup
      have hs : String.ofList piece = s := by simpa using hpart
      subst hs
      refine ⟨?_, by simpa using hslash⟩
      unfold partOf?
      rw [if_neg hdot, if_neg hup]

theorem follow_append (tree : Entry) (place : List String) (xs ys : List Part) :
    follow tree place (xs ++ ys) = (follow tree place xs).bind fun q => follow tree q ys := by
  induction xs generalizing place with
  | nil => rfl
  | cons x xs ih =>
    simp only [List.cons_append, follow]
    cases tree.get? place with
    | none => rfl
    | some e =>
      cases e with
      | file content => rfl
      | directory entries => cases x <;> exact ih _

theorem follow_here_name (tree : Entry) (place : List String) (name : String) :
    ((follow tree place [.here]).bind fun q => follow tree q [.name name]) =
      follow tree place [.name name] := by
  simp only [follow]
  cases h : tree.get? place with
  | none => rfl
  | some e =>
    cases e with
    | file content => rfl
    | directory entries => simp [Except.bind, h]

theorem locate_child (d : Disk) {base : Path} (hbase : base.text ≠ "") {name : String}
    (hn : IsName name) :
    d.locate (base.child name) =
      (d.locate base).bind fun place => follow d.tree place [.name name] := by
  have hempty : base.text.isEmpty = false := by simpa using hbase
  have hempty' : (base.child name).text.isEmpty = false := by
    simpa using text_child_ne_empty hbase name
  simp only [locate, hempty, hempty', isAbsolute_child hbase hn, Bool.false_eq_true, if_false]
  rw [← follow_append, steps_eq, steps_eq, text_child hbase hn]
  by_cases hlast : base.text.toList.getLast? = some '/'
  · rw [if_pos hlast]
    -- the slash at the end asks for a directory, as the name after it does
    obtain ⟨cs, hcs⟩ := List.getLast?_eq_some_iff.1 hlast
    have hhere : stepsOf [] = [.here] := by decide
    rw [String.toList_append, hcs, List.append_assoc, List.singleton_append,
      stepsOf_append_slash, stepsOf_append_slash, stepsOf_name hn, hhere, follow_append,
      follow_append, follow_append]
    cases follow d.tree (if base.isAbsolute then [] else d.place) (stepsOf cs) with
    | error e => rfl
    | ok q => exact (follow_here_name d.tree q name).symm
  · have htext : (base.text ++ "/" ++ name).toList = base.text.toList ++ '/' :: name.toList := by
      simp
    rw [if_neg hlast, htext, stepsOf_append_slash, stepsOf_name hn]

/-- A name below a path leads to a place of that name. -/
theorem getLast?_of_locate_child {d : Disk} {base : Path} {name : String} (hn : IsName name)
    {place : List String} (h : d.locate (base.child name) = .ok place) :
    place.getLast? = some name := by
  have hfollow : ∀ start, follow d.tree start [.name name] = .ok place →
      place.getLast? = some name := by
    intro start hstart
    simp only [follow] at hstart
    split at hstart
    · simp at hstart
    · simp at hstart
    · obtain rfl : start ++ [name] = place := by simpa using hstart
      simp
  by_cases hbase : base.text = ""
  · have hchild : base.child name = ⟨name⟩ := by simp [child, join, hbase]
    have hempty : name.isEmpty = false := by simpa using hn.ne_empty
    have hsteps : steps ⟨name⟩ = [.name name] := by rw [steps_eq, stepsOf_name hn]
    simp only [hchild, locate, hempty, Bool.false_eq_true, if_false, hn.not_isAbsolute,
      hsteps] at h
    exact hfollow _ h
  · rw [locate_child d hbase hn] at h
    cases hstart : d.locate base with
    | error e => simp [hstart, Except.bind] at h
    | ok start =>
      simp only [hstart, Except.bind] at h
      exact hfollow _ h

end Disk

/-! ### Entries below a path -/

namespace Entry

def under (name : String) : Entry → Except FileError Entry
  | file _ => .error .notADirectory
  | directory entries =>
    match entries.lookup name with
    | some e => .ok e
    | none => .error .notFound

theorem get?_append (xs ys : List String) (e : Entry) :
    get? (xs ++ ys) e = (get? xs e).bind (get? ys) := by
  induction xs generalizing e with
  | nil => rfl
  | cons x xs ih =>
    simp only [List.cons_append, get?]
    cases e.child? x with
    | none => rfl
    | some e' => exact ih e'

theorem get?_singleton (name : String) (e : Entry) : get? [name] e = e.child? name := by
  simp only [get?]
  cases e.child? name <;> rfl

theorem get?_put {tree : Entry} {place : List String} {entries : List (String × Entry)}
    (h : tree.get? place = some (.directory entries)) (name : String) (new : Entry) :
    (tree.put (place ++ [name]) new).get? place =
      some (.directory (setChild name new entries)) := by
  induction place generalizing tree with
  | nil =>
    obtain rfl : tree = .directory entries := by simpa [get?] using h
    rfl
  | cons n place ih =>
    cases tree with
    | file content => simp [get?, child?] at h
    | directory es =>
      obtain ⟨next, more, hmore⟩ := List.exists_cons_of_ne_nil
        (show place ++ [name] ≠ [] by simp)
      cases hn : es.lookup n with
      | none => simp [get?, child?, hn] at h
      | some e =>
        have he : e.get? place = some (.directory entries) := by
          simpa [get?, child?, hn] using h
        simp only [List.cons_append, hmore, put, hn, get?, child?, lookup_setChild, if_true,
          Option.bind_some]
        rw [← hmore]
        exact ih he

/-- Putting an entry where no directory is leaves every directory where it is. -/
theorem isDirectory_put {tree : Entry} {place : List String}
    (hplace : ∀ entries, tree.get? place ≠ some (.directory entries)) (new : Entry)
    {names : List String} (h : (tree.get? names).any isDirectory) :
    ((tree.put place new).get? names).any isDirectory := by
  -- the place and the names go one way until they part or one of them ends
  induction place generalizing tree names with
  | nil =>
    cases tree with
    | directory entries => exact absurd rfl (hplace entries)
    | file content => cases names <;> simp [get?, child?, isDirectory] at h
  | cons name place ih =>
    cases tree with
    | file content => simpa [put] using h
    | directory entries =>
      cases names with
      | nil =>
        cases place with
        | nil => rfl
        | cons next more =>
          simp only [put]
          split <;> rfl
      | cons n names =>
        simp only [get?, child?] at h
        cases place with
        | nil =>
          simp only [put, get?, child?, lookup_setChild]
          by_cases hn : n = name
          · subst hn
            cases he : entries.lookup n with
            | none => simp [he] at h
            | some e =>
              cases e with
              | file content => cases names <;> simp [he, get?, child?, isDirectory] at h
              | directory es => exact absurd (by simp [get?, child?, he]) (hplace es)
          · simpa [hn] using h
        | cons next more =>
          simp only [put]
          cases he : entries.lookup name with
          | none => simpa [get?, child?] using h
          | some e =>
            simp only [get?, child?, lookup_setChild]
            by_cases hn : n = name
            · subst hn
              simp only [he, Option.bind_some] at h
              simp only [if_true, Option.bind_some]
              apply ih _ h
              intro es hes
              exact hplace es (by simpa [get?, child?, he] using hes)
            · simpa [hn] using h

end Entry

namespace Disk

open ServiceCapsule.Path

theorem entry_eq (d : Disk) (p : Path) :
    d.entry p = (d.locate p).bind fun place =>
      match d.tree.get? place with
      | some e => .ok e
      | none => .error .notFound := rfl

theorem entry_eq_ok_iff {d : Disk} {p : Path} {e : Entry} :
    d.entry p = .ok e ↔ ∃ place, d.locate p = .ok place ∧ d.tree.get? place = some e := by
  rw [entry_eq]
  cases d.locate p with
  | error err => simp [Except.bind]
  | ok place =>
    cases h : d.tree.get? place <;> simp [Except.bind, h]

/-- What a name below a path stands for depends on what the path stands for and on nothing else. -/
theorem entry_child (d : Disk) {base : Path} (hbase : base.text ≠ "") {name : String}
    (hn : IsName name) : d.entry (base.child name) = (d.entry base).bind (Entry.under name) := by
  rw [entry_eq, entry_eq, locate_child d hbase hn]
  cases d.locate base with
  | error e => rfl
  | ok place =>
    simp only [Except.bind, follow]
    cases h : d.tree.get? place with
    | none => rfl
    | some e =>
      cases e with
      | file content => rfl
      | directory entries =>
        simp only [Entry.get?_append, h, Option.bind_some, Entry.get?_singleton, Entry.child?,
          Entry.under]

theorem read_eq (d : Disk) (p : Path) :
    d.read p = (d.entry p).bind fun e =>
      match e with
      | .file (.text s) => .ok s
      | .file (.bytes _) => .error .notText
      | .directory _ => .error .isADirectory := rfl

/-! ### Writing -/

theorem follow_of_isDirectory {tree tree' : Entry}
    (h : ∀ names, (tree.get? names).any Entry.isDirectory →
      (tree'.get? names).any Entry.isDirectory) {place q : List String} {ps : List Part}
    (hq : follow tree place ps = .ok q) : follow tree' place ps = .ok q := by
  induction ps generalizing place with
  | nil => exact hq
  | cons p ps ih =>
    simp only [follow] at hq ⊢
    cases he : tree.get? place with
    | none => simp [he] at hq
    | some e =>
      cases e with
      | file content => simp [he] at hq
      | directory entries =>
        have hdir := h place (by simp [he, Entry.isDirectory])
        cases he' : tree'.get? place with
        | none => simp [he'] at hdir
        | some e' =>
          cases e' with
          | file content => simp [he', Entry.isDirectory] at hdir
          | directory entries' =>
            simp only [he] at hq
            cases p <;> exact ih hq

theorem write_eq_ok {d d' : Disk} {p : Path} {content : Content} (h : d.write p content = .ok d') :
    ∃ place, d.locate p = .ok place ∧
      (∀ entries, d.tree.get? place ≠ some (.directory entries)) ∧
      d' = { d with tree := d.tree.put place (.file content) } := by
  unfold write at h
  split at h
  · simp [bind, Except.bind] at h
  · cases hp : d.locate p with
    | error e => simp [bind, Except.bind, hp] at h
    | ok place =>
      refine ⟨place, rfl, ?_, ?_⟩
      · intro entries he
        simp [bind, Except.bind, hp, he] at h
      · cases he : d.tree.get? place with
        | none => simpa [bind, Except.bind, hp, he, pure, Except.pure, eq_comm] using h
        | some e =>
          cases e with
          | file was => simpa [bind, Except.bind, hp, he, pure, Except.pure, eq_comm] using h
          | directory entries => simp [bind, Except.bind, hp, he] at h

theorem locate_of_write {d d' : Disk} {p q : Path} {content : Content} {place : List String}
    (h : d.write p content = .ok d') (hq : d.locate q = .ok place) : d'.locate q = .ok place := by
  obtain ⟨target, -, hno, rfl⟩ := write_eq_ok h
  unfold locate at hq ⊢
  split at hq
  · simp at hq
  · rename_i hempty
    rw [if_neg hempty]
    exact follow_of_isDirectory (fun names => Entry.isDirectory_put hno _) hq

/-- A file that was written below a path is there; the other entries of the directory are as
they were. -/
theorem entry_of_write_child {d d' : Disk} {base : Path} (hbase : base.text ≠ "") {name : String}
    (hn : IsName name) {content : Content} (h : d.write (base.child name) content = .ok d') :
    ∃ entries, d.entry base = .ok (.directory entries) ∧
      d'.entry base = .ok (.directory (Entry.setChild name (.file content) entries)) := by
  have hwrite := h
  obtain ⟨target, htarget, hno, rfl⟩ := write_eq_ok hwrite
  rw [locate_child d hbase hn] at htarget
  cases hplace : d.locate base with
  | error e => simp [hplace, Except.bind] at htarget
  | ok place =>
    simp only [hplace, Except.bind, follow] at htarget
    cases he : d.tree.get? place with
    | none => simp [he] at htarget
    | some e =>
      cases e with
      | file was => simp [he] at htarget
      | directory entries =>
        obtain rfl : place ++ [name] = target := by simpa [he] using htarget
        refine ⟨entries, entry_eq_ok_iff.2 ⟨place, hplace, he⟩, ?_⟩
        exact entry_eq_ok_iff.2 ⟨place, locate_of_write h hplace, Entry.get?_put he name _⟩

theorem exists_write_child {d : Disk} {base : Path} (hbase : base.text ≠ "") {name : String}
    (hn : IsName name) {entries : List (String × Entry)}
    (hentry : d.entry base = .ok (.directory entries))
    (hfree : ∀ es, entries.lookup name ≠ some (.directory es)) (content : Content) :
    ∃ d', d.write (base.child name) content = .ok d' := by
  obtain ⟨place, hplace, hget⟩ := entry_eq_ok_iff.1 hentry
  have hlocate : d.locate (base.child name) = .ok (place ++ [name]) := by
    rw [locate_child d hbase hn, hplace]
    simp [Except.bind, follow, hget]
  have hchild : d.tree.get? (place ++ [name]) = entries.lookup name := by
    rw [Entry.get?_append, hget, Option.bind_some, Entry.get?_singleton, Entry.child?]
  have hlast : (base.child name).text.toList.getLast? ≠ some '/' := by
    obtain ⟨c, hc⟩ : ∃ c, name.toList.getLast? = some c :=
      Option.isSome_iff_exists.1 (by simpa using hn.ne_empty)
    have hne : c ≠ '/' := fun h => hn.2 (h ▸ List.mem_of_getLast? hc)
    rw [text_child hbase hn]
    split <;> simp [List.getLast?_cons, hc, hne]
  refine ⟨{ d with tree := d.tree.put (place ++ [name]) (.file content) }, ?_⟩
  unfold write
  cases hold : entries.lookup name with
  | none => simp [hlast, hlocate, hchild, hold, bind, Except.bind]
  | some e =>
    cases e with
    | file was => simp [hlast, hlocate, hchild, hold, bind, Except.bind]
    | directory es => exact absurd hold (hfree es)

end Disk
end ServiceCapsule
