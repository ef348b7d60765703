import Mathlib.Data.List.TakeWhile
import Mathlib.Logic.Relation
import ServiceCapsule.Proofs.Files.Canonical

/-!
# What changes on a disk

A disk is looked at from outside: at a list of names there is nothing, a directory or a file. Making
directories adds directories where nothing was, and writing a file changes what is seen in one place.
-/

namespace ServiceCapsule

/-- What is seen of an entry from outside. -/
inductive Sight where
  | nothing
  | directory
  | file (content : Content)
  deriving DecidableEq, Repr

namespace Sight

def ofEntry : Option Entry → Sight
  | none => nothing
  | some (.file content) => file content
  | some (.directory _) => directory

theorem ofEntry_eq_directory_iff {e : Option Entry} :
    ofEntry e = directory ↔ e.any Entry.isDirectory = true := by
  cases e with
  | none => simp [ofEntry]
  | some e => cases e <;> simp [ofEntry, Entry.isDirectory]

theorem ofEntry_eq_nothing_iff {e : Option Entry} : ofEntry e = nothing ↔ e = none := by
  cases e with
  | none => simp [ofEntry]
  | some e => cases e <;> simp [ofEntry]

end Sight

namespace Entry

def sight (e : Entry) (names : List String) : Sight := .ofEntry (e.get? names)

theorem sight_file (content : Content) {names : List String} (hne : names ≠ []) :
    (file content).sight names = .nothing := by
  obtain ⟨name, rest, rfl⟩ := List.exists_cons_of_ne_nil hne
  rfl

theorem sight_directory_cons (entries : List (String × Entry)) (name : String)
    (names : List String) :
    (directory entries).sight (name :: names) =
      match entries.lookup name with
      | none => .nothing
      | some e => e.sight names := by
  simp only [sight, get?, child?]
  cases entries.lookup name <;> rfl

theorem sight_eq_nothing_of_ne_directory {e : Entry} (he : e.sight [] ≠ .directory)
    {names : List String} (hne : names ≠ []) : e.sight names = .nothing := by
  cases e with
  | file content => exact sight_file content hne
  | directory entries => exact absurd rfl he

theorem sight_eq_nothing_of_flat {new : Entry} (hnew : ∀ name, new.child? name = none)
    {names : List String} (hne : names ≠ []) : new.sight names = .nothing := by
  obtain ⟨name, rest, rfl⟩ := List.exists_cons_of_ne_nil hne
  simp [sight, get?, hnew, Sight.ofEntry]

theorem sight_setChild (entries : List (String × Entry)) (name : String) (new : Entry) (n : String)
    (names : List String) : (directory (setChild name new entries)).sight (n :: names) =
      if n = name then new.sight names else (directory entries).sight (n :: names) := by
  rw [sight_directory_cons, sight_directory_cons, lookup_setChild]
  by_cases hn : n = name
  · rw [if_pos hn, if_pos hn]
  · rw [if_neg hn, if_neg hn]

theorem get?_put_of_ne {entries : List (String × Entry)} {name n : String} (hn : n ≠ name)
    (place : List String) (new : Entry) (names : List String) :
    ((directory entries).put (name :: place) new).get? (n :: names) =
      (directory entries).get? (n :: names) := by
  cases place with
  | nil => simp only [put, get?, child?, lookup_setChild, if_neg hn]
  | cons next more =>
    simp only [put]
    split
    · simp only [get?, child?, lookup_setChild, if_neg hn]
    · rfl

theorem sight_put_of_ne {entries : List (String × Entry)} {name n : String} (hn : n ≠ name)
    (place : List String) (new : Entry) (names : List String) :
    ((directory entries).put (name :: place) new).sight (n :: names) =
      (directory entries).sight (n :: names) :=
  congrArg Sight.ofEntry (get?_put_of_ne hn place new names)

theorem sight_put_nil (entries : List (String × Entry)) (name : String) (place : List String)
    (new : Entry) : ((directory entries).put (name :: place) new).sight [] = .directory := by
  cases place with
  | nil => rfl
  | cons next more =>
    simp only [put]
    split <;> rfl

/-- Putting a file or an empty directory where no directory is shows in that place and nowhere
else. It shows nowhere if the way to the place is missing. -/
theorem sight_put {tree : Entry} {place : List String} (hplace : tree.sight place ≠ .directory)
    {new : Entry} (hnew : ∀ name, new.child? name = none) (names : List String) :
    (tree.put place new).sight names = tree.sight names ∨
      names = place ∧ (tree.put place new).sight names = new.sight [] := by
  -- the place is reached name by name; the names looked at may leave the way to it at any of them
  induction place generalizing tree names with
  | nil =>
    by_cases hnames : names = []
    · subst hnames
      exact .inr ⟨rfl, rfl⟩
    · have hbefore := sight_eq_nothing_of_ne_directory hplace hnames
      exact .inl ((sight_eq_nothing_of_flat hnew hnames).trans hbefore.symm)
  | cons name place ih =>
    cases tree with
    | file content => exact .inl rfl
    | directory entries =>
      cases names with
      | nil => exact .inl (sight_put_nil entries name place new)
      | cons n names =>
        by_cases hn : n = name
        · subst hn
          rw [sight_directory_cons] at hplace
          cases place with
          | nil =>
            by_cases hnames : names = []
            · exact .inr (by simp [hnames, put, sight_setChild])
            · left
              rw [put, sight_setChild, if_pos rfl, sight_directory_cons,
                sight_eq_nothing_of_flat hnew hnames]
              cases hold : entries.lookup n with
              | none => rfl
              | some e =>
                rw [hold] at hplace
                exact (sight_eq_nothing_of_ne_directory hplace hnames).symm
          | cons next more =>
            simp only [put]
            cases hold : entries.lookup n with
            | none => exact .inl rfl
            | some e =>
              rw [hold] at hplace
              dsimp only
              rw [sight_setChild, if_pos rfl, sight_directory_cons, hold]
              simpa using ih hplace names
        · exact .inl (sight_put_of_ne hn place new names)

/-- Neither of two places is below the other. -/
def Apart (place names : List String) : Prop := ¬ place <+: names ∧ ¬ names <+: place

theorem Apart.concat {place names : List String} (h : Apart place names) (name : String) :
    Apart (place ++ [name]) names := by
  refine ⟨fun hprefix => h.1 ((List.prefix_append _ _).trans hprefix), fun hprefix => ?_⟩
  rcases List.prefix_concat_iff.1 hprefix with rfl | hprefix
  · exact h.1 (List.prefix_append _ _)
  · exact h.2 hprefix

theorem Apart.of_cons {name : String} {place names : List String}
    (h : Apart (name :: place) (name :: names)) : Apart place names :=
  ⟨fun hprefix => h.1 (by simpa using hprefix), fun hprefix => h.2 (by simpa using hprefix)⟩

/-- What is below a place stays as it is when something is put apart from it. -/
theorem get?_put_of_apart {tree : Entry} {place names : List String} (h : Apart place names)
    (new : Entry) : (tree.put place new).get? names = tree.get? names := by
  induction place generalizing tree names with
  | nil => exact absurd List.nil_prefix h.1
  | cons name place ih =>
    cases names with
    | nil => exact absurd List.nil_prefix h.2
    | cons n names =>
      cases tree with
      | file content => rfl
      | directory entries =>
        by_cases hn : n = name
        · subst hn
          cases place with
          | nil => exact absurd List.nil_prefix h.of_cons.1
          | cons next more =>
            simp only [put]
            cases hold : entries.lookup n with
            | none => rfl
            | some e =>
              simp only [get?, child?, lookup_setChild, hold, if_true, Option.bind_some]
              exact ih h.of_cons
        · exact get?_put_of_ne hn place new names

end Entry

namespace Disk

open ServiceCapsule.Path Entry

variable {d d' d'' : Disk} {ways : Path → Prop}

def sight (d : Disk) (names : List String) : Sight := d.tree.sight names

/-- A path leads where it led as long as no directory goes away. -/
theorem locate_of_sight (hplace : d'.place = d.place)
    (h : ∀ names, d.sight names = .directory → d'.sight names = .directory) {p : Path}
    {place : List String} (hp : d.locate p = .ok place) : d'.locate p = .ok place := by
  unfold locate at hp ⊢
  split at hp
  · simp at hp
  · rename_i hempty
    rw [if_neg hempty, hplace]
    refine follow_of_isDirectory (fun names hnames => ?_) hp
    exact Sight.ofEntry_eq_directory_iff.1 (h names (Sight.ofEntry_eq_directory_iff.2 hnames))

theorem eq_of_follow_name {tree : Entry} {root place : List String} {name : String}
    (h : follow tree root [.name name] = .ok place) : place = root ++ [name] := by
  simp only [follow] at h
  split at h
  · simp at h
  · simp at h
  · exact (Except.ok.inj h).symm

/-! ### Making directories -/

/-- Nothing has happened but that directories were made where nothing was, in places that some
paths lead to. -/
structure Made (ways : Path → Prop) (d d' : Disk) : Prop where
  place : d'.place = d.place
  sight : ∀ names, d'.sight names = d.sight names ∨
    d.sight names = .nothing ∧ d'.sight names = .directory ∧ ∃ p, ways p ∧ d'.locate p = .ok names
  get?_eq : ∀ names, (∀ p, ways p → ∀ place, d'.locate p = .ok place → Apart place names) →
    d'.tree.get? names = d.tree.get? names

theorem Made.refl (ways : Path → Prop) (d : Disk) : Made ways d d :=
  ⟨rfl, fun _ => .inl rfl, fun _ _ => rfl⟩

theorem Made.sight_directory (h : Made ways d d') {names : List String}
    (hnames : d.sight names = .directory) : d'.sight names = .directory := by
  rcases h.sight names with hsame | ⟨hnothing, -, -⟩
  · rw [hsame, hnames]
  · simp [hnames] at hnothing

theorem Made.locate (h : Made ways d d') {p : Path} {place : List String}
    (hp : d.locate p = .ok place) : d'.locate p = .ok place :=
  locate_of_sight h.place (fun _ => h.sight_directory) hp

theorem Made.trans (h : Made ways d d') (h' : Made ways d' d'') : Made ways d d'' where
  place := h'.place.trans h.place
  sight names := by
    rcases h'.sight names with hsame' | ⟨hnothing', hmade', hway'⟩
    · rcases h.sight names with hsame | ⟨hnothing, hmade, p, hp, hlocate⟩
      · exact .inl (hsame'.trans hsame)
      · exact .inr ⟨hnothing, hsame'.trans hmade, p, hp, h'.locate hlocate⟩
    · rcases h.sight names with hsame | ⟨-, hmade, -⟩
      · exact .inr ⟨hsame ▸ hnothing', hmade', hway'⟩
      · simp [hnothing'] at hmade
  get?_eq names hapart := (h'.get?_eq names hapart).trans
    (h.get?_eq names fun p hp place hplace => hapart p hp place (h'.locate hplace))

theorem Made.mono {ways' : Path → Prop} (h : Made ways d d') (hways : ∀ p, ways p → ways' p) :
    Made ways' d d' where
  place := h.place
  sight names := (h.sight names).imp_right fun ⟨hnothing, hmade, p, hp, hlocate⟩ =>
    ⟨hnothing, hmade, p, hways p hp, hlocate⟩
  get?_eq names hapart := h.get?_eq names fun p hp => hapart p (hways p hp)

theorem follow_replicate_here {tree : Entry} {place : List String}
    (h : tree.sight place = .directory) (n : Nat) :
    follow tree place (List.replicate n .here) = .ok place := by
  have hdirectory := Sight.ofEntry_eq_directory_iff.1 h
  induction n with
  | zero => rfl
  | succ n ih =>
    rw [List.replicate_succ]
    unfold follow
    cases hget : tree.get? place with
    | none => simp [hget] at hdirectory
    | some e =>
      cases e with
      | file content => simp [hget, Entry.isDirectory] at hdirectory
      | directory entries => exact ih

theorem stepsOf_replicate_slash (n : Nat) :
    stepsOf (List.replicate n '/') = List.replicate (n + 1) .here := by
  induction n with
  | zero => decide
  | succ n ih =>
    have hslash := stepsOf_append_slash [] (List.replicate n '/')
    rw [List.nil_append] at hslash
    rw [List.replicate_succ, hslash, ih]
    rfl

theorem exists_append_replicate (cs : List Char) :
    ∃ n, cs = Text.dropEndWhile (· == '/') cs ++ List.replicate n '/' := by
  refine ⟨(cs.reverse.takeWhile (· == '/')).length, ?_⟩
  have htake : cs.reverse.takeWhile (· == '/') =
      List.replicate (cs.reverse.takeWhile (· == '/')).length '/' :=
    List.eq_replicate_iff.2 ⟨rfl, fun c hc => by simpa using List.mem_takeWhile_imp hc⟩
  have hsplit := congrArg List.reverse
    (List.takeWhile_append_dropWhile (p := (· == '/')) (l := cs.reverse))
  rw [List.reverse_append, List.reverse_reverse, htake, List.reverse_replicate] at hsplit
  exact hsplit.symm

theorem locate_of_dropEndWhile {p : Path} {place : List String}
    (h : d.locate ⟨String.ofList (Text.dropEndWhile (· == '/') p.text.toList)⟩ = .ok place)
    (hplace : d.sight place = .directory) : d.locate p = .ok place := by
  obtain ⟨n, hn⟩ := exists_append_replicate p.text.toList
  generalize Text.dropEndWhile (· == '/') p.text.toList = cs at h hn
  cases cs with
  | nil => simp [locate] at h
  | cons c cs =>
    have hempty : p.text.isEmpty = false := by
      rw [String.isEmpty_eq_false_iff]
      intro htext
      simp [htext] at hn
    have habs : isAbsolute ⟨String.ofList (c :: cs)⟩ = p.isAbsolute := by
      simp [isAbsolute, hn]
    unfold locate at h ⊢
    rw [if_neg (by simp)] at h
    rw [if_neg (by simp [hempty]), ← habs]
    rw [steps_eq, String.toList_ofList] at h
    rw [steps_eq, hn]
    cases n with
    | zero => simpa using h
    | succ n =>
      rw [List.replicate_succ, stepsOf_append_slash, stepsOf_replicate_slash, follow_append, h]
      exact follow_replicate_here hplace _

theorem makeDirectory_eq_ok {p : Path} (h : d.makeDirectory p = .ok d') :
    ∃ place, d.locate ⟨String.ofList (Text.dropEndWhile (· == '/') p.text.toList)⟩ = .ok place ∧
      d.sight place = .nothing ∧ d' = { d with tree := d.tree.put place (.directory []) } := by
  unfold makeDirectory at h
  cases hp : d.locate ⟨String.ofList (Text.dropEndWhile (· == '/') p.text.toList)⟩ with
  | error e => simp [bind, Except.bind, hp] at h
  | ok place =>
    cases hget : d.tree.get? place with
    | some e => simp [bind, Except.bind, hp, hget] at h
    | none =>
      simp only [bind, Except.bind, hp, hget, Except.ok.injEq] at h
      exact ⟨place, rfl, Sight.ofEntry_eq_nothing_iff.2 hget, h.symm⟩

theorem exists_directory_of_follow {tree : Entry} {place q : List String} {ps : List Part}
    (hq : follow tree place ps = .ok q) (hps : ps ≠ []) (hnothing : tree.get? q = none) :
    ∃ dir name entries, q = dir ++ [name] ∧ tree.get? dir = some (.directory entries) := by
  -- only a name at the very end can lead to nothing, since dots lead to what is there
  induction ps generalizing place with
  | nil => exact absurd rfl hps
  | cons p ps ih =>
    simp only [follow] at hq
    cases he : tree.get? place with
    | none => simp [he] at hq
    | some e =>
      cases e with
      | file content => simp [he] at hq
      | directory entries =>
        simp only [he] at hq
        have hdropped : tree.get? place.dropLast ≠ none := by
          intro hnone
          rcases List.eq_nil_or_concat place with rfl | ⟨dir, name, rfl⟩
          · simp [he] at hnone
          · rw [List.concat_eq_append, List.dropLast_concat] at hnone
            rw [List.concat_eq_append, get?_append, hnone] at he
            simp at he
        by_cases hmore : ps = []
        · subst hmore
          cases p with
          | name s => exact ⟨place, s, entries, (Except.ok.inj hq).symm, he⟩
          | up => exact absurd (Except.ok.inj hq ▸ hnothing) hdropped
          | root | here => simp [← Except.ok.inj hq, he] at hnothing
        · cases p <;> exact ih hq hmore

theorem get?_put_of_locate {p : Path} {place : List String} (hp : d.locate p = .ok place)
    (hnothing : d.tree.get? place = none) (new : Entry) :
    (d.tree.put place new).get? place = some new := by
  unfold locate at hp
  split at hp
  · simp at hp
  · have hsteps : steps p ≠ [] := by simp [steps, pieces, Text.splitChar, Text.splitAtEach_ne_nil]
    obtain ⟨dir, name, entries, rfl, hdir⟩ := exists_directory_of_follow hp hsteps hnothing
    simp [get?_append, get?_put hdir, get?, child?, lookup_setChild]

theorem made_of_makeDirectory {p : Path} (h : d.makeDirectory p = .ok d') : Made (· = p) d d' := by
  obtain ⟨place, hp, hnothing, hd'⟩ := makeDirectory_eq_ok h
  have hput : ∀ names, d'.sight names = d.sight names ∨
      names = place ∧ d'.sight names = .directory := by
    have hfree : d.tree.sight place ≠ .directory := by
      rw [show d.tree.sight place = .nothing from hnothing]
      simp
    rw [hd']
    exact sight_put hfree fun _ => rfl
  have hmade : d'.sight place = .directory := by
    have hthere := get?_put_of_locate hp (Sight.ofEntry_eq_nothing_iff.1 hnothing) (.directory [])
    rw [hd', sight, Entry.sight, hthere]
    rfl
  have hkept : ∀ names, d.sight names = .directory → d'.sight names = .directory := by
    intro names hnames
    rcases hput names with hsame | ⟨-, hmade⟩
    · exact hsame.trans hnames
    · exact hmade
  have hplace : d'.place = d.place := by rw [hd']
  have hlocate : d'.locate p = .ok place :=
    locate_of_dropEndWhile (locate_of_sight hplace hkept hp) hmade
  refine ⟨hplace, fun names => (hput names).imp_right ?_, fun names hapart => ?_⟩
  · rintro ⟨rfl, -⟩
    exact ⟨hnothing, hmade, p, rfl, hlocate⟩
  · rw [hd']
    exact get?_put_of_apart (hapart p rfl place hlocate) _

theorem made_makeUnlessThere (d : Disk) (p : Path) :
    Made (· = p) d (makeChain.makeUnlessThere d p).1 := by
  unfold makeChain.makeUnlessThere
  cases h : d.makeDirectory p with
  | ok d' => exact made_of_makeDirectory h
  | error e => exact .refl _ d

/-- Directories are made for the paths of a chain and for no others. -/
theorem made_makeChain (d : Disk) (ps : List Path) : Made (· ∈ ps) d (d.makeChain ps).1 := by
  induction ps with
  | nil => exact .refl _ d
  | cons p parents ih =>
    have hparents : Made (· ∈ p :: parents) d (d.makeChain parents).1 :=
      ih.mono fun q hq => List.mem_cons_of_mem p hq
    simp only [makeChain]
    split
    · exact .refl _ d
    · split
      · rename_i d' h
        exact (made_of_makeDirectory h).mono fun q hq => by simp [hq]
      · split
        · exact .refl _ d
        · split
          · rename_i d' e h
            rw [h] at hparents
            exact hparents
          · rename_i d' h
            rw [h] at hparents
            exact hparents.trans ((made_makeUnlessThere d' p).mono fun q hq => by simp [hq])
      · exact .refl _ d

def IsAncestor (p q : Path) : Prop := Relation.ReflTransGen (fun p q => p.parent? = some q) p q

theorem isAncestor_of_mem_ancestors {n : Nat} {p q : Path} (h : q ∈ ancestors n p) :
    IsAncestor p q := by
  induction n generalizing p with
  | zero =>
    obtain rfl : q = p := by simpa [ancestors] using h
    exact .refl
  | succ n ih =>
    unfold ancestors at h
    split at h
    · rename_i parent hparent
      rcases List.mem_cons.1 h with rfl | h
      · exact .refl
      · exact .head hparent (ih h)
    · obtain rfl : q = p := by simpa using h
      exact .refl

theorem made_makeDirectories (d : Disk) (p : Path) :
    Made (IsAncestor p) d (d.makeDirectories p).1 :=
  (made_makeChain d _).mono fun _ => isAncestor_of_mem_ancestors

/-! ### Writing files -/

variable {places : List String → Prop}

/-- Nothing has happened but that files were written in some places where no directory was. -/
structure Wrote (places : List String → Prop) (d d' : Disk) : Prop where
  place : d'.place = d.place
  sight : ∀ names, d'.sight names = d.sight names ∨
    places names ∧ d.sight names ≠ .directory ∧ ∃ content, d'.sight names = .file content
  get?_eq : ∀ names, (∀ place, places place → Apart place names) →
    d'.tree.get? names = d.tree.get? names

theorem Wrote.refl (places : List String → Prop) (d : Disk) : Wrote places d d :=
  ⟨rfl, fun _ => .inl rfl, fun _ _ => rfl⟩

theorem Wrote.sight_directory (h : Wrote places d d') {names : List String}
    (hnames : d.sight names = .directory) : d'.sight names = .directory := by
  rcases h.sight names with hsame | ⟨-, hfree, -⟩
  · rw [hsame, hnames]
  · exact absurd hnames hfree

theorem Wrote.locate (h : Wrote places d d') {p : Path} {place : List String}
    (hp : d.locate p = .ok place) : d'.locate p = .ok place :=
  locate_of_sight h.place (fun _ => h.sight_directory) hp

theorem Wrote.trans (h : Wrote places d d') (h' : Wrote places d' d'') : Wrote places d d'' where
  place := h'.place.trans h.place
  sight names := by
    rcases h'.sight names with hsame' | ⟨hplaces, hfree', hfile⟩
    · rw [hsame']
      exact h.sight names
    · exact .inr ⟨hplaces, fun hnames => hfree' (h.sight_directory hnames), hfile⟩
  get?_eq names hapart := (h'.get?_eq names hapart).trans (h.get?_eq names hapart)

theorem Wrote.mono {places' : List String → Prop} (h : Wrote places d d')
    (hplaces : ∀ names, places names → places' names) : Wrote places' d d' where
  place := h.place
  sight names := (h.sight names).imp_right fun hnames => ⟨hplaces names hnames.1, hnames.2⟩
  get?_eq names hapart := h.get?_eq names fun place hplace => hapart place (hplaces place hplace)

theorem wrote_of_write {p : Path} {content : Content} {place : List String}
    (h : d.write p content = .ok d') (hp : d.locate p = .ok place) : Wrote (· = place) d d' := by
  obtain ⟨target, htarget, hno, rfl⟩ := write_eq_ok h
  obtain rfl : place = target := Except.ok.inj (hp.symm.trans htarget)
  have hfree : d.tree.sight place ≠ .directory := by
    intro hdirectory
    have hany := Sight.ofEntry_eq_directory_iff.1 hdirectory
    cases hget : d.tree.get? place with
    | none => simp [hget] at hany
    | some e =>
      cases e with
      | file was => simp [hget, Entry.isDirectory] at hany
      | directory entries => exact hno entries hget
  refine ⟨rfl, fun names => (sight_put hfree (fun _ => rfl) names).imp_right ?_,
    fun names hapart => get?_put_of_apart (hapart place rfl) _⟩
  rintro ⟨rfl, hmade⟩
  exact ⟨rfl, hfree, content, hmade⟩

/-! ### What stays as it is -/

/-- What is in a place stays, and no directory goes away. -/
structure Keeps (names : List String) (d d' : Disk) : Prop where
  place : d'.place = d.place
  sight_directory : ∀ names, d.sight names = .directory → d'.sight names = .directory
  get?_eq : d'.tree.get? names = d.tree.get? names

variable {names : List String}

theorem Keeps.refl (names : List String) (d : Disk) : Keeps names d d := ⟨rfl, fun _ => id, rfl⟩

theorem Keeps.trans (h : Keeps names d d') (h' : Keeps names d' d'') : Keeps names d d'' where
  place := h'.place.trans h.place
  sight_directory names hnames := h'.sight_directory names (h.sight_directory names hnames)
  get?_eq := h'.get?_eq.trans h.get?_eq

theorem Keeps.locate (h : Keeps names d d') {p : Path} {place : List String}
    (hp : d.locate p = .ok place) : d'.locate p = .ok place :=
  locate_of_sight h.place h.sight_directory hp

theorem Keeps.entry (h : Keeps names d d') {p : Path} (hp : d.locate p = .ok names) :
    d'.entry p = d.entry p := by
  rw [entry_eq, entry_eq, hp, h.locate hp]
  simp only [Except.bind, h.get?_eq]

/-- Whatever is on a disk with this working directory, the paths lead to other places. -/
def Avoids (working : List String) (ways : Path → Prop) (names : List String) : Prop :=
  ∀ d : Disk, d.place = working → ∀ p, ways p → ∀ place, d.locate p = .ok place → Apart place names

theorem Made.keeps (h : Made ways d d') (havoids : Avoids d.place ways names) :
    Keeps names d d' :=
  ⟨h.place, fun _ => h.sight_directory, h.get?_eq names (havoids d' h.place)⟩

theorem Wrote.keeps (h : Wrote places d d') (hapart : ∀ place, places place → Apart place names) :
    Keeps names d d' :=
  ⟨h.place, fun _ => h.sight_directory, h.get?_eq names hapart⟩

end Disk
end ServiceCapsule
