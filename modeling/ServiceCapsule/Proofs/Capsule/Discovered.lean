import ServiceCapsule.Capsule.Discovery
import ServiceCapsule.Proofs.Files.Entries
import ServiceCapsule.Proofs.Files.PathOrder

/-!
# The sources that are found

The walk over the directory of a capsule turns back where the name of a directory is left out, and
asks of each file that it comes to whether its name and its path are those of a source. What it
finds is told by the whole path of a file: no directory on the way may be left out. The result
stands in the order of the paths and not in the one in which a directory names its entries.
-/

namespace ServiceCapsule

/-! ### The walk -/

namespace Entry

theorem isDirectory_of_get?_file {e : Entry} {names : List String} {content : Content}
    (h : e.get? names = some (.file content)) : e.isDirectory = !names.isEmpty := by
  cases names with
  | nil =>
    obtain rfl : e = .file content := by simpa [Entry.get?] using h
    rfl
  | cons name names =>
    cases e with
    | file other => simp [Entry.get?, child?] at h
    | directory entries => rfl

/-- Turning back at each directory that is skipped finds the files with no such directory on the
way. -/
theorem mem_walk_iff {skips : String → Bool} {e : Entry} (h : e.WellNamed)
    {names : List String} :
    names ∈ e.walk skips ↔ (∃ content, e.get? names = some (.file content)) ∧
      ∀ dir ∈ names.dropLast, skips dir = false := by
  induction names generalizing e with
  | nil => cases e <;> simp [walk, mem_walkAll, Entry.get?]
  | cons name names ih =>
    cases e with
    | file content => simp [walk, Entry.get?, child?]
    | directory entries =>
      obtain ⟨hnodup, hentries⟩ := wellNamed_directory.1 h
      -- a directory is on the way exactly where more names follow its own
      have hway : ∀ (e : Entry) content, e.get? names = some (.file content) →
          (((e.isDirectory && skips name) = false ∧ ∀ dir ∈ names.dropLast, skips dir = false) ↔
            ∀ dir ∈ (name :: names).dropLast, skips dir = false) := by
        intro e content he
        rw [isDirectory_of_get?_file he]
        cases names <;> simp
      have hbelow : ∀ e, (name, e) ∈ entries → (names ∈ e.walk skips ↔ _) :=
        fun e he => ih (hentries _ he).2
      simp only [walk, mem_walkAll, Entry.get?, child?, Option.bind_eq_some_iff,
        lookup_eq_some_iff_mem hnodup]
      constructor
      · rintro ⟨other, e, he, hskip, below, hbelowmem, hnames⟩
        obtain ⟨rfl, rfl⟩ := List.cons.inj hnames
        obtain ⟨⟨content, hcontent⟩, hdirs⟩ := (hbelow e he).1 hbelowmem
        exact ⟨⟨content, e, he, hcontent⟩, (hway e content hcontent).1 ⟨hskip, hdirs⟩⟩
      · rintro ⟨⟨content, e, he, hcontent⟩, hdirs⟩
        obtain ⟨hskip, hdirs⟩ := (hway e content hcontent).2 hdirs
        exact ⟨name, e, he, hskip, names, (hbelow e he).2 ⟨⟨content, hcontent⟩, hdirs⟩, rfl⟩

mutual

theorem nodup_walk {skips : String → Bool} :
    ∀ {e : Entry}, e.WellNamed → (e.walk skips).Nodup
  | file content, _ => by simp [walk]
  | directory entries, h => by
    obtain ⟨hnodup, hentries⟩ := wellNamed_directory.1 h
    exact nodup_walkAll hnodup fun entry hentry => (hentries entry hentry).2

theorem nodup_walkAll {skips : String → Bool} :
    ∀ {entries : List (String × Entry)}, (entries.map Prod.fst).Nodup →
      (∀ entry ∈ entries, entry.2.WellNamed) → (walkAll skips entries).Nodup
  | [], _, _ => by simp [walkAll]
  | (name, e) :: rest, hnodup, hentries => by
    obtain ⟨hname, hrest⟩ := List.nodup_cons.1 hnodup
    obtain ⟨he, hentries⟩ := List.forall_mem_cons.1 hentries
    have hhere : (if e.isDirectory && skips name then []
        else (e.walk skips).map (name :: ·)).Nodup := by
      split
      · exact List.nodup_nil
      · exact (nodup_walk he).map List.cons_injective
    refine List.nodup_append'.2 ⟨hhere, nodup_walkAll hrest hentries, ?_⟩
    -- the names of the two parts start differently
    intro names hnames hother
    obtain ⟨other, e', he', -, below, -, rfl⟩ := mem_walkAll.1 hother
    have hne : other ≠ name := fun h => hname (List.mem_map.2 ⟨_, he', h⟩)
    split at hnames <;> simp [hne.symm] at hnames

end

end Entry

/-! ### Endings -/

theorem Text.endsWith_iff {s ending : String} :
    Text.endsWith s ending = true ↔ ∃ stem, s = stem ++ ending := by
  rw [Text.endsWith, List.isSuffixOf_iff_suffix]
  constructor
  · rintro ⟨cs, hcs⟩
    exact ⟨String.ofList cs, String.toList_inj.1 (by simp [hcs])⟩
  · rintro ⟨stem, rfl⟩
    exact ⟨stem.toList, by simp⟩

theorem Text.eq_empty_of_splitChar {c : Char} {s : String} (h : Text.splitChar c s = [""]) :
    s = "" := by
  have hpieces : Text.splitAtEach (· == c) s.toList = [[]] := by
    simpa [Text.splitChar, List.map_eq_singleton_iff] using h
  apply String.toList_inj.1
  cases hcs : s.toList with
  | nil => rfl
  | cons first rest =>
    rw [hcs] at hpieces
    unfold Text.splitAtEach at hpieces
    split at hpieces
    · simp [Text.splitAtEach_ne_nil] at hpieces
    · split at hpieces <;> simp at hpieces

namespace Path

theorem extensionOf?_eq_none {name : String} (h : '.' ∉ name.toList) :
    extensionOf? name = none := by
  have hdots : ∀ c ∈ name.toList, (c == '.') = false := by
    intro c hc
    have hne : c ≠ '.' := fun he => h (he ▸ hc)
    simpa using hne
  simp [extensionOf?, Text.splitChar, Text.splitAtEach_of_forall hdots]

theorem extensionOf?_append {stem ext : String} (hext : '.' ∉ ext.toList) :
    extensionOf? (stem ++ "." ++ ext) = if stem = "" then none else some ext := by
  have hdots : ∀ c ∈ ext.toList, (c == '.') = false := by
    intro c hc
    have hne : c ≠ '.' := fun he => hext (he ▸ hc)
    simpa using hne
  have hpieces : Text.splitChar '.' (stem ++ "." ++ ext) = Text.splitChar '.' stem ++ [ext] := by
    simp [Text.splitChar, Text.splitAtEach_append_cons, Text.splitAtEach_of_forall hdots]
  unfold extensionOf?
  rw [hpieces, List.reverse_append, List.reverse_singleton, List.singleton_append]
  by_cases hstem : stem = ""
  · subst hstem
    rfl
  · rw [if_neg hstem]
    have hne : (Text.splitChar '.' stem).reverse ≠ [] := by
      simp [Text.splitChar, Text.splitAtEach_ne_nil]
    obtain ⟨before, more, hmore⟩ := List.exists_cons_of_ne_nil hne
    have hempty : (more.isEmpty && before.isEmpty) = false := by
      by_contra h
      obtain ⟨rfl, rfl⟩ : more = [] ∧ before = "" := by simpa using h
      exact hstem (Text.eq_empty_of_splitChar (by simpa using congrArg List.reverse hmore))
    simp [hmore, hempty]

/-- An extension is what follows the last dot of a name that has something before it. -/
theorem extensionOf?_eq_some_iff {name ext : String} (hext : '.' ∉ ext.toList) :
    extensionOf? name = some ext ↔ ∃ stem, stem ≠ "" ∧ name = stem ++ "." ++ ext := by
  constructor
  · intro h
    by_cases hdot : '.' ∈ name.toList
    · obtain ⟨after, before, hsplit, hafter⟩ :=
        List.eq_append_cons_of_mem (List.mem_reverse.2 hdot)
      have hname : name = String.ofList before.reverse ++ "." ++ String.ofList after.reverse := by
        apply String.toList_inj.1
        simpa using congrArg List.reverse hsplit
      rw [hname, extensionOf?_append (by simpa using hafter)] at h
      split at h
      · simp at h
      · rename_i hstem
        exact ⟨_, hstem, by rw [hname, Option.some.inj h]⟩
    · simp [extensionOf?_eq_none hdot] at h
  · rintro ⟨stem, hstem, rfl⟩
    rw [extensionOf?_append hext, if_neg hstem]

end Path

/-! ### Sources -/

namespace SourceFilter

/-- What makes a file below the directory of a capsule a source: the names of the directories on
the way to it and its own name are those that the filter asks for. -/
structure IsSource (f : SourceFilter) (tree : Entry) (above : List String) (name : String) :
    Prop where
  file : ∃ content, tree.get? (above ++ [name]) = some (.file content)
  extension : ∃ stem, stem ≠ "" ∧ (name = stem ++ ".ts" ∨ name = stem ++ ".tsx")
  notDeclarations : ∀ stem, name ≠ stem ++ ".d.ts"
  notExcluded : ∀ dir ∈ above, dir ∉ f.excludedDirectories
  notTestDirectory : f.includeTests = false → ∀ dir ∈ above, dir ∉ testDirectories
  notTest : f.includeTests = false → ∀ ending ∈ testEndings, ∀ stem, name ≠ stem ++ ending
  notMatched : ∀ pattern ∈ f.excludedPatterns, ∀ g, Glob.parse pattern = .ok g →
    g.accepts ("/".intercalate (above ++ [name])) = false

theorem isTypeScript_iff {name : String} :
    isTypeScript name = true ↔
      (∃ stem, stem ≠ "" ∧ (name = stem ++ ".ts" ∨ name = stem ++ ".tsx")) ∧
        ∀ stem, name ≠ stem ++ ".d.ts" := by
  have hts : '.' ∉ "ts".toList := by decide
  have htsx : '.' ∉ "tsx".toList := by decide
  have hdot : ∀ stem ext : String, stem ++ "." ++ ext = stem ++ ("." ++ ext) := by
    simp [String.append_assoc]
  have hdts : Text.endsWith name ".d.ts" = false ↔ ∀ stem, name ≠ stem ++ ".d.ts" := by
    rw [← Bool.not_eq_true, Text.endsWith_iff, not_exists]
  simp only [isTypeScript, Bool.and_eq_true, Bool.not_eq_true', Bool.or_eq_true, beq_iff_eq, hdts,
    Path.extensionOf?_eq_some_iff hts, Path.extensionOf?_eq_some_iff htsx, hdot]
  rw [and_comm, ← exists_or]
  simp only [← and_or_left]
  rfl

theorem isTest_eq_false_iff {name : String} :
    isTest name = false ↔ ∀ ending ∈ testEndings, ∀ stem, name ≠ stem ++ ending := by
  simp [isTest, ← Bool.not_eq_true, Text.endsWith_iff]

theorem skips_eq_false_iff (f : SourceFilter) {name : String} :
    f.skips name = false ↔ name ∉ f.excludedDirectories ∧
      (f.includeTests = false → name ∉ testDirectories) := by
  cases h : f.includeTests <;> simp [skips, h]

theorem mem_globs (f : SourceFilter) {g : Glob} :
    g ∈ f.globs ↔ ∃ pattern ∈ f.excludedPatterns, Glob.parse pattern = .ok g := by
  have hok : ∀ r : Except Glob.Fault Glob, r.toOption = some g ↔ r = .ok g := by
    rintro (_ | _) <;> simp [Except.toOption]
  simp [globs, hok]

theorem admits_iff (f : SourceFilter) {name : String} {below : List String} :
    f.admits name below = true ↔ isTypeScript name = true ∧
      (f.includeTests = false → isTest name = false) ∧
      ∀ g ∈ f.globs, g.accepts ("/".intercalate below) = false := by
  cases h : f.includeTests <;> simp [admits, h, and_assoc]

/-- The walk and the choice among the files together find the sources. -/
theorem isSource_iff (f : SourceFilter) {tree : Entry} (htree : tree.WellNamed)
    {above : List String} {name : String} :
    f.IsSource tree above name ↔ above ++ [name] ∈ tree.walk f.skips ∧
      f.admits name (above ++ [name]) = true := by
  rw [Entry.mem_walk_iff htree, admits_iff, isTypeScript_iff, isTest_eq_false_iff,
    List.dropLast_concat]
  simp only [skips_eq_false_iff, mem_globs]
  constructor
  · intro h
    refine ⟨⟨h.file, fun dir hdir => ⟨h.notExcluded dir hdir, fun ht => ?_⟩⟩,
      ⟨h.extension, h.notDeclarations⟩, h.notTest, ?_⟩
    · exact h.notTestDirectory ht dir hdir
    · rintro g ⟨pattern, hpattern, hg⟩
      exact h.notMatched pattern hpattern g hg
  · rintro ⟨⟨hfile, hdirs⟩, ⟨hext, hdecl⟩, htest, hglobs⟩
    exact {
      file := hfile
      extension := hext
      notDeclarations := hdecl
      notExcluded := fun dir hdir => (hdirs dir hdir).1
      notTestDirectory := fun ht dir hdir => (hdirs dir hdir).2 ht
      notTest := htest
      notMatched := fun pattern hpattern g hg => hglobs g ⟨pattern, hpattern, hg⟩ }

section Sources

variable {f : SourceFilter} {root : Path} {entries : List (String × Entry)}

theorem mem_sourcesIn (htree : (Entry.directory entries).WellNamed) {p : Path} :
    p ∈ f.sourcesIn root (.directory entries) ↔ ∃ above name,
      f.IsSource (.directory entries) above name ∧ p = (above ++ [name]).foldl Path.child root := by
  simp only [sourcesIn, List.mem_mergeSort, List.mem_map, List.mem_filter]
  constructor
  · rintro ⟨below, ⟨hwalk, hadmits⟩, rfl⟩
    rcases List.eq_nil_or_concat below with rfl | ⟨above, name, rfl⟩
    · simp [Entry.walk, Entry.mem_walkAll] at hwalk
    · refine ⟨above, name, (isSource_iff f htree).2 ⟨?_, ?_⟩, ?_⟩ <;> simp_all
  · rintro ⟨above, name, hsource, rfl⟩
    obtain ⟨hwalk, hadmits⟩ := (isSource_iff f htree).1 hsource
    exact ⟨above ++ [name], ⟨hwalk, by simpa using hadmits⟩, rfl⟩

theorem pairwise_sourcesIn (hroot : root.text ≠ "") (htree : (Entry.directory entries).WellNamed) :
    (f.sourcesIn root (.directory entries)).Pairwise Path.Precedes := by
  apply Path.pairwise_precedes_mergeSort
  rw [List.map_map]
  refine List.Nodup.map_on ?_ ((Entry.nodup_walk htree).filter _)
  intro below hbelow other hother hparts
  have hnames : ∀ names ∈ (Entry.directory entries).walk f.skips, ∀ name ∈ names,
      Path.IsName name := by
    intro names hnames
    obtain ⟨⟨content, hcontent⟩, -⟩ := (Entry.mem_walk_iff htree).1 hnames
    exact htree.isName hcontent
  simp only [Function.comp_apply,
    Path.parts_foldl_child hroot (hnames _ (List.mem_filter.1 hbelow).1),
    Path.parts_foldl_child hroot (hnames _ (List.mem_filter.1 hother).1)] at hparts
  exact List.map_injective_iff.2 (fun s t h => by simpa using h) (List.append_cancel_left hparts)

end Sources

theorem sources_eq_ok {f : SourceFilter} {d : Disk} {root : Path} {tree : Entry}
    (h : d.entry root = .ok tree) : f.sources d root = .ok (f.sourcesIn root tree) := by
  simp [sources, h]

theorem isSource_rearranged {f : SourceFilter} {tree tree' : Entry} (h : tree.Rearranged tree')
    {above : List String} {name : String} :
    f.IsSource tree above name ↔ f.IsSource tree' above name := by
  have hfile : (∃ content, tree.get? (above ++ [name]) = some (.file content)) ↔
      ∃ content, tree'.get? (above ++ [name]) = some (.file content) :=
    exists_congr fun content => h.file_iff
  exact ⟨fun hs => { hs with file := hfile.1 hs.file },
    fun hs => { hs with file := hfile.2 hs.file }⟩

theorem IsSource.of_larger {f f' : SourceFilter} (htests : f'.includeTests = f.includeTests)
    (hdirs : f.excludedDirectories ⊆ f'.excludedDirectories)
    (hpatterns : f.excludedPatterns ⊆ f'.excludedPatterns) {tree : Entry} {above : List String}
    {name : String} (h : f'.IsSource tree above name) : f.IsSource tree above name :=
  { h with
    notExcluded := fun dir hdir hex => h.notExcluded dir hdir (hdirs hex)
    notTestDirectory := htests ▸ h.notTestDirectory
    notTest := htests ▸ h.notTest
    notMatched := fun pattern hpattern => h.notMatched pattern (hpatterns hpattern) }

/-- The sources of a capsule: the files that the filter asks for, in the order of their paths and
each of them once. The order in which a directory names its entries does not matter, and leaving
out more directories or more paths only takes sources away. -/
theorem sources_of_directory (f : SourceFilter) {d : Disk} (hdisk : d.tree.WellNamed) {root : Path}
    {entries : List (String × Entry)} (hroot : d.entry root = .ok (.directory entries)) :
    ∃ found, f.sources d root = .ok found ∧
      (∀ p, p ∈ found ↔ ∃ above name, f.IsSource (.directory entries) above name ∧
        p = (above ++ [name]).foldl Path.child root) ∧
      found.Pairwise Path.Precedes ∧ found.Nodup ∧
      (∀ d', d.Rearranged d' → f.sources d' root = .ok found) ∧
      ∀ f' : SourceFilter, f'.includeTests = f.includeTests →
        f.excludedDirectories ⊆ f'.excludedDirectories →
        f.excludedPatterns ⊆ f'.excludedPatterns →
        ∃ kept, f'.sources d root = .ok kept ∧ kept.Sublist found := by
  have hpath : root.text ≠ "" := d.text_ne_empty hroot
  have htree : (Entry.directory entries).WellNamed := d.wellNamed_entry hdisk hroot
  have hsorted := fun g : SourceFilter => pairwise_sourcesIn (f := g) hpath htree
  refine ⟨_, sources_eq_ok hroot, fun p => mem_sourcesIn htree, hsorted f, (hsorted f).nodup, ?_,
    ?_⟩
  · intro d' hd
    obtain ⟨entries', hroot', hrel⟩ := hd.entry_directory hroot
    have htree' := hrel.wellNamed htree
    rw [sources_eq_ok hroot']
    -- both lists are in the order of the paths, and the same paths are in them
    refine congrArg _ (List.Pairwise.eq_of_mem_iff (pairwise_sourcesIn hpath htree') (hsorted f) ?_)
    intro p
    simp only [mem_sourcesIn htree, mem_sourcesIn htree', isSource_rearranged hrel]
  · intro f' htests hdirs hpatterns
    refine ⟨_, sources_eq_ok hroot, ?_⟩
    refine List.sublist_of_subperm_of_pairwise (List.subperm_of_subset (hsorted f').nodup ?_)
      (hsorted f') (hsorted f)
    intro p hp
    obtain ⟨above, name, hsource, rfl⟩ := (mem_sourcesIn htree).1 hp
    exact (mem_sourcesIn htree).2
      ⟨above, name, hsource.of_larger htests hdirs hpatterns, rfl⟩

/-- A directory with sources in it, and next to them files that are none: of tests, of
declarations, in a directory that is left out, and under a path that a pattern matches. -/
def sampleEntries : List (String × Entry) :=
  let file : Entry := .file (.text "export {};")
  [("a-b", .directory [("x.ts", file), ("x.spec.ts", file)]),
    ("a", .directory [("x.ts", file), ("dist", .directory [("y.ts", file)])]),
    ("types.d.ts", file),
    ("tests", .directory [("b.ts", file)]),
    ("made", .directory [("z.ts", file)]),
    ("b.tsx", file)]

def sampleFilter : SourceFilter := ⟨false, ["dist"], ["made/*", "["]⟩

theorem sources_of_sampleEntries :
    (Entry.directory sampleEntries).WellNamed ∧
      (⟨.directory sampleEntries, []⟩ : Disk).entry ⟨"."⟩ = .ok (.directory sampleEntries) ∧
      sampleFilter.sources ⟨.directory sampleEntries.reverse, []⟩ ⟨"."⟩ =
        .ok [⟨"./a/x.ts"⟩, ⟨"./a-b/x.ts"⟩, ⟨"./b.tsx"⟩] := by
  have hnamed : (Entry.directory sampleEntries).WellNamed := by
    simp [Entry.wellNamed_directory, Entry.wellNamed_file, sampleEntries, Path.isName_iff]
  have hroot : (⟨.directory sampleEntries, []⟩ : Disk).entry ⟨"."⟩ =
      .ok (.directory sampleEntries) := rfl
  refine ⟨hnamed, hroot, ?_⟩
  obtain ⟨found, hfound, -, hsorted, -, horder, -⟩ :=
    sources_of_directory sampleFilter hnamed hroot
  have hturned : (⟨.directory sampleEntries, []⟩ : Disk).Rearranged
      ⟨.directory sampleEntries.reverse, []⟩ :=
    ⟨Entry.rearranged_of_perm (by decide) (List.reverse_perm _).symm, rfl⟩
  have hwalk : (((Entry.directory sampleEntries).walk sampleFilter.skips).filter fun below =>
      sampleFilter.admits (below.getLast?.getD ((Path.fileName? ⟨"."⟩).getD "")) below) =
        [["a-b", "x.ts"], ["a", "x.ts"], ["b.tsx"]] := by decide +kernel
  have hpaths : ([["a-b", "x.ts"], ["a", "x.ts"], ["b.tsx"]].map fun below =>
      below.foldl Path.child ⟨"."⟩) = [⟨"./a-b/x.ts"⟩, ⟨"./a/x.ts"⟩, ⟨"./b.tsx"⟩] := by decide
  have hmem : ∀ p, p ∈ found ↔ p ∈ [⟨"./a/x.ts"⟩, ⟨"./a-b/x.ts"⟩, ⟨"./b.tsx"⟩] := by
    intro p
    obtain rfl : sampleFilter.sourcesIn ⟨"."⟩ (.directory sampleEntries) = found :=
      Except.ok.inj ((sources_eq_ok hroot).symm.trans hfound)
    rw [sourcesIn, hwalk, hpaths, List.mem_mergeSort]
    simp only [List.mem_cons]
    tauto
  rw [horder _ hturned]
  exact congrArg _ (List.Pairwise.eq_of_mem_iff hsorted (by decide) hmem)

end SourceFilter
end ServiceCapsule
