import ServiceCapsule.Capsule.Loading
import ServiceCapsule.Proofs.Files.Directory
import ServiceCapsule.Proofs.Text.Block

/-!
# Ids of capsules

An id is made of lower-case letters, digits and hyphens, so it is a name for a directory. The id of
a directory is told by what the directory holds and by nothing else on the disk, and a capsule that
is parsed from the directory has it.
-/

namespace ServiceCapsule

namespace Identity

def IsIdChar (c : Char) : Prop := c.isAlphanum = true ∨ c = '-'

theorem isIdChar_hyphen {written : List Char} (h : ∀ c ∈ written, IsIdChar c) (test : Bool) :
    ∀ c ∈ (if test then '-' :: written else written), IsIdChar c := by
  intro c hc
  split at hc
  · rcases List.mem_cons.1 hc with rfl | hc
    · exact .inr rfl
    · exact h c hc
  · exact h c hc

theorem isIdChar_hyphenate {written : List Char} {afterLower : Bool} {cs : List Char}
    (h : ∀ c ∈ written, IsIdChar c) : ∀ c ∈ hyphenate written afterLower cs, IsIdChar c := by
  induction cs generalizing written afterLower with
  | nil => simpa [hyphenate] using h
  | cons a cs ih =>
    unfold hyphenate
    split
    · rename_i ha
      apply ih
      intro c hc
      rcases List.mem_cons.1 hc with rfl | hc
      · exact .inl (Text.isAlphanum_toLower ha)
      · exact isIdChar_hyphen h _ c hc
    · exact ih (isIdChar_hyphen h _)

theorem mem_of_mem_dropAround {p : Char → Bool} {cs : List Char} {c : Char}
    (h : c ∈ Text.dropAround p cs) : c ∈ cs := by
  have hend : c ∈ (cs.dropWhile p).reverse.dropWhile p := by
    simpa [Text.dropAround, Text.dropEndWhile] using h
  have hstart := (List.dropWhile_sublist p).subset hend
  exact (List.dropWhile_sublist p).subset (List.mem_reverse.1 hstart)

theorem isName_of_isIdChar {cs : List Char} (hne : cs ≠ []) (h : ∀ c ∈ cs, IsIdChar c) :
    Path.IsName (String.ofList cs) := by
  have hslash : '/' ∉ cs := by
    intro hc
    rcases h _ hc with hc | hc
    · exact absurd hc (by decide)
    · exact absurd hc (by decide)
  have hdot : '.' ∉ cs := by
    intro hc
    rcases h _ hc with hc | hc
    · exact absurd hc (by decide)
    · exact absurd hc (by decide)
  have hempty : String.ofList cs ≠ "" := by simpa using hne
  have hhere : String.ofList cs ≠ "." := by
    intro heq
    have hcs : cs = ['.'] := by simpa using congrArg String.toList heq
    exact hdot (by simp [hcs])
  have hup : String.ofList cs ≠ ".." := by
    intro heq
    have hcs : cs = ['.', '.'] := by simpa using congrArg String.toList heq
    exact hdot (by simp [hcs])
  refine ⟨?_, by simpa using hslash⟩
  simp [Path.partOf?, hempty, hhere, hup]

theorem isName_kebab (s : String) : Path.IsName (kebab s) := by
  unfold kebab
  split
  · decide
  · rename_i id hne
    apply isName_of_isIdChar hne
    intro c hc
    exact isIdChar_hyphenate (by simp) c (mem_of_mem_dropAround hc)

/-- Ids as they are made of any text: words in lower case with hyphens between them. -/
def IsSlug (id : String) : Prop := ∃ s, kebab s = id

theorem IsSlug.isName {id : String} (h : IsSlug id) : Path.IsName id := by
  obtain ⟨s, rfl⟩ := h
  exact isName_kebab s

end Identity

namespace Metadata

theorem isSlug_resolveId (dir : Path) (manifest : Option Manifest) :
    Identity.IsSlug (resolveId dir manifest) := by
  unfold resolveId
  split
  · exact ⟨_, rfl⟩
  · exact ⟨_, rfl⟩

theorem isName_resolveId (dir : Path) (manifest : Option Manifest) :
    Path.IsName (resolveId dir manifest) :=
  (isSlug_resolveId dir manifest).isName

theorem isName_of_resolveIdIn {d : Disk} {dir : Path} {id : String}
    (h : resolveIdIn d dir = .ok id) : Path.IsName id := by
  unfold resolveIdIn at h
  cases hfind : Manifest.find d dir with
  | error e => simp [hfind, Except.map] at h
  | ok found =>
    obtain rfl : resolveId dir (found.map (·.2)) = id := by simpa [hfind, Except.map] using h
    exact isName_resolveId _ _

end Metadata

/-! ### The manifest is part of the directory -/

namespace Manifest

theorem isName_of_mem_candidates : ∀ candidate ∈ candidates, Path.IsName candidate.1 := by
  have hnames : ∀ name ∈ candidates.map (·.1), Path.IsName name := by decide
  intro candidate hc
  exact hnames _ (List.mem_map_of_mem hc)

theorem firstOf_congr {d e : Disk} {dir : Path} (hdir : dir.text ≠ "")
    (h : d.entry dir = e.entry dir) {candidates : List (String × Reader)}
    (hnames : ∀ candidate ∈ candidates, Path.IsName candidate.1) :
    firstOf d dir candidates = firstOf e dir candidates := by
  induction candidates with
  | nil => rfl
  | cons candidate rest ih =>
    obtain ⟨name, reader⟩ := candidate
    have hchild : d.entry (dir.child name) = e.entry (dir.child name) := by
      have hn := hnames _ List.mem_cons_self
      rw [Disk.entry_child d hdir hn, Disk.entry_child e hdir hn, h]
    have hrest := ih fun c hc => hnames c (List.mem_cons_of_mem _ hc)
    have hread : d.read (dir.child name) = e.read (dir.child name) := by
      rw [Disk.read_eq, Disk.read_eq, hchild]
    have hisFile : d.isFile (dir.child name) = e.isFile (dir.child name) := by
      simp only [Disk.isFile, Disk.entry?, hchild]
    simp only [firstOf, hread, hisFile, hrest]

end Manifest

namespace Metadata

/-- Disks that agree on a directory agree on its id. -/
theorem resolveIdIn_congr {d e : Disk} {dir : Path} (hdir : dir.text ≠ "")
    (h : d.entry dir = e.entry dir) : resolveIdIn d dir = resolveIdIn e dir := by
  unfold resolveIdIn Manifest.find
  rw [Manifest.firstOf_congr hdir h Manifest.isName_of_mem_candidates]

end Metadata

/-! ### Ids of parsed capsules -/

namespace ParsedCapsule

variable {f : SourceFilter} {d : Disk} {dir : Path} {c : ParsedCapsule}

theorem ofDirectory_eq_ok (h : ofDirectory f d dir = .ok c) :
    d.exists dir = true ∧ ∃ sources manifest, Manifest.find d dir = .ok manifest ∧
      c = ofSources dir sources (manifest.map (·.2)) := by
  unfold ofDirectory at h
  split at h
  · simp at h
  · rename_i hexists
    split at h
    · simp at h
    · cases hpaths : f.sources d dir with
      | error e => simp [hpaths, bind, Except.bind] at h
      | ok paths =>
        simp only [hpaths, bind, Except.bind] at h
        split at h
        · simp at h
        · cases hsources : SourceFile.readAll d paths with
          | error e => simp [hsources] at h
          | ok sources =>
            cases hmanifest : Manifest.find d dir with
            | error e => simp [hsources, hmanifest] at h
            | ok manifest =>
              simp only [hsources, hmanifest, Except.ok.injEq] at h
              exact ⟨by simpa using hexists, sources, manifest, rfl, h.symm⟩

theorem id_ofSources (dir : Path) (sources : List SourceFile) (manifest : Option Manifest) :
    (ofSources dir sources manifest).metadata.id = Metadata.resolveId dir manifest := rfl

/-- A capsule is parsed under the id that its manifest alone gives. -/
theorem resolveIdIn_of_ofDirectory (h : ofDirectory f d dir = .ok c) :
    Metadata.resolveIdIn d dir = .ok c.metadata.id := by
  obtain ⟨-, sources, manifest, hmanifest, rfl⟩ := ofDirectory_eq_ok h
  rw [Metadata.resolveIdIn, hmanifest, id_ofSources]
  rfl

theorem isSlug_of_ofDirectory (h : ofDirectory f d dir = .ok c) :
    Identity.IsSlug c.metadata.id := by
  obtain ⟨-, sources, manifest, -, rfl⟩ := ofDirectory_eq_ok h
  rw [id_ofSources]
  exact Metadata.isSlug_resolveId dir (manifest.map (·.2))

theorem text_ne_empty_of_ofDirectory (h : ofDirectory f d dir = .ok c) : dir.text ≠ "" := by
  intro hempty
  have hexists := (ofDirectory_eq_ok h).1
  simp [Disk.exists, Disk.entry?, Disk.entry, Disk.locate, hempty, bind, Except.bind,
    Except.toOption] at hexists

theorem ofDirectory_of_single {name source : String} (hdir : dir.text ≠ "")
    (hname : Path.IsName name) (hadmits : f.admits name [name] = true)
    (hmanifest : ∀ candidate ∈ Manifest.candidates, candidate.1 ≠ name)
    (hentry : d.entry dir = .ok (.directory [(name, .file (.text source))])) :
    ofDirectory f d dir = .ok (.ofSources dir [⟨dir.child name, source⟩] none) := by
  have hunder : ∀ other, Path.IsName other → d.entry (dir.child other) =
      if other = name then .ok (.file (.text source)) else .error .notFound := by
    intro other hother
    rw [Disk.entry_child d hdir hother, hentry]
    by_cases h : other = name
    · simp [Except.bind, Entry.under, h]
    · simp [Except.bind, Entry.under, h, List.lookup_cons, beq_eq_false_iff_ne.2 h]
  have hsources : f.sources d dir = .ok [dir.child name] := by
    simp [SourceFilter.sources, hentry, SourceFilter.sourcesIn, Entry.walk, Entry.walkAll,
      Entry.isDirectory, hadmits]
  have hread : SourceFile.readAll d [dir.child name] = .ok [⟨dir.child name, source⟩] := by
    simp [SourceFile.readAll, Disk.read_eq, hunder name hname, Except.bind, Except.map]
  have hfind : Manifest.find d dir = .ok none := by
    have hnone : ∀ candidates : List (String × Manifest.Reader),
        (∀ candidate ∈ candidates, Path.IsName candidate.1 ∧ candidate.1 ≠ name) →
          Manifest.firstOf d dir candidates = .ok none := by
      intro candidates hall
      induction candidates with
      | nil => rfl
      | cons candidate rest ih =>
        obtain ⟨⟨hother, hne⟩, hrest⟩ := List.forall_mem_cons.1 hall
        have hmissing : d.isFile (dir.child candidate.1) = false := by
          simp [Disk.isFile, Disk.entry?, hunder _ hother, hne, Except.toOption]
        simp only [Manifest.firstOf, hmissing, Bool.false_eq_true, if_false]
        exact ih hrest
    exact hnone _ fun candidate hc =>
      ⟨Manifest.isName_of_mem_candidates candidate hc, hmanifest candidate hc⟩
  have hexists : d.exists dir = true := by simp [Disk.exists, Disk.entry?, hentry, Except.toOption]
  have hdirectory : d.isDirectory dir = true := by
    simp [Disk.isDirectory, Disk.entry?, hentry, Except.toOption, Entry.isDirectory]
  simp [ofDirectory, hexists, hdirectory, hsources, hread, hfind, bind, Except.bind]

end ParsedCapsule
end ServiceCapsule
