import ServiceCapsule.Files.Disk
import ServiceCapsule.Files.Path
import ServiceCapsule.Text.Basic
import ServiceCapsule.Text.Glob
import ServiceCapsule.Text.Quoted

/-!
# Sources of a capsule

The files below a directory that are sources of a capsule: a walk that leaves out some directories,
and a choice among the files that it finds. The order of the result is that of the paths. What is in
the way of parsing a capsule has a code, a message, and the thing that it is about.
-/

namespace ServiceCapsule

/-! ### Why a capsule cannot be parsed -/

inductive ParseError where
  | pathNotFound (path : Path)
  | notADirectory (path : Path)
  | noSources (id : String) (path : Path)
  | unreadable (path : Path) (cause : String)
  | badManifest (path : Path) (reason : Option String)
  deriving DecidableEq, Repr, Inhabited

namespace ParseError

def code : ParseError → String
  | pathNotFound _ => "PARSE_PATH_NOT_FOUND"
  | notADirectory _ => "PARSE_NOT_A_DIRECTORY"
  | noSources _ _ => "PARSE_NO_SOURCE_FILES"
  | unreadable _ _ => "PARSE_IO"
  | badManifest _ _ => "PARSE_MANIFEST"

def summary : ParseError → String
  | pathNotFound path => "Capsule path does not exist: " ++ Text.quoted path.text
  | notADirectory path => "Capsule path is not a directory: " ++ Text.quoted path.text
  | noSources id path =>
    "No TypeScript source files found in capsule " ++ id ++ " at " ++ Text.quoted path.text
  | unreadable path cause => "Failed to read " ++ Text.quoted path.text ++ ": " ++ cause
  | badManifest path _ => "Invalid manifest " ++ Text.quoted path.text

def message : ParseError → String
  | badManifest path (some reason) =>
    "Invalid manifest " ++ Text.quoted path.text ++ ": " ++ reason
  | e => e.summary

/-- The capsule or the path that the error is about. -/
def subject : ParseError → String
  | pathNotFound path | notADirectory path | unreadable path _ | badManifest path _ => path.text
  | noSources id _ => id

end ParseError

/-! ### Sources -/

namespace Entry

mutual

/-- Names on the way to each file below, without the directories whose names are skipped. -/
def walk (skips : String → Bool) : Entry → List (List String)
  | file _ => [[]]
  | directory entries => walkAll skips entries

def walkAll (skips : String → Bool) : List (String × Entry) → List (List String)
  | [] => []
  | (name, e) :: rest =>
    (if e.isDirectory && skips name then [] else (walk skips e).map (name :: ·)) ++
      walkAll skips rest

end

theorem mem_walkAll {skips : String → Bool} {names : List String}
    {entries : List (String × Entry)} :
    names ∈ walkAll skips entries ↔
      ∃ name e, (name, e) ∈ entries ∧ (e.isDirectory && skips name) = false ∧
        ∃ below ∈ walk skips e, names = name :: below := by
  induction entries with
  | nil => simp [walkAll]
  | cons entry rest ih =>
    obtain ⟨name, e⟩ := entry
    cases hs : e.isDirectory && skips name <;> simp [walkAll, ih, hs] <;> grind

end Entry

/-- Which of the files below a directory are sources. -/
structure SourceFilter where
  includeTests : Bool
  /-- names of directories that are left out -/
  excludedDirectories : List String
  /-- patterns of paths that are left out; those that are no patterns say nothing -/
  excludedPatterns : List String
  deriving DecidableEq, Repr

namespace SourceFilter

def defaultExcluded : List String :=
  ["node_modules", "dist", "build", "coverage", "out", ".git", ".next"]

def standard : SourceFilter := ⟨false, defaultExcluded, []⟩

instance : Inhabited SourceFilter := ⟨standard⟩

def testDirectories : List String := ["__tests__", "test", "tests"]

def testEndings : List String := [".test.ts", ".spec.ts", ".test.tsx", ".spec.tsx"]

def skips (f : SourceFilter) (name : String) : Bool :=
  f.excludedDirectories.contains name || (!f.includeTests && testDirectories.contains name)

def isTypeScript (name : String) : Bool :=
  !Text.endsWith name ".d.ts" &&
    (Path.extensionOf? name == some "ts" || Path.extensionOf? name == some "tsx")

def isTest (name : String) : Bool := testEndings.any (Text.endsWith name)

def globs (f : SourceFilter) : List Glob :=
  f.excludedPatterns.filterMap fun p => (Glob.parse p).toOption

/-- Whether a file of this name, at these names below the root, is a source. -/
def admits (f : SourceFilter) (name : String) (below : List String) : Bool :=
  isTypeScript name && (f.includeTests || !isTest name) &&
    !f.globs.any fun g => g.accepts ("/".intercalate below)

/-- Paths of the sources in a tree; a root that is a file itself may be one. -/
def sourcesIn (f : SourceFilter) (root : Path) (tree : Entry) : List Path :=
  let found := (tree.walk f.skips).filter fun below =>
    f.admits (below.getLast?.getD (root.fileName?.getD "")) below
  (found.map fun below => below.foldl Path.child root).mergeSort Path.le

/-- Sources of a capsule, in the order of their paths. -/
def sources (f : SourceFilter) (d : Disk) (root : Path) : Except ParseError (List Path) :=
  match d.entry root with
  | .ok tree => .ok (f.sourcesIn root tree)
  | .error e => .error (.unreadable root
      ("IO error for operation on " ++ root.text ++ ": " ++ e.message))

/-- Directories right below another one that are capsules: those with a source in them. -/
def capsules (f : SourceFilter) (d : Disk) (root : Path) : Option (List Path) :=
  match d.entry? root with
  | some (.directory entries) => some (entries.filterMap fun (name, e) =>
      let dir := root.child name
      if e.isDirectory && !Text.startsWith name "." && !f.excludedDirectories.contains name &&
          !(f.sourcesIn dir e).isEmpty then some dir
      else none)
  | _ => none

end SourceFilter
end ServiceCapsule
