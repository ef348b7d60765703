import ServiceCapsule.Digest.Sha256
import ServiceCapsule.Files.Disk
import ServiceCapsule.Package.Layout
import ServiceCapsule.Text.Quoted

/-!
# Generation

The eight files of a capsule are written into a directory. A file that cannot be written is noted,
and the others are written all the same.
-/

namespace ServiceCapsule

inductive GenerationError where
  | outputDirectory (capsule : String) (path : Path) (cause : FileError)
  | template (capsule : String) (file : FileKind) (cause : Draft.Refusal)
  | write (capsule : String) (path : Path) (cause : FileError)
  deriving Repr, Inhabited

namespace GenerationError

def code : GenerationError → String
  | outputDirectory .. => "GENERATE_OUTPUT_DIRECTORY"
  | template .. => "GENERATE_TEMPLATE"
  | write .. => "GENERATE_WRITE"

def capsule : GenerationError → String
  | outputDirectory id _ _ | template id _ _ | write id _ _ => id

def message : GenerationError → String
  | outputDirectory id path cause =>
    "Failed to create output directory " ++ Text.quoted path.text ++ " for capsule " ++ id ++
      ": " ++ cause.message
  | template id file cause =>
    "Failed to render " ++ file.fileName ++ " for capsule " ++ id ++ ": " ++ cause.message
  | write id path cause =>
    "Failed to write " ++ Text.quoted path.text ++ " for capsule " ++ id ++ ": " ++ cause.message

def shown (e : GenerationError) : String := "[" ++ e.code ++ "] " ++ e.message

end GenerationError

structure GeneratedFile where
  kind : FileKind
  path : Path
  content : String
  deriving Repr, Inhabited

namespace GeneratedFile

def size (f : GeneratedFile) : Nat := f.content.utf8ByteSize

def checksum (f : GeneratedFile) : String := Sha256.digest f.content

def lineCount (f : GeneratedFile) : Nat := Text.lineCount f.content

end GeneratedFile

structure GenerationResult where
  capsule : String
  outputDirectory : Path
  mode : Mode
  files : List GeneratedFile
  errors : List String
  warnings : List String
  manualActions : List String
  deriving Repr, Inhabited

namespace GenerationResult

def success (r : GenerationResult) : Bool := r.errors.isEmpty

def totalLines (r : GenerationResult) : Nat := Metrics.total (r.files.map GeneratedFile.lineCount)

def totalBytes (r : GenerationResult) : Nat := Metrics.total (r.files.map GeneratedFile.size)

end GenerationResult

namespace Generation

/-- The text that is to be written for a file. -/
def content (formatter : Option Formatter) (p : Plan) (k : FileKind) :
    Except Draft.Refusal String :=
  (Draft.render p k).map fun s =>
    match formatter with
    | some f => f.format k.fileName s
    | none => s

def writeFile (formatter : Option Formatter) (p : Plan) (output : Path) (d : Disk)
    (k : FileKind) : Disk × Except GenerationError GeneratedFile :=
  match content formatter p k with
  | .error refusal => (d, .error (.template p.metadata.id k refusal))
  | .ok s =>
    let path := output.child k.fileName
    match d.write path (.text s) with
    | .ok d' => (d', .ok ⟨k, path, s⟩)
    | .error e => (d, .error (.write p.metadata.id path e))

/-- Write files one after the other, whatever becomes of those before. -/
def writeFiles (formatter : Option Formatter) (p : Plan) (output : Path) (d : Disk) :
    List FileKind → Disk × List (Except GenerationError GeneratedFile)
  | [] => (d, [])
  | k :: ks =>
    let (d', outcome) := writeFile formatter p output d k
    let (d'', outcomes) := writeFiles formatter p output d' ks
    (d'', outcome :: outcomes)

theorem length_writeFiles (formatter : Option Formatter) (p : Plan) (output : Path) (d : Disk)
    (ks : List FileKind) : (writeFiles formatter p output d ks).2.length = ks.length := by
  induction ks generalizing d with
  | nil => rfl
  | cons k ks ih => simp [writeFiles, ih]

def written : Except GenerationError GeneratedFile → Option GeneratedFile
  | .ok f => some f
  | .error _ => none

def failed : Except GenerationError GeneratedFile → Option String
  | .ok _ => none
  | .error e => some e.shown

def skippedWarning (s : Skipped) : String :=
  "Skipped original declaration " ++ s.name ++ " in " ++ s.target.fileName ++ ": " ++
    s.reason.message

def countWarning (n : Nat) : List String :=
  if n < FileKind.all.length then
    ["Only " ++ Nat.repr n ++ " of " ++ Nat.repr FileKind.all.length ++ " files were generated"]
  else []

/-- What became of the files of a plan. -/
def report (p : Plan) (output : Path) (outcomes : List (Except GenerationError GeneratedFile)) :
    GenerationResult :=
  let files := outcomes.filterMap written
  { capsule := p.metadata.id
    outputDirectory := output
    mode := p.mode
    files := files
    errors := outcomes.filterMap failed
    warnings := p.preserved.skipped.map skippedWarning ++ countWarning files.length
    manualActions := p.manualActions }

/-- Make the output directory and find its absolute path. -/
def prepare (d : Disk) (capsule : String) (output : Path) :
    Disk × Except GenerationError Path :=
  match d.makeDirectories output with
  | (d', .error e) => (d', .error (.outputDirectory capsule output e))
  | (d', .ok ()) =>
    match d'.canonical output with
    | .ok path => (d', .ok path)
    | .error e => (d', .error (.outputDirectory capsule output e))

/-- Generate all files of a capsule into a directory, which is made if it is not there. -/
def run (formatter : Option Formatter) (time : Timestamp) (d : Disk) (c : ParsedCapsule)
    (output : Path) (mode : Mode) : Disk × Except GenerationError GenerationResult :=
  match prepare d c.metadata.id output with
  | (d', .error e) => (d', .error e)
  | (d', .ok path) =>
    let p := Plan.ofCapsule c mode time
    let (d'', outcomes) := writeFiles formatter p path d' FileKind.all
    (d'', .ok (report p path outcomes))

end Generation
end ServiceCapsule
