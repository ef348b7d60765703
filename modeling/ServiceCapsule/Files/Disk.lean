import ServiceCapsule.Files.Path

/-!
# Files and directories

The directory tree that capsules are read from and written to. A path is followed one step at a
time from the working directory; each operation gives the new tree or the reason why not.
-/

namespace ServiceCapsule

/-- What a file holds: text, or bytes that are no text. -/
inductive Content where
  | text (s : String)
  | bytes (b : List UInt8)
  deriving DecidableEq, Repr, Inhabited

namespace Content

def ofBytes (b : ByteArray) : Content :=
  match String.fromUTF8? b with
  | some s => text s
  | none => bytes b.toList

end Content

inductive FileError where
  | notFound
  | alreadyExists
  | notADirectory
  | isADirectory
  | notText
  | permissionDenied
  deriving DecidableEq, Repr, Inhabited

def FileError.message : FileError → String
  | notFound => "No such file or directory (os error 2)"
  | alreadyExists => "File exists (os error 17)"
  | notADirectory => "Not a directory (os error 20)"
  | isADirectory => "Is a directory (os error 21)"
  | notText => "stream did not contain valid UTF-8"
  | permissionDenied => "Permission denied (os error 13)"

inductive Entry where
  | file (content : Content)
  | directory (entries : List (String × Entry))
  deriving Inhabited

namespace Entry

def isFile : Entry → Bool
  | file _ => true
  | directory _ => false

def isDirectory : Entry → Bool
  | file _ => false
  | directory _ => true

def isEmptyDirectory : Entry → Bool
  | directory [] => true
  | _ => false

def child? (name : String) : Entry → Option Entry
  | file _ => none
  | directory entries => entries.lookup name

def get? : List String → Entry → Option Entry
  | [], e => some e
  | name :: names, e => (e.child? name).bind (get? names)

/-- Put an entry under a name, in the place of the one that was there. -/
def setChild (name : String) (new : Entry) : List (String × Entry) → List (String × Entry)
  | [] => [(name, new)]
  | (other, e) :: rest =>
    if name = other then (name, new) :: rest
    else if name < other then (name, new) :: (other, e) :: rest
    else (other, e) :: setChild name new rest

theorem lookup_setChild (name other : String) (new : Entry) (entries : List (String × Entry)) :
    (setChild name new entries).lookup other =
      if other = name then some new else entries.lookup other := by
  induction entries with
  | nil =>
    by_cases h : other = name
    · simp [setChild, h]
    · simp [setChild, List.lookup_cons, beq_eq_false_iff_ne.2 h, h]
  | cons entry rest ih =>
    obtain ⟨key, e⟩ := entry
    unfold setChild
    by_cases hk : name = key
    · subst hk
      by_cases h : other = name
      · simp [h]
      · simp [List.lookup_cons, beq_eq_false_iff_ne.2 h, h]
    · have hk' : ¬ key = name := fun h => hk h.symm
      simp only [hk, if_false]
      split
      · by_cases h : other = name
        · simp [h]
        · simp [List.lookup_cons, beq_eq_false_iff_ne.2 h, h]
      · by_cases h : other = key
        · simp [h, hk']
        · simpa [List.lookup_cons, beq_eq_false_iff_ne.2 h] using ih

/-- Put an entry at the end of a list of names; nothing happens where a directory on the way is
missing. -/
def put : Entry → List String → Entry → Entry
  | _, [], new => new
  | file content, _ :: _, _ => file content
  | directory entries, [name], new => directory (setChild name new entries)
  | directory entries, name :: next :: names, new =>
    match entries.lookup name with
    | some e => directory (setChild name (put e (next :: names) new) entries)
    | none => directory entries

/-- Take away the entry at the end of a list of names. -/
def remove : List String → Entry → Entry
  | [], e => e
  | _ :: _, file content => file content
  | [name], directory entries => directory (entries.filter (·.1 != name))
  | name :: next :: names, directory entries =>
    match entries.lookup name with
    | some e => directory (setChild name (remove (next :: names) e) entries)
    | none => directory entries

mutual

/-- Paths of all files below; a directory with nothing in it is shown with a slash at the end. -/
def listing (path : String) : Entry → List String
  | file _ => [path]
  | directory [] => [path ++ "/"]
  | directory entries => listings path entries

def listings (path : String) : List (String × Entry) → List String
  | [] => []
  | (name, e) :: rest =>
    listing (if path.isEmpty then name else path ++ "/" ++ name) e ++ listings path rest

end

end Entry

/-- A directory tree, and the working directory in it. -/
structure Disk where
  /-- all that is below the root -/
  tree : Entry
  /-- names on the way from the root to the working directory -/
  place : List String
  deriving Inhabited

namespace Disk

def alone (names : List String) (e : Entry) : Entry :=
  names.foldr (fun name below => .directory [(name, below)]) e

/-- A disk with nothing but an empty working directory. -/
def empty (place : List String) : Disk := ⟨alone place (.directory []), place⟩

/-- Steps that a path asks for: unlike its parts they keep the slashes that say nothing, since
each of them asks for a directory. -/
def steps (p : Path) : List Path.Part := p.pieces.map fun piece => (Path.partOf? piece).getD .here

/-- Follow steps from a place in a tree. All but the last entry must be there; above the root there
is the root again. -/
def follow (tree : Entry) : List String → List Path.Part → Except FileError (List String)
  | place, [] => .ok place
  | place, step :: rest =>
    match tree.get? place with
    | none => .error .notFound
    | some (.file _) => .error .notADirectory
    | some (.directory _) =>
      match step with
      | .name s => follow tree (place ++ [s]) rest
      | .up => follow tree place.dropLast rest
      | _ => follow tree place rest

/-- The names from the root to what a path stands for. -/
def locate (d : Disk) (p : Path) : Except FileError (List String) :=
  if p.text.isEmpty then .error .notFound
  else follow d.tree (if p.isAbsolute then [] else d.place) (steps p)

def entry (d : Disk) (p : Path) : Except FileError Entry := do
  let place ← d.locate p
  match d.tree.get? place with
  | some e => .ok e
  | none => .error .notFound

def entry? (d : Disk) (p : Path) : Option Entry := (d.entry p).toOption

def «exists» (d : Disk) (p : Path) : Bool := (d.entry? p).isSome

def isFile (d : Disk) (p : Path) : Bool := (d.entry? p).any Entry.isFile

def isDirectory (d : Disk) (p : Path) : Bool := (d.entry? p).any Entry.isDirectory

def read (d : Disk) (p : Path) : Except FileError String := do
  match ← d.entry p with
  | Entry.file (.text s) => .ok s
  | Entry.file (.bytes _) => .error .notText
  | Entry.directory _ => .error .isADirectory

def write (d : Disk) (p : Path) (content : Content) : Except FileError Disk := do
  if p.text.toList.getLast? == some '/' && !d.exists p then .error .isADirectory
  let place ← d.locate p
  match d.tree.get? place with
  | some (Entry.directory _) => .error .isADirectory
  | _ => .ok { d with tree := d.tree.put place (.file content) }

def makeDirectory (d : Disk) (p : Path) : Except FileError Disk := do
  let place ← d.locate ⟨String.ofList (Text.dropEndWhile (· == '/') p.text.toList)⟩
  match d.tree.get? place with
  | some _ => .error .alreadyExists
  | none => .ok { d with tree := d.tree.put place (.directory []) }

/-- The path, its parent, the parent of that, and so on. -/
def ancestors : Nat → Path → List Path
  | 0, p => [p]
  | n + 1, p =>
    match p.parent? with
    | some q => p :: ancestors n q
    | none => [p]

/-- Make a directory unless it is there, with its parents first if the way to it is missing. What
was made on the way stays, also where the end cannot be reached. -/
def makeChain (d : Disk) : List Path → Disk × Except FileError Unit
  | [] => (d, .ok ())
  | p :: parents =>
    if p.text.isEmpty then (d, .ok ())
    else match d.makeDirectory p with
      | .ok d' => (d', .ok ())
      | .error .notFound =>
        if parents.isEmpty then (d, .error .notFound)
        else match d.makeChain parents with
          | (d', .error e) => (d', .error e)
          | (d', .ok ()) => makeUnlessThere d' p
      | .error e => (d, if d.isDirectory p then .ok () else .error e)
where
  /-- Make one directory unless it is there. -/
  makeUnlessThere (d : Disk) (p : Path) : Disk × Except FileError Unit :=
    match d.makeDirectory p with
    | .ok d' => (d', .ok ())
    | .error e => (d, if d.isDirectory p then .ok () else .error e)

/-- Make a directory and all directories on the way to it. -/
def makeDirectories (d : Disk) (p : Path) : Disk × Except FileError Unit :=
  d.makeChain (ancestors p.parts.length p)

/-- The absolute path of what is there, without dots. -/
def canonical (d : Disk) (p : Path) : Except FileError Path := do
  let place ← d.locate p
  match d.tree.get? place with
  | some _ => .ok (place.foldl Path.child ⟨"/"⟩)
  | none => .error .notFound

def remove (d : Disk) (p : Path) : Disk :=
  match d.locate p with
  | .ok place => { d with tree := d.tree.remove place }
  | .error _ => d

/-- Names from the root as a path, without those on the way to the working directory. -/
def shown (d : Disk) (names : List String) : String :=
  if d.place.isPrefixOf names then "/".intercalate (names.drop d.place.length)
  else "/" ++ "/".intercalate names

/-- Paths of all files below a path, in the order of their characters. -/
def listing (d : Disk) (p : Path) : List String :=
  match d.locate p with
  | .ok place =>
    match d.tree.get? place with
    | some e =>
      if e.isEmptyDirectory && place == d.place then []
      else (e.listing (d.shown place)).mergeSort (fun a b => decide (a ≤ b))
    | none => []
  | .error _ => []

end Disk
end ServiceCapsule
