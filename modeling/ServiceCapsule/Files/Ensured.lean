import ServiceCapsule.Files.Disk
import ServiceCapsule.Text.Quoted

/-!
# What has to be there

A directory is made where nothing is; what is there and is no directory stays in the way. A tree is
turned into another one that has all its entries by making and writing what is missing, and it is
put together from parts that were read one by one.
-/

namespace ServiceCapsule

/-! ### Directories -/

inductive DirectoryError where
  | inTheWay (path : Path)
  | file (cause : FileError)
  deriving DecidableEq, Repr, Inhabited

def DirectoryError.message : DirectoryError → String
  | inTheWay path => "Path exists but is not a directory: " ++ Text.quoted path.text
  | file cause => cause.message

namespace Disk

def ensureDirectory (d : Disk) (p : Path) : Disk × Except DirectoryError Unit :=
  if d.isDirectory p then (d, .ok ())
  else if d.exists p then (d, .error (.inTheWay p))
  else
    let (d', made) := d.makeDirectories p
    (d', made.mapError .file)

end Disk

/-! ### Changes of a tree -/

namespace Entry

def entries : Entry → List (String × Entry)
  | file _ => []
  | directory entries => entries

/-- Put an entry at the end of a list of names, with the directories on the way. -/
def graft (new : Entry) : List String → Entry → Entry
  | [], _ => new
  | name :: names, e =>
    directory (setChild name (graft new names ((e.child? name).getD (directory []))) e.entries)

theorem get?_graft (new : Entry) (names : List String) (e : Entry) :
    get? names (graft new names e) = some new := by
  induction names generalizing e with
  | nil => rfl
  | cons name names ih => simp [graft, get?, child?, lookup_setChild, ih]

/-- Something to do at the end of a list of names: write a file, or make a directory. -/
inductive Change where
  | write (names : List String) (content : Content)
  | make (names : List String)
  deriving Repr, Inhabited

mutual

/-- Changes that turn what was at some names, if there was something, into an entry. -/
def changes (names : List String) (old : Option Entry) : Entry → List Change
  | file content =>
    match old with
    | some (file was) => if was = content then [] else [.write names content]
    | _ => [.write names content]
  | directory entries =>
    (if old.any isDirectory then [] else [.make names]) ++ changesAll names old entries

def changesAll (names : List String) (old : Option Entry) : List (String × Entry) → List Change
  | [] => []
  | (name, e) :: rest =>
    changes (names ++ [name]) (old.bind (child? name)) e ++ changesAll names old rest

end

example : changes [] (some (directory [])) (directory [("a", directory [("b", file (.text ""))])])
    = [.make ["a"], .write ["a", "b"] (.text "")] := by
  simp [changes, changesAll, isDirectory, child?]

end Entry

namespace Disk

/-- The names from the root to what a path would stand for if all directories on the way were
there. -/
def target (d : Disk) (p : Path) : List String :=
  (steps p).foldl (fun names step =>
    match step with
    | .name s => names ++ [s]
    | .up => names.dropLast
    | _ => names) (if p.isAbsolute then [] else d.place)

end Disk
end ServiceCapsule
