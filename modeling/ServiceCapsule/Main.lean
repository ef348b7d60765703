import Std.Time.DateTime.Timestamp
import ServiceCapsule.CommandLine.Run
import ServiceCapsule.Files.Ensured

/-!
# The program

What a command may read is taken from the file system, the command is run on it, and what it
changed is written back.
-/

namespace ServiceCapsule
namespace Program

/-- What is at a path, with all that is below it; links below are passed over. -/
partial def entryAt (path : String) : IO (Option Entry) := do
  try
    let place ← IO.FS.realPath path
    match (← place.metadata).type with
    | .dir =>
      let mut entries := []
      for e in ← place.readDir do
        if (← e.path.symlinkMetadata).type != .symlink then
          if let some below ← entryAt (path ++ "/" ++ e.fileName) then
            entries := Entry.setChild e.fileName below entries
      return some (.directory entries)
    | .file => return some (.file (Content.ofBytes (← IO.FS.readBinFile path)))
    | _ => return none
  catch _ => return none

def shown (names : List String) : String := "/" ++ "/".intercalate names

def isDirectoryAt (names : List String) : IO Bool := do
  try
    return (← (← IO.FS.realPath (shown names)).metadata).type == .dir
  catch _ => return false

/-- Take over the directories on the way to a place, as far as they are there. -/
def takeWay (d : Disk) (done : List String) : List String → IO Disk
  | [] => return d
  | name :: names => do
    let here := done ++ [name]
    if !(← isDirectoryAt here) then return d
    let tree :=
      if (d.tree.get? here).isSome then d.tree else Entry.graft (.directory []) here d.tree
    takeWay { d with tree := tree } here names

def take (d : Disk) (path : Path) : IO Disk := do
  let names := d.target path
  let d ← takeWay d [] names.dropLast
  match ← entryAt (shown names) with
  | some e => return { d with tree := Entry.graft e names d.tree }
  | none => return d

def takeAll (d : Disk) (paths : List Path) : IO Disk := paths.foldlM take d

def store : Entry.Change → IO Unit
  | .make names => IO.FS.createDirAll (shown names)
  | .write names (.text s) => IO.FS.writeFile (shown names) s
  | .write names (.bytes b) => IO.FS.writeBinFile (shown names) ⟨b.toArray⟩

/-- The directory of settings that hold for all working directories. -/
def settingsDirectory : IO (Option Path) := do
  match ← IO.getEnv "XDG_CONFIG_HOME" with
  | some dir => if dir.startsWith "/" then return some ⟨dir⟩ else fallback
  | none => fallback
where
  fallback : IO (Option Path) := do
    return (← IO.getEnv "HOME").map fun home => (Path.mk home).child ".config"

def now : IO Timestamp := do
  let since := (← Std.Time.Timestamp.now).toNanosecondsSinceUnixEpoch.toInt
  let second := since / 1000000000
  return ⟨second / 86400, (second % 86400).toNat, (since % 1000000000).toNat⟩

def printLines (stream : IO.FS.Stream) (lines : List String) : IO Unit :=
  lines.forM stream.putStrLn

def execute (c : Command) : IO UInt32 := do
  let directory ← settingsDirectory
  let around : Surroundings := ⟨directory, ← now, 0.0⟩
  let place := (Disk.steps ⟨(← IO.currentDir).toString⟩).filterMap fun
    | .name s => some s
    | _ => none
  let d ← takeAll (.empty place) (c.settingsFile.toList ++ Settings.places around)
  let settings := (Settings.load around d c.settingsFile).toOption.getD .standard
  let before ← takeAll d (c.paths settings)
  let (after, outcome) := c.run around before
  (Entry.changes [] (some before.tree) after.tree).forM store
  printLines (← IO.getStdout) outcome.stdout
  printLines (← IO.getStderr) outcome.stderr
  match outcome.result with
  | .ok () => return 0
  | .error e =>
    IO.eprintln ("Error: " ++ e.message)
    return 1

end Program
end ServiceCapsule

open ServiceCapsule in
def main (args : List String) : IO UInt32 := do
  match Command.ofWords args with
  | .ok c => Program.execute c
  | .error (.helpWanted name) =>
    Program.printLines (← IO.getStdout) (Help.on name)
    return 0
  | .error .versionWanted =>
    IO.println (Help.program ++ " " ++ Help.version)
    return 0
  | .error e =>
    IO.eprintln ("error: " ++ e.message)
    return 2
