import ServiceCapsule.Capsule.Discovery
import ServiceCapsule.Capsule.Manifest
import ServiceCapsule.Capsule.Parsed
import ServiceCapsule.Files.Disk
import ServiceCapsule.Json.Reader
import ServiceCapsule.Text.Basic
import ServiceCapsule.Yaml.Typed

/-!
# Parsing a directory

A capsule is read from a directory: first its sources, then its manifest. What cannot be read makes
the whole capsule unreadable. There is at most one manifest: the first file of the list below that
is there, where a package description serves if there is no manifest of the capsule's own. The id of
the result is the one that the manifest alone gives.
-/

namespace ServiceCapsule

/-! ### Manifest files -/

namespace Manifest

/-- Names of a capsule's own manifest, in the order in which they are looked for. -/
def fileNames : List String := ["capsule.json", "capsule.yaml", "capsule.yml"]

def packageFileName : String := "package.json"

def record : Yaml.Record Manifest :=
  let text (name : String) := Yaml.Record.field name Yaml.Node.optionalText none
  let texts (name : String) := Yaml.Record.field name Yaml.Node.texts []
  Manifest.mk <$> text "id" <*> text "name" <*> text "category" <*> text "description" <*>
    text "version" <*> texts "platforms" <*> texts "dependencies"

def ofYaml (s : String) : Except Yaml.Fault Manifest :=
  Yaml.readText (record.read "struct CapsuleManifest") s

/-- What follows the last slash of a package name. -/
def idOfPackage (name : String) : String := ((Text.splitChar '/' name).getLast?).getD name

def optionalText? : Json → Option (Option String)
  | .null => some none
  | .text s => some (some s)
  | _ => none

/-- The names of the fields of an object, sorted. -/
def sortedKeys? : Json → Option (List String)
  | .object fields => some (Text.sorted (fields.map (·.1)))
  | _ => none

/-- A field that may be missing but is not there twice. -/
def packageField {α : Type} (fields : List (String × Json)) (name : String)
    (read : Json → Option α) (default : α) : Option α :=
  match fields.filter (·.1 == name) with
  | [] => some default
  | [(_, value)] => read value
  | _ => none

def ofPackageParts (name version description : Option String) (dependencies : List String) :
    Manifest :=
  { Manifest.empty with
    id := name.map idOfPackage
    version := version
    description := description
    dependencies := dependencies }

/-- A package description as an object. -/
def ofPackageFields? (fields : List (String × Json)) : Option Manifest := do
  let name ← packageField fields "name" optionalText? none
  let version ← packageField fields "version" optionalText? none
  let description ← packageField fields "description" optionalText? none
  let dependencies ← packageField fields "dependencies" sortedKeys? []
  return ofPackageParts name version description dependencies

/-- A package description as a list of its values in their order; the last one may be missing. -/
def ofPackageItems? : Json → Option Manifest
  | .list [name, version, description] => do
    return ofPackageParts (← optionalText? name) (← optionalText? version)
      (← optionalText? description) []
  | .list [name, version, description, dependencies] => do
    return ofPackageParts (← optionalText? name) (← optionalText? version)
      (← optionalText? description) (← sortedKeys? dependencies)
  | _ => none

/-- How deep lists and objects of a package description are nested at most. -/
def packageDepth : Nat := 127

/-- Fields of a package description that are read; any other one is skimmed. -/
def packageFieldNames : List String := ["name", "version", "description", "dependencies"]

def readPackageValue (name : String) : Json.Reader Json := fun cs =>
  if packageFieldNames.contains name then Json.readValue .exact (packageDepth - 1) cs
  else Json.readValue .skim cs.length cs

def readPackageFields : Json.Reader (List (String × Json))
  | '\x7b' :: rest => Json.readFields .exact readPackageValue rest
  | _ => none

def ofPackageText? (s : String) : Option Manifest :=
  match Json.whole? readPackageFields s with
  | some fields => ofPackageFields? fields
  | none => (Json.whole? (Json.readValue .exact packageDepth) s).bind ofPackageItems?

/-- Read a manifest, or say what is wrong with it as far as that is known. -/
abbrev Reader := String → Except (Option String) Manifest

def ownReader : Reader := fun s => (ofYaml s).mapError Yaml.Fault.message?

def packageReader : Reader := fun s =>
  match ofPackageText? s with
  | some manifest => .ok manifest
  | none => .error none

def candidates : List (String × Reader) :=
  fileNames.map (·, ownReader) ++ [(packageFileName, packageReader)]

/-- Read the manifest from the first of these files that is there. -/
def firstOf (d : Disk) (dir : Path) :
    List (String × Reader) → Except ParseError (Option (Path × Manifest))
  | [] => .ok none
  | (name, reader) :: rest =>
    let path := dir.child name
    if d.isFile path then
      match d.read path with
      | .error e => .error (.unreadable path e.message)
      | .ok text =>
        match reader text with
        | .ok manifest => .ok (some (path, manifest))
        | .error reason => .error (.badManifest path reason)
    else firstOf d dir rest

def find (d : Disk) (dir : Path) : Except ParseError (Option (Path × Manifest)) :=
  firstOf d dir candidates

end Manifest

namespace Metadata

/-- The id under which a capsule is migrated; only its manifest is read for that. -/
def resolveIdIn (d : Disk) (dir : Path) : Except ParseError String :=
  (Manifest.find d dir).map fun found => resolveId dir (found.map (·.2))

end Metadata

/-! ### Capsules -/

namespace SourceFile

/-- Read files up to the first one that cannot be read. -/
def readAll (d : Disk) : List Path → Except ParseError (List SourceFile)
  | [] => .ok []
  | path :: paths =>
    match d.read path with
    | .error e => .error (.unreadable path e.message)
    | .ok content => (readAll d paths).map (⟨path, content⟩ :: ·)

end SourceFile

namespace ParsedCapsule

def ofDirectory (f : SourceFilter) (d : Disk) (dir : Path) : Except ParseError ParsedCapsule := do
  if !d.exists dir then .error (.pathNotFound dir)
  else if !d.isDirectory dir then .error (.notADirectory dir)
  else
    let paths ← f.sources d dir
    if paths.isEmpty then .error (.noSources (Identity.ofDirectory dir) dir)
    else
      let sources ← SourceFile.readAll d paths
      let manifest ← Manifest.find d dir
      .ok (ofSources dir sources (manifest.map (·.2)))

end ParsedCapsule
end ServiceCapsule
