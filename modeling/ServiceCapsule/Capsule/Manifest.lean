import ServiceCapsule.Capsule.Analysis
import ServiceCapsule.Files.Path
import ServiceCapsule.Text.Basic
import ServiceCapsule.Text.Casing

/-!
# Manifests and metadata

Where a capsule runs and what it is called. A manifest says some of it; the rest is inferred from
the name of its directory and from its sources: ids in lower case with hyphens between words, names
with capitals, categories by key words.
-/

namespace ServiceCapsule

/-! ### Platforms -/

inductive Platform where
  | node
  | web
  | universal
  deriving DecidableEq, Repr, Inhabited

namespace Platform

def name : Platform → String
  | node => "node"
  | web => "web"
  | universal => "universal"

def all : List Platform := [node, web, universal]

theorem mem_all (p : Platform) : p ∈ all := by cases p <;> simp [all]

/-- The platform that a manifest means by a word. -/
def ofName? (s : String) : Option Platform :=
  let word := Text.lowercase (Text.trim s)
  if ["node", "nodejs", "node.js", "server"].contains word then some node
  else if ["web", "browser", "dom"].contains word then some web
  else if ["universal", "isomorphic", "any"].contains word then some universal
  else none

def distinct (ps : List Platform) : List Platform := all.filter ps.contains

@[simp] theorem mem_distinct {p : Platform} {ps : List Platform} : p ∈ distinct ps ↔ p ∈ ps := by
  simp [distinct, mem_all]

end Platform

/-! ### Ids, names and categories -/

namespace Identity

/-- Lower-case letters and digits with a hyphen at each word boundary. The characters written so
far are kept in reverse; `afterLower` holds after a lower-case letter or a digit. -/
def hyphenate (written : List Char) (afterLower : Bool) : List Char → List Char
  | [] => written.reverse
  | c :: rest =>
    if c.isAlphanum then
      let written :=
        if c.isUpper && afterLower && written.head? != some '-' then '-' :: written else written
      hyphenate (c.toLower :: written) (c.isLower || c.isDigit) rest
    else
      let written :=
        if !written.isEmpty && written.head? != some '-' then '-' :: written else written
      hyphenate written false rest

/-- The id that a text stands for. -/
def kebab (s : String) : String :=
  match Text.dropAround (· == '-') (hyphenate [] false s.toList) with
  | [] => "capsule"
  | id => String.ofList id

def capitalized : List Char → List Char
  | [] => []
  | c :: rest => Text.upper c ++ rest

/-- The words between hyphens, underscores and blanks, each with a capital. -/
def title (id : String) : String :=
  let parts := Text.splitAtEach (fun c => c == '-' || c == '_' || Text.isBlank c) id.toList
  " ".intercalate ((parts.filter (!·.isEmpty)).map fun part => String.ofList (capitalized part))

/-- Key words and the categories that they stand for; the first one that fits decides. -/
def categoryWords : List (String × String) :=
  [("analytics", "analytics"), ("tracking", "analytics"), ("cache", "cache"),
   ("database", "database"), ("db", "database"), ("email", "email"), ("mail", "email"),
   ("logger", "logger"), ("log", "logger"), ("auth", "auth"), ("storage", "storage"),
   ("http", "network")]

/-- A key word fits as a whole part of an id; a long one also inside a part. -/
def fitsCategory (id word : String) : Bool :=
  (Text.splitChar '-' id).contains word ||
    (decide (3 < word.length) && Text.containsText id word)

def category (id : String) : String :=
  match categoryWords.find? (fun entry => fitsCategory id entry.1) with
  | some (_, category) => category
  | none => "general"

def ofDirectory (dir : Path) : String := kebab (dir.fileName?.getD "capsule")

end Identity

/-! ### Metadata -/

/-- What a capsule says about itself; all of it may be missing. -/
structure Manifest where
  id : Option String
  name : Option String
  category : Option String
  description : Option String
  version : Option String
  platforms : List String
  dependencies : List String
  deriving DecidableEq, Repr, Inhabited

def Manifest.empty : Manifest := ⟨none, none, none, none, none, [], []⟩

structure Metadata where
  id : String
  name : String
  category : String
  description : String
  version : String
  platforms : List Platform
  dependencies : List String
  deriving DecidableEq, Repr, Inhabited

namespace Metadata

def isMultiPlatform (m : Metadata) : Bool := decide (1 < m.platforms.length)

def builtins : List String :=
  ["fs", "path", "os", "child_process", "crypto", "http", "https", "net", "stream", "zlib",
   "cluster", "worker_threads", "readline", "dns", "tls", "util"]

def needsServer (i : Import) : Bool :=
  Text.startsWith i.source "node:" || builtins.contains i.package

/-- Platforms by what is imported and by the names of a browser. -/
def inferPlatforms (a : Analysis) (usesBrowser : Bool) : List Platform :=
  let found :=
    (if (a.imports.filter fun i => !i.isRelative).any needsServer then [Platform.node] else []) ++
      (if usesBrowser then [Platform.web] else [])
  if found.isEmpty then [.universal] else found

/-- The id that a capsule gives itself, or that of its directory. -/
def resolveId (dir : Path) (manifest : Option Manifest) : String :=
  match manifest.bind Manifest.id with
  | some id => Identity.kebab id
  | none => Identity.ofDirectory dir

/-- What the manifest says, and what is inferred where it says nothing. -/
def build (dir : Path) (manifest : Option Manifest) (a : Analysis) (usesBrowser : Bool) :
    Metadata :=
  let said := manifest.getD .empty
  let id := resolveId dir manifest
  let name := said.name.getD (Identity.title id)
  let platforms := Platform.distinct (said.platforms.filterMap Platform.ofName?)
  { id := id
    name := name
    category := said.category.getD (Identity.category id)
    description := said.description.getD (name ++ " capsule")
    version := said.version.getD "1.0.0"
    platforms := if platforms.isEmpty then inferPlatforms a usesBrowser else platforms
    dependencies :=
      if said.dependencies.isEmpty then
        a.externalPackages.filter fun package => !builtins.contains package
      else said.dependencies }

theorem id_build (dir : Path) (manifest : Option Manifest) (a : Analysis) (usesBrowser : Bool) :
    (build dir manifest a usesBrowser).id = resolveId dir manifest := rfl

end Metadata
end ServiceCapsule
