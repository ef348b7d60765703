import ServiceCapsule.Yaml.Token

/-!
# Values of a YAML text

The one value that a text holds: scalars, sequences and mappings, with the values that an alias
repeats put in its place. A text that holds nothing is an empty plain scalar. A text that breaks
off holds what was there so far.
-/

namespace ServiceCapsule
namespace Yaml

inductive Node where
  | scalar (mark : Mark) (tag : Option String) (style : Style) (text : String)
  | sequence (mark : Mark) (items : List Node)
  | mapping (mark : Mark) (entries : List (Node × Node))
  /-- nothing is there, since the text breaks off or goes round in a circle -/
  | broken
  deriving Inhabited

namespace Node

def empty : Node := .scalar default none .plain ""

end Node

/-- Tokens that are left, anchors with their values, and handles with what directives let them stand
for. An anchor has no value before its end. -/
structure Reading where
  tokens : List Placed
  anchors : List (String × Option Node)
  handles : List (String × Uri)
  /-- whether anything was refused -/
  refused : Bool
  deriving Inhabited

abbrev NodeReader (α : Type) := StateM Reading α

namespace NodeReader

def peek : NodeReader Token := do return ((← get).tokens.headD ⟨.broken, default⟩).token

/-- Where the next token starts. -/
def here : NodeReader Mark := do return ((← get).tokens.headD ⟨.broken, default⟩).mark

def advance : NodeReader Unit := modify fun r => { r with tokens := r.tokens.drop 1 }

def refuse {α : Type} (a : α) : NodeReader α := do
  modify fun r => { r with tokens := [], refused := true }
  return a

def nextIn (ts : List Token) : NodeReader Bool := do return ts.contains (← peek)

def setAnchor (name : String) (value : Option Node) : NodeReader Unit :=
  modify fun r => { r with anchors := (name, value) :: r.anchors }

/-- What handles stand for unless a directive says otherwise. -/
def standardHandles : List (String × Uri) :=
  [("!", "!".toUTF8.toList), ("!!", "tag:yaml.org,2002:".toUTF8.toList)]

/-- The full name of a tag; its handle must be known. -/
def tagText (tag : TagName) : NodeReader String := do
  if tag.handle.isEmpty then return Uri.text tag.suffix
  match ((← get).handles ++ standardHandles).lookup tag.handle with
  | some start => return Uri.text (start ++ tag.suffix)
  | none => refuse ""

/-- An anchor and a tag in front of a value, in either order. -/
def properties : NodeReader (Option String × Option String) := do
  match ← peek with
  | .anchor name =>
    advance
    match ← peek with
    | .tag tag =>
      advance
      return (some name, some (← tagText tag))
    | _ => return (some name, none)
  | .tag tag =>
    advance
    let tag ← tagText tag
    match ← peek with
    | .anchor name =>
      advance
      return (some name, some tag)
    | _ => return (none, some tag)
  | _ => return (none, none)

mutual

/-- A value. In a block, a block may start here; in a mapping also a sequence that is indented no
further. -/
def node (inBlock inMapping : Bool) : Nat → NodeReader Node
  | 0 => refuse .broken
  | fuel + 1 => do
    match ← peek with
    | .alias name =>
      advance
      match (← get).anchors.lookup name with
      | some value => return value.getD .broken
      | none => refuse .broken
    | _ =>
      let mark ← here
      let (anchor, tag) ← properties
      if let some name := anchor then setAnchor name none
      let value ← content inBlock inMapping (anchor.isSome || tag.isSome) mark tag fuel
      if let some name := anchor then setAnchor name (some value)
      return value

def content (inBlock inMapping mayBeEmpty : Bool) (mark : Mark) (tag : Option String) :
    Nat → NodeReader Node
  | 0 => refuse .broken
  | fuel + 1 => do
    match ← peek with
    | .blockEntry =>
      if inMapping then return .sequence mark (← plainEntries fuel)
      else if mayBeEmpty then return .scalar mark tag .plain ""
      else refuse .broken
    | .scalar style text =>
      advance
      return .scalar mark (tag.filter (· != "!")) style text
    | .flowSequenceStart =>
      advance
      return .sequence mark (← flowItems true fuel)
    | .flowMappingStart =>
      advance
      return .mapping mark (← flowPairs true fuel)
    | .blockSequenceStart =>
      if inBlock then
        advance
        return .sequence mark (← blockEntries fuel)
      else if mayBeEmpty then return .scalar mark tag .plain ""
      else refuse .broken
    | .blockMappingStart =>
      if inBlock then
        advance
        return .mapping mark (← blockPairs fuel)
      else if mayBeEmpty then return .scalar mark tag .plain ""
      else refuse .broken
    | .broken => refuse .broken
    | _ => if mayBeEmpty then return .scalar mark tag .plain "" else refuse .broken

def valueUnless (ts : List Token) (inBlock inMapping : Bool) : Nat → NodeReader Node
  | 0 => refuse .broken
  | fuel + 1 => do
    if ← nextIn ts then return .empty else node inBlock inMapping fuel

def blockEntries : Nat → NodeReader (List Node)
  | 0 => refuse []
  | fuel + 1 => do
    match ← peek with
    | .blockEntry =>
      advance
      let item ← valueUnless [.blockEntry, .blockEnd] true false fuel
      return item :: (← blockEntries fuel)
    | .blockEnd =>
      advance
      return []
    | _ => refuse []

def plainEntries : Nat → NodeReader (List Node)
  | 0 => refuse []
  | fuel + 1 => do
    match ← peek with
    | .blockEntry =>
      advance
      let item ← valueUnless [.blockEntry, .key, .value, .blockEnd] true false fuel
      return item :: (← plainEntries fuel)
    | _ => return []

def blockPairs : Nat → NodeReader (List (Node × Node))
  | 0 => refuse []
  | fuel + 1 => do
    match ← peek with
    | .key =>
      advance
      let key ← valueUnless [.key, .value, .blockEnd] true true fuel
      let value ←
        if ← nextIn [.value] then do
          advance
          valueUnless [.key, .value, .blockEnd] true true fuel
        else pure .empty
      return (key, value) :: (← blockPairs fuel)
    | .blockEnd =>
      advance
      return []
    | _ => refuse []

/-- What follows a key in brackets. -/
def flowValue (ends : List Token) : Nat → NodeReader Node
  | 0 => refuse .broken
  | fuel + 1 => do
    if ← nextIn [.value] then
      advance
      valueUnless ends false false fuel
    else return .empty

def flowItems (first : Bool) : Nat → NodeReader (List Node)
  | 0 => refuse []
  | fuel + 1 => do
    if ← nextIn [.flowSequenceEnd] then
      advance
      return []
    if !first then
      if ← nextIn [.flowEntry] then advance else refuse ()
    let mark ← here
    match ← peek with
    | .flowSequenceEnd =>
      advance
      return []
    | .key =>
      advance
      let ends : List Token := [.flowEntry, .flowSequenceEnd]
      let key ←
        if ← nextIn (.value :: ends) then do
          advance
          pure .empty
        else node false false fuel
      let value ← flowValue ends fuel
      return .mapping mark [(key, value)] :: (← flowItems false fuel)
    | .broken => refuse []
    | _ =>
      let item ← node false false fuel
      return item :: (← flowItems false fuel)

def flowPairs (first : Bool) : Nat → NodeReader (List (Node × Node))
  | 0 => refuse []
  | fuel + 1 => do
    if ← nextIn [.flowMappingEnd] then
      advance
      return []
    if !first then
      if ← nextIn [.flowEntry] then advance else refuse ()
    match ← peek with
    | .flowMappingEnd =>
      advance
      return []
    | .key =>
      advance
      let ends : List Token := [.flowEntry, .flowMappingEnd]
      let key ← valueUnless (.value :: ends) false false fuel
      let value ← flowValue ends fuel
      return (key, value) :: (← flowPairs false fuel)
    | .broken => refuse []
    | _ =>
      let key ← node false false fuel
      return (key, .empty) :: (← flowPairs false fuel)

end

/-- Directives in front of a document. Neither the version nor what a handle stands for is said
twice. -/
def directives (versioned : Bool) : Nat → NodeReader Unit
  | 0 => refuse ()
  | fuel + 1 => do
    match ← peek with
    | .directive .version =>
      advance
      if versioned then refuse () else directives true fuel
    | .directive (.handle name start) =>
      advance
      if ((← get).handles.lookup name).isSome then refuse ()
      else
        modify fun r => { r with handles := (name, start) :: r.handles }
        directives versioned fuel
    | _ => return ()

def documentStart (fuel : Nat) : NodeReader Bool := do
  let before := (← get).tokens.length
  directives false fuel
  let directed := decide ((← get).tokens.length < before)
  if ← nextIn [.documentStart] then
    advance
    return true
  else if directed then refuse false
  else return false

def skipEnds : Nat → NodeReader Unit
  | 0 => refuse ()
  | fuel + 1 => do
    if ← nextIn [.documentEnd] then
      advance
      skipEnds fuel
    else return ()

/-- Whether a document that is announced is empty if this comes next. -/
def endsDocument : Token → Bool
  | .directive _ | .documentStart | .documentEnd | .streamEnd => true
  | _ => false

def document (fuel : Nat) : NodeReader Node := do
  if ← nextIn [.streamEnd] then return .empty
  let explicit ← documentStart fuel
  let value ←
    if explicit && endsDocument (← peek) then pure .empty else node true false fuel
  skipEnds fuel
  if ← nextIn [.streamEnd] then return value else refuse value

end NodeReader

/-- What a text holds, and whether it is one document to its end. -/
structure Document where
  value : Node
  isComplete : Bool
  deriving Inhabited

/-- Read a text as far as it goes. -/
def parse (text : String) : Document :=
  let ts := tokens text
  let (value, r) := (NodeReader.document (4 * ts.length + 8)).run ⟨ts, [], [], false⟩
  ⟨value, !r.refused⟩

end Yaml
end ServiceCapsule
