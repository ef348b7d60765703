import ServiceCapsule.Decimal.Dyadic
import ServiceCapsule.Text.Quoted
import ServiceCapsule.Yaml.Node
import ServiceCapsule.Yaml.Number

/-!
# Values of known types

What a value is read as is decided by what is expected: any scalar is a text, and only plain words
are truth values, numbers or nothing. The fields of a record are looked at in the order in which
they stand, so that the first fault is the one that is found.
-/

namespace ServiceCapsule
namespace Yaml

inductive Step where
  | field (name : String)
  | item (index : Nat)
  deriving DecidableEq, Repr

inductive Reason where
  | mismatch (found expected : String)
  /-- a text that is not what its tag says -/
  | unfit (text expected : String)
  | duplicateField (name : String)
  | missingField (name : String)
  deriving DecidableEq, Repr

def Reason.message : Reason → String
  | mismatch found expected => "invalid type: " ++ found ++ ", expected " ++ expected
  | unfit text expected =>
    "invalid value: string " ++ Text.quoted text ++ ", expected " ++ expected
  | duplicateField name => "duplicate field `" ++ name ++ "`"
  | missingField name => "missing field `" ++ name ++ "`"

inductive Fault where
  /-- the text is not one document -/
  | malformed
  | wrong (path : List Step) (reason : Reason) (mark : Mark)
  /-- a fault of a field that is told of the record around it -/
  | unplaced (reason : Reason)
  deriving DecidableEq, Repr

namespace Fault

def pathText (path : List Step) : String :=
  path.foldl (fun text step =>
    match step with
    | .field name => if text.isEmpty then name else text ++ "." ++ name
    | .item index => (if text.isEmpty then "." else text) ++ "[" ++ Nat.repr index ++ "]") ""

/-- What is wrong, and where; nothing more is said of a text that is not one document. -/
def message? : Fault → Option String
  | malformed => none
  | unplaced reason => some reason.message
  | wrong path reason mark =>
    some ((if path.isEmpty then "" else pathText path ++ ": ") ++ reason.message ++ mark.shown)

def within (step : Step) : Fault → Fault
  | malformed => malformed
  | wrong path reason mark => wrong (step :: path) reason mark
  | unplaced reason => unplaced reason

/-- Tell a fault of a record that starts at this place. -/
def placed (mark : Mark) : Fault → Fault
  | unplaced reason => wrong [] reason mark
  | fault => fault

end Fault

def decimalLayout : ServiceCapsule.Decimal.Layout := ⟨-400, 400, "+"⟩

def integerFound (n : Int) : String :=
  let text := "integer `" ++ toString n ++ "`"
  if Int.pow 2 64 ≤ n then text ++ " as u128"
  else if n < -(Int.pow 2 63) then text ++ " as i128"
  else text

def floatFound (x : Float) : String :=
  let text := (decimalLayout.text? x).getD
    (if x.isNaN then "NaN" else if x < 0.0 then "-inf" else "inf")
  "floating point `" ++ text ++ "`"

/-- What a plain scalar was found to be. -/
def wordFound (s : String) : String :=
  if s.isEmpty || isNullWord s then "unit value"
  else if let some b := boolWord? s then "boolean `" ++ toString b ++ "`"
  else if let some n := (integer? s).filter fitsWide then integerFound n
  else if let some x := float? s then floatFound x
  else "string " ++ Text.quoted s

/-! ### Tags of the standard -/

def nullTag : String := "tag:yaml.org,2002:null"

def boolTag : String := "tag:yaml.org,2002:bool"

def intTag : String := "tag:yaml.org,2002:int"

def floatTag : String := "tag:yaml.org,2002:float"

/-- A scalar with a tag that is not what is expected: what it was found to be, if it is what its tag
says. -/
def tagged (tag : String) (style : Style) (text expected : String) : Reason :=
  let orUnfit (found : Option String) (kind : String) : Reason :=
    match found with
    | some f => .mismatch f expected
    | none => .unfit text kind
  if tag == nullTag then orUnfit (if isNullWord text then some "unit value" else none) "null"
  else if tag == boolTag then
    orUnfit ((boolWord? text).map fun b => "boolean `" ++ toString b ++ "`") "a boolean"
  else if tag == intTag then
    orUnfit (((integer? text).filter fitsWide).map integerFound) "an integer"
  else if tag == floatTag then orUnfit ((float? text).map floatFound) "a float"
  else if style == .plain && tag.startsWith "!" then .mismatch (wordFound text) expected
  else .mismatch ("string " ++ Text.quoted text) expected

namespace Node

def complaint (n : Node) (expected : String) : Reason :=
  match n with
  | scalar _ (some tag) style text => tagged tag style text expected
  | scalar _ none .plain text => .mismatch (wordFound text) expected
  | scalar _ none _ text => .mismatch ("string " ++ Text.quoted text) expected
  | sequence _ _ => .mismatch "sequence" expected
  | mapping _ _ => .mismatch "map" expected
  | broken => .mismatch "nothing" expected

def mark : Node → Mark
  | scalar mark _ _ _ | sequence mark _ | mapping mark _ => mark
  | broken => default

def mismatch {α : Type} (n : Node) (expected : String) : Except Fault α :=
  match n with
  | broken => .error .malformed
  | _ => .error (.wrong [] (n.complaint expected) n.mark)

def text (n : Node) : Except Fault String :=
  match n with
  | scalar _ _ _ text => .ok text
  | _ => n.mismatch "a string"

/-- A text, or nothing where an empty plain scalar or a word for nothing stands. Where a tag says
that nothing is there, there has to be such a word. -/
def optionalText (n : Node) : Except Fault (Option String) :=
  match n with
  | scalar _ none .plain text =>
    if text.isEmpty || isNullWord text then .ok none else .ok (some text)
  | scalar _ (some tag) .plain text =>
    if tag != nullTag then .ok (some text)
    else if isNullWord text then .ok none
    else .error (.unplaced (.unfit text "null"))
  | _ => n.text.map some

/-- A scalar that is read by a function on words. It is a plain one, or a literal block with the tag
of what it is read as. -/
def word {α : Type} (n : Node) (kind : String) (read : String → Option α) (expected : String) :
    Except Fault α :=
  match n with
  | scalar _ tag style text =>
    if style == .plain || (style == .literal && tag == some kind) then
      match read text with
      | some a => .ok a
      | none => n.mismatch expected
    else n.mismatch expected
  | _ => n.mismatch expected

def bool (n : Node) : Except Fault Bool := n.word boolTag boolWord? "a boolean"

def natural (n : Node) : Except Fault Nat := n.word intTag natural? "a number"

def items (n : Node) : Except Fault (List Node) :=
  match n with
  | sequence _ items => .ok items
  | scalar _ _ .plain text => if text.isEmpty then .ok [] else n.mismatch "a sequence"
  | _ => n.mismatch "a sequence"

def each {α : Type} (read : Node → Except Fault α) (index : Nat) :
    List Node → Except Fault (List α)
  | [] => .ok []
  | n :: rest =>
    match read n with
    | .error e => .error (e.within (.item index))
    | .ok a => (each read (index + 1) rest).map (a :: ·)

def texts (n : Node) : Except Fault (List String) := do each text 0 (← n.items)

/-- The name in a list of names: a scalar, or the tag of an empty one. -/
def name? : Node → Option String
  | scalar _ none _ text => some text
  | scalar _ (some tag) style text =>
    match tag.toList with
    | '!' :: name =>
      if style == .plain && (text.isEmpty || isNullWord text) then some (String.ofList name)
      else none
    | _ => some text
  | _ => none

def named {α : Type} (ofName? : String → Option α) (n : Node) : Except Fault α :=
  match n.name?.bind ofName? with
  | some a => .ok a
  | none => n.mismatch "a name"

end Node

/-- How a record is read: what its fields have to be, and what is made of them. -/
structure Record (α : Type) where
  checks : List (String × (Node → Except Fault Unit))
  build : Mark → List (String × Node) → Except Fault α

namespace Record

instance : Applicative Record where
  pure a := ⟨[], fun _ _ => .ok a⟩
  seq f x := ⟨f.checks ++ (x ()).checks, fun mark fields =>
    match f.build mark fields with
    | .error e => .error e
    | .ok g => ((x ()).build mark fields).map g⟩

def field {α : Type} (name : String) (read : Node → Except Fault α) (default : α) : Record α where
  checks := [(name, fun n => (read n).map fun _ => ())]
  build _ fields :=
    match fields.lookup name with
    | some n => (read n).mapError (Fault.within (.field name))
    | none => .ok default

def requiredField {α : Type} (name : String) (read : Node → Except Fault α) : Record α where
  checks := [(name, fun n => (read n).map fun _ => ())]
  build mark fields :=
    match fields.lookup name with
    | some n => (read n).mapError (Fault.within (.field name))
    | none => .error (.wrong [] (.missingField name) mark)

/-- Look at fields in their order. A field with a meaning may not be there twice; one without any
may be anything. -/
def look (checks : List (String × (Node → Except Fault Unit))) (mark : Mark)
    (seen : List String) : List (Node × Node) → Except Fault (List (String × Node))
  | [] => .ok []
  | (key, value) :: rest =>
    match key with
    | .scalar _ _ _ name =>
      match checks.lookup name with
      | none => look checks mark seen rest
      | some check =>
        if seen.contains name then .error (.wrong [] (.duplicateField name) mark)
        else match check value with
          | .error e => .error (e.within (.field name))
          | .ok () => (look checks mark (name :: seen) rest).map ((name, value) :: ·)
    | _ => key.mismatch "field identifier"

/-- Read a record from a mapping. An empty plain scalar is one without fields. -/
def read {α : Type} (r : Record α) (kind : String) (n : Node) : Except Fault α :=
  match n with
  | .mapping mark entries =>
    ((look r.checks mark [] entries).bind (r.build mark)).mapError (Fault.placed mark)
  | .scalar mark _ .plain text =>
    if text.isEmpty then r.build mark [] else n.mismatch kind
  | _ => n.mismatch kind

end Record

/-- Read the value of a text that is one document. -/
def readText {α : Type} (read : Node → Except Fault α) (text : String) : Except Fault α :=
  let d := parse text
  match read d.value with
  | .error e => .error e
  | .ok a => if d.isComplete then .ok a else .error .malformed

end Yaml
end ServiceCapsule
