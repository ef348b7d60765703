import ServiceCapsule.Decimal.Dyadic

/-!
# JSON values and their text

The values that reports are written as and that package manifests are read from. The fields of an
object keep their order. Only the quote, the backslash and the controls below the space are
escaped. Floats are written with their shortest digits, always with a point or an exponent.
-/

namespace ServiceCapsule

/-! ### Values -/

inductive Json where
  | null
  | bool (b : Bool)
  | integer (n : Int)
  | real (x : Float)
  | text (s : String)
  | list (items : List Json)
  | object (fields : List (String × Json))
  deriving Inhabited

namespace Json

def nat (n : Nat) : Json := .integer n

def texts (items : List String) : Json := .list (items.map .text)

def ofOption {α : Type} (f : α → Json) : Option α → Json
  | some a => f a
  | none => .null

def field? : Json → String → Option Json
  | .object fields, name => fields.lookup name
  | _, _ => none

/-! ### Writing -/

def hexDigit (n : Nat) : Char := (Nat.digitChar n)

def escapedChar (c : Char) : List Char :=
  match c with
  | '"' => ['\\', '"']
  | '\\' => ['\\', '\\']
  | '\n' => ['\\', 'n']
  | '\r' => ['\\', 'r']
  | '\t' => ['\\', 't']
  | '\x08' => ['\\', 'b']
  | '\x0c' => ['\\', 'f']
  | c =>
    if c.toNat < 0x20 then
      ['\\', 'u', '0', '0', hexDigit (c.toNat / 16), hexDigit (c.toNat % 16)]
    else [c]

def writeText (s : String) : String :=
  String.ofList ('"' :: s.toList.flatMap escapedChar ++ ['"'])

/-- Positional notation from `0.00001` up to sixteen digits before the point. -/
def floatLayout : Decimal.Layout := ⟨-5, 16, "+"⟩

def writeFloat (x : Float) : String := (floatLayout.text? x).getD "null"

def indentation (depth : Nat) : String := String.ofList (List.replicate (2 * depth) ' ')

mutual

def pretty (depth : Nat) : Json → String
  | .null => "null"
  | .bool b => if b then "true" else "false"
  | .integer n => toString n
  | .real x => writeFloat x
  | .text s => writeText s
  | .list [] => "[]"
  | .list items => "[\n" ++ prettyItems (depth + 1) items ++ "\n" ++ indentation depth ++ "]"
  | .object [] => "\x7b\x7d"
  | .object fields =>
    "\x7b\n" ++ prettyFields (depth + 1) fields ++ "\n" ++ indentation depth ++ "\x7d"

def prettyItems (depth : Nat) : List Json → String
  | [] => ""
  | [item] => indentation depth ++ pretty depth item
  | item :: more => indentation depth ++ pretty depth item ++ ",\n" ++ prettyItems depth more

def prettyFields (depth : Nat) : List (String × Json) → String
  | [] => ""
  | [(name, value)] => indentation depth ++ writeText name ++ ": " ++ pretty depth value
  | (name, value) :: more =>
    indentation depth ++ writeText name ++ ": " ++ pretty depth value ++ ",\n" ++
      prettyFields depth more

end

mutual

def compact : Json → String
  | .null => "null"
  | .bool b => if b then "true" else "false"
  | .integer n => toString n
  | .real x => writeFloat x
  | .text s => writeText s
  | .list items => "[" ++ compactItems items ++ "]"
  | .object fields => "\x7b" ++ compactFields fields ++ "\x7d"

def compactItems : List Json → String
  | [] => ""
  | [item] => compact item
  | item :: more => compact item ++ "," ++ compactItems more

def compactFields : List (String × Json) → String
  | [] => ""
  | [(name, value)] => writeText name ++ ":" ++ compact value
  | (name, value) :: more => writeText name ++ ":" ++ compact value ++ "," ++ compactFields more

end

end Json
end ServiceCapsule
