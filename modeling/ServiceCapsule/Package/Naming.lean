import ServiceCapsule.Text.Lines

/-!
# Names in generated code

Identifiers made of the words of an id, the name of the package, and text literals. Words are made
of ASCII letters and digits; a new one starts after any other character and at a capital that
follows a lower-case letter or a digit.
-/

namespace ServiceCapsule
namespace Naming

/-- The words of a text. The characters of the current word are kept in reverse; `afterLower` holds
after a lower-case letter or a digit. -/
def wordsFrom (current : List Char) (afterLower : Bool) : List Char → List (List Char)
  | [] => if current.isEmpty then [] else [current.reverse]
  | c :: rest =>
    if !c.isAlphanum then
      if current.isEmpty then wordsFrom [] false rest
      else current.reverse :: wordsFrom [] false rest
    else if c.isUpper && afterLower && !current.isEmpty then
      current.reverse :: wordsFrom [c] (c.isLower || c.isDigit) rest
    else wordsFrom (c :: current) (c.isLower || c.isDigit) rest

def words (s : String) : List (List Char) := wordsFrom [] false s.toList

def capitalize : List Char → List Char
  | [] => []
  | c :: rest => c.toUpper :: rest.map Char.toLower

def pascalChars (s : String) : List Char := (words s).flatMap capitalize

def pascal (s : String) : String := String.ofList (pascalChars s)

/-- Words with capitals but for the very first letter. -/
def camel (s : String) : String :=
  match pascalChars s with
  | [] => ""
  | c :: rest => String.ofList (c.toLower :: rest)

/-- Words in capitals with underscores between them. -/
def constant (s : String) : String :=
  "_".intercalate ((words s).map fun word => String.ofList (word.map Char.toUpper))

/-- What classes of a capsule are named after; it starts with no digit. -/
def className (id : String) : String :=
  match pascalChars id with
  | [] => "Capsule"
  | c :: rest =>
    if c.isDigit then String.ofList ("Capsule".toList ++ c :: rest) else String.ofList (c :: rest)

def packageName (id : String) : String := "@capsules/" ++ id

def startsIdentifier (c : Char) : Bool := c.isAlpha || c == '_' || c == '$'

def continuesIdentifier (c : Char) : Bool := c.isAlphanum || c == '_' || c == '$'

/-- Whether a text is an identifier of ASCII characters. -/
def isIdentifier (s : String) : Bool :=
  match s.toList with
  | [] => false
  | c :: rest => startsIdentifier c && rest.all continuesIdentifier

/-- The pieces of a text that could be identifiers. -/
def identifiers (s : String) : List String :=
  let pieces := Text.splitAtEach (fun c => !continuesIdentifier c) s.toList
  (pieces.filter (!·.isEmpty)).map String.ofList

/-- How a character is written between single quotes; carriage returns are left out. -/
def quotedChar : Char → List Char
  | '\\' => ['\\', '\\']
  | '\'' => ['\\', '\'']
  | '\n' => ['\\', 'n']
  | '\r' => []
  | c => [c]

/-- A text literal. -/
def quote (s : String) : String :=
  String.ofList ('\'' :: s.toList.flatMap quotedChar ++ ['\''])

def quoteAll (items : List String) : String := ", ".intercalate (items.map quote)

end Naming
end ServiceCapsule
