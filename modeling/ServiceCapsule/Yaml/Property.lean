import ServiceCapsule.Yaml.Scalar

/-!
# Names in front of a value

A value may have an anchor and a tag in front of it, and directives in front of a document say what
the handles of tags stand for. What a tag names is a URI, a sequence of octets: a percent sign with
two hexadecimal digits is one octet, and any other character is the octet of its code.
-/

namespace ServiceCapsule
namespace Yaml

def isNameChar (c : Char) : Bool := c.isAlphanum || c == '_' || c == '-'

/-- The name of an anchor or of an alias, and a gap or a mark after it. -/
def anchorName (s : Spot) : Option (String × Spot) :=
  let name := s.rest.takeWhile isNameChar
  let s' := s.skip name.length
  let ended := isGap s'.peek ||
    s'.peek.any fun c => ['?', ':', ',', ']', '}', '%', '@', '\x60'].contains c
  if name.isEmpty || !ended then none else some (String.ofList name, s')

/-! ### URIs -/

abbrev Uri := List UInt8

namespace Uri

/-- Octets that are no text name nothing. -/
def text (u : Uri) : String := (String.fromUTF8? ⟨u.toArray⟩).getD ""

def isTagChar (c : Char) : Bool :=
  isNameChar c || [';', '/', '?', ':', '@', '&', '=', '+', '$', '.', '!', '~', '*', '\'', '(',
    ')'].contains c

/-- Characters that stand for themselves where no brackets can be around. -/
def isFullChar (c : Char) : Bool := isTagChar c || c == ',' || c == '[' || c == ']'

def octet? (s : Spot) : Option UInt8 := do
  if s.peek != some '%' then none
  return UInt8.ofNat (16 * (← Text.hexValue? (← s.peekAt 1)) + (← Text.hexValue? (← s.peekAt 2)))

/-- How many octets a character has after a first one. -/
def followers? (first : UInt8) : Option Nat :=
  if first < 0x80 then some 0
  else if first &&& 0xe0 == 0xc0 then some 1
  else if first &&& 0xf0 == 0xe0 then some 2
  else if first &&& 0xf8 == 0xf0 then some 3
  else none

def readFollowers : Nat → Spot → Option (Uri × Spot)
  | 0, s => some ([], s)
  | n + 1, s => do
    let octet ← octet? s
    if octet &&& 0xc0 != 0x80 then none
    let (more, s') ← readFollowers n (s.skip 3)
    return (octet :: more, s')

/-- The octets from here on, as far as a URI goes. -/
def readOctets (isChar : Char → Bool) : Nat → Spot → Option (Uri × Spot)
  | 0, _ => none
  | fuel + 1, s =>
    match s.peek with
    | none => some ([], s)
    | some c =>
      if c == '%' then do
        let first ← octet? s
        let (more, s') ← readFollowers (← followers? first) (s.skip 3)
        let (rest, s'') ← readOctets isChar fuel s'
        return (first :: more ++ rest, s'')
      else if isChar c then do
        let (rest, s') ← readOctets isChar fuel s.next
        return (UInt8.ofNat c.toNat :: rest, s')
      else some ([], s)

/-- A URI, which an octet of zero ends early. -/
def read (isChar : Char → Bool) (s : Spot) : Option (Uri × Spot) :=
  (readOctets isChar (s.rest.length + 1) s).map fun (u, s') => (u.takeWhile (· != 0), s')

end Uri

/-! ### Tags -/

/-- A tag as it is written. Without a handle its suffix is the whole name. -/
structure TagName where
  handle : String
  suffix : Uri
  deriving DecidableEq, Repr, Inhabited

namespace TagName

/-- The mark that says no more than that a value is no plain one. -/
def bare : TagName := ⟨"", "!".toUTF8.toList⟩

def readVerbatim (s : Spot) : Option (TagName × Spot) := do
  let (uri, s') ← Uri.read Uri.isFullChar (s.skip 2)
  if s'.index == (s.skip 2).index || s'.peek != some '>' then none
  return (⟨"", uri⟩, s'.next)

def readShort (s : Spot) : Option (TagName × Spot) := do
  let name := s.rest.drop 1 |>.takeWhile isNameChar
  let s' := s.skip (1 + name.length)
  if s'.peek == some '!' then
    let (suffix, s'') ← Uri.read Uri.isTagChar s'.next
    if s''.index == s'.next.index then none
    return (⟨String.ofList ('!' :: name ++ ['!']), suffix⟩, s'')
  else
    let (suffix, s') ← Uri.read Uri.isTagChar s.next
    return (if suffix.isEmpty then bare else ⟨"!", suffix⟩, s')

/-- The tag that starts at an exclamation mark. A gap follows it, or a comma in brackets. -/
def read (inFlow : Bool) (s : Spot) : Option (TagName × Spot) := do
  let (tag, s') ← if s.peekAt 1 == some '<' then readVerbatim s else readShort s
  if isGap s'.peek || (inFlow && s'.peek == some ',') then return (tag, s') else none

end TagName

/-! ### Directives -/

/-- A line in front of a document: the version of the format, or what a handle stands for. -/
inductive Directive where
  | version
  | handle (name : String) (start : Uri)
  deriving DecidableEq, Repr, Inhabited

namespace Directive

def skipSpaces (s : Spot) : Spot := s.skipWhile isSpace

/-- A part of a version: up to nine digits. -/
def readNumber (s : Spot) : Option (Nat × Spot) :=
  let digits := s.rest.takeWhile Char.isDigit
  if digits.isEmpty || 9 < digits.length then none
  else some (Text.digitsValue digits, s.skip digits.length)

def readVersion (s : Spot) : Option (Directive × Spot) := do
  let (major, s) ← readNumber s
  if s.peek != some '.' then none
  let (minor, s) ← readNumber s.next
  if major == 1 && (minor == 1 || minor == 2) then return (.version, s) else none

def readHandle (s : Spot) : Option (Directive × Spot) := do
  if s.peek != some '!' then none
  let name := s.rest.drop 1 |>.takeWhile isNameChar
  let s' := s.skip (1 + name.length)
  let (mark, s') ←
    if s'.peek == some '!' then pure ('!' :: name ++ ['!'], s'.next)
    else if name.isEmpty then pure (['!'], s') else none
  if !s'.atSpace then none
  let s' := skipSpaces s'
  let (start, s'') ← Uri.read Uri.isFullChar s'
  if s''.index == s'.index || !isGap s''.peek then none
  return (.handle (String.ofList mark) start, s'')

/-- The line that starts at a percent sign, which may end in a comment. -/
def read (s : Spot) : Option (Directive × Spot) := do
  let name := s.rest.drop 1 |>.takeWhile isNameChar
  let s' := s.skip (1 + name.length)
  if !isGap s'.peek then none
  let s' := skipSpaces s'
  let (directive, s') ←
    if name == "YAML".toList then readVersion s'
    else if name == "TAG".toList then readHandle s'
    else none
  let s' := skipSpaces s'
  let s' := if s'.peek == some '#' then s'.skipWhile (!isBreak ·) else s'
  if s'.peek.any (!isBreak ·) then none
  return (directive, s')

end Directive
end Yaml
end ServiceCapsule
