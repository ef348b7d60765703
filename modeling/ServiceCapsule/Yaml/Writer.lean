import ServiceCapsule.Text.Basic
import ServiceCapsule.Text.Lines
import ServiceCapsule.Yaml.Number

/-!
# Writing YAML

Records are written as blocks, one field a line. A text is written plain where it then still reads
as that text, between single quotes where it would read as something else, as a block where it has
several lines, and between double quotes where nothing else keeps its characters.
-/

namespace ServiceCapsule
namespace Yaml

/-! ### What the characters of a text allow -/

def isPrintable (c : Char) : Bool :=
  let n := c.toNat
  n == 0x0a || (0x20 ≤ n && n ≤ 0x7e) || (0xa0 ≤ n && n < 0xfffe && n != 0xfeff) ||
    0x10000 ≤ n

/-- Characters that mean something else at the start of a plain scalar. -/
def startMarks : List Char :=
  ['#', ',', '[', ']', '\x7b', '\x7d', '&', '*', '!', '|', '>', '\'', '"', '%', '@', '\x60']

/-- Whether a mark follows the first character of a plain scalar. -/
def hasInnerMark : List Char → Bool
  | a :: b :: rest =>
    (b == ':' && isGap rest.head?) || (b == '#' && isGap (some a)) || hasInnerMark (b :: rest)
  | _ => false

def hasMark (cs : List Char) : Bool :=
  match cs with
  | [] => false
  | c :: rest =>
    startMarks.contains c || ((c == '?' || c == ':' || c == '-') && isGap rest.head?) ||
      cs.take 3 == ['-', '-', '-'] || cs.take 3 == ['.', '.', '.'] || hasInnerMark cs

def hasPair (p q : Char → Bool) : List Char → Bool
  | a :: b :: rest => (p a && q b) || hasPair p q (b :: rest)
  | _ => false

inductive Form where
  | plain
  | single
  | double
  | block
  deriving DecidableEq, Repr

/-- Whether only escapes keep the text. -/
def needsEscapes (cs : List Char) : Bool :=
  hasPair (· == ' ') isBreak cs || cs.any (!isPrintable ·)

def formOf (s : String) : Form :=
  let cs := s.toList
  if needsEscapes cs then .double
  else if cs.contains '\n' then
    if cs.getLast? == some ' ' then .double else .block
  else if readsOtherwise s || cs.head? == some ' ' || cs.getLast? == some ' ' || cs.any isBreak ||
      hasMark cs then
    if hasPair isBreak (· == ' ') cs then .double else .single
  else .plain

/-! ### Scalars -/

def indentation (n : Nat) : List Char := List.replicate n ' '

def hexPadded (width n : Nat) : List Char :=
  let digits := (Nat.toDigits 16 n).map Char.toUpper
  List.replicate (width - digits.length) '0' ++ digits

def escapedChar (c : Char) : List Char :=
  let n := c.toNat
  match c with
  | '"' => ['\\', '"']
  | '\\' => ['\\', '\\']
  | '\n' => ['\\', 'n']
  | '\t' => ['\\', 't']
  | '\r' => ['\\', 'r']
  | '\x00' => ['\\', '0']
  | '\x07' => ['\\', 'a']
  | '\x08' => ['\\', 'b']
  | '\x0b' => ['\\', 'v']
  | '\x0c' => ['\\', 'f']
  | '\x1b' => ['\\', 'e']
  | '\u0085' => ['\\', 'N']
  | '\u2028' => ['\\', 'L']
  | '\u2029' => ['\\', 'P']
  | _ =>
    if isPrintable c then [c]
    else if n ≤ 0xff then '\\' :: 'x' :: hexPadded 2 n
    else if n ≤ 0xffff then '\\' :: 'u' :: hexPadded 4 n
    else '\\' :: 'U' :: hexPadded 8 n

/-- A text between single quotes; after a break the line is indented. -/
def singleChars (indent : Nat) (afterBreak : Bool) : List Char → List Char
  | [] => if afterBreak then indentation indent else []
  | c :: rest =>
    if isBreak c then c :: singleChars indent true rest
    else (if afterBreak then indentation indent else []) ++
      (if c == '\'' then ['\'', '\''] else [c]) ++ singleChars indent false rest

def blockChars (indent : Nat) (afterBreak : Bool) : List Char → List Char
  | [] => []
  | c :: rest =>
    if isBreak c then c :: blockChars indent true rest
    else (if afterBreak then indentation indent else []) ++ c :: blockChars indent false rest

/-- How many breaks at its end a block keeps: none, one, or all of them. -/
def keepMark (cs : List Char) : List Char :=
  match cs.reverse with
  | last :: before =>
    if !isBreak last then ['-']
    else match before with
      | c :: _ => if isBreak c then ['+'] else []
      | [] => ['+']
  | [] => ['-']

/-- The first line of a block: marks for its indentation, if it does not show, and its end. -/
def blockHead (cs : List Char) : List Char :=
  '|' :: (if cs.head?.any (fun c => c == ' ' || isBreak c) then ['2'] else []) ++ keepMark cs

def scalar (indent : Nat) (s : String) : String :=
  let cs := s.toList
  String.ofList (match formOf s with
    | .plain => cs ++ ['\n']
    | .single => '\'' :: singleChars indent false cs ++ ['\'', '\n']
    | .double => '"' :: cs.flatMap escapedChar ++ ['"', '\n']
    | .block =>
      blockHead cs ++ '\n' :: blockChars indent true cs ++
        (if cs.getLast?.any isBreak then [] else ['\n']))

/-! ### Records -/

/-- What a field is written as. -/
inductive Value where
  /-- a word that reads as itself -/
  | word (s : String)
  | text (s : String)
  | texts (items : List String)
  | record (fields : List (String × Value))

namespace Value

def ofBool (b : Bool) : Value := word (if b then "true" else "false")

def ofNat (n : Nat) : Value := word (Nat.repr n)

def item (indent : Nat) (s : String) : String :=
  String.ofList (indentation indent) ++ "- " ++ scalar (indent + 2) s

mutual

/-- A value after its name and a colon. -/
def written (indent : Nat) : Value → String
  | word s => " " ++ s ++ "\n"
  | text s => " " ++ scalar (indent + 2) s
  | texts [] => " []\n"
  | texts items => "\n" ++ String.join (items.map (item indent))
  | record [] => " \x7b\x7d\n"
  | record fields => "\n" ++ writtenFields (indent + 2) fields

def writtenFields (indent : Nat) : List (String × Value) → String
  | [] => ""
  | (name, value) :: rest =>
    String.ofList (indentation indent) ++ name ++ ":" ++ written indent value ++
      writtenFields indent rest

end

end Value

def document (fields : List (String × Value)) : String := Value.writtenFields 0 fields

end Yaml
end ServiceCapsule
