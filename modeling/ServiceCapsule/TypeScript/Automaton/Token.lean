import ServiceCapsule.TypeScript.Lexeme
import ServiceCapsule.TypeScript.Tree

/-!
# Tokens of the grammar

The tokens are numbered in the order of a list. A token has a shape, which says what its text
looks like; some tokens have no shape of their own and follow from what is around them.
-/

namespace ServiceCapsule
namespace TypeScript

inductive Shape where
  | finish
  | identifier
  | keyword (text : String)
  | mark (text : String)
  | hashBang
  | doubleText
  | singleText
  /-- plain characters of a quoted attribute of markup -/
  | doubleMarkupText
  | singleMarkupText
  | characterReference
  /-- a name with dashes -/
  | dashedName
  | escape
  | comment
  | patternEnd
  | pattern
  | patternFlags
  | number
  | privateName
  /-- the end of a statement that no mark shows -/
  | lineEnd
  /-- plain characters of a template -/
  | templateText
  /-- the question mark of a condition -/
  | conditionMark
  | markupComment
  /-- text between the tags of markup -/
  | markupText
  /-- the end of a function without a body -/
  | signatureEnd
  deriving DecidableEq, Repr, Inhabited

namespace Shape

/-- Length of a run of plain characters up to a quote, a backslash or the end of the line. -/
def fragmentLength (quote : Char) (cs : List Char) : Nat :=
  (cs.takeWhile fun c =>
    !(c == quote || c == '\\' || c == '\r' || c == '\n' || isZero c)).length

/-- Length of a run of plain characters up to a quote; an ampersand is plain unless a reference
may start with it. -/
def markupTextLength (quote : Char) : List Char → Nat
  | '&' :: c :: rest =>
    if c == '#' || c.isAlpha || isZero c then 0 else 2 + markupTextLength quote rest
  | c :: rest =>
    if c == quote || c == '&' || isZero c then 0 else 1 + markupTextLength quote rest
  | [] => 0

def referenceLength (cs : List Char) : Nat :=
  let upTo (most before : Nat) (p : Char → Bool) (rest : List Char) : Nat :=
    let n := (rest.takeWhile p).length
    if 0 < n && n ≤ most && (rest.drop n).head? == some ';' then before + n + 1 else 0
  match cs with
  | '&' :: '#' :: x :: rest =>
    if x == 'x' || x == 'X' then upTo 6 3 isHex rest else upTo 5 2 Char.isDigit (x :: rest)
  | '&' :: rest => upTo 30 1 Char.isAlpha rest
  | _ => 0

def dashedLength (cs : List Char) : Nat :=
  match cs with
  | c :: rest =>
    if c.isAlpha || c == '_' || c == '$' then
      let isPart (c : Char) : Bool := c.isAlphanum || c == '_' || c == '$'
      let n := (rest.takeWhile isPart).length
      match rest.drop n with
      | '-' :: rest => 2 + n + (rest.takeWhile fun c => isPart c || c == '-').length
      | _ => 0
    else 0
  | [] => 0

def classLength? : List Char → Option Nat
  | [] => none
  | '\n' :: _ => none
  | ']' :: _ => some 1
  | '\\' :: '\n' :: _ => none
  | '\\' :: c :: rest => if isZero c then none else (classLength? rest).map (· + 2)
  | c :: rest => if isZero c then none else (classLength? rest).map (· + 1)

/-- Length of the body of a regular expression, up to its closing slash or to what cannot be in
it. -/
def patternLength : Nat → List Char → Nat
  | 0, _ => 0
  | fuel + 1, cs =>
    match cs with
    | [] => 0
    | '/' :: _ => 0
    | '\n' :: _ => 0
    | '[' :: rest =>
      match classLength? rest with
      | some n => 1 + n + patternLength fuel (rest.drop n)
      | none => 0
    | '\\' :: c :: rest =>
      if c == '\n' || isZero c then 0 else 2 + patternLength fuel rest
    | ['\\'] => 0
    | c :: rest => if isZero c then 0 else 1 + patternLength fuel rest

def length (shape : Shape) (cs : List Char) : Nat :=
  match shape with
  | identifier => wordLength cs
  | mark text => if text.toList.isPrefixOf cs then text.length else 0
  | hashBang =>
    match cs with
    | '#' :: '!' :: rest => 2 + (rest.takeWhile fun c => c != '\n' && !isZero c).length
    | _ => 0
  | doubleText => fragmentLength '"' cs
  | singleText => fragmentLength '\'' cs
  | doubleMarkupText => markupTextLength '"' cs
  | singleMarkupText => markupTextLength '\'' cs
  | characterReference => referenceLength cs
  | dashedName => dashedLength cs
  | escape =>
    match cs with
    | '\\' :: rest => ((escapeLength? rest).map (· + 1)).getD 0
    | _ => 0
  | comment => (commentLength? cs).getD 0
  | patternEnd => if cs.head? == some '/' then 1 else 0
  | pattern => patternLength cs.length cs
  | patternFlags => (cs.takeWhile fun c => 'a' ≤ c && c ≤ 'z').length
  | number => numberLength cs
  | privateName =>
    match cs with
    | '#' :: rest => if wordLength rest == 0 then 0 else 1 + wordLength rest
    | _ => 0
  | finish | keyword _ | lineEnd | templateText | conditionMark | markupComment | markupText
  | signatureEnd => 0

/-- Blanks may not stand in front of these. -/
def isImmediate : Shape → Bool
  | doubleText | singleText | doubleMarkupText | singleMarkupText | escape | patternEnd | pattern
  | patternFlags => true
  | _ => false

/-- Of two shapes that fit, the one that comes first by this is taken, whatever the lengths. -/
def precedence : Shape → Int
  | doubleText | singleText | doubleMarkupText | singleMarkupText | patternEnd => 1
  | pattern => -1
  | _ => 0

/-- Of two shapes that fit and have one length, the closer one is taken. -/
def closeness : Shape → Nat
  | mark _ => 2
  | patternEnd => 3
  | doubleText | singleText | doubleMarkupText | singleMarkupText | escape | pattern
  | patternFlags => 1
  | _ => 0

def isKeyword : Shape → Bool
  | keyword _ => true
  | _ => false

/-- What a token of the shape is in a tree; nothing for what does not show. -/
def label? : Shape → Option Label
  | identifier => some (.kind .identifier)
  | keyword text =>
    match text with
    | "this" => some (.kind .this)
    | "super" => some (.kind .super)
    | "true" => some (.kind .true)
    | "false" => some (.kind .false)
    | "null" => some (.kind .null)
    | "undefined" => some (.kind .undefined)
    | _ => some (.token text)
  | mark text => some (.token text)
  | hashBang => some (.kind .hashBang)
  | doubleText | singleText | doubleMarkupText | singleMarkupText | templateText =>
    some (.kind .textFragment)
  | characterReference => some (.kind .characterReference)
  | dashedName => some (.kind .identifier)
  | markupText => some (.kind .markupText)
  | escape => some (.kind .escapeSequence)
  | comment | markupComment => some (.kind .comment)
  | patternEnd => some (.token "/")
  | pattern => some (.kind .regexPattern)
  | patternFlags => some (.kind .regexFlags)
  | number => some (.kind .number)
  | privateName => some (.kind .privatePropertyIdentifier)
  | conditionMark => some (.token "?")
  | finish | lineEnd | signatureEnd => none

def missingName : Shape → String
  | identifier => "identifier"
  | keyword text | mark text => text
  | hashBang => "hash_bang_line"
  | doubleText | singleText | doubleMarkupText | singleMarkupText | templateText =>
    "string_fragment"
  | characterReference => "html_character_reference"
  | dashedName => "identifier"
  | markupText => "jsx_text"
  | escape => "escape_sequence"
  | comment => "comment"
  | patternEnd => "/"
  | pattern => "regex_pattern"
  | patternFlags => "regex_flags"
  | number => "number"
  | privateName => "private_property_identifier"
  | conditionMark => "?"
  | markupComment => "html_comment"
  | finish | lineEnd | signatureEnd => ""

end Shape

namespace Token

/-- Words and marks with blanks between them. -/
def shapes (texts : String) : List Shape :=
  (texts.splitOn " ").map fun text =>
    if text.any Char.isAlpha then .keyword text else .mark text

def all : List Shape :=
  [.finish, .identifier, .hashBang] ++
    shapes ("export * default type import = as namespace \x7b , \x7d typeof from with assert " ++
      "var let const ! else if switch for ( ; ) await in of while do try break continue " ++
      "debugger return throw : case catch finally yield [ ]") ++
    [.characterReference, .mark ">", .dashedName] ++ shapes ". </ /> \" '" ++
    [.doubleMarkupText, .singleMarkupText] ++
    shapes ("class async function => ?. new using += -= *= /= %= ^= &= |= >>= >>>= <<= **= " ++
      "&&= ||= ??= ... && || >> >>> << " ++
      "& ^ | + - / % ** < <= == === != !== >= ?? instanceof ~ void delete ++ --") ++
    [.doubleText, .singleText, .escape, .comment] ++ shapes "\x60 $\x7b" ++
    [.patternEnd, .pattern, .patternFlags, .number, .privateName] ++
    shapes ("target meta this super true false null undefined @ static readonly get set ? " ++
      "declare public private protected override module any number boolean string symbol object " ++
      "abstract accessor satisfies require extends implements global interface enum -?: +?: ?: " ++
      "asserts infer is keyof unique unknown never \x7b| |\x7d") ++
    [.lineEnd, .templateText, .conditionMark, .markupComment, .markupText, .signatureEnd]

def table : Array Shape := all.toArray

def count : Nat := 171

def shape (token : Nat) : Shape := table.getD token .finish

def number (s : Shape) : Nat := (table.idxOf? s).getD 0

def finish : Nat := 0

def identifier : Nat := 1

def comment : Nat := number .comment

def markupComment : Nat := number .markupComment

def lineEnd : Nat := number .lineEnd

def signatureEnd : Nat := number .signatureEnd

def templateText : Nat := number .templateText

def conditionMark : Nat := number .conditionMark

def markupText : Nat := number .markupText

def disjunction : Nat := number (.mark "||")

def escape : Nat := number .escape

def pattern : Nat := number .pattern

/-- Comments may stand anywhere. -/
def isComment (token : Nat) : Bool := token == comment || token == markupComment

def keyword? (text : String) : Option Nat := table.idxOf? (.keyword text)

end Token
end TypeScript
end ServiceCapsule
