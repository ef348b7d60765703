import ServiceCapsule.Text.Basic
import ServiceCapsule.Text.Lines
import ServiceCapsule.Text.Pattern

/-!
# Shapes of generated files

What the files of a capsule must show when they are looked at as text: kinds of errors, a service
with its lifecycle, exports, sections.
-/

namespace ServiceCapsule
namespace Shape

def quoteMark : Pattern := .char fun c => c == '\'' || c == '"'

def nameChars : Pattern :=
  .seq (.char fun c => c.isAlpha || c == '_' || c == '$') .wordChars

def enumMember : Pattern :=
  let capital := Pattern.char Char.isUpper
  let more := Pattern.many (.char fun c => c.isUpper || c.isDigit || c == '_')
  .all [.lineStart, .blanks, .group 1 (.seq capital more), .blanks, .text "=", .blanks, quoteMark]

def errorClass : Pattern :=
  .all [.wordEdge, .text "class", .oneBlank, .group 1 nameChars, .oneBlank, .text "extends",
    .oneBlank, .many (.char fun c => Text.isWord c || c == '$' || c == '.'), .text "Error",
    .wordEdge]

def distinctNames (p : Pattern) (s : String) : Nat :=
  ((p.matchesIn s).filterMap fun groups => groups.text 1).eraseDups.length

/-- How many kinds of errors a text defines, as members or as classes. -/
def errorKindCount (s : String) : Nat :=
  max (distinctNames enumMember s) (distinctNames errorClass s)

def serviceClass : Pattern :=
  .all [.wordEdge, .text "class", .oneBlank, nameChars, .text "Service", .wordEdge]

/-- A method, possibly with a type parameter. -/
def member (name : String) : Pattern :=
  let typeParameter := Pattern.all [.text "<", .many (.char (· != '>')), .text ">"]
  .all [.wordEdge, .text name, .blanks, .optional typeParameter, .blanks, .text "("]

def lifecycle : List String := ["initialize", "execute", "cleanup"]

structure Service where
  hasClass : Bool
  missing : List String
  hasGetState : Bool
  deriving DecidableEq, Repr

namespace Service

def isComplete (s : Service) : Bool := s.hasClass && s.missing.isEmpty

def getState : Pattern := .all [.wordEdge, .text "getState", .blanks, .text "("]

def ofText (s : String) : Service where
  hasClass := serviceClass.occursIn s
  missing := lifecycle.filter fun name => !(member name).occursIn s
  hasGetState := getState.occursIn s

end Service

structure Index where
  hasWildcard : Bool
  hasMetadata : Bool
  hasDefault : Bool
  deriving DecidableEq, Repr

namespace Index

def wildcardExport : Pattern :=
  .all [.text "export", .blanks, .text "*", .blanks, .text "from", .blanks, quoteMark]

def defaultExport : Pattern :=
  .all [.wordEdge, .text "export", .oneBlank, .text "default", .wordEdge]

def ofText (s : String) : Index where
  hasWildcard := wildcardExport.occursIn s
  hasMetadata := Text.containsText s "CAPSULE_METADATA"
  hasDefault := defaultExport.occursIn s

end Index

/-- Whether a line starts a section: its title and nothing more, or a blank after it. -/
def startsSection (title line : List Char) : Bool :=
  match Text.dropStart? title (Text.dropEndWhile Text.isBlank line) with
  | some [] => true
  | some (c :: _) => Text.isBlank c
  | none => false

def missingSections (s : String) (sections : List String) : List String :=
  let ls := Text.charLines s.toList
  sections.filter fun title => !ls.any (startsSection title.toList)

end Shape
end ServiceCapsule
