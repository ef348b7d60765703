/-!
# Syntax trees

A tree of a source text: every node knows the stretch of text that it covers, and its role in the
node above it. Comments are nodes like any other. What is missing from a text and what could not
be read stay visible as nodes of their own. A spot is a place in a source together with what is left
of the source from there.
-/

namespace ServiceCapsule
namespace TypeScript

/-- A place in a text: bytes from the start, and row and column in bytes, all from zero. -/
structure Position where
  byte : Nat
  row : Nat
  column : Nat
  deriving DecidableEq, Repr, Inhabited

namespace Position

def start : Position := ⟨0, 0, 0⟩

def after (p : Position) (c : Char) : Position :=
  if c = '\n' then ⟨p.byte + 1, p.row + 1, 0⟩
  else ⟨p.byte + c.utf8Size, p.row, p.column + c.utf8Size⟩

end Position

structure Span where
  start : Position
  stop : Position
  deriving DecidableEq, Repr, Inhabited

inductive Kind where
  | program | hashBang | comment
  | importStatement | importClause | namespaceImport | namedImports | importSpecifier
  | importRequireClause | importAttribute | importAlias
  | exportStatement | exportClause | exportSpecifier | namespaceExport
  | typeAliasDeclaration | interfaceDeclaration | extendsTypeClause
  | enumDeclaration | enumBody | enumAssignment
  | classDeclaration | abstractClassDeclaration | classExpression | classHeritage
  | extendsClause | implementsClause | classBody | methodDefinition | abstractMethodSignature
  | fieldDefinition | staticBlock | decorator
  | functionDeclaration | generatorFunctionDeclaration | functionSignature
  | functionExpression | generatorFunction | arrowFunction
  | formalParameters | requiredParameter | optionalParameter | accessibility | overrideMark
  | lexicalDeclaration | variableDeclaration | variableDeclarator
  | ambientDeclaration | module | internalModule
  | expressionStatement | statementBlock | ifStatement | elseClause
  | switchStatement | switchBody | switchCase | switchDefault
  | forStatement | forInStatement | whileStatement | doStatement
  | tryStatement | catchClause | finallyClause | withStatement
  | breakStatement | continueStatement | returnStatement | throwStatement
  | emptyStatement | labeledStatement | debuggerStatement
  | sequenceExpression | assignmentExpression | augmentedAssignment | ternaryExpression
  | binaryExpression | unaryExpression | updateExpression | awaitExpression | yieldExpression
  | asExpression | satisfiesExpression | typeAssertion | nonNullExpression
  | instantiationExpression | newExpression | callExpression | memberExpression
  | subscriptExpression | parenthesizedExpression | metaProperty | arguments | optionalChain
  | object | pair | spreadElement | array | computedPropertyName
  | identifier | propertyIdentifier | privatePropertyIdentifier | shorthandPropertyIdentifier
  | typeIdentifier | statementIdentifier | nestedIdentifier | nestedTypeIdentifier
  | this | super | null | undefined | true | false | importKeyword
  | number | string | regex | templateString | templateSubstitution
  | textFragment | escapeSequence | regexPattern | regexFlags
  | restPattern | objectPattern | arrayPattern | pairPattern | assignmentPattern
  | shorthandPattern
  | typeMark | typeParameters | typeParameter | typeArguments | constraint | defaultType
  | predefinedType | literalType | genericType | unionType | intersectionType | functionType
  | constructorType | conditionalType | inferType | indexTypeQuery | readonlyType | arrayType
  | lookupType | tupleType | optionalType | restType | parenthesizedType | typeQuery | thisType
  | typePredicate | asserts | objectType | templateLiteralType | mappedTypeClause
  | propertySignature | methodSignature | callSignature | constructSignature | indexSignature
  | markupElement | markupOpening | markupClosing | markupSelfClosing | markupName | markupAttribute
  | markupExpression | markupText | characterReference
  deriving DecidableEq, Repr, Inhabited

/-- The part that a node plays in the node above it. -/
inductive Role where
  | name | alias | source | declaration | value | body | type | returnType
  | parameters | parameter | pattern | operator
  deriving DecidableEq, Repr, Inhabited

inductive Label where
  | kind (k : Kind)
  | token (text : String)
  /-- a token that had to be there, of a kind or, without one, with a text -/
  | missing (kind? : Option Kind) (name : String)
  | error
  deriving DecidableEq, Repr, Inhabited

/-- The label of something that is missing; the name is that of a kind. -/
def Label.asMissing (name : String) : Label → Label
  | kind k => missing (some k) name
  | token text => missing none text
  | label => label

inductive Tree where
  | node (label : Label) (role : Option Role) (span : Span) (children : List Tree)
  deriving Inhabited

namespace Tree

def label : Tree → Label
  | node l _ _ _ => l

def role : Tree → Option Role
  | node _ r _ _ => r

def span : Tree → Span
  | node _ _ s _ => s

def children : Tree → List Tree
  | node _ _ _ cs => cs

def kind? (t : Tree) : Option Kind :=
  match t.label with
  | .kind k => some k
  | .missing k _ => k
  | _ => none

def is (k : Kind) (t : Tree) : Bool := t.kind? == some k

def token? (t : Tree) : Option String :=
  match t.label with
  | .token text => some text
  | .missing none text => some text
  | _ => none

def isNamed (t : Tree) : Bool :=
  t.label == .error || t.kind?.isSome

def namedChildren (t : Tree) : List Tree := t.children.filter isNamed

def inRole? (r : Role) (t : Tree) : Option Tree := t.children.find? (·.role == some r)

def find? (k : Kind) (t : Tree) : Option Tree := t.children.find? (is k)

def hasToken (text : String) (t : Tree) : Bool := t.children.any (·.token? == some text)

def text (source : String) (t : Tree) : String :=
  String.Pos.Raw.extract source ⟨t.span.start.byte⟩ ⟨t.span.stop.byte⟩

def roleText? (r : Role) (source : String) (t : Tree) : Option String :=
  (t.inRole? r).map (text source)

mutual

def any (p : Tree → Bool) : Tree → Bool
  | node l r s cs => p (node l r s cs) || anyOf p cs

def anyOf (p : Tree → Bool) : List Tree → Bool
  | [] => false
  | t :: ts => any p t || anyOf p ts

end

mutual

def count (p : Tree → Bool) : Tree → Nat
  | node l r s cs => (if p (node l r s cs) then 1 else 0) + countOf p cs

def countOf (p : Tree → Bool) : List Tree → Nat
  | [] => 0
  | t :: ts => count p t + countOf p ts

end

/-- Whether a node is something that could not be read, or something that is missing. -/
def isFault (t : Tree) : Bool :=
  match t.label with
  | .error | .missing _ _ => true
  | _ => false

def hasFault (t : Tree) : Bool := t.any isFault

mutual

/-- The outermost faults, in the order of the text. The walk goes below a node only where a flag
says that there is a fault, and below no fault. -/
def faults (flag : Tree → Bool) : Tree → List Tree
  | node l r s cs =>
    if isFault (node l r s cs) then [node l r s cs]
    else if flag (node l r s cs) then faultsOf flag cs
    else []

def faultsOf (flag : Tree → Bool) : List Tree → List Tree
  | [] => []
  | t :: ts => faults flag t ++ faultsOf flag ts

end

end Tree

/-! ### Spots -/

/-- A place in the text and what is left from there. -/
structure Spot where
  rest : List Char
  position : Position
  deriving Inhabited

namespace Spot

def start (source : String) : Spot := ⟨source.toList, .start⟩

def skip : Nat → Spot → Spot
  | 0, s => s
  | n + 1, s =>
    match s.rest with
    | [] => s
    | c :: rest => skip n ⟨rest, s.position.after c⟩

def skipWhile (p : Char → Bool) (s : Spot) : Spot := s.skip (s.rest.takeWhile p).length

def startsWith (text : String) (s : Spot) : Bool := text.toList.isPrefixOf s.rest

end Spot

end TypeScript
end ServiceCapsule
