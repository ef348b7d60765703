import ServiceCapsule.Capsule.Analysis
import ServiceCapsule.TypeScript.Tree

/-!
# Declarations of a syntax tree

What the top level of one source declares, imports and exports. Only statements directly below
the root count; what is nested or only announced yields nothing.
-/

namespace ServiceCapsule
namespace Extraction

open TypeScript

/-- The source that a tree belongs to, and the path that it is known by. -/
structure Scope where
  source : String
  file : Path

def Scope.location (s : Scope) (t : Tree) : Location :=
  ⟨s.file, t.span.start.row + 1, t.span.start.column + 1⟩

def Scope.text (s : Scope) (t : Tree) : String := t.text s.source

def Scope.textOf? (s : Scope) (r : Role) (t : Tree) : Option String := t.roleText? r s.source

/-! ### Small readings -/

def withoutColon (s : String) : String :=
  Text.trim (String.ofList (s.toList.dropWhile (· == ':')))

/-- A base without its type arguments. -/
def baseName (s : String) : String :=
  Text.trim (String.ofList (s.toList.takeWhile (· != '<')))

def unquoted (s : String) : String :=
  String.ofList (Text.dropAround (fun c => c == '"' || c == '\'' || c == '\x60') s.toList)

/-- The lines of a documentation comment without stars and blanks around them. -/
def cleanDocs (comment : String) : Option String :=
  let body := Text.dropEnds ['*', '/'] (Text.dropStarts ['/', '*', '*'] comment.toList)
  let cleaned := (Text.charLines body).map fun line =>
    Text.dropAround Text.isBlank ((Text.dropAround Text.isBlank line).dropWhile (· == '*'))
  let kept := (cleaned.filter (!·.isEmpty)).map String.ofList
  if kept.isEmpty then none else some ("\n".intercalate kept)

/-- The documentation that the node in front of a statement gives it: a comment that ends on the
line above at the earliest. -/
def docsFrom (s : Scope) (before : Option Tree) (t : Tree) : Option String :=
  match before with
  | some comment =>
    if comment.is .comment && t.span.start.row ≤ comment.span.stop.row + 1 &&
        Text.startsWith (s.text comment) "/**" then
      cleanDocs (s.text comment)
    else none
  | none => none

def childTexts (s : Scope) (t : Tree) : List String :=
  (t.namedChildren.filter (!·.is .comment)).map s.text

def parameter? (s : Scope) (t : Tree) : Option Parameter :=
  if t.is .requiredParameter || t.is .optionalParameter then
    some ⟨(s.textOf? .pattern t).getD "", (s.textOf? .type t).map withoutColon,
      t.is .optionalParameter⟩
  else none

/-- The parameters of a function; a single one may stand without parentheses. -/
def parameters (s : Scope) (t : Tree) : List Parameter :=
  match t.inRole? .parameter with
  | some single => [⟨s.text single, none, false⟩]
  | none =>
    match t.inRole? .parameters with
    | some list => list.namedChildren.filterMap (parameter? s)
    | none => []

def returnType (s : Scope) (t : Tree) : Option String :=
  (s.textOf? .returnType t).map withoutColon

/-! ### Declarations -/

/-- What one declaration adds, and the names that it declares. -/
abbrev Found := Analysis × List String

def nothing : Found := (.empty, [])

def typeAlias (s : Scope) (exported : Bool) (docs : Option String) (isEnum : Bool)
    (definition : Role) (t : Tree) : Found :=
  match s.textOf? .name t with
  | none => nothing
  | some name =>
    ({ Analysis.empty with types :=
        [⟨name, exported, docs, s.location t, isEnum, (s.textOf? definition t).getD "",
          s.text t⟩] }, [name])

def member? (s : Scope) (t : Tree) : Option Member :=
  match t.kind?, s.textOf? .name t with
  | some .propertySignature, some name =>
    some ⟨name, (s.textOf? .type t).map withoutColon, t.hasToken "?", false⟩
  | some .methodSignature, some name => some ⟨name, returnType s t, t.hasToken "?", true⟩
  | _, _ => none

def interface (s : Scope) (exported : Bool) (docs : Option String) (t : Tree) : Found :=
  match s.textOf? .name t with
  | none => nothing
  | some name =>
    let bases := ((t.find? .extendsTypeClause).map (childTexts s)).getD []
    let body := ((t.inRole? .body).map Tree.namedChildren).getD []
    let members := body.filterMap (member? s)
    ({ Analysis.empty with interfaces :=
        [⟨name, exported, docs, s.location t, bases, members, s.text t⟩] }, [name])

def method? (s : Scope) (t : Tree) : Option Method :=
  match t.kind?, s.textOf? .name t with
  | some .methodDefinition, some name | some .methodSignature, some name
  | some .abstractMethodSignature, some name =>
    some ⟨name, parameters s t, returnType s t, t.hasToken "async", t.hasToken "static"⟩
  | _, _ => none

def property? (s : Scope) (t : Tree) : Option String :=
  if t.is .fieldDefinition then s.textOf? .name t else none

/-- The base of a class, from the clauses in its head. -/
def base? (s : Scope) (t : Tree) : Option String := do
  let heritage ← t.find? .classHeritage
  let clause ← heritage.find? .extendsClause
  let value ← (clause.inRole? .value).or clause.namedChildren.head?
  return baseName (s.text value)

def implemented (s : Scope) (t : Tree) : List String :=
  (((t.find? .classHeritage).bind (Tree.find? .implementsClause)).map (childTexts s)).getD []

def classDeclaration (s : Scope) (exported : Bool) (docs : Option String) (t : Tree) : Found :=
  match s.textOf? .name t with
  | none => nothing
  | some name =>
    let members := ((t.inRole? .body).map Tree.namedChildren).getD []
    ({ Analysis.empty with classes :=
        [⟨name, exported, docs, s.location t, base? s t, implemented s t,
          members.filterMap (method? s), members.filterMap (property? s),
          t.is .abstractClassDeclaration, s.text t⟩] }, [name])

def function (s : Scope) (exported : Bool) (docs : Option String) (t : Tree) : Found :=
  match s.textOf? .name t with
  | none => nothing
  | some name =>
    ({ Analysis.empty with functions :=
        [⟨name, exported, docs, s.location t, parameters s t, returnType s t, t.hasToken "async",
          s.text t⟩] }, [name])

def bindingKeyword (t : Tree) : String :=
  (["const", "let", "var"].find? t.hasToken).getD "var"

/-- Functions count as functions also where a constant holds them. -/
def isFunctionValue (t : Tree) : Bool := t.is .arrowFunction || t.is .functionExpression

/-- One binding: state, a function or a constant. -/
def bound (s : Scope) (exported : Bool) (docs : Option String) (keyword : String) (t : Tree) :
    Found :=
  if !t.is .variableDeclarator then nothing
  else match s.textOf? .name t with
  | none => nothing
  | some name =>
    let text := keyword ++ " " ++ s.text t ++ ";"
    let place := s.location t
    if keyword != "const" then
      ({ Analysis.empty with vars := [⟨name, exported, docs, place, text⟩] }, [name])
    else
      match t.inRole? .value with
      | some value =>
        if isFunctionValue value then
          ({ Analysis.empty with functions :=
              [⟨name, exported, docs, place, parameters s value, returnType s value,
                value.hasToken "async", text⟩] }, [name])
        else
          ({ Analysis.empty with constants :=
              [⟨name, exported, docs, place, (s.textOf? .type t).map withoutColon,
                s.text value⟩] }, [name])
      | none =>
        ({ Analysis.empty with constants :=
            [⟨name, exported, docs, place, (s.textOf? .type t).map withoutColon, ""⟩] }, [name])

/-- What several parts found, in order. -/
def together (parts : List Found) : Found :=
  (Analysis.concat (parts.map (·.1)), parts.flatMap (·.2))

def bindings (s : Scope) (exported : Bool) (docs : Option String) (t : Tree) : Found :=
  together (t.namedChildren.map (bound s exported docs (bindingKeyword t)))

def declaration (s : Scope) (exported : Bool) (docs : Option String) (t : Tree) : Found :=
  match t.kind? with
  | some .typeAliasDeclaration => typeAlias s exported docs false .value t
  | some .enumDeclaration => typeAlias s exported docs true .body t
  | some .interfaceDeclaration => interface s exported docs t
  | some .classDeclaration | some .abstractClassDeclaration | some .classExpression =>
    classDeclaration s exported docs t
  | some .functionDeclaration | some .generatorFunctionDeclaration => function s exported docs t
  | some .lexicalDeclaration | some .variableDeclaration => bindings s exported docs t
  | _ => nothing

/-! ### Imports and exports -/

/-- The name that a specifier binds or gives out. -/
def specifierName? (s : Scope) (t : Tree) : Option String :=
  (s.textOf? .alias t).or (s.textOf? .name t)

/-- The parts of an import clause change what is known of the import, one after the other. -/
def clausePart (s : Scope) (i : Import) (part : Tree) : Import :=
  match part.kind? with
  | some .identifier => { i with defaultName := some (s.text part) }
  | some .namespaceImport =>
    { i with namespaceName := (part.find? .identifier).map s.text }
  | some .namedImports =>
    let specifiers := part.namedChildren.filter (Tree.is .importSpecifier)
    { i with named := i.named ++ specifiers.filterMap (specifierName? s) }
  | _ => i

def importOf (s : Scope) (t : Tree) : Import :=
  let quoted := (t.inRole? .source).or (t.find? .string)
  let source := (quoted.map fun q => unquoted (s.text q)).getD ""
  let start : Import :=
    ⟨source, none, none, [], t.hasToken "type", s.location t, s.text t⟩
  match t.find? .importClause with
  | some clause => clause.namedChildren.foldl (clausePart s) start
  | none => start

def exportOf (s : Scope) (docs : Option String) (t : Tree) : Analysis :=
  let isDefault := t.hasToken "default"
  let source := (s.textOf? .source t).map unquoted
  let place := s.location t
  let record (kind : ExportKind) (source : Option String) (names : List String) : Analysis :=
    { Analysis.empty with exports := names.map fun name => ⟨name, kind, source, place⟩ }
  match t.inRole? .declaration with
  | some inner =>
    let (found, names) := declaration s true docs inner
    found ++ record (if isDefault then .default else .named) none names
  | none =>
    if isDefault then record .default none ["default"]
    else match t.find? .exportClause with
    | some clause =>
      let specifiers := clause.namedChildren.filter (Tree.is .exportSpecifier)
      record (if source.isSome then .again else .named) source
        (specifiers.filterMap (specifierName? s))
    | none =>
      if t.hasToken "*" then
        let name := (((t.find? .namespaceExport).bind (Tree.find? .identifier)).map s.text).getD "*"
        record .wildcard source [name]
      else .empty

/-- What one statement adds; the node in front of it may be its documentation. -/
def statement (s : Scope) (before : Option Tree) (t : Tree) : Analysis :=
  match t.kind? with
  | some .importStatement => { Analysis.empty with imports := [importOf s t] }
  | some .exportStatement => exportOf s (docsFrom s before t) t
  | _ => (declaration s false (docsFrom s before t) t).1

/-- What statements add, each with the one in front of it. -/
def statements (s : Scope) : Option Tree → List Tree → Analysis
  | _, [] => .empty
  | before, t :: ts => statement s before t ++ statements s (some t) ts

/-- Everything at the top level of a tree, error classes not yet told apart. -/
def ofTree (s : Scope) (root : Tree) : Analysis := statements s none root.namedChildren

/-! ### Use of the browser -/

def browserNames : List String :=
  ["window", "document", "localStorage", "sessionStorage", "navigator"]

def usesBrowser (s : Scope) (root : Tree) : Bool :=
  root.any fun t => t.is .identifier && browserNames.contains (s.text t)

end Extraction
end ServiceCapsule
