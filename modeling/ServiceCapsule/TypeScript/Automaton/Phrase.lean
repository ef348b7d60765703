import ServiceCapsule.TypeScript.Automaton.Token

/-!
# Phrases of the grammar

A phrase is what some symbols in a row stand for. Its rules say how many symbols these may be, and
which of them get another name or play a role. Symbols are numbered, first the tokens and then
the phrases.
-/

namespace ServiceCapsule
namespace TypeScript

/-- A way to complete a phrase. -/
structure Rule where
  /-- the number of the phrase -/
  symbol : Nat
  /-- how many symbols there are -/
  length : Nat
  /-- a bonus over other readings of the same text -/
  weight : Int
  /-- other names, by the place of the symbol -/
  aliases : List (Nat × String)
  /-- roles, by the place of the symbol -/
  roles : List (Nat × Role)
  deriving Repr, Inhabited

/-- What a phrase is in a tree, if it shows there, and its rules: the rules stand between bars,
each with its length, a penalty after a tilde, names after equals signs, roles after at signs. -/
structure Phrase where
  kind? : Option Kind
  rules : String

namespace Rule

def roleNames : List (String × Role) :=
  [("name", .name), ("alias", .alias), ("source", .source), ("declaration", .declaration),
   ("value", .value), ("body", .body), ("type", .type), ("return_type", .returnType),
   ("parameters", .parameters), ("parameter", .parameter), ("pattern", .pattern),
   ("operator", .operator)]

def adding (rule : Rule) (word : String) : Rule :=
  match word.splitOn "=", word.splitOn "@", word.splitOn "~" with
  | [place, name], _, _ => { rule with aliases := rule.aliases ++ [(place.toNat?.getD 0, name)] }
  | _, [place, role], _ =>
    match roleNames.lookup role with
    | some r => { rule with roles := rule.roles ++ [(place.toNat?.getD 0, r)] }
    | none => rule
  | _, _, ["", penalty] => { rule with weight := -(penalty.toNat?.getD 0 : Int) }
  | _, _, _ => { rule with length := word.toNat?.getD 0 }

def ofText (symbol : Nat) (text : String) : Rule :=
  (text.splitOn " ").foldl adding ⟨symbol, 0, 0, [], []⟩

end Rule

namespace Phrase

/-- The kinds behind other names; a name that is none of these is a mark. -/
def aliasKinds : List (String × Kind) :=
  [("identifier", .identifier), ("interface_body", .objectType),
   ("member_expression", .memberExpression), ("property_identifier", .propertyIdentifier),
   ("shorthand_property_identifier", .shorthandPropertyIdentifier),
   ("shorthand_property_identifier_pattern", .shorthandPattern),
   ("statement_identifier", .statementIdentifier), ("this_type", .thisType),
   ("type_identifier", .typeIdentifier)]

/-- What a symbol under another name is in a tree. -/
def aliasLabel (name : String) : Label :=
  match aliasKinds.lookup name with
  | some k => .kind k
  | none => .token (name.map fun c => if c == '_' then ' ' else c)

def all : List Phrase := [
    ⟨some .program, "0 | 1 | 2"⟩,
    ⟨some .exportStatement,
      "2 1@declaration | 3 2@declaration | 3 | 4 | 4 2@value | 4 3@declaration | 5" ++
        " | 5 3@value"⟩,
    ⟨some .namespaceExport, "3"⟩,
    ⟨some .exportClause, "2 | 3 | 4 | 5"⟩,
    ⟨some .exportSpecifier, "1 0@name | 2 1@name | 3 0@name 2@alias | 4 1@name 3@alias"⟩,
    ⟨none, "1"⟩,
    ⟨none, "1"⟩,
    ⟨some .importKeyword, "1"⟩,
    ⟨some .importStatement, "3 1@source | 3 | 4 2@source | 4 | 4 1@source | 5 | 5 2@source | 6"⟩,
    ⟨some .importClause, "1 | 3"⟩,
    ⟨none, "2 1@source"⟩,
    ⟨some .namespaceImport, "3"⟩,
    ⟨some .namedImports, "2 | 3 | 4 | 5"⟩,
    ⟨some .importSpecifier,
      "1 0@name | 2 1@name | 3 0=identifier 0@name 2@alias | 3 0@name 2@alias" ++
        " | 4 1=identifier 1@name 3@alias | 4 1@name 3@alias"⟩,
    ⟨some .importAttribute, "2"⟩,
    ⟨none, "1"⟩,
    ⟨some .expressionStatement, "2"⟩,
    ⟨some .variableDeclaration, "3 | 4"⟩,
    ⟨some .lexicalDeclaration, "3 | 4"⟩,
    ⟨some .variableDeclarator,
      "1 0@name | 2 0@name | 2 0@name 1@type | 3 0@name 2@type | 3 0@name 1@type"⟩,
    ⟨some .statementBlock, "2 | 3 | 4"⟩,
    ⟨some .elseClause, "2"⟩,
    ⟨some .ifStatement, "3 | 4"⟩,
    ⟨some .switchStatement, "3 1@value 2@body"⟩,
    ⟨some .forStatement, "6 5@body | 7 6@body | 8 7@body | 9 8@body"⟩,
    ⟨some .forInStatement, "3 2@body | 4 3@body"⟩,
    ⟨none, "5 2@operator | 6 3@operator | 7 4@operator"⟩,
    ⟨some .whileStatement, "3 2@body"⟩,
    ⟨some .doStatement, "4 1@body | 5 1@body"⟩,
    ⟨some .tryStatement, "2 1@body | 3 1@body | 4 1@body"⟩,
    ⟨some .withStatement, "3 2@body"⟩,
    ⟨some .breakStatement, "2 | 3 1=statement_identifier"⟩,
    ⟨some .continueStatement, "2 | 3 1=statement_identifier"⟩,
    ⟨some .debuggerStatement, "2"⟩,
    ⟨some .returnStatement, "2 | 3"⟩,
    ⟨some .throwStatement, "3"⟩,
    ⟨some .emptyStatement, "1"⟩,
    ⟨some .labeledStatement, "3 ~1 0=statement_identifier 2@body"⟩,
    ⟨some .switchBody, "2 | 3"⟩,
    ⟨some .switchCase, "3 1@value | 4 1@value 3@body"⟩,
    ⟨some .switchDefault, "2 | 3 2@body"⟩,
    ⟨some .catchClause, "2 1@body | 5 2@parameter 4@body | 6 2@parameter 3@type 5@body"⟩,
    ⟨some .finallyClause, "2 1@body"⟩,
    ⟨some .parenthesizedExpression, "3 | 4 2@type"⟩,
    ⟨none, "1"⟩,
    ⟨none, "1"⟩,
    ⟨some .yieldExpression, "1 | 2 | 3"⟩,
    ⟨some .object,
      "2 | 3 1=shorthand_property_identifier | 3 | 4 1=shorthand_property_identifier | 4"⟩,
    ⟨some .objectPattern,
      "2 | 3 1=shorthand_property_identifier_pattern | 3" ++
        " | 4 1=shorthand_property_identifier_pattern | 4"⟩,
    ⟨some .assignmentPattern, "3"⟩,
    ⟨some .assignmentPattern, "3 0=shorthand_property_identifier_pattern | 3"⟩,
    ⟨some .array, "2 | 3 | 4"⟩,
    ⟨some .arrayPattern, "2 | 3 | 4"⟩,
    ⟨some .markupElement, "2 | 3"⟩,
    ⟨some .markupExpression, "2 | 3"⟩,
    ⟨some .markupOpening,
      "2 ~1 | 3 ~1 1@name | 3 ~1 1=member_expression 1@name | 4 ~1 1@name" ++
        " | 4 ~1 1=member_expression 1@name | 5 ~1 1@name | 5 ~1 1=member_expression 1@name"⟩,
    ⟨some .nestedIdentifier,
      "3 2=property_identifier | 3 0=member_expression 2=property_identifier"⟩,
    ⟨some .markupName, "3"⟩,
    ⟨some .markupClosing, "2 | 3 1@name | 3 1=member_expression 1@name"⟩,
    ⟨some .markupSelfClosing,
      "2 ~1 | 3 ~1 1@name | 3 ~1 1=member_expression 1@name | 4 ~1 1@name" ++
        " | 4 ~1 1=member_expression 1@name | 5 ~1 1@name | 5 ~1 1=member_expression 1@name"⟩,
    ⟨some .markupAttribute, "1 0=property_identifier | 1 | 3 0=property_identifier | 3"⟩,
    ⟨some .string, "2 | 3"⟩,
    ⟨some .classExpression,
      "2 1@body | 3 1=type_identifier 1@name 2@body | 3 2@body" ++
        " | 4 1=type_identifier 1@name 3@body | 4 3@body | 4 2=type_identifier 2@name 3@body" ++
        " | 5 1=type_identifier 1@name 4@body | 5 2=type_identifier 2@name 4@body | 5 4@body" ++
        " | 6 2=type_identifier 2@name 5@body"⟩,
    ⟨some .classDeclaration,
      "3 1=type_identifier 1@name 2@body | 4 1=type_identifier 1@name 3@body" ++
        " | 4 1=type_identifier 1@name 2@body | 4 2=type_identifier 2@name 3@body" ++
        " | 5 1=type_identifier 1@name 3@body | 5 1=type_identifier 1@name 4@body" ++
        " | 5 2=type_identifier 2@name 4@body | 5 2=type_identifier 2@name 3@body" ++
        " | 6 1=type_identifier 1@name 4@body | 6 2=type_identifier 2@name 4@body" ++
        " | 6 2=type_identifier 2@name 5@body | 7 2=type_identifier 2@name 5@body"⟩,
    ⟨some .classHeritage, "1 | 2"⟩,
    ⟨some .functionExpression, "3 2@body | 4 3@body | 4 1@name 3@body | 5 2@name 4@body"⟩,
    ⟨some .functionDeclaration,
      "4 1@name 3@body | 5 2@name 4@body | 5 1@name 3@body | 6 2@name 4@body"⟩,
    ⟨some .generatorFunction, "4 3@body | 5 4@body | 5 2@name 4@body | 6 3@name 5@body"⟩,
    ⟨some .generatorFunctionDeclaration,
      "5 2@name 4@body | 6 3@name 5@body | 6 2@name 4@body | 7 3@name 5@body"⟩,
    ⟨some .arrowFunction, "3 0@parameter 2@body | 3 2@body | 4 1@parameter 3@body | 4 3@body"⟩,
    ⟨none,
      "1 0@parameters | 2 0@parameters 1@return_type | 2 1@parameters" ++
        " | 3 1@parameters 2@return_type"⟩,
    ⟨none, ""⟩,
    ⟨some .optionalChain, "1"⟩,
    ⟨some .callExpression, "2 | 3 | 4"⟩,
    ⟨some .newExpression, "2 | 3 | 4"⟩,
    ⟨some .awaitExpression, "2"⟩,
    ⟨some .memberExpression, "3 2=property_identifier | 3"⟩,
    ⟨some .subscriptExpression, "4 | 5"⟩,
    ⟨some .assignmentExpression, "3 | 4"⟩,
    ⟨none, "1"⟩,
    ⟨some .augmentedAssignment, "3 1@operator"⟩,
    ⟨none, "2 1@value"⟩,
    ⟨none, ""⟩,
    ⟨some .spreadElement, "2"⟩,
    ⟨some .ternaryExpression, "5"⟩,
    ⟨some .binaryExpression, "3 1@operator"⟩,
    ⟨some .unaryExpression, "2 0@operator"⟩,
    ⟨some .updateExpression, "2 0@operator | 2 1@operator"⟩,
    ⟨some .sequenceExpression, "2"⟩,
    ⟨some .string, "2 | 3"⟩,
    ⟨some .templateString, "2 | 3"⟩,
    ⟨some .templateSubstitution, "3"⟩,
    ⟨some .regex, "3 1@pattern | 4 1@pattern"⟩,
    ⟨some .metaProperty, "3"⟩,
    ⟨some .arguments, "2 | 3 | 4"⟩,
    ⟨some .decorator, "2"⟩,
    ⟨some .memberExpression, "3 2=property_identifier"⟩,
    ⟨some .callExpression, "2 | 3"⟩,
    ⟨some .classBody, "2 | 3"⟩,
    ⟨some .formalParameters, "2 | 3 | 4 | 5"⟩,
    ⟨some .staticBlock, "2 1@body"⟩,
    ⟨none, "1 ~1"⟩,
    ⟨some .restPattern, "2"⟩,
    ⟨some .methodDefinition,
      "3 0@name 2@body | 4 1@name 3@body | 4 0@name 3@body | 5 1@name 4@body" ++
        " | 5 2@name 4@body | 6 2@name 5@body | 6 3@name 5@body | 7 3@name 6@body" ++
        " | 7 4@name 6@body | 8 4@name 7@body | 8 5@name 7@body | 9 5@name 8@body" ++
        " | 9 6@name 8@body | 10 6@name 9@body"⟩,
    ⟨some .pair, "3 2@value"⟩,
    ⟨some .pairPattern, "3 2@value"⟩,
    ⟨none, "1 0=property_identifier | 1"⟩,
    ⟨some .computedPropertyName, "3"⟩,
    ⟨some .fieldDefinition,
      "1 0@name | 2 1@name | 2 0@name | 2 0@name 1@type | 3 2@name | 3 1@name" ++
        " | 3 1@name 2@type | 3 0@name | 3 0@name 2@type | 3 0@name 1@type | 4 2@name" ++
        " | 4 2@name 3@type | 4 1@name | 4 1@name 3@type | 4 1@name 2@type | 4 3@name" ++
        " | 4 0@name 2@type | 5 2@name | 5 2@name 4@type | 5 2@name 3@type | 5 1@name 3@type" ++
        " | 5 3@name | 5 3@name 4@type | 5 4@name | 6 2@name 4@type | 6 3@name" ++
        " | 6 3@name 5@type | 6 3@name 4@type | 6 4@name | 6 4@name 5@type | 6 5@name" ++
        " | 7 3@name 5@type | 7 4@name | 7 4@name 6@type | 7 4@name 5@type | 7 5@name" ++
        " | 7 5@name 6@type | 7 6@name | 8 4@name 6@type | 8 5@name | 8 5@name 7@type" ++
        " | 8 5@name 6@type | 8 6@name | 8 6@name 7@type | 9 5@name 7@type | 9 6@name" ++
        " | 9 6@name 8@type | 9 6@name 7@type | 10 6@name 8@type"⟩,
    ⟨none, "1 0=identifier | 1"⟩,
    ⟨some .nonNullExpression, "2"⟩,
    ⟨some .methodSignature,
      "2 0@name | 3 1@name | 3 0@name | 4 1@name | 4 2@name | 5 2@name | 5 3@name" ++
        " | 6 3@name | 6 4@name | 7 4@name | 7 5@name | 8 5@name | 8 6@name | 9 6@name"⟩,
    ⟨some .abstractMethodSignature,
      "3 1@name | 4 2@name | 4 1@name | 5 2@name | 5 3@name | 6 3@name | 6 4@name" ++
        " | 7 4@name"⟩,
    ⟨some .functionSignature, "4 1@name | 5 2@name"⟩,
    ⟨some .parenthesizedExpression, "3"⟩,
    ⟨some .typeAssertion, "2"⟩,
    ⟨some .asExpression, "3"⟩,
    ⟨some .satisfiesExpression, "3"⟩,
    ⟨some .instantiationExpression, "2"⟩,
    ⟨some .importRequireClause, "6 4@source"⟩,
    ⟨some .extendsClause, "2 | 3"⟩,
    ⟨none, "1 0@value | 2 0@value"⟩,
    ⟨some .implementsClause, "2 | 3"⟩,
    ⟨some .ambientDeclaration, "2 | 3 | 7 3=property_identifier"⟩,
    ⟨some .abstractClassDeclaration,
      "4 2=type_identifier 2@name 3@body | 5 2=type_identifier 2@name 4@body" ++
        " | 5 3=type_identifier 3@name 4@body | 6 2=type_identifier 2@name 5@body" ++
        " | 6 3=type_identifier 3@name 5@body | 7 3=type_identifier 3@name 6@body"⟩,
    ⟨some .module, "2"⟩,
    ⟨some .internalModule, "2"⟩,
    ⟨none, "1 0@name | 2 0@name 1@body"⟩,
    ⟨some .importAlias, "5"⟩,
    ⟨some .nestedTypeIdentifier, "3 2=type_identifier 2@name"⟩,
    ⟨some .interfaceDeclaration,
      "3 1=type_identifier 2=interface_body 1@name 2@body" ++
        " | 4 1=type_identifier 3=interface_body 1@name 3@body" ++
        " | 5 1=type_identifier 4=interface_body 1@name 4@body"⟩,
    ⟨some .extendsTypeClause,
      "2 1=type_identifier 1@type | 2 1@type | 3 1=type_identifier 1@type | 3 1@type"⟩,
    ⟨some .enumDeclaration, "3 1@name 2@body | 4 2@name 3@body"⟩,
    ⟨some .enumBody, "2 | 3 1@name | 3 | 4 1@name | 4 | 5 1@name | 5"⟩,
    ⟨some .enumAssignment, "2 0@name"⟩,
    ⟨some .typeAliasDeclaration,
      "5 1=type_identifier 1@name 3@value | 6 1=type_identifier 1@name 4@value"⟩,
    ⟨some .accessibility, "1"⟩,
    ⟨some .overrideMark, "1"⟩,
    ⟨some .requiredParameter, "1 | 2 | 2 1@type | 3 1@type"⟩,
    ⟨some .optionalParameter, "2 | 3 | 3 2@type | 4 2@type"⟩,
    ⟨none, "1 0@pattern | 2 1@pattern | 3 2@pattern | 4 3@pattern | 5 4@pattern"⟩,
    ⟨some .typeMark, "2"⟩,
    ⟨some .typeMark, "2"⟩,
    ⟨some .typeMark, "2"⟩,
    ⟨some .typeMark, "2"⟩,
    ⟨some .memberExpression, "3 2=property_identifier | 3"⟩,
    ⟨some .callExpression, "2"⟩,
    ⟨some .asserts, "2"⟩,
    ⟨some .typeMark, "2"⟩,
    ⟨none, "1"⟩,
    ⟨some .requiredParameter, "2 0@name 1@type"⟩,
    ⟨some .optionalParameter, "3 0@name 2@type"⟩,
    ⟨some .optionalType, "2"⟩,
    ⟨some .restType, "2"⟩,
    ⟨none, "1"⟩,
    ⟨some .constructorType,
      "4 1@parameters 3@type | 5 2@parameters 4@type | 6 3@parameters 5@type"⟩,
    ⟨none, "1 | 1 0=type_identifier | 1 0=this_type"⟩,
    ⟨some .templateSubstitution, "3"⟩,
    ⟨some .templateLiteralType, "2 | 3"⟩,
    ⟨some .inferType, "2 1=type_identifier | 4 1=type_identifier"⟩,
    ⟨some .conditionalType, "7"⟩,
    ⟨some .genericType, "2 0=type_identifier 0@name | 2 0@name"⟩,
    ⟨some .typePredicate, "3 0@name 2@type | 3 0=identifier 0@name 2@type"⟩,
    ⟨some .typeMark, "2"⟩,
    ⟨some .memberExpression, "3 2=property_identifier | 3"⟩,
    ⟨some .subscriptExpression, "5"⟩,
    ⟨some .callExpression, "2"⟩,
    ⟨some .instantiationExpression, "2"⟩,
    ⟨some .typeQuery, "2"⟩,
    ⟨some .indexTypeQuery, "2"⟩,
    ⟨some .lookupType, "4"⟩,
    ⟨some .mappedTypeClause,
      "3 0=type_identifier 0@name 2@type | 5 0=type_identifier 0@name 2@type 4@alias"⟩,
    ⟨some .literalType, "1"⟩,
    ⟨some .unaryExpression, "2 0@operator"⟩,
    ⟨some .predefinedType, "1"⟩,
    ⟨some .optionalType, "2"⟩,
    ⟨some .parenthesizedType, "3"⟩,
    ⟨some .predefinedType, "1 | 2 1=unique_symbol"⟩,
    ⟨some .typeArguments, "3 | 4 | 5"⟩,
    ⟨some .objectType, "2 | 3 | 4 | 5 | 6"⟩,
    ⟨some .callSignature, "1"⟩,
    ⟨some .propertySignature,
      "1 0@name | 2 1@name | 2 0@name | 2 0@name 1@type | 3 2@name | 3 1@name" ++
        " | 3 1@name 2@type | 3 0@name 2@type | 4 2@name | 4 2@name 3@type | 4 1@name 3@type" ++
        " | 4 3@name | 5 2@name 4@type | 5 3@name | 5 3@name 4@type | 5 4@name" ++
        " | 6 3@name 5@type | 6 4@name | 6 4@name 5@type | 7 4@name 6@type"⟩,
    ⟨some .typeParameters, "3 | 4 | 5"⟩,
    ⟨some .typeParameter,
      "1 0=type_identifier 0@name | 2 1=type_identifier 1@name" ++
        " | 2 0=type_identifier 0@name 1@value | 2 0=type_identifier 0@name" ++
        " | 3 1=type_identifier 1@name 2@value | 3 1=type_identifier 1@name" ++
        " | 3 0=type_identifier 0@name 2@value | 4 1=type_identifier 1@name 3@value"⟩,
    ⟨some .defaultType, "2"⟩,
    ⟨some .constraint, "2"⟩,
    ⟨some .constructSignature,
      "2 1@parameters | 3 1@parameters 2@type | 3 2@parameters | 4 2@parameters 3@type" ++
        " | 4 3@parameters | 5 3@parameters 4@type"⟩,
    ⟨some .indexSignature,
      "4 3@type | 5 4@type | 6 1@name 5@type | 6 5@type | 7 2@name 6@type | 8 3@name 7@type"⟩,
    ⟨some .arrayType, "3"⟩,
    ⟨some .tupleType, "2 | 3 | 4 | 5"⟩,
    ⟨some .readonlyType, "2"⟩,
    ⟨some .unionType, "2 | 3"⟩,
    ⟨some .intersectionType, "2 | 3"⟩,
    ⟨some .functionType, "3 0@parameters 2@return_type | 4 1@parameters 3@return_type"⟩,
    ⟨none, "2"⟩,
    ⟨none, "1 | 2"⟩,
    ⟨none, "2"⟩,
    ⟨none, "2"⟩,
    ⟨none, "2"⟩,
    ⟨none, "2"⟩,
    ⟨none, "1 | 2 1=shorthand_property_identifier | 2"⟩,
    ⟨none, "1 | 2 1=shorthand_property_identifier_pattern | 2"⟩,
    ⟨none, "1 | 2"⟩,
    ⟨none, "1 | 2"⟩,
    ⟨none, "2"⟩,
    ⟨none, "2"⟩,
    ⟨none, "2"⟩,
    ⟨none, "2"⟩,
    ⟨none, "2"⟩,
    ⟨none, "2"⟩,
    ⟨none, "1 | 2"⟩,
    ⟨none, "1 | 2 | 3"⟩,
    ⟨none, "2"⟩,
    ⟨none, "1 | 2"⟩,
    ⟨none, "2"⟩,
    ⟨none, "2"⟩,
    ⟨none, "2 1=type_identifier 1@type | 2 1@type | 2"⟩,
    ⟨none, "2 1@name | 2"⟩,
    ⟨none, "1 | 2"⟩,
    ⟨none, "2"⟩,
    ⟨none, "2"⟩,
    ⟨none, "2"⟩
  ]

def table : Array Phrase := all.toArray

def kindOf? (symbol : Nat) : Option Kind := (table[symbol - Token.count]?).bind (·.kind?)

def rulesOf (phrase : Phrase) (symbol : Nat) : List Rule :=
  if phrase.rules.isEmpty then [] else (phrase.rules.splitOn " | ").map (Rule.ofText symbol)

end Phrase

namespace Rule

def table : Array Rule :=
  ((Phrase.all.zipIdx Token.count).flatMap fun (phrase, symbol) => phrase.rulesOf symbol).toArray

def get (number : Nat) : Rule := table.getD number default

def alias? (rule : Rule) (place : Nat) : Option String := rule.aliases.lookup place

def role? (rule : Rule) (place : Nat) : Option Role := rule.roles.lookup place

end Rule
end TypeScript
end ServiceCapsule
