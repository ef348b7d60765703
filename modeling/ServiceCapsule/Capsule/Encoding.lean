import ServiceCapsule.Capsule.Parsed
import ServiceCapsule.Json.Writer

/-!
# Capsules as JSON

Field names are written in lower case with underscores, and words of enumerations in lower case.
-/

namespace ServiceCapsule

def Path.toJson (p : Path) : Json := .text p.text

def Mode.toJson (m : Mode) : Json := .text m.name

def Platform.toJson (p : Platform) : Json := .text p.name

namespace Json

def optionalText : Option String → Json := ofOption .text

end Json

def Location.toJson (l : Location) : Json :=
  .object [("file", l.file.toJson), ("line", .nat l.line), ("column", .nat l.column)]

def TypeDeclaration.toJson (d : TypeDeclaration) : Json :=
  .object [("name", .text d.name), ("exported", .bool d.exported),
    ("docs", .optionalText d.docs), ("location", d.location.toJson), ("is_enum", .bool d.isEnum),
    ("definition", .text d.definition), ("source_text", .text d.sourceText)]

def Member.toJson (m : Member) : Json :=
  .object [("name", .text m.name), ("type_text", .optionalText m.typeText),
    ("optional", .bool m.isOptional), ("is_method", .bool m.isMethod)]

def InterfaceDeclaration.toJson (d : InterfaceDeclaration) : Json :=
  .object [("name", .text d.name), ("exported", .bool d.exported),
    ("docs", .optionalText d.docs), ("location", d.location.toJson),
    ("extends", .texts d.bases), ("members", .list (d.members.map Member.toJson)),
    ("source_text", .text d.sourceText)]

def Parameter.toJson (p : Parameter) : Json :=
  .object [("name", .text p.name), ("type_text", .optionalText p.typeText),
    ("optional", .bool p.isOptional)]

def Method.toJson (m : Method) : Json :=
  .object [("name", .text m.name), ("params", .list (m.parameters.map Parameter.toJson)),
    ("return_type", .optionalText m.returnType), ("is_async", .bool m.isAsync),
    ("is_static", .bool m.isStatic)]

def ClassDeclaration.toJson (d : ClassDeclaration) : Json :=
  .object [("name", .text d.name), ("exported", .bool d.exported),
    ("docs", .optionalText d.docs), ("location", d.location.toJson),
    ("extends", .optionalText d.base), ("implements", .texts d.interfaces),
    ("methods", .list (d.methods.map Method.toJson)), ("properties", .texts d.properties),
    ("is_abstract", .bool d.isAbstract), ("source_text", .text d.sourceText)]

def FunctionDeclaration.toJson (d : FunctionDeclaration) : Json :=
  .object [("name", .text d.name), ("exported", .bool d.exported),
    ("docs", .optionalText d.docs), ("location", d.location.toJson),
    ("params", .list (d.parameters.map Parameter.toJson)),
    ("return_type", .optionalText d.returnType), ("is_async", .bool d.isAsync),
    ("source_text", .text d.sourceText)]

def ConstantDeclaration.toJson (d : ConstantDeclaration) : Json :=
  .object [("name", .text d.name), ("exported", .bool d.exported),
    ("docs", .optionalText d.docs), ("location", d.location.toJson),
    ("type_annotation", .optionalText d.typeText), ("value", .text d.value)]

def VariableDeclaration.toJson (d : VariableDeclaration) : Json :=
  .object [("name", .text d.name), ("exported", .bool d.exported),
    ("docs", .optionalText d.docs), ("location", d.location.toJson),
    ("source_text", .text d.sourceText)]

def Import.toJson (i : Import) : Json :=
  .object [("source", .text i.source), ("default_import", .optionalText i.defaultName),
    ("namespace_import", .optionalText i.namespaceName), ("named", .texts i.named),
    ("type_only", .bool i.typeOnly), ("location", i.location.toJson),
    ("source_text", .text i.sourceText)]

def ExportKind.name : ExportKind → String
  | named => "named"
  | default => "default"
  | again => "re_export"
  | wildcard => "wildcard"

def Export.toJson (e : Export) : Json :=
  .object [("name", .text e.name), ("kind", .text e.kind.name),
    ("source", .optionalText e.source), ("location", e.location.toJson)]

def ErrorClass.toJson (e : ErrorClass) : Json :=
  .object [("name", .text e.name), ("extends", .text e.base), ("exported", .bool e.exported),
    ("docs", .optionalText e.docs), ("location", e.location.toJson),
    ("source_text", .text e.sourceText)]

def Analysis.toJson (a : Analysis) : Json :=
  .object [("types", .list (a.types.map TypeDeclaration.toJson)),
    ("interfaces", .list (a.interfaces.map InterfaceDeclaration.toJson)),
    ("classes", .list (a.classes.map ClassDeclaration.toJson)),
    ("functions", .list (a.functions.map FunctionDeclaration.toJson)),
    ("constants", .list (a.constants.map ConstantDeclaration.toJson)),
    ("variables", .list (a.vars.map VariableDeclaration.toJson)),
    ("imports", .list (a.imports.map Import.toJson)),
    ("exports", .list (a.exports.map Export.toJson)),
    ("errors", .list (a.errors.map ErrorClass.toJson))]

def Metadata.fields (m : Metadata) : List (String × Json) :=
  [("id", .text m.id), ("name", .text m.name), ("category", .text m.category),
    ("description", .text m.description), ("version", .text m.version),
    ("platforms", .list (m.platforms.map Platform.toJson)),
    ("dependencies", .texts m.dependencies)]

def Metadata.toJson (m : Metadata) : Json := .object m.fields

def FileMetrics.toJson (f : FileMetrics) : Json :=
  .object [("path", f.path.toJson), ("lines_of_code", .nat f.lines),
    ("cyclomatic_complexity", .nat f.complexity)]

def Metrics.toJson (m : Metrics) : Json :=
  .object [("lines_of_code", .nat m.lines), ("cyclomatic_complexity", .nat m.complexity),
    ("maintainability_index", .real m.maintainability),
    ("estimated_migration_hours", .real m.hours), ("files", .list (m.files.map FileMetrics.toJson))]

def Quality.toJson (q : Quality) : Json :=
  .object [("has_types", .bool q.hasTypes), ("has_error_hierarchy", .bool q.hasErrorHierarchy),
    ("has_tests", .bool q.hasTests), ("has_documentation", .bool q.hasDocumentation)]

def ParsedCapsule.fields (p : ParsedCapsule) : List (String × Json) :=
  [("metadata", p.metadata.toJson), ("analysis", p.analysis.toJson),
    ("complexity", p.metrics.toJson), ("quality", p.quality.toJson),
    ("source_files", .list (p.sources.map Path.toJson))]

def ParsedCapsule.toJson (p : ParsedCapsule) : Json := .object p.fields

end ServiceCapsule
