import ServiceCapsule.Capsule.Encoding
import ServiceCapsule.Settings.Basic
import ServiceCapsule.Yaml.Typed
import ServiceCapsule.Yaml.Writer

/-!
# Settings files

Settings are kept as YAML. What a file does not say is as in the standard settings, and settings
that were read were checked.
-/

namespace ServiceCapsule

namespace Mode

def ofName? (s : String) : Option Mode := [auto, semi, manual].find? fun m => m.name == s

end Mode

namespace DiagnosticsKind

def ofName? (s : String) : Option DiagnosticsKind :=
  [syntaxOnly, compiler].find? fun k => k.name == s

end DiagnosticsKind

namespace SourceFilter

def record : Yaml.Record SourceFilter :=
  SourceFilter.mk <$> .field "include_tests" Yaml.Node.bool false <*>
    .field "exclude_dirs" Yaml.Node.texts defaultExcluded <*>
    .field "exclude_patterns" Yaml.Node.texts []

def toYaml (f : SourceFilter) : Yaml.Value :=
  .record [("include_tests", .ofBool f.includeTests),
    ("exclude_dirs", .texts f.excludedDirectories),
    ("exclude_patterns", .texts f.excludedPatterns)]

def toJson (f : SourceFilter) : Json :=
  .object [("include_tests", .bool f.includeTests),
    ("exclude_dirs", .texts f.excludedDirectories),
    ("exclude_patterns", .texts f.excludedPatterns)]

end SourceFilter

namespace GenerationSettings

def record : Yaml.Record GenerationSettings :=
  GenerationSettings.mk <$> .field "mode" (Yaml.Node.named Mode.ofName?) standard.mode <*>
    .field "format" Yaml.Node.bool standard.format

def toYaml (g : GenerationSettings) : Yaml.Value :=
  .record [("mode", .word g.mode.name), ("format", .ofBool g.format)]

def toJson (g : GenerationSettings) : Json :=
  .object [("mode", g.mode.toJson), ("format", .bool g.format)]

end GenerationSettings

namespace ValidationSettings

def record : Yaml.Record ValidationSettings :=
  (fun kind path => ⟨kind, path.map Path.mk⟩) <$>
    .field "diagnostics" (Yaml.Node.named DiagnosticsKind.ofName?) standard.diagnostics <*>
    .field "tsc_path" Yaml.Node.optionalText none

def toYaml (v : ValidationSettings) : Yaml.Value :=
  .record (("diagnostics", .word v.diagnostics.name) ::
    v.compilerPath.toList.map fun path => ("tsc_path", .text path.text))

def toJson (v : ValidationSettings) : Json :=
  .object (("diagnostics", .text v.diagnostics.name) ::
    v.compilerPath.toList.map fun path => ("tsc_path", path.toJson))

end ValidationSettings

namespace BatchSettings

def record : Yaml.Record BatchSettings :=
  BatchSettings.mk <$> .field "parallel" Yaml.Node.natural standard.parallel <*>
    .field "stop_on_error" Yaml.Node.bool standard.stopOnError <*>
    .field "save_reports" Yaml.Node.bool standard.saveReports

def toYaml (b : BatchSettings) : Yaml.Value :=
  .record [("parallel", .ofNat b.parallel), ("stop_on_error", .ofBool b.stopOnError),
    ("save_reports", .ofBool b.saveReports)]

def toJson (b : BatchSettings) : Json :=
  .object [("parallel", .nat b.parallel), ("stop_on_error", .bool b.stopOnError),
    ("save_reports", .bool b.saveReports)]

end BatchSettings

namespace Settings

/-- The section on output, which has to say where. -/
def outputRecord : Yaml.Record Path :=
  Path.mk <$> .requiredField "base_path" Yaml.Node.text

def record : Yaml.Record Settings :=
  Settings.mk <$> .requiredField "version" Yaml.Node.text <*>
    .field "parser" (SourceFilter.record.read "a record") .standard <*>
    .field "generation" (GenerationSettings.record.read "a record") .standard <*>
    .field "validation" (ValidationSettings.record.read "a record") .standard <*>
    .field "batch" (BatchSettings.record.read "a record") .standard <*>
    .field "output" (outputRecord.read "a record") standard.output

def ofYaml (s : String) : Except Yaml.Fault Settings := Yaml.readText (record.read "a record") s

def toYaml (s : Settings) : String :=
  Yaml.document [("version", .text s.version), ("parser", s.sources.toYaml),
    ("generation", s.generation.toYaml), ("validation", s.validation.toYaml),
    ("batch", s.batch.toYaml), ("output", .record [("base_path", .text s.output.text)])]

def toJson (s : Settings) : Json :=
  .object [("version", .text s.version), ("parser", s.sources.toJson),
    ("generation", s.generation.toJson), ("validation", s.validation.toJson),
    ("batch", s.batch.toJson), ("output", .object [("base_path", s.output.toJson)])]

def ofText (path : Path) (text : String) : Except SettingsError Settings := do
  match ofYaml text with
  | .error _ => .error (.malformed path)
  | .ok s =>
    s.check
    return s

def read (d : Disk) (path : Path) : Except SettingsError Settings :=
  match d.read path with
  | .error _ => .error (.unreadable path)
  | .ok text => ofText path text

def write (s : Settings) (d : Disk) (path : Path) : Except FileError Disk :=
  d.write path (.text s.toYaml)

end Settings
end ServiceCapsule
