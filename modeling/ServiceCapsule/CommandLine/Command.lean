import ServiceCapsule.Capsule.Metrics
import ServiceCapsule.CommandLine.Arguments
import ServiceCapsule.Settings.File
import ServiceCapsule.Text.Quoted

/-!
# Commands

What can be asked for on a command line: to write settings, to analyze one capsule, to migrate one,
or to migrate all capsules in a directory. Help texts give an overview of all commands and tell of
each of them; names stand in a column as wide as the longest of them.
-/

namespace ServiceCapsule

/-- What a migration is asked to do other than its settings say. -/
structure Overrides where
  settings : Option Path
  mode : Option Mode
  noFormat : Bool
  output : Option Path
  noReport : Bool
  deriving DecidableEq, Repr, Inhabited

inductive Command where
  /-- help on everything -/
  | overview
  | init (output : Path) (force : Bool)
  | analyze (input : Path) (asJson : Bool) (settings : Option Path)
  | migrate (input : Path) (overrides : Overrides)
  | batch (input : Path) (overrides : Overrides) (parallel : Option Nat) (stopOnError : Bool)
  deriving DecidableEq, Repr, Inhabited

namespace Command

/-! ### Forms -/

def helpOption : CommandOption := ⟨"help", some 'h', .help, "", "Print help"⟩

def settingsOption : CommandOption :=
  ⟨"config", some 'c', .text, "FILE", "Configuration file path"⟩

def modeOption : CommandOption :=
  ⟨"mode", some 'm', .oneOf ["auto", "semi", "manual"], "MODE", "Migration mode"⟩

def flag (name about : String) : CommandOption := ⟨name, none, .nothing, "", about⟩

def noFormatOption : CommandOption := flag "no-format" "Skip the formatting pass"

def defaultSettingsFile : String := ".capsule-migrate.yaml"

def initForm : CommandForm where
  name := "init"
  about := "Write a configuration file with the default settings"
  operands := []
  options := [⟨"output", some 'o', .text, "FILE", "Output file path"⟩,
    ⟨"force", some 'f', .nothing, "", "Overwrite an existing file"⟩, helpOption]

def analyzeForm : CommandForm where
  name := "analyze"
  about := "Parse a capsule and report its structure and complexity"
  operands := [⟨"DIR", true, "Capsule directory"⟩]
  options := [flag "json" "Print the full analysis as JSON", settingsOption, helpOption]

def migrateForm : CommandForm where
  name := "migrate"
  about := "Migrate a single capsule"
  operands := [⟨"DIR", true, "Capsule directory"⟩,
    ⟨"DIR", false, "Output root; the capsule is written to <output>/<capsule id>"⟩]
  options := [modeOption, noFormatOption, flag "no-report" "Don't save the migration report",
    settingsOption, helpOption]

def batchForm : CommandForm where
  name := "batch"
  about := "Migrate every capsule under a directory"
  operands := [⟨"DIR", true, "Directory whose subdirectories are capsules"⟩,
    ⟨"DIR", false, "Output root"⟩]
  options := [modeOption, ⟨"parallel", some 'p', .number, "NUM", "Capsules migrated concurrently"⟩,
    flag "stop-on-error" "Abort after the first failing capsule",
    flag "no-report" "Don't save reports", noFormatOption, settingsOption, helpOption]

/-! ### Reading -/

def overrides (g : Given) : Overrides where
  settings := (g.text? "config").map Path.mk
  mode := (g.text? "mode").bind Mode.ofName?
  noFormat := g.has "no-format"
  output := g.operands[1]?.map Path.mk
  noReport := g.has "no-report"

def input (g : Given) : Path := ⟨g.operands.headD ""⟩

/-- The commands: their forms, and what they ask for once they were given something. -/
def table : List (CommandForm × (Given → Command)) :=
  [(initForm, fun g => init ⟨(g.text? "output").getD defaultSettingsFile⟩ (g.has "force")),
    (analyzeForm, fun g => analyze (input g) (g.has "json") ((g.text? "config").map Path.mk)),
    (migrateForm, fun g => migrate (input g) (overrides g)),
    (batchForm, fun g =>
      batch (input g) (overrides g) (g.number? "parallel") (g.has "stop-on-error"))]

def forms : List CommandForm := table.map (·.1)

def helpName : String := "help"

def names : List String := forms.map (·.name) ++ [helpName]

/-- Help on the commands that are named; only the first name can be that of one. -/
def helpOn : List String → UsageError
  | [] => .helpWanted none
  | [name] => if names.contains name then .helpWanted (some name) else .unknownCommand name
  | name :: next :: _ => .unknownCommand (if names.contains name then next else name)

/-- The command that the words of a command line ask for. -/
def ofWords : List String → Except UsageError Command
  | [] => .ok overview
  | s :: rest =>
    match Word.ofString s with
    | .separator =>
      match rest with
      | [] => .ok overview
      | name :: _ =>
        .error (if names.contains name then .unknownArgument name else .unknownCommand name)
    | .long name value =>
      if name == "help" || name == "version" then
        if value.isSome then .error (.strayValue name)
        else .error (if name == "help" then .helpWanted none else .versionWanted)
      else .error (.unknownArgument s)
    | .short ('h' :: _) => .error (.helpWanted none)
    | .short ('V' :: _) => .error .versionWanted
    | .short _ => .error (.unknownArgument s)
    | .plain name =>
      match table.find? fun (form, _) => form.name == name with
      | some (form, command) => (Given.ofWords form rest).map command
      | none => .error (if name == helpName then helpOn rest else .unknownCommand name)

end Command

/-! ### Help -/

namespace Help

def program : String := "capsule-migrate"

def version : String := "0.1.0"

def columns (rows : List (String × String)) : List String :=
  let width := (rows.map fun (name, _) => name.length).foldl max 0
  rows.map fun (name, about) =>
    "  " ++ name ++ String.ofList (List.replicate (width - name.length) ' ') ++ "  " ++ about

def optionNames (o : CommandOption) : String :=
  (match o.short with
    | some c => String.ofList ['-', c, ',', ' ']
    | none => "    ") ++
    "--" ++ o.long ++ if o.valueName.isEmpty then "" else " <" ++ o.valueName ++ ">"

/-- What an option is about, with the words that it takes if it takes only these. -/
def optionAbout (o : CommandOption) : String :=
  match o.takes with
  | .oneOf words => o.about ++ " [possible values: " ++ ", ".intercalate words ++ "]"
  | _ => o.about

def optionLines (options : List CommandOption) : List String :=
  ["Options:"] ++ columns (options.map fun o => (optionNames o, optionAbout o))

def operandName (o : Operand) : String :=
  if o.isRequired then "<" ++ o.valueName ++ ">" else "[" ++ o.valueName ++ "]"

def ofForm (form : CommandForm) : List String :=
  [form.about, "",
    " ".intercalate (["Usage:", program, form.name, "[OPTIONS]"] ++
      form.operands.map operandName), ""] ++
    (if form.operands.isEmpty then []
    else ["Arguments:"] ++ columns (form.operands.map fun o => (operandName o, o.about)) ++
      [""]) ++
    optionLines form.options

def versionOption : CommandOption := ⟨"version", some 'V', .nothing, "", "Print version"⟩

def helpAbout : String := "Print this message or the help of the given subcommand(s)"

def overview : List String :=
  ["Migrate TypeScript capsules into the eight-file service architecture", "",
    "Usage: " ++ program, "       " ++ program ++ " <COMMAND>", "", "Commands:"] ++
    columns ((Command.forms.map fun f => (f.name, f.about)) ++ [(Command.helpName, helpAbout)]) ++
    [""] ++ optionLines [Command.helpOption, versionOption]

/-- Help on the command of a name, or on all of them. -/
def on (name : Option String) : List String :=
  match name.bind fun n => Command.forms.find? fun f => f.name == n with
  | some form => ofForm form
  | none => overview

end Help

namespace UsageError

def message : UsageError → String
  | unknownArgument s => "unexpected argument '" ++ s ++ "' found"
  | unknownCommand s => "unrecognized subcommand '" ++ s ++ "'"
  | missingOperand name => "the argument <" ++ name ++ "> was not provided"
  | missingValue option => "a value is required for '--" ++ option ++ "'"
  | strayValue option => "unexpected value for '--" ++ option ++ "'"
  | repeated option => "the argument '--" ++ option ++ "' cannot be used multiple times"
  | notAmong option value words =>
    "invalid value '" ++ value ++ "' for '--" ++ option ++ "' [possible values: " ++
      ", ".intercalate words ++ "]"
  | notANumber option value => "invalid value '" ++ value ++ "' for '--" ++ option ++ "'"
  | helpWanted _ => "help was asked for"
  | versionWanted => "the version was asked for"

end UsageError
end ServiceCapsule
