import ServiceCapsule.Text.Basic
import ServiceCapsule.Text.Lines

/-!
# Arguments

Words of a command line read against a form: which options a command knows and how many operands it
takes. The value of an option that stands in a word of its own is judged only when the next option
or operand comes, so a word that nothing knows is refused first.
-/

namespace ServiceCapsule

inductive Argument where
  | nothing
  | text
  | oneOf (words : List String)
  | number
  /-- the option ends the reading, since only help is wanted -/
  | help
  deriving DecidableEq, Repr, Inhabited

namespace Argument

def hasValue : Argument → Bool
  | nothing | help => false
  | text | oneOf _ | number => true

/-- A number that fits into a machine word; a plus sign may stand in front. -/
def number? (s : String) : Option Nat :=
  let digits := match s.toList with
    | '+' :: rest => rest
    | cs => cs
  if digits.isEmpty || !digits.all Char.isDigit then none
  else
    let n := Text.digitsValue digits
    if n < UInt64.size then some n else none

end Argument

structure CommandOption where
  long : String
  short : Option Char
  takes : Argument
  /-- the word that help shows for the value -/
  valueName : String
  about : String
  deriving DecidableEq, Repr, Inhabited

/-- An operand of a command: a word without a name, known by its place. -/
structure Operand where
  valueName : String
  isRequired : Bool
  about : String
  deriving DecidableEq, Repr, Inhabited

/-- Why a command line is not run. -/
inductive UsageError where
  | unknownArgument (word : String)
  | unknownCommand (word : String)
  | missingOperand (valueName : String)
  | missingValue (option : String)
  | strayValue (option : String)
  | repeated (option : String)
  | notAmong (option value : String) (words : List String)
  | notANumber (option value : String)
  /-- help on a command, or on all of them -/
  | helpWanted (command : Option String)
  | versionWanted
  deriving DecidableEq, Repr, Inhabited

inductive ArgumentValue where
  | nothing
  | text (s : String)
  | number (n : Nat)
  deriving DecidableEq, Repr, Inhabited

structure CommandForm where
  name : String
  about : String
  operands : List Operand
  options : List CommandOption
  deriving Repr, Inhabited

namespace CommandForm

def long? (f : CommandForm) (name : String) : Option CommandOption :=
  f.options.find? fun o => o.long == name

def short? (f : CommandForm) (c : Char) : Option CommandOption :=
  f.options.find? fun o => o.short == some c

end CommandForm

/-- What a word of a command line looks like. -/
inductive Word where
  /-- two dashes alone: all that follows is operands -/
  | separator
  | long (name : String) (value : Option String)
  | short (letters : List Char)
  | plain (s : String)
  deriving DecidableEq, Repr

namespace Word

def ofString (s : String) : Word :=
  match s.toList with
  | ['-', '-'] => separator
  | '-' :: '-' :: rest =>
    match Text.splitChar '=' (String.ofList rest) with
    | name :: value :: more => long name (some ("=".intercalate (value :: more)))
    | _ => long (String.ofList rest) none
  | ['-'] => plain s
  | '-' :: rest => short rest
  | _ => plain s

end Word

/-- What was given to a command so far. -/
structure Given where
  operands : List String
  options : List (String × ArgumentValue)
  /-- an option that is not judged yet, with its value if there is one -/
  pending : Option (CommandOption × Option String)
  deriving Repr, Inhabited

namespace Given

def empty : Given := ⟨[], [], none⟩

def option? (g : Given) (name : String) : Option ArgumentValue := g.options.lookup name

def has (g : Given) (name : String) : Bool := (g.option? name).isSome

def text? (g : Given) (name : String) : Option String :=
  match g.option? name with
  | some (.text s) => some s
  | _ => none

def number? (g : Given) (name : String) : Option Nat :=
  match g.option? name with
  | some (.number n) => some n
  | _ => none

/-- Judge the value of an option. -/
def judge (command : String) (o : CommandOption) (value : Option String) :
    Except UsageError ArgumentValue :=
  match o.takes, value with
  | .help, none => .error (.helpWanted (some command))
  | .nothing, none => .ok .nothing
  | .nothing, some _ | .help, some _ => .error (.strayValue o.long)
  | .text, none | .oneOf _, none | .number, none => .error (.missingValue o.long)
  | .text, some s => .ok (.text s)
  | .oneOf words, some s =>
    if words.contains s then .ok (.text s) else .error (.notAmong o.long s words)
  | .number, some s =>
    match Argument.number? s with
    | some n => .ok (.number n)
    | none => .error (.notANumber o.long s)

def isMissing (o : CommandOption) (value : Option String) : Bool :=
  o.takes.hasValue && value.isNone

/-- Put an option and its value; no option is given twice. -/
def put (command : String) (g : Given) (o : CommandOption) (value : Option String) :
    Except UsageError Given :=
  if g.has o.long && !isMissing o value then .error (.repeated o.long)
  else (judge command o value).map fun v => { g with options := g.options ++ [(o.long, v)] }

def settle (command : String) (g : Given) : Except UsageError Given :=
  match g.pending with
  | none => .ok g
  | some (o, value) => { g with pending := none }.put command o value

/-- An option was named, maybe with a value in the same word. -/
def name (command : String) (g : Given) (o : CommandOption) (value : Option String) :
    Except UsageError Given := do
  if !o.takes.hasValue && value.isSome then .error (.strayValue o.long)
  else
    let g ← g.settle command
    if isMissing o value then .ok { g with pending := some (o, none) }
    else g.put command o value

/-- One more operand. -/
def operand (form : CommandForm) (g : Given) (s : String) : Except UsageError Given :=
  if g.operands.length < form.operands.length then
    (g.settle form.name).map fun g => { g with operands := g.operands ++ [s] }
  else .error (.unknownArgument s)

/-- A word without a dash: the value that the last option waits for, or else an operand. -/
def plain (form : CommandForm) (g : Given) (s : String) : Except UsageError Given :=
  match g.pending with
  | some (o, none) => .ok { g with pending := some (o, some s) }
  | _ => g.operand form s

/-- One-letter options in one word; what follows one that takes a value is its value. -/
def letters (form : CommandForm) (g : Given) : List Char → Except UsageError Given
  | [] => .ok g
  | c :: rest =>
    match form.short? c with
    | none => .error (.unknownArgument (String.ofList ['-', c]))
    | some o =>
      if o.takes.hasValue then
        match rest with
        | [] => g.name form.name o none
        | '=' :: value | value => g.name form.name o (some (String.ofList value))
      else do
        let g ← g.name form.name o none
        letters form g rest

def onlyOperands (form : CommandForm) (g : Given) : List String → Except UsageError Given
  | [] => .ok g
  | s :: rest => do
    let g ← g.operand form s
    onlyOperands form g rest

def words (form : CommandForm) (g : Given) : List String → Except UsageError Given
  | [] => .ok g
  | s :: rest =>
    match Word.ofString s with
    | .separator => onlyOperands form g rest
    | .long name value =>
      match form.long? name with
      | none => .error (.unknownArgument ("--" ++ name))
      | some o => do
        let g ← g.name form.name o value
        words form g rest
    | .short cs => do
      let g ← g.letters form cs
      words form g rest
    | .plain s => do
      let g ← g.plain form s
      words form g rest

/-- Read all words given to a command. -/
def ofWords (form : CommandForm) (ws : List String) : Except UsageError Given := do
  let g ← empty.words form ws
  let g ← g.settle form.name
  match (form.operands.drop g.operands.length).find? (·.isRequired) with
  | some o => .error (.missingOperand o.valueName)
  | none => .ok g

end Given
end ServiceCapsule
