import ServiceCapsule.Json.Writer
import ServiceCapsule.Validation.Diagnostic

/-!
# Outcome of a validation

Checks that passed or failed, errors, warnings and diagnostics, and a score from 0 to 100 made of
them; and all of it as JSON.
-/

namespace ServiceCapsule

/-! ### Outcomes -/

structure Check where
  name : String
  passed : Bool
  message : String
  deriving DecidableEq, Repr, Inhabited

structure Validation where
  isValid : Bool
  score : Float
  checks : List Check
  errors : List String
  warnings : List String
  diagnostics : List Diagnostic
  deriving Repr, Inhabited

namespace Validation

def atMost (limit x : Float) : Float := if limit < x then limit else x

def clamp (low high x : Float) : Float := if x < low then low else if high < x then high else x

/-- The share of passed checks in percent, less five points for each error up to 30 and two for
each warning up to 20. -/
def scoreOf (passed total errors warnings : Nat) : Float :=
  let ratio := if total == 0 then 0.0 else Float.ofNat passed / Float.ofNat total * 100.0
  let forErrors := atMost 30.0 (Float.ofNat errors * 5.0)
  let forWarnings := atMost 20.0 (Float.ofNat warnings * 2.0)
  clamp 0.0 100.0 (ratio - forErrors - forWarnings)

def passedChecks (checks : List Check) : Nat := (checks.filter (·.passed)).length

/-- A validation is valid when it has no errors. -/
def ofParts (checks : List Check) (errors warnings : List String)
    (diagnostics : List Diagnostic) : Validation :=
  ⟨errors.isEmpty, scoreOf (passedChecks checks) checks.length errors.length warnings.length,
    checks, errors, warnings, diagnostics⟩

def check? (v : Validation) (name : String) : Option Check := v.checks.find? (·.name == name)

end Validation

/-! ### JSON -/

def Check.toJson (c : Check) : Json :=
  .object [("name", .text c.name), ("passed", .bool c.passed), ("message", .text c.message)]

def Diagnostic.toJson (d : Diagnostic) : Json :=
  .object [("message", .text d.message), ("file", .text d.file.text), ("line", .nat d.line)]

namespace Validation

def fields (v : Validation) : List (String × Json) :=
  [("is_valid", .bool v.isValid), ("quality_score", .real v.score),
    ("checks", .list (v.checks.map Check.toJson)), ("errors", .texts v.errors),
    ("warnings", .texts v.warnings),
    ("diagnostics", .list (v.diagnostics.map Diagnostic.toJson))]

def toJson (v : Validation) : Json := .object v.fields

end Validation
end ServiceCapsule
