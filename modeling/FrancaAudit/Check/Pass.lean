import FrancaAudit.Check.Behaviour
import FrancaAudit.Check.Dependency
import FrancaAudit.Check.Inheritance
import FrancaAudit.Check.Overload
import FrancaAudit.Check.Shape
import FrancaAudit.Check.Value
import FrancaAudit.Check.Visibility
import FrancaAudit.Text.Quoted

/-!
A pass over a model: all rules of this library in a fixed order, then the validators that the
caller brings along.
-/

namespace FrancaAudit

inductive Mode
  | fast
  | normal
  | expensive
deriving DecidableEq

namespace Mode

def name : Mode → String
  | .fast => "fast"
  | .normal => "normal"
  | .expensive => "expensive"

def rank : Mode → Nat
  | .fast => 0
  | .normal => 1
  | .expensive => 2

instance : LE Mode := ⟨fun first second => first.rank ≤ second.rank⟩

instance (first second : Mode) : Decidable (first ≤ second) :=
  inferInstanceAs (Decidable (first.rank ≤ second.rank))

def all : List Mode := [.fast, .normal, .expensive]

def ofName? (name : String) : Option Mode := all.find? fun mode => mode.name = name

end Mode

structure UnknownMode where
  name : String
deriving DecidableEq

def UnknownMode.message (unknown : UnknownMode) : String :=
  "unknown check mode " ++ Text.quoted unknown.name ++ ", expected fast, normal or expensive"

def Mode.ofName (name : String) : Except UnknownMode Mode :=
  match Mode.ofName? name with
  | some mode => .ok mode
  | none => .error ⟨name⟩

structure Options where
  mode : Mode
  elementOrder : Bool
deriving DecidableEq

def Options.standard : Options := ⟨.normal, true⟩

/-- A rule set of the caller. It sees the findings made before it and adds its own. -/
structure Validator where
  name : String
  mode : Mode
  findings : Model → List Diagnostic → List Diagnostic

namespace Check

/-- A rule set of this library. It works on the sink itself. -/
structure RuleSet where
  name : String
  check : Options → Model → Reporting Unit

def builtinRules : List RuleSet :=
  [⟨"cycles", fun _ model => checkDependencies model⟩,
    ⟨"structure", fun options model => checkShape model options.elementOrder⟩,
    ⟨"types", fun _ model => checkTypes model⟩,
    ⟨"inheritance", fun _ model => checkInheritance model⟩,
    ⟨"overload", fun _ model => checkOverloads model⟩,
    ⟨"visibility", fun _ model => checkVisibility model⟩,
    ⟨"contracts", fun _ model => checkContracts model⟩]

def counted (check : Reporting Unit) : Reporting Nat := do
  let before ← get
  check
  let behind ← get
  return behind.length - before.length

def runRules (options : Options) (model : Model) : List RuleSet → Reporting (List (String × Nat))
  | [] => return []
  | rules :: rest => do
      let count ← counted (rules.check options model)
      let counts ← runRules options model rest
      return (rules.name, count) :: counts

def runBuiltin (options : Options) (model : Model) : Reporting (List (String × Nat)) :=
  runRules options model builtinRules

/-- A validator that needs more effort than the mode allows is passed over. -/
def validate (options : Options) (model : Model) (found : List Diagnostic)
    (validator : Validator) : List Diagnostic :=
  if validator.mode ≤ options.mode then found ++ validator.findings model found else found

def runInto (options : Options) (validators : List Validator) (model : Model)
    (found : List Diagnostic) : List Diagnostic :=
  validators.foldl (validate options model) ((runBuiltin options model).run found).2

def run (options : Options) (validators : List Validator) (model : Model) : List Diagnostic :=
  runInto options validators model []

def checkModel (model : Model) : List Diagnostic := run .standard [] model

end Check

end FrancaAudit
