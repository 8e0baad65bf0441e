import FrancaAudit.Check.Pass
import FrancaAudit.Proofs.Check.Findings.Behaviour
import FrancaAudit.Proofs.Check.Findings.Dependency
import FrancaAudit.Proofs.Check.Findings.Inheritance
import FrancaAudit.Proofs.Check.Findings.Overload
import FrancaAudit.Proofs.Check.Findings.Shape
import FrancaAudit.Proofs.Check.Findings.Value
import FrancaAudit.Proofs.Check.Findings.Visibility
import Mathlib.Data.List.Forall2

/-!
What the rules of this library add to the sink: one group of findings for each kind of rule.
-/

namespace FrancaAudit.Check

def groups (options : Options) (model : Model) : List (String × List Diagnostic) :=
  [("cycles", dependencyFindings model),
    ("structure", shapeFindings model options.elementOrder),
    ("types", typeFindingsOf model),
    ("inheritance", inheritanceFindings model),
    ("overload", overloadFindings model),
    ("visibility", visibilityFindings model),
    ("contracts", contractFindings model)]

def builtinFindings (options : Options) (model : Model) : List Diagnostic :=
  (groups options model).flatMap (·.2)

/-- In every mode, the rule set adds the findings of the group. -/
def Makes (elementOrder : Bool) (model : Model) (rules : RuleSet)
    (group : String × List Diagnostic) : Prop :=
  rules.name = group.1 ∧ ∀ mode, Appends (rules.check ⟨mode, elementOrder⟩ model) group.2

theorem builtinRules_make (options : Options) (model : Model) :
    List.Forall₂ (Makes options.elementOrder model) builtinRules (groups options model) :=
  .cons ⟨rfl, fun _ => (appends_checkDependencies model).own⟩ <|
    .cons ⟨rfl, fun _ => (appends_checkShape model options.elementOrder).own⟩ <|
    .cons ⟨rfl, fun _ => (appends_checkTypes model).own⟩ <|
    .cons ⟨rfl, fun _ => (appends_checkInheritance model).own⟩ <|
    .cons ⟨rfl, fun _ => (appends_checkOverloads model).own⟩ <|
    .cons ⟨rfl, fun _ => (appends_checkVisibility model).own⟩ <|
    .cons ⟨rfl, fun _ => (appends_checkContracts model).own⟩ .nil

theorem run_counted (check : Reporting Unit) (findings : List Diagnostic)
    (appends : Appends check findings) (found : List Diagnostic) :
    (counted check).run found = (findings.length, found ++ findings) := by
  have runs : (counted check).run found =
      ((check.run found).2.length - found.length, (check.run found).2) := rfl
  rw [runs, appends found, List.length_append, Nat.add_sub_cancel_left]

theorem run_runRules (options : Options) (model : Model) (rules : List RuleSet)
    (made : List (String × List Diagnostic))
    (make : List.Forall₂ (Makes options.elementOrder model) rules made) (found : List Diagnostic) :
    (runRules options model rules).run found =
      (made.map fun group => (group.1, group.2.length), found ++ made.flatMap (·.2)) := by
  induction make generalizing found with
  | nil =>
      rw [List.flatMap_nil, List.append_nil]
      rfl
  | @cons rules group others rest first _ ih =>
      obtain ⟨named, appends⟩ := first
      let counts := (counted (rules.check options model)).run found
      have runs : (runRules options model (rules :: others)).run found =
          ((rules.name, counts.1) :: ((runRules options model others).run counts.2).1,
            ((runRules options model others).run counts.2).2) := rfl
      have here : counts = (group.2.length, found ++ group.2) :=
        run_counted _ _ (appends options.mode) found
      rw [runs, here, ih, named, List.append_assoc]
      rfl

theorem run_runBuiltin (options : Options) (model : Model) (found : List Diagnostic) :
    (runBuiltin options model).run found =
      ((groups options model).map fun group => (group.1, group.2.length),
        found ++ builtinFindings options model) :=
  run_runRules options model builtinRules _ (builtinRules_make options model) found

theorem runInto_eq (options : Options) (validators : List Validator) (model : Model)
    (found : List Diagnostic) :
    runInto options validators model found =
      validators.foldl (validate options model) (found ++ builtinFindings options model) := by
  rw [runInto, run_runBuiltin]

theorem run_eq (options : Options) (model : Model) :
    run options [] model = builtinFindings options model := by
  rw [run, runInto_eq, List.foldl_nil, List.nil_append]

end FrancaAudit.Check
