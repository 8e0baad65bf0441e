import FrancaAudit.Check.Visibility
import FrancaAudit.Proofs.Check.Reporting

/-!
What the rule on visibility adds to the sink, use by use.
-/

namespace FrancaAudit.Check

variable (model : Model)

def hiddenFindings (use : Use) (what : String) (target : Owner) : List Diagnostic :=
  match hiddenIn? model use.context target with
  | none => []
  | some confined => [hiddenError model use what confined]

theorem appends_checkHidden (use : Use) (what : String) (target : Owner) :
    Appends (checkHidden model use what target) (hiddenFindings model use what target) := by
  unfold checkHidden hiddenFindings
  cases hiddenIn? model use.context target with
  | none => exact appends_nothing
  | some confined => exact appends_report _

def typeUseFindings (use : Use) (target : TypeId) : List Diagnostic :=
  match model.type? target with
  | none => []
  | some definition => hiddenFindings model use ("Type " ++ definition.name) definition.owner

theorem appends_checkTypeUse (use : Use) (target : TypeId) :
    Appends (checkTypeUse model use target) (typeUseFindings model use target) := by
  unfold checkTypeUse typeUseFindings
  cases model.type? target with
  | none => exact appends_nothing
  | some definition => exact appends_checkHidden model use _ _

def elementUseFindings (use : Use) (target : ElementRef) : List Diagnostic :=
  match model.element? target with
  | none => []
  | some element =>
      hiddenFindings model use (element.kind.label ++ " " ++ element.name) element.owner

theorem appends_checkElementUse (use : Use) (target : ElementRef) :
    Appends (checkElementUse model use target) (elementUseFindings model use target) := by
  unfold checkElementUse elementUseFindings
  cases model.element? target with
  | none => exact appends_nothing
  | some element => exact appends_checkHidden model use _ _

theorem appends_checkVisibility :
    Appends (checkVisibility model)
      (((typeSiteUses model ++ baseUses model ++ errorUses model).flatMap fun (use, target) =>
        typeUseFindings model use target) ++
      ((expressionUses model ++ targetUses model).flatMap fun (use, target) =>
        elementUseFindings model use target)) := by
  have types (uses : List (Use × TypeId)) :=
    appends_forM uses _ _ fun use => appends_checkTypeUse model use.1 use.2
  have elements (uses : List (Use × ElementRef)) :=
    appends_forM uses _ _ fun use => appends_checkElementUse model use.1 use.2
  simp only [List.flatMap_append, List.append_assoc]
  exact (types _).andThen <| (types _).andThen <| (types _).andThen <|
    (elements _).andThen (elements _)

end FrancaAudit.Check
