import FrancaAudit.Check.Reporting
import FrancaAudit.Model.Site

/-!
What an interface declares may be used in that interface and in those derived from it only.
-/

namespace FrancaAudit.Check

variable (model : Model)

/-- The interface that the target is confined to, if the context lies outside of it. -/
def hiddenIn? (context target : Owner) : Option InterfaceId := do
  let confined ← target.interface?
  match context.interface? with
  | some user => if confined ∈ model.inheritanceSet user then none else some confined
  | none => some confined

structure Use where
  node : Node
  feature : Feature
  index : Option Nat
  span : Span
  context : Owner

def hiddenError (use : Use) (what : String) (confined : InterfaceId) : Diagnostic :=
  { Diagnostic.error .visibilityViolation use.node use.feature
      (what ++ " can only be referenced inside interface " ++ model.interfaceName confined ++
        " or derived interfaces") with
    index := use.index
    span := use.span }

def checkHidden (use : Use) (what : String) (target : Owner) : Reporting Unit :=
  match hiddenIn? model use.context target with
  | none => pure ()
  | some confined => report (hiddenError model use what confined)

def checkTypeUse (use : Use) (target : TypeId) : Reporting Unit :=
  match model.type? target with
  | none => pure ()
  | some definition => checkHidden model use ("Type " ++ definition.name) definition.owner

def checkElementUse (use : Use) (target : ElementRef) : Reporting Unit :=
  match model.element? target with
  | none => pure ()
  | some element =>
      checkHidden model use (element.kind.label ++ " " ++ element.name) element.owner

def typeSiteUses : List (Use × TypeId) :=
  model.typeSites.filterMap fun site =>
    site.ref.derivedId?.map fun target =>
      (⟨site.node, .derived, none, model.spanOfTypeSite site, site.context⟩, target)

def baseUses : List (Use × TypeId) :=
  model.types.zipIdx.filterMap fun (definition, index) =>
    definition.kind.base?.map fun base =>
      (⟨.type ⟨index⟩, .base, none, definition.span, definition.owner⟩, base)

def errorUses : List (Use × TypeId) :=
  Model.placed model.interfaces fun position interface =>
    interface.methods.zipIdx.filterMap fun (method, index) =>
      (method.errors.bind (·.enumeration?)).map fun target =>
        (⟨.method ⟨⟨position⟩, index⟩, .errors, none, method.span, .interface ⟨position⟩⟩, target)

def expressionUses : List (Use × ElementRef) :=
  model.exprSites.flatMap fun site =>
    site.expr.elementRefs.map fun target =>
      (⟨site.node, site.feature, site.index, model.spanOf site.node, site.context⟩, target)

def targetUses : List (Use × ElementRef) :=
  Model.placed model.interfaces fun position interface =>
    interface.contract.toList.flatMap fun contract =>
      Model.placed contract.states fun state declared =>
        Model.placed declared.transitions fun index transition =>
          transition.assignments.zipIdx.map fun (assignment, place) =>
            (⟨.transition ⟨position⟩ state index, .target, some place, assignment.span,
              .interface ⟨position⟩⟩, assignment.target)

def checkVisibility : Reporting Unit := do
  (typeSiteUses model).forM fun (use, target) => checkTypeUse model use target
  (baseUses model).forM fun (use, target) => checkTypeUse model use target
  (errorUses model).forM fun (use, target) => checkTypeUse model use target
  (expressionUses model).forM fun (use, target) => checkElementUse model use target
  (targetUses model).forM fun (use, target) => checkElementUse model use target

def visibilityFindings : List Diagnostic := (checkVisibility model).findings

end FrancaAudit.Check
