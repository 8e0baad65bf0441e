import FrancaAudit.Model.Site

/-!
Whether every reference of a model points at something.

The references are examined in a fixed order, container by container, and the first that points
nowhere is named. References to states are not among them: a transition to a missing state is a
finding, not a broken model.
-/

namespace FrancaAudit

/-- A reference that points nowhere: who holds it, what kind of thing it names, and which one. -/
structure DanglingRef where
  holder : String
  what : String
  index : Nat
deriving DecidableEq

def DanglingRef.message (dangling : DanglingRef) : String :=
  dangling.holder ++ " references missing " ++ dangling.what ++ " #" ++ toString dangling.index

namespace Model

variable (model : Model)

def missing {α : Type} (target : Option α) (dangling : DanglingRef) : List DanglingRef :=
  if target.isSome then [] else [dangling]

def danglingTypes (holder : String) (ids : List TypeId) : List DanglingRef :=
  ids.flatMap fun id => missing (model.type? id) ⟨holder, "type", id.index⟩

def danglingConstants (holder : String) (ids : List ConstantId) : List DanglingRef :=
  ids.flatMap fun id => missing (model.constant? id) ⟨holder, "constant", id.index⟩

def danglingOfCollection (collection : TypeCollection) : List DanglingRef :=
  let holder := "typeCollection " ++ collection.name
  model.danglingTypes holder collection.types ++
    model.danglingConstants holder collection.constants

def hasMember (event : Event) : Bool :=
  match event.kind with
  | .call | .respond | .error => (model.method? event.member).isSome
  | .signal => (model.broadcast? event.member).isSome
  | .set | .update => (model.attribute? event.member).isSome

def danglingOfTransition (interface : Interface) (transition : Transition) : List DanglingRef :=
  let holder := "contract of interface " ++ interface.name
  let event := transition.trigger.event
  (if model.hasMember event then [] else [⟨holder, event.kind.keyword, event.member.index⟩]) ++
  transition.assignments.flatMap fun assignment =>
    missing (model.element? assignment.target) ⟨holder, "assignment target", 0⟩

def danglingOfInterface (interface : Interface) : List DanglingRef :=
  let holder := "interface " ++ interface.name
  (interface.base.toList.flatMap fun id =>
    missing (model.interface? id) ⟨holder, "interface", id.index⟩) ++
  model.danglingTypes holder interface.types ++
  model.danglingConstants holder interface.constants ++
  (interface.methods.flatMap fun method =>
    model.danglingTypes holder (method.errors.bind (·.enumeration?)).toList) ++
  (interface.contract.toList.flatMap fun contract =>
    contract.states.flatMap fun state =>
      state.transitions.flatMap fun transition =>
        model.danglingOfTransition interface transition)

def danglingOwner (holder : String) : Owner → List DanglingRef
  | .collection id => missing (model.collection? id) ⟨holder, "owner", id.index⟩
  | .interface id => missing (model.interface? id) ⟨holder, "owner", id.index⟩

def danglingOfType (definition : TypeDef) : List DanglingRef :=
  let holder := "type " ++ definition.name
  model.danglingOwner holder definition.owner ++
  definition.kind.base?.toList.flatMap fun id =>
    missing (model.type? id) ⟨holder, "base type", id.index⟩

def danglingOfTypeSite (site : TypeSite) : List DanglingRef :=
  model.danglingTypes (model.describe site.node) site.ref.derivedId?.toList

def danglingOfExprSite (site : ExprSite) : List DanglingRef :=
  site.expr.elementRefs.flatMap fun element =>
    missing (model.element? element) ⟨model.describe site.node, "element", 0⟩

def danglingRefs : List DanglingRef :=
  model.collections.flatMap model.danglingOfCollection ++
  model.interfaces.flatMap model.danglingOfInterface ++
  model.types.flatMap model.danglingOfType ++
  (model.constants.flatMap fun definition =>
    model.danglingOwner ("const " ++ definition.name) definition.owner) ++
  model.typeSites.flatMap model.danglingOfTypeSite ++
  model.exprSites.flatMap model.danglingOfExprSite

def danglingRef? : Option DanglingRef := model.danglingRefs.head?

def Linked : Prop := model.danglingRefs = []

end Model

end FrancaAudit
