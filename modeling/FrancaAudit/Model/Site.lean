import FrancaAudit.Model.Node

/-!
The places of a model where types are used, where expressions stand, and where annotations are
attached, each as one flat list in a fixed order.
-/

namespace FrancaAudit

/-- A use of a type, the element that holds it, and the container of that element, which decides
what the use may see. -/
structure TypeSite where
  node : Node
  context : Owner
  ref : TypeRef

inductive ExprRole
  | constantValue
  | initialValue
  | enumeratorValue
  | guard
  | assignedValue
deriving DecidableEq

/-- An expression and the element and feature that hold it. The value of a constant or of a state
variable has a declared type to fit. -/
structure ExprSite where
  node : Node
  feature : Feature
  index : Option Nat
  context : Owner
  role : ExprRole
  expr : Expr
  expected : Option DeclaredType

structure AnnotationSite where
  node : Node
  annotations : List Annotation

namespace Model

/-- Applies `place` to each item and its position, and joins the results. -/
def placed {α β : Type} (items : List α) (place : Nat → α → List β) : List β :=
  items.zipIdx.flatMap fun (item, index) => place index item

variable (model : Model)

def interfaceArguments (id : InterfaceId) : List (ArgumentRef × Argument) :=
  let refs (operation : Operation) (direction : Direction) (arguments : List Argument) :=
    placed arguments fun index argument =>
      [((⟨id, operation, direction, index⟩ : ArgumentRef), argument)]
  match model.interface? id with
  | none => []
  | some interface =>
      (placed interface.methods fun index method =>
        refs (.method index) .input method.inArgs ++
          refs (.method index) .output method.outArgs) ++
      (placed interface.broadcasts fun index broadcast =>
        refs (.broadcast index) .output broadcast.outArgs)

def typeSitesOfType (id : TypeId) (definition : TypeDef) : List TypeSite :=
  match definition.kind with
  | .struct _ _ fields | .union _ fields =>
      placed fields fun index field =>
        [⟨.field id index, definition.owner, field.type.ref⟩]
  | kind => kind.memberRefs.map fun ref => ⟨.type id, definition.owner, ref⟩

def typeSitesOfInterface (id : InterfaceId) (interface : Interface) : List TypeSite :=
  let site (node : Node) (type : DeclaredType) : TypeSite := ⟨node, .interface id, type.ref⟩
  (placed interface.attributes fun index item => [site (.attribute ⟨id, index⟩) item.type]) ++
  ((model.interfaceArguments id).map fun (ref, argument) => site (.argument ref) argument.type) ++
  (match interface.contract with
    | none => []
    | some contract => placed contract.stateVariables fun index item =>
        [site (.stateVariable id index) item.type])

def typeSites : List TypeSite :=
  (placed model.types fun index definition => typeSitesOfType ⟨index⟩ definition) ++
  (placed model.constants fun index definition =>
    [⟨.constant ⟨index⟩, definition.owner, definition.type.ref⟩]) ++
  (placed model.interfaces fun index interface => model.typeSitesOfInterface ⟨index⟩ interface)

/-- Where the use stands, or where its holder stands if that is unknown. -/
def spanOfTypeSite (site : TypeSite) : Span :=
  if site.ref.span.isUnknown then model.spanOf site.node else site.ref.span

def exprSitesOfErrors (id : InterfaceId) (interface : Interface) : List ExprSite :=
  placed interface.methods fun index method =>
    match method.errors with
    | none => []
    | some errors => placed errors.ownEnumerators fun position enumerator =>
        match enumerator.value with
        | none => []
        | some value =>
            [⟨.method ⟨id, index⟩, .errors, some position, .interface id, .enumeratorValue, value,
              none⟩]

def exprSitesOfTransition (id : InterfaceId) (state index : Nat) (transition : Transition) :
    List ExprSite :=
  let node := Node.transition id state index
  (match transition.guard with
    | none => []
    | some guard => [⟨node, .guard, none, .interface id, .guard, guard.condition, none⟩]) ++
  (placed transition.assignments fun position assignment =>
    [⟨node, .assignment, some position, .interface id, .assignedValue, assignment.value, none⟩])

def exprSitesOfContract (id : InterfaceId) (contract : Contract) : List ExprSite :=
  (placed contract.stateVariables fun index item =>
    match item.init with
    | none => []
    | some value =>
        [⟨.stateVariable id index, .value, none, .interface id, .initialValue, value,
          some item.type⟩]) ++
  (placed contract.states fun position state =>
    placed state.transitions fun index transition =>
      exprSitesOfTransition id position index transition)

def exprSites : List ExprSite :=
  (placed model.constants fun index definition =>
    [⟨.constant ⟨index⟩, .value, none, definition.owner, .constantValue, definition.value,
      some definition.type⟩]) ++
  (placed model.types fun index definition =>
    placed definition.kind.enumerators fun position enumerator =>
      match enumerator.value with
      | none => []
      | some value =>
          [⟨.enumerator ⟨index⟩ position, .value, none, definition.owner, .enumeratorValue, value,
            none⟩]) ++
  (placed model.interfaces fun index interface =>
    exprSitesOfErrors ⟨index⟩ interface ++
    (match interface.contract with
      | none => []
      | some contract => exprSitesOfContract ⟨index⟩ contract))

def annotationSitesOfType (id : TypeId) (definition : TypeDef) : List AnnotationSite :=
  ⟨.type id, definition.annotations⟩ ::
  (placed definition.kind.fields fun index field => [⟨.field id index, field.annotations⟩]) ++
  (placed definition.kind.enumerators fun index enumerator =>
    [⟨.enumerator id index, enumerator.annotations⟩])

def annotationSitesOfInterface (id : InterfaceId) (interface : Interface) :
    List AnnotationSite :=
  ⟨.interface id, interface.annotations⟩ ::
  (placed interface.attributes fun index item => [⟨.attribute ⟨id, index⟩, item.annotations⟩]) ++
  (placed interface.methods fun index method =>
    [⟨.method ⟨id, index⟩, method.annotations⟩]) ++
  (placed interface.broadcasts fun index broadcast =>
    [⟨.broadcast ⟨id, index⟩, broadcast.annotations⟩]) ++
  ((model.interfaceArguments id).map fun (ref, argument) =>
    ⟨.argument ref, argument.annotations⟩)

/-- Every element that may carry annotations. The enumerators that a method lists for its own
errors are not among them. -/
def annotatableSites : List AnnotationSite :=
  (placed model.collections fun index collection =>
    [⟨.collection ⟨index⟩, collection.annotations⟩]) ++
  (placed model.types fun index definition => annotationSitesOfType ⟨index⟩ definition) ++
  (placed model.constants fun index definition =>
    [⟨.constant ⟨index⟩, definition.annotations⟩]) ++
  (placed model.interfaces fun index interface =>
    model.annotationSitesOfInterface ⟨index⟩ interface)

def annotationSites : List AnnotationSite :=
  model.annotatableSites.filter fun site => !site.annotations.isEmpty

end Model

end FrancaAudit
