import FrancaAudit.Check.ValueType
import FrancaAudit.Model.Site
import Mathlib.Tactic.Simps.Basic

/-!
Models without their spans.

Two models differ in spans only if they are the same once all spans are unknown. To look something
up, to follow a reference or to list the places of a model commutes with the removal of spans; what
holds no span comes out the same.
-/

namespace FrancaAudit

@[simps]
def Annotation.withoutSpans (item : Annotation) : Annotation := { item with span := .unknown }

@[simps]
def TypeRef.withoutSpans (ref : TypeRef) : TypeRef := { ref with span := .unknown }

@[simps]
def DeclaredType.withoutSpans (type : DeclaredType) : DeclaredType :=
  { type with ref := type.ref.withoutSpans }

@[simps]
def Field.withoutSpans (field : Field) : Field where
  name := field.name
  span := .unknown
  annotations := field.annotations.map (·.withoutSpans)
  type := field.type.withoutSpans

/-- Expressions have no spans. -/
@[simps]
def Enumerator.withoutSpans (enumerator : Enumerator) : Enumerator where
  name := enumerator.name
  span := .unknown
  annotations := enumerator.annotations.map (·.withoutSpans)
  value := enumerator.value

def TypeKind.withoutSpans : TypeKind → TypeKind
  | .struct base polymorphic fields => .struct base polymorphic (fields.map (·.withoutSpans))
  | .union base fields => .union base (fields.map (·.withoutSpans))
  | .enumeration base enumerators => .enumeration base (enumerators.map (·.withoutSpans))
  | .array element => .array element.withoutSpans
  | .map key value => .map key.withoutSpans value.withoutSpans
  | .alias actual => .alias actual.withoutSpans

@[simps]
def TypeDef.withoutSpans (definition : TypeDef) : TypeDef where
  name := definition.name
  span := .unknown
  owner := definition.owner
  annotations := definition.annotations.map (·.withoutSpans)
  kind := definition.kind.withoutSpans

@[simps]
def ConstantDef.withoutSpans (definition : ConstantDef) : ConstantDef where
  name := definition.name
  span := .unknown
  owner := definition.owner
  annotations := definition.annotations.map (·.withoutSpans)
  type := definition.type.withoutSpans
  value := definition.value

@[simps]
def Argument.withoutSpans (argument : Argument) : Argument where
  name := argument.name
  span := .unknown
  annotations := argument.annotations.map (·.withoutSpans)
  type := argument.type.withoutSpans

@[simps]
def Attribute.withoutSpans (item : Attribute) : Attribute where
  name := item.name
  span := .unknown
  annotations := item.annotations.map (·.withoutSpans)
  type := item.type.withoutSpans
  readOnly := item.readOnly
  noSubscriptions := item.noSubscriptions

def MethodErrors.withoutSpans : MethodErrors → MethodErrors
  | .enumeration id => .enumeration id
  | .inline base enumerators => .inline base (enumerators.map (·.withoutSpans))

@[simps]
def Method.withoutSpans (method : Method) : Method where
  name := method.name
  span := .unknown
  annotations := method.annotations.map (·.withoutSpans)
  selector := method.selector
  fireAndForget := method.fireAndForget
  inArgs := method.inArgs.map (·.withoutSpans)
  outArgs := method.outArgs.map (·.withoutSpans)
  errors := method.errors.map (·.withoutSpans)

@[simps]
def Broadcast.withoutSpans (broadcast : Broadcast) : Broadcast where
  name := broadcast.name
  span := .unknown
  annotations := broadcast.annotations.map (·.withoutSpans)
  selector := broadcast.selector
  selective := broadcast.selective
  outArgs := broadcast.outArgs.map (·.withoutSpans)

@[simps]
def StateVariable.withoutSpans (item : StateVariable) : StateVariable where
  name := item.name
  span := .unknown
  type := item.type.withoutSpans
  init := item.init

@[simps]
def Trigger.withoutSpans (trigger : Trigger) : Trigger := { trigger with span := .unknown }

@[simps]
def Guard.withoutSpans (guard : Guard) : Guard := { guard with span := .unknown }

@[simps]
def Assignment.withoutSpans (assignment : Assignment) : Assignment :=
  { assignment with span := .unknown }

@[simps]
def Transition.withoutSpans (transition : Transition) : Transition where
  span := .unknown
  trigger := transition.trigger.withoutSpans
  guard := transition.guard.map (·.withoutSpans)
  assignments := transition.assignments.map (·.withoutSpans)
  target := transition.target

@[simps]
def State.withoutSpans (state : State) : State where
  name := state.name
  span := .unknown
  transitions := state.transitions.map (·.withoutSpans)

@[simps]
def Contract.withoutSpans (contract : Contract) : Contract where
  span := .unknown
  stateVariables := contract.stateVariables.map (·.withoutSpans)
  states := contract.states.map (·.withoutSpans)

@[simps]
def Interface.withoutSpans (interface : Interface) : Interface where
  name := interface.name
  span := .unknown
  annotations := interface.annotations.map (·.withoutSpans)
  base := interface.base
  attributes := interface.attributes.map (·.withoutSpans)
  methods := interface.methods.map (·.withoutSpans)
  broadcasts := interface.broadcasts.map (·.withoutSpans)
  types := interface.types
  constants := interface.constants
  contract := interface.contract.map (·.withoutSpans)

@[simps]
def TypeCollection.withoutSpans (collection : TypeCollection) : TypeCollection where
  name := collection.name
  span := .unknown
  annotations := collection.annotations.map (·.withoutSpans)
  types := collection.types
  constants := collection.constants

/-- The model with every span unknown. -/
@[simps]
def Model.withoutSpans (model : Model) : Model where
  name := model.name
  collections := model.collections.map (·.withoutSpans)
  interfaces := model.interfaces.map (·.withoutSpans)
  types := model.types.map (·.withoutSpans)
  constants := model.constants.map (·.withoutSpans)

@[simp]
theorem TypeRef.derivedId?_withoutSpans (ref : TypeRef) :
    ref.withoutSpans.derivedId? = ref.derivedId? := rfl

namespace TypeKind

variable (kind : TypeKind)

@[simp]
theorem base?_withoutSpans : kind.withoutSpans.base? = kind.base? := by
  cases kind <;> rfl

@[simp]
theorem label_withoutSpans : kind.withoutSpans.label = kind.label := by
  cases kind <;> rfl

@[simp]
theorem fields_withoutSpans : kind.withoutSpans.fields = kind.fields.map (·.withoutSpans) := by
  cases kind <;> rfl

@[simp]
theorem enumerators_withoutSpans :
    kind.withoutSpans.enumerators = kind.enumerators.map (·.withoutSpans) := by
  cases kind <;> rfl

@[simp]
theorem memberRefs_withoutSpans :
    kind.withoutSpans.memberRefs = kind.memberRefs.map (·.withoutSpans) := by
  cases kind <;> simp [withoutSpans, memberRefs]

end TypeKind

@[simp]
theorem MethodErrors.enumeration?_withoutSpans (errors : MethodErrors) :
    errors.withoutSpans.enumeration? = errors.enumeration? := by
  cases errors <;> rfl

@[simp]
theorem MethodErrors.ownEnumerators_withoutSpans (errors : MethodErrors) :
    errors.withoutSpans.ownEnumerators = errors.ownEnumerators.map (·.withoutSpans) := by
  cases errors <;> rfl

namespace Model

/-- Two lists are placed alike if their items are. -/
theorem placed_commutes {α β γ δ : Type} (items : List α) (change : α → β)
    (place : Nat → β → List γ) (here : Nat → α → List δ) (onPlaced : δ → γ)
    (same : ∀ index item, place index (change item) = (here index item).map onPlaced) :
    placed (items.map change) place = (placed items here).map onPlaced := by
  simp [placed, List.zipIdx_map, List.flatMap_map, List.map_flatMap, same]

variable (model : Model)

/-- What is looked up in two steps is changed if it is in the second. -/
theorem bind_commutes {α β γ δ : Type} (found : Option α) (change : α → β) (onNext : γ → δ)
    (next : β → Option δ) (here : α → Option γ)
    (same : ∀ item, next (change item) = (here item).map onNext) :
    (found.map change).bind next = (found.bind here).map onNext := by
  cases found with
  | none => rfl
  | some item => exact same item

@[simp]
theorem collection?_withoutSpans (id : CollectionId) :
    model.withoutSpans.collection? id = (model.collection? id).map (·.withoutSpans) := by
  simp [collection?]

@[simp]
theorem interface?_withoutSpans (id : InterfaceId) :
    model.withoutSpans.interface? id = (model.interface? id).map (·.withoutSpans) := by
  simp [interface?]

@[simp]
theorem type?_withoutSpans (id : TypeId) :
    model.withoutSpans.type? id = (model.type? id).map (·.withoutSpans) := by
  simp [type?]

@[simp]
theorem constant?_withoutSpans (id : ConstantId) :
    model.withoutSpans.constant? id = (model.constant? id).map (·.withoutSpans) := by
  simp [constant?]

@[simp]
theorem method?_withoutSpans (ref : MemberRef) :
    model.withoutSpans.method? ref = (model.method? ref).map (·.withoutSpans) := by
  rw [method?, interface?_withoutSpans]
  exact bind_commutes _ _ _ _ _ fun interface => List.getElem?_map ..

@[simp]
theorem broadcast?_withoutSpans (ref : MemberRef) :
    model.withoutSpans.broadcast? ref = (model.broadcast? ref).map (·.withoutSpans) := by
  rw [broadcast?, interface?_withoutSpans]
  exact bind_commutes _ _ _ _ _ fun interface => List.getElem?_map ..

@[simp]
theorem attribute?_withoutSpans (ref : MemberRef) :
    model.withoutSpans.attribute? ref = (model.attribute? ref).map (·.withoutSpans) := by
  rw [attribute?, interface?_withoutSpans]
  exact bind_commutes _ _ _ _ _ fun interface => List.getElem?_map ..

@[simp]
theorem argument?_withoutSpans (ref : ArgumentRef) :
    model.withoutSpans.argument? ref = (model.argument? ref).map (·.withoutSpans) := by
  obtain ⟨interface, operation, direction, index⟩ := ref
  cases operation <;> cases direction <;>
    simp [argument?, Option.bind_map, Option.map_bind, Function.comp_def]

@[simp]
theorem contract?_withoutSpans (id : InterfaceId) :
    model.withoutSpans.contract? id = (model.contract? id).map (·.withoutSpans) := by
  rw [contract?, interface?_withoutSpans]
  exact bind_commutes _ _ _ _ _ fun interface => rfl

@[simp]
theorem stateVariable?_withoutSpans (id : InterfaceId) (index : Nat) :
    model.withoutSpans.stateVariable? id index =
      (model.stateVariable? id index).map (·.withoutSpans) := by
  rw [stateVariable?, contract?_withoutSpans]
  exact bind_commutes _ _ _ _ _ fun contract => List.getElem?_map ..

@[simp]
theorem field?_withoutSpans (owner : TypeId) (index : Nat) :
    model.withoutSpans.field? owner index = (model.field? owner index).map (·.withoutSpans) := by
  rw [field?, type?_withoutSpans]
  exact bind_commutes _ _ _ _ _ fun definition => by simp

@[simp]
theorem enumerator?_withoutSpans (owner : TypeId) (index : Nat) :
    model.withoutSpans.enumerator? owner index =
      (model.enumerator? owner index).map (·.withoutSpans) := by
  rw [enumerator?, type?_withoutSpans]
  exact bind_commutes _ _ _ _ _ fun definition => by simp

@[simp]
theorem interfaceIds_withoutSpans : model.withoutSpans.interfaceIds = model.interfaceIds := by
  simp [interfaceIds]

@[simp]
theorem typeIds_withoutSpans : model.withoutSpans.typeIds = model.typeIds := by
  simp [typeIds]

@[simp]
theorem interfaceName_withoutSpans (id : InterfaceId) :
    model.withoutSpans.interfaceName id = model.interfaceName id := by
  simp [interfaceName, Function.comp_def]

@[simp]
theorem typeName_withoutSpans (id : TypeId) :
    model.withoutSpans.typeName id = model.typeName id := by
  simp [typeName, Function.comp_def]

theorem interfaceBase?_withoutSpans : model.withoutSpans.interfaceBase? = model.interfaceBase? := by
  funext id
  cases found : model.interface? id <;> simp [interfaceBase?, found]

theorem typeBase?_withoutSpans : model.withoutSpans.typeBase? = model.typeBase? := by
  funext id
  cases found : model.type? id <;> simp [typeBase?, found]

@[simp]
theorem baseInterfaces_withoutSpans (id : InterfaceId) :
    model.withoutSpans.baseInterfaces id = model.baseInterfaces id := by
  simp [baseInterfaces, interfaceBase?_withoutSpans]

@[simp]
theorem inheritanceSet_withoutSpans (id : InterfaceId) :
    model.withoutSpans.inheritanceSet id = model.inheritanceSet id := by
  simp [inheritanceSet]

@[simp]
theorem baseTypes_withoutSpans (id : TypeId) :
    model.withoutSpans.baseTypes id = model.baseTypes id := by
  simp [baseTypes, typeBase?_withoutSpans]

@[simps]
def DeclaredField.withoutSpans (declared : DeclaredField) : DeclaredField :=
  { declared with field := declared.field.withoutSpans }

@[simp]
theorem ownFields_withoutSpans :
    model.withoutSpans.ownFields = fun id => (model.ownFields id).map (·.withoutSpans) := by
  funext id
  simp only [ownFields, type?_withoutSpans]
  cases model.type? id with
  | none => rfl
  | some definition => simp [List.zipIdx_map, DeclaredField.withoutSpans]

@[simp]
theorem allFields_withoutSpans (id : TypeId) :
    model.withoutSpans.allFields id = (model.allFields id).map (·.withoutSpans) := by
  simp [allFields, List.map_flatMap]

theorem followAlias_withoutSpans (steps : Nat) (ref : TypeRef) :
    model.withoutSpans.followAlias steps ref.withoutSpans =
      (model.followAlias steps ref).map (·.withoutSpans) := by
  induction steps generalizing ref with
  | zero => rfl
  | succ steps ih =>
      simp only [followAlias, TypeRef.withoutSpans_kind]
      cases ref.kind with
      | primitive primitive => rfl
      | interval lower upper => rfl
      | derived id =>
          simp only [type?_withoutSpans]
          cases model.type? id with
          | none => rfl
          | some definition =>
              simp only [Option.map_some, TypeDef.withoutSpans_kind]
              cases definition.kind with
              | «alias» actual => exact ih actual
              | _ => rfl

@[simp]
theorem resolveAlias_withoutSpans (ref : TypeRef) :
    model.withoutSpans.resolveAlias ref.withoutSpans =
      (model.resolveAlias ref).map (·.withoutSpans) := by
  simp [resolveAlias, followAlias_withoutSpans]

theorem valueTypeWithin_withoutSpans (levels : Nat) (ref : TypeRef) :
    model.withoutSpans.valueTypeWithin levels ref.withoutSpans =
      model.valueTypeWithin levels ref := by
  induction levels generalizing ref with
  | zero => rfl
  | succ levels ih =>
      simp only [valueTypeWithin, resolveAlias_withoutSpans]
      cases model.resolveAlias ref with
      | none => rfl
      | some resolved =>
          simp only [Option.map_some, TypeRef.withoutSpans_kind]
          cases resolved.kind with
          | primitive primitive => rfl
          | interval lower upper => rfl
          | derived id =>
              simp only [type?_withoutSpans]
              cases model.type? id with
              | none => rfl
              | some definition =>
                  simp only [Option.map_some, TypeDef.withoutSpans_kind]
                  cases definition.kind with
                  | array element => exact congrArg (·.map ValueType.array) (ih element)
                  | _ => rfl

@[simp]
theorem valueType_withoutSpans (type : DeclaredType) :
    model.withoutSpans.valueType type.withoutSpans = model.valueType type := by
  simp [valueType, valueTypeWithin_withoutSpans]

@[simp]
theorem compatible_withoutSpans (expected actual : ValueType) :
    model.withoutSpans.compatible expected actual = model.compatible expected actual := by
  induction expected generalizing actual with
  | array expected ih => cases actual <;> simp [compatible, ih]
  | _ => cases actual <;> simp [compatible]

@[simp]
theorem label_withoutSpans (type : ValueType) :
    type.label model.withoutSpans = type.label model := by
  induction type with
  | array element ih => simp [ValueType.label, ih]
  | _ => simp [ValueType.label]

@[simp]
theorem typeRefLabel_withoutSpans (ref : TypeRef) :
    model.withoutSpans.typeRefLabel ref.withoutSpans = model.typeRefLabel ref := by
  simp [typeRefLabel]

@[simp]
theorem declaredTypeLabel_withoutSpans (type : DeclaredType) :
    model.withoutSpans.declaredTypeLabel type.withoutSpans = model.declaredTypeLabel type := by
  simp [declaredTypeLabel]

@[simps]
def Element.withoutSpans (element : Element) : Element :=
  { element with type := element.type.map (·.withoutSpans) }

@[simp]
theorem element?_withoutSpans (element : ElementRef) :
    model.withoutSpans.element? element = (model.element? element).map (·.withoutSpans) := by
  cases element with
  | field owner index | enumerator owner index =>
      rw [element?, element?, type?_withoutSpans]
      refine bind_commutes _ _ _ _ _ fun definition => ?_
      simp only [TypeDef.withoutSpans_kind, TypeKind.fields_withoutSpans,
        TypeKind.enumerators_withoutSpans, List.getElem?_map]
      exact bind_commutes _ _ _ _ _ fun found => rfl
  | _ =>
      simp only [element?, attribute?_withoutSpans, argument?_withoutSpans,
        constant?_withoutSpans, stateVariable?_withoutSpans]
      exact bind_commutes _ _ _ _ _ fun found => rfl

end Model

@[simps]
def TypeSite.withoutSpans (site : TypeSite) : TypeSite :=
  { site with ref := site.ref.withoutSpans }

@[simps]
def ExprSite.withoutSpans (site : ExprSite) : ExprSite :=
  { site with expected := site.expected.map (·.withoutSpans) }

@[simps]
def AnnotationSite.withoutSpans (site : AnnotationSite) : AnnotationSite :=
  { site with annotations := site.annotations.map (·.withoutSpans) }

namespace Model

variable (model : Model)

theorem interfaceArguments_withoutSpans (id : InterfaceId) :
    model.withoutSpans.interfaceArguments id =
      (model.interfaceArguments id).map fun entry => (entry.1, entry.2.withoutSpans) := by
  rw [interfaceArguments, interfaceArguments, interface?_withoutSpans]
  cases model.interface? id with
  | none => rfl
  | some interface =>
      simp only [Option.map_some, List.map_append]
      congr 1
      · refine placed_commutes _ _ _ _ _ fun index method => ?_
        rw [List.map_append]
        congr 1 <;> exact placed_commutes _ _ _ _ _ fun position argument => rfl
      · exact placed_commutes _ _ _ _ _ fun index broadcast =>
          placed_commutes _ _ _ _ _ fun position argument => rfl

theorem typeSitesOfType_withoutSpans (id : TypeId) (definition : TypeDef) :
    typeSitesOfType id definition.withoutSpans =
      (typeSitesOfType id definition).map (·.withoutSpans) := by
  rw [typeSitesOfType, typeSitesOfType, TypeDef.withoutSpans_kind]
  cases definition.kind with
  | struct base polymorphic fields => exact placed_commutes _ _ _ _ _ fun index field => rfl
  | union base fields => exact placed_commutes _ _ _ _ _ fun index field => rfl
  | _ => rfl

theorem typeSitesOfInterface_withoutSpans (id : InterfaceId) (interface : Interface) :
    model.withoutSpans.typeSitesOfInterface id interface.withoutSpans =
      (model.typeSitesOfInterface id interface).map (·.withoutSpans) := by
  rw [typeSitesOfInterface, typeSitesOfInterface, interfaceArguments_withoutSpans,
    List.map_append, List.map_append, List.map_map, List.map_map]
  congr 2
  · exact placed_commutes _ _ _ _ _ fun index item => rfl
  · rw [Interface.withoutSpans_contract]
    cases interface.contract with
    | none => rfl
    | some contract => exact placed_commutes _ _ _ _ _ fun index item => rfl

@[simp]
theorem typeSites_withoutSpans :
    model.withoutSpans.typeSites = model.typeSites.map (·.withoutSpans) := by
  rw [typeSites, typeSites, List.map_append, List.map_append]
  congr 2
  · exact placed_commutes _ _ _ _ _ fun index => typeSitesOfType_withoutSpans ⟨index⟩
  · exact placed_commutes _ _ _ _ _ fun index definition => rfl
  · exact placed_commutes _ _ _ _ _ fun index => typeSitesOfInterface_withoutSpans model ⟨index⟩

theorem exprSitesOfErrors_withoutSpans (id : InterfaceId) (interface : Interface) :
    exprSitesOfErrors id interface.withoutSpans =
      (exprSitesOfErrors id interface).map (·.withoutSpans) := by
  refine placed_commutes _ _ _ _ _ fun index method => ?_
  rw [Method.withoutSpans_errors]
  cases method.errors with
  | none => rfl
  | some errors =>
      simp only [Option.map_some, MethodErrors.ownEnumerators_withoutSpans]
      refine placed_commutes _ _ _ _ _ fun position enumerator => ?_
      cases value : enumerator.value <;> simp [value, ExprSite.withoutSpans]

theorem exprSitesOfTransition_withoutSpans (id : InterfaceId) (state index : Nat)
    (transition : Transition) :
    exprSitesOfTransition id state index transition.withoutSpans =
      (exprSitesOfTransition id state index transition).map (·.withoutSpans) := by
  rw [exprSitesOfTransition, exprSitesOfTransition, List.map_append]
  congr 1
  · rw [Transition.withoutSpans_guard]
    cases transition.guard <;> rfl
  · exact placed_commutes _ _ _ _ _ fun position assignment => rfl

theorem exprSitesOfContract_withoutSpans (id : InterfaceId) (contract : Contract) :
    exprSitesOfContract id contract.withoutSpans =
      (exprSitesOfContract id contract).map (·.withoutSpans) := by
  rw [exprSitesOfContract, exprSitesOfContract, List.map_append]
  congr 1
  · refine placed_commutes _ _ _ _ _ fun index item => ?_
    cases init : item.init <;> simp [init, ExprSite.withoutSpans]
  · exact placed_commutes _ _ _ _ _ fun position state =>
      placed_commutes _ _ _ _ _ fun index => exprSitesOfTransition_withoutSpans id position index

@[simp]
theorem exprSites_withoutSpans :
    model.withoutSpans.exprSites = model.exprSites.map (·.withoutSpans) := by
  rw [exprSites, exprSites, List.map_append, List.map_append]
  congr 2
  · exact placed_commutes _ _ _ _ _ fun index definition => rfl
  · refine placed_commutes _ _ _ _ _ fun index definition => ?_
    rw [TypeDef.withoutSpans_kind, TypeKind.enumerators_withoutSpans]
    refine placed_commutes _ _ _ _ _ fun position enumerator => ?_
    cases value : enumerator.value <;> simp [value, ExprSite.withoutSpans]
  · refine placed_commutes _ _ _ _ _ fun index interface => ?_
    rw [List.map_append, exprSitesOfErrors_withoutSpans, Interface.withoutSpans_contract]
    congr 1
    cases interface.contract with
    | none => rfl
    | some contract => exact exprSitesOfContract_withoutSpans ⟨index⟩ contract

theorem annotationSitesOfType_withoutSpans (id : TypeId) (definition : TypeDef) :
    annotationSitesOfType id definition.withoutSpans =
      (annotationSitesOfType id definition).map (·.withoutSpans) := by
  rw [annotationSitesOfType, annotationSitesOfType, TypeDef.withoutSpans_kind,
    TypeKind.fields_withoutSpans, TypeKind.enumerators_withoutSpans, List.map_append,
    List.map_cons]
  congr 2
  · exact placed_commutes _ _ _ _ _ fun index field => rfl
  · exact placed_commutes _ _ _ _ _ fun index enumerator => rfl

theorem annotationSitesOfInterface_withoutSpans (id : InterfaceId) (interface : Interface) :
    model.withoutSpans.annotationSitesOfInterface id interface.withoutSpans =
      (model.annotationSitesOfInterface id interface).map (·.withoutSpans) := by
  rw [annotationSitesOfInterface, annotationSitesOfInterface, interfaceArguments_withoutSpans]
  simp only [List.map_append, List.map_cons, List.map_map]
  congr 1
  congr 1
  congr 2
  · exact placed_commutes _ _ _ _ _ fun index item => rfl
  · exact placed_commutes _ _ _ _ _ fun index method => rfl
  · exact placed_commutes _ _ _ _ _ fun index broadcast => rfl

@[simp]
theorem annotationSites_withoutSpans :
    model.withoutSpans.annotationSites = model.annotationSites.map (·.withoutSpans) := by
  have everywhere : model.withoutSpans.annotatableSites =
      model.annotatableSites.map (·.withoutSpans) := by
    rw [annotatableSites, annotatableSites]
    simp only [List.map_append]
    congr 3
    · exact placed_commutes _ _ _ _ _ fun index collection => rfl
    · exact placed_commutes _ _ _ _ _ fun index => annotationSitesOfType_withoutSpans ⟨index⟩
    · exact placed_commutes _ _ _ _ _ fun index definition => rfl
    · exact placed_commutes _ _ _ _ _ fun index =>
        annotationSitesOfInterface_withoutSpans model ⟨index⟩
  simp [annotationSites, everywhere, List.filter_map, Function.comp_def]

end Model

end FrancaAudit
