import FrancaAudit.Proofs.Check.Kind
import FrancaAudit.Proofs.Model.Linked
import FrancaAudit.Proofs.Precedence.Component

/-!
Dependencies between types, bases of interfaces, and what is said about their cycles.
-/

namespace FrancaAudit

namespace Model

/-- One type has no layout without the other. -/
inductive DependsOn (model : Model) (id : TypeId) : TypeId → Prop
  | base (definition : TypeDef) (base : TypeId) (found : model.type? id = some definition)
      (extended : definition.kind.HasBase base) : DependsOn model id base
  | field (definition : TypeDef) (index : Nat) (field : Field) (target : TypeId)
      (found : model.type? id = some definition) (declared : definition.kind.HasField index field)
      (named : field.type.ref.kind = .derived target) : DependsOn model id target
  | element (definition : TypeDef) (element : TypeRef) (target : TypeId)
      (found : model.type? id = some definition) (array : definition.kind = .array element)
      (named : element.kind = .derived target) : DependsOn model id target
  | key (definition : TypeDef) (key value : TypeRef) (target : TypeId)
      (found : model.type? id = some definition) (map : definition.kind = .map key value)
      (named : key.kind = .derived target) : DependsOn model id target
  | value (definition : TypeDef) (key value : TypeRef) (target : TypeId)
      (found : model.type? id = some definition) (map : definition.kind = .map key value)
      (named : value.kind = .derived target) : DependsOn model id target
  | actual (definition : TypeDef) (actual : TypeRef) (target : TypeId)
      (found : model.type? id = some definition) (aliased : definition.kind = .alias actual)
      (named : actual.kind = .derived target) : DependsOn model id target

def Extends (model : Model) (id base : InterfaceId) : Prop :=
  ∃ interface, model.interface? id = some interface ∧ interface.base = some base

theorem derivedId?_eq_some (ref : TypeRef) (target : TypeId) :
    ref.derivedId? = some target ↔ ref.kind = .derived target := by
  unfold TypeRef.derivedId?
  cases ref.kind <;> simp

end Model

theorem field_memberRef (kind : TypeKind) (index : Nat) (field : Field)
    (declared : kind.HasField index field) : field.type.ref ∈ kind.memberRefs := by
  cases declared with
  | struct base polymorphic fields _ _ listed =>
      exact List.mem_map_of_mem (List.mem_of_getElem? listed)
  | union base fields _ _ listed => exact List.mem_map_of_mem (List.mem_of_getElem? listed)

namespace Check

variable (model : Model)

theorem mem_typeDependencies (definition : TypeDef) (target : TypeId) :
    target ∈ typeDependencies definition ↔
      definition.kind.HasBase target ∨
        ∃ ref ∈ definition.kind.memberRefs, ref.kind = .derived target := by
  simp [typeDependencies, Model.derivedId?_eq_some, TypeKind.base?_eq_some]

theorem dependsOn_of_memberRef (id target : TypeId) (definition : TypeDef) (ref : TypeRef)
    (found : model.type? id = some definition) (used : ref ∈ definition.kind.memberRefs)
    (named : ref.kind = .derived target) : model.DependsOn id target := by
  cases kind : definition.kind with
  | struct base polymorphic fields =>
      rw [kind] at used
      obtain ⟨field, declared, rfl⟩ := List.mem_map.mp used
      obtain ⟨index, listed⟩ := List.getElem?_of_mem declared
      exact .field definition index field target found
        (kind ▸ .struct base polymorphic fields index field listed) named
  | union base fields =>
      rw [kind] at used
      obtain ⟨field, declared, rfl⟩ := List.mem_map.mp used
      obtain ⟨index, listed⟩ := List.getElem?_of_mem declared
      exact .field definition index field target found
        (kind ▸ .union base fields index field listed) named
  | enumeration base enumerators =>
      rw [kind] at used
      exact absurd used List.not_mem_nil
  | array element =>
      rw [kind] at used
      obtain rfl := List.mem_singleton.mp used
      exact .element definition ref target found kind named
  | map key value =>
      rw [kind] at used
      rcases List.mem_cons.mp used with rfl | last
      · exact .key definition ref value target found kind named
      · obtain rfl := List.mem_singleton.mp last
        exact .value definition key ref target found kind named
  | «alias» actual =>
      rw [kind] at used
      obtain rfl := List.mem_singleton.mp used
      exact .actual definition ref target found kind named

theorem dependsOn_iff (id target : TypeId) :
    model.DependsOn id target ↔
      ∃ definition, model.type? id = some definition ∧ target ∈ typeDependencies definition := by
  simp only [mem_typeDependencies]
  constructor
  · intro step
    cases step with
    | base definition base found extended => exact ⟨definition, found, Or.inl extended⟩
    | field definition index field target found declared named =>
        exact ⟨definition, found,
          Or.inr ⟨field.type.ref, field_memberRef _ index field declared, named⟩⟩
    | element definition element target found array named =>
        exact ⟨definition, found, Or.inr ⟨element, by simp [array, TypeKind.memberRefs], named⟩⟩
    | key definition key value target found map named =>
        exact ⟨definition, found, Or.inr ⟨key, by simp [map, TypeKind.memberRefs], named⟩⟩
    | value definition key value target found map named =>
        exact ⟨definition, found, Or.inr ⟨value, by simp [map, TypeKind.memberRefs], named⟩⟩
    | actual definition actual target found aliased named =>
        exact ⟨definition, found, Or.inr ⟨actual, by simp [aliased, TypeKind.memberRefs], named⟩⟩
  · rintro ⟨definition, found, extended | ⟨ref, used, named⟩⟩
    · exact .base definition target found extended
    · exact dependsOn_of_memberRef model id target definition ref found used named

def typeSteps : List (Precedence.Step TypeId) :=
  Precedence.stepsOf model.typeIds (model.types.zipIdx.flatMap fun (definition, index) =>
    (typeDependencies definition).map fun dependency => (dependency, ⟨index⟩))

def interfaceSteps : List (Precedence.Step InterfaceId) :=
  Precedence.stepsOf model.interfaceIds (model.interfaces.zipIdx.flatMap fun (interface, index) =>
    interface.base.toList.map fun base => (base, ⟨index⟩))

theorem typePrecedence_eq_build : typePrecedence model = Precedence.build (typeSteps model) :=
  (Precedence.build_stepsOf _ _).symm

theorem interfacePrecedence_eq_build :
    interfacePrecedence model = Precedence.build (interfaceSteps model) :=
  (Precedence.build_stepsOf _ _).symm

theorem edge_typePrecedence (before after : TypeId) :
    (typePrecedence model).Edge before after ↔ model.DependsOn after before := by
  rw [typePrecedence_eq_build, typeSteps, Precedence.edge_stepsOf, dependsOn_iff]
  obtain ⟨position⟩ := after
  simp only [List.mem_flatMap, List.mem_map, Prod.exists, List.mk_mem_zipIdx_iff_getElem?,
    Model.type?]
  constructor
  · rintro ⟨definition, index, found, dependency, used, same⟩
    obtain ⟨rfl, rfl⟩ : dependency = before ∧ index = position := by simpa using same
    exact ⟨definition, found, used⟩
  · rintro ⟨definition, found, used⟩
    exact ⟨definition, position, found, before, used, rfl⟩

theorem edge_interfacePrecedence (before after : InterfaceId) :
    (interfacePrecedence model).Edge before after ↔ model.Extends after before := by
  rw [interfacePrecedence_eq_build, interfaceSteps, Precedence.edge_stepsOf]
  obtain ⟨position⟩ := after
  simp only [List.mem_flatMap, List.mem_map, Prod.exists, List.mk_mem_zipIdx_iff_getElem?,
    Option.mem_toList, Model.Extends, Model.interface?]
  constructor
  · rintro ⟨interface, index, found, base, extended, same⟩
    obtain ⟨rfl, rfl⟩ : base = before ∧ index = position := by simpa using same
    exact ⟨interface, found, extended⟩
  · rintro ⟨interface, found, extended⟩
    exact ⟨interface, position, found, before, extended, rfl⟩

theorem onCycle_typePrecedence (id : TypeId) :
    (typePrecedence model).OnCycle id ↔ Relation.TransGen model.DependsOn id id :=
  Precedence.onCycle_swap _ _ (edge_typePrecedence model) id

theorem onCycle_interfacePrecedence (id : InterfaceId) :
    (interfacePrecedence model).OnCycle id ↔ Relation.TransGen model.Extends id id :=
  Precedence.onCycle_swap _ _ (edge_interfacePrecedence model) id

theorem typeIds_ascending : model.typeIds.Pairwise (·.index < ·.index) :=
  List.pairwise_map.mpr List.pairwise_lt_range

theorem interfaceIds_ascending : model.interfaceIds.Pairwise (·.index < ·.index) :=
  List.pairwise_map.mpr List.pairwise_lt_range

theorem typeIds_nodup : model.typeIds.Nodup :=
  (typeIds_ascending model).imp fun less same => Nat.ne_of_lt less (congrArg TypeId.index same)

theorem interfaceIds_nodup : model.interfaceIds.Nodup :=
  (interfaceIds_ascending model).imp fun less same =>
    Nat.ne_of_lt less (congrArg InterfaceId.index same)

theorem dependsOn_source (id target : TypeId) (step : model.DependsOn id target) :
    (model.type? id).isSome := by
  obtain ⟨definition, found, _⟩ := (dependsOn_iff model id target).mp step
  exact Option.isSome_of_eq_some found

section Linked

variable (linked : model.Linked)

include linked

theorem linked_dependsOn (id target : TypeId) (step : model.DependsOn id target) :
    (model.type? target).isSome := by
  obtain ⟨definition, found, used⟩ := (dependsOn_iff model id target).mp step
  rcases (mem_typeDependencies definition target).mp used with extended | ⟨ref, member, named⟩
  · exact Model.linked_typeBase model linked id definition target found extended
  · exact Model.linked_memberRef model linked id definition ref target found member
      ((Model.derivedId?_eq_some ref target).mpr named)

-- Without links a dependency could enter a type that the model does not have.
theorem nodes_typePrecedence : (typePrecedence model).nodes = model.typeIds := by
  rw [typePrecedence_eq_build]
  refine Precedence.nodes_stepsOf _ _ (typeIds_nodup model) ?_
  intro edge member
  have step : model.DependsOn edge.2 edge.1 := by
    rw [← edge_typePrecedence, typePrecedence_eq_build]
    exact (Precedence.edge_stepsOf ..).mpr member
  exact ⟨(model.mem_typeIds _).mpr (linked_dependsOn model linked _ _ step),
    (model.mem_typeIds _).mpr (dependsOn_source model _ _ step)⟩

theorem nodes_interfacePrecedence :
    (interfacePrecedence model).nodes = model.interfaceIds := by
  rw [interfacePrecedence_eq_build]
  refine Precedence.nodes_stepsOf _ _ (interfaceIds_nodup model) ?_
  intro edge member
  have step : model.Extends edge.2 edge.1 := by
    rw [← edge_interfacePrecedence, interfacePrecedence_eq_build]
    exact (Precedence.edge_stepsOf ..).mpr member
  obtain ⟨interface, found, extended⟩ := step
  exact ⟨(model.mem_interfaceIds _).mpr
      (Model.linked_interfaceBase model linked _ interface _ found extended),
    (model.mem_interfaceIds _).mpr (Option.isSome_of_eq_some found)⟩

end Linked

theorem typePrecedence_wellFormed : (typePrecedence model).WellFormed := by
  rw [typePrecedence_eq_build]
  exact Precedence.build_wellFormed _

theorem interfacePrecedence_wellFormed : (interfacePrecedence model).WellFormed := by
  rw [interfacePrecedence_eq_build]
  exact Precedence.build_wellFormed _

theorem typeOrder_eq_ok (order : List TypeId) :
    typeOrder model = .ok order ↔ (typePrecedence model).order = .ok order := by
  unfold typeOrder
  cases (typePrecedence model).order <;> simp [Except.mapError]

theorem typeOrder_eq_error (cycle : TypeCycle) :
    typeOrder model = .error cycle ↔
      (typePrecedence model).order? = none ∧ cycle.types = (typePrecedence model).cyclicNodes := by
  unfold typeOrder Precedence.order
  obtain ⟨types⟩ := cycle
  cases (typePrecedence model).order? <;> simp [Except.mapError, eq_comm]

-- Where there is an order, there are no nodes on cycles either, so the two cases agree.
theorem cyclicTypes_eq : cyclicTypes model = (typePrecedence model).cyclicNodes := by
  unfold cyclicTypes
  cases found : typeOrder model with
  | ok order =>
      exact (Precedence.cyclicNodes_eq_nil _ (typePrecedence_wellFormed model) order
        ((typeOrder_eq_ok model order).mp found)).symm
  | error cycle => exact ((typeOrder_eq_error model cycle).mp found).2

theorem cyclicInterfaces_eq :
    cyclicInterfaces model = (interfacePrecedence model).cyclicNodes := by
  unfold cyclicInterfaces
  cases found : (interfacePrecedence model).order with
  | ok order =>
      exact (Precedence.cyclicNodes_eq_nil _ (interfacePrecedence_wellFormed model) order
        found).symm
  | error cyclic =>
      rw [((Precedence.order_eq_error _ cyclic).mp found).2]

theorem mem_cyclicTypes (id : TypeId) :
    id ∈ cyclicTypes model ↔ Relation.TransGen model.DependsOn id id := by
  rw [cyclicTypes_eq, Precedence.mem_cyclicNodes _ (typePrecedence_wellFormed model),
    onCycle_typePrecedence]

theorem mem_cyclicInterfaces (id : InterfaceId) :
    id ∈ cyclicInterfaces model ↔ Relation.TransGen model.Extends id id := by
  rw [cyclicInterfaces_eq, Precedence.mem_cyclicNodes _ (interfacePrecedence_wellFormed model),
    onCycle_interfacePrecedence]

def cycleErrors (findings : List Diagnostic) : List Diagnostic :=
  (findings.filter fun finding => finding.kind = .cyclicDependency).filter Diagnostic.isError

def typeAt? : Node → Option TypeId
  | .type id => some id
  | _ => none

def interfaceAt? : Node → Option InterfaceId
  | .interface id => some id
  | _ => none

def reportedTypes (findings : List Diagnostic) : List TypeId :=
  (cycleErrors findings).filterMap fun finding => typeAt? finding.node

def reportedInterfaces (findings : List Diagnostic) : List InterfaceId :=
  (cycleErrors findings).filterMap fun finding => interfaceAt? finding.node

theorem cycleErrors_dependencyFindings :
    cycleErrors (dependencyFindings model) = dependencyFindings model := by
  simp only [cycleErrors, List.filter_filter, List.filter_eq_self]
  intro finding member
  rw [dependencyFindings, (appends_checkDependencies model).findings_eq] at member
  rcases List.mem_append.mp member with ofType | ofInterface
  · obtain ⟨id, _, rfl⟩ := List.mem_map.mp ofType
    rfl
  · obtain ⟨id, _, rfl⟩ := List.mem_map.mp ofInterface
    rfl

theorem cycleErrors_checkModel :
    cycleErrors (checkModel model) = dependencyFindings model := by
  rw [cycleErrors, filter_checkModel, List.filter_eq_self]
  intro finding member
  rw [← cycleErrors_dependencyFindings] at member
  exact (List.mem_filter.mp member).2

theorem reportedTypes_dependencyFindings :
    reportedTypes (dependencyFindings model) = cyclicTypes model := by
  rw [reportedTypes, cycleErrors_dependencyFindings, dependencyFindings,
    (appends_checkDependencies model).findings_eq]
  simp [List.filterMap_append, List.filterMap_map, Function.comp_def, typeCycleError,
    interfaceCycleError, Diagnostic.error, typeAt?]

theorem reportedInterfaces_dependencyFindings :
    reportedInterfaces (dependencyFindings model) = cyclicInterfaces model := by
  rw [reportedInterfaces, cycleErrors_dependencyFindings, dependencyFindings,
    (appends_checkDependencies model).findings_eq]
  simp [List.filterMap_append, List.filterMap_map, Function.comp_def, typeCycleError,
    interfaceCycleError, Diagnostic.error, interfaceAt?]

theorem reportedTypes_checkModel :
    reportedTypes (checkModel model) = reportedTypes (dependencyFindings model) := by
  rw [reportedTypes, reportedTypes, cycleErrors_checkModel, cycleErrors_dependencyFindings]

theorem reportedInterfaces_checkModel :
    reportedInterfaces (checkModel model) = reportedInterfaces (dependencyFindings model) := by
  rw [reportedInterfaces, reportedInterfaces, cycleErrors_checkModel,
    cycleErrors_dependencyFindings]

theorem typeOrder_exists :
    (∃ order, typeOrder model = .ok order) ↔ ∀ id, ¬ Relation.TransGen model.DependsOn id id := by
  simp only [typeOrder_eq_ok, Precedence.order_exists _ (typePrecedence_wellFormed model),
    Precedence.Acyclic, onCycle_typePrecedence]

theorem typeOrder_respects (linked : model.Linked) (order : List TypeId)
    (found : typeOrder model = .ok order) :
    order.Nodup ∧ (∀ id, id ∈ order ↔ (model.type? id).isSome) ∧
      ∀ id target, model.DependsOn id target → order.idxOf target < order.idxOf id := by
  have valid := typePrecedence_wellFormed model
  obtain ⟨same, ahead⟩ := Precedence.order_respects _ valid order
    ((typeOrder_eq_ok model order).mp found)
  rw [nodes_typePrecedence model linked] at same
  refine ⟨same.nodup_iff.mpr (typeIds_nodup model), ?_, ?_⟩
  · intro id
    rw [same.mem_iff, Model.mem_typeIds]
  · intro id target step
    exact ahead target id ((edge_typePrecedence model target id).mpr step)

theorem cyclicTypes_ascending (linked : model.Linked) :
    (cyclicTypes model).Pairwise (·.index < ·.index) := by
  rw [cyclicTypes_eq, Precedence.cyclicNodes, nodes_typePrecedence model linked]
  exact (typeIds_ascending model).sublist List.filter_sublist

theorem cyclicInterfaces_ascending (linked : model.Linked) :
    (cyclicInterfaces model).Pairwise (·.index < ·.index) := by
  rw [cyclicInterfaces_eq, Precedence.cyclicNodes, nodes_interfacePrecedence model linked]
  exact (interfaceIds_ascending model).sublist List.filter_sublist

/-- The types of a linked model have an order exactly if none depends on itself. Otherwise those
that do are named, and they are the types with an error about a cycle, one for each. -/
theorem typeOrder_cycles (linked : model.Linked) :
    ((∃ order, typeOrder model = .ok order) ↔
        ∀ id, ¬ Relation.TransGen model.DependsOn id id) ∧
      (∀ order, typeOrder model = .ok order →
        (order.Nodup ∧ (∀ id, id ∈ order ↔ (model.type? id).isSome) ∧
          ∀ id target, model.DependsOn id target → order.idxOf target < order.idxOf id) ∧
        reportedTypes (dependencyFindings model) = [] ∧
        reportedTypes (checkModel model) = []) ∧
      (∀ cycle, typeOrder model = .error cycle →
        (∀ id, id ∈ cycle.types ↔ Relation.TransGen model.DependsOn id id) ∧
        cycle.types.Pairwise (·.index < ·.index) ∧
        reportedTypes (dependencyFindings model) = cycle.types ∧
        reportedTypes (checkModel model) = cycle.types) ∧
      (∀ id, id ∈ reportedInterfaces (dependencyFindings model) ↔
        Relation.TransGen model.Extends id id) ∧
      (reportedInterfaces (dependencyFindings model)).Pairwise (·.index < ·.index) ∧
      reportedInterfaces (checkModel model) = reportedInterfaces (dependencyFindings model) := by
  rw [reportedTypes_checkModel, reportedTypes_dependencyFindings, reportedInterfaces_checkModel,
    reportedInterfaces_dependencyFindings]
  refine ⟨typeOrder_exists model, ?_, ?_, mem_cyclicInterfaces model,
    cyclicInterfaces_ascending model linked, rfl⟩
  · intro order found
    have none : cyclicTypes model = [] := by simp [cyclicTypes, found]
    exact ⟨typeOrder_respects model linked order found, none, none⟩
  · intro cycle found
    have named : cycle.types = cyclicTypes model := by simp [cyclicTypes, found]
    rw [named]
    exact ⟨mem_cyclicTypes model, cyclicTypes_ascending model linked, rfl, rfl⟩

def bareType (name : String) (kind : TypeKind) : TypeDef :=
  ⟨name, .unknown, .collection ⟨0⟩, [], kind⟩

def bareConstant (name : String) (type : TypeRef) (value : Expr) : ConstantDef :=
  ⟨name, .unknown, .collection ⟨0⟩, [], ⟨type, false⟩, value⟩

def ringInterface (name : String) (base : Nat) : Interface :=
  ⟨name, .unknown, [], some ⟨base⟩, [], [], [], [], [], none⟩

/-- Three types in a circle and one beside it, circles of bases for each kind of type that has any,
and two interfaces in a circle with one beside it. -/
def ring : Model where
  name := "ring"
  collections := [⟨"Types", .unknown, [], (List.range 10).map TypeId.mk, []⟩]
  interfaces := [ringInterface "A" 1, ringInterface "B" 0, ringInterface "C" 1]
  types :=
    [bareType "Beside" (.array (.derived ⟨1⟩)),
      bareType "Node" (.struct none false [⟨"next", .unknown, [], ⟨.derived ⟨2⟩, false⟩⟩]),
      bareType "Table" (.map (.primitive .string) (.derived ⟨3⟩)),
      bareType "Link" (.alias (.derived ⟨1⟩)),
      bareType "Shell" (.struct (some ⟨5⟩) true []), bareType "Snail" (.struct (some ⟨4⟩) true []),
      bareType "Either" (.union (some ⟨6⟩) []), bareType "Other" (.union (some ⟨6⟩) []),
      bareType "Dark" (.enumeration (some ⟨9⟩) [⟨"black", .unknown, [], none⟩]),
      bareType "Light" (.enumeration (some ⟨8⟩) [⟨"white", .unknown, [], none⟩])]
  constants := []

def ringTypes : List TypeId := [⟨1⟩, ⟨2⟩, ⟨3⟩, ⟨4⟩, ⟨5⟩, ⟨6⟩, ⟨8⟩, ⟨9⟩]

theorem typeOrder_of_ring :
    typeOrder ring = .error ⟨ringTypes⟩ ∧
      (∀ id, id ∈ ringTypes ↔ Relation.TransGen ring.DependsOn id id) ∧
      reportedTypes (checkModel ring) = ringTypes ∧
      reportedInterfaces (dependencyFindings ring) = [⟨0⟩, ⟨1⟩] ∧
      ∀ id, id ∈ [⟨0⟩, ⟨1⟩] ↔ Relation.TransGen ring.Extends id id := by
  have linked : ring.Linked := rfl
  have failed : typeOrder ring = .error ⟨ringTypes⟩ := rfl
  have circle : reportedInterfaces (dependencyFindings ring) = [⟨0⟩, ⟨1⟩] := rfl
  obtain ⟨_, _, cycles, interfaces, _⟩ := typeOrder_cycles ring linked
  obtain ⟨onCycle, _, _, reported⟩ := cycles ⟨ringTypes⟩ failed
  exact ⟨failed, onCycle, reported, circle, circle ▸ interfaces⟩

end Check

end FrancaAudit
