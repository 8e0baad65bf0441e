import FrancaAudit.Proofs.Model.Inheritance
import FrancaAudit.Proofs.Model.Stored
import FrancaAudit.Proofs.Model.Subexpression

/-!
The references that a model stores, and which of them a linked model resolves.

All references are examined but one kind: the field that an initializer names may be missing.
-/

namespace FrancaAudit

/-- The field named by an initializer that stands inside the expression. -/
def Expr.Initializes (expr : Expr) (path : List Expr.Step) (owner : TypeId) (index : Nat) : Prop :=
  ∃ inits, Expr.At expr path (.compound inits) ∧ (owner, index) ∈ inits.map FieldInit.key

/-- What a reference names. -/
inductive Reference
  | interface (id : InterfaceId)
  | type (id : TypeId)
  | constant (id : ConstantId)
  | owner (owner : Owner)
  | member (event : Event)
  | element (element : ElementRef)

namespace Model

variable (model : Model)

/-- The model has what the reference names. -/
def Knows : Reference → Prop
  | .interface id => (model.interface? id).isSome
  | .type id => (model.type? id).isSome
  | .constant id => (model.constant? id).isSome
  | .owner (.collection id) => (model.collection? id).isSome
  | .owner (.interface id) => (model.interface? id).isSome
  | .member ⟨.call, ref⟩ | .member ⟨.respond, ref⟩ | .member ⟨.error, ref⟩ =>
      (model.method? ref).isSome
  | .member ⟨.signal, ref⟩ => (model.broadcast? ref).isSome
  | .member ⟨.set, ref⟩ | .member ⟨.update, ref⟩ => (model.attribute? ref).isSome
  | .element element => (model.element? element).isSome

/-- The references of a model, but for the fields that initializers name. -/
inductive Stores : Reference → Prop
  | collectionType (collection : TypeCollection) (id : TypeId)
      (declared : collection ∈ model.collections) (listed : id ∈ collection.types) :
      Stores (.type id)
  | collectionConstant (collection : TypeCollection) (id : ConstantId)
      (declared : collection ∈ model.collections) (listed : id ∈ collection.constants) :
      Stores (.constant id)
  | interfaceBase (interface : Interface) (base : InterfaceId)
      (declared : interface ∈ model.interfaces) (extended : interface.base = some base) :
      Stores (.interface base)
  | interfaceType (interface : Interface) (id : TypeId)
      (declared : interface ∈ model.interfaces) (listed : id ∈ interface.types) :
      Stores (.type id)
  | interfaceConstant (interface : Interface) (id : ConstantId)
      (declared : interface ∈ model.interfaces) (listed : id ∈ interface.constants) :
      Stores (.constant id)
  | methodErrors (interface : Interface) (method : Method) (errors : MethodErrors) (id : TypeId)
      (declared : interface ∈ model.interfaces) (listed : method ∈ interface.methods)
      (failing : method.errors = some errors) (named : errors.Draws id) :
      Stores (.type id)
  | trigger (id : InterfaceId) (state index : Nat) (transition : Transition)
      (found : model.HasTransition id state index transition) :
      Stores (.member transition.trigger.event)
  | target (id : InterfaceId) (state index : Nat) (transition : Transition)
      (assignment : Assignment) (found : model.HasTransition id state index transition)
      (listed : assignment ∈ transition.assignments) : Stores (.element assignment.target)
  | typeOwner (definition : TypeDef) (declared : definition ∈ model.types) :
      Stores (.owner definition.owner)
  | typeBase (definition : TypeDef) (base : TypeId) (declared : definition ∈ model.types)
      (extended : definition.kind.HasBase base) : Stores (.type base)
  | constantOwner (definition : ConstantDef) (declared : definition ∈ model.constants) :
      Stores (.owner definition.owner)
  | typeUse (place : TypePlace) (site : TypeSite) (id : TypeId)
      (stands : model.TypeStandsAt place site) (named : site.ref.kind = .derived id) :
      Stores (.type id)
  | element (place : ExprPlace) (site : ExprSite) (path : List Expr.Step) (element : ElementRef)
      (stands : model.ExprStandsAt place site) (refers : site.expr.RefersAt path element) :
      Stores (.element element)

theorem danglingOwner_eq_nil (holder : String) (owner : Owner) :
    model.danglingOwner holder owner = [] ↔ model.Knows (.owner owner) := by
  cases owner <;> simp [danglingOwner, missing_eq_nil, Knows]

theorem hasMember_iff (event : Event) :
    model.hasMember event = true ↔ model.Knows (.member event) := by
  obtain ⟨kind, ref⟩ := event
  cases kind <;> simp [hasMember, Knows]

theorem danglingOfCollection_eq_nil (collection : TypeCollection) :
    model.danglingOfCollection collection = [] ↔
      (∀ id ∈ collection.types, model.Knows (.type id)) ∧
        ∀ id ∈ collection.constants, model.Knows (.constant id) := by
  rw [danglingOfCollection, List.append_eq_nil_iff, danglingTypes, danglingConstants,
    missing_all_eq_nil, missing_all_eq_nil]
  rfl

theorem danglingOfTransition_eq_nil (interface : Interface) (transition : Transition) :
    model.danglingOfTransition interface transition = [] ↔
      model.Knows (.member transition.trigger.event) ∧
        ∀ assignment ∈ transition.assignments, model.Knows (.element assignment.target) := by
  rw [← hasMember_iff]
  simp [danglingOfTransition, missing_eq_nil, Knows]

theorem danglingOfInterface_eq_nil (interface : Interface) :
    model.danglingOfInterface interface = [] ↔
      (∀ base, interface.base = some base → model.Knows (.interface base)) ∧
      (∀ id ∈ interface.types, model.Knows (.type id)) ∧
      (∀ id ∈ interface.constants, model.Knows (.constant id)) ∧
      (∀ method ∈ interface.methods, ∀ id errors, method.errors = some errors →
        errors.Draws id → model.Knows (.type id)) ∧
      ∀ contract, interface.contract = some contract → ∀ state ∈ contract.states,
        ∀ transition ∈ state.transitions,
          model.danglingOfTransition interface transition = [] := by
  simp only [danglingOfInterface, danglingTypes, danglingConstants, List.append_eq_nil_iff,
    List.flatMap_eq_nil_iff, missing_eq_nil, Option.mem_toList, Option.bind_eq_some_iff,
    MethodErrors.enumeration?_eq_some, forall_exists_index, and_imp, and_assoc]
  rfl

theorem danglingOfType_eq_nil (definition : TypeDef) :
    model.danglingOfType definition = [] ↔
      model.Knows (.owner definition.owner) ∧
        ∀ base, definition.kind.HasBase base → model.Knows (.type base) := by
  simp only [danglingOfType, List.append_eq_nil_iff, List.flatMap_eq_nil_iff, danglingOwner_eq_nil,
    missing_eq_nil, Option.mem_toList, TypeKind.base?_eq_some]
  rfl

theorem danglingOfTypeSite_eq_nil (site : TypeSite) :
    model.danglingOfTypeSite site = [] ↔
      ∀ id, site.ref.kind = .derived id → model.Knows (.type id) := by
  simp only [danglingOfTypeSite, danglingTypes, missing_all_eq_nil, Option.mem_toList,
    derivedId?_eq_some]
  rfl

theorem danglingOfExprSite_eq_nil (site : ExprSite) :
    model.danglingOfExprSite site = [] ↔
      ∀ path element, site.expr.RefersAt path element → model.Knows (.element element) := by
  simp only [danglingOfExprSite, List.flatMap_eq_nil_iff, missing_eq_nil, Expr.mem_elementRefs,
    forall_exists_index]
  exact forall_comm

theorem forall_transitions (holds : Transition → Prop) :
    (∀ interface ∈ model.interfaces, ∀ contract, interface.contract = some contract →
        ∀ state ∈ contract.states, ∀ transition ∈ state.transitions, holds transition) ↔
      ∀ id state index transition, model.HasTransition id state index transition →
        holds transition := by
  constructor
  · intro all id state index transition found
    obtain ⟨interface, contract, declared, known, agreed, inside, listed⟩ := found
    exact all interface (List.mem_of_getElem? known) contract agreed declared
      (List.mem_of_getElem? inside) transition (List.mem_of_getElem? listed)
  · intro all interface known contract agreed declared inside transition listed
    obtain ⟨position, known⟩ := List.getElem?_of_mem known
    obtain ⟨state, inside⟩ := List.getElem?_of_mem inside
    obtain ⟨index, listed⟩ := List.getElem?_of_mem listed
    exact all ⟨position⟩ state index transition
      ⟨interface, contract, declared, known, agreed, inside, listed⟩

theorem linked_iff_checked :
    model.Linked ↔
      (∀ collection ∈ model.collections,
        (∀ id ∈ collection.types, model.Knows (.type id)) ∧
          ∀ id ∈ collection.constants, model.Knows (.constant id)) ∧
      (∀ interface ∈ model.interfaces,
        (∀ base, interface.base = some base → model.Knows (.interface base)) ∧
        (∀ id ∈ interface.types, model.Knows (.type id)) ∧
        (∀ id ∈ interface.constants, model.Knows (.constant id)) ∧
        (∀ method ∈ interface.methods, ∀ id errors, method.errors = some errors →
          errors.Draws id → model.Knows (.type id)) ∧
        ∀ contract, interface.contract = some contract → ∀ state ∈ contract.states,
          ∀ transition ∈ state.transitions,
            model.Knows (.member transition.trigger.event) ∧
              ∀ assignment ∈ transition.assignments,
                model.Knows (.element assignment.target)) ∧
      (∀ definition ∈ model.types,
        model.Knows (.owner definition.owner) ∧
          ∀ base, definition.kind.HasBase base → model.Knows (.type base)) ∧
      (∀ definition ∈ model.constants, model.Knows (.owner definition.owner)) ∧
      (∀ site ∈ model.typeSites, ∀ id, site.ref.kind = .derived id → model.Knows (.type id)) ∧
      ∀ site ∈ model.exprSites, ∀ path element, site.expr.RefersAt path element →
        model.Knows (.element element) := by
  rw [linked_iff]
  simp only [danglingOfCollection_eq_nil, danglingOfInterface_eq_nil, danglingOfTransition_eq_nil,
    danglingOfType_eq_nil, danglingOwner_eq_nil, danglingOfTypeSite_eq_nil,
    danglingOfExprSite_eq_nil]

theorem knows_of_stores (linked : model.Linked) (reference : Reference)
    (stored : model.Stores reference) : model.Knows reference := by
  obtain ⟨ofCollections, ofInterfaces, ofTypes, ofConstants, ofTypeSites, ofExprSites⟩ :=
    (linked_iff_checked model).mp linked
  have ofTransitions := (model.forall_transitions _).mp fun interface declared =>
    (ofInterfaces interface declared).2.2.2.2
  cases stored with
  | collectionType collection id declared listed =>
      exact (ofCollections collection declared).1 id listed
  | collectionConstant collection id declared listed =>
      exact (ofCollections collection declared).2 id listed
  | interfaceBase interface base declared extended =>
      exact (ofInterfaces interface declared).1 base extended
  | interfaceType interface id declared listed =>
      exact (ofInterfaces interface declared).2.1 id listed
  | interfaceConstant interface id declared listed =>
      exact (ofInterfaces interface declared).2.2.1 id listed
  | methodErrors interface method errors id declared listed failing named =>
      exact (ofInterfaces interface declared).2.2.2.1 method listed id errors failing named
  | trigger id state index transition found =>
      exact (ofTransitions id state index transition found).1
  | target id state index transition assignment found listed =>
      exact (ofTransitions id state index transition found).2 assignment listed
  | typeOwner definition declared => exact (ofTypes definition declared).1
  | typeBase definition base declared extended => exact (ofTypes definition declared).2 base extended
  | constantOwner definition declared => exact ofConstants definition declared
  | typeUse place site id stands named =>
      exact ofTypeSites site ((model.typeSites_hold site).mpr ⟨place, stands⟩) id named
  | element place site path element stands refers =>
      exact ofExprSites site ((model.exprSites_hold site).mpr ⟨place, stands⟩) path element refers

/-- A model is linked if and only if it has all that its references name. -/
theorem linked_iff_knows :
    model.Linked ↔ ∀ reference, model.Stores reference → model.Knows reference := by
  constructor
  · exact model.knows_of_stores
  · intro all
    refine (linked_iff_checked model).mpr ⟨?_, ?_, ?_, ?_, ?_, ?_⟩
    · intro collection declared
      exact ⟨fun id listed => all _ (.collectionType collection id declared listed),
        fun id listed => all _ (.collectionConstant collection id declared listed)⟩
    · intro interface declared
      refine ⟨fun base extended => all _ (.interfaceBase interface base declared extended),
        fun id listed => all _ (.interfaceType interface id declared listed),
        fun id listed => all _ (.interfaceConstant interface id declared listed),
        fun method listed id errors failing named =>
          all _ (.methodErrors interface method errors id declared listed failing named), ?_⟩
      refine (model.forall_transitions _).mpr ?_ interface declared
      intro id state index transition found
      exact ⟨all _ (.trigger id state index transition found), fun assignment listed =>
        all _ (.target id state index transition assignment found listed)⟩
    · intro definition declared
      exact ⟨all _ (.typeOwner definition declared), fun base extended =>
        all _ (.typeBase definition base declared extended)⟩
    · intro definition declared
      exact all _ (.constantOwner definition declared)
    -- the check goes through lists, while references are stored at places
    · intro site listed id named
      obtain ⟨place, stands⟩ := (model.typeSites_hold site).mp listed
      exact all _ (.typeUse place site id stands named)
    · intro site listed path element refers
      obtain ⟨place, stands⟩ := (model.exprSites_hold site).mp listed
      exact all _ (.element place site path element stands refers)

/-- A constant whose value initializes a field of a type that is missing. -/
def strayInitializer : Model where
  name := "stray"
  collections := [⟨"Shapes", .unknown, [], [⟨0⟩], [⟨0⟩]⟩]
  interfaces := []
  types := [⟨"Point", .unknown, .collection ⟨0⟩, [],
    .struct none false [⟨"x", .unknown, [], ⟨.primitive .int32, false⟩⟩]⟩]
  constants := [⟨"ORIGIN", .unknown, .collection ⟨0⟩, [], ⟨.derived ⟨0⟩, false⟩,
    .compound [⟨⟨7⟩, 0, .literal (.integer 0)⟩]⟩]

/-- The references examined do not include the fields that initializers name. -/
theorem strayInitializer_linked :
    strayInitializer.Linked ∧ ∃ site path owner index,
      strayInitializer.exprAt? (.constant ⟨0⟩) = some site ∧
        site.expr.Initializes path owner index ∧
          ¬ strayInitializer.Knows (.element (.field owner index)) := by
  refine ⟨rfl, _, [], ⟨7⟩, 0, rfl, ⟨_, .here _, List.mem_singleton.mpr rfl⟩, ?_⟩
  simp [Knows, element?, type?, strayInitializer]

end Model

end FrancaAudit
