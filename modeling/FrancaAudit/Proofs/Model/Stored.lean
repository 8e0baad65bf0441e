import FrancaAudit.Proofs.Model.Definition
import FrancaAudit.Proofs.Model.Place

/-!
What a model stores at each place, said about its declarations as they are nested.

Nothing here looks anything up by a reference or puts lists together. A type reference or an
expression is stored where the declarations around it say so, and every one has its entry in the
flat list, at the element that holds it and with the container of that element.
-/

namespace FrancaAudit

@[simp]
def TypePlace.node : TypePlace → Node
  | .field owner index => .field owner index
  | .element id | .key id | .value id | .actual id => .type id
  | .constant id => .constant id
  | .attribute ref => .attribute ref
  | .argument ref => .argument ref
  | .stateVariable interface index => .stateVariable interface index

namespace ExprPlace

/-- The element that holds the expression. An error code of a method belongs to the method. -/
@[simp]
def node : ExprPlace → Node
  | .constant id => .constant id
  | .enumerator owner index => .enumerator owner index
  | .errorCode method _ => .method method
  | .initial interface index => .stateVariable interface index
  | .guard interface state index | .assigned interface state index _ =>
      .transition interface state index

@[simp]
def feature : ExprPlace → Feature
  | .constant _ | .enumerator .. | .initial .. => .value
  | .errorCode .. => .errors
  | .guard .. => .guard
  | .assigned .. => .assignment

/-- Which of the values of the feature it is, if there can be several. -/
@[simp]
def position? : ExprPlace → Option Nat
  | .errorCode _ position | .assigned _ _ _ position => some position
  | .constant _ | .enumerator .. | .initial .. | .guard .. => none

@[simp]
def role : ExprPlace → ExprRole
  | .constant _ => .constantValue
  | .enumerator .. | .errorCode .. => .enumeratorValue
  | .initial .. => .initialValue
  | .guard .. => .guard
  | .assigned .. => .assignedValue

end ExprPlace

namespace Model

variable (model : Model)

def HasAttribute (ref : MemberRef) (item : Attribute) : Prop :=
  ∃ interface, model.interfaces[ref.interface.index]? = some interface ∧
    interface.attributes[ref.index]? = some item

theorem hasAttribute_iff (ref : MemberRef) (item : Attribute) :
    model.HasAttribute ref item ↔ model.attribute? ref = some item :=
  Option.bind_eq_some_iff.symm

def HasStateVariable (id : InterfaceId) (index : Nat) (item : StateVariable) : Prop :=
  ∃ interface contract, model.interfaces[id.index]? = some interface ∧
    interface.contract = some contract ∧ contract.stateVariables[index]? = some item

theorem hasStateVariable_iff (id : InterfaceId) (index : Nat) (item : StateVariable) :
    model.HasStateVariable id index item ↔ model.stateVariable? id index = some item := by
  simp only [stateVariable?, Option.bind_eq_bind, Option.bind_eq_some_iff, contract?_eq_some]
  constructor
  · rintro ⟨interface, contract, found, agreed, listed⟩
    exact ⟨contract, ⟨interface, found, agreed⟩, listed⟩
  · rintro ⟨contract, ⟨interface, found, agreed⟩, listed⟩
    exact ⟨interface, contract, found, agreed, listed⟩

def HasTransition (id : InterfaceId) (position index : Nat) (transition : Transition) : Prop :=
  ∃ interface contract state, model.interfaces[id.index]? = some interface ∧
    interface.contract = some contract ∧ contract.states[position]? = some state ∧
    state.transitions[index]? = some transition

theorem hasTransition_iff (id : InterfaceId) (position index : Nat) (transition : Transition) :
    model.HasTransition id position index transition ↔
      model.transition? id position index = some transition := by
  simp only [HasTransition, transition?_eq_some, contract?_eq_some, interface?]
  constructor
  · rintro ⟨interface, contract, state, found, agreed, declared, listed⟩
    exact ⟨contract, ⟨interface, found, agreed⟩, state, declared, listed⟩
  · rintro ⟨contract, ⟨interface, found, agreed⟩, state, declared, listed⟩
    exact ⟨interface, contract, state, found, agreed, declared, listed⟩

theorem hasTransition_unique (id : InterfaceId) (position index : Nat) (first second : Transition)
    (has : model.HasTransition id position index first)
    (again : model.HasTransition id position index second) : first = second := by
  rw [hasTransition_iff] at has again
  exact Option.some.inj (has.symm.trans again)

/-- Methods have arguments of both directions, broadcasts have outgoing ones only. -/
inductive HasArgument : ArgumentRef → Argument → Prop
  | methodInput (id : InterfaceId) (interface : Interface) (position index : Nat) (method : Method)
      (argument : Argument) (found : model.interfaces[id.index]? = some interface)
      (listed : interface.methods[position]? = some method)
      (taken : method.inArgs[index]? = some argument) :
      HasArgument ⟨id, .method position, .input, index⟩ argument
  | methodOutput (id : InterfaceId) (interface : Interface) (position index : Nat)
      (method : Method) (argument : Argument)
      (found : model.interfaces[id.index]? = some interface)
      (listed : interface.methods[position]? = some method)
      (given : method.outArgs[index]? = some argument) :
      HasArgument ⟨id, .method position, .output, index⟩ argument
  | broadcastOutput (id : InterfaceId) (interface : Interface) (position index : Nat)
      (broadcast : Broadcast) (argument : Argument)
      (found : model.interfaces[id.index]? = some interface)
      (listed : interface.broadcasts[position]? = some broadcast)
      (given : broadcast.outArgs[index]? = some argument) :
      HasArgument ⟨id, .broadcast position, .output, index⟩ argument

theorem hasArgument_of_argument? (ref : ArgumentRef) (argument : Argument)
    (located : model.argument? ref = some argument) : model.HasArgument ref argument := by
  obtain ⟨id, operation, direction, index⟩ := ref
  obtain ⟨arguments, declared, taken⟩ := Option.bind_eq_some_iff.mp located
  cases operation with
  | method position =>
      cases direction with
      | input =>
          obtain ⟨method, known, rfl⟩ := Option.map_eq_some_iff.mp declared
          obtain ⟨interface, found, listed⟩ := Option.bind_eq_some_iff.mp known
          exact .methodInput id interface position index method argument found listed taken
      | output =>
          obtain ⟨method, known, rfl⟩ := Option.map_eq_some_iff.mp declared
          obtain ⟨interface, found, listed⟩ := Option.bind_eq_some_iff.mp known
          exact .methodOutput id interface position index method argument found listed taken
  | broadcast position =>
      cases direction with
      | input => exact absurd declared (Option.some_ne_none _).symm
      | output =>
          obtain ⟨broadcast, known, rfl⟩ := Option.map_eq_some_iff.mp declared
          obtain ⟨interface, found, listed⟩ := Option.bind_eq_some_iff.mp known
          exact .broadcastOutput id interface position index broadcast argument found listed taken

theorem hasArgument_iff (ref : ArgumentRef) (argument : Argument) :
    model.HasArgument ref argument ↔ model.argument? ref = some argument := by
  refine ⟨fun has => ?_, hasArgument_of_argument? model ref argument⟩
  cases has with
  | methodInput id interface position index method argument found listed taken =>
      simp [argument?, method?, interface?, found, listed, taken]
  | methodOutput id interface position index method argument found listed given =>
      simp [argument?, method?, interface?, found, listed, given]
  | broadcastOutput id interface position index broadcast argument found listed given =>
      simp [argument?, broadcast?, interface?, found, listed, given]

/-- The model stores the type reference at the place, and the container is that of its holder. -/
inductive HoldsType : TypePlace → Owner → TypeRef → Prop
  | field (id : TypeId) (definition : TypeDef) (index : Nat) (field : Field)
      (found : model.types[id.index]? = some definition)
      (listed : definition.kind.HasField index field) :
      HoldsType (.field id index) definition.owner field.type.ref
  | element (id : TypeId) (definition : TypeDef) (element : TypeRef)
      (found : model.types[id.index]? = some definition)
      (array : definition.kind = .array element) :
      HoldsType (.element id) definition.owner element
  | key (id : TypeId) (definition : TypeDef) (key value : TypeRef)
      (found : model.types[id.index]? = some definition)
      (map : definition.kind = .map key value) : HoldsType (.key id) definition.owner key
  | value (id : TypeId) (definition : TypeDef) (key value : TypeRef)
      (found : model.types[id.index]? = some definition)
      (map : definition.kind = .map key value) : HoldsType (.value id) definition.owner value
  | actual (id : TypeId) (definition : TypeDef) (actual : TypeRef)
      (found : model.types[id.index]? = some definition)
      (aliased : definition.kind = .alias actual) :
      HoldsType (.actual id) definition.owner actual
  | constant (id : ConstantId) (definition : ConstantDef)
      (found : model.constants[id.index]? = some definition) :
      HoldsType (.constant id) definition.owner definition.type.ref
  | attribute (id : InterfaceId) (interface : Interface) (index : Nat) (item : Attribute)
      (found : model.interfaces[id.index]? = some interface)
      (listed : interface.attributes[index]? = some item) :
      HoldsType (.attribute ⟨id, index⟩) (.interface id) item.type.ref
  | argument (ref : ArgumentRef) (argument : Argument) (has : model.HasArgument ref argument) :
      HoldsType (.argument ref) (.interface ref.interface) argument.type.ref
  | stateVariable (id : InterfaceId) (interface : Interface) (contract : Contract) (index : Nat)
      (item : StateVariable) (found : model.interfaces[id.index]? = some interface)
      (agreed : interface.contract = some contract)
      (listed : contract.stateVariables[index]? = some item) :
      HoldsType (.stateVariable id index) (.interface id) item.type.ref

/-- The entry is the one of the type reference that is stored at the place. -/
structure TypeStandsAt (place : TypePlace) (site : TypeSite) : Prop where
  holds : model.HoldsType place site.context site.ref
  node : site.node = place.node

theorem typeAt?_of_holds (place : TypePlace) (context : Owner) (ref : TypeRef)
    (holds : model.HoldsType place context ref) :
    model.typeAt? place = some ⟨place.node, context, ref⟩ := by
  cases holds with
  | field id definition index field found listed =>
      simp [typeAt?, type?, found, (definition.kind.fields_eq_some index field).mpr listed]
  | element id definition element found array =>
      simp [typeAt?, type?, found, array]
  | key id definition key value found map =>
      simp [typeAt?, type?, found, map]
  | value id definition key value found map =>
      simp [typeAt?, type?, found, map]
  | actual id definition actual found aliased =>
      simp [typeAt?, type?, found, aliased]
  | constant id definition found =>
      simp [typeAt?, constant?, found]
  | «attribute» id interface index item found listed =>
      simp [typeAt?, attribute?, interface?, found, listed]
  | argument ref argument has =>
      simp [typeAt?, (hasArgument_iff model ref argument).mp has]
  | stateVariable id interface contract index item found agreed listed =>
      simp [typeAt?, stateVariable?, contract?, interface?, found, agreed, listed]

theorem mem_interfaceArguments (id : InterfaceId) (entry : ArgumentRef × Argument)
    (listed : entry ∈ model.interfaceArguments id) : model.argumentAt? entry.1 = some entry := by
  cases known : model.interface? id with
  | none => simp [interfaceArguments, known] at listed
  | some interface =>
      have surveys := interfaceArguments_survey model id interface known
      obtain ⟨ref, _, found⟩ := (mem_of_surveys _ _ surveys entry).mp listed
      obtain ⟨argument, _, rfl⟩ := Option.map_eq_some_iff.mp found
      exact found

/-- No argument is lost by looking it up once more. -/
theorem interfaceArguments_again (id : InterfaceId) :
    ((model.interfaceArguments id).map Prod.fst).filterMap model.argumentAt? =
      model.interfaceArguments id := by
  rw [List.filterMap_map]
  exact (List.filterMap_congr (mem_interfaceArguments model id)).trans List.filterMap_some

-- A place inside a type asks for one kind of type. With any other kind nothing is found there.
theorem typeStandsAt_of_typeAt? (place : TypePlace) (site : TypeSite)
    (stands : model.typeAt? place = some site) : model.TypeStandsAt place site := by
  cases place with
  | field id index =>
      obtain ⟨definition, found, used⟩ := Option.bind_eq_some_iff.mp stands
      obtain ⟨field, listed, same⟩ := Option.bind_eq_some_iff.mp used
      obtain rfl := Option.some.inj same
      have declared := (definition.kind.fields_eq_some index field).mp listed
      exact ⟨.field id definition index field found declared, rfl⟩
  | element id =>
      obtain ⟨definition, found, used⟩ := Option.bind_eq_some_iff.mp stands
      cases kind : definition.kind with
      | array element =>
          obtain rfl : _ = site := by simpa [kind] using used
          exact ⟨.element id definition element found kind, rfl⟩
      | _ => simp [kind] at used
  | key id =>
      obtain ⟨definition, found, used⟩ := Option.bind_eq_some_iff.mp stands
      cases kind : definition.kind with
      | map key value =>
          obtain rfl : _ = site := by simpa [kind] using used
          exact ⟨.key id definition key value found kind, rfl⟩
      | _ => simp [kind] at used
  | value id =>
      obtain ⟨definition, found, used⟩ := Option.bind_eq_some_iff.mp stands
      cases kind : definition.kind with
      | map key value =>
          obtain rfl : _ = site := by simpa [kind] using used
          exact ⟨.value id definition key value found kind, rfl⟩
      | _ => simp [kind] at used
  | actual id =>
      obtain ⟨definition, found, used⟩ := Option.bind_eq_some_iff.mp stands
      cases kind : definition.kind with
      | «alias» actual =>
          obtain rfl : _ = site := by simpa [kind] using used
          exact ⟨.actual id definition actual found kind, rfl⟩
      | _ => simp [kind] at used
  | constant id =>
      obtain ⟨definition, found, same⟩ := Option.bind_eq_some_iff.mp stands
      obtain rfl := Option.some.inj same
      exact ⟨.constant id definition found, rfl⟩
  | «attribute» ref =>
      obtain ⟨id, index⟩ := ref
      obtain ⟨item, known, same⟩ := Option.bind_eq_some_iff.mp stands
      obtain ⟨interface, found, listed⟩ := Option.bind_eq_some_iff.mp known
      obtain rfl := Option.some.inj same
      exact ⟨.attribute id interface index item found listed, rfl⟩
  | argument ref =>
      obtain ⟨argument, located, same⟩ := Option.bind_eq_some_iff.mp stands
      obtain rfl := Option.some.inj same
      exact ⟨.argument ref argument ((hasArgument_iff model ref argument).mpr located), rfl⟩
  | stateVariable id index =>
      obtain ⟨item, known, same⟩ := Option.bind_eq_some_iff.mp stands
      obtain ⟨interface, contract, found, agreed, listed⟩ :=
        (hasStateVariable_iff model id index item).mpr known
      obtain rfl := Option.some.inj same
      exact ⟨.stateVariable id interface contract index item found agreed listed, rfl⟩

theorem typeAt?_eq_some (place : TypePlace) (site : TypeSite) :
    model.typeAt? place = some site ↔ model.TypeStandsAt place site := by
  refine ⟨typeStandsAt_of_typeAt? model place site, fun stands => ?_⟩
  rw [typeAt?_of_holds model place _ _ stands.holds, ← stands.node]

theorem typeSites_hold (site : TypeSite) :
    site ∈ model.typeSites ↔ ∃ place, model.TypeStandsAt place site := by
  simp only [mem_typeSites, typeAt?_eq_some]

theorem typeSites_stored : SurveysAll model.TypeStandsAt model.typeSites :=
  surveys_congr _ _ _ (fun place site => and_congr_right fun _ => typeAt?_eq_some model place site)
    model.typeSites_survey

/-- The model stores the expression at the place, and the container is that of its holder. -/
inductive HoldsExpr : ExprPlace → Owner → Expr → Prop
  | constant (id : ConstantId) (definition : ConstantDef)
      (found : model.constants[id.index]? = some definition) :
      HoldsExpr (.constant id) definition.owner definition.value
  | enumerator (id : TypeId) (definition : TypeDef) (base : Option TypeId)
      (enumerators : List Enumerator) (index : Nat) (enumerator : Enumerator) (value : Expr)
      (found : model.types[id.index]? = some definition)
      (enumeration : definition.kind = .enumeration base enumerators)
      (listed : enumerators[index]? = some enumerator)
      (given : enumerator.value = some value) :
      HoldsExpr (.enumerator id index) definition.owner value
  | errorCode (id : InterfaceId) (interface : Interface) (index : Nat) (method : Method)
      (base : Option TypeId) (enumerators : List Enumerator) (position : Nat)
      (enumerator : Enumerator) (value : Expr)
      (found : model.interfaces[id.index]? = some interface)
      (declared : interface.methods[index]? = some method)
      (failing : method.errors = some (.inline base enumerators))
      (listed : enumerators[position]? = some enumerator)
      (given : enumerator.value = some value) :
      HoldsExpr (.errorCode ⟨id, index⟩ position) (.interface id) value
  | initial (id : InterfaceId) (interface : Interface) (contract : Contract) (index : Nat)
      (item : StateVariable) (value : Expr) (found : model.interfaces[id.index]? = some interface)
      (agreed : interface.contract = some contract)
      (listed : contract.stateVariables[index]? = some item) (given : item.init = some value) :
      HoldsExpr (.initial id index) (.interface id) value
  | guard (id : InterfaceId) (interface : Interface) (contract : Contract) (position : Nat)
      (state : State) (index : Nat) (transition : Transition) (guard : Guard)
      (found : model.interfaces[id.index]? = some interface)
      (agreed : interface.contract = some contract)
      (declared : contract.states[position]? = some state)
      (listed : state.transitions[index]? = some transition)
      (guarded : transition.guard = some guard) :
      HoldsExpr (.guard id position index) (.interface id) guard.condition
  | assigned (id : InterfaceId) (interface : Interface) (contract : Contract) (position : Nat)
      (state : State) (index : Nat) (transition : Transition) (place : Nat)
      (assignment : Assignment) (found : model.interfaces[id.index]? = some interface)
      (agreed : interface.contract = some contract)
      (declared : contract.states[position]? = some state)
      (listed : state.transitions[index]? = some transition)
      (assigning : transition.assignments[place]? = some assignment) :
      HoldsExpr (.assigned id position index place) (.interface id) assignment.value

/-- The type that is declared for a value at the place, if there is one. -/
@[simp]
def expected? : ExprPlace → Option DeclaredType
  | .constant id => (model.constant? id).map (·.type)
  | .initial interface index => (model.stateVariable? interface index).map (·.type)
  | .enumerator .. | .errorCode .. | .guard .. | .assigned .. => none

structure ExprStandsAt (place : ExprPlace) (site : ExprSite) : Prop where
  holds : model.HoldsExpr place site.context site.expr
  node : site.node = place.node
  feature : site.feature = place.feature
  index : site.index = place.position?
  role : site.role = place.role
  expected : site.expected = model.expected? place

def exprEntry (place : ExprPlace) (context : Owner) (expr : Expr) : ExprSite :=
  ⟨place.node, place.feature, place.position?, context, place.role, expr, model.expected? place⟩

theorem exprAt?_of_holds (place : ExprPlace) (context : Owner) (expr : Expr)
    (holds : model.HoldsExpr place context expr) :
    model.exprAt? place = some (model.exprEntry place context expr) := by
  cases holds with
  | constant id definition found => simp [exprAt?, exprEntry, constant?, found]
  | enumerator id definition base enumerators index enumerator value found enumeration listed
      given =>
      simp [exprAt?, exprEntry, type?, found, enumeration, TypeKind.enumerators,
        TypeKind.enumerators?, listed, given]
  | errorCode id interface index method base enumerators position enumerator value found declared
      failing listed given =>
      simp [exprAt?, exprEntry, method?, interface?, found, declared, failing,
        MethodErrors.ownEnumerators, listed, given]
  | initial id interface contract index item value found agreed listed given =>
      simp [exprAt?, exprEntry, stateVariable?, contract?, interface?, found, agreed, listed, given]
  | guard id interface contract position state index transition guard found agreed declared listed
      guarded =>
      simp [exprAt?, exprEntry, transition?, state?, contract?, interface?, found, agreed, declared,
        listed, guarded]
  | assigned id interface contract position state index transition place assignment found agreed
      declared listed assigning =>
      simp [exprAt?, exprEntry, transition?, state?, contract?, interface?, found, agreed, declared,
        listed, assigning]

-- Error codes have values of their own only where they are declared inline.
theorem exprStandsAt_of_exprAt? (place : ExprPlace) (site : ExprSite)
    (stands : model.exprAt? place = some site) : model.ExprStandsAt place site := by
  cases place with
  | constant id =>
      obtain ⟨definition, found, same⟩ := Option.bind_eq_some_iff.mp stands
      obtain rfl := Option.some.inj same
      exact ⟨.constant id definition found, rfl, rfl, rfl, rfl, by simp [found]⟩
  | enumerator id index =>
      obtain ⟨definition, found, used⟩ := Option.bind_eq_some_iff.mp stands
      obtain ⟨enumerator, listed, valued⟩ := Option.bind_eq_some_iff.mp used
      obtain ⟨value, given, same⟩ := Option.bind_eq_some_iff.mp valued
      obtain rfl := Option.some.inj same
      cases kind : definition.kind with
      | enumeration base enumerators =>
          rw [kind] at listed
          exact ⟨.enumerator id definition base enumerators index enumerator value found kind listed
            given, rfl, rfl, rfl, rfl, rfl⟩
      | _ => simp [kind, TypeKind.enumerators, TypeKind.enumerators?] at listed
  | errorCode ref position =>
      obtain ⟨id, index⟩ := ref
      obtain ⟨method, known, used⟩ := Option.bind_eq_some_iff.mp stands
      obtain ⟨interface, found, declared⟩ := Option.bind_eq_some_iff.mp known
      obtain ⟨errors, failing, coded⟩ := Option.bind_eq_some_iff.mp used
      obtain ⟨enumerator, listed, valued⟩ := Option.bind_eq_some_iff.mp coded
      obtain ⟨value, given, same⟩ := Option.bind_eq_some_iff.mp valued
      obtain rfl := Option.some.inj same
      cases errors with
      | enumeration other => simp [MethodErrors.ownEnumerators] at listed
      | inline base enumerators =>
          exact ⟨.errorCode id interface index method base enumerators position enumerator value
            found declared failing listed given, rfl, rfl, rfl, rfl, rfl⟩
  | initial id index =>
      obtain ⟨item, known, valued⟩ := Option.bind_eq_some_iff.mp stands
      obtain ⟨interface, contract, found, agreed, listed⟩ :=
        (hasStateVariable_iff model id index item).mpr known
      obtain ⟨value, given, same⟩ := Option.bind_eq_some_iff.mp valued
      obtain rfl := Option.some.inj same
      exact ⟨.initial id interface contract index item value found agreed listed given,
        rfl, rfl, rfl, rfl, by simp [known]⟩
  | guard id position index =>
      obtain ⟨transition, known, used⟩ := Option.bind_eq_some_iff.mp stands
      obtain ⟨interface, contract, state, found, agreed, declared, listed⟩ :=
        (hasTransition_iff model id position index transition).mpr known
      obtain ⟨guard, guarded, same⟩ := Option.bind_eq_some_iff.mp used
      obtain rfl := Option.some.inj same
      exact ⟨.guard id interface contract position state index transition guard found agreed
        declared listed guarded, rfl, rfl, rfl, rfl, rfl⟩
  | assigned id position index place =>
      obtain ⟨transition, known, used⟩ := Option.bind_eq_some_iff.mp stands
      obtain ⟨interface, contract, state, found, agreed, declared, listed⟩ :=
        (hasTransition_iff model id position index transition).mpr known
      obtain ⟨assignment, assigning, same⟩ := Option.bind_eq_some_iff.mp used
      obtain rfl := Option.some.inj same
      exact ⟨.assigned id interface contract position state index transition place assignment
        found agreed declared listed assigning, rfl, rfl, rfl, rfl, rfl⟩

theorem exprAt?_eq_some (place : ExprPlace) (site : ExprSite) :
    model.exprAt? place = some site ↔ model.ExprStandsAt place site := by
  refine ⟨exprStandsAt_of_exprAt? model place site, fun stands => ?_⟩
  rw [exprAt?_of_holds model place _ _ stands.holds, exprEntry, ← stands.node, ← stands.feature,
    ← stands.index, ← stands.role, ← stands.expected]

theorem exprSites_hold (site : ExprSite) :
    site ∈ model.exprSites ↔ ∃ place, model.ExprStandsAt place site := by
  simp only [mem_exprSites, exprAt?_eq_some]

theorem exprSites_stored : SurveysAll model.ExprStandsAt model.exprSites :=
  surveys_congr _ _ _ (fun place site => and_congr_right fun _ => exprAt?_eq_some model place site)
    model.exprSites_survey

end Model

end FrancaAudit
