import FrancaAudit.Proofs.Model.Survey

/-!
Every place of a model where a type is used or an expression stands.

The look-ups here go straight to one place and say what is there. The flat lists of uses and
expressions survey them: each place is listed once, and nothing else is.
-/

namespace FrancaAudit

inductive TypePlace
  | field (owner : TypeId) (index : Nat)
  | element (id : TypeId)
  | key (id : TypeId)
  | value (id : TypeId)
  | actual (id : TypeId)
  | constant (id : ConstantId)
  | attribute (ref : MemberRef)
  | argument (ref : ArgumentRef)
  | stateVariable (interface : InterfaceId) (index : Nat)

inductive ExprPlace
  | constant (id : ConstantId)
  | enumerator (owner : TypeId) (index : Nat)
  | errorCode (method : MemberRef) (index : Nat)
  | initial (interface : InterfaceId) (index : Nat)
  | guard (interface : InterfaceId) (state transition : Nat)
  | assigned (interface : InterfaceId) (state transition index : Nat)

inductive Holder
  | type (id : TypeId)
  | constant (id : ConstantId)
  | interface (id : InterfaceId)

def TypePlace.holder : TypePlace → Holder
  | .field id _ | .element id | .key id | .value id | .actual id => .type id
  | .constant id => .constant id
  | .attribute ref => .interface ref.interface
  | .argument ref => .interface ref.interface
  | .stateVariable interface _ => .interface interface

def ExprPlace.holder : ExprPlace → Holder
  | .constant id => .constant id
  | .enumerator owner _ => .type owner
  | .errorCode method _ => .interface method.interface
  | .initial interface _ | .guard interface _ _ | .assigned interface _ _ _ => .interface interface

namespace Model

variable (model : Model)

def typeAt? : TypePlace → Option TypeSite
  | .field owner index => do
      let definition ← model.type? owner
      let field ← definition.kind.fields[index]?
      return ⟨.field owner index, definition.owner, field.type.ref⟩
  | .element id => do
      let definition ← model.type? id
      match definition.kind with
      | .array element => return ⟨.type id, definition.owner, element⟩
      | _ => none
  | .key id => do
      let definition ← model.type? id
      match definition.kind with
      | .map key _ => return ⟨.type id, definition.owner, key⟩
      | _ => none
  | .value id => do
      let definition ← model.type? id
      match definition.kind with
      | .map _ value => return ⟨.type id, definition.owner, value⟩
      | _ => none
  | .actual id => do
      let definition ← model.type? id
      match definition.kind with
      | .alias actual => return ⟨.type id, definition.owner, actual⟩
      | _ => none
  | .constant id => do
      let definition ← model.constant? id
      return ⟨.constant id, definition.owner, definition.type.ref⟩
  | .attribute ref => do
      let item ← model.attribute? ref
      return ⟨.attribute ref, .interface ref.interface, item.type.ref⟩
  | .argument ref => do
      let argument ← model.argument? ref
      return ⟨.argument ref, .interface ref.interface, argument.type.ref⟩
  | .stateVariable interface index => do
      let item ← model.stateVariable? interface index
      return ⟨.stateVariable interface index, .interface interface, item.type.ref⟩

def exprAt? : ExprPlace → Option ExprSite
  | .constant id => do
      let definition ← model.constant? id
      return ⟨.constant id, .value, none, definition.owner, .constantValue, definition.value,
        some definition.type⟩
  | .enumerator owner index => do
      let definition ← model.type? owner
      let enumerator ← definition.kind.enumerators[index]?
      let value ← enumerator.value
      return ⟨.enumerator owner index, .value, none, definition.owner, .enumeratorValue, value, none⟩
  | .errorCode ref index => do
      let method ← model.method? ref
      let errors ← method.errors
      let enumerator ← errors.ownEnumerators[index]?
      let value ← enumerator.value
      return ⟨.method ref, .errors, some index, .interface ref.interface, .enumeratorValue, value,
        none⟩
  | .initial interface index => do
      let item ← model.stateVariable? interface index
      let value ← item.init
      return ⟨.stateVariable interface index, .value, none, .interface interface, .initialValue,
        value, some item.type⟩
  | .guard interface state index => do
      let transition ← model.transition? interface state index
      let guard ← transition.guard
      return ⟨.transition interface state index, .guard, none, .interface interface, .guard,
        guard.condition, none⟩
  | .assigned interface state index position => do
      let transition ← model.transition? interface state index
      let assignment ← transition.assignments[position]?
      return ⟨.transition interface state index, .assignment, some position, .interface interface,
        .assignedValue, assignment.value, none⟩

def Has : Holder → Prop
  | .type id => (model.type? id).isSome
  | .constant id => (model.constant? id).isSome
  | .interface id => (model.interface? id).isSome

theorem contract?_eq_some (id : InterfaceId) (contract : Contract) :
    model.contract? id = some contract ↔
      ∃ interface, model.interface? id = some interface ∧ interface.contract = some contract :=
  Option.bind_eq_some_iff

theorem transition?_eq_some (id : InterfaceId) (state index : Nat) (transition : Transition) :
    model.transition? id state index = some transition ↔
      ∃ contract, model.contract? id = some contract ∧
        ∃ declared, contract.states[state]? = some declared ∧
          declared.transitions[index]? = some transition := by
  simp only [transition?, state?, Option.bind_eq_bind, Option.bind_eq_some_iff]
  constructor
  · rintro ⟨declared, ⟨contract, agreed, located⟩, listed⟩
    exact ⟨contract, agreed, declared, located, listed⟩
  · rintro ⟨contract, agreed, declared, located, listed⟩
    exact ⟨declared, ⟨contract, agreed, located⟩, listed⟩

theorem contract?_has (id : InterfaceId) (contract : Contract)
    (agreed : model.contract? id = some contract) : model.Has (.interface id) := by
  obtain ⟨interface, known, _⟩ := (contract?_eq_some model id contract).mp agreed
  exact Option.isSome_of_eq_some known

theorem argument?_has (ref : ArgumentRef) (argument : Argument)
    (found : model.argument? ref = some argument) : model.Has (.interface ref.interface) := by
  cases known : model.interface? ref.interface with
  | some interface => exact Option.isSome_of_eq_some known
  | none =>
      obtain ⟨interface, operation, direction, index⟩ := ref
      cases operation <;> cases direction <;>
        simp [argument?, method?, broadcast?, known] at found

theorem stateVariable?_has (id : InterfaceId) (index : Nat) (item : StateVariable)
    (found : model.stateVariable? id index = some item) : model.Has (.interface id) := by
  obtain ⟨contract, agreed, _⟩ := Option.bind_eq_some_iff.mp found
  exact contract?_has model id contract agreed

theorem transition?_has (id : InterfaceId) (state index : Nat) (transition : Transition)
    (found : model.transition? id state index = some transition) : model.Has (.interface id) := by
  obtain ⟨contract, agreed, _⟩ := (transition?_eq_some model id state index transition).mp found
  exact contract?_has model id contract agreed

section Holders

variable {Place α : Type} {Holds : Place → α → Prop} (holder : Place → Holder)
variable (has : ∀ place item, Holds place item → model.Has (holder place))

include has

theorem surveys_types (pieces : TypeId → TypeDef → List α)
    (each : ∀ id definition, model.type? id = some definition →
      Surveys Holds (fun place => holder place = .type id) (pieces id definition)) :
    Surveys Holds (fun place => ∃ index, holder place = .type ⟨index⟩)
      (placed model.types fun index definition => pieces ⟨index⟩ definition) := by
  refine surveys_keyed holder model.Has has model.types (fun index => .type ⟨index⟩) _ ?_ ?_
    fun index => each ⟨index⟩
  · intro first second same
    exact congrArg TypeId.index (Holder.type.inj same)
  · simp [Has, type?]

theorem surveys_constants (pieces : ConstantId → ConstantDef → List α)
    (each : ∀ id definition, model.constant? id = some definition →
      Surveys Holds (fun place => holder place = .constant id) (pieces id definition)) :
    Surveys Holds (fun place => ∃ index, holder place = .constant ⟨index⟩)
      (placed model.constants fun index definition => pieces ⟨index⟩ definition) := by
  refine surveys_keyed holder model.Has has model.constants (fun index => .constant ⟨index⟩) _ ?_ ?_
    fun index => each ⟨index⟩
  · intro first second same
    exact congrArg ConstantId.index (Holder.constant.inj same)
  · simp [Has, constant?]

theorem surveys_interfaces (pieces : InterfaceId → Interface → List α)
    (each : ∀ id interface, model.interface? id = some interface →
      Surveys Holds (fun place => holder place = .interface id) (pieces id interface)) :
    Surveys Holds (fun place => ∃ index, holder place = .interface ⟨index⟩)
      (placed model.interfaces fun index interface => pieces ⟨index⟩ interface) := by
  refine surveys_keyed holder model.Has has model.interfaces (fun index => .interface ⟨index⟩) _
    ?_ ?_
    fun index => each ⟨index⟩
  · intro first second same
    exact congrArg InterfaceId.index (Holder.interface.inj same)
  · simp [Has, interface?]

end Holders

abbrev SurveysTypes (region : TypePlace → Prop) (sites : List TypeSite) : Prop :=
  Surveys (fun place site => model.typeAt? place = some site) region sites

theorem fieldSites_survey (id : TypeId) (definition : TypeDef)
    (found : model.type? id = some definition) :
    model.SurveysTypes (fun place => ∃ index, place = .field id index)
      (placed definition.kind.fields fun index field =>
        [⟨.field id index, definition.owner, field.type.ref⟩]) := by
  apply surveys_positions model.typeAt? definition.kind.fields (.field id)
  · intro first second same
    exact (TypePlace.field.inj same).2
  · intro index field located
    simp [typeAt?, found, located]
  · intro index beyond
    simp [typeAt?, found, beyond]

/-- A definition of any kind uses types in its fields and in the parts of an array, map or alias,
most of which it does not have. -/
theorem typeSitesOfType_eq (id : TypeId) (definition : TypeDef)
    (found : model.type? id = some definition) :
    typeSitesOfType id definition =
      (placed definition.kind.fields fun index field =>
        [⟨.field id index, definition.owner, field.type.ref⟩]) ++
      [TypePlace.element id, .key id, .value id, .actual id].flatMap fun place =>
        (model.typeAt? place).toList := by
  unfold typeSitesOfType
  cases kind : definition.kind <;>
    simp [typeAt?, found, kind, TypeKind.fields, TypeKind.fields?, TypeKind.memberRefs, placed]

theorem typeSitesOfType_survey (id : TypeId) (definition : TypeDef)
    (found : model.type? id = some definition) :
    model.SurveysTypes (fun place => place.holder = .type id) (typeSitesOfType id definition) := by
  rw [typeSitesOfType_eq model id definition found]
  have parts := surveys_lookups model.typeAt? [.element id, .key id, .value id, .actual id]
    (by simp)
  refine surveys_region _ _ _ ?_
    (surveys_append _ _ _ _ (fieldSites_survey model id definition found) parts ?_)
  · intro place site _
    cases place <;> simp [TypePlace.holder]
  · rintro _ ⟨index, rfl⟩
    simp

def argumentAt? (ref : ArgumentRef) : Option (ArgumentRef × Argument) :=
  (model.argument? ref).map fun argument => (ref, argument)

abbrev SurveysArguments (region : ArgumentRef → Prop) (entries : List (ArgumentRef × Argument)) :
    Prop :=
  Surveys (fun ref entry => model.argumentAt? ref = some entry) region entries

theorem argumentList_survey (id : InterfaceId) (operation : Operation) (direction : Direction)
    (arguments : List Argument)
    (found : ∀ index, model.argument? ⟨id, operation, direction, index⟩ = arguments[index]?) :
    model.SurveysArguments (fun ref => ∃ index, ref = ⟨id, operation, direction, index⟩)
      (placed arguments fun index argument => [(⟨id, operation, direction, index⟩, argument)]) := by
  apply surveys_positions model.argumentAt? arguments fun index =>
    ⟨id, operation, direction, index⟩
  · intro first second same
    exact (ArgumentRef.mk.inj same).2.2.2
  · intro index argument located
    simp [argumentAt?, found, located]
  · intro index beyond
    simp [argumentAt?, found, beyond]

section Interface

variable (id : InterfaceId) (interface : Interface) (known : model.interface? id = some interface)

include known

theorem methodArguments_survey (index : Nat) (method : Method)
    (located : interface.methods[index]? = some method) :
    model.SurveysArguments (fun ref => ref.interface = id ∧ ref.operation = .method index)
      ((placed method.inArgs fun position argument =>
          [(⟨id, .method index, .input, position⟩, argument)]) ++
        placed method.outArgs fun position argument =>
          [(⟨id, .method index, .output, position⟩, argument)]) := by
  have inward :=
      argumentList_survey model id (.method index) .input method.inArgs fun position => by
    simp [argument?, method?, known, located]
  have outward := argumentList_survey model id (.method index) .output method.outArgs
    fun position => by simp [argument?, method?, known, located]
  refine surveys_region _ _ _ (fun ref entry _ => ?_) (surveys_append _ _ _ _ inward outward ?_)
  · obtain ⟨_, _, direction, position⟩ := ref
    cases direction <;> simp
  · rintro _ ⟨position, rfl⟩
    simp

theorem broadcastArguments_survey (index : Nat) (broadcast : Broadcast)
    (located : interface.broadcasts[index]? = some broadcast) :
    model.SurveysArguments (fun ref => ref.interface = id ∧ ref.operation = .broadcast index)
      (placed broadcast.outArgs fun position argument =>
        [(⟨id, .broadcast index, .output, position⟩, argument)]) := by
  have outward := argumentList_survey model id (.broadcast index) .output broadcast.outArgs
    fun position => by simp [argument?, broadcast?, known, located]
  refine surveys_region _ _ _ (fun ref entry stands => ?_) outward
  obtain ⟨_, operation, direction, position⟩ := ref
  cases direction with
  | output => simp
  | input =>
      -- no argument of a broadcast has this direction
      suffices operation ≠ .broadcast index by simp [this]
      rintro rfl
      simp [argumentAt?, argument?] at stands

theorem argumentAt?_method (index : Nat) (ref : ArgumentRef) (entry : ArgumentRef × Argument)
    (stands : model.argumentAt? ref = some entry) (inside : ref.interface = id)
    (operation : ref.operation = .method index) : index < interface.methods.length := by
  obtain ⟨_, _, direction, position⟩ := ref
  obtain rfl := inside
  obtain rfl := operation
  cases located : interface.methods[index]? with
  | none => cases direction <;> simp [argumentAt?, argument?, method?, known, located] at stands
  | some method => exact (List.getElem?_eq_some_iff.mp located).1

theorem argumentAt?_broadcast (index : Nat) (ref : ArgumentRef) (entry : ArgumentRef × Argument)
    (stands : model.argumentAt? ref = some entry) (inside : ref.interface = id)
    (operation : ref.operation = .broadcast index) : index < interface.broadcasts.length := by
  obtain ⟨_, _, direction, position⟩ := ref
  obtain rfl := inside
  obtain rfl := operation
  cases located : interface.broadcasts[index]? with
  | none => cases direction <;> simp [argumentAt?, argument?, broadcast?, known, located] at stands
  | some broadcast => exact (List.getElem?_eq_some_iff.mp located).1

theorem interfaceArguments_survey :
    model.SurveysArguments (fun ref => ref.interface = id) (model.interfaceArguments id) := by
  have methods := surveys_placed interface.methods _
    (fun index (ref : ArgumentRef) => ref.interface = id ∧ ref.operation = .method index)
    (fun first second ref here there => Operation.method.inj (here.2.symm.trans there.2))
    (methodArguments_survey model id interface known)
    fun index ref entry here stands =>
      argumentAt?_method model id interface known index ref entry stands here.1 here.2
  have broadcasts := surveys_placed interface.broadcasts _
    (fun index (ref : ArgumentRef) => ref.interface = id ∧ ref.operation = .broadcast index)
    (fun first second ref here there => Operation.broadcast.inj (here.2.symm.trans there.2))
    (broadcastArguments_survey model id interface known)
    fun index ref entry here stands =>
      argumentAt?_broadcast model id interface known index ref entry stands here.1 here.2
  simp only [interfaceArguments, known]
  refine surveys_region _ _ _ (fun ref entry _ => ?_)
    (surveys_append _ _ _ _ methods broadcasts ?_)
  · cases operation : ref.operation <;> simp
  · rintro ref ⟨index, _, here⟩ ⟨_, _, there⟩
    simp [here] at there

theorem attributeSites_survey :
    model.SurveysTypes (fun place => ∃ index, place = .attribute ⟨id, index⟩)
      (placed interface.attributes fun index item =>
        [⟨.attribute ⟨id, index⟩, .interface id, item.type.ref⟩]) := by
  apply surveys_positions model.typeAt? interface.attributes fun index => .attribute ⟨id, index⟩
  · intro first second same
    exact (MemberRef.mk.inj (TypePlace.attribute.inj same)).2
  · intro index item located
    simp [typeAt?, attribute?, known, located]
  · intro index beyond
    simp [typeAt?, attribute?, known, beyond]

theorem argumentSites_survey :
    model.SurveysTypes (fun place => ∃ ref, place = .argument ref ∧ ref.interface = id)
      ((model.interfaceArguments id).map fun (ref, argument) =>
        ⟨.argument ref, .interface id, argument.type.ref⟩) := by
  refine surveys_convert _ model.typeAt? _ _ TypePlace.argument _
    (fun first second => TypePlace.argument.inj) ?_
    (interfaceArguments_survey model id interface known)
  rintro ref rfl
  cases found : model.argument? ref <;> simp [typeAt?, argumentAt?, found]

theorem variableSites_survey :
    model.SurveysTypes (fun place => ∃ index, place = .stateVariable id index)
      (match interface.contract with
        | none => []
        | some contract => placed contract.stateVariables fun index item =>
            [⟨.stateVariable id index, .interface id, item.type.ref⟩]) := by
  cases agreed : interface.contract with
  | none =>
      refine surveys_nil _ ?_
      rintro _ site ⟨index, rfl⟩
      simp [typeAt?, stateVariable?, contract?, known, agreed]
  | some contract =>
      apply surveys_positions model.typeAt? contract.stateVariables (.stateVariable id)
      · intro first second same
        exact (TypePlace.stateVariable.inj same).2
      · intro index item located
        simp [typeAt?, stateVariable?, contract?, known, agreed, located]
      · intro index beyond
        simp [typeAt?, stateVariable?, contract?, known, agreed, beyond]

theorem typeSitesOfInterface_survey :
    model.SurveysTypes (fun place => place.holder = .interface id)
      (model.typeSitesOfInterface id interface) := by
  have attributes := attributeSites_survey model id interface known
  have arguments := argumentSites_survey model id interface known
  have declared := variableSites_survey model id interface known
  refine surveys_region _ _ _ ?_
    (surveys_append _ _ _ _ (surveys_append _ _ _ _ attributes arguments ?_) declared ?_)
  · intro place site _
    cases place with
    | «attribute» ref =>
        obtain ⟨interface, index⟩ := ref
        simp [TypePlace.holder]
    | _ => simp [TypePlace.holder]
  · rintro _ ⟨index, rfl⟩
    simp
  · rintro _ (⟨index, rfl⟩ | ⟨ref, rfl, _⟩)
    · simp
    · simp

end Interface

theorem constantSite_survey (id : ConstantId) (definition : ConstantDef)
    (found : model.constant? id = some definition) :
    model.SurveysTypes (fun place => place.holder = .constant id)
      [⟨.constant id, definition.owner, definition.type.ref⟩] := by
  refine surveys_region _ _ _ (fun place site _ => ?_)
    (surveys_lookup model.typeAt? (.constant id) _ (by simp [typeAt?, found]))
  cases place <;> simp [TypePlace.holder]

theorem typeAt?_has (place : TypePlace) (site : TypeSite)
    (stands : model.typeAt? place = some site) : model.Has place.holder := by
  cases place with
  | «attribute» ref =>
      obtain ⟨item, found, _⟩ := Option.bind_eq_some_iff.mp stands
      obtain ⟨interface, known, _⟩ := Option.bind_eq_some_iff.mp found
      exact Option.isSome_of_eq_some known
  | argument ref =>
      obtain ⟨argument, found, _⟩ := Option.bind_eq_some_iff.mp stands
      exact argument?_has model ref argument found
  | stateVariable interface index =>
      obtain ⟨item, found, _⟩ := Option.bind_eq_some_iff.mp stands
      exact stateVariable?_has model interface index item found
  | _ =>
      obtain ⟨definition, found, _⟩ := Option.bind_eq_some_iff.mp stands
      exact Option.isSome_of_eq_some found

/-- The uses of types are listed once for each place of one. -/
theorem typeSites_survey :
    SurveysAll (fun place site => model.typeAt? place = some site) model.typeSites := by
  have ofTypes := surveys_types model TypePlace.holder (typeAt?_has model) _
    (typeSitesOfType_survey model)
  have ofConstants := surveys_constants model TypePlace.holder (typeAt?_has model) _
    (constantSite_survey model)
  have ofInterfaces := surveys_interfaces model TypePlace.holder (typeAt?_has model) _
    (typeSitesOfInterface_survey model)
  refine surveys_region _ _ _ ?_
    (surveys_append _ _ _ _ (surveys_append _ _ _ _ ofTypes ofConstants ?_) ofInterfaces ?_)
  · intro place site _
    rcases place.holder with ⟨⟨index⟩⟩ | ⟨⟨index⟩⟩ | ⟨⟨index⟩⟩ <;> simp
  · rintro place ⟨_, here⟩ ⟨_, there⟩
    simp [here] at there
  · rintro place (⟨_, here⟩ | ⟨_, here⟩) ⟨_, there⟩
    · simp [here] at there
    · simp [here] at there

theorem mem_typeSites (site : TypeSite) :
    site ∈ model.typeSites ↔ ∃ place, model.typeAt? place = some site := by
  simp only [mem_of_surveys _ _ model.typeSites_survey, true_and]

abbrev SurveysExprs (region : ExprPlace → Prop) (sites : List ExprSite) : Prop :=
  Surveys (fun place site => model.exprAt? place = some site) region sites

theorem constantValue_survey (id : ConstantId) (definition : ConstantDef)
    (found : model.constant? id = some definition) :
    model.SurveysExprs (fun place => place.holder = .constant id)
      [⟨.constant id, .value, none, definition.owner, .constantValue, definition.value,
        some definition.type⟩] := by
  refine surveys_region _ _ _ (fun place site _ => ?_)
    (surveys_lookup model.exprAt? (.constant id) _ (by simp [exprAt?, found]))
  cases place <;> simp [ExprPlace.holder]

theorem enumeratorValues_survey (id : TypeId) (definition : TypeDef)
    (found : model.type? id = some definition) :
    model.SurveysExprs (fun place => place.holder = .type id)
      (placed definition.kind.enumerators fun position enumerator =>
        match enumerator.value with
        | none => []
        | some value =>
            [⟨.enumerator id position, .value, none, definition.owner, .enumeratorValue, value,
              none⟩]) := by
  have values := surveys_positions model.exprAt? definition.kind.enumerators (.enumerator id)
    (fun position enumerator => match enumerator.value with
      | none => []
      | some value =>
          [⟨.enumerator id position, .value, none, definition.owner, .enumeratorValue, value,
            none⟩])
    (fun first second same => (ExprPlace.enumerator.inj same).2)
    (fun position enumerator located => by
      cases given : enumerator.value <;> simp [exprAt?, found, located, given])
    fun position beyond => by simp [exprAt?, found, beyond]
  refine surveys_region _ _ _ (fun place site _ => ?_) values
  cases place <;> simp [ExprPlace.holder, eq_comm]

def InTransition (id : InterfaceId) (state index : Nat) (place : ExprPlace) : Prop :=
  place = .guard id state index ∨ ∃ position, place = .assigned id state index position

theorem inTransition_unique (id : InterfaceId) (state index otherState otherIndex : Nat)
    (place : ExprPlace) (here : InTransition id state index place)
    (there : InTransition id otherState otherIndex place) :
    state = otherState ∧ index = otherIndex := by
  rcases here with rfl | ⟨_, rfl⟩ <;> rcases there with same | ⟨_, same⟩
  · exact (ExprPlace.guard.inj same).2
  · exact ExprPlace.noConfusion same
  · exact ExprPlace.noConfusion same
  · exact ⟨(ExprPlace.assigned.inj same).2.1, (ExprPlace.assigned.inj same).2.2.1⟩

theorem exprAt?_inTransition (id : InterfaceId) (state index : Nat) (place : ExprPlace)
    (site : ExprSite) (here : InTransition id state index place)
    (stands : model.exprAt? place = some site) :
    ∃ transition, model.transition? id state index = some transition := by
  rcases here with rfl | ⟨_, rfl⟩
  · obtain ⟨transition, found, _⟩ := Option.bind_eq_some_iff.mp stands
    exact ⟨transition, found⟩
  · obtain ⟨transition, found, _⟩ := Option.bind_eq_some_iff.mp stands
    exact ⟨transition, found⟩

theorem transition_survey (id : InterfaceId) (state index : Nat) (transition : Transition)
    (found : model.transition? id state index = some transition) :
    model.SurveysExprs (InTransition id state index)
      (exprSitesOfTransition id state index transition) := by
  refine surveys_append (fun place => place = ExprPlace.guard id state index)
    (fun place => ∃ position, place = ExprPlace.assigned id state index position) _ _ ?_ ?_ ?_
  · apply surveys_lookup model.exprAt? (.guard id state index)
    cases given : transition.guard <;> simp [exprAt?, found, given]
  · apply surveys_positions model.exprAt? transition.assignments (.assigned id state index)
    · intro first second same
      exact (ExprPlace.assigned.inj same).2.2.2
    · intro position assignment located
      simp [exprAt?, found, located]
    · intro position beyond
      simp [exprAt?, found, beyond]
  · rintro _ rfl ⟨position, same⟩
    exact ExprPlace.noConfusion same

section Contract

variable (id : InterfaceId) (contract : Contract) (agreed : model.contract? id = some contract)

include agreed

theorem transition?_located (state index : Nat) (transition : Transition) :
    model.transition? id state index = some transition ↔
      ∃ declared, contract.states[state]? = some declared ∧
        declared.transitions[index]? = some transition := by
  simp only [transition?_eq_some, agreed, Option.some.injEq, exists_eq_left']

theorem initialValues_survey :
    model.SurveysExprs (fun place => ∃ index, place = .initial id index)
      (placed contract.stateVariables fun index item =>
        match item.init with
        | none => []
        | some value =>
            [⟨.stateVariable id index, .value, none, .interface id, .initialValue, value,
              some item.type⟩]) := by
  apply surveys_positions model.exprAt? contract.stateVariables (.initial id)
  · intro first second same
    exact (ExprPlace.initial.inj same).2
  · intro index item located
    cases given : item.init <;>
      simp [exprAt?, stateVariable?, agreed, located, given]
  · intro index beyond
    simp [exprAt?, stateVariable?, agreed, beyond]

/-- Pieces that come from the transitions of a contract, each confined to places of its own. -/
theorem surveys_transitions {Place α : Type} {Holds : Place → α → Prop}
    (inside : Nat → Nat → Place → Prop) (pieces : Nat → Nat → Transition → List α)
    (apart : ∀ state index otherState otherIndex place, inside state index place →
      inside otherState otherIndex place → state = otherState ∧ index = otherIndex)
    (reached : ∀ state index place item, inside state index place → Holds place item →
      ∃ transition, model.transition? id state index = some transition)
    (each : ∀ state index transition, model.transition? id state index = some transition →
      Surveys Holds (inside state index) (pieces state index transition)) :
    Surveys Holds (fun place => ∃ state index, inside state index place)
      (placed contract.states fun state declared =>
        placed declared.transitions fun index transition => pieces state index transition) := by
  -- once over the states, and inside each over its transitions
  refine surveys_placed _ _ (fun state place => ∃ index, inside state index place) ?_ ?_ ?_
  · rintro first second place ⟨_, here⟩ ⟨_, there⟩
    exact (apart _ _ _ _ place here there).1
  · intro state declared located
    refine surveys_placed _ _ (inside state) ?_ ?_ ?_
    · intro first second place here there
      exact (apart _ _ _ _ place here there).2
    · intro index transition listed
      apply each
      exact (transition?_located model id contract agreed state index transition).mpr
        ⟨declared, located, listed⟩
    · intro index place item here holds
      obtain ⟨transition, found⟩ := reached state index place item here holds
      obtain ⟨other, same, listed⟩ :=
        (transition?_located model id contract agreed state index transition).mp found
      obtain rfl := Option.some.inj (located.symm.trans same)
      exact (List.getElem?_eq_some_iff.mp listed).1
  · rintro state place item ⟨index, here⟩ holds
    obtain ⟨transition, found⟩ := reached state index place item here holds
    obtain ⟨declared, located, _⟩ :=
      (transition?_located model id contract agreed state index transition).mp found
    exact (List.getElem?_eq_some_iff.mp located).1

theorem exprSitesOfContract_survey :
    model.SurveysExprs (fun place => (∃ index, place = .initial id index) ∨
        ∃ state index, InTransition id state index place)
      (exprSitesOfContract id contract) := by
  refine surveys_append _ _ _ _ (initialValues_survey model id contract agreed)
    (surveys_transitions model id contract agreed (InTransition id) _
      (inTransition_unique id) (exprAt?_inTransition model id) (transition_survey model id)) ?_
  rintro _ ⟨index, rfl⟩ ⟨_, _, same | ⟨_, same⟩⟩
  · exact ExprPlace.noConfusion same
  · exact ExprPlace.noConfusion same

end Contract

section Interface

variable (id : InterfaceId) (interface : Interface) (known : model.interface? id = some interface)

include known

theorem errorCodes_survey :
    model.SurveysExprs (fun place => ∃ index position, place = .errorCode ⟨id, index⟩ position)
      (exprSitesOfErrors id interface) := by
  refine surveys_placed _ _
    (fun index place => ∃ position, place = ExprPlace.errorCode ⟨id, index⟩ position) ?_ ?_ ?_
  · rintro first second _ ⟨_, rfl⟩ ⟨_, same⟩
    exact (MemberRef.mk.inj (ExprPlace.errorCode.inj same).1).2
  · intro index method located
    cases declared : method.errors with
    | none =>
        refine surveys_nil _ ?_
        rintro _ site ⟨position, rfl⟩
        simp [exprAt?, method?, known, located, declared]
    | some errors =>
        apply surveys_positions model.exprAt? errors.ownEnumerators (.errorCode ⟨id, index⟩)
        · intro first second same
          exact (ExprPlace.errorCode.inj same).2
        · intro position enumerator listed
          cases given : enumerator.value <;>
            simp [exprAt?, method?, known, located, declared, listed, given]
        · intro position beyond
          simp [exprAt?, method?, known, located, declared, beyond]
  · rintro index _ site ⟨position, rfl⟩ stands
    cases located : interface.methods[index]? with
    | none => simp [exprAt?, method?, known, located] at stands
    | some method => exact (List.getElem?_eq_some_iff.mp located).1

theorem contractSites_survey :
    model.SurveysExprs (fun place => (∃ index, place = .initial id index) ∨
        ∃ state index, InTransition id state index place)
      (match interface.contract with
        | none => []
        | some contract => exprSitesOfContract id contract) := by
  cases agreed : interface.contract with
  | none =>
      refine surveys_nil _ ?_
      rintro place site (⟨index, rfl⟩ | ⟨state, index, here⟩) stands
      · simp [exprAt?, stateVariable?, contract?, known, agreed] at stands
      · obtain ⟨transition, found⟩ :=
          exprAt?_inTransition model id state index place site here stands
        simp [transition?, state?, contract?, known, agreed] at found
  | some contract =>
      exact exprSitesOfContract_survey model id contract
        ((contract?_eq_some model id contract).mpr ⟨interface, known, agreed⟩)

theorem exprSitesOfInterface_survey :
    model.SurveysExprs (fun place => place.holder = .interface id)
      (exprSitesOfErrors id interface ++
        match interface.contract with
        | none => []
        | some contract => exprSitesOfContract id contract) := by
  refine surveys_region _ _ _ ?_
    (surveys_append _ _ _ _ (errorCodes_survey model id interface known)
      (contractSites_survey model id interface known) ?_)
  · intro place site _
    cases place with
    | errorCode method position =>
        obtain ⟨holder, index⟩ := method
        simp [ExprPlace.holder, InTransition]
    | _ => simp [ExprPlace.holder, InTransition]
  · rintro _ ⟨index, position, rfl⟩ (⟨_, same⟩ | ⟨_, _, same | ⟨_, same⟩⟩)
    · exact ExprPlace.noConfusion same
    · exact ExprPlace.noConfusion same
    · exact ExprPlace.noConfusion same

end Interface

theorem exprAt?_has (place : ExprPlace) (site : ExprSite)
    (stands : model.exprAt? place = some site) : model.Has place.holder := by
  cases place with
  | constant id | enumerator id index =>
      obtain ⟨definition, found, _⟩ := Option.bind_eq_some_iff.mp stands
      exact Option.isSome_of_eq_some found
  | errorCode ref index =>
      obtain ⟨method, found, _⟩ := Option.bind_eq_some_iff.mp stands
      obtain ⟨interface, known, _⟩ := Option.bind_eq_some_iff.mp found
      exact Option.isSome_of_eq_some known
  | initial id index =>
      obtain ⟨item, found, _⟩ := Option.bind_eq_some_iff.mp stands
      exact stateVariable?_has model id index item found
  | guard id state index | assigned id state index position =>
      obtain ⟨transition, found, _⟩ := Option.bind_eq_some_iff.mp stands
      exact transition?_has model id state index transition found

/-- The expressions are listed once for each place of one. -/
theorem exprSites_survey :
    SurveysAll (fun place site => model.exprAt? place = some site) model.exprSites := by
  have ofConstants := surveys_constants model ExprPlace.holder (exprAt?_has model) _
    (constantValue_survey model)
  have ofTypes := surveys_types model ExprPlace.holder (exprAt?_has model) _
    (enumeratorValues_survey model)
  have ofInterfaces := surveys_interfaces model ExprPlace.holder (exprAt?_has model) _
    (exprSitesOfInterface_survey model)
  refine surveys_region _ _ _ ?_
    (surveys_append _ _ _ _ (surveys_append _ _ _ _ ofConstants ofTypes ?_) ofInterfaces ?_)
  · intro place site _
    rcases place.holder with ⟨⟨index⟩⟩ | ⟨⟨index⟩⟩ | ⟨⟨index⟩⟩ <;> simp
  · rintro place ⟨_, here⟩ ⟨_, there⟩
    simp [here] at there
  · rintro place (⟨_, here⟩ | ⟨_, here⟩) ⟨_, there⟩
    · simp [here] at there
    · simp [here] at there

theorem mem_exprSites (site : ExprSite) :
    site ∈ model.exprSites ↔ ∃ place, model.exprAt? place = some site := by
  simp only [mem_of_surveys _ _ model.exprSites_survey, true_and]

end Model

end FrancaAudit
