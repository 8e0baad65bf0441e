import FrancaAudit.Proofs.Model.Dangling

/-!
The elements that a model has, and the paths to them.

A description of an element stands in a placeholder for whatever it does not find. The path given
here stops instead. In a linked model it never stops at an element that is there: the containers of
types and constants are the only names on the way that are found by following a reference.
-/

namespace FrancaAudit.Model

variable (model : Model)

/-- The model has the element. -/
def HasNode : Node → Prop
  | .model => True
  | .collection id => (model.collection? id).isSome
  | .interface id => (model.interface? id).isSome
  | .type id => (model.type? id).isSome
  | .field owner index => (model.field? owner index).isSome
  | .enumerator owner index => (model.enumerator? owner index).isSome
  | .constant id => (model.constant? id).isSome
  | .attribute ref => (model.attribute? ref).isSome
  | .method ref => (model.method? ref).isSome
  | .broadcast ref => (model.broadcast? ref).isSome
  | .argument ref => (model.argument? ref).isSome
  | .contract interface => (model.contract? interface).isSome
  | .stateVariable interface index => (model.stateVariable? interface index).isSome
  | .state interface index => (model.state? interface index).isSome
  | .transition interface state index => (model.transition? interface state index).isSome

def ownerPath? : Owner → Option String
  | .collection id => do return "typeCollection " ++ (← model.collection? id).name
  | .interface id => do return "interface " ++ (← model.interface? id).name

def typePath? (id : TypeId) : Option String := do
  let definition ← model.type? id
  return (← model.ownerPath? definition.owner) ++ " / " ++ definition.kind.label ++ " " ++
    definition.name

def memberPath? (interface : InterfaceId) (kind : String) (name : Option String) :
    Option String := do
  return (← model.ownerPath? (.interface interface)) ++ " / " ++ kind ++ " " ++ (← name)

def operationPath? (interface : InterfaceId) : Operation → Option String
  | .method index =>
      model.memberPath? interface "method" ((model.method? ⟨interface, index⟩).map (·.name))
  | .broadcast index =>
      model.memberPath? interface "broadcast" ((model.broadcast? ⟨interface, index⟩).map (·.name))

def statePath? (interface : InterfaceId) (index : Nat) : Option String :=
  model.memberPath? interface "contract / state" ((model.state? interface index).map (·.name))

/-- The path to an element, if every element on it is there. -/
def path? : Node → Option String
  | .model => some ("model " ++ model.name)
  | .collection id => model.ownerPath? (.collection id)
  | .interface id => model.ownerPath? (.interface id)
  | .type id => model.typePath? id
  | .field owner index => do
      return (← model.typePath? owner) ++ " / field " ++ (← model.field? owner index).name
  | .enumerator owner index => do
      return (← model.typePath? owner) ++ " / enumerator " ++
        (← model.enumerator? owner index).name
  | .constant id => do
      let definition ← model.constant? id
      return (← model.ownerPath? definition.owner) ++ " / const " ++ definition.name
  | .attribute ref =>
      model.memberPath? ref.interface "attribute" ((model.attribute? ref).map (·.name))
  | .method ref => model.operationPath? ref.interface (.method ref.index)
  | .broadcast ref => model.operationPath? ref.interface (.broadcast ref.index)
  | .argument ref => do
      let direction := match ref.direction with
        | .input => "in"
        | .output => "out"
      return (← model.operationPath? ref.interface ref.operation) ++ " / " ++ direction ++ " " ++
        (← model.argument? ref).name
  | .contract interface => do
      return (← model.ownerPath? (.interface interface)) ++ " / contract"
  | .stateVariable interface index =>
      model.memberPath? interface "contract / var"
        ((model.stateVariable? interface index).map (·.name))
  | .state interface index => model.statePath? interface index
  | .transition interface state index => do
      let _ ← model.transition? interface state index
      return (← model.statePath? interface state) ++ " / transition " ++ toString index

theorem ownerPath?_eq (owner : Owner) (known : model.Knows (.owner owner)) :
    model.ownerPath? owner = some (model.describeOwner owner) := by
  cases owner with
  | collection id =>
      obtain ⟨collection, found⟩ := Option.isSome_iff_exists.mp known
      simp [ownerPath?, describeOwner, collectionName, found]
  | interface id =>
      obtain ⟨interface, found⟩ := Option.isSome_iff_exists.mp known
      simp [ownerPath?, describeOwner, interfaceName, found]

theorem memberPath?_eq {α : Type} (interface : InterfaceId) (kind : String) (member : Option α)
    (name : α → String) (known : model.Has (.interface interface)) (found : member.isSome) :
    model.memberPath? interface kind (member.map name) =
      some (model.describeMember interface kind (member.map name)) := by
  obtain ⟨item, rfl⟩ := Option.isSome_iff_exists.mp found
  simp [memberPath?, ownerPath?_eq model (.interface interface) known, describeMember,
    describeOwner, nameOr]

theorem method?_has (ref : MemberRef) (found : (model.method? ref).isSome) :
    model.Has (.interface ref.interface) :=
  Option.isSome_of_isSome_bind found

theorem broadcast?_has (ref : MemberRef) (found : (model.broadcast? ref).isSome) :
    model.Has (.interface ref.interface) :=
  Option.isSome_of_isSome_bind found

theorem attribute?_has (ref : MemberRef) (found : (model.attribute? ref).isSome) :
    model.Has (.interface ref.interface) :=
  Option.isSome_of_isSome_bind found

theorem state?_has (id : InterfaceId) (index : Nat) (found : (model.state? id index).isSome) :
    model.Has (.interface id) :=
  Option.isSome_of_isSome_bind (Option.isSome_of_isSome_bind found)

theorem operationPath?_eq (ref : ArgumentRef) (found : (model.argument? ref).isSome) :
    model.operationPath? ref.interface ref.operation =
      some (match ref.operation with
        | .method index => model.describeMethod ⟨ref.interface, index⟩
        | .broadcast index => model.describeBroadcast ⟨ref.interface, index⟩) := by
  obtain ⟨argument, found⟩ := Option.isSome_iff_exists.mp found
  have known := argument?_has model ref argument found
  obtain ⟨interface, operation, direction, index⟩ := ref
  cases operation with
  | method position =>
      refine memberPath?_eq model interface _ _ _ known ?_
      cases located : model.method? ⟨interface, position⟩ with
      | some method => rfl
      | none => cases direction <;> simp [argument?, located] at found
  | broadcast position =>
      refine memberPath?_eq model interface _ _ _ known ?_
      cases located : model.broadcast? ⟨interface, position⟩ with
      | some broadcast => rfl
      | none => cases direction <;> simp [argument?, located] at found

section Linked

variable (linked : model.Linked)

include linked

theorem typePath?_eq (id : TypeId) (found : (model.type? id).isSome) :
    model.typePath? id = some (model.describeType id) := by
  obtain ⟨definition, found⟩ := Option.isSome_iff_exists.mp found
  have known := model.knows_of_stores linked _
    (.typeOwner definition (List.mem_of_getElem? found))
  simp [typePath?, describeType, found, ownerPath?_eq model _ known]

theorem path?_eq_describe (node : Node) (has : model.HasNode node) :
    model.path? node = some (model.describe node) := by
  cases node with
  | model => rfl
  | collection id => exact ownerPath?_eq model (.collection id) has
  | interface id => exact ownerPath?_eq model (.interface id) has
  | type id => exact typePath?_eq model linked id has
  | field owner index =>
      have outer := typePath?_eq model linked owner (Option.isSome_of_isSome_bind has)
      obtain ⟨field, found⟩ := Option.isSome_iff_exists.mp has
      simp [path?, describe, outer, found, nameOr]
  | enumerator owner index =>
      have outer := typePath?_eq model linked owner (Option.isSome_of_isSome_bind has)
      obtain ⟨enumerator, found⟩ := Option.isSome_iff_exists.mp has
      simp [path?, describe, outer, found, nameOr]
  | constant id =>
      obtain ⟨definition, found⟩ := Option.isSome_iff_exists.mp has
      have known := model.knows_of_stores linked _
        (.constantOwner definition (List.mem_of_getElem? found))
      simp [path?, describe, found, ownerPath?_eq model _ known]
  | «attribute» ref =>
      exact memberPath?_eq model _ _ _ _ (attribute?_has model ref has) has
  | method ref =>
      exact memberPath?_eq model _ _ _ _ (method?_has model ref has) has
  | broadcast ref =>
      exact memberPath?_eq model _ _ _ _ (broadcast?_has model ref has) has
  | argument ref =>
      have outer := operationPath?_eq model ref has
      obtain ⟨argument, found⟩ := Option.isSome_iff_exists.mp has
      obtain ⟨interface, operation, direction, index⟩ := ref
      cases operation <;> cases direction <;>
        simp [path?, describe, describeArgument, outer, found, nameOr]
  | contract interface =>
      obtain ⟨contract, found⟩ := Option.isSome_iff_exists.mp has
      have known := contract?_has model interface contract found
      simp [path?, describe, ownerPath?_eq model (.interface interface) known]
  | stateVariable interface index =>
      obtain ⟨item, found⟩ := Option.isSome_iff_exists.mp has
      exact memberPath?_eq model _ _ _ _ (stateVariable?_has model interface index item found) has
  | state interface index =>
      exact memberPath?_eq model _ _ _ _ (state?_has model interface index has) has
  | transition interface state index =>
      have inside : (model.state? interface state).isSome := Option.isSome_of_isSome_bind has
      have outer : model.statePath? interface state = some (model.describeState interface state) :=
        memberPath?_eq model _ _ _ _ (state?_has model interface state inside) inside
      obtain ⟨transition, found⟩ := Option.isSome_iff_exists.mp has
      simp [path?, describe, outer, found]

end Linked

theorem typeAt?_hasNode (place : TypePlace) (site : TypeSite)
    (stands : model.typeAt? place = some site) : model.HasNode site.node := by
  cases place with
  | field owner index =>
      obtain ⟨definition, found, listed⟩ := Option.bind_eq_some_iff.mp stands
      obtain ⟨field, located, made⟩ := Option.bind_eq_some_iff.mp listed
      obtain rfl := Option.some.inj made
      simp [HasNode, field?, found, located]
  | element id | key id | value id | actual id =>
      obtain ⟨definition, found, listed⟩ := Option.bind_eq_some_iff.mp stands
      cases kind : definition.kind <;> simp only [kind, reduceCtorEq] at listed
      obtain rfl := Option.some.inj listed
      exact Option.isSome_of_eq_some found
  | constant id =>
      obtain ⟨definition, found, made⟩ := Option.bind_eq_some_iff.mp stands
      obtain rfl := Option.some.inj made
      exact Option.isSome_of_eq_some found
  | «attribute» ref =>
      obtain ⟨item, found, made⟩ := Option.bind_eq_some_iff.mp stands
      obtain rfl := Option.some.inj made
      exact Option.isSome_of_eq_some found
  | argument ref =>
      obtain ⟨argument, found, made⟩ := Option.bind_eq_some_iff.mp stands
      obtain rfl := Option.some.inj made
      exact Option.isSome_of_eq_some found
  | stateVariable interface index =>
      obtain ⟨item, found, made⟩ := Option.bind_eq_some_iff.mp stands
      obtain rfl := Option.some.inj made
      exact Option.isSome_of_eq_some found

theorem exprAt?_hasNode (place : ExprPlace) (site : ExprSite)
    (stands : model.exprAt? place = some site) : model.HasNode site.node := by
  cases place with
  | constant id =>
      obtain ⟨definition, found, made⟩ := Option.bind_eq_some_iff.mp stands
      obtain rfl := Option.some.inj made
      exact Option.isSome_of_eq_some found
  | enumerator owner index =>
      obtain ⟨definition, found, listed⟩ := Option.bind_eq_some_iff.mp stands
      obtain ⟨enumerator, located, valued⟩ := Option.bind_eq_some_iff.mp listed
      obtain ⟨value, _, made⟩ := Option.bind_eq_some_iff.mp valued
      obtain rfl := Option.some.inj made
      simp [HasNode, enumerator?, found, located]
  | errorCode ref index =>
      obtain ⟨method, found, listed⟩ := Option.bind_eq_some_iff.mp stands
      obtain ⟨errors, _, inside⟩ := Option.bind_eq_some_iff.mp listed
      obtain ⟨enumerator, _, valued⟩ := Option.bind_eq_some_iff.mp inside
      obtain ⟨value, _, made⟩ := Option.bind_eq_some_iff.mp valued
      obtain rfl := Option.some.inj made
      exact Option.isSome_of_eq_some found
  | initial interface index =>
      obtain ⟨item, found, valued⟩ := Option.bind_eq_some_iff.mp stands
      obtain ⟨value, _, made⟩ := Option.bind_eq_some_iff.mp valued
      obtain rfl := Option.some.inj made
      exact Option.isSome_of_eq_some found
  | guard interface state index =>
      obtain ⟨transition, found, guarded⟩ := Option.bind_eq_some_iff.mp stands
      obtain ⟨guard, _, made⟩ := Option.bind_eq_some_iff.mp guarded
      obtain rfl := Option.some.inj made
      exact Option.isSome_of_eq_some found
  | assigned interface state index position =>
      obtain ⟨transition, found, listed⟩ := Option.bind_eq_some_iff.mp stands
      obtain ⟨assignment, _, made⟩ := Option.bind_eq_some_iff.mp listed
      obtain rfl := Option.some.inj made
      exact Option.isSome_of_eq_some found

theorem interfaceArguments_hasNode (id : InterfaceId) (entry : ArgumentRef × Argument)
    (listed : entry ∈ model.interfaceArguments id) : model.HasNode (.argument entry.1) := by
  cases known : model.interface? id with
  | none => simp [interfaceArguments, known] at listed
  | some interface =>
      obtain ⟨ref, _, stands⟩ :=
        (mem_of_surveys _ _ (interfaceArguments_survey model id interface known) entry).mp listed
      obtain ⟨argument, found, rfl⟩ := Option.map_eq_some_iff.mp stands
      exact Option.isSome_of_eq_some found

theorem annotationSitesOfType_hasNode (id : TypeId) (definition : TypeDef)
    (found : model.type? id = some definition) :
    ∀ site ∈ annotationSitesOfType id definition, model.HasNode site.node := by
  simp only [annotationSitesOfType, List.forall_mem_cons, List.forall_mem_append,
    forall_mem_placed, List.mem_singleton, forall_eq]
  refine ⟨⟨Option.isSome_of_eq_some found, ?_⟩, ?_⟩
  · intro index field located
    simp [HasNode, field?, found, located]
  · intro index enumerator located
    simp [HasNode, enumerator?, found, located]

theorem annotationSitesOfInterface_hasNode (id : InterfaceId) (interface : Interface)
    (known : model.interface? id = some interface) :
    ∀ site ∈ model.annotationSitesOfInterface id interface, model.HasNode site.node := by
  simp only [annotationSitesOfInterface, List.forall_mem_cons, List.forall_mem_append,
    forall_mem_placed, List.forall_mem_map, List.mem_singleton, forall_eq]
  refine ⟨⟨⟨⟨Option.isSome_of_eq_some known, ?_⟩, ?_⟩, ?_⟩,
    interfaceArguments_hasNode model id⟩
  · intro index item located
    simp [HasNode, attribute?, known, located]
  · intro index method located
    simp [HasNode, method?, known, located]
  · intro index broadcast located
    simp [HasNode, broadcast?, known, located]

theorem annotatableSites_hasNode :
    ∀ site ∈ model.annotatableSites, model.HasNode site.node := by
  simp only [annotatableSites, List.forall_mem_append, forall_mem_placed, List.mem_singleton,
    forall_eq]
  refine ⟨⟨⟨?_, ?_⟩, ?_⟩, ?_⟩
  · exact fun index collection located => Option.isSome_of_eq_some located
  · exact fun index definition => annotationSitesOfType_hasNode model ⟨index⟩ definition
  · exact fun index definition located => Option.isSome_of_eq_some located
  · exact fun index interface => annotationSitesOfInterface_hasNode model ⟨index⟩ interface

end FrancaAudit.Model
