import FrancaAudit.Model.Interface

/-!
A model and what its references resolve to.

A look-up of a reference that points nowhere yields nothing; `Model.Linked` says when that cannot
happen.
-/

namespace FrancaAudit

structure TypeCollection where
  name : String
  span : Span
  annotations : List Annotation
  types : List TypeId
  constants : List ConstantId

structure Model where
  name : String
  collections : List TypeCollection
  interfaces : List Interface
  types : List TypeDef
  constants : List ConstantDef

namespace Model

variable (model : Model)

def collection? (id : CollectionId) : Option TypeCollection := model.collections[id.index]?

def interface? (id : InterfaceId) : Option Interface := model.interfaces[id.index]?

def type? (id : TypeId) : Option TypeDef := model.types[id.index]?

def constant? (id : ConstantId) : Option ConstantDef := model.constants[id.index]?

def method? (ref : MemberRef) : Option Method := do
  (← model.interface? ref.interface).methods[ref.index]?

def broadcast? (ref : MemberRef) : Option Broadcast := do
  (← model.interface? ref.interface).broadcasts[ref.index]?

def attribute? (ref : MemberRef) : Option Attribute := do
  (← model.interface? ref.interface).attributes[ref.index]?

/-- A broadcast has arguments in the outward direction only. -/
def argument? (ref : ArgumentRef) : Option Argument :=
  let arguments : Option (List Argument) :=
    match ref.operation, ref.direction with
    | .method index, .input => (model.method? ⟨ref.interface, index⟩).map (·.inArgs)
    | .method index, .output => (model.method? ⟨ref.interface, index⟩).map (·.outArgs)
    | .broadcast index, .output => (model.broadcast? ⟨ref.interface, index⟩).map (·.outArgs)
    | .broadcast _, .input => none
  arguments.bind fun arguments => arguments[ref.index]?

def contract? (id : InterfaceId) : Option Contract := do
  (← model.interface? id).contract

def stateVariable? (id : InterfaceId) (index : Nat) : Option StateVariable := do
  (← model.contract? id).stateVariables[index]?

def state? (id : InterfaceId) (index : Nat) : Option State := do
  (← model.contract? id).states[index]?

def transition? (id : InterfaceId) (state index : Nat) : Option Transition := do
  (← model.state? id state).transitions[index]?

def field? (owner : TypeId) (index : Nat) : Option Field := do
  (← model.type? owner).kind.fields[index]?

def enumerator? (owner : TypeId) (index : Nat) : Option Enumerator := do
  (← model.type? owner).kind.enumerators[index]?

def interfaceIds : List InterfaceId := (List.range model.interfaces.length).map (⟨·⟩)

def typeIds : List TypeId := (List.range model.types.length).map (⟨·⟩)

/-- Stands for the name of something that does not exist. -/
def missingName : String := "?"

def collectionName (id : CollectionId) : String :=
  ((model.collection? id).map (·.name)).getD missingName

def interfaceName (id : InterfaceId) : String :=
  ((model.interface? id).map (·.name)).getD missingName

def typeName (id : TypeId) : String :=
  ((model.type? id).map (·.name)).getD missingName

def ownerName : Owner → String
  | .collection id => model.collectionName id
  | .interface id => model.interfaceName id

def qualifiedTypeName (id : TypeId) : String :=
  match model.type? id with
  | some definition => model.ownerName definition.owner ++ "." ++ definition.name
  | none => missingName ++ "#" ++ toString id.index

/-- What `next` leads to from `current`, up to the end of the chain or to the first element that
is in `seen` or comes twice. -/
def chain {α : Type} [DecidableEq α] (next : α → Option α) :
    Nat → List α → Option α → List α
  | 0, _, _ => []
  | _ + 1, _, none => []
  | fuel + 1, seen, some current =>
      if current ∈ seen then []
      else current :: chain next fuel (current :: seen) (next current)

def interfaceBase? (id : InterfaceId) : Option InterfaceId := do
  (← model.interface? id).base

def typeBase? (id : TypeId) : Option TypeId := do
  (← model.type? id).kind.base?

/-- The proper ancestors of an interface, the nearest first. All but the last are interfaces of
the model and none comes twice, which bounds the steps. -/
def baseInterfaces (id : InterfaceId) : List InterfaceId :=
  chain model.interfaceBase? (model.interfaces.length + 1) [id] (model.interfaceBase? id)

def inheritanceSet (id : InterfaceId) : List InterfaceId :=
  id :: model.baseInterfaces id

def baseTypes (id : TypeId) : List TypeId :=
  chain model.typeBase? (model.types.length + 1) [id] (model.typeBase? id)

structure DeclaredField where
  owner : TypeId
  index : Nat
  field : Field

def ownFields (id : TypeId) : List DeclaredField :=
  match model.type? id with
  | some definition => definition.kind.fields.zipIdx.map fun (field, index) => ⟨id, index, field⟩
  | none => []

/-- The fields of a struct or union with those of its ancestors, the farthest ancestor first. -/
def allFields (id : TypeId) : List DeclaredField :=
  ((model.baseTypes id).reverse ++ [id]).flatMap model.ownFields

def followAlias : Nat → TypeRef → Option TypeRef
  | 0, _ => none
  | steps + 1, ref =>
      match ref.kind with
      | .derived id =>
          match model.type? id with
          | some definition =>
              match definition.kind with
              | .alias actual => followAlias steps actual
              | _ => some ref
          | none => none
      | _ => some ref

/-- What the reference stands for once all aliases are looked through; none if that never ends or
leads out of the model. A chain without repetition passes each type at most once. -/
def resolveAlias (ref : TypeRef) : Option TypeRef :=
  model.followAlias (model.types.length + 1) ref

inductive ElementKind
  | attribute
  | argument
  | constant
  | stateVariable
  | field
  | enumerator
deriving DecidableEq

def ElementKind.label : ElementKind → String
  | .attribute => "Attribute"
  | .argument => "Argument"
  | .constant => "Constant"
  | .stateVariable => "State variable"
  | .field => "Element of struct or union"
  | .enumerator => "Enumerator"

/-- What an element reference resolves to. An enumerator has no declared type, its type being the
enumeration around it. -/
structure Element where
  kind : ElementKind
  name : String
  owner : Owner
  type : Option DeclaredType

def element? : ElementRef → Option Element
  | .attribute interface index => do
      let found ← model.attribute? ⟨interface, index⟩
      return ⟨.attribute, found.name, .interface interface, some found.type⟩
  | .argument ref => do
      let found ← model.argument? ref
      return ⟨.argument, found.name, .interface ref.interface, some found.type⟩
  | .constant id => do
      let found ← model.constant? id
      return ⟨.constant, found.name, found.owner, some found.type⟩
  | .stateVariable interface index => do
      let found ← model.stateVariable? interface index
      return ⟨.stateVariable, found.name, .interface interface, some found.type⟩
  | .field owner index => do
      let definition ← model.type? owner
      let found ← definition.kind.fields[index]?
      return ⟨.field, found.name, definition.owner, some found.type⟩
  | .enumerator owner index => do
      let definition ← model.type? owner
      let found ← definition.kind.enumerators[index]?
      return ⟨.enumerator, found.name, definition.owner, none⟩

end Model

end FrancaAudit
