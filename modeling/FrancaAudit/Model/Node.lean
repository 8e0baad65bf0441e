import FrancaAudit.Model.Basic

/-!
The places in a model that a finding can point at: an element and one of its features.
-/

namespace FrancaAudit

inductive Node
  | model
  | collection (id : CollectionId)
  | interface (id : InterfaceId)
  | type (id : TypeId)
  | field (owner : TypeId) (index : Nat)
  | enumerator (owner : TypeId) (index : Nat)
  | constant (id : ConstantId)
  | attribute (ref : MemberRef)
  | method (ref : MemberRef)
  | broadcast (ref : MemberRef)
  | argument (ref : ArgumentRef)
  | contract (interface : InterfaceId)
  | stateVariable (interface : InterfaceId) (index : Nat)
  | state (interface : InterfaceId) (index : Nat)
  | transition (interface : InterfaceId) (state index : Nat)
deriving DecidableEq

inductive Feature
  | name
  | base
  | fields
  | enumerators
  | value
  | type
  | interval
  | derived
  | fireAndForget
  | errors
  | inArgs
  | outArgs
  | constants
  | types
  | contract
  | element
  | trigger
  | guard
  | assignment
  | target
  | annotations
deriving DecidableEq

namespace Feature

def label : Feature → String
  | .name => "name"
  | .base => "base"
  | .fields => "fields"
  | .enumerators => "enumerators"
  | .value => "value"
  | .type => "type"
  | .interval => "interval"
  | .derived => "derived"
  | .fireAndForget => "fireAndForget"
  | .errors => "errors"
  | .inArgs => "inArgs"
  | .outArgs => "outArgs"
  | .constants => "constants"
  | .types => "types"
  | .contract => "contract"
  | .element => "element"
  | .trigger => "trigger"
  | .guard => "guard"
  | .assignment => "assignment"
  | .target => "target"
  | .annotations => "annotation"

def all : List Feature :=
  [.name, .base, .fields, .enumerators, .value, .type, .interval, .derived, .fireAndForget,
    .errors, .inArgs, .outArgs, .constants, .types, .contract, .element, .trigger, .guard,
    .assignment, .target, .annotations]

def ofLabel? (label : String) : Option Feature :=
  all.find? fun feature => feature.label = label

end Feature

namespace Model

variable (model : Model)

def nameOr (name : Option String) : String := name.getD missingName

def describeOwner : Owner → String
  | .collection id => "typeCollection " ++ model.collectionName id
  | .interface id => "interface " ++ model.interfaceName id

def describeType (id : TypeId) : String :=
  match model.type? id with
  | some definition =>
      model.describeOwner definition.owner ++ " / " ++ definition.kind.label ++ " " ++
        definition.name
  | none => "type #" ++ toString id.index

def describeMember (interface : InterfaceId) (kind : String) (name : Option String) : String :=
  "interface " ++ model.interfaceName interface ++ " / " ++ kind ++ " " ++ nameOr name

def describeMethod (ref : MemberRef) : String :=
  model.describeMember ref.interface "method" ((model.method? ref).map (·.name))

def describeBroadcast (ref : MemberRef) : String :=
  model.describeMember ref.interface "broadcast" ((model.broadcast? ref).map (·.name))

def describeArgument (ref : ArgumentRef) : String :=
  let operation := match ref.operation with
    | .method index => model.describeMethod ⟨ref.interface, index⟩
    | .broadcast index => model.describeBroadcast ⟨ref.interface, index⟩
  let direction := match ref.direction with
    | .input => "in"
    | .output => "out"
  operation ++ " / " ++ direction ++ " " ++ nameOr ((model.argument? ref).map (·.name))

def describeState (interface : InterfaceId) (index : Nat) : String :=
  model.describeMember interface "contract / state" ((model.state? interface index).map (·.name))

/-- The path to an element, from its container to its name. -/
def describe : Node → String
  | .model => "model " ++ model.name
  | .collection id => model.describeOwner (.collection id)
  | .interface id => model.describeOwner (.interface id)
  | .type id => model.describeType id
  | .field owner index =>
      model.describeType owner ++ " / field " ++
        nameOr ((model.field? owner index).map (·.name))
  | .enumerator owner index =>
      model.describeType owner ++ " / enumerator " ++
        nameOr ((model.enumerator? owner index).map (·.name))
  | .constant id =>
      match model.constant? id with
      | some definition => model.describeOwner definition.owner ++ " / const " ++ definition.name
      | none => "const #" ++ toString id.index
  | .attribute ref =>
      model.describeMember ref.interface "attribute" ((model.attribute? ref).map (·.name))
  | .method ref => model.describeMethod ref
  | .broadcast ref => model.describeBroadcast ref
  | .argument ref => model.describeArgument ref
  | .contract interface => model.describeOwner (.interface interface) ++ " / contract"
  | .stateVariable interface index =>
      model.describeMember interface "contract / var"
        ((model.stateVariable? interface index).map (·.name))
  | .state interface index => model.describeState interface index
  | .transition interface state index =>
      model.describeState interface state ++ " / transition " ++ toString index

def spanOf (node : Node) : Span :=
  let span : Option Span := match node with
    | .model => none
    | .collection id => (model.collection? id).map (·.span)
    | .interface id => (model.interface? id).map (·.span)
    | .type id => (model.type? id).map (·.span)
    | .field owner index => (model.field? owner index).map (·.span)
    | .enumerator owner index => (model.enumerator? owner index).map (·.span)
    | .constant id => (model.constant? id).map (·.span)
    | .attribute ref => (model.attribute? ref).map (·.span)
    | .method ref => (model.method? ref).map (·.span)
    | .broadcast ref => (model.broadcast? ref).map (·.span)
    | .argument ref => (model.argument? ref).map (·.span)
    | .contract interface => (model.contract? interface).map (·.span)
    | .stateVariable interface index => (model.stateVariable? interface index).map (·.span)
    | .state interface index => (model.state? interface index).map (·.span)
    | .transition interface state index =>
        (model.transition? interface state index).map (·.span)
  span.getD .unknown

end Model

end FrancaAudit
