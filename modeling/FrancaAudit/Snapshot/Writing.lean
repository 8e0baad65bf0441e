import FrancaAudit.Json.Writer
import FrancaAudit.Model.Node

/-!
Writing a model as a snapshot, every field present.

How a double is written is left open: any form that reads back to the same double serves.
-/

namespace FrancaAudit.Written

open Json (ofNat ofInt ofString ofList ofOption record)

def choice (name : String) (carried : Json) : Json := record [(name, carried)]

def span (span : Span) : Json :=
  record [("start", ofNat span.start), ("end", ofNat span.stop)]

def owner : Owner → Json
  | .collection id => choice "collection" (ofNat id.index)
  | .interface id => choice "interface" (ofNat id.index)

def typeId (id : TypeId) : Json := ofNat id.index

def interfaceId (id : InterfaceId) : Json := ofNat id.index

def constantId (id : ConstantId) : Json := ofNat id.index

def memberRef (ref : MemberRef) : Json :=
  record [("interface", interfaceId ref.interface), ("index", ofNat ref.index)]

def operation : Operation → Json
  | .method index => choice "method" (ofNat index)
  | .broadcast index => choice "broadcast" (ofNat index)

def direction : Direction → Json
  | .input => ofString "in"
  | .output => ofString "out"

def argumentRef (ref : ArgumentRef) : Json :=
  record [("interface", interfaceId ref.interface), ("operation", operation ref.operation),
    ("direction", direction ref.direction), ("index", ofNat ref.index)]

def ownedIndex (owner : TypeId) (index : Nat) : Json :=
  record [("owner", typeId owner), ("index", ofNat index)]

def elementRef : ElementRef → Json
  | .attribute interface index => choice "attribute" (memberRef ⟨interface, index⟩)
  | .argument ref => choice "argument" (argumentRef ref)
  | .constant id => choice "constant" (constantId id)
  | .stateVariable interface index => choice "state_variable" (memberRef ⟨interface, index⟩)
  | .field owner index => choice "field" (ownedIndex owner index)
  | .enumerator owner index => choice "enumerator" (ownedIndex owner index)

def indexed (first second : Nat) : Json := .array [ofNat first, ofNat second]

def node : Node → Json
  | .model => ofString "model"
  | .collection id => choice "collection" (ofNat id.index)
  | .interface id => choice "interface" (ofNat id.index)
  | .type id => choice "type" (typeId id)
  | .field owner index => choice "field" (indexed owner.index index)
  | .enumerator owner index => choice "enumerator" (indexed owner.index index)
  | .constant id => choice "constant" (constantId id)
  | .attribute ref => choice "attribute" (memberRef ref)
  | .method ref => choice "method" (memberRef ref)
  | .broadcast ref => choice "broadcast" (memberRef ref)
  | .argument ref => choice "argument" (argumentRef ref)
  | .contract interface => choice "contract" (interfaceId interface)
  | .stateVariable interface index => choice "state_variable" (indexed interface.index index)
  | .state interface index => choice "state" (indexed interface.index index)
  | .transition interface state index =>
      choice "transition"
        (record [("interface", interfaceId interface), ("state", ofNat state),
          ("index", ofNat index)])

def featureName : Feature → String
  | .fireAndForget => "fire_and_forget"
  | .inArgs => "in_args"
  | .outArgs => "out_args"
  | feature => feature.label

section

variable (double : Double → Json)

def literal : Literal → Json
  | .bool value => choice "bool" (.bool value)
  | .integer value => choice "integer" (ofInt value.toInt)
  | .float value => choice "float" (double value)
  | .string value => choice "string" (ofString value)

def unaryOp : UnaryOp → String
  | .not => "not"
  | .neg => "neg"

def binaryOp : BinaryOp → String
  | .and => "and"
  | .or => "or"
  | .eq => "eq"
  | .ne => "ne"
  | .lt => "lt"
  | .le => "le"
  | .gt => "gt"
  | .ge => "ge"
  | .add => "add"
  | .sub => "sub"
  | .mul => "mul"
  | .div => "div"

mutual
def expr : Expr → Json
  | .literal value => choice "literal" (literal double value)
  | .ref element => choice "ref" (elementRef element)
  | .member base owner index =>
      choice "member"
        (record [("base", expr base), ("owner", typeId owner), ("index", ofNat index)])
  | .unary op operand =>
      choice "unary" (record [("op", ofString (unaryOp op)), ("operand", expr operand)])
  | .binary op left right =>
      choice "binary"
        (record [("op", ofString (binaryOp op)), ("left", expr left), ("right", expr right)])
  | .compound inits => choice "compound" (.array (fieldInits inits))
  | .bracket items => choice "bracket" (.array (bracketItems items))

def fieldInits : List FieldInit → List Json
  | [] => []
  | ⟨owner, index, value⟩ :: rest =>
      record [("owner", typeId owner), ("index", ofNat index), ("value", expr value)] ::
        fieldInits rest

def bracketItems : List BracketItem → List Json
  | [] => []
  | .item value :: rest =>
      record [("first", expr value), ("value", .null)] :: bracketItems rest
  | .entry key value :: rest =>
      record [("first", expr key), ("value", expr value)] :: bracketItems rest
end

def annotationItem (item : Annotation) : Json :=
  record [("tag", ofString item.tag), ("text", ofString item.text), ("span", span item.span)]

def annotations (list : List Annotation) : Json := ofList annotationItem list

def int64 (value : Int64) : Json := ofInt value.toInt

def typeRefKind : TypeRefKind → Json
  | .primitive kind => choice "primitive" (ofString kind.label)
  | .interval lower upper =>
      choice "interval"
        (record [("lower", ofOption int64 lower), ("upper", ofOption int64 upper)])
  | .derived id => choice "derived" (typeId id)

def typeRef (ref : TypeRef) : Json :=
  record [("span", span ref.span), ("kind", typeRefKind ref.kind)]

def declaredType (type : DeclaredType) : List (String × Json) :=
  [("ty", typeRef type.ref), ("array", .bool type.isArray)]

def heading (name : String) (place : Span) : List (String × Json) :=
  [("name", ofString name), ("span", span place)]

def field (field : Field) : Json :=
  record (heading field.name field.span ++ [("annotations", annotations field.annotations)] ++
    declaredType field.type)

def enumerator (enumerator : Enumerator) : Json :=
  record (heading enumerator.name enumerator.span ++
    [("annotations", annotations enumerator.annotations),
      ("value", ofOption (expr double) enumerator.value)])

def typeKind : TypeKind → Json
  | .struct base polymorphic fields =>
      choice "struct"
        (record [("base", ofOption typeId base), ("polymorphic", .bool polymorphic),
          ("fields", ofList field fields)])
  | .union base fields =>
      choice "union" (record [("base", ofOption typeId base), ("fields", ofList field fields)])
  | .enumeration base enumerators =>
      choice "enumeration"
        (record [("base", ofOption typeId base),
          ("enumerators", ofList (enumerator double) enumerators)])
  | .array element => choice "array" (record [("element", typeRef element)])
  | .map key value => choice "map" (record [("key", typeRef key), ("value", typeRef value)])
  | .alias actual => choice "alias" (typeRef actual)

def typeDef (definition : TypeDef) : Json :=
  record (heading definition.name definition.span ++
    [("owner", owner definition.owner), ("annotations", annotations definition.annotations),
      ("kind", typeKind double definition.kind)])

def constantDef (definition : ConstantDef) : Json :=
  record (heading definition.name definition.span ++
    [("owner", owner definition.owner), ("annotations", annotations definition.annotations)] ++
    declaredType definition.type ++ [("value", expr double definition.value)])

def argument (argument : Argument) : Json :=
  record (heading argument.name argument.span ++
    [("annotations", annotations argument.annotations)] ++ declaredType argument.type)

def attributeOf (item : Attribute) : Json :=
  record (heading item.name item.span ++ [("annotations", annotations item.annotations)] ++
    declaredType item.type ++
    [("read_only", .bool item.readOnly), ("no_subscriptions", .bool item.noSubscriptions)])

def methodErrors : MethodErrors → Json
  | .enumeration id => choice "enumeration" (typeId id)
  | .inline base enumerators =>
      choice "inline"
        (record [("base", ofOption typeId base),
          ("enumerators", ofList (enumerator double) enumerators)])

def method (method : Method) : Json :=
  record (heading method.name method.span ++
    [("annotations", annotations method.annotations),
      ("selector", ofOption ofString method.selector),
      ("fire_and_forget", .bool method.fireAndForget),
      ("in_args", ofList argument method.inArgs),
      ("out_args", ofList argument method.outArgs),
      ("errors", ofOption (methodErrors double) method.errors)])

def broadcast (broadcast : Broadcast) : Json :=
  record (heading broadcast.name broadcast.span ++
    [("annotations", annotations broadcast.annotations),
      ("selector", ofOption ofString broadcast.selector),
      ("selective", .bool broadcast.selective),
      ("out_args", ofList argument broadcast.outArgs)])

def stateVariable (item : StateVariable) : Json :=
  record (heading item.name item.span ++ declaredType item.type ++
    [("init", ofOption (expr double) item.init)])

def event (event : Event) : Json := choice event.kind.keyword (memberRef event.member)

def trigger (trigger : Trigger) : Json :=
  record [("span", span trigger.span), ("event", event trigger.event)]

def guard (guard : Guard) : Json :=
  record [("span", span guard.span), ("condition", expr double guard.condition)]

def assignment (assignment : Assignment) : Json :=
  record [("span", span assignment.span), ("target", elementRef assignment.target),
    ("value", expr double assignment.value)]

def transition (transition : Transition) : Json :=
  record [("span", span transition.span), ("trigger", trigger transition.trigger),
    ("guard", ofOption (guard double) transition.guard),
    ("assignments", ofList (assignment double) transition.assignments),
    ("to", ofNat transition.target)]

def state (state : State) : Json :=
  record (heading state.name state.span ++
    [("transitions", ofList (transition double) state.transitions)])

def contract (contract : Contract) : Json :=
  record [("span", span contract.span),
    ("variables", ofList (stateVariable double) contract.stateVariables),
    ("states", ofList (state double) contract.states)]

def interface (interface : Interface) : Json :=
  record (heading interface.name interface.span ++
    [("annotations", annotations interface.annotations),
      ("base", ofOption interfaceId interface.base),
      ("attributes", ofList attributeOf interface.attributes),
      ("methods", ofList (method double) interface.methods),
      ("broadcasts", ofList broadcast interface.broadcasts),
      ("types", ofList typeId interface.types),
      ("constants", ofList constantId interface.constants),
      ("contract", ofOption (contract double) interface.contract)])

def typeCollection (collection : TypeCollection) : Json :=
  record (heading collection.name collection.span ++
    [("annotations", annotations collection.annotations),
      ("types", ofList typeId collection.types),
      ("constants", ofList constantId collection.constants)])

def model (model : Model) : Json :=
  record [("name", ofString model.name),
    ("collections", ofList typeCollection model.collections),
    ("interfaces", ofList (interface double) model.interfaces),
    ("types", ofList (typeDef double) model.types),
    ("constants", ofList (constantDef double) model.constants)]

end

end FrancaAudit.Written
