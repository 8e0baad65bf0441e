import FrancaAudit.Model.Linked
import FrancaAudit.Snapshot.Shape

/-!
Reading a model from its snapshot.
-/

namespace FrancaAudit.Snapshot

def interfaceId : Read InterfaceId := fun depth json => (natural depth json).map (⟨·⟩)

def collectionId : Read CollectionId := fun depth json => (natural depth json).map (⟨·⟩)

def typeId : Read TypeId := fun depth json => (natural depth json).map (⟨·⟩)

def constantId : Read ConstantId := fun depth json => (natural depth json).map (⟨·⟩)

def span : Read Span := fun depth json => do
  let record ← record ["start", "end"] depth json
  return ⟨← record.required "start" natural, ← record.required "end" natural⟩

def owner : Read Owner := fun depth json => do
  let choice ← choice depth json
  match choice.name with
  | "collection" => return .collection (← choice.carrying collectionId)
  | "interface" => return .interface (← choice.carrying interfaceId)
  | _ => none

def memberRef : Read MemberRef := fun depth json => do
  let record ← record ["interface", "index"] depth json
  return ⟨← record.required "interface" interfaceId, ← record.required "index" natural⟩

def operation : Read Operation := fun depth json => do
  let choice ← choice depth json
  match choice.name with
  | "method" => return .method (← choice.carrying natural)
  | "broadcast" => return .broadcast (← choice.carrying natural)
  | _ => none

def direction : Read Direction := oneOf [("in", .input), ("out", .output)]

def argumentRef : Read ArgumentRef := fun depth json => do
  let record ← record ["interface", "operation", "direction", "index"] depth json
  return {
    interface := ← record.required "interface" interfaceId
    operation := ← record.required "operation" operation
    direction := ← record.required "direction" direction
    index := ← record.required "index" natural }

def ownedIndex : Read (TypeId × Nat) := fun depth json => do
  let record ← record ["owner", "index"] depth json
  return (← record.required "owner" typeId, ← record.required "index" natural)

def elementRef : Read ElementRef := fun depth json => do
  let choice ← choice depth json
  match choice.name with
  | "attribute" =>
      let ref ← choice.carrying memberRef
      return .attribute ref.interface ref.index
  | "argument" => return .argument (← choice.carrying argumentRef)
  | "constant" => return .constant (← choice.carrying constantId)
  | "state_variable" =>
      let ref ← choice.carrying memberRef
      return .stateVariable ref.interface ref.index
  | "field" =>
      let (owner, index) ← choice.carrying ownedIndex
      return .field owner index
  | "enumerator" =>
      let (owner, index) ← choice.carrying ownedIndex
      return .enumerator owner index
  | _ => none

def literal : Read Literal := fun depth json => do
  let choice ← choice depth json
  match choice.name with
  | "bool" => return .bool (← choice.carrying bool)
  | "integer" => return .integer (← choice.carrying int64)
  | "float" => return .float (← choice.carrying double)
  | "string" => return .string (← choice.carrying text)
  | _ => none

def unaryOp : Read UnaryOp := oneOf [("not", .not), ("neg", .neg)]

def binaryOp : Read BinaryOp :=
  oneOf [("and", .and), ("or", .or), ("eq", .eq), ("ne", .ne), ("lt", .lt), ("le", .le),
    ("gt", .gt), ("ge", .ge), ("add", .add), ("sub", .sub), ("mul", .mul), ("div", .div)]

def fieldInit (inner : Read Expr) : Read FieldInit := fun depth json => do
  let record ← record ["owner", "index", "value"] depth json
  return {
    owner := ← record.required "owner" typeId
    index := ← record.required "index" natural
    value := ← record.required "value" inner }

def bracketItem (inner : Read Expr) : Read BracketItem := fun depth json => do
  let record ← record ["first", "value"] depth json
  let first ← record.required "first" inner
  match ← record.optionOf "value" inner with
  | none => return .item first
  | some value => return .entry first value

def exprOver (inner : Read Expr) : Read Expr := fun depth json => do
  let choice ← choice depth json
  match choice.name with
  | "literal" => return .literal (← choice.carrying literal)
  | "ref" => return .ref (← choice.carrying elementRef)
  | "member" =>
      let record ← choice.carrying (record ["base", "owner", "index"])
      return .member (← record.required "base" inner) (← record.required "owner" typeId)
        (← record.required "index" natural)
  | "unary" =>
      let record ← choice.carrying (record ["op", "operand"])
      return .unary (← record.required "op" unaryOp) (← record.required "operand" inner)
  | "binary" =>
      let record ← choice.carrying (record ["op", "left", "right"])
      return .binary (← record.required "op" binaryOp) (← record.required "left" inner)
        (← record.required "right" inner)
  | "compound" => return .compound (← choice.carrying (list (fieldInit inner)))
  | "bracket" => return .bracket (← choice.carrying (list (bracketItem inner)))
  | _ => none

def exprWithin : Nat → Read Expr
  | 0 => fun _ _ => none
  | levels + 1 => exprOver (exprWithin levels)

/-- Every expression inside another one is nested deeper, so the limit on nesting is reached
before this one. -/
def expr : Read Expr := exprWithin (nestingLimit + 1)

def annotationItem : Read Annotation := fun depth json => do
  let record ← record ["tag", "text", "span"] depth json
  return {
    tag := ← record.required "tag" text
    text := ← record.orElse "text" text ""
    span := ← record.orElse "span" span .unknown }

def primitive : Read Primitive :=
  oneOf (Primitive.all.map fun primitive => (primitive.label, primitive))

def typeRefKind : Read TypeRefKind := fun depth json => do
  let choice ← choice depth json
  match choice.name with
  | "primitive" => return .primitive (← choice.carrying primitive)
  | "interval" =>
      let record ← choice.carrying (record ["lower", "upper"])
      return .interval (← record.optionOf "lower" int64) (← record.optionOf "upper" int64)
  | "derived" => return .derived (← choice.carrying typeId)
  | _ => none

def typeRef : Read TypeRef := fun depth json => do
  let record ← record ["span", "kind"] depth json
  return {
    span := ← record.orElse "span" span .unknown
    kind := ← record.required "kind" typeRefKind }

namespace Record

def spanField (record : Record) : Option Span := record.orElse "span" span .unknown

def annotationsField (record : Record) : Option (List Annotation) :=
  record.listOf "annotations" annotationItem

def typeField (record : Record) : Option DeclaredType := do
  return ⟨← record.required "ty" typeRef, ← record.flag "array"⟩

end Record

def field : Read Field := fun depth json => do
  let record ← record ["name", "span", "annotations", "ty", "array"] depth json
  return {
    name := ← record.required "name" text
    span := ← record.spanField
    annotations := ← record.annotationsField
    type := ← record.typeField }

def enumerator : Read Enumerator := fun depth json => do
  let record ← record ["name", "span", "annotations", "value"] depth json
  return {
    name := ← record.required "name" text
    span := ← record.spanField
    annotations := ← record.annotationsField
    value := ← record.optionOf "value" expr }

def typeKind : Read TypeKind := fun depth json => do
  let choice ← choice depth json
  match choice.name with
  | "struct" =>
      let record ← choice.carrying (record ["base", "polymorphic", "fields"])
      return .struct (← record.optionOf "base" typeId) (← record.flag "polymorphic")
        (← record.listOf "fields" field)
  | "union" =>
      let record ← choice.carrying (record ["base", "fields"])
      return .union (← record.optionOf "base" typeId) (← record.listOf "fields" field)
  | "enumeration" =>
      let record ← choice.carrying (record ["base", "enumerators"])
      return .enumeration (← record.optionOf "base" typeId)
        (← record.listOf "enumerators" enumerator)
  | "array" =>
      let record ← choice.carrying (record ["element"])
      return .array (← record.required "element" typeRef)
  | "map" =>
      let record ← choice.carrying (record ["key", "value"])
      return .map (← record.required "key" typeRef) (← record.required "value" typeRef)
  | "alias" => return .alias (← choice.carrying typeRef)
  | _ => none

def typeDef : Read TypeDef := fun depth json => do
  let record ← record ["name", "span", "owner", "annotations", "kind"] depth json
  return {
    name := ← record.required "name" text
    span := ← record.spanField
    owner := ← record.required "owner" owner
    annotations := ← record.annotationsField
    kind := ← record.required "kind" typeKind }

def constantDef : Read ConstantDef := fun depth json => do
  let record ← record ["name", "span", "owner", "annotations", "ty", "array", "value"] depth json
  return {
    name := ← record.required "name" text
    span := ← record.spanField
    owner := ← record.required "owner" owner
    annotations := ← record.annotationsField
    type := ← record.typeField
    value := ← record.required "value" expr }

def argument : Read Argument := fun depth json => do
  let record ← record ["name", "span", "annotations", "ty", "array"] depth json
  return {
    name := ← record.required "name" text
    span := ← record.spanField
    annotations := ← record.annotationsField
    type := ← record.typeField }

def attributeOf : Read Attribute := fun depth json => do
  let record ← record
    ["name", "span", "annotations", "ty", "array", "read_only", "no_subscriptions"] depth json
  return {
    name := ← record.required "name" text
    span := ← record.spanField
    annotations := ← record.annotationsField
    type := ← record.typeField
    readOnly := ← record.flag "read_only"
    noSubscriptions := ← record.flag "no_subscriptions" }

def methodErrors : Read MethodErrors := fun depth json => do
  let choice ← choice depth json
  match choice.name with
  | "enumeration" => return .enumeration (← choice.carrying typeId)
  | "inline" =>
      let record ← choice.carrying (record ["base", "enumerators"])
      return .inline (← record.optionOf "base" typeId) (← record.listOf "enumerators" enumerator)
  | _ => none

def method : Read Method := fun depth json => do
  let record ← record
    ["name", "span", "annotations", "selector", "fire_and_forget", "in_args", "out_args",
      "errors"] depth json
  return {
    name := ← record.required "name" text
    span := ← record.spanField
    annotations := ← record.annotationsField
    selector := ← record.optionOf "selector" text
    fireAndForget := ← record.flag "fire_and_forget"
    inArgs := ← record.listOf "in_args" argument
    outArgs := ← record.listOf "out_args" argument
    errors := ← record.optionOf "errors" methodErrors }

def broadcast : Read Broadcast := fun depth json => do
  let record ← record
    ["name", "span", "annotations", "selector", "selective", "out_args"] depth json
  return {
    name := ← record.required "name" text
    span := ← record.spanField
    annotations := ← record.annotationsField
    selector := ← record.optionOf "selector" text
    selective := ← record.flag "selective"
    outArgs := ← record.listOf "out_args" argument }

def stateVariable : Read StateVariable := fun depth json => do
  let record ← record ["name", "span", "ty", "array", "init"] depth json
  return {
    name := ← record.required "name" text
    span := ← record.spanField
    type := ← record.typeField
    init := ← record.optionOf "init" expr }

def event : Read Event := fun depth json => do
  let choice ← choice depth json
  let kind ← [EventKind.call, .respond, .error, .signal, .set, .update].find? fun kind =>
    kind.keyword = choice.name
  return ⟨kind, ← choice.carrying memberRef⟩

def trigger : Read Trigger := fun depth json => do
  let record ← record ["span", "event"] depth json
  return ⟨← record.spanField, ← record.required "event" event⟩

def guard : Read Guard := fun depth json => do
  let record ← record ["span", "condition"] depth json
  return ⟨← record.spanField, ← record.required "condition" expr⟩

def assignment : Read Assignment := fun depth json => do
  let record ← record ["span", "target", "value"] depth json
  return {
    span := ← record.spanField
    target := ← record.required "target" elementRef
    value := ← record.required "value" expr }

def transition : Read Transition := fun depth json => do
  let record ← record ["span", "trigger", "guard", "assignments", "to"] depth json
  return {
    span := ← record.spanField
    trigger := ← record.required "trigger" trigger
    guard := ← record.optionOf "guard" guard
    assignments := ← record.listOf "assignments" assignment
    target := ← record.required "to" natural }

def state : Read State := fun depth json => do
  let record ← record ["name", "span", "transitions"] depth json
  return {
    name := ← record.required "name" text
    span := ← record.spanField
    transitions := ← record.listOf "transitions" transition }

def contract : Read Contract := fun depth json => do
  let record ← record ["span", "variables", "states"] depth json
  return {
    span := ← record.spanField
    stateVariables := ← record.listOf "variables" stateVariable
    states := ← record.listOf "states" state }

def interface : Read Interface := fun depth json => do
  let record ← record
    ["name", "span", "annotations", "base", "attributes", "methods", "broadcasts", "types",
      "constants", "contract"] depth json
  return {
    name := ← record.required "name" text
    span := ← record.spanField
    annotations := ← record.annotationsField
    base := ← record.optionOf "base" interfaceId
    attributes := ← record.listOf "attributes" attributeOf
    methods := ← record.listOf "methods" method
    broadcasts := ← record.listOf "broadcasts" broadcast
    types := ← record.listOf "types" typeId
    constants := ← record.listOf "constants" constantId
    contract := ← record.optionOf "contract" contract }

def typeCollection : Read TypeCollection := fun depth json => do
  let record ← record ["name", "span", "annotations", "types", "constants"] depth json
  return {
    name := ← record.required "name" text
    span := ← record.spanField
    annotations := ← record.annotationsField
    types := ← record.listOf "types" typeId
    constants := ← record.listOf "constants" constantId }

def model : Read Model := fun depth json => do
  let record ← record ["name", "collections", "interfaces", "types", "constants"] depth json
  return {
    name := ← record.orElse "name" text ""
    collections := ← record.listOf "collections" typeCollection
    interfaces := ← record.listOf "interfaces" interface
    types := ← record.listOf "types" typeDef
    constants := ← record.listOf "constants" constantDef }

inductive ReadError
  | malformed
  | dangling (ref : DanglingRef)
deriving DecidableEq

def readTree (json : Json) : Except ReadError Model :=
  match model nestingLimit json with
  | none => .error .malformed
  | some model => .ok model

def linked (model : Model) : Except ReadError Model :=
  match model.danglingRef? with
  | some ref => .error (.dangling ref)
  | none => .ok model

def readText (text : String) : Except ReadError Model :=
  match Json.parse text with
  | none => .error .malformed
  | some json => readTree json

def readLinkedText (text : String) : Except ReadError Model := do
  linked (← readText text)

end FrancaAudit.Snapshot
