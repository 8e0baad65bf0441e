import FrancaAudit.Check.Duplicate
import FrancaAudit.Model.Site

/-!
Rules on the shape of single declarations: names are unique among siblings, a type has members, a
method that expects no answer gives none, nothing follows the contract, and annotations have a
recognized tag.
-/

namespace FrancaAudit.Check

variable (model : Model)

def shapeError (node : Node) (feature : Feature) (message : String) : Diagnostic :=
  .error .structuralViolation node feature message

def reportShapeDuplicates (what : String) (items : List (String × Node)) : Reporting Unit :=
  reportDuplicates .structuralViolation what items

/-- Collections and interfaces share one space of names. -/
def checkTopLevelNames : Reporting Unit :=
  reportShapeDuplicates "type collection or interface name"
    (named model.collections (·.name) (fun index => .collection ⟨index⟩) ++
      named model.interfaces (·.name) (fun index => .interface ⟨index⟩))

def checkDefinitionNames (types : List TypeId) (constants : List ConstantId) : Reporting Unit := do
  reportShapeDuplicates "type name" (types.map fun id => (model.typeName id, .type id))
  reportShapeDuplicates "constant name"
    (constants.filterMap fun id =>
      (model.constant? id).map fun definition => (definition.name, .constant id))

def namedArguments (id : InterfaceId) (operation : Operation) (direction : Direction)
    (arguments : List Argument) : List (String × Node) :=
  named arguments (·.name) fun index => .argument ⟨id, operation, direction, index⟩

def crossError (name : String) (node : Node) : Diagnostic :=
  shapeError node .name ("Duplicate argument name '" ++ name ++ "' used for in and out")

/-- The arguments of both directions share one space of names. Each outward argument is held
against the first inward argument of its name, and both are reported. -/
def checkCrossNames (inward outward : List (String × Node)) : Reporting Unit :=
  outward.forM fun (name, outNode) =>
    match inward.find? fun item => item.1 = name with
    | none => pure ()
    | some (_, inNode) => do
        report (crossError name inNode)
        report (crossError name outNode)

def checkFireAndForget (node : Node) (method : Method) : Reporting Unit :=
  if method.fireAndForget then do
    reportWhen (!method.outArgs.isEmpty)
      (shapeError node .fireAndForget "Fire-and-forget methods cannot have out arguments")
    reportWhen method.errors.isSome
      (shapeError node .fireAndForget "Fire-and-forget methods cannot have error return codes")
  else pure ()

def errorCodeError (node : Node) (name : String) (index : Nat) : Diagnostic :=
  (shapeError node .errors ("Duplicate enumerator name '" ++ name ++ "'")).atIndex index

/-- Every error code but the first of its name is reported, at its index. -/
def checkErrorCodes (node : Node) : List String → List (Enumerator × Nat) → Reporting Unit
  | _, [] => pure ()
  | seen, (enumerator, index) :: rest =>
      if enumerator.name ∈ seen then do
        report (errorCodeError node enumerator.name index)
        checkErrorCodes node seen rest
      else checkErrorCodes node (enumerator.name :: seen) rest

def checkMethod (id : InterfaceId) (index : Nat) (method : Method) : Reporting Unit := do
  let node := Node.method ⟨id, index⟩
  let inward := namedArguments id (.method index) .input method.inArgs
  let outward := namedArguments id (.method index) .output method.outArgs
  let errorCodes := (method.errors.map (·.ownEnumerators)).getD []
  reportShapeDuplicates "argument name" inward
  reportShapeDuplicates "argument name" outward
  checkCrossNames inward outward
  checkFireAndForget node method
  checkErrorCodes node [] errorCodes.zipIdx

def checkBroadcast (id : InterfaceId) (index : Nat) (broadcast : Broadcast) : Reporting Unit :=
  reportShapeDuplicates "argument name"
    (namedArguments id (.broadcast index) .output broadcast.outArgs)

def checkInterface (id : InterfaceId) (interface : Interface) : Reporting Unit := do
  checkDefinitionNames model interface.types interface.constants
  reportShapeDuplicates "attribute name"
    (named interface.attributes (·.name) fun index => .attribute ⟨id, index⟩)
  interface.methods.zipIdx.forM fun (method, index) => checkMethod id index method
  interface.broadcasts.zipIdx.forM fun (broadcast, index) => checkBroadcast id index broadcast

def interfaceFindings (id : InterfaceId) (interface : Interface) : List Diagnostic :=
  (checkInterface model id interface).findings

def startsAfter (span contract : Span) : Bool :=
  !span.isUnknown && contract.start < span.start

def orderWarning (id : InterfaceId) (feature : Feature) (index : Nat) : Diagnostic :=
  (Diagnostic.warning .structuralViolation (.interface id) feature
    "Deprecated order of interface elements (contract should be at the end)").atIndex index

/-- Types and constants behind the contract are tolerated with a warning. -/
def checkElementOrder (id : InterfaceId) (interface : Interface) : Reporting Unit :=
  match interface.contract with
  | none => pure ()
  | some contract =>
      if contract.span.isUnknown then pure ()
      else do
        interface.constants.zipIdx.forM fun (constant, index) =>
          reportWhen ((model.constant? constant).any fun found =>
            startsAfter found.span contract.span) (orderWarning id .constants index)
        interface.types.zipIdx.forM fun (type, index) =>
          reportWhen ((model.type? type).any fun found =>
            startsAfter found.span contract.span) (orderWarning id .types index)

def checkMembers (node : Node) : TypeKind → Reporting Unit
  | .struct base polymorphic fields =>
      reportWhen (base.isNone && fields.isEmpty && !polymorphic)
        (shapeError node .name "Non-polymorphic structs must have own or inherited elements")
  | .union base fields =>
      reportWhen (base.isNone && fields.isEmpty)
        (shapeError node .name "Union must have own or inherited elements")
  | .enumeration _ enumerators =>
      reportWhen enumerators.isEmpty (shapeError node .name "Enumeration must not be empty")
  | .array _ | .map .. | .alias _ => pure ()

def checkTypeShape (id : TypeId) (definition : TypeDef) : Reporting Unit := do
  checkMembers (.type id) definition.kind
  reportShapeDuplicates "enumerator name"
    (named definition.kind.enumerators (·.name) fun index => .enumerator id index)
  reportShapeDuplicates "element name"
    (named definition.kind.fields (·.name) fun index => .field id index)

def tagError (node : Node) (item : Annotation) (index : Nat) : Diagnostic :=
  ((Diagnostic.error .unknownTag node .annotations
    ("Invalid annotation type '@" ++ item.tag ++ "'")).atIndex index).withSpan item.span

def checkAnnotations : Reporting Unit :=
  model.annotationSites.forM fun site =>
    site.annotations.zipIdx.forM fun (item, index) =>
      reportWhen item.kind?.isNone (tagError site.node item index)

def checkShape (elementOrder : Bool) : Reporting Unit := do
  checkTopLevelNames model
  model.collections.forM fun collection =>
    checkDefinitionNames model collection.types collection.constants
  model.interfaces.zipIdx.forM fun (interface, index) => do
    checkInterface model ⟨index⟩ interface
    if elementOrder then checkElementOrder model ⟨index⟩ interface
  model.types.zipIdx.forM fun (definition, index) => checkTypeShape ⟨index⟩ definition
  checkAnnotations model

def shapeFindings (elementOrder : Bool) : List Diagnostic :=
  (checkShape model elementOrder).findings

end FrancaAudit.Check
