import FrancaAudit.Check.Shape
import FrancaAudit.Proofs.Check.Duplicate

/-!
What the rules on the shape of declarations add to the sink, declaration by declaration.
-/

namespace FrancaAudit.Check

variable (model : Model)

def duplicateShapeErrors (what : String) (items : List (String × Node)) : List Diagnostic :=
  duplicateErrors .structuralViolation what items

theorem appends_reportShapeDuplicates (what : String) (items : List (String × Node)) :
    Appends (reportShapeDuplicates what items) (duplicateShapeErrors what items) :=
  appends_reportDuplicates _ what items

def topLevelNames : List Diagnostic :=
  duplicateShapeErrors "type collection or interface name"
    (named model.collections (·.name) (fun index => .collection ⟨index⟩) ++
      named model.interfaces (·.name) (fun index => .interface ⟨index⟩))

theorem appends_checkTopLevelNames : Appends (checkTopLevelNames model) (topLevelNames model) :=
  appends_reportShapeDuplicates _ _

def definitionNames (types : List TypeId) (constants : List ConstantId) : List Diagnostic :=
  duplicateShapeErrors "type name" (types.map fun id => (model.typeName id, .type id)) ++
  duplicateShapeErrors "constant name"
    (constants.filterMap fun id =>
      (model.constant? id).map fun definition => (definition.name, .constant id))

theorem appends_checkDefinitionNames (types : List TypeId) (constants : List ConstantId) :
    Appends (checkDefinitionNames model types constants)
      (definitionNames model types constants) :=
  (appends_reportShapeDuplicates _ _).andThen (appends_reportShapeDuplicates _ _)

def crossDuplicates (inward outward : List (String × Node)) : List Diagnostic :=
  outward.flatMap fun (name, outNode) =>
    match inward.find? fun item => item.1 = name with
    | none => []
    | some (_, inNode) => [crossError name inNode, crossError name outNode]

theorem appends_checkCrossNames (inward outward : List (String × Node)) :
    Appends (checkCrossNames inward outward) (crossDuplicates inward outward) := by
  apply appends_forM
  rintro ⟨name, outNode⟩
  dsimp only
  cases inward.find? fun item => item.1 = name with
  | none => exact appends_nothing
  | some item => exact (appends_report _).andThen (appends_report _)

def fireAndForgetErrors (node : Node) (method : Method) : List Diagnostic :=
  if method.fireAndForget then
    (if method.outArgs.isEmpty then []
      else [shapeError node .fireAndForget
        "Fire-and-forget methods cannot have out arguments"]) ++
    (if method.errors.isSome then
      [shapeError node .fireAndForget "Fire-and-forget methods cannot have error return codes"]
      else [])
  else []

theorem appends_checkFireAndForget (node : Node) (method : Method) :
    Appends (checkFireAndForget node method) (fireAndForgetErrors node method) := by
  unfold checkFireAndForget fireAndForgetErrors
  split
  · exact (appends_reportUnless _ _).andThen (appends_reportWhen _ _)
  · exact appends_nothing

def errorCodeDuplicates (node : Node) : List String → List (Enumerator × Nat) → List Diagnostic
  | _, [] => []
  | seen, (enumerator, index) :: rest =>
      if enumerator.name ∈ seen then
        errorCodeError node enumerator.name index :: errorCodeDuplicates node seen rest
      else errorCodeDuplicates node (enumerator.name :: seen) rest

theorem appends_checkErrorCodes (node : Node) (seen : List String)
    (enumerators : List (Enumerator × Nat)) :
    Appends (checkErrorCodes node seen enumerators)
      (errorCodeDuplicates node seen enumerators) := by
  induction enumerators generalizing seen with
  | nil => exact appends_nothing
  | cons item rest ih =>
      simp only [checkErrorCodes, errorCodeDuplicates]
      split
      · exact (appends_report _).andThen (ih seen)
      · exact ih _

def methodFindings (id : InterfaceId) (index : Nat) (method : Method) : List Diagnostic :=
  let node := Node.method ⟨id, index⟩
  let inward := namedArguments id (.method index) .input method.inArgs
  let outward := namedArguments id (.method index) .output method.outArgs
  let errorCodes := (method.errors.map (·.ownEnumerators)).getD []
  duplicateShapeErrors "argument name" inward ++
  duplicateShapeErrors "argument name" outward ++
  crossDuplicates inward outward ++
  fireAndForgetErrors node method ++
  errorCodeDuplicates node [] errorCodes.zipIdx

theorem appends_checkMethod (id : InterfaceId) (index : Nat) (method : Method) :
    Appends (checkMethod id index method) (methodFindings id index method) := by
  simp only [methodFindings, List.append_assoc]
  exact (appends_reportShapeDuplicates _ _).andThen <|
    (appends_reportShapeDuplicates _ _).andThen <|
    (appends_checkCrossNames _ _).andThen <|
    (appends_checkFireAndForget _ method).andThen (appends_checkErrorCodes _ _ _)

def broadcastFindings (id : InterfaceId) (index : Nat) (broadcast : Broadcast) :
    List Diagnostic :=
  duplicateShapeErrors "argument name"
    (namedArguments id (.broadcast index) .output broadcast.outArgs)

theorem appends_checkInterface (id : InterfaceId) (interface : Interface) :
    Appends (checkInterface model id interface)
      (definitionNames model interface.types interface.constants ++
        duplicateShapeErrors "attribute name"
          (named interface.attributes (·.name) fun index => .attribute ⟨id, index⟩) ++
        (interface.methods.zipIdx.flatMap fun (method, index) =>
          methodFindings id index method) ++
        interface.broadcasts.zipIdx.flatMap fun (broadcast, index) =>
          broadcastFindings id index broadcast) := by
  simp only [List.append_assoc]
  exact (appends_checkDefinitionNames model _ _).andThen <|
    (appends_reportShapeDuplicates _ _).andThen <|
    (appends_forM _ _ _ fun (method, index) => appends_checkMethod id index method).andThen <|
    appends_forM _ _ _ fun _ => appends_reportShapeDuplicates _ _

def elementOrderFindings (id : InterfaceId) (interface : Interface) : List Diagnostic :=
  match interface.contract with
  | none => []
  | some contract =>
      if contract.span.isUnknown then []
      else
        (interface.constants.zipIdx.flatMap fun (constant, index) =>
          if (model.constant? constant).any fun found => startsAfter found.span contract.span then
            [orderWarning id .constants index]
          else []) ++
        interface.types.zipIdx.flatMap fun (type, index) =>
          if (model.type? type).any fun found => startsAfter found.span contract.span then
            [orderWarning id .types index]
          else []

theorem appends_checkElementOrder (id : InterfaceId) (interface : Interface) :
    Appends (checkElementOrder model id interface) (elementOrderFindings model id interface) := by
  unfold checkElementOrder elementOrderFindings
  cases interface.contract with
  | none => exact appends_nothing
  | some contract =>
      dsimp only
      split
      · exact appends_nothing
      · exact (appends_forM _ _ _ fun _ => appends_reportWhen _ _).andThen
          (appends_forM _ _ _ fun _ => appends_reportWhen _ _)

def emptyTypeFindings (node : Node) : TypeKind → List Diagnostic
  | .struct base polymorphic fields =>
      if base.isNone && fields.isEmpty && !polymorphic then
        [shapeError node .name "Non-polymorphic structs must have own or inherited elements"]
      else []
  | .union base fields =>
      if base.isNone && fields.isEmpty then
        [shapeError node .name "Union must have own or inherited elements"]
      else []
  | .enumeration _ enumerators =>
      if enumerators.isEmpty then [shapeError node .name "Enumeration must not be empty"] else []
  | .array _ | .map .. | .alias _ => []

theorem appends_checkMembers (node : Node) (kind : TypeKind) :
    Appends (checkMembers node kind) (emptyTypeFindings node kind) := by
  cases kind with
  | struct | union | enumeration => exact appends_reportWhen _ _
  | array | map | «alias» => exact appends_nothing

def typeFindings (id : TypeId) (definition : TypeDef) : List Diagnostic :=
  emptyTypeFindings (.type id) definition.kind ++
  duplicateShapeErrors "enumerator name"
    (named definition.kind.enumerators (·.name) fun index => .enumerator id index) ++
  duplicateShapeErrors "element name"
    (named definition.kind.fields (·.name) fun index => .field id index)

theorem appends_checkTypeShape (id : TypeId) (definition : TypeDef) :
    Appends (checkTypeShape id definition) (typeFindings id definition) := by
  rw [typeFindings, List.append_assoc]
  exact (appends_checkMembers _ _).andThen <|
    (appends_reportShapeDuplicates _ _).andThen (appends_reportShapeDuplicates _ _)

def annotationFindings : List Diagnostic :=
  model.annotationSites.flatMap fun site =>
    site.annotations.zipIdx.flatMap fun (item, index) =>
      if item.kind?.isNone then [tagError site.node item index] else []

theorem appends_checkAnnotations :
    Appends (checkAnnotations model) (annotationFindings model) :=
  appends_forM _ _ _ fun _ => appends_forM _ _ _ fun _ => appends_reportWhen _ _

theorem appends_checkShape (elementOrder : Bool) :
    Appends (checkShape model elementOrder)
      (topLevelNames model ++
        (model.collections.flatMap fun collection =>
          definitionNames model collection.types collection.constants) ++
        (model.interfaces.zipIdx.flatMap fun (interface, index) =>
          interfaceFindings model ⟨index⟩ interface ++
          (if elementOrder then elementOrderFindings model ⟨index⟩ interface else [])) ++
        (model.types.zipIdx.flatMap fun (definition, index) => typeFindings ⟨index⟩ definition) ++
        annotationFindings model) := by
  simp only [List.append_assoc]
  refine (appends_checkTopLevelNames model).andThen <|
    (appends_forM _ _ _ fun _ => appends_checkDefinitionNames model _ _).andThen <|
    (appends_forM _ _ _ fun (interface, index) => ?_).andThen <|
    (appends_forM _ _ _ fun _ => appends_checkTypeShape _ _).andThen
      (appends_checkAnnotations model)
  refine (appends_checkInterface model _ _).own.andThen ?_
  split
  · exact appends_checkElementOrder model _ _
  · exact appends_nothing

end FrancaAudit.Check
