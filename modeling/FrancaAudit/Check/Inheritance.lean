import FrancaAudit.Check.Reporting

/-!
Rules on inheritance: a type extends a type of its own kind, an interface repeats no name of its
ancestors, and only one interface of a chain has a contract.
-/

namespace FrancaAudit.Check

variable (model : Model)

def inheritanceError (node : Node) (feature : Feature) (message : String) : Diagnostic :=
  .error .inheritanceConflict node feature message

def sameKind : TypeKind → TypeKind → Bool
  | .struct .., .struct .. => true
  | .union .., .union .. => true
  | .enumeration .., .enumeration .. => true
  | _, _ => false

def baseKindError (id : TypeId) (definition base : TypeDef) : Diagnostic :=
  let kind := definition.kind.label
  inheritanceError (.type id) .base
    ("Base of " ++ kind ++ " '" ++ definition.name ++ "' must be a " ++ kind ++ ", but '" ++
      base.name ++ "' is a " ++ base.kind.label)

def checkBaseKind (id : TypeId) (definition : TypeDef) : Reporting Unit :=
  match definition.kind.base?.bind model.type? with
  | none => pure ()
  | some base =>
      reportWhen (!sameKind definition.kind base.kind) (baseKindError id definition base)

structure Contribution where
  name : String
  origin : InterfaceId
  node : Node

def contributions (chain : List InterfaceId)
    (members : InterfaceId → Interface → List (String × Node)) : List Contribution :=
  chain.flatMap fun origin =>
    match model.interface? origin with
    | none => []
    | some interface => (members origin interface).map fun (name, node) => ⟨name, origin, node⟩

def attributeMembers (id : InterfaceId) (interface : Interface) : List (String × Node) :=
  interface.attributes.zipIdx.map fun (item, index) => (item.name, .attribute ⟨id, index⟩)

def typeMembers (_ : InterfaceId) (interface : Interface) : List (String × Node) :=
  interface.types.map fun id => (model.typeName id, .type id)

def constantMembers (_ : InterfaceId) (interface : Interface) : List (String × Node) :=
  interface.constants.filterMap fun id =>
    (model.constant? id).map fun definition => (definition.name, .constant id)

def distinctNodes : List Node → List Node
  | [] => []
  | node :: rest => node :: (distinctNodes rest).filter fun other => other ≠ node

/-- The nodes of every pair of a member of the interface itself and one of an ancestor with the
same name. -/
def clashes (id : InterfaceId) (members : List Contribution) : List Node :=
  let own := members.filter fun member => member.origin = id
  let inherited := members.filter fun member => member.origin ≠ id
  distinctNodes (own.flatMap fun member =>
    (inherited.filter fun other => other.name = member.name).flatMap fun other =>
      [member.node, other.node])

def clashError (id : InterfaceId) (what : String) (members : List Contribution) (node : Node) :
    Diagnostic :=
  let name := ((members.find? fun member => member.node = node).map (·.name)).getD
    Model.missingName
  inheritanceError node .name
    ("Duplicate " ++ what ++ " '" ++ name ++ "' in inheritance chain of interface '" ++
      model.interfaceName id ++ "'")

def checkClashes (id : InterfaceId) (what : String) (members : List Contribution) :
    Reporting Unit :=
  (clashes id members).forM fun node => report (clashError model id what members node)

/-- Clashes among an interface's own members are left to the rules on single declarations, so an
interface without a base has none. -/
def checkInheritedNames (id : InterfaceId) : Reporting Unit :=
  let chain := model.inheritanceSet id
  if chain.length < 2 then pure ()
  else do
    checkClashes model id "attribute" (contributions model chain attributeMembers)
    checkClashes model id "type" (contributions model chain (typeMembers model))
    checkClashes model id "constant" (contributions model chain (constantMembers model))

/-- The nearest ancestor that has a contract. -/
def inheritedContract? (id : InterfaceId) : Option InterfaceId :=
  (model.baseInterfaces id).find? fun base => (model.contract? base).isSome

def baseContractError (id base : InterfaceId) : Diagnostic :=
  inheritanceError (.contract id) .contract
    ("Interface cannot overwrite base contract (inherited from '" ++ model.interfaceName base ++
      "')")

def checkBaseContract (id : InterfaceId) : Reporting Unit :=
  if (model.contract? id).isNone then pure ()
  else match inheritedContract? model id with
    | none => pure ()
    | some base => report (baseContractError model id base)

def checkInheritance : Reporting Unit := do
  model.types.zipIdx.forM fun (definition, index) => checkBaseKind model ⟨index⟩ definition
  model.interfaceIds.forM fun id => do
    checkInheritedNames model id
    checkBaseContract model id

def inheritanceFindings : List Diagnostic := (checkInheritance model).findings

end FrancaAudit.Check
