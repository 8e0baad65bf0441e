import FrancaAudit.Check.Reporting
import FrancaAudit.Precedence.Order

/-!
What types and interfaces depend on, the order this puts the types in, and the cycles that leave
no order.
-/

namespace FrancaAudit.Check

variable (model : Model)

def typeDependencies (definition : TypeDef) : List TypeId :=
  definition.kind.base?.toList ++ definition.kind.memberRefs.filterMap (·.derivedId?)

def typePrecedence : Precedence TypeId :=
  (Precedence.empty.addNodes model.typeIds).addEdges
    (model.types.zipIdx.flatMap fun (definition, index) =>
      (typeDependencies definition).map fun dependency => (dependency, ⟨index⟩))

def interfacePrecedence : Precedence InterfaceId :=
  (Precedence.empty.addNodes model.interfaceIds).addEdges
    (model.interfaces.zipIdx.flatMap fun (interface, index) =>
      interface.base.toList.map fun base => (base, ⟨index⟩))

structure TypeCycle where
  types : List TypeId
deriving DecidableEq

def TypeCycle.message (cycle : TypeCycle) : String :=
  "cyclic type dependency among " ++ toString cycle.types.length ++ " type(s)"

def typeOrder : Except TypeCycle (List TypeId) :=
  (typePrecedence model).order.mapError fun cyclic => ⟨cyclic.nodes⟩

def cyclicTypes : List TypeId :=
  match typeOrder model with
  | .ok _ => []
  | .error cycle => cycle.types

def cyclicInterfaces : List InterfaceId :=
  match (interfacePrecedence model).order with
  | .ok _ => []
  | .error cyclic => cyclic.nodes

def typeCycleError (id : TypeId) : Diagnostic :=
  .error .cyclicDependency (.type id) .name
    ("type '" ++ model.typeName id ++ "' is part of a self-referential or cyclic type dependency")

def interfaceCycleError (id : InterfaceId) : Diagnostic :=
  .error .cyclicDependency (.interface id) .base
    ("interface '" ++ model.interfaceName id ++ "' is part of a cyclic inheritance chain")

def checkDependencies : Reporting Unit := do
  (cyclicTypes model).forM fun id => report (typeCycleError model id)
  (cyclicInterfaces model).forM fun id => report (interfaceCycleError model id)

def dependencyFindings : List Diagnostic := (checkDependencies model).findings

end FrancaAudit.Check
