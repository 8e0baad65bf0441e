import FrancaAudit.Check.Reporting

/-!
Methods and broadcasts of one name have to be told apart by the types of their arguments.
-/

namespace FrancaAudit.Check

/-- A method or broadcast as a caller of an interface sees it. -/
structure Overload where
  member : MemberRef
  name : String
  selector : Option String
  signature : List (TypeRefKind × Bool)

def signature (arguments : List Argument) : List (TypeRefKind × Bool) :=
  arguments.map fun argument => (argument.type.ref.kind, argument.type.isArray)

def selectorsDiffer : Option String → Option String → Bool
  | some first, some second => first ≠ second
  | _, _ => false

def oneExtendsOther {α : Type} [DecidableEq α] : List α → List α → Bool
  | [], _ => true
  | _, [] => true
  | first :: rest, second :: others => first = second && oneExtendsOther rest others

def ambiguous (first second : Overload) : Bool :=
  !selectorsDiffer first.selector second.selector &&
    oneExtendsOther first.signature second.signature

variable (model : Model)

def overloads (chain : List InterfaceId) (declared : InterfaceId → Interface → List Overload) :
    List Overload :=
  chain.flatMap fun id =>
    match model.interface? id with
    | none => []
    | some interface => declared id interface

def methodOverloads (id : InterfaceId) (interface : Interface) : List Overload :=
  interface.methods.zipIdx.map fun (method, index) =>
    ⟨⟨id, index⟩, method.name, method.selector, signature method.inArgs⟩

def broadcastOverloads (id : InterfaceId) (interface : Interface) : List Overload :=
  interface.broadcasts.zipIdx.map fun (broadcast, index) =>
    ⟨⟨id, index⟩, broadcast.name, broadcast.selector, signature broadcast.outArgs⟩

/-- At least one of the pair is declared by the interface itself; a pair of two ancestors is left
to the nearer one. -/
def clashing (id : InterfaceId) (first second : Overload) : Bool :=
  first.name = second.name &&
    (first.member.interface = id || second.member.interface = id) &&
    ambiguous first second

def ambiguityError (id : InterfaceId) (what : String) (feature : Feature) (name : String)
    (node : Node) : Diagnostic :=
  .error .inheritanceConflict node feature
    ("Ambiguous overloaded " ++ what ++ " '" ++ name ++ "' in interface '" ++
      model.interfaceName id ++ "': argument types do not distinguish the overloads")

def checkPair (id : InterfaceId) (what : String) (node : MemberRef → Node) (feature : Feature)
    (first second : Overload) : Reporting Unit :=
  if clashing id first second then do
    report (ambiguityError model id what feature first.name (node first.member))
    report (ambiguityError model id what feature first.name (node second.member))
  else pure ()

def checkAmbiguity (id : InterfaceId) (what : String) (node : MemberRef → Node)
    (feature : Feature) : List Overload → Reporting Unit
  | [] => pure ()
  | first :: rest => do
      rest.forM fun second => checkPair model id what node feature first second
      checkAmbiguity id what node feature rest

def checkOverloads : Reporting Unit :=
  model.interfaceIds.forM fun id => do
    let chain := model.inheritanceSet id
    checkAmbiguity model id "method" .method .inArgs (overloads model chain methodOverloads)
    checkAmbiguity model id "broadcast" .broadcast .outArgs
      (overloads model chain broadcastOverloads)

def overloadFindings : List Diagnostic := (checkOverloads model).findings

end FrancaAudit.Check
