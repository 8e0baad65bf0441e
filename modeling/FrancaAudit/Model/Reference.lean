/-!
How the parts of a model refer to each other.

Every collection, interface, type and constant has a position in its own list of the model. All
other declarations are found by the position of the declaration that holds them and an index
inside it.
-/

namespace FrancaAudit

structure CollectionId where
  index : Nat
deriving DecidableEq

structure InterfaceId where
  index : Nat
deriving DecidableEq

structure TypeId where
  index : Nat
deriving DecidableEq

structure ConstantId where
  index : Nat
deriving DecidableEq

/-- The part of the text that an element comes from, as byte positions. -/
structure Span where
  start : Nat
  stop : Nat
deriving DecidableEq

/-- An element without a place in any text has the empty span at the beginning. -/
def Span.unknown : Span := ⟨0, 0⟩

def Span.isUnknown (span : Span) : Bool := span = Span.unknown

inductive Owner
  | collection (id : CollectionId)
  | interface (id : InterfaceId)
deriving DecidableEq

/-- The interface that confines what is declared in it. A collection confines nothing. -/
def Owner.interface? : Owner → Option InterfaceId
  | .interface id => some id
  | .collection _ => none

structure MemberRef where
  interface : InterfaceId
  index : Nat
deriving DecidableEq

/-- A method or broadcast, by its position in an interface that is known. -/
inductive Operation
  | method (index : Nat)
  | broadcast (index : Nat)
deriving DecidableEq

inductive Direction
  | input
  | output
deriving DecidableEq

structure ArgumentRef where
  interface : InterfaceId
  operation : Operation
  direction : Direction
  index : Nat
deriving DecidableEq

/-- What an expression may refer to by name. A state variable belongs to the contract of its
interface; fields and enumerators belong to the type that declares them. -/
inductive ElementRef
  | attribute (interface : InterfaceId) (index : Nat)
  | argument (ref : ArgumentRef)
  | constant (id : ConstantId)
  | stateVariable (interface : InterfaceId) (index : Nat)
  | field (owner : TypeId) (index : Nat)
  | enumerator (owner : TypeId) (index : Nat)
deriving DecidableEq

end FrancaAudit
