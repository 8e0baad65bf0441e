import FrancaAudit.Model.Definition

/-!
Interfaces: attributes, methods, broadcasts, and the contract that restricts their use.
-/

namespace FrancaAudit

structure Argument where
  name : String
  span : Span
  annotations : List Annotation
  type : DeclaredType

structure Attribute where
  name : String
  span : Span
  annotations : List Annotation
  type : DeclaredType
  readOnly : Bool
  noSubscriptions : Bool

/-- The error codes of a method: those of a declared enumeration, or a list of its own that may
extend one. -/
inductive MethodErrors
  | enumeration (id : TypeId)
  | inline (base : Option TypeId) (enumerators : List Enumerator)

namespace MethodErrors

def enumeration? : MethodErrors → Option TypeId
  | .enumeration id => some id
  | .inline base _ => base

def ownEnumerators : MethodErrors → List Enumerator
  | .enumeration _ => []
  | .inline _ enumerators => enumerators

end MethodErrors

structure Method where
  name : String
  span : Span
  annotations : List Annotation
  selector : Option String
  fireAndForget : Bool
  inArgs : List Argument
  outArgs : List Argument
  errors : Option MethodErrors

structure Broadcast where
  name : String
  span : Span
  annotations : List Annotation
  selector : Option String
  selective : Bool
  outArgs : List Argument

structure StateVariable where
  name : String
  span : Span
  type : DeclaredType
  init : Option Expr

inductive EventKind
  | call
  | respond
  | error
  | signal
  | set
  | update
deriving DecidableEq

def EventKind.keyword : EventKind → String
  | .call => "call"
  | .respond => "respond"
  | .error => "error"
  | .signal => "signal"
  | .set => "set"
  | .update => "update"

structure Event where
  kind : EventKind
  member : MemberRef
deriving DecidableEq

structure Trigger where
  span : Span
  event : Event
deriving DecidableEq

structure Guard where
  span : Span
  condition : Expr

structure Assignment where
  span : Span
  target : ElementRef
  value : Expr

structure Transition where
  span : Span
  trigger : Trigger
  guard : Option Guard
  assignments : List Assignment
  target : Nat

structure State where
  name : String
  span : Span
  transitions : List Transition

structure Contract where
  span : Span
  stateVariables : List StateVariable
  states : List State

structure Interface where
  name : String
  span : Span
  annotations : List Annotation
  base : Option InterfaceId
  attributes : List Attribute
  methods : List Method
  broadcasts : List Broadcast
  types : List TypeId
  constants : List ConstantId
  contract : Option Contract

end FrancaAudit
