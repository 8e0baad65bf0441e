import FrancaAudit.Json.Double
import FrancaAudit.Model.Reference

/-!
Expressions: constant values, enumerator values, initial values, guards and assigned values.
-/

namespace FrancaAudit

inductive Literal
  | bool (value : Bool)
  | integer (value : Int64)
  | float (value : Double)
  | string (value : String)
deriving DecidableEq

inductive UnaryOp
  | not
  | neg
deriving DecidableEq

inductive BinaryOp
  | and
  | or
  | eq
  | ne
  | lt
  | le
  | gt
  | ge
  | add
  | sub
  | mul
  | div
deriving DecidableEq

def BinaryOp.symbol : BinaryOp → String
  | .and => "&&"
  | .or => "||"
  | .eq => "=="
  | .ne => "!="
  | .lt => "<"
  | .le => "<="
  | .gt => ">"
  | .ge => ">="
  | .add => "+"
  | .sub => "-"
  | .mul => "*"
  | .div => "/"

mutual
inductive Expr
  | literal (value : Literal)
  | ref (element : ElementRef)
  /-- The field at `index` of the struct or union `owner`, taken from the value of `base`. -/
  | member (base : Expr) (owner : TypeId) (index : Nat)
  | unary (op : UnaryOp) (operand : Expr)
  | binary (op : BinaryOp) (left right : Expr)
  /-- Values for the fields of a struct or union. -/
  | compound (inits : List FieldInit)
  | bracket (items : List BracketItem)

structure FieldInit where
  owner : TypeId
  index : Nat
  value : Expr

inductive BracketItem
  | item (value : Expr)
  | entry (key value : Expr)
end

namespace Expr

/-- Every element referred to inside the expression, from left to right. A member access refers to
its field after everything in its base; the field named by an initializer is not a reference. -/
def elementRefs : Expr → List ElementRef
  | .literal _ => []
  | .ref element => [element]
  | .member base owner index => base.elementRefs ++ [.field owner index]
  | .unary _ operand => operand.elementRefs
  | .binary _ left right => left.elementRefs ++ right.elementRefs
  | .compound inits => initRefs inits
  | .bracket items => itemRefs items
where
  initRefs : List FieldInit → List ElementRef
    | [] => []
    | ⟨_, _, value⟩ :: rest => value.elementRefs ++ initRefs rest
  itemRefs : List BracketItem → List ElementRef
    | [] => []
    | .item value :: rest => value.elementRefs ++ itemRefs rest
    | .entry key value :: rest => key.elementRefs ++ value.elementRefs ++ itemRefs rest

end Expr

end FrancaAudit
