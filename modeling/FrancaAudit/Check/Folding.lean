import FrancaAudit.Model.Basic

/-!
The values of integer expressions that are known without running anything.

A reference to a constant stands for the value of that constant. Operators and references nest up
to a limit, which also ends a constant that refers to itself.
-/

namespace FrancaAudit.Check

/-- Operands and references may lie this many steps below the whole expression. -/
def foldingLimit : Nat := 32

def within128 (value : Int) : Option Int :=
  if (signedRange 128).1 ≤ value ∧ value ≤ (signedRange 128).2 then some value else none

/-- Division truncates toward zero and has no value for a zero divisor. -/
def arithmetic? : BinaryOp → Int → Int → Option Int
  | .add, left, right => within128 (left + right)
  | .sub, left, right => within128 (left - right)
  | .mul, left, right => within128 (left * right)
  | .div, left, right => if right = 0 then none else within128 (left.tdiv right)
  | _, _, _ => none

def foldWithin (model : Model) : Nat → Expr → Option Int
  | 0, _ => none
  | levels + 1, expr =>
      match expr with
      | .literal (.integer value) => some value.toInt
      | .ref (.constant id) =>
          match model.constant? id with
          | none => none
          | some definition =>
              if definition.type.isArray then none else foldWithin model levels definition.value
      | .unary .neg operand =>
          match foldWithin model levels operand with
          | none => none
          | some value => within128 (-value)
      | .binary op left right =>
          match foldWithin model levels left with
          | none => none
          | some left => (foldWithin model levels right).bind (arithmetic? op left)
      | _ => none

def foldInt (model : Model) (expr : Expr) : Option Int :=
  foldWithin model (foldingLimit + 1) expr

end FrancaAudit.Check
