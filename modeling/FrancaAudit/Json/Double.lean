import FrancaAudit.Json.Basic
import FrancaAudit.Width

/-!
Binary floating point values of numbers in a document.

The leading digits are gathered into one 64-bit significand and a power of ten is applied to it,
each step rounded on its own. The result can differ from the nearest double in the last place, and
that is the value a document stands for here.
-/

namespace FrancaAudit

structure Double where
  bits : UInt64
deriving DecidableEq

namespace Numeral

/-- The leading digits of a number as one integer of 64 bits, and the power of ten that goes
with it. -/
structure Significand where
  value : Nat
  exponent : Int
deriving DecidableEq

def fits (value : Nat) : Bool := value < wordCount 64

/-- From the first whole digit that does not fit on, each digit only counts for its place. -/
def takeWhole : Nat → List Char → Significand
  | value, [] => ⟨value, 0⟩
  | value, digit :: rest =>
      let next := 10 * value + Text.digitValue digit
      if fits next then takeWhole next rest else ⟨value, (rest.length + 1 : Nat)⟩

/-- From the first digit after the point that does not fit on, digits are dropped. -/
def takeFraction : Significand → List Char → Significand
  | taken, [] => taken
  | taken, digit :: rest =>
      let next := 10 * taken.value + Text.digitValue digit
      if fits next then takeFraction ⟨next, taken.exponent - 1⟩ rest else taken

def significand (numeral : Numeral) : Significand :=
  takeFraction (takeWhole 0 numeral.whole) (numeral.fraction.getD [])

def writtenExponent? (numeral : Numeral) : Option Int :=
  match numeral.exponent with
  | none => some 0
  | some (negative, digits) =>
      let value := Text.digitsValue 10 digits
      if value < wordCount 31 then some (if negative then -(value : Int) else value) else none

def pow10 (exponent : Nat) : Float := Float.ofScientific 1 false exponent

/-- Scales by a power of ten, at most 308 places at a time; none on overflow. -/
def scale : Nat → Float → Int → Option Float
  | 0, value, _ => some value
  | steps + 1, value, exponent =>
      if exponent.natAbs ≤ 308 then
        if exponent < 0 then some (value / pow10 exponent.natAbs)
        else
          let scaled := value * pow10 exponent.natAbs
          if scaled.isInf then none else some scaled
      else if value == 0.0 then some value
      else if exponent ≥ 0 then none
      else scale steps (value / pow10 308) (exponent + 308)

def clamp32 (value : Int) : Int :=
  max (signedRange 32).1 (min (signedRange 32).2 value)

def toDouble? (numeral : Numeral) : Option Double :=
  let digits := numeral.significand
  let sign (value : Float) : Double := ⟨(if numeral.negative then -value else value).toBits⟩
  match numeral.writtenExponent? with
  | some exponent =>
      (scale 8 (UInt64.ofNat digits.value).toFloat (clamp32 (digits.exponent + exponent))).map sign
  | none =>
      match numeral.exponent with
      | some (false, _) => if digits.value = 0 then some (sign 0.0) else none
      | _ => some (sign 0.0)

end Numeral

end FrancaAudit
