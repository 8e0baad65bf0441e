import FrancaAudit.Text.Digits

/-!
JSON documents as trees.

A number keeps the digits it is written with, because `1`, `1.0` and `-0` are the same quantity
but not the same kind of value to a reader that wants an integer. A string that holds an unpaired
surrogate escape is well formed and yet names no text, so its text is optional.
-/

namespace FrancaAudit

/-- A number as written: sign, whole digits, digits after the point, and the exponent as its sign
and digits. -/
structure Numeral where
  negative : Bool
  whole : List Char
  fraction : Option (List Char)
  exponent : Option (Bool × List Char)
deriving DecidableEq

inductive Json
  | null
  | bool (value : Bool)
  | number (numeral : Numeral)
  | string (text : Option String)
  | array (items : List Json)
  | object (members : List (Option String × Json))

namespace Numeral

def ofNat (value : Nat) : Numeral :=
  ⟨false, Nat.toDigits 10 value, none, none⟩

def ofInt : Int → Numeral
  | .ofNat value => ofNat value
  | .negSucc value => ⟨true, Nat.toDigits 10 (value + 1), none, none⟩

/-- The integer written without point or exponent. A negative zero is not an integer. -/
def toInt? (numeral : Numeral) : Option Int :=
  match numeral.fraction, numeral.exponent with
  | none, none =>
      let value := Text.digitsValue 10 numeral.whole
      if numeral.negative then
        if value = 0 then none else some (-(value : Int))
      else some value
  | _, _ => none

end Numeral

namespace Json

def ofString (text : String) : Json := .string (some text)

def ofNat (value : Nat) : Json := .number (.ofNat value)

def ofInt (value : Int) : Json := .number (.ofInt value)

def record (members : List (String × Json)) : Json :=
  .object (members.map fun (key, value) => (some key, value))

def ofOption (write : α → Json) : Option α → Json
  | none => .null
  | some value => write value

def ofList (write : α → Json) (values : List α) : Json :=
  .array (values.map write)

end Json

end FrancaAudit
