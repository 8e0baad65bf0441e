import FrancaAudit.Json.Basic
import Mathlib.Tactic.IntervalCases

/-!
Numbers as a JSON text can give them, and the numbers that are written for integers.
-/

namespace FrancaAudit

def Digits (chars : List Char) : Prop := chars ≠ [] ∧ ∀ char ∈ chars, char.isDigit

instance (chars : List Char) : Decidable (Digits chars) := inferInstanceAs (Decidable (_ ∧ _))

namespace Numeral

/-- The parts of the number follow the grammar of JSON: there are digits wherever digits belong,
and the whole digits have no leading zero. -/
structure Grammatical (numeral : Numeral) : Prop where
  whole : Digits numeral.whole
  leading : ∀ rest, numeral.whole = '0' :: rest → rest = []
  fraction : ∀ digits, numeral.fraction = some digits → Digits digits
  exponent : ∀ negative digits, numeral.exponent = some (negative, digits) → Digits digits

theorem digits_toDigits (value : Nat) : Digits (Nat.toDigits 10 value) :=
  ⟨Nat.toDigits_ne_nil, fun _ => Nat.isDigit_of_mem_toDigits (by decide) (by decide)⟩

theorem digitValue_digitChar (digit : Nat) (small : digit < 10) :
    Text.digitValue digit.digitChar = digit := by
  interval_cases digit <;> rfl

theorem digitsValue_append_digit (digits : List Char) (digit : Char) :
    Text.digitsValue 10 (digits ++ [digit]) =
      10 * Text.digitsValue 10 digits + Text.digitValue digit := by
  simp [Text.digitsValue]

theorem digitsValue_toDigits (value : Nat) :
    Text.digitsValue 10 (Nat.toDigits 10 value) = value := by
  induction value using Nat.strongRecOn with
  | ind value ih =>
      by_cases small : value < 10
      · rw [Nat.toDigits_of_lt_base small]
        rw [← List.nil_append [value.digitChar], digitsValue_append_digit,
          digitValue_digitChar value small]
        simp [Text.digitsValue]
      · rw [Nat.toDigits_of_base_le (by decide) (by omega), digitsValue_append_digit,
          ih (value / 10) (by omega), digitValue_digitChar _ (Nat.mod_lt _ (by decide))]
        omega

theorem toDigits_leading (value : Nat) (rest : List Char)
    (zero : Nat.toDigits 10 value = '0' :: rest) : rest = [] := by
  induction value using Nat.strongRecOn generalizing rest with
  | ind value ih =>
      by_cases small : value < 10
      · rw [Nat.toDigits_of_lt_base small] at zero
        exact (List.cons.inj zero).2.symm
      · rw [Nat.toDigits_of_base_le (by decide) (by omega)] at zero
        obtain ⟨first, digits, front⟩ := List.exists_cons_of_ne_nil
          (Nat.toDigits_ne_nil (n := value / 10) (b := 10))
        rw [front, List.cons_append] at zero
        obtain ⟨rfl, -⟩ := List.cons.inj zero
        -- the digits in front are a single zero, so what they denote is less than one
        obtain rfl := ih (value / 10) (by omega) digits front
        have denoted := digitsValue_toDigits (value / 10)
        rw [front] at denoted
        have : value / 10 = 0 := denoted.symm
        omega

theorem grammatical_toDigits (negative : Bool) (value : Nat) :
    Grammatical ⟨negative, Nat.toDigits 10 value, none, none⟩ where
  whole := digits_toDigits value
  leading := toDigits_leading value
  fraction := nofun
  exponent := nofun

theorem grammatical_ofNat (value : Nat) : (ofNat value).Grammatical :=
  grammatical_toDigits false value

theorem grammatical_ofInt (value : Int) : (ofInt value).Grammatical := by
  cases value with
  | ofNat value => exact grammatical_toDigits false value
  | negSucc value => exact grammatical_toDigits true (value + 1)

theorem toInt?_ofNat (value : Nat) : (ofNat value).toInt? = some (value : Int) := by
  simp [toInt?, ofNat, digitsValue_toDigits]

theorem toInt?_ofInt (value : Int) : (ofInt value).toInt? = some value := by
  cases value with
  | ofNat value => exact toInt?_ofNat value
  | negSucc value => simp [toInt?, ofInt, digitsValue_toDigits, Int.negSucc_eq]

end Numeral

end FrancaAudit
