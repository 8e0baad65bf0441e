import FrancaAudit.Json.Double
import Mathlib

/-!
No number of a document stands for an infinite or undefined double.

A quotient could only be infinite for a small divisor, and the divisors here are ten and more; a
product that is infinite is refused. That the rounded results keep below the greatest double is
read off the number of bits of their mantissas.

The lemmas on packed doubles come with the whole of the library only.
-/

namespace FrancaAudit

open Float.Model (UnpackedFloat totalExponent)
open Float.Model.UnpackedFloat
open Float.Model.Format (binary64)

namespace Binary64

theorem log2_mono (less more : Nat) (le : less ≤ more) : less.log2 ≤ more.log2 := by
  rw [Nat.log2_eq_log_two, Nat.log2_eq_log_two]
  exact Nat.log_mono_right le

theorem log2_div_two_pow (value count : Nat) : (value / 2 ^ count).log2 = value.log2 - count := by
  rw [Nat.log2_eq_log_two, Nat.log2_eq_log_two, Nat.log_div_base_pow]

theorem log2_shiftLeft_le (value count : Nat) : (value <<< count).log2 ≤ value.log2 + count := by
  have same := log2_div_two_pow (value <<< count) count
  rw [Nat.shiftLeft_eq, Nat.mul_div_cancel _ (Nat.two_pow_pos count)] at same
  rw [Nat.shiftLeft_eq]
  omega

theorem log2_div_le (value divisor : Nat) (positive : 0 < divisor)
    (nonzero : value / divisor ≠ 0) :
    (value / divisor).log2 + divisor.log2 ≤ value.log2 := by
  have quotient := Nat.log2_self_le nonzero
  have whole := Nat.log2_self_le positive.ne'
  have product : 2 ^ ((value / divisor).log2 + divisor.log2) ≤ value :=
    calc 2 ^ ((value / divisor).log2 + divisor.log2)
        = 2 ^ (value / divisor).log2 * 2 ^ divisor.log2 := Nat.pow_add ..
      _ ≤ value / divisor * divisor := Nat.mul_le_mul quotient whole
      _ ≤ value := Nat.div_mul_le_self value divisor
  have value_ne : value ≠ 0 := fun zero => nonzero (by rw [zero, Nat.zero_div])
  exact (Nat.le_log2 value_ne).mpr product

def dropped (mantissa : Nat) (exponent : Int) : Nat :=
  (max (mantissa.log2 + exponent - 52) (-1074) - exponent).toNat

theorem targetExponent_eq (total : Int) :
    binary64.targetExponent total = max (total - 53) (-1074) := by
  simp only [Float.Model.Format.targetExponent, Float.Model.Format.mantissaBits,
    Float.Model.Format.minExponent]
  omega

theorem mantissa_shiftRight (extended : ExtendedMantissa) (count : Nat) :
    (extended >>> count).mantissa = extended.mantissa / 2 ^ count := by
  induction count with
  | zero => exact (Nat.div_one _).symm
  | succ count ih =>
      change (extended >>> count).mantissa / 2 = _
      rw [ih, Nat.div_div_eq_div_mul, ← Nat.pow_succ]

theorem shift_eq (mantissa : Nat) (exponent : Int) (accuracy : Accuracy) :
    (shiftToTargetExponent binary64 mantissa exponent accuracy).1.mantissa =
        mantissa / 2 ^ dropped mantissa exponent ∧
      (shiftToTargetExponent binary64 mantissa exponent accuracy).2 =
        exponent + dropped mantissa exponent := by
  have target : binary64.targetExponent (totalExponent mantissa exponent) =
      max (mantissa.log2 + exponent - 52) (-1074) := by
    rw [targetExponent_eq, totalExponent]
    omega
  have whole : (ExtendedMantissa.ofMantissaAndAccuracy mantissa accuracy).mantissa = mantissa := by
    rcases accuracy with _ | order
    · rfl
    · cases order <;> rfl
  constructor
  · simp only [shiftToTargetExponent, shiftToExponent, target, mantissa_shiftRight, whole, dropped]
  · simp only [shiftToTargetExponent, shiftToExponent, target, dropped]

theorem roundedMantissa_bounds (extended : ExtendedMantissa) :
    extended.mantissa ≤ extended.roundedMantissa ∧
      extended.roundedMantissa ≤ extended.mantissa + 1 := by
  obtain ⟨mantissa, round, sticky⟩ := extended
  cases round <;> cases sticky <;>
    simp only [ExtendedMantissa.roundedMantissa, ExtendedMantissa.accuracy,
      Accuracy.roundToNearestEven] <;> omega

/-- Rounding drops bits, adds at most one in the last place, and drops the bit that this may have
carried into. -/
theorem round_eq (sign : Sign) (mantissa : Nat) (exponent : Int) (accuracy : Accuracy) :
    ∃ rounded, mantissa / 2 ^ dropped mantissa exponent ≤ rounded ∧
      rounded ≤ mantissa / 2 ^ dropped mantissa exponent + 1 ∧
      roundWithAccuracy binary64 sign mantissa exponent accuracy =
        let first := exponent + dropped mantissa exponent
        let last := rounded / 2 ^ dropped rounded first
        if nothing : last = 0 then .zero sign
        else .finite sign last (first + dropped rounded first) (Nat.pos_of_ne_zero nothing) := by
  obtain ⟨firstMantissa, firstExponent⟩ := shift_eq mantissa exponent accuracy
  obtain ⟨least, greatest⟩ :=
    roundedMantissa_bounds (shiftToTargetExponent binary64 mantissa exponent accuracy).1
  rw [firstMantissa] at least greatest
  refine ⟨_, least, greatest, ?_⟩
  rw [roundWithAccuracy]
  simp only [firstExponent, shift_eq]

theorem log2_rounded (mantissa : Nat) (exponent : Int) (rounded : Nat)
    (le : rounded ≤ mantissa / 2 ^ dropped mantissa exponent + 1) : rounded.log2 ≤ 53 := by
  have kept : (mantissa / 2 ^ dropped mantissa exponent).log2 ≤ 52 := by
    rw [log2_div_two_pow, dropped]
    omega
  have below : mantissa / 2 ^ dropped mantissa exponent < 2 ^ 53 := by
    have bits := Nat.lt_log2_self (n := mantissa / 2 ^ dropped mantissa exponent)
    exact bits.trans_le (Nat.pow_le_pow_right (by decide) (by omega))
  calc rounded.log2 ≤ (2 ^ 53).log2 := log2_mono _ _ (by omega)
    _ = 53 := Nat.log2_two_pow

theorem round_full (sign : Sign) (mantissa : Nat) (exponent : Int) (accuracy : Accuracy)
    (enough : 52 ≤ mantissa.log2) (normal : -1074 ≤ mantissa.log2 + exponent - 52) :
    ∃ (mantissa' : Nat) (exponent' : Int) (positive : 0 < mantissa'),
      roundWithAccuracy binary64 sign mantissa exponent accuracy =
          .finite sign mantissa' exponent' positive ∧
        mantissa'.log2 = 52 ∧ mantissa.log2 + exponent - 52 ≤ exponent' ∧
        exponent' ≤ mantissa.log2 + exponent - 51 := by
  obtain ⟨rounded, least, greatest, same⟩ := round_eq sign mantissa exponent accuracy
  have carried := log2_rounded mantissa exponent rounded greatest
  have kept := log2_mono _ _ least
  rw [log2_div_two_pow] at kept
  have first : (dropped mantissa exponent : Int) = mantissa.log2 - 52 := by
    simp only [dropped]
    omega
  -- the mantissa has as many bits as a double again, whether rounding carried or not
  have last : (rounded / 2 ^ dropped rounded (exponent + dropped mantissa exponent)).log2 = 52 := by
    rw [log2_div_two_pow]
    simp only [dropped] at first kept ⊢
    omega
  have something : rounded / 2 ^ dropped rounded (exponent + dropped mantissa exponent) ≠ 0 := by
    intro nothing
    rw [nothing] at last
    cases last
  refine ⟨_, exponent + dropped mantissa exponent +
    dropped rounded (exponent + dropped mantissa exponent), Nat.pos_of_ne_zero something,
    same.trans (dif_neg something), last, ?_⟩
  simp only [dropped] at first kept ⊢
  omega

theorem unpack_isFinite (sign : Sign) (exponent : BitVec 11) (mantissa : BitVec 52)
    (below : exponent ≠ -1#11) :
    (unpack binary64 (packComponents binary64 sign exponent mantissa)).isFinite := by
  rw [unpack]
  simp only [unpackExponent_packComponents, unpackMantissa_packComponents]
  rw [if_neg below]
  split_ifs <;> rfl

theorem exponentBias_eq : binary64.exponentBias = 1023 := rfl

theorem mantissaBits_eq : binary64.mantissaBits = 53 := rfl

def biased (exponent : Int) : Nat := (exponent + 1075).toNat

theorem biased_stored (exponent : Int) (least : -1074 ≤ exponent) (greatest : exponent ≤ 971) :
    ((BitVec.ofNat 11 (biased exponent)).toNat : Int) = exponent + 1075 := by
  rw [BitVec.toNat_ofNat, biased]
  omega

theorem pack_finite (sign : Sign) (mantissa : Nat) (exponent : Int) (positive : 0 < mantissa) :
    UnpackedFloat.pack binary64 (.finite sign mantissa exponent positive) =
      if 2047 ≤ biased exponent then packedInfinity binary64 sign
      else if mantissa.log2 = 52 then
        packComponents binary64 sign (BitVec.ofNat 11 (biased exponent)) (BitVec.ofNat 52 mantissa)
      else packComponents binary64 sign 0#11 (BitVec.ofNat 52 mantissa) := by
  have same : exponent + (1023 : Nat) + (52 : Nat) = exponent + 1075 := by omega
  simp only [UnpackedFloat.pack, exponentBias_eq, mantissaBits_eq, same, biased]
  congr 1
  · simp
  · congr 1
    simp

theorem pack_isFinite (sign : Sign) (mantissa : Nat) (exponent : Int) (positive : 0 < mantissa)
    (small : exponent ≤ 971) :
    (Float.Model.pack (.finite sign mantissa exponent positive)).isFinite := by
  have fits : ¬ 2047 ≤ biased exponent := by
    simp only [biased]
    omega
  change (unpack binary64 (UnpackedFloat.pack binary64 _)).isFinite = true
  rw [pack_finite, if_neg fits]
  split_ifs
  · refine unpack_isFinite _ _ _ fun full => ?_
    have stored := congrArg BitVec.toNat full
    simp at stored
    omega
  · exact unpack_isFinite _ _ _ (by decide)

theorem pack_cases (unpacked : UnpackedFloat) (finite : unpacked.isFinite) :
    (Float.Model.pack unpacked).isFinite ∨ (Float.Model.pack unpacked).isInf := by
  cases unpacked with
  | infinity sign => cases finite
  | notANumber => cases finite
  | zero sign => exact .inl (unpack_isFinite sign 0#11 0#52 (by decide))
  | finite sign mantissa exponent positive =>
      by_cases small : exponent ≤ 971
      · exact .inl (pack_isFinite sign mantissa exponent positive small)
      · right
        have large : 2047 ≤ biased exponent := by
          simp only [biased]
          omega
        change (unpack binary64 (UnpackedFloat.pack binary64 _)).isInf = true
        rw [pack_finite, if_pos large]
        cases sign <;> rfl

theorem toNat_lt_of_ne (stored : BitVec 11) (below : stored ≠ -1#11) : stored.toNat ≤ 2046 := by
  have differs : stored.toNat ≠ (-1#11).toNat := fun same => below (BitVec.eq_of_toNat_eq same)
  have bound := stored.isLt
  simp at differs
  omega

theorem unpack_bounds (value : Float.Model) (sign : Sign) (mantissa : Nat) (exponent : Int)
    (positive : 0 < mantissa) (unpacked : value.unpack = .finite sign mantissa exponent positive) :
    mantissa < 2 ^ 53 ∧ exponent ≤ 971 := by
  rw [Float.Model.unpack, unpack] at unpacked
  simp only [exponentBias_eq] at unpacked
  have bits : (@unpackMantissa binary64 value.toBits.toBitVec).toNat < 2 ^ 52 := BitVec.isLt _
  by_cases full : @unpackExponent binary64 value.toBits.toBitVec = -1#11
  · rw [if_pos full] at unpacked
    split_ifs at unpacked
  by_cases empty : @unpackExponent binary64 value.toBits.toBitVec = 0#11
  · rw [if_neg full, if_pos empty] at unpacked
    split_ifs at unpacked
    obtain ⟨-, rfl, rfl⟩ := UnpackedFloat.finite.inj unpacked
    simp only [empty, BitVec.toNat_zero]
    omega
  · rw [if_neg full, if_neg empty] at unpacked
    obtain ⟨-, rfl, rfl⟩ := UnpackedFloat.finite.inj unpacked
    have small := toNat_lt_of_ne _ full
    exact ⟨BitVec.isLt _, by omega⟩

theorem two_pow_le_append (bits : BitVec 52) : 2 ^ 52 ≤ (1#1 ++ bits).toNat := by
  change 2 ^ 52 ≤ 2 ^ 52 ||| bits.toNat
  exact Nat.left_le_or

theorem unpack_pack_full (sign : Sign) (mantissa : Nat) (exponent : Int) (positive : 0 < mantissa)
    (full : mantissa.log2 = 52) (least : -1074 ≤ exponent) (greatest : exponent ≤ 971) :
    ∃ mantissa' positive',
      (Float.Model.pack (.finite sign mantissa exponent positive)).unpack =
          .finite sign mantissa' exponent positive' ∧ 52 ≤ mantissa'.log2 := by
  have fits : ¬ 2047 ≤ biased exponent := by
    simp only [biased]
    omega
  have stored := biased_stored exponent least greatest
  -- the stored exponent is neither that of infinities nor that of subnormal numbers
  have notFull : BitVec.ofNat 11 (biased exponent) ≠ -1#11 := by
    intro same
    rw [same] at stored
    simp at stored
    omega
  have notEmpty : BitVec.ofNat 11 (biased exponent) ≠ 0#11 := by
    intro same
    rw [same] at stored
    simp only [BitVec.toNat_zero] at stored
    omega
  have whole : exponent + 1075 - ((1023 : Nat) + (52 : Nat)) = exponent := by omega
  have large := two_pow_le_append (BitVec.ofNat 52 mantissa)
  have packed : (Float.Model.pack (.finite sign mantissa exponent positive)).unpack =
      unpack binary64 (packComponents binary64 sign (BitVec.ofNat 11 (biased exponent))
        (BitVec.ofNat 52 mantissa)) := by
    change unpack binary64 (UnpackedFloat.pack binary64 _) = _
    rw [pack_finite, if_neg fits, if_pos full]
  refine ⟨_, Nat.lt_of_lt_of_le (by decide) large, ?_, (Nat.le_log2 (by omega)).mpr large⟩
  simp only [packed, unpack, unpackSign_packComponents, Sign.ofBitVec_toBitVec,
    unpackExponent_packComponents, unpackMantissa_packComponents, exponentBias_eq, if_neg notFull,
    if_neg notEmpty, stored, whole]

theorem pack_round_isFinite (sign : Sign) (mantissa : Nat) (exponent : Int) (accuracy : Accuracy)
    (low : exponent ≤ 970) (small : mantissa.log2 + exponent ≤ 1022) :
    (Float.Model.pack (roundWithAccuracy binary64 sign mantissa exponent accuracy)).isFinite := by
  obtain ⟨rounded, _, greatest, same⟩ := round_eq sign mantissa exponent accuracy
  have carried := log2_rounded mantissa exponent rounded greatest
  rw [same]
  dsimp only
  split_ifs
  · exact unpack_isFinite sign 0#11 0#52 (by decide)
  · refine pack_isFinite _ _ _ _ ?_
    simp only [dropped]
    omega

theorem toFloat_isFinite (value : UInt64) : value.toFloat.isFinite := by
  change (Float.Model.pack (UnpackedFloat.normalize binary64 value.toNat 0 .positive)).isFinite
  have bits : value.toNat.log2 ≤ 64 :=
    (log2_mono _ _ (Nat.le_of_lt value.toNat_lt)).trans_eq Nat.log2_two_pow
  rw [UnpackedFloat.normalize]
  split
  · next negative =>
      have := Int.compare_eq_lt.mp negative
      omega
  · exact unpack_isFinite .positive 0#11 0#52 (by decide)
  · rw [UnpackedFloat.round, decreaseExponent, Int.toNat_natCast]
    have shifted := log2_shiftLeft_le value.toNat
      (0 - binary64.targetExponent (totalExponent value.toNat 0)).toNat
    exact pack_round_isFinite _ _ _ _ (by omega) (by omega)

theorem isFinite_cases (value : Float) (finite : value.isFinite) :
    (∃ sign, value.toModel.unpack = .zero sign) ∨
      ∃ sign mantissa exponent positive,
        value.toModel.unpack = .finite sign mantissa exponent positive ∧
          mantissa.log2 ≤ 52 ∧ exponent ≤ 971 := by
  change value.toModel.unpack.isFinite at finite
  cases unpacked : value.toModel.unpack with
  | infinity sign => simp [unpacked, UnpackedFloat.isFinite] at finite
  | notANumber => simp [unpacked, UnpackedFloat.isFinite] at finite
  | zero sign => exact .inl ⟨sign, rfl⟩
  | finite sign mantissa exponent positive =>
      obtain ⟨bits, small⟩ := unpack_bounds _ _ _ _ _ unpacked
      exact .inr ⟨sign, mantissa, exponent, positive, rfl,
        Nat.le_of_lt_succ ((Nat.log2_lt positive.ne').mpr bits), small⟩

theorem neg_isFinite (value : Float) (finite : value.isFinite) : (-value).isFinite := by
  change (Float.Model.pack value.toModel.unpack.neg).isFinite
  obtain ⟨sign, unpacked⟩ | ⟨sign, mantissa, exponent, positive, unpacked, _, small⟩ :=
    isFinite_cases value finite
  · rw [unpacked]
    exact unpack_isFinite (-sign) 0#11 0#52 (by decide)
  · rw [unpacked]
    exact pack_isFinite _ _ _ _ small

theorem mul_isFinite (first second : Float) (finite : first.isFinite) (finite' : second.isFinite)
    (fits : (first * second).isInf = false) : (first * second).isFinite := by
  have product :
      (UnpackedFloat.mul binary64 first.toModel.unpack second.toModel.unpack).isFinite := by
    obtain ⟨sign, unpacked⟩ | ⟨sign, mantissa, exponent, positive, unpacked, _⟩ :=
      isFinite_cases first finite <;>
    obtain ⟨sign', unpacked'⟩ | ⟨sign', mantissa', exponent', positive', unpacked', _⟩ :=
      isFinite_cases second finite' <;>
    rw [unpacked, unpacked']
    · rfl
    · rfl
    · rfl
    · obtain ⟨rounded, _, _, same⟩ := round_eq (sign * sign') (mantissa * mantissa')
        (exponent + exponent') .exact
      rw [UnpackedFloat.mul, same]
      dsimp only
      split_ifs <;> rfl
  rcases pack_cases _ product with small | large
  · exact small
  · exact absurd (large.symm.trans fits) (by decide)

def atLeastEight (value : Float) : Bool :=
  match value.toModel.unpack with
  | .finite _ mantissa exponent _ => 3 ≤ mantissa.log2 + exponent
  | _ => false

theorem div_isFinite (value divisor : Float) (finite : value.isFinite)
    (large : atLeastEight divisor) : (value / divisor).isFinite := by
  rw [atLeastEight] at large
  split at large
  case h_2 => cases large
  case h_1 sign' mantissa' exponent' positive' unpacked' =>
  have eight : 3 ≤ mantissa'.log2 + exponent' := of_decide_eq_true large
  change (Float.Model.pack
    (UnpackedFloat.div binary64 value.toModel.unpack divisor.toModel.unpack)).isFinite
  rw [unpacked']
  obtain ⟨sign, unpacked⟩ | ⟨sign, mantissa, exponent, positive, unpacked, bits, small⟩ :=
    isFinite_cases value finite
  · rw [unpacked]
    exact unpack_isFinite (sign / sign') 0#11 0#52 (by decide)
  · rw [unpacked, UnpackedFloat.div, divCore]
    dsimp only
    rw [targetExponent_eq]
    simp only [totalExponent]
    generalize target_eq : min (exponent - exponent') (max _ (-1074)) = target
    generalize shifted_eq : mantissa <<< (exponent - exponent' - target).toNat = shifted
    have shift := log2_shiftLeft_le mantissa (exponent - exponent' - target).toNat
    rw [shifted_eq] at shift
    refine pack_round_isFinite _ _ _ _ (by omega) ?_
    -- the quotient is zero, or has no more bits than its operands allow
    by_cases none : shifted / mantissa' = 0
    · rw [none, Nat.log2_zero]
      omega
    · have quotient := log2_div_le shifted mantissa' positive' none
      omega

theorem pow10_eq (places : Nat) (untabled : 22 < places) (few : places ≤ 308) :
    (Numeral.pow10 places).toModel =
      Float.Model.pack (roundWithAccuracy binary64 .positive (1 <<< 53 * 10 ^ places) (-53)
        .exact) := by
  have large : ¬(1 < 2 ^ 53 ∧ places ≤ 22) := by omega
  rw [Numeral.pow10, Float.ofScientific, dif_neg large]
  change Float.Model.pack (UnpackedFloat.ofScientific binary64 1 places) = _
  have range : (2 : Int) ^ binary64.exponentBits = 2048 := rfl
  rw [UnpackedFloat.ofScientific, dif_neg (by decide), range, if_neg (by omega),
    if_neg (by omega), if_pos (by omega)]
  rfl

theorem log2_power (places : Nat) (nonzero : 1 ≤ places) (few : places ≤ 307) :
    3 ≤ (10 ^ places).log2 ∧ (10 ^ places).log2 < 1020 := by
  have positive : 10 ^ places ≠ 0 := (Nat.pow_pos (by decide)).ne'
  constructor
  · have least : 10 ^ 1 ≤ 10 ^ places := Nat.pow_le_pow_right (by decide) nonzero
    exact (Nat.le_log2 positive).mpr (le_trans (by decide) least)
  · refine (Nat.log2_lt positive).mpr ?_
    calc 10 ^ places ≤ 10 ^ 307 := Nat.pow_le_pow_right (by decide) few
      _ < 2 ^ 1020 := by decide +kernel

theorem pow10_large (places : Nat) (nonzero : 1 ≤ places) (few : places ≤ 308) :
    atLeastEight (Numeral.pow10 places) := by
  by_cases tabled : places ≤ 22
  · have table : ∀ places ≤ 22, 1 ≤ places → atLeastEight (Numeral.pow10 places) := by
      decide +kernel
    exact table places tabled nonzero
  by_cases last : places = 308
  · subst last
    decide +kernel
  · obtain ⟨eight, small⟩ := log2_power places nonzero (by omega)
    have product : (1 <<< 53 * 10 ^ places).log2 = (10 ^ places).log2 + 53 := by
      have same := log2_div_two_pow (10 ^ places * 2 ^ 53) 53
      rw [Nat.mul_div_cancel _ (Nat.two_pow_pos 53)] at same
      rw [Nat.one_shiftLeft, Nat.mul_comm]
      omega
    obtain ⟨mantissa, exponent, positive, rounded, full, least, greatest⟩ :=
      round_full .positive (1 <<< 53 * 10 ^ places) (-53) .exact (by omega) (by omega)
    obtain ⟨mantissa', positive', unpacked, bits⟩ :=
      unpack_pack_full .positive mantissa exponent positive full (by omega) (by omega)
    rw [atLeastEight, pow10_eq places (by omega) few, rounded, unpacked]
    exact decide_eq_true (by omega)

theorem isFinite_of_atLeastEight (value : Float) (large : atLeastEight value) :
    value.isFinite := by
  change value.toModel.unpack.isFinite
  rw [atLeastEight] at large
  split at large
  · next unpacked => rw [unpacked, UnpackedFloat.isFinite]
  · cases large

theorem pow10_isFinite (places : Nat) (few : places ≤ 308) :
    (Numeral.pow10 places).isFinite := by
  cases places with
  | zero => decide +kernel
  | succ places =>
      exact isFinite_of_atLeastEight _ (pow10_large (places + 1) (Nat.succ_pos places) few)

end Binary64

open Binary64

namespace Numeral

theorem scale_isFinite (steps : Nat) (value result : Float) (exponent : Int)
    (finite : value.isFinite) (found : scale steps value exponent = some result) :
    result.isFinite := by
  induction steps generalizing value exponent with
  | zero =>
      obtain rfl := Option.some.inj found
      exact finite
  | succ steps ih =>
      rw [scale] at found
      dsimp only at found
      split_ifs at found with near negative infinite zero
      · obtain rfl := Option.some.inj found
        exact div_isFinite _ _ finite (pow10_large _ (by omega) near)
      · obtain rfl := Option.some.inj found
        exact mul_isFinite _ _ finite (pow10_isFinite _ near) (by simpa using infinite)
      · obtain rfl := Option.some.inj found
        exact finite
      · exact ih _ _ (div_isFinite _ _ finite (pow10_large 308 (by decide) (by decide))) found

end Numeral

def Double.IsFinite (value : Double) : Prop := (unpack binary64 value.bits.toBitVec).isFinite

theorem Numeral.toDouble?_isFinite (numeral : Numeral) (value : Double)
    (found : numeral.toDouble? = some value) : value.IsFinite := by
  have signed : ∀ magnitude : Float, magnitude.isFinite →
      (Double.mk (if numeral.negative then -magnitude else magnitude).toBits).IsFinite := by
    intro magnitude finite
    split_ifs
    · exact neg_isFinite magnitude finite
    · exact finite
  rw [toDouble?] at found
  dsimp only at found
  split at found
  · obtain ⟨scaled, inside, rfl⟩ := Option.map_eq_some_iff.mp found
    exact signed scaled (scale_isFinite _ _ _ _ (toFloat_isFinite _) inside)
  · split at found
    · split at found
      · obtain rfl := Option.some.inj found
        exact signed 0.0 (by decide +kernel)
      · cases found
    · obtain rfl := Option.some.inj found
      exact signed 0.0 (by decide +kernel)

end FrancaAudit
