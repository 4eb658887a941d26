import Mathlib.Algebra.Group.Nat.Defs
import QuorumRouting.Proofs.Doubles

/-!
Whole numbers as doubles. A positive whole number below 2 ^ 53 is a double as it stands: its digits
fill the significand from the left, and nothing is rounded. A double that is neither a zero nor an
infinity divided by itself is one exactly, and so is the quotient of such a number by itself.
-/

set_option autoImplicit false

namespace QuorumRouting

open Float.Model (UnpackedFloat Format pack totalExponent)
open Float.Model.UnpackedFloat (Sign ExtendedMantissa)

theorem log2_mul_two_pow {number : Nat} (positive : 0 < number) (count : Nat) :
    (number * 2 ^ count).log2 = number.log2 + count := by
  have product : number * 2 ^ count ≠ 0 :=
    Nat.ne_of_gt (Nat.mul_pos positive (Nat.two_pow_pos count))
  obtain ⟨lower, upper⟩ := (Nat.log2_eq_iff (Nat.ne_of_gt positive)).mp rfl
  apply (Nat.log2_eq_iff product).mpr
  rw [Nat.add_right_comm, Nat.pow_add, Nat.pow_add]
  exact ⟨Nat.mul_le_mul_right _ lower,
    Nat.mul_lt_mul_of_pos_right upper (Nat.two_pow_pos count)⟩

/-! ### Significands with all their digits -/

def Full (mantissa : Nat) : Prop :=
  2 ^ 52 ≤ mantissa ∧ mantissa < 2 ^ 53

namespace Full

variable {mantissa : Nat}

theorem positive (full : Full mantissa) : 0 < mantissa :=
  Nat.lt_of_lt_of_le (Nat.two_pow_pos 52) full.1

theorem log2_eq (full : Full mantissa) : mantissa.log2 = 52 :=
  (Nat.log2_eq_iff (Nat.ne_of_gt full.positive)).mpr full

theorem of_log2 (positive : 0 < mantissa) (last : mantissa.log2 = 52) : Full mantissa :=
  (Nat.log2_eq_iff (Nat.ne_of_gt positive)).mp last

end Full

/-- Places that hold no digits are dropped without a trace. -/
theorem shiftRight_multiple (mantissa count : Nat) :
    ExtendedMantissa.mk (mantissa * 2 ^ count) false false >>> count =
      ⟨mantissa, false, false⟩ := by
  induction count generalizing mantissa with
  | zero =>
      rw [Nat.pow_zero, Nat.mul_one]
      rfl
  | succ count ih =>
      change ExtendedMantissa.shiftRightOne
        (ExtendedMantissa.mk (mantissa * 2 ^ (count + 1)) false false >>> count) = _
      rw [Nat.pow_succ', ← Nat.mul_assoc, ih (mantissa * 2)]
      unfold ExtendedMantissa.shiftRightOne
      simp

/-- A full significand is not rounded, also when it comes with places that hold no digits. -/
theorem roundWithAccuracy_multiple {mantissa : Nat} (full : Full mantissa) (sign : Sign)
    (count : Nat) (exponent : Int) (large : -1074 ≤ exponent) :
    UnpackedFloat.roundWithAccuracy Format.binary64 sign (mantissa * 2 ^ count) (exponent - count)
      .exact = .finite sign mantissa exponent full.positive := by
  have own : Format.binary64.targetExponent (totalExponent mantissa exponent) = exponent := by
    unfold Format.targetExponent totalExponent
    rw [full.log2_eq]
    change max ((52 : Nat) + 1 + exponent - (53 : Nat)) (-1074) = exponent
    omega
  have sameTotal : totalExponent (mantissa * 2 ^ count) (exponent - count) =
      totalExponent mantissa exponent := by
    unfold totalExponent
    rw [log2_mul_two_pow full.positive]
    omega
  have first : UnpackedFloat.shiftToTargetExponent Format.binary64 (mantissa * 2 ^ count)
      (exponent - count) .exact = (⟨mantissa, false, false⟩, exponent) := by
    unfold UnpackedFloat.shiftToTargetExponent UnpackedFloat.shiftToExponent
    dsimp only
    rw [sameTotal, own, show (exponent - (exponent - count)).toNat = count by omega]
    exact Prod.ext (shiftRight_multiple mantissa count) (by dsimp only; omega)
  have second : UnpackedFloat.shiftToTargetExponent Format.binary64 mantissa exponent .exact =
      (⟨mantissa, false, false⟩, exponent) := by
    unfold UnpackedFloat.shiftToTargetExponent UnpackedFloat.shiftToExponent
    dsimp only
    rw [own, Int.sub_self]
    exact Prod.ext rfl (Int.add_zero exponent)
  unfold UnpackedFloat.roundWithAccuracy
  rw [first]
  change (match UnpackedFloat.shiftToTargetExponent Format.binary64 mantissa exponent .exact with
    | (final, last) => if none : final.mantissa = 0 then UnpackedFloat.zero sign
        else .finite sign final.mantissa last (Nat.pos_of_ne_zero none)) = _
  rw [second]
  exact dif_neg (Nat.ne_of_gt full.positive)

theorem toNat_one_append {mantissa : Nat} (full : Full mantissa) :
    (1#1 ++ BitVec.ofNat 52 mantissa).toNat = mantissa := by
  obtain ⟨lower, upper⟩ := full
  rw [BitVec.toNat_append, ← Nat.shiftLeft_add_eq_or_of_lt (BitVec.isLt _), BitVec.toNat_ofNat,
    Nat.shiftLeft_eq]
  change 1 * 2 ^ 52 + mantissa % 2 ^ 52 = mantissa
  omega

/-- Packing keeps a number with a full significand. -/
theorem unpack_pack_full {mantissa : Nat} (full : Full mantissa) (sign : Sign) {exponent : Int}
    (large : -1074 ≤ exponent) (small : exponent ≤ 971) :
    (pack (.finite sign mantissa exponent full.positive)).unpack =
      .finite sign mantissa exponent full.positive := by
  have biased : (exponent + Format.binary64.exponentBias
      + Format.binary64.mantissaBitsWithoutImplicit).toNat = (exponent + 1075).toNat := by
    change (exponent + (1023 : Nat) + (52 : Nat)).toNat = _
    omega
  have packed : UnpackedFloat.pack Format.binary64 (.finite sign mantissa exponent full.positive) =
      UnpackedFloat.packComponents Format.binary64 sign (BitVec.ofNat 11 (exponent + 1075).toNat)
        (BitVec.ofNat 52 mantissa) := by
    unfold UnpackedFloat.pack
    dsimp only
    rw [biased, if_neg (by omega), if_pos (by rw [full.log2_eq]; rfl)]
  have exponentBits : (BitVec.ofNat 11 (exponent + 1075).toNat).toNat = (exponent + 1075).toNat :=
    Nat.mod_eq_of_lt (by omega)
  change UnpackedFloat.unpack Format.binary64
    (UnpackedFloat.pack Format.binary64 (.finite sign mantissa exponent full.positive)) = _
  rw [packed]
  unfold UnpackedFloat.unpack
  dsimp only
  rw [UnpackedFloat.unpackExponent_packComponents, if_neg, if_neg]
  · rw [UnpackedFloat.finite.injEq, UnpackedFloat.unpackMantissa_packComponents, exponentBits]
    refine ⟨ofBitVec_unpackSign _ _ _, toNat_one_append full, ?_⟩
    change ((exponent + 1075).toNat : Int) - ((1023 : Nat) + (52 : Nat)) = exponent
    omega
  · intro least
    have bits := congrArg BitVec.toNat least
    rw [exponentBits] at bits
    change (exponent + 1075).toNat = 0 at bits
    omega
  · intro greatest
    have bits := congrArg BitVec.toNat greatest
    rw [exponentBits] at bits
    change (exponent + 1075).toNat = 2047 at bits
    omega

/-! ### Whole numbers -/

/-- The number with as many empty places behind it as its significand has room for. -/
def widened (number : Nat) : Nat :=
  number * 2 ^ (52 - number.log2)

section

variable {number : Nat}

theorem log2_le_of_lt (small : number < 2 ^ 53) : number.log2 ≤ 52 := by
  by_cases zero : number = 0
  · rw [zero]
    decide
  · exact Nat.le_of_lt_succ ((Nat.log2_lt zero).mpr small)

theorem full_widened (positive : 0 < number) (small : number < 2 ^ 53) : Full (widened number) := by
  apply Full.of_log2 (Nat.mul_pos positive (Nat.two_pow_pos _))
  have last := log2_le_of_lt small
  rw [log2_mul_two_pow positive]
  omega

theorem unpack_toFloat (positive : 0 < number) (small : number < 2 ^ 53) :
    number.toUInt64.toFloat.toModel.unpack =
      .finite .positive (widened number) (number.log2 - 52)
        (full_widened positive small).positive := by
  have last := log2_le_of_lt small
  have word : number.toUInt64.toNat = number :=
    Nat.mod_eq_of_lt (Nat.lt_of_lt_of_le small (by decide))
  have target : Format.binary64.targetExponent (totalExponent number 0) = number.log2 - 52 := by
    unfold Format.targetExponent totalExponent
    change max ((number.log2 : Int) + 1 + 0 - (53 : Nat)) (-1074) = _
    omega
  have places : ((0 : Int) - (number.log2 - 52)).toNat = 52 - number.log2 := by omega
  have rounded : UnpackedFloat.ofNat Format.binary64 number =
      .finite .positive (widened number) (number.log2 - 52)
        (full_widened positive small).positive := by
    have exact := roundWithAccuracy_multiple (full_widened positive small) .positive 0
      (number.log2 - 52) (by omega)
    rw [Nat.pow_zero, Nat.mul_one] at exact
    unfold UnpackedFloat.ofNat UnpackedFloat.ofInt UnpackedFloat.normalize
    rw [show compare (number : Int) 0 = .gt from Int.compare_eq_gt.mpr (by omega)]
    unfold UnpackedFloat.round UnpackedFloat.decreaseExponent
    dsimp only
    rw [Int.toNat_natCast, target, places, Nat.shiftLeft_eq]
    rw [show (0 : Int) - (52 - number.log2 : Nat) = number.log2 - 52 - (0 : Nat) by omega]
    exact exact
  change (pack (UnpackedFloat.ofNat Format.binary64 number.toUInt64.toNat)).unpack = _
  rw [word, rounded]
  exact unpack_pack_full (full_widened positive small) .positive (by omega) (by omega)

/-- A positive whole number below 2 ^ 53 is not rounded. -/
theorem unpack_ofNat (positive : 0 < number) (small : number < 2 ^ 53) :
    (Float.ofNat number).toModel.unpack =
      .finite .positive (widened number) (number.log2 - 52)
        (full_widened positive small).positive := by
  have last := log2_le_of_lt small
  have one : (Float.ofBits 0x3FF0000000000000).toModel.unpack =
      .finite .positive (2 ^ 52) (-52) (by decide) := rfl
  change (Float.ofScientific number false 0).toModel.unpack = _
  unfold Float.ofScientific
  rw [dif_pos ⟨small, by decide⟩]
  change (pack (UnpackedFloat.mul Format.binary64 number.toUInt64.toFloat.toModel.unpack
    (Float.ofBits 0x3FF0000000000000).toModel.unpack)).unpack = _
  rw [unpack_toFloat positive small, one]
  unfold UnpackedFloat.mul
  change (pack (UnpackedFloat.roundWithAccuracy Format.binary64 .positive
    (widened number * 2 ^ 52) (number.log2 - 52 - (52 : Nat)) .exact)).unpack = _
  rw [roundWithAccuracy_multiple (full_widened positive small) .positive 52 _ (by omega)]
  exact unpack_pack_full (full_widened positive small) .positive (by omega) (by omega)

/-- What is neither a zero nor an infinity is once in itself, without any rounding. -/
theorem div_self_of_finite {value : Float} {sign : Sign} {mantissa : Nat} {exponent : Int}
    {positive : 0 < mantissa}
    (finite : value.toModel.unpack = .finite sign mantissa exponent positive) :
    value / value = 1.0 := by
  have quotient : UnpackedFloat.divCore Format.binary64 mantissa exponent mantissa exponent =
      (2 ^ 53, -53, .exact) := by
    unfold UnpackedFloat.divCore
    rw [Int.sub_self, Int.sub_self]
    change (mantissa <<< 53 / mantissa, (-53 : Int),
      UnpackedFloat.accuracyOfFraction (mantissa <<< 53 % mantissa) mantissa) = _
    rw [Nat.shiftLeft_eq, Nat.mul_div_cancel_left _ positive, Nat.mul_mod_right]
    rfl
  have unsigned : sign / sign = .positive := by
    cases sign with
    | positive => rfl
    | negative => rfl
  change Float.ofModel (pack (UnpackedFloat.div Format.binary64 value.toModel.unpack
    value.toModel.unpack)) = _
  rw [finite]
  unfold UnpackedFloat.div
  dsimp only
  rw [quotient, unsigned]
  decide

theorem ofNat_div_self (positive : 0 < number) (small : number < 2 ^ 53) :
    Float.ofNat number / Float.ofNat number = 1.0 :=
  div_self_of_finite (unpack_ofNat positive small)

end

end QuorumRouting
