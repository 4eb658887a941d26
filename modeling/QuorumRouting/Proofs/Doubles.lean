/-!
Doubles by their signs. Where doubles decide something here, it is often enough to know which of
them are zeros and which cannot be negative: a quotient of a zero is a zero or no number, a quotient
without a negative part is not negative, and a bound that is not negative has no zero above it.
-/

set_option autoImplicit false

namespace QuorumRouting

open Float.Model (UnpackedFloat Format pack)
open Float.Model.UnpackedFloat (Sign)

theorem lt_iff_compare (first second : Float) :
    first < second ↔
      first.toModel.unpack.compare second.toModel.unpack = some .lt := by
  change decide (UnpackedFloat.lt first.toModel.unpack second.toModel.unpack = true) = true ↔ _
  rw [decide_eq_true_eq]
  unfold UnpackedFloat.lt
  exact beq_iff_eq

def signOf : UnpackedFloat → Option Sign
  | .notANumber => none
  | .infinity sign => some sign
  | .zero sign => some sign
  | .finite sign _ _ _ => some sign

def Vanishing (value : Float) : Prop :=
  value.toModel.unpack = .notANumber ∨ ∃ sign, value.toModel.unpack = .zero sign

def Unsigned (value : Float) : Prop :=
  signOf value.toModel.unpack ≠ some .negative

/-! ### Packing -/

theorem ofBitVec_unpackSign (sign : Sign) (exponent : BitVec 11) (mantissa : BitVec 52) :
    Sign.ofBitVec (UnpackedFloat.unpackSign
      (UnpackedFloat.packComponents Format.binary64 sign exponent mantissa)) = sign := by
  unfold UnpackedFloat.unpackSign UnpackedFloat.packComponents BitVec.extractLsb
  rw [BitVec.extractLsb'_append_eq_of_le (by decide),
    BitVec.extractLsb'_append_eq_of_le (by decide)]
  cases sign with
  | negative => rfl
  | positive => rfl

theorem signOf_dite {sign : Option Sign} {test : Prop} [Decidable test]
    {first : test → UnpackedFloat} {second : ¬ test → UnpackedFloat}
    (passed : ∀ h, signOf (first h) = sign) (failed : ∀ h, signOf (second h) = sign) :
    signOf (dite test first second) = sign := by
  by_cases holds : test
  · rw [dif_pos holds]
    exact passed holds
  · rw [dif_neg holds]
    exact failed holds

theorem signOf_unpack (bits : BitVec Format.binary64.numBits) :
    signOf (UnpackedFloat.unpack Format.binary64 bits) = none ∨
      signOf (UnpackedFloat.unpack Format.binary64 bits) =
        some (Sign.ofBitVec (UnpackedFloat.unpackSign bits)) := by
  unfold UnpackedFloat.unpack
  dsimp only
  by_cases full : UnpackedFloat.unpackExponent bits =
      -BitVec.ofNat Format.binary64.exponentBits 1
  · rw [if_pos full]
    split
    · exact .inr rfl
    · exact .inl rfl
  · rw [if_neg full]
    by_cases small : UnpackedFloat.unpackExponent bits =
        BitVec.ofNat Format.binary64.exponentBits 0
    · rw [if_pos small]
      exact .inr (signOf_dite (fun _ => rfl) (fun _ => rfl))
    · rw [if_neg small]
      exact .inr rfl

theorem signOf_unpack_packComponents {sign kept : Sign} {exponent : BitVec 11}
    {mantissa : BitVec 52}
    (signed : signOf (UnpackedFloat.unpack Format.binary64
      (UnpackedFloat.packComponents Format.binary64 sign exponent mantissa)) = some kept) :
    sign = kept := by
  rcases signOf_unpack (UnpackedFloat.packComponents Format.binary64 sign exponent mantissa) with
    none | own
  · rw [none] at signed
    cases signed
  · rw [own, ofBitVec_unpackSign] at signed
    exact Option.some.inj signed

/-- Packing keeps the sign of what is still a number. -/
theorem signOf_unpack_pack {value : UnpackedFloat} {sign : Sign}
    (signed : signOf (pack value).unpack = some sign) : signOf value = some sign := by
  change signOf (UnpackedFloat.unpack Format.binary64
    (UnpackedFloat.pack Format.binary64 value)) = some sign at signed
  cases value with
  | notANumber => cases signed
  | infinity own => exact congrArg some (signOf_unpack_packComponents signed)
  | zero own => exact congrArg some (signOf_unpack_packComponents signed)
  | finite own mantissa exponent positive =>
      unfold UnpackedFloat.pack at signed
      dsimp only at signed
      split at signed
      · exact congrArg some (signOf_unpack_packComponents signed)
      · split at signed
        · exact congrArg some (signOf_unpack_packComponents signed)
        · exact congrArg some (signOf_unpack_packComponents signed)

theorem signOf_roundWithAccuracy (sign : Sign) (mantissa : Nat) (exponent : Int)
    (accuracy : UnpackedFloat.Accuracy) :
    signOf (UnpackedFloat.roundWithAccuracy Format.binary64 sign mantissa exponent accuracy) =
      some sign :=
  signOf_dite (fun _ => rfl) (fun _ => rfl)

/-! ### Arithmetic -/

theorem signOf_div {first second : UnpackedFloat} {sign : Sign}
    (signed : signOf (UnpackedFloat.div Format.binary64 first second) = some sign) :
    ∃ one other, signOf first = some one ∧ signOf second = some other ∧ one / other = sign := by
  cases first with
  | notANumber => cases signed
  | infinity one =>
      cases second with
      | notANumber | infinity => cases signed
      | zero other | finite other => exact ⟨one, other, rfl, rfl, Option.some.inj signed⟩
  | zero one =>
      cases second with
      | notANumber | zero => cases signed
      | infinity other | finite other => exact ⟨one, other, rfl, rfl, Option.some.inj signed⟩
  | finite one mantissa exponent positive =>
      cases second with
      | notANumber => cases signed
      | infinity other | zero other => exact ⟨one, other, rfl, rfl, Option.some.inj signed⟩
      | finite other =>
          unfold UnpackedFloat.div at signed
          dsimp only at signed
          rw [signOf_roundWithAccuracy] at signed
          exact ⟨one, other, rfl, rfl, Option.some.inj signed⟩

theorem signOf_mul {first second : UnpackedFloat} {sign : Sign}
    (signed : signOf (UnpackedFloat.mul Format.binary64 first second) = some sign) :
    ∃ one other, signOf first = some one ∧ signOf second = some other ∧ one * other = sign := by
  cases first with
  | notANumber => cases signed
  | infinity one =>
      cases second with
      | notANumber | zero => cases signed
      | infinity other | finite other => exact ⟨one, other, rfl, rfl, Option.some.inj signed⟩
  | zero one =>
      cases second with
      | notANumber | infinity => cases signed
      | zero other | finite other => exact ⟨one, other, rfl, rfl, Option.some.inj signed⟩
  | finite one mantissa exponent positive =>
      cases second with
      | notANumber => cases signed
      | infinity other | zero other => exact ⟨one, other, rfl, rfl, Option.some.inj signed⟩
      | finite other =>
          unfold UnpackedFloat.mul at signed
          rw [signOf_roundWithAccuracy] at signed
          exact ⟨one, other, rfl, rfl, Option.some.inj signed⟩

theorem Unsigned.div {dividend divisor : Float} (unsigned : Unsigned dividend)
    (other : Unsigned divisor) : Unsigned (dividend / divisor) := by
  intro negative
  obtain ⟨one, two, first, second, quotient⟩ := signOf_div (signOf_unpack_pack negative)
  cases one with
  | negative => exact unsigned first
  | positive =>
      cases two with
      | negative => exact other second
      | positive => cases quotient

theorem Unsigned.mul {factor other : Float} (unsigned : Unsigned factor)
    (unsignedOther : Unsigned other) : Unsigned (factor * other) := by
  intro negative
  obtain ⟨one, two, first, second, product⟩ := signOf_mul (signOf_unpack_pack negative)
  cases one with
  | negative => exact unsigned first
  | positive =>
      cases two with
      | negative => exact unsignedOther second
      | positive => cases product

theorem signOf_ofNat (number : Nat) :
    signOf (UnpackedFloat.ofNat Format.binary64 number) = some .positive := by
  unfold UnpackedFloat.ofNat UnpackedFloat.ofInt UnpackedFloat.normalize
  split
  · rename_i below
    rw [Int.compare_eq_lt] at below
    omega
  · rfl
  · exact signOf_roundWithAccuracy _ _ _ _

theorem unsigned_toFloat (word : UInt64) : Unsigned word.toFloat := by
  intro negative
  have signed : signOf (UnpackedFloat.ofNat Format.binary64 word.toNat) = some .negative :=
    signOf_unpack_pack negative
  rw [signOf_ofNat] at signed
  cases signed

theorem signOf_ofScientific (number : Nat) :
    signOf (UnpackedFloat.ofScientific Format.binary64 number 0) = some .positive := by
  have range : (0 : Int) < 2 ^ Format.binary64.exponentBits := by decide
  unfold UnpackedFloat.ofScientific
  by_cases zero : number = 0
  · rw [dif_pos zero]
    rfl
  · rw [dif_neg zero, if_neg (by omega), if_neg (by omega), if_pos (Int.le_refl 0)]
    unfold UnpackedFloat.mul
    exact signOf_roundWithAccuracy _ _ _ _

theorem unsigned_ofNat (number : Nat) : Unsigned (Float.ofNat number) := by
  change Unsigned (Float.ofScientific number false 0)
  unfold Float.ofScientific
  split
  · have positive : signOf (Float.ofBits 0x3FF0000000000000).toModel.unpack = some .positive := rfl
    have one : Unsigned (Float.ofBits 0x3FF0000000000000) := by
      intro negative
      rw [positive] at negative
      cases negative
    exact (unsigned_toFloat _).mul one
  · intro negative
    have signed : signOf (UnpackedFloat.ofScientific Format.binary64 number 0) =
        some .negative :=
      signOf_unpack_pack negative
    rw [signOf_ofScientific] at signed
    cases signed

theorem unsigned_of_pos {value : Float} (positive : 0.0 < value) : Unsigned value := by
  have zero : (0.0 : Float).toModel.unpack = .zero .positive := rfl
  rw [lt_iff_compare, zero] at positive
  unfold Unsigned
  cases shape : value.toModel.unpack with
  | notANumber | zero => rw [shape] at positive; cases positive
  | infinity sign | finite sign =>
      rw [shape] at positive
      cases sign with
      | positive => nofun
      | negative => cases positive

/-- Zero by anything is a zero of some sign, or not a number. -/
theorem Vanishing.div {dividend : Float} (vanishing : Vanishing dividend) (divisor : Float) :
    Vanishing (dividend / divisor) := by
  have undefined : (pack .notANumber).unpack = .notANumber := rfl
  have unpacked (sign : Sign) : (pack (.zero sign)).unpack = .zero sign := by
    cases sign with
    | positive => rfl
    | negative => rfl
  change (pack (UnpackedFloat.div Format.binary64 dividend.toModel.unpack
      divisor.toModel.unpack)).unpack = _ ∨
    ∃ sign, (pack (UnpackedFloat.div Format.binary64 dividend.toModel.unpack
      divisor.toModel.unpack)).unpack = _
  rcases vanishing with none | ⟨sign, zero⟩
  · rw [none]
    exact .inl undefined
  · rw [zero]
    cases divisor.toModel.unpack with
    | notANumber => exact .inl undefined
    | zero sign => exact .inl undefined
    | infinity sign => exact .inr ⟨_, unpacked _⟩
    | finite sign mantissa exponent positive => exact .inr ⟨_, unpacked _⟩

theorem not_lt_of_vanishing {bound value : Float} (unsigned : Unsigned bound)
    (vanishing : Vanishing value) : ¬ bound < value := by
  rw [lt_iff_compare]
  unfold Unsigned at unsigned
  intro below
  rcases vanishing with undefined | ⟨sign, zero⟩
  · rw [undefined] at below
    cases shape : bound.toModel.unpack with
    | notANumber | zero | infinity | finite => rw [shape] at below; cases below
  · rw [zero] at below
    cases shape : bound.toModel.unpack with
    | notANumber | zero => rw [shape] at below; cases below
    | infinity side | finite side =>
        rw [shape] at below unsigned
        cases side with
        | positive => cases below
        | negative => exact unsigned rfl

/-! ### Infinities -/

theorem beq_eq_compare (first second : Float) :
    (first == second) = (first.toModel.unpack.compare second.toModel.unpack == some .eq) :=
  rfl

theorem isNaN_iff (value : Float) : value.isNaN = true ↔ value.toModel.unpack = .notANumber := by
  change value.toModel.unpack.isNaN = true ↔ _
  cases value.toModel.unpack with
  | notANumber => exact iff_of_true rfl rfl
  | infinity | zero | finite => exact iff_of_false nofun nofun

/-- What is no number or below zero is not infinite upwards. -/
theorem ne_infinity_of_malformed {value : Float} (malformed : value.isNaN = true ∨ value < 0.0) :
    (value == 1.0 / 0.0) = false := by
  have infinity : (1.0 / 0.0 : Float).toModel.unpack = .infinity .positive := rfl
  have zero : (0.0 : Float).toModel.unpack = .zero .positive := rfl
  rw [isNaN_iff, lt_iff_compare, zero] at malformed
  rw [beq_eq_compare, infinity]
  cases shape : value.toModel.unpack with
  | notANumber | zero => rfl
  | infinity sign | finite sign =>
      cases sign with
      | negative => rfl
      | positive =>
          rw [shape] at malformed
          rcases malformed with undefined | below
          · cases undefined
          · cases below

end QuorumRouting
