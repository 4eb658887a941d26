import QuorumRouting.Decimal.Double

/-!
The shortest decimal that reads back as a double. Every real number strictly inside a certain
interval reads back as the double, and so do the two ends of the interval when the significand is
even. For one digit, two digits and so on the decimals next to the double on that grid are tried;
the first grid with a decimal inside the interval gives the digits.
-/

set_option autoImplicit false

namespace QuorumRouting.Decimal

/-- A positive decimal number, `digits * 10 ^ exponent`, or zero. -/
structure Scientific where
  digits : Nat
  exponent : Int
  deriving DecidableEq, Repr

/-- Where an exact tie between two shortest decimals goes. -/
inductive Tie where
  | up
  | even
  deriving DecidableEq, Repr

def Scientific.trimmed (number : Scientific) : Scientific :=
  if number.digits ≠ 0 ∧ number.digits % 10 = 0 then
    Scientific.trimmed { digits := number.digits / 10, exponent := number.exponent + 1 }
  else number
termination_by number.digits
decreasing_by
  rename_i nonzero
  exact Nat.div_lt_self (Nat.pos_of_ne_zero nonzero.1) (by decide)

/-- The power of ten at the first digit of a positive number `significand * 2 ^ exponent` that is
no smaller than the least positive double. -/
def leadingPower (significand : Nat) (exponent : Int) : Int :=
  let (numerator, denominator) := scaleByTwo significand exponent
  let enlarged := numerator * Nat.pow 10 400 / denominator
  ((Nat.toDigits 10 enlarged).length : Int) - 401

/-- A double and the ends of its interval as multiples of one unit, beside the step of a decimal
grid in the same unit. -/
structure Bracket where
  value : Nat
  lower : Nat
  upper : Nat
  step : Nat
  closed : Bool

/-- The bracket of `significand * 2 ^ exponent` on the grid of multiples of `10 ^ power`. A
quarter of the last binary place serves as the unit. Below the least significand of an exponent
the doubles lie twice as close. -/
def Bracket.make (significand : Nat) (exponent power : Int) : Bracket :=
  let closer := significand = topBit ∧ leastExponent < exponent
  let scale := Nat.pow 2 (exponent - 2).toNat * Nat.pow 10 (-power).toNat
  { value := 4 * significand * scale
    lower := (4 * significand - if closer then 1 else 2) * scale
    upper := (4 * significand + 2) * scale
    step := Nat.pow 10 power.toNat * Nat.pow 2 (2 - exponent).toNat
    closed := significand % 2 = 0 }

def Bracket.holds (bracket : Bracket) (multiple : Nat) : Bool :=
  let point := multiple * bracket.step
  if bracket.closed then bracket.lower ≤ point && point ≤ bracket.upper
  else bracket.lower < point && point < bracket.upper

/-- The grid's decimal inside the interval that lies nearest to the value, if there is one. -/
def Bracket.nearest? (bracket : Bracket) (tie : Tie) : Option Nat :=
  let below := bracket.value / bracket.step
  let above := below + 1
  let distanceBelow := bracket.value - below * bracket.step
  let distanceAbove := above * bracket.step - bracket.value
  let upward := if distanceBelow = distanceAbove then tie = .up ∨ below % 2 = 1
    else distanceAbove < distanceBelow
  match bracket.holds below, bracket.holds above with
  | true, true => some (if upward then above else below)
  | true, false => some below
  | false, true => some above
  | false, false => none

/-- The shortest decimal that reads back as `significand * 2 ^ exponent`. Seventeen digits are
always enough. -/
def shortest (tie : Tie) (significand : Nat) (exponent : Int) : Scientific :=
  if significand = 0 then { digits := 0, exponent := 0 }
  else
    let leading := leadingPower significand exponent
    let found := (List.range 17).findSome? (fun (index : Nat) =>
      let power := leading - index
      ((Bracket.make significand exponent power).nearest? tie).map (fun digits =>
        ({ digits := digits, exponent := power } : Scientific)))
    (found.getD { digits := 0, exponent := 0 }).trimmed

end QuorumRouting.Decimal
