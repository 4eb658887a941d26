import QuorumRouting.Decimal.Double

/-!
Numbers of JSON. A literal is kept as its digits; it can then be taken as a whole number or as a
double. As a double it is not always rounded to the nearest: the digits are taken up to 64 bits,
the rest only count as places, and the result is scaled by powers of ten in double arithmetic.
-/

set_option autoImplicit false

namespace QuorumRouting.Json

structure NumberLiteral where
  negative : Bool
  whole : List Char
  /-- The digits after the point, if there is a point. -/
  fraction : Option (List Char)
  /-- Is the exponent negative, and its digits. -/
  exponent : Option (Bool × List Char)
  deriving DecidableEq, Repr

def readDigits (input : List Char) : Option (List Char × List Char) :=
  let digits := input.takeWhile Char.isDigit
  if digits.isEmpty then none else some (digits, input.dropWhile Char.isDigit)

def readFraction : List Char → Option (Option (List Char) × List Char)
  | '.' :: rest => (readDigits rest).map (fun (digits, after) => (some digits, after))
  | input => some (none, input)

def readExponent : List Char → Option (Option (Bool × List Char) × List Char)
  | [] => some (none, [])
  | mark :: rest =>
      if mark = 'e' ∨ mark = 'E' then
        let (negative, unsigned) := match rest with
          | '-' :: after => (true, after)
          | '+' :: after => (false, after)
          | after => (false, after)
        (readDigits unsigned).map (fun (digits, after) => (some (negative, digits), after))
      else some (none, mark :: rest)

/-- A number at the front. A zero in front of other digits is not allowed. -/
def readNumber (input : List Char) : Option (NumberLiteral × List Char) := do
  let (negative, unsigned) := match input with
    | '-' :: rest => (true, rest)
    | rest => (false, rest)
  let (whole, afterWhole) ← readDigits unsigned
  if whole.head? = some '0' ∧ whole.length ≠ 1 then none
  let (fraction, afterFraction) ← readFraction afterWhole
  let (exponent, rest) ← readExponent afterFraction
  return ({ negative := negative, whole := whole, fraction := fraction, exponent := exponent },
    rest)

namespace NumberLiteral

def digitValue (digit : Char) : Nat :=
  digit.toNat - '0'.toNat

def spell (digits : List Char) : Nat :=
  digits.foldl (fun number digit => 10 * number + digitValue digit) 0

/-- The literal as a whole number below a limit; it must be spelled with digits alone. -/
def toWhole? (literal : NumberLiteral) (limit : Nat) : Option Nat :=
  if literal.negative ∨ literal.fraction.isSome ∨ literal.exponent.isSome then none
  else
    let number := spell literal.whole
    if number < limit then some number else none

structure Parts where
  significand : Nat
  places : Int

/-- Takes digits before the point; from the first one that no longer fits on, digits only count
as places. -/
def takeWhole (parts : Parts) : List Char → Parts
  | [] => parts
  | digit :: rest =>
      let next := 10 * parts.significand + digitValue digit
      if next < UInt64.size then takeWhole { parts with significand := next } rest
      else { parts with places := parts.places + (digit :: rest).length }

/-- Takes digits after the point; from the first one that no longer fits on, digits are
ignored. -/
def takeFraction (parts : Parts) : List Char → Parts
  | [] => parts
  | digit :: rest =>
      let next := 10 * parts.significand + digitValue digit
      if next < UInt64.size then
        takeFraction { significand := next, places := parts.places - 1 } rest
      else parts

/-- A power of ten as a double, up to `10 ^ 308`. -/
def powerOfTen (exponent : Nat) : Float :=
  Decimal.nearest false (Nat.pow 10 exponent) 1

/-- Moves a positive double by decimal places, at most 308 places at a time on the way down.
Nothing when the result would be infinite. -/
def move (value : Float) (places : Int) : Option Float :=
  if places.natAbs ≤ 308 then
    if 0 ≤ places then
      let product := value * powerOfTen places.natAbs
      if product.isInf then none else some product
    else some (value / powerOfTen places.natAbs)
  else if value == 0.0 then some value
  else if 0 ≤ places then none
  else move (value / powerOfTen 308) (places + 308)
termination_by places.natAbs

def largestExponent : Nat := UInt32.size / 2 - 1

def magnitude? (literal : NumberLiteral) : Option Float :=
  let whole := takeWhole { significand := 0, places := 0 } literal.whole
  let parts := takeFraction whole (literal.fraction.getD [])
  let significand := (UInt64.ofNat parts.significand).toFloat
  match literal.exponent with
  | none => move significand parts.places
  | some (negative, digits) =>
      let exponent := spell digits
      if largestExponent < exponent then
        if parts.significand ≠ 0 ∧ ¬ negative then none else some 0.0
      else
        let signed : Int := if negative then -exponent else exponent
        move significand (parts.places + signed)

/-- The literal as a double; nothing when that would be infinite. -/
def toDouble? (literal : NumberLiteral) : Option Float :=
  literal.magnitude?.map (fun magnitude => if literal.negative then -magnitude else magnitude)

end NumberLiteral

end QuorumRouting.Json
