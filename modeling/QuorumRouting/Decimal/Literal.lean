import QuorumRouting.Decimal.Double

/-!
Numbers typed by a user. A real number is a sign, digits with at most one point among them and an
exponent, or one of the words for infinity and not-a-number; it stands for the nearest double. A
whole number is digits after an optional plus sign.
-/

set_option autoImplicit false

namespace QuorumRouting.Decimal

inductive RealError where
  | empty
  | invalid
  deriving DecidableEq, Repr

def RealError.message : RealError → String
  | .empty => "cannot parse float from empty string"
  | .invalid => "invalid float literal"

inductive WholeError where
  | empty
  | invalidDigit
  | tooLarge
  deriving DecidableEq, Repr

def WholeError.message : WholeError → String
  | .empty => "cannot parse integer from empty string"
  | .invalidDigit => "invalid digit found in string"
  | .tooLarge => "number too large to fit in target type"

def spelled (start : Nat) (digits : List Char) : Nat :=
  digits.foldl (fun number digit => 10 * number + (digit.toNat - '0'.toNat)) start

/-- An optional sign in front: is it a minus, and what follows? -/
def splitSign : List Char → Bool × List Char
  | '-' :: rest => (true, rest)
  | '+' :: rest => (false, rest)
  | text => (false, text)

/-- The exponent after the digits; nothing stands for zero. -/
def readExponent : List Char → Option Int
  | [] => some 0
  | mark :: rest =>
      if mark = 'e' ∨ mark = 'E' then
        let (negative, digits) := splitSign rest
        if digits.isEmpty ∨ ¬ digits.all Char.isDigit then none
        else
          let size : Int := spelled 0 digits
          some (if negative then -size else size)
      else none

def readMagnitude (negative : Bool) (text : List Char) : Option Float :=
  let whole := text.takeWhile Char.isDigit
  let afterWhole := text.dropWhile Char.isDigit
  let (fraction, rest) := match afterWhole with
    | '.' :: rest => (rest.takeWhile Char.isDigit, rest.dropWhile Char.isDigit)
    | rest => ([], rest)
  if whole.isEmpty ∧ fraction.isEmpty then none
  else (readExponent rest).map (fun exponent =>
    nearestDecimal negative (spelled 0 (whole ++ fraction)) (exponent - fraction.length))

def readReal (text : String) : Except RealError Float :=
  if text.isEmpty then .error .empty
  else
    let (negative, rest) := splitSign text.toList
    let word := String.ofList (rest.map Char.toLower)
    if word = "inf" ∨ word = "infinity" then .ok (infinite negative)
    else if word = "nan" then .ok (0.0 / 0.0)
    else match readMagnitude negative rest with
      | some value => .ok value
      | none => .error .invalid

/-- Reads digits from the left; the first one that is no digit or takes the number past the bound
decides the error. -/
def readDigits (bound : Nat) : Nat → List Char → Except WholeError Nat
  | number, [] => .ok number
  | number, digit :: rest =>
      if digit.isDigit then
        let next := spelled number [digit]
        if bound < next then .error .tooLarge else readDigits bound next rest
      else .error .invalidDigit

def readWhole (text : String) : Except WholeError Nat :=
  match text.toList with
  | [] => .error .empty
  | ['+'] => .error .invalidDigit
  | '+' :: digits => readDigits (UInt64.size - 1) 0 digits
  | digits => readDigits (UInt64.size - 1) 0 digits

end QuorumRouting.Decimal
