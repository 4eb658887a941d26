import QuorumRouting.Decimal.Shortest

/-!
Doubles as text in their shortest digits. A style says which magnitudes are written without an
exponent, whether a whole number keeps a point and a zero, and where exact ties go.
-/

set_option autoImplicit false

namespace QuorumRouting.Decimal

/-- How shortest digits are set out. The position of a number is the count of its digits before
the point, or minus the count of zeros between the point and its first digit. -/
structure Style where
  tie : Tie
  /-- The positions that are written without an exponent; all of them when there is no range. -/
  positional : Option (Int × Int)
  /-- Does a whole number end in a point and a zero? -/
  keepsPoint : Bool

/-- Values in diagnostics: positional from `1e-4` up to `1e16`, and visibly not whole numbers. -/
def Style.diagnostic : Style :=
  { tie := .up, positional := some (-3, 16), keepsPoint := true }

/-- Values in messages: never an exponent, and no needless point. -/
def Style.message : Style :=
  { tie := .up, positional := none, keepsPoint := false }

/-- Digits without an exponent, the point at the given position. -/
def Style.plain (style : Style) (digits : List Char) (position : Int) : List Char :=
  if position ≤ 0 then
    ['0', '.'] ++ List.replicate (-position).toNat '0' ++ digits
  else
    let whole := position.toNat
    if digits.length ≤ whole then
      digits ++ List.replicate (whole - digits.length) '0'
        ++ if style.keepsPoint then ['.', '0'] else []
    else digits.take whole ++ '.' :: digits.drop whole

def withExponent (digits : List Char) (position : Int) : List Char :=
  let rest := digits.drop 1
  digits.take 1 ++ (if rest.isEmpty then [] else '.' :: rest)
    ++ 'e' :: (toString (position - 1)).toList

def Style.magnitude (style : Style) (number : Scientific) : List Char :=
  if number.digits = 0 then if style.keepsPoint then ['0', '.', '0'] else ['0']
  else
    let digits := Nat.toDigits 10 number.digits
    let position : Int := digits.length + number.exponent
    match style.positional with
    | none => style.plain digits position
    | some (low, high) =>
        if low ≤ position ∧ position ≤ high then style.plain digits position
        else withExponent digits position

/-- A double in the given style. The sign of zero shows, that of not-a-number does not. -/
def Style.write (style : Style) (value : Float) : String :=
  match Double.ofFloat value with
  | .nan => "NaN"
  | .infinite negative => if negative then "-inf" else "inf"
  | .finite negative significand exponent =>
      let digits := style.magnitude (shortest style.tie significand exponent)
      String.ofList (if negative then '-' :: digits else digits)

end QuorumRouting.Decimal
