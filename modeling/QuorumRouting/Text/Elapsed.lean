/-!
Spans of time as text: the largest unit that gives a whole part of at least one, and as many
decimals as are needed.
-/

set_option autoImplicit false

namespace QuorumRouting.Text

/-- The decimals of `part / 10 ^ places`, without trailing zeros and with the point in front;
nothing when there are none. -/
def decimals (places part : Nat) : String :=
  if part = 0 then ""
  else
    let digits := Nat.toDigits 10 part
    let padded := List.replicate (places - digits.length) '0' ++ digits
    "." ++ String.ofList (padded.reverse.dropWhile (· = '0')).reverse

def elapsed (nanoseconds : Nat) : String :=
  let inUnit (places : Nat) (unit : String) : String :=
    toString (nanoseconds / Nat.pow 10 places)
      ++ decimals places (nanoseconds % Nat.pow 10 places) ++ unit
  if 1000000000 ≤ nanoseconds then inUnit 9 "s"
  else if 1000000 ≤ nanoseconds then inUnit 6 "ms"
  else if 1000 ≤ nanoseconds then inUnit 3 "µs"
  else inUnit 0 "ns"

end QuorumRouting.Text
