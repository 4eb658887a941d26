import QuorumRouting.Text.Hex

/-!
Tokens: positions on a ring of `2 ^ 64` places, on which the last place comes right before the
first. Clockwise means upwards, and past the last place on to the first.
-/

set_option autoImplicit false

namespace QuorumRouting

abbrev Token := UInt64

/-- The way clockwise from one token to another. From a token to itself it is zero, not a full
turn. -/
def Token.distanceTo (start target : Token) : UInt64 :=
  target - start

def Token.text (token : Token) : String :=
  Text.hexOfWidth 16 token.toNat

theorem Token.distanceTo_self (token : Token) : token.distanceTo token = 0 := by
  change token - token = 0
  exact UInt64.sub_self token

theorem Token.toNat_distanceTo (start target : Token) :
    (start.distanceTo target).toNat = (UInt64.size - start.toNat + target.toNat) % UInt64.size := by
  change (target - start).toNat = _
  exact UInt64.toNat_sub target start

end QuorumRouting
