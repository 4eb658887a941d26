import QuorumRouting.Hash.Sip

/-!
Draws between zero and one, by number. A balancer picks by draws that come from outside; here a
seed stands for a whole row of them.
-/

set_option autoImplicit false

namespace QuorumRouting

abbrev Draws := Nat → Float

/-- The top 53 bits of a word as a part of one; one itself does not occur. -/
def drawOfWord (word : UInt64) : Float :=
  Float.ofNat (word >>> 11).toNat / 9007199254740992.0

def Draws.seeded (seed : UInt64) : Draws :=
  fun number =>
    drawOfWord (Hash.Sip.hash (Hash.lowBytes 8 seed.toNat ++ Hash.lowBytes 8 number))

end QuorumRouting
