import QuorumRouting.Hash.Words

/-!
SipHash with one round per word and three closing rounds, under the zero key.
-/

set_option autoImplicit false

namespace QuorumRouting.Hash.Sip

structure State where
  v0 : UInt64
  v1 : UInt64
  v2 : UInt64
  v3 : UInt64

def State.initial : State :=
  { v0 := 0x736f6d6570736575, v1 := 0x646f72616e646f6d,
    v2 := 0x6c7967656e657261, v3 := 0x7465646279746573 }

def State.round (state : State) : State :=
  let v0 := state.v0 + state.v1
  let v1 := turn64 state.v1 13 ^^^ v0
  let v0 := turn64 v0 32
  let v2 := state.v2 + state.v3
  let v3 := turn64 state.v3 16 ^^^ v2
  let v0 := v0 + v3
  let v3 := turn64 v3 21 ^^^ v0
  let v2 := v2 + v1
  let v1 := turn64 v1 17 ^^^ v2
  { v0 := v0, v1 := v1, v2 := turn64 v2 32, v3 := v3 }

def State.absorb (state : State) (word : UInt64) : State :=
  let mixed := ({ state with v3 := state.v3 ^^^ word } : State).round
  { mixed with v0 := mixed.v0 ^^^ word }

/-- The input as words: whole words first, then one word that holds the bytes left over and, in
its top byte, the length. -/
def words (message : List UInt8) : List UInt64 :=
  let whole := 8 * (message.length / 8)
  let length := UInt64.ofNat message.length <<< 56
  (blocks 7 (message.take whole)).map word64 ++ [word64 (message.drop whole) ||| length]

def hash (message : List UInt8) : UInt64 :=
  let absorbed := (words message).foldl State.absorb State.initial
  let closed := ({ absorbed with v2 := absorbed.v2 ^^^ 0xff } : State).round.round.round
  closed.v0 ^^^ closed.v1 ^^^ closed.v2 ^^^ closed.v3

end QuorumRouting.Hash.Sip
