/-!
Bytes and machine words. A hash reads its input as words whose first byte is the least
significant one, and reads long inputs block by block.
-/

set_option autoImplicit false

namespace QuorumRouting.Hash

/-- The number that bytes spell when the first byte is the least significant one. -/
def littleEndian : List UInt8 → Nat
  | [] => 0
  | byte :: rest => byte.toNat + 256 * littleEndian rest

/-- The 32-bit word at the front of the bytes; missing bytes count as zero. -/
def word32 (bytes : List UInt8) : UInt32 :=
  UInt32.ofNat (littleEndian (bytes.take 4))

/-- The 64-bit word at the front of the bytes; missing bytes count as zero. -/
def word64 (bytes : List UInt8) : UInt64 :=
  UInt64.ofNat (littleEndian (bytes.take 8))

/-- The `count` lowest bytes of a number, the least significant one first. -/
def lowBytes : Nat → Nat → List UInt8
  | 0, _ => []
  | count + 1, number => UInt8.ofNat number :: lowBytes count (number / 256)

/-- Consecutive blocks of `size + 1` items; only the last one may be shorter. -/
def blocks {Item : Type} (size : Nat) : List Item → List (List Item)
  | [] => []
  | item :: rest => (item :: rest.take size) :: blocks size (rest.drop size)
termination_by items => items.length
decreasing_by
  simp only [List.length_drop, List.length_cons]
  omega

/-- Turns a word to the left by `count` places, `0 < count < 32`. -/
def turn32 (word count : UInt32) : UInt32 :=
  (word <<< count) ||| (word >>> (32 - count))

/-- Turns a word to the left by `count` places, `0 < count < 64`. -/
def turn64 (word count : UInt64) : UInt64 :=
  (word <<< count) ||| (word >>> (64 - count))

end QuorumRouting.Hash
