import QuorumRouting.Hash.Words

/-!
The MD5 digest. A message is padded to whole blocks of 64 bytes; each block turns the state of
four words through 64 steps, and the state after the last block is the digest.
-/

set_option autoImplicit false

namespace QuorumRouting.Hash.Md5

structure State where
  a : UInt32
  b : UInt32
  c : UInt32
  d : UInt32

def State.initial : State :=
  { a := 0x67452301, b := 0xefcdab89, c := 0x98badcfe, d := 0x10325476 }

structure Step where
  mix : UInt32 → UInt32 → UInt32 → UInt32
  source : Nat
  constant : UInt32
  turn : UInt32

/-- The step constants, the whole part of `2 ^ 32 * |sin (index + 1)|`. -/
def constants : List UInt32 := [
  0xd76aa478, 0xe8c7b756, 0x242070db, 0xc1bdceee,
  0xf57c0faf, 0x4787c62a, 0xa8304613, 0xfd469501,
  0x698098d8, 0x8b44f7af, 0xffff5bb1, 0x895cd7be,
  0x6b901122, 0xfd987193, 0xa679438e, 0x49b40821,
  0xf61e2562, 0xc040b340, 0x265e5a51, 0xe9b6c7aa,
  0xd62f105d, 0x02441453, 0xd8a1e681, 0xe7d3fbc8,
  0x21e1cde6, 0xc33707d6, 0xf4d50d87, 0x455a14ed,
  0xa9e3e905, 0xfcefa3f8, 0x676f02d9, 0x8d2a4c8a,
  0xfffa3942, 0x8771f681, 0x6d9d6122, 0xfde5380c,
  0xa4beea44, 0x4bdecfa9, 0xf6bb4b60, 0xbebfbc70,
  0x289b7ec6, 0xeaa127fa, 0xd4ef3085, 0x04881d05,
  0xd9d4d039, 0xe6db99e5, 0x1fa27cf8, 0xc4ac5665,
  0xf4292244, 0x432aff97, 0xab9423a7, 0xfc93a039,
  0x655b59c3, 0x8f0ccc92, 0xffeff47d, 0x85845dd1,
  0x6fa87e4f, 0xfe2ce6e0, 0xa3014314, 0x4e0811a1,
  0xf7537e82, 0xbd3af235, 0x2ad7d2bb, 0xeb86d391]

def quarters : List ((UInt32 → UInt32 → UInt32 → UInt32) × (Nat → Nat) × List UInt32) := [
  (fun b c d => (b &&& c) ||| (~~~b &&& d), fun index => index % 16, [7, 12, 17, 22]),
  (fun b c d => (d &&& b) ||| (~~~d &&& c), fun index => (5 * index + 1) % 16, [5, 9, 14, 20]),
  (fun b c d => b ^^^ c ^^^ d, fun index => (3 * index + 5) % 16, [4, 11, 16, 23]),
  (fun b c d => c ^^^ (b ||| ~~~d), fun index => (7 * index) % 16, [6, 10, 15, 21])]

def steps : List Step :=
  let shapes := quarters.flatMap (fun (mix, source, turns) =>
    (turns ++ turns ++ turns ++ turns).map (fun turn => (mix, source, turn)))
  (shapes.zip constants).zipIdx.map (fun (((mix, source, turn), constant), index) =>
    { mix := mix, source := source index, constant := constant, turn := turn })

def State.step (message : Array UInt32) (state : State) (step : Step) : State :=
  let mixed := state.a + step.mix state.b state.c state.d + step.constant
    + message.getD step.source 0
  { a := state.d, b := state.b + turn32 mixed step.turn, c := state.b, d := state.c }

def State.block (state : State) (bytes : List UInt8) : State :=
  let message := ((blocks 3 bytes).map word32).toArray
  let turned := steps.foldl (State.step message) state
  { a := state.a + turned.a, b := state.b + turned.b,
    c := state.c + turned.c, d := state.d + turned.d }

/-- The message, a single set bit, zeros up to eight bytes short of a whole block, and the length
of the message in bits. -/
def padded (message : List UInt8) : List UInt8 :=
  let zeros := (119 - message.length % 64) % 64
  message ++ 0x80 :: List.replicate zeros 0 ++ lowBytes 8 (8 * message.length)

def final (message : List UInt8) : State :=
  (blocks 63 (padded message)).foldl State.block State.initial

def digest (message : List UInt8) : List UInt8 :=
  let state := final message
  [state.a, state.b, state.c, state.d].flatMap (fun word => lowBytes 4 word.toNat)

end QuorumRouting.Hash.Md5
