import QuorumRouting.Hash.Words

/-!
The 64-bit XXH3 hash with seed zero. Inputs of up to 240 bytes are mixed directly, each length
class in its own way; longer ones are worked through in stripes of 64 bytes.
-/

set_option autoImplicit false

namespace QuorumRouting.Hash.Xxh3

def prime32A : UInt64 := 0x9e3779b1
def prime32B : UInt64 := 0x85ebca77
def prime32C : UInt64 := 0xc2b2ae3d
def primeA : UInt64 := 0x9e3779b185ebca87
def primeB : UInt64 := 0xc2b2ae3d27d4eb4f
def primeC : UInt64 := 0x165667b19e3779f9
def primeD : UInt64 := 0x85ebca77c2b2ae63
def primeE : UInt64 := 0x27d4eb2f165667c5

def secret : List UInt8 := [
  0xb8, 0xfe, 0x6c, 0x39, 0x23, 0xa4, 0x4b, 0xbe, 0x7c, 0x01, 0x81, 0x2c, 0xf7, 0x21, 0xad, 0x1c,
  0xde, 0xd4, 0x6d, 0xe9, 0x83, 0x90, 0x97, 0xdb, 0x72, 0x40, 0xa4, 0xa4, 0xb7, 0xb3, 0x67, 0x1f,
  0xcb, 0x79, 0xe6, 0x4e, 0xcc, 0xc0, 0xe5, 0x78, 0x82, 0x5a, 0xd0, 0x7d, 0xcc, 0xff, 0x72, 0x21,
  0xb8, 0x08, 0x46, 0x74, 0xf7, 0x43, 0x24, 0x8e, 0xe0, 0x35, 0x90, 0xe6, 0x81, 0x3a, 0x26, 0x4c,
  0x3c, 0x28, 0x52, 0xbb, 0x91, 0xc3, 0x00, 0xcb, 0x88, 0xd0, 0x65, 0x8b, 0x1b, 0x53, 0x2e, 0xa3,
  0x71, 0x64, 0x48, 0x97, 0xa2, 0x0d, 0xf9, 0x4e, 0x38, 0x19, 0xef, 0x46, 0xa9, 0xde, 0xac, 0xd8,
  0xa8, 0xfa, 0x76, 0x3f, 0xe3, 0x9c, 0x34, 0x3f, 0xf9, 0xdc, 0xbb, 0xc7, 0xc7, 0x0b, 0x4f, 0x1d,
  0x8a, 0x51, 0xe0, 0x4b, 0xcd, 0xb4, 0x59, 0x31, 0xc8, 0x9f, 0x7e, 0xc9, 0xd9, 0x78, 0x73, 0x64,
  0xea, 0xc5, 0xac, 0x83, 0x34, 0xd3, 0xeb, 0xc3, 0xc5, 0x81, 0xa0, 0xff, 0xfa, 0x13, 0x63, 0xeb,
  0x17, 0x0d, 0xdd, 0x51, 0xb7, 0xf0, 0xda, 0x49, 0xd3, 0x16, 0x55, 0x26, 0x29, 0xd4, 0x68, 0x9e,
  0x2b, 0x16, 0xbe, 0x58, 0x7d, 0x47, 0xa1, 0xfc, 0x8f, 0xf8, 0xb8, 0xd1, 0x7a, 0xd0, 0x31, 0xce,
  0x45, 0xcb, 0x3a, 0x8f, 0x95, 0x16, 0x04, 0x28, 0xaf, 0xd7, 0xfb, 0xca, 0xbb, 0x4b, 0x40, 0x7e]

def secretWord (position : Nat) : UInt64 :=
  word64 (secret.drop position)

def wordAt (message : List UInt8) (position : Nat) : UInt64 :=
  word64 (message.drop position)

def shiftMix (word places : UInt64) : UInt64 :=
  word ^^^ (word >>> places)

def foldedProduct (left right : UInt64) : UInt64 :=
  let product := left.toNat * right.toNat
  UInt64.ofNat product ^^^ UInt64.ofNat (product / UInt64.size)

def reverseBytes (word : UInt64) : UInt64 :=
  UInt64.ofNat (littleEndian (lowBytes 8 word.toNat).reverse)

def avalanche (word : UInt64) : UInt64 :=
  shiftMix (shiftMix word 37 * 0x165667919e3779f9) 32

def shortAvalanche (word : UInt64) : UInt64 :=
  shiftMix (shiftMix (shiftMix word 33 * primeB) 29 * primeC) 32

def hashUpTo3 (message : List UInt8) : UInt64 :=
  let length := message.length
  match message with
  | [] => shortAvalanche (secretWord 56 ^^^ secretWord 64)
  | first :: _ =>
      let middle := message.getD (length / 2) 0
      let final := message.getD (length - 1) 0
      let combined := (first.toUInt64 <<< 16) ||| (middle.toUInt64 <<< 24) ||| final.toUInt64
        ||| (UInt64.ofNat length <<< 8)
      let flip := (word32 secret ^^^ word32 (secret.drop 4)).toUInt64
      shortAvalanche (combined ^^^ flip)

def hash4To8 (message : List UInt8) : UInt64 :=
  let length := message.length
  let front := (word32 message).toUInt64
  let back := (word32 (message.drop (length - 4))).toUInt64
  let keyed := (back + (front <<< 32)) ^^^ (secretWord 8 ^^^ secretWord 16)
  let turned := keyed ^^^ turn64 keyed 49 ^^^ turn64 keyed 24
  let first := turned * 0x9fb21c651e98df25
  let second := (first ^^^ ((first >>> 35) + UInt64.ofNat length)) * 0x9fb21c651e98df25
  shiftMix second 28

def hash9To16 (message : List UInt8) : UInt64 :=
  let length := message.length
  let low := wordAt message 0 ^^^ (secretWord 24 ^^^ secretWord 32)
  let high := wordAt message (length - 8) ^^^ (secretWord 40 ^^^ secretWord 48)
  avalanche (UInt64.ofNat length + reverseBytes low + high + foldedProduct low high)

def mix16 (message : List UInt8) (position secretPosition : Nat) : UInt64 :=
  foldedProduct (wordAt message position ^^^ secretWord secretPosition)
    (wordAt message (position + 8) ^^^ secretWord (secretPosition + 8))

/-- Pairs of sixteen bytes, one from each end, as many as fit into half the input. -/
def hash17To128 (message : List UInt8) : UInt64 :=
  let length := message.length
  let pairs := (length - 1) / 32 + 1
  let mixed := (List.range pairs).map (fun index =>
    mix16 message (16 * index) (32 * index)
      + mix16 message (length - 16 * (index + 1)) (32 * index + 16))
  avalanche (mixed.foldl (· + ·) (UInt64.ofNat length * primeA))

def hash129To240 (message : List UInt8) : UInt64 :=
  let length := message.length
  let front := (List.range 8).map (fun index => mix16 message (16 * index) (16 * index))
  let back := (List.range (length / 16 - 8)).map (fun index =>
    mix16 message (16 * (index + 8)) (16 * index + 3))
  let opened := avalanche (front.foldl (· + ·) (UInt64.ofNat length * primeA))
  avalanche (back.foldl (· + ·) opened + mix16 message (length - 16) 119)

abbrev Lanes := List UInt64

def initialLanes : Lanes :=
  [prime32C, primeA, primeB, primeC, primeD, prime32B, primeE, prime32A]

def stripeWords (bytes : List UInt8) : List UInt64 :=
  (blocks 7 (bytes.take 64)).map word64

def swapNeighbours : List UInt64 → List UInt64
  | left :: right :: rest => right :: left :: swapNeighbours rest
  | short => short

def productOfHalves (word : UInt64) : UInt64 :=
  word.toUInt32.toUInt64 * (word >>> 32)

/-- Adds a stripe: each word goes to its neighbour's lane, and to its own lane goes the product of
the two halves of the word keyed with the secret. -/
def accumulate (lanes : Lanes) (stripe : List UInt8) (secretPosition : Nat) : Lanes :=
  let values := stripeWords stripe
  let keyed : List UInt64 :=
    List.zipWith (· ^^^ ·) values (stripeWords (secret.drop secretPosition))
  let products := keyed.map productOfHalves
  List.zipWith (· + ·) (List.zipWith (· + ·) lanes (swapNeighbours values)) products

def scramble (lanes : Lanes) : Lanes :=
  List.zipWith (fun lane key => (shiftMix lane 47 ^^^ key) * prime32A) lanes
    (stripeWords (secret.drop 128))

/-- Adds stripes, each keyed eight bytes further into the secret. -/
def accumulateAll (lanes : Lanes) (stripes : List (List UInt8)) : Lanes :=
  stripes.zipIdx.foldl (fun lanes (stripe, index) => accumulate lanes stripe (8 * index)) lanes

/-- Whole blocks of sixteen stripes, then the stripes of an unfinished block, then the last 64
bytes once more under a key of their own. -/
def longLanes (message : List UInt8) : Lanes :=
  let length := message.length
  let whole := 1024 * ((length - 1) / 1024)
  let started := (blocks 1023 (message.take whole)).foldl
    (fun lanes block => scramble (accumulateAll lanes (blocks 63 block))) initialLanes
  let unfinished := (message.drop whole).take (64 * ((length - 1 - whole) / 64))
  accumulate (accumulateAll started (blocks 63 unfinished)) (message.drop (length - 64)) 121

def mergeLanes (start : UInt64) (lanes : Lanes) : UInt64 :=
  let keyed : List UInt64 := List.zipWith (· ^^^ ·) lanes (stripeWords (secret.drop 11))
  avalanche (((blocks 1 keyed).map (fun pair =>
    foldedProduct (pair.getD 0 0) (pair.getD 1 0))).foldl (· + ·) start)

def hashLong (message : List UInt8) : UInt64 :=
  mergeLanes (UInt64.ofNat message.length * primeA) (longLanes message)

def hash (message : List UInt8) : UInt64 :=
  let length := message.length
  if length ≤ 3 then hashUpTo3 message
  else if length ≤ 8 then hash4To8 message
  else if length ≤ 16 then hash9To16 message
  else if length ≤ 128 then hash17To128 message
  else if length ≤ 240 then hash129To240 message
  else hashLong message

end QuorumRouting.Hash.Xxh3
