import QuorumRouting.Hash.Md5
import QuorumRouting.Hash.Sip
import QuorumRouting.Hash.Xxh3
import QuorumRouting.Token

/-!
Partitioners place keys on the ring. A partitioner is any function from byte strings to tokens,
together with the name under which rings report it; three hashes serve as partitioners here.
-/

set_option autoImplicit false

namespace QuorumRouting

/-- A key, and also the text that places a virtual node, as bytes. -/
abbrev Key := List UInt8

structure Partitioner where
  name : String
  token : Key → Token

def Key.ofText (text : String) : Key :=
  text.toUTF8.toList

namespace Partitioner

/-- The first eight bytes of the MD5 digest, the least significant one first. -/
def md5 : Partitioner :=
  { name := "Md5Partitioner", token := fun key => Hash.word64 (Hash.Md5.digest key) }

/-- SipHash with one round per word, three closing rounds and the zero key. -/
def sip : Partitioner :=
  { name := "SipPartitioner", token := Hash.Sip.hash }

def xxh3 : Partitioner :=
  { name := "Xxh3Partitioner", token := Hash.Xxh3.hash }

def ofName? : String → Option Partitioner
  | "md5" => some md5
  | "sip" => some sip
  | "xxh3" => some xxh3
  | _ => none

end Partitioner

end QuorumRouting
