/-!
Hexadecimal text, in lower case.
-/

set_option autoImplicit false

namespace QuorumRouting.Text

def hex (number : Nat) : String :=
  String.ofList (Nat.toDigits 16 number)

def hexOfWidth (width number : Nat) : String :=
  let digits := Nat.toDigits 16 number
  String.ofList (List.replicate (width - digits.length) '0' ++ digits)

end QuorumRouting.Text
