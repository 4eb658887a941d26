/-!
Strings of JSON, from the character after the opening quote on. Reading a string decodes its
escapes; two escaped halves of a surrogate pair make one character, and a half that stands alone
is an error. Skipping a string only checks how it is spelled. Writing escapes no more than it
must.
-/

set_option autoImplicit false

namespace QuorumRouting.Json

def isBlank (char : Char) : Bool :=
  char = ' ' || char = '\t' || char = '\n' || char = '\r'

def skipBlanks (input : List Char) : List Char :=
  input.dropWhile isBlank

def hexDigit? (char : Char) : Option Nat :=
  if char.isDigit then some (char.toNat - '0'.toNat)
  else if 'a' ≤ char ∧ char ≤ 'f' then some (char.toNat - 'a'.toNat + 10)
  else if 'A' ≤ char ∧ char ≤ 'F' then some (char.toNat - 'A'.toNat + 10)
  else none

def hexUnit? (first second third fourth : Char) : Option Nat := do
  let a ← hexDigit? first
  let b ← hexDigit? second
  let c ← hexDigit? third
  let d ← hexDigit? fourth
  return 4096 * a + 256 * b + 16 * c + d

def shortEscape? (letter : Char) : Option Char :=
  match letter with
  | '"' => some '"'
  | '\\' => some '\\'
  | '/' => some '/'
  | 'b' => some '\x08'
  | 'f' => some '\x0c'
  | 'n' => some '\n'
  | 'r' => some '\r'
  | 't' => some '\t'
  | _ => none

def isHighHalf (unit : Nat) : Bool :=
  0xd800 ≤ unit && unit ≤ 0xdbff

def isLowHalf (unit : Nat) : Bool :=
  0xdc00 ≤ unit && unit ≤ 0xdfff

def joinHalves (high low : Nat) : Char :=
  Char.ofNat (0x10000 + 0x400 * (high - 0xd800) + (low - 0xdc00))

def isControl (char : Char) : Bool :=
  char.toNat < 0x20

def readUnit : List Char → Option (Nat × List Char)
  | a :: b :: c :: d :: rest => (hexUnit? a b c d).map (fun unit => (unit, rest))
  | _ => none

/-- The second half of a surrogate pair, which has to be escaped in its turn. -/
def readLowHalf (input : List Char) : Option (Nat × List Char) :=
  if input.take 2 = ['\\', 'u'] then
    (readUnit (input.drop 2)).filter (fun (unit, _) => isLowHalf unit)
  else none

def readNumbered (input : List Char) : Option (Char × List Char) :=
  (readUnit input).bind (fun (unit, rest) =>
    if isLowHalf unit then none
    else if isHighHalf unit then
      (readLowHalf rest).map (fun (low, after) => (joinHalves unit low, after))
    else some (Char.ofNat unit, rest))

def readEscape : List Char → Option (Char × List Char)
  | [] => none
  | letter :: rest =>
      if letter = 'u' then readNumbered rest
      else (shortEscape? letter).map (fun char => (char, rest))

private theorem length_of_readUnit {input rest : List Char} {unit : Nat}
    (read : readUnit input = some (unit, rest)) : rest.length ≤ input.length := by
  unfold readUnit at read
  split at read
  · obtain ⟨_, _, same⟩ := Option.map_eq_some_iff.mp read
    cases same
    simp only [List.length_cons]
    omega
  · contradiction

private theorem length_of_readLowHalf {input rest : List Char} {unit : Nat}
    (read : readLowHalf input = some (unit, rest)) : rest.length ≤ input.length := by
  unfold readLowHalf at read
  split at read
  · have bound := length_of_readUnit (Option.filter_eq_some_iff.mp read).1
    rw [List.length_drop] at bound
    omega
  · contradiction

private theorem length_of_readNumbered {input rest : List Char} {char : Char}
    (read : readNumbered input = some (char, rest)) : rest.length ≤ input.length := by
  unfold readNumbered at read
  obtain ⟨⟨unit, after⟩, first, second⟩ := Option.bind_eq_some_iff.mp read
  have firstBound := length_of_readUnit first
  change (if isLowHalf unit then none else _) = _ at second
  split at second
  · contradiction
  · split at second
    · obtain ⟨⟨low, final⟩, half, same⟩ := Option.map_eq_some_iff.mp second
      rw [← (Prod.mk.inj same).2]
      exact Nat.le_trans (length_of_readLowHalf half) firstBound
    · rw [← (Prod.mk.inj (Option.some.inj second)).2]
      exact firstBound

private theorem length_of_readEscape {input rest : List Char} {char : Char}
    (read : readEscape input = some (char, rest)) : rest.length < input.length := by
  unfold readEscape at read
  split at read
  · contradiction
  · split at read
    · exact Nat.lt_succ_of_le (length_of_readNumbered read)
    · obtain ⟨_, _, same⟩ := Option.map_eq_some_iff.mp read
      cases same
      exact Nat.lt_succ_self _

/-- The characters up to the closing quote, decoded, and what follows the quote. -/
def readText (input : List Char) : Option (List Char × List Char) :=
  match input with
  | [] => none
  | first :: rest =>
      if first = '"' then some ([], rest)
      else if first = '\\' then
        match escape : readEscape rest with
        | none => none
        | some (char, after) =>
            have : after.length < rest.length + 1 :=
              Nat.lt_succ_of_lt (length_of_readEscape escape)
            (readText after).map (fun (text, final) => (char :: text, final))
      else if isControl first then none
      else (readText rest).map (fun (text, final) => (first :: text, final))
termination_by input.length

/-- Skips an escape after its backslash. Halves of surrogate pairs may stand alone. -/
def skipEscape : List Char → Option (List Char)
  | [] => none
  | letter :: rest =>
      if letter = 'u' then (readUnit rest).map Prod.snd
      else (shortEscape? letter).map (fun _ => rest)

private theorem length_of_skipEscape {input rest : List Char}
    (skipped : skipEscape input = some rest) : rest.length < input.length := by
  unfold skipEscape at skipped
  split at skipped
  · contradiction
  · split at skipped
    · obtain ⟨⟨unit, after⟩, read, same⟩ := Option.map_eq_some_iff.mp skipped
      cases same
      exact Nat.lt_succ_of_le (length_of_readUnit read)
    · obtain ⟨_, _, same⟩ := Option.map_eq_some_iff.mp skipped
      cases same
      exact Nat.lt_succ_self _

def skipText (input : List Char) : Option (List Char) :=
  match input with
  | [] => none
  | first :: rest =>
      if first = '"' then some rest
      else if first = '\\' then
        match escape : skipEscape rest with
        | none => none
        | some after =>
            have : after.length < rest.length + 1 :=
              Nat.lt_succ_of_lt (length_of_skipEscape escape)
            skipText after
      else if isControl first then none
      else skipText rest
termination_by input.length

def hexChar (digit : Nat) : Char :=
  Nat.digitChar digit

def writeChar (char : Char) : List Char :=
  match char with
  | '"' => ['\\', '"']
  | '\\' => ['\\', '\\']
  | '\x08' => ['\\', 'b']
  | '\x0c' => ['\\', 'f']
  | '\n' => ['\\', 'n']
  | '\r' => ['\\', 'r']
  | '\t' => ['\\', 't']
  | other =>
      if isControl other then
        ['\\', 'u', '0', '0', hexChar (other.toNat / 16), hexChar (other.toNat % 16)]
      else [other]

def writeText (text : List Char) : List Char :=
  '"' :: text.flatMap writeChar ++ ['"']

end QuorumRouting.Json
