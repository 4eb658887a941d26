import QuorumRouting.Json.Text

/-!
Strings read back. Whatever characters a string has, its written form holds no quote, backslash or
control character that is not escaped, so reading finds the closing quote where writing put it and
decodes what writing escaped.
-/

set_option autoImplicit false

namespace QuorumRouting.Json

/-! ### One character -/

theorem readText_quote (rest : List Char) : readText ('"' :: rest) = some ([], rest) := by
  rw [readText]
  rfl

theorem readText_escape {char : Char} {rest after : List Char}
    (escape : readEscape rest = some (char, after)) :
    readText ('\\' :: rest) =
      (readText after).map (fun (text, final) => (char :: text, final)) := by
  rw [readText, if_neg (by decide), if_pos rfl]
  split
  · rename_i nothing
    rw [escape] at nothing
    cases nothing
  · rename_i decoded left found
    rw [escape] at found
    cases found
    rfl

theorem readText_plain {char : Char} (rest : List Char) (quote : char ≠ '"')
    (backslash : char ≠ '\\') (control : isControl char = false) :
    readText (char :: rest) =
      (readText rest).map (fun (text, final) => (char :: text, final)) := by
  rw [readText, if_neg quote, if_neg backslash, if_neg (by simp [control])]

theorem hexDigit?_hexChar {digit : Nat} (small : digit < 16) :
    hexDigit? (hexChar digit) = some digit := by
  revert digit
  decide

/-- Two hexadecimal digits are enough for a control character. -/
theorem readEscape_control {char : Char} (rest : List Char) (control : isControl char = true) :
    readEscape ('u' :: '0' :: '0' :: hexChar (char.toNat / 16) :: hexChar (char.toNat % 16) ::
      rest) = some (char, rest) := by
  have bound : char.toNat < 0x20 := by simpa [isControl] using control
  have unit : hexUnit? '0' '0' (hexChar (char.toNat / 16)) (hexChar (char.toNat % 16)) =
      some char.toNat := by
    have zero : hexDigit? '0' = some 0 := by decide
    have high := hexDigit?_hexChar (show char.toNat / 16 < 16 by omega)
    have low := hexDigit?_hexChar (show char.toNat % 16 < 16 by omega)
    have whole : 16 * (char.toNat / 16) + char.toNat % 16 = char.toNat := Nat.div_add_mod _ _
    simp [hexUnit?, zero, high, low, whole]
  have lowHalf : isLowHalf char.toNat = false := by simp [isLowHalf]; omega
  have highHalf : isHighHalf char.toNat = false := by simp [isHighHalf]; omega
  simp [readEscape, readNumbered, readUnit, unit, lowHalf, highHalf]

theorem readText_writeChar (char : Char) (rest : List Char) :
    readText (writeChar char ++ rest) =
      (readText rest).map (fun (text, final) => (char :: text, final)) := by
  unfold writeChar
  split
  case h_8 quote backslash _ _ _ _ _ =>
    cases control : isControl char with
    | true => exact readText_escape (readEscape_control rest control)
    | false => exact readText_plain rest quote backslash control
  -- the characters with an escape of one letter
  all_goals exact readText_escape rfl

/-! ### Strings -/

theorem readText_flatMap_writeChar (text rest : List Char) :
    readText (text.flatMap writeChar ++ '"' :: rest) = some (text, rest) := by
  induction text with
  | nil => exact readText_quote rest
  | cons char more ih =>
      rw [List.flatMap_cons, List.append_assoc, readText_writeChar, ih]
      rfl

end QuorumRouting.Json
