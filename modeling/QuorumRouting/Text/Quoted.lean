import QuorumRouting.Text.Glyph
import QuorumRouting.Text.Hex

/-!
Quoted text for diagnostics. A text stands between double quotes; the quote, the backslash and
four control characters have short escapes, and every other character that does not show as
itself is written by its code point.
-/

set_option autoImplicit false

namespace QuorumRouting.Text

def quotedChar (char : Char) : String :=
  if char = '"' then "\\\""
  else if char = '\\' then "\\\\"
  else if char = '\t' then "\\t"
  else if char = '\n' then "\\n"
  else if char = '\r' then "\\r"
  else if char.toNat = 0 then "\\0"
  else if hasGlyph char then char.toString
  else "\\u\x7b" ++ hex char.toNat ++ "\x7d"

def quoted (text : String) : String :=
  "\"" ++ String.join (text.toList.map quotedChar) ++ "\""

end QuorumRouting.Text
