import TableDiff.Text.Digits
import TableDiff.Text.EscapeTable

/-!
# Text in double quotes

A text as an error message shows it: in double quotes, with backslash escapes for the quote, the
backslash, the usual control characters and every character that has no glyph of its own.
-/

namespace TableDiff.Text

/-- One character inside double quotes. -/
def quotedChar (c : Char) : List Char :=
  if c = '"' then ['\\', '"']
  else if c = '\\' then ['\\', '\\']
  else if c = '\n' then ['\\', 'n']
  else if c = '\r' then ['\\', 'r']
  else if c = '\t' then ['\\', 't']
  else if c = '\x00' then ['\\', '0']
  else if isHidden c then ['\\', 'u', '\x7b'] ++ hexDigits c.toNat ++ ['\x7d']
  else [c]

/-- The text in double quotes. -/
def quoted (s : String) : String :=
  String.ofList ('"' :: s.toList.flatMap quotedChar ++ ['"'])

end TableDiff.Text
