import ChatDice.Text.Printable

/-!
A text in quotation marks, as error messages and nested values show it. Single quotes are the
rule; a text that holds a single quote and no double one is put into double quotes. Bytes are shown
alike behind a mark of their own.
-/

namespace ChatDice.Text

/-- The mark that surrounds a text. -/
def quoteMark (t : Text) : CodePoint :=
  if t.any (· == '\'') && !t.any (· == '"') then '"' else '\''

/-- The mark and the backslash are escaped; what does not print is named by its number. -/
def quoteCodePoint (mark c : CodePoint) : Text :=
  if c = mark || c = CodePoint.ofChar '\\' then ['\\', c]
  else if c = CodePoint.ofChar '\n' then "\\n"
  else if c = CodePoint.ofChar '\r' then "\\r"
  else if c = CodePoint.ofChar '\t' then "\\t"
  else if c.isPrintable then [c]
  else if c.val < 0x100 then "\\x" ++ hex 2 c.val
  else if c.val < 0x10000 then "\\u" ++ hex 4 c.val
  else "\\U" ++ hex 8 c.val

def quoted (t : Text) : Text :=
  let mark := quoteMark t
  mark :: t.flatMap (quoteCodePoint mark) ++ [mark]

/-- A byte in quotation marks; those beyond ASCII do not print. -/
def quoteByte (mark : CodePoint) (b : UInt8) : Text :=
  if b < 0x80 then quoteCodePoint mark (CodePoint.ofNat b.toNat) else "\\x" ++ hex 2 b.toNat

/-- Bytes in quotation marks, which are chosen as for a text. -/
def quotedBytes (bytes : List UInt8) : Text :=
  let mark := quoteMark (bytes.map fun b => CodePoint.ofNat b.toNat)
  CodePoint.ofChar 'b' :: mark :: bytes.flatMap (quoteByte mark) ++ [mark]

end ChatDice.Text
