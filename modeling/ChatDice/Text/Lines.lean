import ChatDice.Text

/-!
Lines of a text. The ways to end a line are unified before a text is divided.
-/

namespace ChatDice.Text

/-- Every kind of line end becomes a line feed. -/
def unifiedBreaks : Text → Text
  | [] => []
  | c :: rest =>
    if c.val = 0x0D then
      if (rest.head?.map (·.val)) = some 0x0A then unifiedBreaks rest
      else CodePoint.ofChar '\n' :: unifiedBreaks rest
    else c :: unifiedBreaks rest

/-- A text without the line feed at its end, if it has one there. -/
def withoutLastBreak (t : Text) : Text :=
  if t.getLast? = some (CodePoint.ofChar '\n') then t.dropLast else t

end ChatDice.Text
