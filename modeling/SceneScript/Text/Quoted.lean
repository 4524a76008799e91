import SceneScript.Text.Character

/-!
The quoted form of a text: single quotes, unless the text holds a single quote and no double one.
Backslashes, the enclosing quote and all that cannot be printed are escaped.
-/

namespace SceneScript.Text.Quoted

/-- A number in lower-case hexadecimal, filled with zeros to `width` digits. -/
def hex (width n : Nat) : String :=
  let digits := Nat.toDigits 16 n
  String.ofList (List.replicate (width - digits.length) '0' ++ digits)

/-- The form of one character between the quotes `quote`. -/
def escape (quote c : Char) : String :=
  if c = quote || c = '\\' then String.ofList ['\\', c]
  else if c = '\t' then "\\t"
  else if c = '\n' then "\\n"
  else if c = '\r' then "\\r"
  else if isPrintable c then c.toString
  else if c.toNat < 0x100 then "\\x" ++ hex 2 c.toNat
  else if c.toNat < 0x10000 then "\\u" ++ hex 4 c.toNat
  else "\\U" ++ hex 8 c.toNat

/-- The quote that needs fewer escapes; single if neither does. -/
def quoteFor (s : String) : Char :=
  if s.toList.contains '\'' && !s.toList.contains '"' then '"' else '\''

/-- The quoted form of a text. -/
def encode (s : String) : String :=
  let quote := quoteFor s
  quote.toString ++ String.join (s.toList.map (escape quote)) ++ quote.toString

end SceneScript.Text.Quoted
