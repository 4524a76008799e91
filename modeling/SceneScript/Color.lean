import SceneScript.Text.Case

/-!
Colors: names of a fixed table and hexadecimal literals.
-/

namespace SceneScript.Color

/-- The color names with the literals they stand for. -/
def table : List (String × String) := [
  ("RED", "#FF0000"), ("GREEN", "#00FF00"), ("BLUE", "#0000FF"), ("YELLOW", "#FFFF00"),
  ("ORANGE", "#FFA500"), ("PURPLE", "#800080"), ("PINK", "#FFC0CB"), ("BROWN", "#8B4513"),
  ("BLACK", "#000000"), ("WHITE", "#FFFFFF"), ("GRAY", "#808080"), ("GREY", "#808080"),
  ("NAVY", "#000080"), ("NAVY_BLUE", "#000080"), ("CHARCOAL", "#36454F"), ("BLONDE", "#FAD5A5"),
  ("BRUNETTE", "#8B4513")]

/-- A number sign and three or six hexadecimal digits. -/
def isHex (text : String) : Bool :=
  match text.toList with
  | '#' :: digits => (digits.length = 3 || digits.length = 6) && digits.all Text.isHexDigit
  | _ => false

/-- The literal of a color name in any case. -/
def ofName? (text : String) : Option String := table.lookup (Text.upper text)

/-- A known name or a literal. -/
def isColor (text : String) : Bool := (ofName? text).isSome || isHex text

/-- The literal of a color name; any other text as it is. -/
def normalize (text : String) : String := (ofName? text).getD text

end SceneScript.Color
