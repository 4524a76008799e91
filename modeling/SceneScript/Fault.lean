import SceneScript.Data

/-!
Causes that end a whole parse or are answered in place of a result: values that cannot be represented,
and writes that a finished scene does not take.
-/

namespace SceneScript

inductive Fault where
  /-- A signed dimension ran into a word, and `lexeme` is no integer. -/
  | badInteger (lexeme : String)
  /-- An age was written with more digits than a float can hold. -/
  | infiniteAge
  /-- Null, a list or a value of another kind where an attribute value is needed. -/
  | unusableValue (d : Data)
  /-- A position names a target but no relation to it. -/
  | missingRelation
  | sceneFrozen
  | attributesFrozen
  deriving Inhabited

/-- The kind of data that cannot be an attribute value, as messages name it. -/
def Fault.kindOf : Data → String
  | .null => "NoneType"
  | .foreign v => v.kind
  | _ => "list"

def Fault.message : Fault → String
  | badInteger lexeme => "invalid literal for int() with base 10: " ++ Text.Quoted.encode lexeme
  | infiniteAge => "cannot convert float infinity to integer"
  | unusableValue d => "cannot use " ++ kindOf d ++ " as an attribute value: " ++ d.quoted
  | missingRelation => "None"
  | sceneFrozen => "scene is frozen"
  | attributesFrozen => "attributes are frozen"

end SceneScript
