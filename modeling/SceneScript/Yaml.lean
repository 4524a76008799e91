import SceneScript.Data

/-!
Reading YAML. What a text stands for is not said here: whatever reads catalog files is given a reader,
and nothing is known of it but that it has data for a text or tells why it has none.
-/

namespace SceneScript.Yaml

/-- Why a reader has no data for a text. -/
inductive Failure where
  /-- The text is no document. -/
  | malformed (message : String)
  /-- A value is out of the range of its kind, as a date in a thirteenth month is. -/
  | badValue (message : String)
  /-- The reader itself broke down. -/
  | breakdown (message : String)
  deriving Repr, DecidableEq, Inhabited

def Failure.message : Failure → String
  | malformed message => message
  | badValue message => message
  | breakdown message => message

/-- What each text stands for. A document that holds itself is unfolded as far as it shows. -/
abbrev Reader := String → Except Failure Data

end SceneScript.Yaml
