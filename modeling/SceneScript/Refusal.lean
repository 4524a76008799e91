import SceneScript.Diagnostic

/-!
Why a statement is refused, what is only warned about, and the diagnostics of both.
-/

namespace SceneScript

/-- The causes for which a statement is refused. `found` names a token as messages do. -/
inductive Rejection where
  | openString
  | unknownStatement (text : String)
  | drawWithoutEntity (found : String)
  | loadWithoutName (found : String)
  | environmentWithoutName (found : String)
  | updateWithoutEntity (found : String)
  | updateWithoutWith (found : String)
  | updateWithoutAttributes
  | exportWithoutAs (found : String)
  | exportWithoutFormat (found : String)
  | exportUnexpected (found : String)
  | exportResolution (found : String)
  | exportQuality (found : String)
  | exportDensity (found : String)
  | noPosition (lexeme : String)
  | positionWithoutPlace
  | positionWithoutTarget (relation : String)
  deriving Repr, DecidableEq

namespace Rejection

/-- The statement forms by which codes are grouped. -/
def code : Rejection → String
  | openString => "E002"
  | unknownStatement _ => "E101"
  | drawWithoutEntity _ => "E102"
  | loadWithoutName _ => "E103"
  | environmentWithoutName _ => "E104"
  | updateWithoutEntity _ | updateWithoutWith _ | updateWithoutAttributes => "E105"
  | exportWithoutAs _ | exportWithoutFormat _ | exportUnexpected _ | exportResolution _ | exportQuality _
  | exportDensity _ => "E106"
  | noPosition _ | positionWithoutPlace | positionWithoutTarget _ => "E107"

/-- An unknown statement is quoted up to its fiftieth character. -/
def message : Rejection → String
  | openString => "unterminated string literal"
  | unknownStatement text => "unknown statement: " ++ Text.slice text 0 50
  | drawWithoutEntity found => "invalid DRAW statement: expected entity, found " ++ found
  | loadWithoutName found => "invalid LOAD EXTENSION command: expected extension name, found " ++ found
  | environmentWithoutName found => "invalid ADD ENVIRONMENT command: expected environment name, found " ++ found
  | updateWithoutEntity found => "invalid UPDATE command: expected entity, found " ++ found
  | updateWithoutWith found => "invalid UPDATE command: expected WITH, found " ++ found
  | updateWithoutAttributes => "invalid UPDATE command: expected attributes after WITH"
  | exportWithoutAs found => "invalid EXPORT command: expected AS, found " ++ found
  | exportWithoutFormat found => "invalid EXPORT command: expected format, found " ++ found
  | exportUnexpected found => "invalid EXPORT command: unexpected " ++ found
  | exportResolution found => "invalid EXPORT command: invalid resolution " ++ found
  | exportQuality found => "invalid EXPORT command: invalid quality " ++ found
  | exportDensity found => "invalid EXPORT command: invalid DPI " ++ found
  | noPosition lexeme => "invalid position: expected a position, found '" ++ lexeme ++ "'"
  | positionWithoutPlace => "invalid position: expected a position after AT"
  | positionWithoutTarget relation => "invalid position: expected a target after " ++ relation

def hints (r : Rejection) : List String :=
  match r.code with
  | "E002" => ["string literals must be closed with matching quotes"]
  | "E101" => ["statements start with DRAW, UPDATE, LOAD EXTENSION, ADD ENVIRONMENT or EXPORT"]
  | "E102" => ["DRAW <entity> [WITH <attributes>] [<position>]"]
  | "E105" => ["UPDATE <entity> WITH <attributes>"]
  | "E106" => ["EXPORT AS <PNG|JPEG|WEBP|SVG|PDF|GIF> [WITH RESOLUTION: ...]"]
  | _ => []

end Rejection

/-- A refused statement: the cause, its place, and the text the place counts in. -/
structure Refusal where
  cause : Rejection
  span : Span
  sourceLine : Option String
  deriving Repr, DecidableEq

def Refusal.diagnostic (r : Refusal) : Diagnostic where
  code := r.cause.code
  severity := .error
  message := r.cause.message
  span := r.span
  sourceLine := r.sourceLine
  hints := r.cause.hints

/-- What a statement is warned about without being refused. -/
inductive Warning where
  | unresolvedTarget (entity target : String)
  | unknownExtension (name : String)
  | noSuchEntity (reference : String)
  | unknownOption (name : String)
  | unknownPosition (name : String)
  deriving Repr, DecidableEq

namespace Warning

def code : Warning → String
  | unresolvedTarget _ _ => "W101"
  | unknownExtension _ => "W102"
  | noSuchEntity _ => "W103"
  | unknownOption _ => "W104"
  | unknownPosition _ => "W105"

def message : Warning → String
  | unresolvedTarget entity target =>
    "could not find target entity '" ++ target ++ "' for relative positioning of " ++ entity
  | unknownExtension name => "unknown extension '" ++ name ++ "'"
  | noSuchEntity reference => "no entity matches '" ++ reference ++ "'; UPDATE ignored"
  | unknownOption name => "unknown export option '" ++ name ++ "'"
  | unknownPosition name => "unknown position '" ++ name ++ "'"

def hints : Warning → List String
  | unresolvedTarget _ _ | unknownPosition _ => ["the entity was placed at the canvas center"]
  | unknownOption _ => ["known options: RESOLUTION, QUALITY, DPI"]
  | unknownExtension _ | noSuchEntity _ => []

/-- The warning at a place of a statement. -/
def diagnostic (w : Warning) (span : Span) (sourceLine : Option String) : Diagnostic where
  code := w.code
  severity := .warning
  message := w.message
  span := span
  sourceLine := sourceLine
  hints := w.hints

end Warning

end SceneScript
