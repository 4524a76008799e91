import SceneScript.Span
import SceneScript.Text.Blank

/-!
Statements: the lines of a source text without comments and surrounding blanks. Only a line feed ends a
line; a carriage return before it is dropped, and `//` starts a comment wherever it stands.
-/

namespace SceneScript

/-- One statement with the line it stands on and the column of its first character. -/
structure Statement where
  line : Int
  text : String
  column : Int := 1
  filename : Option String := none
  deriving Repr, DecidableEq, Inhabited

namespace Statement

/-- The location of the character at an offset of the statement. -/
def location (s : Statement) (offset : Nat) : Location :=
  ⟨s.line, s.column + offset, offset, s.filename⟩

/-- The whole statement. -/
def span (s : Statement) : Span := ⟨s.location 0, s.location s.text.length⟩

/-- A line without the carriage return at its end. -/
def dropReturn (line : List Char) : List Char :=
  if line.getLast? = some '\r' then line.dropLast else line

/-- The part of a line before its first comment mark. -/
def beforeComment : List Char → List Char
  | [] => []
  | [c] => [c]
  | c :: d :: rest => if c = '/' && d = '/' then [] else c :: beforeComment (d :: rest)

/-- The statement on a physical line, if anything but blanks stands before its comment. -/
def ofLine? (filename : Option String) (number : Nat) (line : List Char) : Option Statement :=
  let code := beforeComment (dropReturn line)
  let text := Text.trimChars code
  if text.isEmpty then none
  else some ⟨number, String.ofList text, (code.length - (Text.dropBlanks code).length : Nat) + 1, filename⟩

/-- The statements on lines numbered from `number` on. -/
def ofLines (filename : Option String) (number : Nat) : List (List Char) → List Statement
  | [] => []
  | line :: rest => (ofLine? filename number line).toList ++ ofLines filename (number + 1) rest

/-- The statements of a source text in order. -/
def ofSource (source : String) (filename : Option String) : List Statement :=
  ofLines filename 1 (Text.splitAt '\n' source.toList)

end Statement

end SceneScript
