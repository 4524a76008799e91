/-!
Places in a source text. Columns count from the start of the physical line, offsets from the start of
the statement.
-/

namespace SceneScript

structure Location where
  line : Int
  column : Int
  offset : Int
  filename : Option String
  deriving Repr, DecidableEq, Inhabited

structure Span where
  start : Location
  stop : Location
  deriving Repr, DecidableEq, Inhabited

/-- The file name with a colon; nothing if there is none or it is empty. -/
def Location.filePart (l : Location) : String :=
  match l.filename with
  | some name => if name.isEmpty then "" else name ++ ":"
  | none => ""

/-- Line and column, after the file name if there is one. -/
def Location.text (l : Location) : String :=
  l.filePart ++ toString l.line ++ ":" ++ toString l.column

/-- The start and, without a file name, the end. -/
def Span.text (s : Span) : String :=
  s.start.text ++ "-" ++ toString s.stop.line ++ ":" ++ toString s.stop.column

/-- The empty span at a location. -/
def Span.empty (l : Location) : Span := ⟨l, l⟩

/-- The span of a text that fills a line from its first column. -/
def Span.ofLine (line : Int) (text : String) (filename : Option String) : Span :=
  ⟨⟨line, 1, 0, filename⟩, ⟨line, text.length + 1, text.length, filename⟩⟩

end SceneScript
