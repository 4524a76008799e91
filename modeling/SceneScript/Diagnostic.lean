import SceneScript.Json
import SceneScript.Span
import SceneScript.Text.Blank

/-!
Diagnostics: errors and warnings with a place, and the report of a list of them.
-/

namespace SceneScript

inductive Severity where
  | error
  | warning
  deriving Repr, DecidableEq, Inhabited

def Severity.name : Severity → String
  | .error => "error"
  | .warning => "warning"

/-- One finding. The source line is the text of the statement that `span`'s offsets count in. -/
structure Diagnostic where
  code : String
  severity : Severity
  message : String
  span : Span
  sourceLine : Option String := none
  hints : List String := []
  deriving Repr, DecidableEq, Inhabited

namespace Diagnostic

def line (d : Diagnostic) : Int := d.span.start.line

def isError (d : Diagnostic) : Bool := d.severity == .error

/-- The carets under a span: as many as it has characters, and one for an empty span. -/
def underline (span : Span) : String :=
  let start := span.start.offset
  String.ofList (List.replicate start.toNat ' ' ++ List.replicate (max 1 (span.stop.offset - start)).toNat '^')

/-- The lines that quote the statement and underline the span in it. -/
def excerpt (d : Diagnostic) : List String :=
  match d.sourceLine with
  | none => []
  | some text => [Text.padLeft 4 (toString d.line) ++ " | " ++ text, "     | " ++ underline d.span]

/-- Place, severity, code and message on the first line, then the excerpt and the hints. -/
def render (d : Diagnostic) : String :=
  let head := d.span.start.text ++ ": " ++ d.severity.name ++ "[" ++ d.code ++ "]: " ++ d.message
  "\n".intercalate (head :: d.excerpt ++ d.hints.map ("     = " ++ ·))

/-- The diagnostics of a severity. -/
def withSeverity (severity : Severity) (ds : List Diagnostic) : List Diagnostic :=
  ds.filter (·.severity == severity)

def errors (ds : List Diagnostic) : List Diagnostic := withSeverity .error ds

def warnings (ds : List Diagnostic) : List Diagnostic := withSeverity .warning ds

def anyError (ds : List Diagnostic) : Bool := ds.any isError

/-- All diagnostics in order, then how many there are of either severity. -/
def report (ds : List Diagnostic) : String :=
  let count := toString (errors ds).length ++ " error(s), " ++ toString (warnings ds).length ++ " warning(s)"
  "\n\n".intercalate (ds.map render ++ [count])

/-- A diagnostic as JSON: where it starts, what it says, and its hints. -/
def toJson (d : Diagnostic) : Json :=
  .object [("code", .string d.code), ("severity", .string d.severity.name), ("message", .string d.message),
    ("line", .int d.line), ("column", .int d.span.start.column), ("hints", .array (d.hints.map .string))]

end Diagnostic

end SceneScript
