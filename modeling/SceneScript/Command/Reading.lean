import SceneScript.Command.Export
import SceneScript.Token.Scan

/-!
Reading a statement into a command, by its text alone. No handler goes by this; that handling a statement comes
to reading it and carrying its command out is a theorem about the handlers.
-/

namespace SceneScript

namespace Command

/-- Reads the tokens after an opening. -/
def readAfter (source : String) (c : Cursor) : Opening → List Diagnostic × Except Refusal Command
  | .load => ([], (expectWord .loadWithoutName source c).map .load)
  | .environment => ([], (expectWord .environmentWithoutName source c).map .environment)
  | .draw => ([], readDraw source c)
  | .update => ([], readUpdate source c)
  | .exportAs => Export.read source c

end Command

namespace Statement

/-- The tokens of a statement with the closing one, or what stands against it. -/
def tokens (s : Statement) : Except Failure (List Token) :=
  match s.scan with
  | (tokens, .complete last) => .ok (tokens ++ [last])
  | (_, .openString span) => .error (.refused ⟨.openString, span, some s.text⟩)
  | (_, .badInteger lexeme) => .error (.fault (.badInteger lexeme))

/-- Reads a statement. -/
def read (s : Statement) : Reading :=
  match s.tokens with
  | .error failure => { outcome := .error failure }
  | .ok tokens =>
    let c := Cursor.ofTokens tokens
    match Command.Opening.of? c.tokens with
    | none => { outcome := .error (.refused ⟨.unknownStatement s.text, s.span, some s.text⟩) }
    | some opening =>
      let (warnings, result) := Command.readAfter s.text { c with pos := opening.phrase.length } opening
      { opening, warnings, outcome := result.mapError .refused }

end Statement

end SceneScript
