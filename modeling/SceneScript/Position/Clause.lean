import SceneScript.Cursor
import SceneScript.Position
import SceneScript.Refusal

/-!
Position clauses: `AT` with a named place, a pair of numbers or a grid cell, or a relation with a target
and possibly a distance. A place that `AT` does not know is the canvas center, with a warning.
-/

namespace SceneScript.Position

/-- `x, y` or `(x, y)` and nothing else. -/
def pair? : List Token → Option (Number × Number)
  | [{ form := .number x, .. }, comma, { form := .number y, .. }] =>
    if comma.kind = .comma then some (x, y) else none
  | [leftParen, { form := .number x, .. }, comma, { form := .number y, .. }, rightParen] =>
    if leftParen.kind = .leftParen && comma.kind = .comma && rightParen.kind = .rightParen then some (x, y)
    else none
  | _ => none

/-- The position that the tokens after `AT` state. -/
def place? (target : List Token) : Option Position :=
  match target with
  | [] => none
  | t :: rest =>
    if t.isWord ["GRID"] then (pair? rest).map fun (row, column) => ofGrid row column
    else if t.kind = .word && rest.isEmpty then ofName? t.wordText
    else
      (pair? (if t.isWord ["POSITION"] then rest else t :: rest)).map fun (x, y) => absolute x y 0

/-- The tokens of a target and the distance that `WITH DISTANCE n` states at their end. -/
def splitDistance (target : List Token) : List Token × Option Number :=
  match target.reverse with
  | { form := .number n, .. } :: second :: first :: before =>
    if first.isWord ["WITH"] && second.isWord ["DISTANCE"] then (before.reverse, some n) else (target, none)
  | _ => (target, none)

/-- A position with the warning its clause gives rise to. -/
structure Placed where
  position : Position
  warning : Option Diagnostic := none
  deriving Inhabited

/-- Reads the clause that the tokens after its lead complete. `leadSpan` is the place of the lead. -/
def ofLead (source : String) (lead : Lead) (leadSpan : Span) (target : List Token) : Except Refusal Placed :=
  match lead with
  | .at =>
    match Token.spanOf? target with
    | none => .error ⟨.positionWithoutPlace, leadSpan, some source⟩
    | some span =>
      match place? target with
      | some position => .ok { position }
      | none =>
        .ok {
          position := {}
          warning := some ((Warning.unknownPosition (Token.textOf source target)).diagnostic span (some source)) }
  | .relation r =>
    let (target, distance) := splitDistance target
    if target.isEmpty then .error ⟨.positionWithoutTarget (" ".intercalate r.phrase), leadSpan, some source⟩
    else .ok { position := pending r (Token.textOf source target) distance }

/-- Reads a position clause: tokens that begin with a lead. -/
def ofTokens (source : String) (tokens : List Token) : Except Refusal Placed :=
  let cursor := Cursor.ofTokens tokens
  match Lead.of? cursor.tokens with
  | none => .error ⟨.noPosition cursor.current.lexeme, cursor.current.span, some source⟩
  | some lead =>
    let count := lead.phrase.length
    ofLead source lead (cursor.spanOf (cursor.tokens.take count)) (cursor.tokens.drop count)

end SceneScript.Position
