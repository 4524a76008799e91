import SceneScript.Proofs.Blur.Texts
import SceneScript.Proofs.Forms
import SceneScript.Proofs.Readings

/-!
Tokens and position clauses under a blur. Whatever looks for a word or a kind of token finds it among the
blurred tokens at the same place, so a position clause read from blurred tokens is the blurred reading.
-/

namespace SceneScript
namespace Blur

variable (b : Blur)

/-! ### Tokens -/

def span (s : Span) : Span := ⟨b.place s.start, b.place s.stop⟩

/-- The token with its spelling and its place as they are seen. The word of a token is in upper case
    already. -/
def token (t : Token) : Token := ⟨t.form, b.text t.lexeme, b.span t.span⟩

@[simp] theorem form_token (t : Token) : (b.token t).form = t.form := rfl

@[simp] theorem lexeme_token (t : Token) : (b.token t).lexeme = b.text t.lexeme := rfl

@[simp] theorem span_token (t : Token) : (b.token t).span = b.span t.span := rfl

@[simp] theorem kind_token (t : Token) : (b.token t).kind = t.kind := Token.kind_map b.form_token t

@[simp] theorem isWord_token (t : Token) (words : List String) : (b.token t).isWord words = t.isWord words :=
  Token.isWord_map b.form_token t words

theorem token_endAt (l : Location) : b.token (.endAt l) = .endAt (b.place l) := by
  have hempty : b.text "" = "" := b.text_eq_self (by simp)
  simp [token, Token.endAt, hempty, span, Span.empty]

theorem describe_token (t : Token) : (b.token t).describe = b.text t.describe := by
  by_cases hkind : t.kind = .endOfStatement
  · have hend : b.text "end of statement" = "end of statement" := b.text_eq_self (by simp)
    simp [Token.describe, hkind, hend]
  · have hquoted := b.text_quoted "'" "'" (by simp) (by simp) t.lexeme
    simp [Token.describe, hkind, hquoted]

theorem textOf_map (source : String) (tokens : List Token) :
    Token.textOf (b.text source) (tokens.map b.token) = b.text (Token.textOf source tokens) := by
  have hempty : b.text "" = "" := b.text_eq_self (by simp)
  have hspace : b.text " " = " " := b.text_eq_self (by simp)
  unfold Token.textOf
  rw [List.head?_map, List.getLast?_map, isEmpty_text]
  cases tokens.head? with
  | none => exact hempty.symm
  | some first =>
    cases tokens.getLast? with
    | none => exact hempty.symm
    | some last =>
      simp only [Option.map_some, span_token, span, offset_place]
      split
      · rw [text_intercalate, hspace, List.map_map, List.map_map]
        rfl
      · exact b.slice_text _ _ _

theorem spanOf?_map (tokens : List Token) :
    Token.spanOf? (tokens.map b.token) = (Token.spanOf? tokens).map b.span := by
  unfold Token.spanOf?
  rw [List.head?_map, List.getLast?_map]
  cases tokens.head? <;> cases tokens.getLast? <;> rfl

/-! ### Cursors -/

def cursor (c : Cursor) : Cursor := ⟨c.tokens.map b.token, b.token c.last, c.pos⟩

variable (c : Cursor)

@[simp] theorem peek_cursor (n : Nat) : (b.cursor c).peek n = b.token (c.peek n) := by
  simp only [Cursor.peek, cursor, List.getElem?_map]
  cases c.tokens[c.pos + n]? <;> rfl

@[simp] theorem current_cursor : (b.cursor c).current = b.token c.current := b.peek_cursor c 0

@[simp] theorem atEnd_cursor : (b.cursor c).atEnd = c.atEnd := by simp [Cursor.atEnd, cursor]

@[simp] theorem rest_cursor : (b.cursor c).rest = c.rest.map b.token := by simp [Cursor.rest, cursor, List.map_drop]

theorem advance_cursor : (b.cursor c).advance = b.cursor c.advance := by
  unfold Cursor.advance
  rw [atEnd_cursor]
  split <;> rfl

theorem matchWord_cursor (words : List String) :
    (b.cursor c).matchWord words = ((c.matchWord words).1.map b.token, b.cursor (c.matchWord words).2) := by
  simp only [Cursor.matchWord, Cursor.matchIf, current_cursor, isWord_token, advance_cursor]
  by_cases hword : c.current.isWord words = true
  · simp [hword]
  · simp [hword]

theorem ofTokens_map (tokens : List Token) :
    Cursor.ofTokens (tokens.map b.token) = b.cursor (Cursor.ofTokens tokens) := by
  have hend : Cursor.endOf (tokens.map b.token) = b.place (Cursor.endOf tokens) := by
    unfold Cursor.endOf
    rw [List.getLast?_map]
    cases tokens.getLast? with
    | none => exact b.place_unknown.symm
    | some t => rfl
  unfold Cursor.ofTokens
  rw [List.getLast?_map, hend, ← token_endAt]
  cases tokens.getLast? with
  | none => rfl
  | some t =>
    by_cases hlast : t.kind = .endOfStatement
    · simp [hlast, cursor, List.map_dropLast]
    · simp [hlast, cursor]

theorem spanOf_cursor (tokens : List Token) : (b.cursor c).spanOf (tokens.map b.token) = b.span (c.spanOf tokens) := by
  rw [Cursor.spanOf, Cursor.spanOf, spanOf?_map]
  cases Token.spanOf? tokens <;> rfl

/-! ### Refusals and diagnostics -/

/-- The cause with the texts that it quotes from the source as they are seen. -/
def rejection : Rejection → Rejection
  | .openString => .openString
  | .unknownStatement text => .unknownStatement (b.text text)
  | .drawWithoutEntity found => .drawWithoutEntity (b.text found)
  | .loadWithoutName found => .loadWithoutName (b.text found)
  | .environmentWithoutName found => .environmentWithoutName (b.text found)
  | .updateWithoutEntity found => .updateWithoutEntity (b.text found)
  | .updateWithoutWith found => .updateWithoutWith (b.text found)
  | .updateWithoutAttributes => .updateWithoutAttributes
  | .exportWithoutAs found => .exportWithoutAs (b.text found)
  | .exportWithoutFormat found => .exportWithoutFormat (b.text found)
  | .exportUnexpected found => .exportUnexpected (b.text found)
  | .exportResolution found => .exportResolution (b.text found)
  | .exportQuality found => .exportQuality (b.text found)
  | .exportDensity found => .exportDensity (b.text found)
  | .noPosition lexeme => .noPosition (b.text lexeme)
  | .positionWithoutPlace => .positionWithoutPlace
  | .positionWithoutTarget relation => .positionWithoutTarget relation

def refusal (r : Refusal) : Refusal := ⟨b.rejection r.cause, b.span r.span, r.sourceLine.map b.text⟩

/-- The diagnostic with its texts and its place as they are seen; hints quote nothing. -/
def diagnostic (d : Diagnostic) : Diagnostic :=
  { d with message := b.text d.message, span := b.span d.span, sourceLine := d.sourceLine.map b.text }

/-- A result under `f`, or the refusal as it is seen. -/
def outcome {α β : Type} (f : α → β) : Except Refusal α → Except Refusal β
  | .ok a => .ok (f a)
  | .error r => .error (b.refusal r)

theorem diagnostic_unknownOption (name : String) (span : Span) (source : String) :
    b.diagnostic ((Warning.unknownOption name).diagnostic span (some source)) =
      (Warning.unknownOption (b.text name)).diagnostic (b.span span) (some (b.text source)) := by
  have hmessage : b.text (Warning.unknownOption name).message = (Warning.unknownOption (b.text name)).message :=
    b.text_quoted _ _ (by simp) (by simp) name
  unfold diagnostic
  rw [Warning.diagnostic, hmessage]
  rfl

theorem diagnostic_unknownPosition (name : String) (span : Span) (source : String) :
    b.diagnostic ((Warning.unknownPosition name).diagnostic span (some source)) =
      (Warning.unknownPosition (b.text name)).diagnostic (b.span span) (some (b.text source)) := by
  have hmessage : b.text (Warning.unknownPosition name).message = (Warning.unknownPosition (b.text name)).message :=
    b.text_quoted _ _ (by simp) (by simp) name
  unfold diagnostic
  rw [Warning.diagnostic, hmessage]
  rfl

/-! ### Position clauses -/

def position (p : Position) : Position := { p with relativeTo := p.relativeTo.map b.text }

def placed (p : Position.Placed) : Position.Placed := ⟨b.position p.position, p.warning.map b.diagnostic⟩

theorem position_eq_self {p : Position} (h : p.relativeTo = none) : b.position p = p := by
  cases p
  cases h
  rfl

theorem ofLead_map (source : String) (lead : Lead) (leadSpan : Span) (target : List Token) :
    Position.ofLead (b.text source) lead (b.span leadSpan) (target.map b.token) =
      b.outcome b.placed (Position.ofLead source lead leadSpan target) := by
  cases lead with
  | «at» =>
    simp only [Position.ofLead, spanOf?_map]
    cases Token.spanOf? target with
    | none => rfl
    | some span =>
      simp only [Option.map_some, Position.place?_map b.form_token]
      cases hplace : Position.place? target with
      | none =>
        rw [textOf_map, ← diagnostic_unknownPosition]
        rfl
      | some p =>
        have hself := b.position_eq_self (Position.isAbsolute_of_place? hplace).relativeTo
        simp only [outcome, placed, hself, Option.map_none]
  | relation r =>
    simp only [Position.ofLead, Position.splitDistance_map b.form_token, List.isEmpty_map]
    by_cases hempty : (Position.splitDistance target).1.isEmpty = true
    · simp only [hempty, if_true]
      rfl
    · simp only [hempty, textOf_map]
      rfl

theorem readPosition_map (source : String) (tokens : List Token) :
    Position.ofTokens (b.text source) (tokens.map b.token) = b.outcome b.placed (Position.ofTokens source tokens) := by
  have hlead : Lead.of? (b.cursor (Cursor.ofTokens tokens)).tokens = Lead.of? (Cursor.ofTokens tokens).tokens :=
    Lead.of?_map b.form_token _
  simp only [Position.ofTokens, ofTokens_map, hlead]
  cases Lead.of? (Cursor.ofTokens tokens).tokens with
  | none =>
    simp only [current_cursor]
    rfl
  | some lead =>
    have htake : (b.cursor (Cursor.ofTokens tokens)).tokens.take lead.phrase.length =
        ((Cursor.ofTokens tokens).tokens.take lead.phrase.length).map b.token := List.map_take.symm
    have hdrop : (b.cursor (Cursor.ofTokens tokens)).tokens.drop lead.phrase.length =
        ((Cursor.ofTokens tokens).tokens.drop lead.phrase.length).map b.token := List.map_drop.symm
    simp only [htake, hdrop, spanOf_cursor, ofLead_map]

end Blur
end SceneScript
