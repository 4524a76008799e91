import SceneScript.Text.Blank
import SceneScript.Token

/-!
A cursor over the tokens of a statement or clause. Reading at or past the end gives the closing token
and moves nothing.
-/

namespace SceneScript

/-- The text that tokens cover: a slice of the source, or the spellings if no source is known. -/
def Token.textOf (source : String) (tokens : List Token) : String :=
  match tokens.head?, tokens.getLast? with
  | some first, some last =>
    if source.isEmpty then " ".intercalate (tokens.map (·.lexeme))
    else Text.slice source first.span.start.offset.toNat last.span.stop.offset.toNat
  | _, _ => ""

/-- The span that tokens cover; `none` without tokens. -/
def Token.spanOf? (tokens : List Token) : Option Span :=
  match tokens.head?, tokens.getLast? with
  | some first, some last => some ⟨first.span.start, last.span.stop⟩
  | _, _ => none

/-- Tokens without the closing one, the closing token, and how many tokens are passed. -/
structure Cursor where
  tokens : List Token
  last : Token
  pos : Nat := 0
  deriving Inhabited

namespace Cursor

/-- The place after the last token; before the first line if there is none. -/
def endOf (tokens : List Token) : Location :=
  match tokens.getLast? with
  | some t => t.span.stop
  | none => ⟨0, 1, 0, none⟩

/-- A cursor at the first of the tokens. A closing token is split off; without one, it is made up. -/
def ofTokens (tokens : List Token) : Cursor :=
  match tokens.getLast? with
  | some t =>
    if t.kind = .endOfStatement then { tokens := tokens.dropLast, last := t }
    else { tokens, last := .endAt (endOf tokens) }
  | none => { tokens, last := .endAt (endOf tokens) }

/-- The token `n` places ahead. -/
def peek (c : Cursor) (n : Nat) : Token := c.tokens[c.pos + n]?.getD c.last

def current (c : Cursor) : Token := c.peek 0

def atEnd (c : Cursor) : Bool := c.tokens.length ≤ c.pos

/-- The tokens that are left. -/
def rest (c : Cursor) : List Token := c.tokens.drop c.pos

def advance (c : Cursor) : Cursor := if c.atEnd then c else { c with pos := c.pos + 1 }

/-- Passes the current token if it satisfies `p`. -/
def matchIf (c : Cursor) (p : Token → Bool) : Option Token × Cursor :=
  if p c.current then (some c.current, c.advance) else (none, c)

/-- Passes a token of one of the kinds. -/
def matchKind (c : Cursor) (kinds : List Token.Kind) : Option Token × Cursor :=
  c.matchIf fun t => kinds.contains t.kind

/-- Passes one of the words. -/
def matchWord (c : Cursor) (words : List String) : Option Token × Cursor :=
  c.matchIf (·.isWord words)

/-- The words stand at the cursor, in this order. -/
def hasPhrase (c : Cursor) (words : List String) : Bool :=
  words.zipIdx.all fun (w, i) => (c.peek i).isWord [w]

/-- Passes a sequence of words if all of them are next. -/
def matchPhrase (c : Cursor) (words : List String) : Bool × Cursor :=
  if c.hasPhrase words then (true, { c with pos := c.pos + words.length }) else (false, c)

/-- The span of the tokens, or the place of the closing token without any. -/
def spanOf (c : Cursor) (tokens : List Token) : Span := (Token.spanOf? tokens).getD c.last.span

end Cursor

end SceneScript
