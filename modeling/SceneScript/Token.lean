import SceneScript.Data
import SceneScript.Span

/-!
Tokens of a statement. Words carry their upper case, by which keywords are recognised; what a word
means is up to the clause it stands in.
-/

namespace SceneScript

namespace Token

/-- What a token is, with the value it carries. -/
inductive Form where
  | word (upper : String)
  | number (value : Number)
  | dimension (width height : Int)
  | string (text : String)
  | hexColor
  | leftParen
  | rightParen
  | comma
  | colon
  | symbol
  | endOfStatement
  deriving Repr, Inhabited, BEq

/-- The kind of a token without its value. -/
inductive Kind where
  | word | number | dimension | string | hexColor | leftParen | rightParen | comma | colon | symbol
  | endOfStatement
  deriving Repr, DecidableEq, Inhabited

def Form.kind : Form → Kind
  | .word _ => .word
  | .number _ => .number
  | .dimension _ _ => .dimension
  | .string _ => .string
  | .hexColor => .hexColor
  | .leftParen => .leftParen
  | .rightParen => .rightParen
  | .comma => .comma
  | .colon => .colon
  | .symbol => .symbol
  | .endOfStatement => .endOfStatement

def Kind.name : Kind → String
  | .word => "WORD"
  | .number => "NUMBER"
  | .dimension => "DIMENSION"
  | .string => "STRING"
  | .hexColor => "HEX_COLOR"
  | .leftParen => "LPAREN"
  | .rightParen => "RPAREN"
  | .comma => "COMMA"
  | .colon => "COLON"
  | .symbol => "SYMBOL"
  | .endOfStatement => "EOF"

end Token

/-- A token: its form, its spelling in the source and its place. -/
structure Token where
  form : Token.Form
  lexeme : String
  span : Span
  deriving Repr, Inhabited, BEq

namespace Token

def kind (t : Token) : Kind := t.form.kind

/-- The end of a statement, at a location. -/
def endAt (l : Location) : Token := ⟨.endOfStatement, "", .empty l⟩

/-- A word is one of the given upper-case words. -/
def isWord (t : Token) (words : List String) : Bool :=
  match t.form with
  | .word w => words.contains w
  | _ => false

/-- The upper case of a word; of other tokens the spelling. -/
def wordText (t : Token) : String :=
  match t.form with
  | .word w => w
  | _ => t.lexeme

/-- The token as an error message names it. -/
def describe (t : Token) : String :=
  if t.kind = .endOfStatement then "end of statement" else "'" ++ t.lexeme ++ "'"

/-- The token as a listing shows it: the name of its kind, with the value where one is carried. -/
def text (t : Token) : String :=
  let valued (value : String) := t.kind.name ++ "(" ++ value ++ ")"
  match t.form with
  | .word w => valued (Text.Quoted.encode w)
  | .number n => valued n.text
  | .dimension w h => valued ("(" ++ toString w ++ ", " ++ toString h ++ ")")
  | .string s => valued (Text.Quoted.encode s)
  | .hexColor => valued (Text.Quoted.encode t.lexeme)
  | _ => t.kind.name

end Token

end SceneScript
