import SceneScript.Statement
import SceneScript.Text.Case
import SceneScript.Token

/-!
Cutting a statement into tokens. Each step takes one lexeme off the front of the characters that are
left and says so in its type: lexeme and rest together are those characters, and the lexeme is not
empty. Losslessness and termination rest on that.
-/

namespace SceneScript.Token

/-- One lexeme at the front of `cs`. -/
structure Piece (cs : List Char) where
  form : Form
  lexeme : List Char
  rest : List Char
  append_eq : lexeme ++ rest = cs
  ne_nil : lexeme ≠ []

/-- Why no lexeme could be taken. -/
inductive ScanError where
  | openString
  | badInteger (lexeme : List Char)
  deriving Repr, DecidableEq

/-- The next character is a word character. -/
def meetsWord : List Char → Bool
  | [] => false
  | c :: _ => Text.isWordChar c

theorem Piece.rest_length_lt {cs : List Char} (p : Piece cs) : p.rest.length < cs.length := by
  have h := congrArg List.length p.append_eq
  have : p.lexeme.length ≠ 0 := by simpa using p.ne_nil
  simp at h
  omega

/-! ### Strings -/

/-- A string runs to the next occurrence of its opening quote; nothing is escaped in it. -/
def scanString (quote : Char) (rest : List Char) : Except ScanError (Piece (quote :: rest)) :=
  let body := rest.takeWhile (· != quote)
  match h : rest.dropWhile (· != quote) with
  | [] => .error .openString
  | close :: after => .ok {
      form := .string (String.ofList body)
      lexeme := quote :: (body ++ [close])
      rest := after
      append_eq := by
        have := List.takeWhile_append_dropWhile (p := (· != quote)) (l := rest)
        rw [h] at this
        simpa [body] using this
      ne_nil := by simp }

/-! ### Numbers, dimensions and words led by digits -/

/-- The digits after the sign, and what follows: a fraction, a cross with further digits, or neither. -/
inductive Numeral where
  | integer
  | decimal (fraction : List Char)
  | crossed (cross : Char) (height : List Char)

/-- What follows a run of digits. A point or a cross belongs to it only before another digit. -/
def numeralTail : List Char → Numeral × List Char
  | '.' :: d :: rest =>
    if Text.isDigit d then
      (.decimal ((d :: rest).takeWhile Text.isDigit), (d :: rest).dropWhile Text.isDigit)
    else (.integer, '.' :: d :: rest)
  | c :: d :: rest =>
    if (c = 'x' || c = 'X') && Text.isDigit d then
      (.crossed c ((d :: rest).takeWhile Text.isDigit), (d :: rest).dropWhile Text.isDigit)
    else (.integer, c :: d :: rest)
  | cs => (.integer, cs)

/-- The characters of what followed the digits. -/
def Numeral.chars : Numeral → List Char
  | .integer => []
  | .decimal fraction => '.' :: fraction
  | .crossed cross height => cross :: height

theorem numeralTail_append (cs : List Char) : (numeralTail cs).1.chars ++ (numeralTail cs).2 = cs := by
  unfold numeralTail
  split
  · split <;> simp [Numeral.chars]
  · split <;> simp [Numeral.chars]
  · rfl

/-- The integer that an optional sign and digits write. -/
def integerOf (negative : Bool) (digits : List Char) : Int :=
  let n : Int := Decimal.ofDigits digits
  if negative then -n else n

/-- The form of a numeral that no word character follows, or that cannot start a word. -/
def Numeral.form (negative : Bool) (whole : List Char) : Numeral → Form
  | .integer => .number (.int (integerOf negative whole))
  | .decimal fraction => .number (.float
      (Decimal.nearestFloat negative (Decimal.ofDigits (whole ++ fraction)) (-fraction.length)))
  | .crossed _ height => .dimension (integerOf negative whole) (integerOf false height)

/-- A number or dimension with the given sign, or a word led by digits: an unsigned numeral goes on
    as a word if a word character follows it. A signed dimension must not be followed by one. -/
def scanNumeral (sign : List Char) (d : Char) (cs : List Char) (hd : Text.isDigit d = true) :
    Except ScanError (Piece (sign ++ d :: cs)) :=
  let whole := (d :: cs).takeWhile Text.isDigit
  let tail := numeralTail ((d :: cs).dropWhile Text.isDigit)
  let head := sign ++ whole ++ tail.1.chars
  have parts : head ++ tail.2 = sign ++ d :: cs := by
    have h := numeralTail_append ((d :: cs).dropWhile Text.isDigit)
    have h' := List.takeWhile_append_dropWhile (p := Text.isDigit) (l := d :: cs)
    simp only [head, tail, whole, List.append_assoc, h, h']
  have h : head ≠ [] := by simp [head, whole, hd]
  if meetsWord tail.2 then
    if sign.isEmpty then
      let lexeme := head ++ tail.2.takeWhile Text.isWordChar
      .ok {
        form := .word (Text.upper (String.ofList lexeme))
        lexeme := lexeme
        rest := tail.2.dropWhile Text.isWordChar
        append_eq := by simpa [lexeme] using parts
        ne_nil := by simp [lexeme, h] }
    else
      match tail.1 with
      | .crossed _ _ => .error (.badInteger head)
      | numeral => .ok ⟨numeral.form true whole, head, tail.2, parts, h⟩
  else .ok ⟨tail.1.form (!sign.isEmpty) whole, head, tail.2, parts, h⟩

/-! ### Words, colors and symbols -/

/-- A word: all word characters from a letter or underscore on. -/
def scanWord (c : Char) (rest : List Char) : Piece (c :: rest) :=
  let lexeme := c :: rest.takeWhile Text.isWordChar
  { form := .word (Text.upper (String.ofList lexeme))
    lexeme := lexeme
    rest := rest.dropWhile Text.isWordChar
    append_eq := by simp [lexeme]
    ne_nil := by simp [lexeme] }

/-- What a number sign begins: a color of three or six hexadecimal digits that no word character
    follows; else a symbol with all word characters after it. -/
def scanHash (c : Char) (rest : List Char) : Piece (c :: rest) :=
  let digits := rest.takeWhile Text.isHexDigit
  let after := rest.dropWhile Text.isHexDigit
  if (digits.length = 3 || digits.length = 6) && !meetsWord after then
    ⟨.hexColor, c :: digits, after, by simp [digits, after], by simp⟩
  else
    ⟨.symbol, c :: rest.takeWhile Text.isWordChar, rest.dropWhile Text.isWordChar, by simp, by simp⟩

/-- The form of a character that is a token by itself. -/
def punctuation (c : Char) : Form :=
  if c = '(' then .leftParen
  else if c = ')' then .rightParen
  else if c = ',' then .comma
  else if c = ':' then .colon
  else .symbol

/-- The lexeme at the front of characters of which the first is no gap. -/
def scanPiece (c : Char) (rest : List Char) : Except ScanError (Piece (c :: rest)) :=
  if c = '"' || c = '\'' then scanString c rest
  else if h : Text.isDigit c = true then scanNumeral [] c rest h
  else if Text.isWordStart c then .ok (scanWord c rest)
  else if c = '#' then .ok (scanHash c rest)
  else
    match rest with
    | d :: more =>
      if h : c = '-' ∧ Text.isDigit d = true then scanNumeral [c] d more h.2
      else .ok ⟨punctuation c, [c], d :: more, rfl, by simp⟩
    | [] => .ok ⟨punctuation c, [c], [], rfl, by simp⟩

end SceneScript.Token

namespace SceneScript

open Token

/-- How the scan of a statement ends: with the closing token, in a string without end, or at a signed
    dimension that runs into a word. -/
inductive ScanEnd where
  | complete (last : Token)
  | openString (span : Span)
  | badInteger (lexeme : String)
  deriving Repr, Inhabited, BEq

namespace Statement

/-- Scans the characters `cs` that begin at an offset of the statement. -/
def scanFrom (s : Statement) (offset : Nat) (cs : List Char) : List Token × ScanEnd :=
  match cs with
  | [] => ([], .complete (.endAt (s.location offset)))
  | c :: rest =>
    if Text.isGap c then scanFrom s (offset + 1) rest
    else
      match scanPiece c rest with
      | .error .openString => ([], .openString ⟨s.location offset, s.location (offset + (c :: rest).length)⟩)
      | .error (.badInteger lexeme) => ([], .badInteger (String.ofList lexeme))
      | .ok piece =>
        let stop := offset + piece.lexeme.length
        let token := ⟨piece.form, String.ofList piece.lexeme, ⟨s.location offset, s.location stop⟩⟩
        let (tokens, ending) := scanFrom s stop piece.rest
        (token :: tokens, ending)
termination_by cs.length
decreasing_by
  · simp
  · exact piece.rest_length_lt

/-- The tokens of a statement, as far as it can be scanned, and how the scan ends. -/
def scan (s : Statement) : List Token × ScanEnd := s.scanFrom 0 s.text.toList

end Statement

end SceneScript
