import SceneScript.Text.Character

/-!
Layout of YAML texts. Scanning turns indentation into opening and closing marks and finds the keys of
mappings. What is left out: anchors, aliases, tags, directives and block scalars, which are taken as
malformed.
-/

namespace SceneScript.CommandLine.Yaml

inductive Token where
  | blockMapping
  | blockSequence
  | blockEnd
  | blockEntry
  | key
  | value
  | flowMapping
  | flowMappingEnd
  | flowSequence
  | flowSequenceEnd
  | flowEntry
  | documentStart
  | documentEnd
  | scalar (plain : Bool) (text : String)
  deriving Repr, DecidableEq, Inhabited

/-- A place where a key may have begun, with the number of tokens before it. A required key must turn
    out to be one. -/
structure KeyStart where
  tokenCount : Nat
  required : Bool
  line : Nat
  column : Nat
  index : Nat
  deriving Inhabited

/-- The state of a scan. `indents` holds the open block collections' columns, innermost first; `starts`
    holds a possible key start for each level of brackets, innermost first. -/
structure Scanner where
  rest : List Char
  line : Nat := 0
  column : Nat := 0
  index : Nat := 0
  indents : List Nat := []
  starts : List (Option KeyStart) := [none]
  keyAllowed : Bool := true
  tokens : List Token := []
  deriving Inhabited

namespace Scanner

/-! ### Characters -/

def isBreak (c : Char) : Bool := c = '\n' || c = '\u0085' || c = '\u2028' || c = '\u2029'

def isGap (c : Char) : Bool := c = ' ' || c = '\t' || isBreak c

/-- A blank, a line break or the end of the text. -/
def endsWord : Option Char → Bool
  | none => true
  | some c => isGap c

def flowMarks : List Char := [',', '[', ']', '\x7b', '\x7d']

/-- Characters that no text of a document may hold are those outside this class. -/
def isAllowed (c : Char) : Bool :=
  let n := c.toNat
  n = 0x09 || n = 0x0A || n = 0x0D || 0x20 ≤ n && n ≤ 0x7E || n = 0x85 || 0xA0 ≤ n && n ≤ 0xFFFD ||
    0x10000 ≤ n

def peek (s : Scanner) (n : Nat) : Option Char := s.rest[n]?

/-- Inside brackets. -/
def inFlow (s : Scanner) : Bool := 1 < s.starts.length

/-- Passes one character. -/
def next (s : Scanner) : Scanner :=
  match s.rest with
  | [] => s
  | c :: rest =>
    if isBreak c then { s with rest, line := s.line + 1, column := 0, index := s.index + 1 }
    else { s with rest, column := s.column + 1, index := s.index + 1 }

/-- Passes a number of characters. -/
def skip (s : Scanner) : Nat → Scanner
  | 0 => s
  | n + 1 => s.next.skip n

theorem next_rest (s : Scanner) : s.next.rest = s.rest.tail := by
  unfold next
  split
  · simp_all
  · split <;> simp_all

/-- What a line break stands for: itself if it is a separator of lines or paragraphs, else a line feed. -/
def breakText (c : Char) : List Char := if c = '\u2028' || c = '\u2029' then [c] else ['\n']

/-- `---` or `...` as a word of its own stands at the front. -/
def atDocumentMark (s : Scanner) : Bool :=
  (s.rest.take 3 = ['-', '-', '-'] || s.rest.take 3 = ['.', '.', '.']) && endsWord (s.peek 3)

/-! ### Gaps between tokens -/

/-- Passes spaces, comments and line breaks. A line break allows a key to begin, except in brackets. -/
def skipGaps (s : Scanner) (inComment : Bool) : Scanner :=
  match h : s.rest with
  | [] => s
  | c :: _ =>
    have : s.next.rest.length < s.rest.length := by simp [next_rest, h]
    if isBreak c then skipGaps { s.next with keyAllowed := s.keyAllowed || !s.inFlow } false
    else if inComment || c = ' ' then skipGaps s.next inComment
    else if c = '#' then skipGaps s.next true
    else s
termination_by s.rest.length

/-! ### Block structure and keys -/

def emit (s : Scanner) (t : Token) : Scanner := { s with tokens := s.tokens ++ [t] }

/-- Closes the block collections that begin to the right of a column. In brackets layout is free. -/
def unwind (s : Scanner) (isInside : Nat → Bool) : Scanner :=
  if s.inFlow then s
  else
    let closed := s.indents.takeWhile isInside
    { s with
      indents := s.indents.dropWhile isInside
      tokens := s.tokens ++ closed.map fun _ => .blockEnd }

/-- A column is to the right of the innermost open block collection. -/
def isDeeper (s : Scanner) (column : Nat) : Bool :=
  match s.indents with
  | [] => true
  | indent :: _ => indent < column

/-- Inserts a token before the tokens from a count on. -/
def insertAt (s : Scanner) (count : Nat) (t : Token) : Scanner :=
  { s with tokens := s.tokens.take count ++ t :: s.tokens.drop count }

/-- Opens a block collection at a column if it is deeper than those open. -/
def openBlock (s : Scanner) (column count : Nat) (t : Token) : Scanner :=
  if s.isDeeper column then { s.insertAt count t with indents := column :: s.indents } else s

/-- Drops key starts that are left behind: keys stand on one line and are not long. A required one must
    not be dropped. -/
def dropStale (s : Scanner) : Option Scanner :=
  let isStale (k : KeyStart) := k.line ≠ s.line || 1024 < s.index - k.index
  if s.starts.any fun o => o.any fun k => isStale k && k.required then none
  else some { s with starts := s.starts.map fun o => o.filter fun k => !isStale k }

/-- Forgets the possible key start of the innermost level. -/
def forgetStart (s : Scanner) : Option Scanner :=
  match s.starts with
  | [] => none
  | start :: outer => if start.any (·.required) then none else some { s with starts := none :: outer }

/-- Notes that a key may begin here. In a block, a token at the indentation has to be one. -/
def noteStart (s : Scanner) : Option Scanner :=
  let required := !s.inFlow && s.indents.head? = some s.column
  if s.keyAllowed then do
    let s ← s.forgetStart
    let start := { tokenCount := s.tokens.length, required, line := s.line, column := s.column, index := s.index }
    return { s with starts := some start :: s.starts.drop 1 }
  else some s

/-! ### Scalars -/

/-- The characters at the front that belong to a word of a plain scalar. -/
def plainWord (inFlow : Bool) : List Char → List Char
  | [] => []
  | c :: rest =>
    let ends :=
      isGap c || c = ':' && (endsWord rest.head? || inFlow && rest.head?.any flowMarks.contains) ||
        inFlow && (c = '?' || flowMarks.contains c)
    if ends then [] else c :: plainWord inFlow rest

/-- Passes spaces and line breaks and collects the text of the breaks after the first; `none` in the
    first part if a document mark ends the scalar. -/
def foldBreaks (s : Scanner) (isBlank : Char → Bool) : Option (List Char) × Scanner :=
  match h : s.rest with
  | [] => (some [], s)
  | c :: _ =>
    have : s.next.rest.length < s.rest.length := by simp [next_rest, h]
    if isBreak c then
      if s.next.atDocumentMark then (none, s.next)
      else
        let (breaks, s') := foldBreaks s.next isBlank
        (breaks.map (breakText c ++ ·), s')
    else if isBlank c then foldBreaks s.next isBlank
    else (some [], s)
termination_by s.rest.length

/-- What the line breaks after `first` read as: one alone is a space, of more the first is dropped. -/
def foldedText (first : Char) (breaks : List Char) : List Char :=
  if breakText first ≠ ['\n'] then breakText first ++ breaks
  else if breaks.isEmpty then [' ']
  else breaks

/-- Passes the gap after a word of a plain scalar; its text is what joins the word to the next. -/
def plainGap (s : Scanner) : Option (List Char) × Scanner :=
  let spaces := s.rest.takeWhile (· = ' ')
  let s := s.skip spaces.length
  match s.rest with
  | c :: _ =>
    if isBreak c then
      let s := { s.next with keyAllowed := true }
      if s.atDocumentMark then (none, s)
      else
        let (breaks, s) := s.foldBreaks (· = ' ')
        (breaks.map (foldedText c), s)
    else if spaces.isEmpty then (none, s)
    else (some spaces, s)
  | [] => if spaces.isEmpty then (none, s) else (some spaces, s)

/-- The least column at which a scalar of the current block goes on. -/
def scalarIndent (s : Scanner) : Nat :=
  match s.indents with
  | [] => 0
  | indent :: _ => indent + 1

/-- Takes the words of a plain scalar; `joint` stands between the text so far and the next word. -/
def plainWords (s : Scanner) (text joint : List Char) : List Char × Scanner :=
  let word := if s.peek 0 = some '#' then [] else plainWord s.inFlow s.rest
  if word.isEmpty then (text, s)
  else
    let after := { s.skip word.length with keyAllowed := false }
    let text := text ++ joint ++ word
    match after.plainGap with
    | (none, s') => (text, s')
    | (some joint, s') =>
      if s'.peek 0 = some '#' || !s'.inFlow && s'.column < s'.scalarIndent then (text, s')
      else if s'.rest.length < s.rest.length then plainWords s' text joint
      else (text, s')
termination_by s.rest.length

/-- The character that an escape after a backslash stands for. -/
def escapes : List (Char × Char) := [
  ('0', '\x00'), ('a', '\x07'), ('b', '\x08'), ('t', '\t'), ('\t', '\t'), ('n', '\n'), ('v', '\x0b'),
  ('f', '\x0c'), ('r', '\r'), ('e', '\x1b'), (' ', ' '), ('"', '"'), ('\\', '\\'), ('/', '/'),
  ('N', '\u0085'), ('_', '\u00a0'), ('L', '\u2028'), ('P', '\u2029')]

/-- The number of hexadecimal digits after `x`, `u` and `U`. -/
def escapeLengths : List (Char × Nat) := [('x', 2), ('u', 4), ('U', 8)]

def hexValue (cs : List Char) : Nat :=
  cs.foldl (fun n c => 16 * n + (if c ≤ '9' then c.toNat - '0'.toNat else (c.toNat - 'A'.toNat) % 32 + 10)) 0

/-- Takes the rest of a quoted scalar up to its closing quote. -/
def quotedText (double : Bool) (s : Scanner) (text : List Char) : Option (List Char × Scanner) :=
  let goOn (s' : Scanner) (more : List Char) : Option (List Char × Scanner) :=
    if s'.rest.length < s.rest.length then quotedText double s' (text ++ more) else none
  match s.rest with
  | [] => none
  | '\'' :: rest =>
    if double then goOn s.next ['\'']
    else if rest.head? = some '\'' then goOn (s.skip 2) ['\'']
    else some (text, s.next)
  | '"' :: _ => if double then some (text, s.next) else goOn s.next ['"']
  | '\\' :: rest =>
    if double then
      match rest with
      | [] => none
      | c :: digits =>
        match escapes.lookup c, escapeLengths.lookup c with
        | some d, _ => goOn (s.skip 2) [d]
        | none, some n =>
          let code := digits.take n
          if code.length = n && code.all Text.isHexDigit && hexValue code < 0x110000 then
            goOn (s.skip (2 + n)) [Char.ofNat (hexValue code)]
          else none
        | none, none =>
          if isBreak c then
            let s' := s.skip 2
            if s'.atDocumentMark then none
            else
              match s'.foldBreaks fun c => c = ' ' || c = '\t' with
              | (some breaks, s') => goOn s' breaks
              | (none, _) => none
          else none
    else goOn s.next ['\\']
  | c :: _ =>
    if isGap c then
      let spaces := s.rest.takeWhile fun c => c = ' ' || c = '\t'
      let s' := s.skip spaces.length
      match s'.rest with
      | [] => none
      | b :: _ =>
        if isBreak b then
          if s'.next.atDocumentMark then none
          else
            match s'.next.foldBreaks fun c => c = ' ' || c = '\t' with
            | (some breaks, s') => goOn s' (foldedText b breaks)
            | (none, _) => none
        else goOn s' spaces
    else goOn s.next [c]
termination_by s.rest.length

/-! ### Tokens -/

/-- Passes a bracket that opens a collection. -/
def openFlow (s : Scanner) (t : Token) : Option Scanner := do
  let s ← s.noteStart
  return { s.next.emit t with starts := none :: s.starts, keyAllowed := true }

/-- Passes a bracket that closes a collection. -/
def closeFlow (s : Scanner) (t : Token) : Option Scanner := do
  let s ← s.forgetStart
  if !s.inFlow then failure
  return { s.next.emit t with starts := s.starts.drop 1, keyAllowed := false }

/-- Passes a mark that starts an entry or key of a block collection. -/
def blockMark (s : Scanner) (collection mark : Token) : Option Scanner := do
  if !s.inFlow && !s.keyAllowed then failure
  let s := if s.inFlow then s else s.openBlock s.column s.tokens.length collection
  let s ← s.forgetStart
  return s.next.emit mark

/-- Passes a colon before a value. The token at the last possible key start becomes a key. -/
def valueMark (s : Scanner) : Option Scanner :=
  match s.starts with
  | some start :: outer =>
    let s := { s with starts := none :: outer }
    let s := s.insertAt start.tokenCount .key
    let s := if s.inFlow then s else s.openBlock start.column start.tokenCount .blockMapping
    some { s.next.emit .value with keyAllowed := false }
  | _ => do
    if !s.inFlow && !s.keyAllowed then failure
    let s := if s.inFlow then s else s.openBlock s.column s.tokens.length .blockMapping
    let s ← s.forgetStart
    return { s.next.emit .value with keyAllowed := !s.inFlow }

/-- Passes a mark between documents. -/
def documentMark (s : Scanner) (t : Token) : Option Scanner := do
  let s ← (s.unwind fun _ => true).forgetStart
  return { (s.skip 3).emit t with keyAllowed := false }

def quotedScalar (s : Scanner) (double : Bool) : Option Scanner := do
  let s ← s.noteStart
  let (text, s) ← quotedText double s.next []
  return { s.emit (.scalar false (String.ofList text)) with keyAllowed := false }

def plainScalar (s : Scanner) : Option Scanner := do
  let s ← s.noteStart
  let (text, s) := plainWords { s with keyAllowed := false } [] []
  return s.emit (.scalar true (String.ofList text))

/-- Characters that begin no plain scalar. -/
def indicators : List Char :=
  ['-', '?', ':', ',', '[', ']', '\x7b', '\x7d', '#', '&', '*', '!', '|', '>', '\'', '"', '%', '@', '\x60']

/-- A plain scalar begins with the character `c`. -/
def startsPlain (s : Scanner) (c : Char) : Bool :=
  !isGap c && (!indicators.contains c ||
    !endsWord (s.peek 1) && (c = '-' || !s.inFlow && (c = '?' || c = ':')))

/-- Takes the token that begins with `c` at the front. -/
def takeToken (s : Scanner) (c : Char) : Option Scanner :=
  if s.column = 0 && s.atDocumentMark then s.documentMark (if c = '-' then .documentStart else .documentEnd)
  else if s.column = 0 && c = '%' then none
  else if c = '[' then s.openFlow .flowSequence
  else if c = '\x7b' then s.openFlow .flowMapping
  else if c = ']' then s.closeFlow .flowSequenceEnd
  else if c = '\x7d' then s.closeFlow .flowMappingEnd
  else if c = ',' then do
    let s ← s.forgetStart
    return { s.next.emit .flowEntry with keyAllowed := true }
  else if c = '-' && endsWord (s.peek 1) then
    (s.blockMark .blockSequence .blockEntry).map fun s => { s with keyAllowed := true }
  else if c = '?' && (s.inFlow || endsWord (s.peek 1)) then
    (s.blockMark .blockMapping .key).map fun s => { s with keyAllowed := !s.inFlow }
  else if c = ':' && (s.inFlow || endsWord (s.peek 1)) then s.valueMark
  else if c = '\'' then s.quotedScalar false
  else if c = '"' then s.quotedScalar true
  else if s.startsPlain c then s.plainScalar
  else none

/-- Takes all tokens; `none` if the text is malformed. -/
def run (s : Scanner) : Option (List Token) :=
  match (s.skipGaps false).dropStale with
  | none => none
  | some s' =>
    match s'.rest with
    | [] => ((s'.unwind fun _ => true).forgetStart).map (·.tokens)
    | c :: _ =>
      match (s'.unwind fun indent => s'.column < indent).takeToken c with
      | none => none
      | some s'' => if s''.rest.length < s.rest.length then run s'' else none
termination_by s.rest.length

end Scanner

/-- The tokens of a text whose line ends are unified; `none` if it is malformed. A byte order mark at its
    start is passed over. -/
def tokens? (text : String) : Option (List Token) :=
  let chars := text.toList
  if chars.all Scanner.isAllowed then
    Scanner.run { rest := if chars.head? = some '\ufeff' then chars.drop 1 else chars }
  else none

end SceneScript.CommandLine.Yaml
