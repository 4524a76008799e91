import SceneScript.Command
import SceneScript.Text.Case

/-!
The options of `EXPORT`: `RESOLUTION`, `QUALITY` and `DPI` with a value each, in any order and number, a
later one overriding an earlier. Words that name no option are warned about and passed over with their
value.
-/

namespace SceneScript.Command.Export

def formats : List String := ["PNG", "JPEG", "WEBP", "SVG", "PDF", "GIF"]

/-- Named resolutions. -/
def resolutions : List (String × Int × Int) :=
  [("THUMBNAIL", 150, 150), ("HD", 1920, 1080), ("FULL_HD", 1920, 1080), ("4K", 3840, 2160)]

def qualityLevels : List String := ["LOW", "MEDIUM", "HIGH", "ULTRA"]

def optionWords : List String := ["RESOLUTION", "QUALITY", "DPI"]

/-- Words that stand between options. -/
def joiners : List String := ["WITH", "AND"]

/-- What the tokens of one statement are read against: its text and its closing token. -/
structure Frame where
  source : String
  last : Token

/-- The token at the front, or the closing token. -/
def Frame.front (f : Frame) (tokens : List Token) : Token := tokens.head?.getD f.last

def Frame.refuse (f : Frame) (rejection : String → Rejection) (t : Token) : Except Refusal α :=
  .error ⟨rejection t.describe, t.span, some f.source⟩

/-- The size that a token states. -/
def resolution? (t : Token) : Option (Int × Int) :=
  match t.form with
  | .dimension w h => some (w, h)
  | .word w => resolutions.lookup w
  | _ => none

/-- The quality that a token states: a level or an integer. -/
def quality? (t : Token) : Option Quality :=
  match t.form with
  | .word w => if qualityLevels.contains w then some (.level (Text.lower w)) else none
  | .number (.int n) => some (.amount (.int n))
  | _ => none

/-- The density that a token states: a positive integer. -/
def density? (t : Token) : Option Int :=
  match t.form with
  | .number (.int n) => if 0 < n then some n else none
  | _ => none

/-- The options after a known option word and its value. -/
def setOption (f : Frame) (word : String) (value : Token) (options : ExportOptions) :
    Except Refusal ExportOptions :=
  if word = "RESOLUTION" then
    match resolution? value with
    | some (w, h) => .ok { options with width := some w, height := some h }
    | none => f.refuse .exportResolution value
  else if word = "QUALITY" then
    match quality? value with
    | some q => .ok { options with quality := some q }
    | none => f.refuse .exportQuality value
  else
    match density? value with
    | some n => .ok { options with density := some n }
    | none => f.refuse .exportDensity value

/-- An option begins at the front of the tokens, or nothing that could be a value stands there. -/
def startsOption : List Token → Bool
  | [] => true
  | t :: rest =>
    t.kind = .comma || t.isWord (joiners ++ optionWords) ||
      t.kind = .word && (rest.head?.map (·.kind == .colon)).getD false

/-- The tokens after a colon, and whether there was one. -/
def dropColon : List Token → Bool × List Token
  | [] => (false, [])
  | t :: rest => if t.kind = .colon then (true, rest) else (false, t :: rest)

theorem dropColon_length_le (tokens : List Token) : (dropColon tokens).2.length ≤ tokens.length := by
  unfold dropColon
  split
  · simp
  · split <;> simp

/-- The tokens after the value of an unknown option. Without a colon it may be a flag with no value. -/
def dropValue (hasColon : Bool) (tokens : List Token) : List Token :=
  if !hasColon && startsOption tokens then tokens else tokens.drop 1

theorem dropValue_length_le (hasColon : Bool) (tokens : List Token) :
    (dropValue hasColon tokens).length ≤ tokens.length := by
  unfold dropValue
  split <;> simp

/-- Reads the options that `tokens` hold, with the warnings in order. -/
def readOptions (f : Frame) (options : ExportOptions) (tokens : List Token) :
    List Diagnostic × Except Refusal ExportOptions :=
  match tokens with
  | [] => ([], .ok options)
  | t :: rest =>
    if t.isWord joiners || t.kind = .comma then readOptions f options rest
    else if t.kind ≠ .word then ([], f.refuse .exportUnexpected t)
    else
      match h : dropColon rest with
      | (hasColon, rest') =>
        have : rest'.length ≤ rest.length := by
          have := dropColon_length_le rest
          rwa [h] at this
        if t.isWord optionWords then
          match setOption f t.wordText (f.front rest') options with
          | .error r => ([], .error r)
          | .ok options => readOptions f options (rest'.drop 1)
        else
          have := dropValue_length_le hasColon rest'
          let warning := (Warning.unknownOption t.lexeme).diagnostic t.span (some f.source)
          let (warnings, result) := readOptions f options (dropValue hasColon rest')
          (warning :: warnings, result)
termination_by tokens.length
decreasing_by all_goals simp_all; try omega

/-- Reads what follows `EXPORT`. -/
def read (source : String) (c : Cursor) : List Diagnostic × Except Refusal Command :=
  let f : Frame := ⟨source, c.last⟩
  match c.matchWord ["AS"] with
  | (none, c) => ([], f.refuse .exportWithoutAs c.current)
  | (some _, c) =>
    match c.matchWord formats with
    | (none, c) => ([], f.refuse .exportWithoutFormat c.current)
    | (some format, c) =>
      let (warnings, result) := readOptions f { format := Text.lower format.wordText } c.rest
      (warnings, result.map .exportAs)

end SceneScript.Command.Export
