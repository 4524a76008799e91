import SceneScript.Data
import SceneScript.Text.Quoted

/-!
JSON values and their indented text. The members of an object keep their order, and all but printable
ASCII is escaped.
-/

namespace SceneScript

inductive Json where
  | null
  | bool (b : Bool)
  | number (n : Number)
  | string (s : String)
  | array (items : List Json)
  | object (members : List (String × Json))
  deriving Inhabited

namespace Json

/-- Four hexadecimal digits after `\u`. -/
def unicodeEscape (n : Nat) : String := "\\u" ++ Text.Quoted.hex 4 n

/-- One character inside a string. Beyond U+FFFF it is written as a pair of surrogates. -/
def escape (c : Char) : String :=
  if c = '"' then "\\\""
  else if c = '\\' then "\\\\"
  else if c = '\n' then "\\n"
  else if c = '\r' then "\\r"
  else if c = '\t' then "\\t"
  else if c = '\x08' then "\\b"
  else if c = '\x0c' then "\\f"
  else if 0x20 ≤ c.toNat && c.toNat < 0x7F then c.toString
  else if c.toNat < 0x10000 then unicodeEscape c.toNat
  else
    let n := c.toNat - 0x10000
    unicodeEscape (0xD800 + n / 0x400) ++ unicodeEscape (0xDC00 + n % 0x400)

def quote (s : String) : String := "\"" ++ String.join (s.toList.map escape) ++ "\""

/-- Numbers as elsewhere, but infinite and undefined floats by their names. -/
def numberText : Number → String
  | .int n => toString n
  | .float x =>
    match Decimal.Parts.of x with
    | .undefined => "NaN"
    | .infinite negative => if negative then "-Infinity" else "Infinity"
    | .finite .. => (Number.float x).text

/-- A new line indented to a depth, two spaces each. -/
def newline (depth : Nat) : String := "\n" ++ String.ofList (List.replicate (2 * depth) ' ')

/-- Parts between brackets, each on a line of its own; empty brackets stay together. -/
def bracketed (opening closing : String) (depth : Nat) (parts : List String) : String :=
  if parts.isEmpty then opening ++ closing
  else
    opening ++ newline (depth + 1) ++ ("," ++ newline (depth + 1)).intercalate parts ++ newline depth ++ closing

mutual
/-- The text of a value at a depth of nesting. -/
def renderAt (depth : Nat) : Json → String
  | .null => "null"
  | .bool b => if b then "true" else "false"
  | .number n => numberText n
  | .string s => quote s
  | .array items => bracketed "[" "]" depth (renderItems (depth + 1) items)
  | .object members => bracketed "\x7b" "\x7d" depth (renderMembers (depth + 1) members)

def renderItems (depth : Nat) : List Json → List String
  | [] => []
  | v :: rest => renderAt depth v :: renderItems depth rest

def renderMembers (depth : Nat) : List (String × Json) → List String
  | [] => []
  | (k, v) :: rest => (quote k ++ ": " ++ renderAt depth v) :: renderMembers depth rest
end

/-- The indented text of a value. -/
def render (v : Json) : String := renderAt 0 v

/-- A key of data as the name of a member. -/
def memberName : Key → String
  | none => "null"
  | some (.bool b) => if b then "true" else "false"
  | some (.number n) => numberText n
  | some (.text s) => s

mutual
/-- Plain data as JSON. There is no JSON for values of other kinds; their texts stand in their place. -/
def ofData : Data → Json
  | .null => .null
  | .scalar (.bool b) => .bool b
  | .scalar (.number n) => .number n
  | .scalar (.text s) => .string s
  | .list items => .array (ofItems items)
  | .mapping entries => .object (ofEntries entries)
  | .foreign v => .string v.text

def ofItems : List Data → List Json
  | [] => []
  | d :: rest => ofData d :: ofItems rest

def ofEntries : List (Option Scalar × Data) → List (String × Json)
  | [] => []
  | (k, d) :: rest => (memberName k, ofData d) :: ofEntries rest
end

mutual
/-- The kind of the first value in data that there is no JSON for. -/
def unwritable? : Data → Option String
  | .null | .scalar _ => none
  | .list items => unwritableAmong? items
  | .mapping entries => unwritableIn? entries
  | .foreign v => some v.kind

def unwritableAmong? : List Data → Option String
  | [] => none
  | d :: rest => (unwritable? d).or (unwritableAmong? rest)

def unwritableIn? : List (Option Scalar × Data) → Option String
  | [] => none
  | (_, d) :: rest => (unwritable? d).or (unwritableIn? rest)
end

def int (n : Int) : Json := .number (.int n)

/-- A value if there is one, else null. -/
def ofOption (f : α → Json) : Option α → Json
  | none => .null
  | some v => f v

end Json

end SceneScript
