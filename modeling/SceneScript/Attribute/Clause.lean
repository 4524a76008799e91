import SceneScript.Attribute.Value
import SceneScript.Color
import SceneScript.Cursor
import SceneScript.Relation
import SceneScript.Text.Case

/-!
Attribute clauses. A clause is the tokens between two `AND`s; the first rule that its leading tokens
satisfy says what it sets, and a clause that satisfies none sets nothing. A rule looks at the clause
alone, never at the attributes set before.
-/

namespace SceneScript.Clause

/-- What a clause sets: a whole attribute, or one field of a record attribute. -/
inductive Assignment where
  | attribute (key : String) (v : Value)
  | field (group key : String) (v : Value)

def Assignment.apply (attributes : Attributes) : Assignment → Attributes
  | .attribute key v => Assoc.set attributes key v
  | .field group key v => attributes.setField group key v

/-- A rule on the tokens of a clause and the text they come from. -/
abbrev Rule := String → List Token → Except Fault (Option Assignment)

def clothingItems : List String := ["SHIRT", "DRESS", "PANTS", "SKIRT"]

def appearanceItems : List String := ["HAIR", "EYES"]

def emotions : List String := ["HAPPY", "SAD", "ANGRY", "SURPRISED", "NEUTRAL", "EXCITED"]

def outfits : List String :=
  ["BUSINESS_SUIT", "CASUAL_WEAR", "FORMAL_ATTIRE", "UNIFORM", "SPORTSWEAR", "PROFESSIONAL_ATTIRE"]

def heights : List String := ["TALL", "SHORT"]

def hairstyles : List String := ["CURLY", "LONG", "SHORT", "STRAIGHT"]

def features : List String := ["BEARD", "GLASSES", "FRECKLES"]

def skinTones : List String := ["LIGHT", "MEDIUM", "DARK", "OLIVE", "PALE", "TAN"]

def negations : List String := ["WITHOUT", "NO"]

/-- Words that never stand for a color. -/
def neverColors : List String := negations ++ ["BARE"]

/-- The lower case of a word, by which its value is known. -/
def lowerWord (t : Token) : Value := .text (Text.lower t.wordText)

/-- The word of `first` that the clause begins with when one of `second` follows it. -/
def pair? (first second : List String) : List Token → Option Token
  | a :: b :: _ => if a.isWord first && b.isWord second then some a else none
  | _ => none

/-- `AGE 30`: a number that is not negative, cut to an integer. -/
def age : Rule
  | _, a :: { form := .number n, .. } :: _ =>
    if a.isWord ["AGE"] && !n.isNegative then
      match n.truncate? with
      | some k => .ok (some (.attribute "age" (.number (.int k))))
      | none => .error .infiniteAge
    else .ok none
  | _, _ => .ok none

/-- `SIZE LARGE` or `SIZE 5`: the spelling in lower case. -/
def size : Rule
  | _, a :: b :: _ =>
    .ok <| if a.isWord ["SIZE"] && (b.kind = .word || b.kind = .number) then
        some (.attribute "size" (.text (Text.lower b.lexeme)))
      else none
  | _, _ => .ok none

/-- The token may stand for a color in front of the item. -/
def mayColor (color item : Token) : Bool :=
  match color.form with
  | .word w => !neverColors.contains w && !(item.isWord ["HAIR"] && hairstyles.contains w)
  | .hexColor => true
  | _ => false

/-- The record that an item of clothing or appearance belongs to. -/
def groupOf? (item : Token) : Option String :=
  if item.isWord clothingItems then some "clothing"
  else if item.isWord appearanceItems then some "appearance"
  else none

/-- `RED SHIRT` or `#00ff00 PANTS`: the color of an item. A word that is no known color is kept. -/
def colorItem : Rule
  | _, color :: item :: _ =>
    .ok <| if mayColor color item then
        (groupOf? item).map fun group =>
          .field group (Text.lower item.wordText) (.text (Color.normalize color.lexeme))
      else none
  | _, _ => .ok none

/-- `HAPPY FACE` -/
def emotion : Rule := fun _ tokens =>
  .ok ((pair? emotions ["FACE"] tokens).map fun t => .attribute "emotion" (lowerWord t))

/-- The tokens up to the parenthesis that closes the open ones; `none` if it is missing. -/
def takeClosed (depth : Nat) : List Token → Option (List Token)
  | [] => none
  | t :: rest =>
    match t.kind with
    | .leftParen => (takeClosed (depth + 1) rest).map (t :: ·)
    | .rightParen =>
      match depth with
      | 0 => some []
      | depth + 1 => (takeClosed depth rest).map (t :: ·)
    | _ => (takeClosed depth rest).map (t :: ·)

/-- The value of a parameter: a lone number or string as such, all else as written, with color names
    replaced. -/
def parameterValue (source : String) (tokens : List Token) : Value :=
  match tokens with
  | [{ form := .number n, .. }] => .number n
  | [{ form := .string s, .. }] => .text s
  | _ =>
    let written := Token.textOf source tokens
    .text (if Color.isColor written then Color.normalize written else written)

/-- `KEY: value` as a field; other tokens are skipped. -/
def parameter? (source : String) : List Token → Option (String × Value)
  | key :: colon :: t :: rest =>
    if key.kind = .word && colon.kind = .colon then
      some (Text.lower key.lexeme, parameterValue source (t :: rest))
    else none
  | _ => none

/-- `HAIR(COLOR: BROWN, STYLE: SHORT)`: a record of the parameters that are well formed. -/
def parameterized : Rule
  | source, name :: paren :: rest =>
    .ok <| if name.kind = .word && paren.kind = .leftParen then
        match takeClosed 0 rest with
        | some (t :: inner) =>
          let parameters := (Token.splitGroups Token.isComma (t :: inner)).filterMap (parameter? source)
          some (.attribute (Text.lower name.lexeme) (.record (Assoc.ofPairs parameters)))
        | _ => none
      else none
  | _, _ => .ok none

/-- `BUSINESS_SUIT`: the words of the outfit apart. -/
def outfit : Rule
  | _, t :: _ =>
    .ok <| if t.isWord outfits then
        some (.attribute "outfit" (.text ((Text.lower t.wordText).map fun c => if c = '_' then ' ' else c)))
      else none
  | _, [] => .ok none

/-- `TALL HEIGHT` -/
def height : Rule := fun _ tokens =>
  .ok ((pair? heights ["HEIGHT"] tokens).map fun t => .attribute "height" (lowerWord t))

/-- `CURLY HAIR` -/
def hairstyle : Rule := fun _ tokens =>
  .ok ((pair? hairstyles ["HAIR"] tokens).map fun t => .field "appearance" "hairstyle" (lowerWord t))

/-- `BEARD`, `GLASSES`, `FRECKLES` -/
def feature : Rule
  | _, t :: _ => .ok (if t.isWord features then some (.attribute (Text.lower t.wordText) .flag) else none)
  | _, [] => .ok none

/-- `OLIVE SKIN` -/
def skin : Rule := fun _ tokens =>
  .ok ((pair? skinTones ["SKIN"] tokens).map fun t => .field "appearance" "skin" (lowerWord t))

/-- `WITHOUT SHIRT`, `NO GLASSES` -/
def negation : Rule
  | _, no :: item :: _ =>
    .ok <| if no.isWord negations && item.kind = .word then
        some (.attribute ("no_" ++ Text.lower item.wordText) .flag)
      else none
  | _, _ => .ok none

/-- `BARE TORSO` -/
def bareTorso : Rule := fun _ tokens =>
  .ok ((pair? ["BARE"] ["TORSO"] tokens).map fun _ => .attribute "no_shirt" .flag)

/-- The rules in the order in which they are tried. -/
def rules : List Rule :=
  [age, size, colorItem, emotion, parameterized, outfit, height, hairstyle, feature, skin, negation, bareTorso]

/-- What the first rule that the clause satisfies sets. -/
def firstMatch : List Rule → Rule
  | [], _, _ => .ok none
  | rule :: rules, source, tokens =>
    match rule source tokens with
    | .ok none => firstMatch rules source tokens
    | found => found

/-- What a clause sets, if it satisfies any rule. -/
def assignment? : Rule := firstMatch rules

/-- The clauses of an attribute section, empty ones left out. -/
def ofTokens (tokens : List Token) : List (List Token) :=
  (Token.splitGroups Token.isAnd (tokens.filter (·.kind ≠ .endOfStatement))).filter (!·.isEmpty)

/-- The attributes after one clause. -/
def applyTo (source : String) (attributes : Attributes) (clause : List Token) : Except Fault Attributes :=
  (assignment? source clause).map fun
    | some a => a.apply attributes
    | none => attributes

end SceneScript.Clause

namespace SceneScript

/-- The attributes after all clauses of an attribute section, in order. -/
def Attributes.readInto (source : String) (attributes : Attributes) (tokens : List Token) :
    Except Fault Attributes :=
  (Clause.ofTokens tokens).foldlM (Clause.applyTo source) attributes

/-- The attributes that a section sets by itself. -/
def Attributes.read (source : String) (tokens : List Token) : Except Fault Attributes :=
  Attributes.readInto source [] tokens

end SceneScript
