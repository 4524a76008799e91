import SceneScript.Text.CaseTable
import SceneScript.Text.Character

/-!
Upper and lower case of whole texts: a letter may become several characters, and a capital sigma is
lowered by its place in the word.
-/

namespace SceneScript.Text

/-- The code point that a table of case rows gives for `n`; `n` itself if no row holds it. -/
def shiftBy (rows : List (Nat × Nat × Nat × Int)) (n : Nat) : Nat :=
  match rows.find? fun (first, last, step, _) => first ≤ n && n ≤ last && (n - first) % step == 0 with
  | some (_, _, _, shift) => (n + shift).toNat
  | none => n

/-- One character through an expansion table and a row table. -/
def mapCase (expansions : List (Nat × List Nat)) (rows : List (Nat × Nat × Nat × Int)) (c : Char) : List Char :=
  match expansions.lookup c.toNat with
  | some codes => codes.map Char.ofNat
  | none => [Char.ofNat (shiftBy rows c.toNat)]

def upperChar (c : Char) : List Char :=
  if c.toNat < 0x80 then [c.toUpper] else mapCase upperExpansions upperRows c

/-- The lower case of a character regardless of its neighbours. -/
def lowerChar (c : Char) : List Char :=
  if c.toNat < 0x80 then [c.toLower] else mapCase lowerExpansions lowerRows c

/-- A neighbouring letter in the given direction, with case-ignorable characters looked through. -/
def meetsCased (neighbours : List Char) : Bool :=
  match neighbours.dropWhile fun c => inRanges caseIgnorableRanges c.toNat with
  | c :: _ => inRanges casedRanges c.toNat
  | [] => false

/-- Lowers `rest`, where `before` holds the characters already passed, the last one first. A capital
    sigma that ends a word becomes the final form. -/
def lowerFrom (before : List Char) : List Char → List Char
  | [] => []
  | c :: rest =>
    (if c = 'Σ' then [if meetsCased before && !meetsCased rest then 'ς' else 'σ'] else lowerChar c) ++
      lowerFrom (c :: before) rest

/-- The text in upper case. -/
def upper (s : String) : String := String.ofList (s.toList.flatMap upperChar)

/-- The text in lower case. -/
def lower (s : String) : String := String.ofList (lowerFrom [] s.toList)

end SceneScript.Text
