import SceneScript.Text.Character

/-!
Cutting texts at blanks and at single characters, filling them up with spaces, and putting them in order.
-/

namespace SceneScript.Text

/-- The characters after the leading blanks. -/
def dropBlanks (cs : List Char) : List Char := cs.dropWhile isBlank

/-- The characters without the blanks at either end. -/
def trimChars (cs : List Char) : List Char := (dropBlanks (dropBlanks cs).reverse).reverse

/-- The text without the blanks at either end. -/
def trim (s : String) : String := String.ofList (trimChars s.toList)

/-- The pieces between the occurrences of `mark`, empty ones kept; at least one piece. -/
def splitAt (mark : Char) : List Char → List (List Char)
  | [] => [[]]
  | c :: rest =>
    match splitAt mark rest with
    | [] => [[c]]
    | piece :: pieces => if c = mark then [] :: piece :: pieces else (c :: piece) :: pieces

/-- The maximal runs of characters that are no blanks. -/
def wordsOf : List Char → List (List Char)
  | [] => []
  | c :: rest =>
    if isBlank c then wordsOf rest
    else
      match rest, wordsOf rest with
      | d :: _, word :: words => if isBlank d then [c] :: word :: words else (c :: word) :: words
      | _, words => [c] :: words

/-- The words of a text, joined by `glue`. -/
def joinWords (glue : String) (s : String) : String :=
  glue.intercalate ((wordsOf s.toList).map String.ofList)

/-- The slice of a text from one character offset up to another. -/
def slice (s : String) (start stop : Nat) : String :=
  String.ofList ((s.toList.take stop).drop start)

/-- `text` after enough spaces to fill `width` columns. -/
def padLeft (width : Nat) (text : String) : String :=
  String.ofList (List.replicate (width - text.length) ' ') ++ text

/-- `text` before enough spaces to fill `width` columns. -/
def padRight (width : Nat) (text : String) : String :=
  text ++ String.ofList (List.replicate (width - text.length) ' ')

/-- The texts in ascending order of code points, equal ones kept in theirs. -/
def sorted (texts : List String) : List String := texts.mergeSort fun a b => !decide (b < a)

theorem splitAt_ne_nil (mark : Char) (cs : List Char) : splitAt mark cs ≠ [] := by
  cases cs with
  | nil => simp [splitAt]
  | cons c rest =>
    simp only [splitAt]
    split
    · simp
    · split <;> simp

end SceneScript.Text
