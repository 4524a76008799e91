import SceneScript.Text.Blank

/-!
Paths of files. The name of the root that an absolute path starts from comes before its first slash; it
is empty for the root of the file system.
-/

namespace SceneScript

structure Path where
  anchor : Option String := none
  parts : List String := []
  deriving Repr, DecidableEq, Inhabited

namespace Path

/-- Reads a path. Empty parts and single dots count for nothing; double dots are kept. -/
def ofString (s : String) : Path :=
  let parts := (Text.splitAt '/' s.toList).map String.ofList
  { anchor := if s.startsWith "/" then some "" else none
    parts := parts.filter fun part => part ≠ "" && part ≠ "." }

/-- The path as it is written; a relative path without parts is a dot. -/
def text (p : Path) : String :=
  match p.anchor with
  | none => if p.parts.isEmpty then "." else "/".intercalate p.parts
  | some "" => "/" ++ "/".intercalate p.parts
  | some name => "/".intercalate (name :: p.parts)

/-- The last part. -/
def name (p : Path) : String := p.parts.getLast?.getD ""

/-- A name without what follows its last dot, unless the dot is its first or last character. -/
def stemOf (name : String) : String :=
  let chars := name.toList
  let ending := chars.reverse.takeWhile (· ≠ '.')
  let stem := chars.take (chars.length - ending.length - 1)
  if ending.isEmpty || ending.length = chars.length || stem.isEmpty then name else String.ofList stem

def stem (p : Path) : String := stemOf p.name

/-- The path of `q` as seen from the directory `p`. -/
def join (p q : Path) : Path :=
  match q.anchor with
  | some _ => q
  | none => { p with parts := p.parts ++ q.parts }

/-- The directory that a path leads back to: the one that holds it. The root of the file system holds
    itself; what holds another root is not known. -/
def parent? (p : Path) : Option Path :=
  if p.parts.isEmpty && p.anchor ≠ some "" then none else some { p with parts := p.parts.dropLast }

/-- The path one part further. Double dots take back the part before them, if it is known. -/
def step (p : Path) (part : String) : Path :=
  let further := { p with parts := p.parts ++ [part] }
  if part = ".." && p.parts.getLast? ≠ some ".." then p.parent?.getD further else further

/-- The path without the double dots that take back a part. -/
def normalize (p : Path) : Path := p.parts.foldl step { p with parts := [] }

end Path

end SceneScript
