import SceneScript.File.Path
import SceneScript.Text.Quoted

/-!
Files and directories by their absolute paths.
-/

namespace SceneScript

inductive FileNode where
  | file (text : String)
  | directory
  deriving Repr, Inhabited, DecidableEq

/-- Directories and files, with the directory that relative paths are seen from. Paths in `nodes` are
    absolute and have no double dots. -/
structure FileTree where
  cwd : Path := { anchor := some "" }
  nodes : List (Path × FileNode) := []
  deriving Inhabited

namespace FileTree

/-- What is stored at an absolute path. Roots and the current directory are always there. -/
def node? (t : FileTree) (p : Path) : Option FileNode :=
  if p = t.cwd || p.parts.isEmpty then some .directory else t.nodes.lookup p

/-- Follows parts from an absolute directory; double dots lead back to the directory above. -/
def follow (t : FileTree) (place : Path) : List String → Option Path
  | [] => if (t.node? place).isSome then some place else none
  | part :: rest =>
    if t.node? place ≠ some .directory then none
    else if part = ".." then place.parent?.bind fun above => follow t above rest
    else follow t (place.join { parts := [part] }) rest

/-- The absolute path that a path leads to, if something is there. The directories of an absolute path
    that lies outside the current one are not looked at. -/
def locate? (t : FileTree) (p : Path) : Option Path :=
  let whole := t.cwd.join p
  if whole.anchor = t.cwd.anchor && t.cwd.parts.isPrefixOf whole.parts then
    t.follow t.cwd (whole.parts.drop t.cwd.parts.length)
  else if (t.node? whole.normalize).isSome then some whole.normalize
  else none

/-- What a path leads to. -/
def get? (t : FileTree) (p : Path) : Option FileNode := (t.locate? p).bind t.node?

def contains (t : FileTree) (p : Path) : Bool := (t.locate? p).isSome

def isDirectory (t : FileTree) (p : Path) : Bool := t.get? p = some .directory

/-- The tree with the node at an absolute path. -/
def put (t : FileTree) (p : Path) (n : FileNode) : FileTree :=
  { t with nodes := t.nodes.filter (·.1 ≠ p) ++ [(p, n)] }

/-- The tree with the directories above an absolute path. -/
def putParents (t : FileTree) (p : Path) : FileTree :=
  (List.range p.parts.length).foldl
    (fun t n =>
      let above := { p with parts := p.parts.take n }
      if (t.node? above).isSome then t else t.put above .directory)
    t

/-- The tree with a node at a path and the directories above it. -/
def add (t : FileTree) (p : Path) (n : FileNode) : FileTree :=
  let whole := (t.cwd.join p).normalize
  (t.putParents whole).put whole n

/-- The tree without a path and all that it holds. -/
def remove (t : FileTree) (p : Path) : FileTree :=
  let whole := (t.cwd.join p).normalize
  { t with nodes := t.nodes.filter fun (q, _) => !(q.anchor = whole.anchor && whole.parts.isPrefixOf q.parts) }

/-- The names in a directory. -/
def children (t : FileTree) (p : Path) : List String :=
  match t.locate? p with
  | none => []
  | some whole =>
    (t.nodes.filter fun (q, _) => q.parts.length = whole.parts.length + 1 && q.parent? = some whole).map (·.1.name)

/-- The text with every line end as one line feed. -/
def unifyBreaks : List Char → List Char
  | '\r' :: '\n' :: rest => '\n' :: unifyBreaks rest
  | '\r' :: rest => '\n' :: unifyBreaks rest
  | c :: rest => c :: unifyBreaks rest
  | [] => []

end FileTree

/-- Why a file cannot be read or written. -/
inductive FileError where
  | missing (path : Path)
  | isDirectory (path : Path)
  deriving Repr, DecidableEq

def FileError.message : FileError → String
  | missing path => "[Errno 2] No such file or directory: " ++ Text.Quoted.encode path.text
  | isDirectory path => "[Errno 21] Is a directory: " ++ Text.Quoted.encode path.text

namespace FileTree

/-- The text of a file with unified line ends. -/
def read (t : FileTree) (p : Path) : Except FileError String :=
  match t.get? p with
  | none => .error (.missing p)
  | some .directory => .error (.isDirectory p)
  | some (.file text) => .ok (String.ofList (unifyBreaks text.toList))

/-- Writes a file; its directory has to be there. -/
def write (t : FileTree) (p : Path) (text : String) : Except FileError FileTree :=
  if t.isDirectory p then .error (.isDirectory p)
  else
    match t.locate? p with
    | some whole => .ok (t.put whole (.file text))
    | none =>
      match p.parent?.bind t.locate? with
      | some above =>
        if p.name ≠ "" && t.node? above = some .directory then
          .ok (t.put (above.join { parts := [p.name] }) (.file text))
        else .error (.missing p)
      | none => .error (.missing p)

end FileTree

end SceneScript
