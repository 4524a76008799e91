import SceneScript.Catalog.Bundled
import SceneScript.Library.Error

/-!
The places where catalogs are looked for: directories of catalog files, and last the catalogs that come
with the program.
-/

namespace SceneScript

/-! ### Catalog files -/

namespace Catalog

/-- The ending of the name of a catalog file. -/
def fileEnding : String := ".yaml"

/-- The version of a catalog file is a text, and it begins with `1.`. -/
def isSupported : Data → Bool
  | .scalar (.text version) => version.startsWith "1."
  | _ => false

/-- The entries of a catalog file: those it holds, its name if it has none, and its path. -/
def entriesAt (path : Path) (d : Data) : Except LoadError Data.Entries :=
  match d with
  | .mapping entries =>
    let field? (name : String) : Option Data := Data.Entries.field? entries name
    let version := (field? "schema_version").getD (.text "1.0")
    if !isSupported version then .error (.wrongVersion version path)
    else if (field? "entities").isNone && (field? "environments").isNone then .error (.noDefinitions path)
    else
      let named := Assoc.add entries (some (.text "name")) (.text path.stem)
      .ok (Assoc.set named (some (.text "_source_path")) (.text path.text))
  | _ => .error (.noMapping path)

/-- Reads the catalog file at a path. -/
def readFile (yaml : Yaml.Reader) (t : FileTree) (path : Path) : Except LoadError Data.Entries := do
  let text ← (t.read path).mapError .file
  entriesAt path (← (yaml text).mapError .yaml)

end Catalog

/-! ### Shelves -/

/-- A directory of catalog files, or the bundled catalogs under the path by which they are shown. -/
inductive Shelf where
  | directory (path : Path)
  | bundled (path : Path)
  deriving Repr, DecidableEq, Inhabited

namespace Shelf

def path : Shelf → Path
  | directory path => path
  | bundled path => path

/-- The names of the catalog files on a shelf in ascending order. -/
def fileNames (t : FileTree) : Shelf → List String
  | directory path => Text.sorted ((t.children path).filter (·.endsWith Catalog.fileEnding))
  | bundled _ => Catalog.Bundled.all.map (·.1 ++ Catalog.fileEnding)

/-- The names by which the catalogs of a shelf are asked for. -/
def stems (t : FileTree) (s : Shelf) : List String := (s.fileNames t).map Path.stemOf

/-- The path of the file for the catalog of a name. -/
def pathOf (s : Shelf) (name : String) : Path := s.path.join (Path.ofString (name ++ Catalog.fileEnding))

/-- The bundled catalog whose file would stand at a path. -/
def bundledAt? (shown path : Path) : Option Data :=
  (Catalog.Bundled.all.find? fun c => (bundled shown).pathOf c.1 = path).map Prod.snd

/-- Reads the catalog of a name if the shelf has a file for it. -/
def read? (yaml : Yaml.Reader) (t : FileTree) (s : Shelf) (name : String) : Option (Except LoadError Data.Entries) :=
  let path := s.pathOf name
  match s with
  | directory _ => if t.contains path then some (Catalog.readFile yaml t path) else none
  | bundled shown => (bundledAt? shown path).map (Catalog.entriesAt path)

end Shelf

/-! ### The search path -/

/-- Where to look for catalogs: directories separated by colons, the home directory of the user, and the
    path by which the bundled catalogs are shown. -/
structure SearchPath where
  directories : Option String := none
  home : Path
  bundled : Path
  deriving Inhabited

namespace SearchPath

/-- A path with the tilde at its front replaced by the home directory. Homes of other users are not
    known. -/
def expand (s : SearchPath) (p : Path) : Except LoadError Path :=
  match p.anchor, p.parts with
  | none, first :: rest =>
    if first = "~" then .ok (s.home.join { parts := rest })
    else if first.startsWith "~" then .error .homeUnknown
    else .ok p
  | _, _ => .ok p

/-- The directories named one after the other, as absolute paths. -/
def named (s : SearchPath) (cwd : Path) : Except LoadError (List Path) :=
  let texts := (Text.splitAt ':' (s.directories.getD "").toList).map fun cs => String.ofList (Text.trimChars cs)
  (texts.filter (· ≠ "")).mapM fun text => do
    return (cwd.join (← s.expand (Path.ofString text))).normalize

/-- The directory for catalogs of the user's own. -/
def configured (s : SearchPath) : Path := s.home.join (Path.ofString ".config/sigl/vocabulary")

/-- The shelves in the order in which they are searched; directories that are not there are left out. -/
def shelves (s : SearchPath) (t : FileTree) : Except LoadError (List Shelf) := do
  let directories := (← s.named t.cwd) ++ [s.configured]
  return (directories.filter t.isDirectory).map .directory ++ [.bundled s.bundled]

end SearchPath

end SceneScript
