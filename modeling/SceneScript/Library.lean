import SceneScript.Event
import SceneScript.Library.Shelf
import SceneScript.Vocabulary

/-!
The library of catalogs. Of each name, the first shelf that has it is read, with a given reader of YAML.
The shelves and the vocabulary are looked up once and kept until they are forgotten.
-/

namespace SceneScript

/-- A search path, with the shelves and the vocabulary found on it once they were needed. -/
structure Library where
  searchPath : SearchPath
  shelves : Option (List Shelf) := none
  vocabulary : Option Vocabulary := none
  deriving Inhabited

namespace Library

section
variable (yaml : Yaml.Reader)

/-! ### Reading shelves -/

/-- The names of all catalogs on shelves, each once. -/
def stems (t : FileTree) (shelves : List Shelf) : List String := (shelves.flatMap (·.stems t)).eraseDups

/-- Reads the catalog of a name from the first shelf that has it. -/
def readFirst (t : FileTree) (shelves : List Shelf) (name : String) : Except LoadError Data.Entries :=
  (shelves.findSome? (·.read? yaml t name)).getD (.error (.notFound name (shelves.map (·.path))))

/-- Reads every catalog on shelves; the core has to be among them. -/
def readAll (t : FileTree) (shelves : List Shelf) : Except LoadError (List Data.Entries) :=
  let names := stems t shelves
  if names.contains coreName then names.mapM (readFirst yaml t shelves)
  else .error (.coreMissing (shelves.map (·.path)))

/-- Reads the catalog at a path. -/
def readAt (t : FileTree) (path : Path) : Except LoadError Data.Entries :=
  if t.contains path then Catalog.readFile yaml t path else .error (.customMissing path)

/-- The event of a catalog that was read. -/
def noted (entries : Data.Entries) : Event :=
  let shown (name : String) := ((entries.field? name).getD .null).toText
  .catalogLoaded (shown "name") (shown "_source_path")

/-- The vocabulary of all catalogs on shelves. Once all are read each is an event, even if they make no
    vocabulary. -/
def build (t : FileTree) (shelves : List Shelf) : List Event × Except LoadError Vocabulary :=
  match readAll yaml t shelves with
  | .error e => ([], .error e)
  | .ok catalogs =>
    (catalogs.map noted, (Vocabulary.ofData (catalogs.map .mapping)).mapError .catalog)

/-! ### What is kept -/

/-- The shelves, and the library that keeps them. -/
def shelve (l : Library) (t : FileTree) : Library × Except LoadError (List Shelf) :=
  match l.shelves with
  | some shelves => (l, .ok shelves)
  | none =>
    match l.searchPath.shelves t with
    | .ok shelves => ({ l with shelves := some shelves }, .ok shelves)
    | .error e => (l, .error e)

/-- Reads the catalog of a name. -/
def catalog (l : Library) (t : FileTree) (name : String) : Library × Except LoadError Data.Entries :=
  let (l, shelves) := l.shelve t
  (l, do readFirst yaml t (← shelves) name)

/-- The vocabulary of all catalogs, with the events of reading them. A failure is not kept. -/
def load (l : Library) (t : FileTree) : Library × List Event × Except LoadError Vocabulary :=
  match l.vocabulary with
  | some v => (l, [], .ok v)
  | none =>
    match l.shelve t with
    | (l, .error e) => (l, [], .error e)
    | (l, .ok shelves) =>
      match build yaml t shelves with
      | (events, .ok v) => ({ l with vocabulary := some v }, events, .ok v)
      | (events, .error e) => (l, events, .error e)

end

/-- The library with nothing kept. -/
def forget (l : Library) : Library := { searchPath := l.searchPath }

end Library

end SceneScript
