import SceneScript.Data
import SceneScript.Text.Case

/-!
Catalogs: named collections of entity and environment definitions with default attributes, as read from
plain data.
-/

namespace SceneScript

/-- A keyword that can be drawn and what it stands for. Definitions of the core have no extension. -/
structure EntityDefinition where
  keyword : String
  category : String
  subtype : String
  extension : Option String := none
  deriving Repr, DecidableEq, Inhabited

/-- A named environment with its background and lighting. -/
structure EnvironmentDefinition where
  name : String
  background : Data.Entries := []
  lighting : Data.Entries := []
  extension : Option String := none
  deriving Inhabited

/-- Why data is no catalog. -/
inductive CatalogError where
  | nameless
  | notAMapping
  | unknownCategory (catalog keyword category : String)
  | noSubtype
  | notPairs
  | unevenPair (index size : Nat)
  deriving Repr, DecidableEq

def CatalogError.message : CatalogError → String
  | nameless => "catalog is missing its 'name'"
  | notAMapping => "entry is not a mapping"
  | unknownCategory catalog keyword category =>
    "catalog '" ++ catalog ++ "': entity " ++ keyword ++ " has unknown category '" ++ category ++ "'"
  | noSubtype => "'subtype'"
  | notPairs => "entries are not pairs"
  | unevenPair index size =>
    "dictionary update sequence element #" ++ toString index ++ " has length " ++ toString size ++
      "; 2 is required"

/-- The catalog that every lookup sees. -/
def coreName : String := "core"

def categories : List String := ["human", "object", "prop"]

/-- A catalog: definitions by upper-case keyword and by lower-case name, default attributes by subtype,
    and attributes for subtypes without any. -/
structure Catalog where
  name : String
  entities : List (String × EntityDefinition) := []
  environments : List (String × EnvironmentDefinition) := []
  defaults : List (String × Data.Entries) := []
  fallback : Data.Entries := []
  deriving Inhabited

namespace Catalog

/-- The entries of a mapping. -/
def entriesOf : Data → Except CatalogError Data.Entries
  | .mapping entries => .ok entries
  | _ => .error .notAMapping

/-- The entries of a section, none if it is left out or blank. -/
def sectionOf (entries : Data.Entries) (name : String) : Except CatalogError Data.Entries :=
  match entries.field? name with
  | none => .ok []
  | some d => if d.isBlank then .ok [] else entriesOf d

/-- An entry of a mapping, if the key is data that can be one. -/
def keyed (k v : Data) : Except CatalogError (Key × Data) :=
  match k with
  | .null => .ok (none, v)
  | .scalar s => .ok (some s, v)
  | .foreign f => if f.isKey then .ok (some (.text f.text), v) else .error .notPairs
  | _ => .error .notPairs

/-- The pair that data is made of; `index` is its place among pairs. -/
def pairOf (index : Nat) (d : Data) : Except CatalogError (Key × Data) :=
  match d.items? with
  | none => .error .notPairs
  | some [k, v] => keyed k v
  | some items => .error (.unevenPair index items.length)

def pairsFrom (index : Nat) : List Data → Except CatalogError Data.Entries
  | [] => .ok []
  | d :: rest => do
    let pair ← pairOf index d
    let pairs ← pairsFrom (index + 1) rest
    return pair :: pairs

/-- The entries of a record: of a mapping, or of the pairs that other data is gone through by. Blank data has
    none. -/
def recordOf (d : Data) : Except CatalogError Data.Entries :=
  if d.isBlank then .ok []
  else
    match d with
    | .mapping entries => .ok entries
    | d =>
      match d.items? with
      | some items => (pairsFrom 0 items).map Assoc.ofPairs
      | none => .error .notPairs

/-- The record under a name, none if it is left out. -/
def recordIn (entries : Data.Entries) (name : String) : Except CatalogError Data.Entries :=
  recordOf ((entries.field? name).getD .null)

/-- The name of a catalog in lower case; it must not be empty. -/
def nameOf (entries : Data.Entries) : Except CatalogError String :=
  let name := Text.lower (((entries.field? "name").map Data.toText).getD "")
  if name.isEmpty then .error .nameless else .ok name

/-- The extension that a catalog of this name stands for. -/
def extensionOf (name : String) : Option String := if name = coreName then none else some name

def entityOf (catalog : String) (key : Key) (d : Data) : Except CatalogError EntityDefinition := do
  let entry ← entriesOf d
  let category := ((entry.field? "category").map Data.toText).getD "human"
  let named := match entry.field? "category" with
    | none | some (.scalar (.text _)) => true
    | _ => false
  if !(named && categories.contains category) then
    throw (.unknownCategory catalog key.toText category)
  match entry.field? "subtype" with
  | none => throw .noSubtype
  | some subtype =>
    return { keyword := Text.upper key.toText, category, subtype := subtype.toText,
             extension := extensionOf catalog }

def environmentOf (catalog : String) (key : Key) (d : Data) : Except CatalogError EnvironmentDefinition := do
  let entry ← entriesOf d
  return { name := Text.lower key.toText, background := ← recordIn entry "background",
           lighting := ← recordIn entry "lighting", extension := extensionOf catalog }

/-- Reads the definitions and default attributes of a catalog of the given name. -/
def ofEntries (name : String) (entries : Data.Entries) : Except CatalogError Catalog := do
  let entities ← (← sectionOf entries "entities").mapM fun (k, d) => entityOf name k d
  let environments ← (← sectionOf entries "environments").mapM fun (k, d) => environmentOf name k d
  let defaults ← (← sectionOf entries "defaults").mapM fun (k, d) => return (Key.toText k, ← recordOf d)
  return { name, entities := Assoc.ofPairs (entities.map fun e => (e.keyword, e)),
           environments := Assoc.ofPairs (environments.map fun e => (e.name, e)),
           defaults := defaults.foldl (fun m p => Assoc.add m p.1 p.2) [] }

end Catalog

end SceneScript
