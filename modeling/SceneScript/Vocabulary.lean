import SceneScript.Attribute.Value
import SceneScript.Catalog
import SceneScript.Catalog.Bundled

/-!
The vocabulary that statements are read with: catalogs in order, the core among them. A lookup takes the
extensions loaded so far; a strict one sees no others.
-/

namespace SceneScript

/-- Catalogs of distinct names. -/
structure Vocabulary where
  catalogs : List Catalog := []
  deriving Inhabited

namespace Vocabulary

/-! ### Building -/

/-- The vocabulary with one more catalog. One of a name already taken is passed over; of the fallback
    attributes, the first that are not empty count. -/
def add (v : Vocabulary) (entries : Data.Entries) : Except CatalogError Vocabulary := do
  let name ← Catalog.nameOf entries
  if v.catalogs.any (·.name == name) then return v
  let catalog ← Catalog.ofEntries name entries
  let fallback ←
    if v.catalogs.any (!·.fallback.isEmpty) then pure []
    else Catalog.recordIn entries "fallback_defaults"
  return { catalogs := v.catalogs ++ [{ catalog with fallback }] }

/-- The catalog is named as the core, in just this spelling. -/
def isCore (entries : Data.Entries) : Bool :=
  match entries.field? "name" with
  | some (.scalar (.text name)) => name == coreName
  | _ => false

/-- The vocabulary of catalogs given as data, the core before the others. -/
def ofData (catalogs : List Data) : Except CatalogError Vocabulary := do
  let catalogs ← catalogs.mapM Catalog.entriesOf
  (catalogs.filter isCore ++ catalogs.filter (!isCore ·)).foldlM add {}

/-! ### Lookup -/

def core (v : Vocabulary) : List Catalog := v.catalogs.filter (·.name == coreName)

/-- The catalogs of extensions. -/
def extensions (v : Vocabulary) : List Catalog := v.catalogs.filter (·.name != coreName)

def extensionNames (v : Vocabulary) : List String := v.extensions.map (·.name)

/-- The catalog is among the loaded extensions, whatever their case. -/
def isLoaded (loaded : List String) (c : Catalog) : Bool := (loaded.map Text.lower).contains c.name

/-- Extensions that are loaded. -/
def active (v : Vocabulary) (loaded : List String) : List Catalog := v.extensions.filter (isLoaded loaded)

/-- Extensions that are not loaded; none in strict mode. -/
def inactive (v : Vocabulary) (loaded : List String) (strict : Bool) : List Catalog :=
  if strict then [] else v.extensions.filter (!isLoaded loaded ·)

/-- The definition of a keyword. The core comes first, then loaded extensions. -/
def entity? (v : Vocabulary) (keyword : String) (loaded : List String) (strict : Bool) :
    Option EntityDefinition :=
  (v.core ++ v.active loaded ++ v.inactive loaded strict).findSome? fun c =>
    Assoc.get? c.entities (Text.upper keyword)

/-- The environment of a name. Loaded extensions come first, then the core. -/
def environment? (v : Vocabulary) (name : String) (loaded : List String) (strict : Bool) :
    Option EnvironmentDefinition :=
  (v.active loaded ++ v.core ++ v.inactive loaded strict).findSome? fun c =>
    Assoc.get? c.environments (Text.lower name)

/-- The first fallback attributes that are not empty. -/
def fallback (v : Vocabulary) : Data.Entries :=
  ((v.catalogs.map (·.fallback)).find? (!·.isEmpty)).getD []

/-- The default attributes of a subtype, from the first catalog that has any. -/
def defaultsFor (v : Vocabulary) (subtype : String) : Data.Entries :=
  (v.catalogs.findSome? fun c => Assoc.get? c.defaults subtype).getD v.fallback

/-- The catalogs to list: one of them by name, or all. -/
def listed (v : Vocabulary) : Option String → List Catalog
  | none => v.catalogs
  | some name => v.catalogs.filter (·.name == Text.lower name)

def entityTypes (v : Vocabulary) (catalog : Option String) : List EntityDefinition :=
  (v.listed catalog).flatMap fun c => c.entities.map Prod.snd

def environments (v : Vocabulary) (catalog : Option String) : List EnvironmentDefinition :=
  (v.listed catalog).flatMap fun c => c.environments.map Prod.snd

end Vocabulary

/-- What a keyword stands for. Unknown keywords stand for a person and are not recognized. -/
structure EntityType where
  keyword : String
  category : String
  subtype : String
  recognized : Bool := true
  deriving Repr, DecidableEq, Inhabited

namespace Vocabulary

def animalPrefix : String := "ANIMAL_"

/-- The kind of animal in a keyword such as `ANIMAL_DOG`. -/
def animalKind? (keyword : String) : Option String :=
  let chars := keyword.toList
  let lead := animalPrefix.toList
  if lead.isPrefixOf chars && lead.length < chars.length then
    some (Text.lower (String.ofList (chars.drop lead.length)))
  else none

/-- What a keyword in any case stands for. Animals need no definition. -/
def typeOf (v : Vocabulary) (keyword : String) (loaded : List String) (strict : Bool) : EntityType :=
  let keyword := Text.upper keyword
  match animalKind? keyword with
  | some kind => { keyword, category := "object", subtype := "animal_" ++ kind }
  | none =>
    match v.entity? keyword loaded strict with
    | some d => { keyword, category := d.category, subtype := d.subtype }
    | none => { keyword, category := "human", subtype := "person", recognized := false }

/-- The default attributes of a subtype as attribute values. -/
def attributesFor (v : Vocabulary) (subtype : String) : Except Fault Attributes :=
  Attributes.ofEntries (v.defaultsFor subtype)

/-- The vocabulary in use when no catalogs are given: that of the catalogs that come with the program. -/
def bundled : Vocabulary :=
  match ofData (Catalog.Bundled.all.map Prod.snd) with
  | .ok v => v
  | .error _ => {}

end Vocabulary

end SceneScript
