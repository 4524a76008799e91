import SceneScript.Attribute.Clause
import SceneScript.Command
import SceneScript.Event
import SceneScript.Statement
import SceneScript.Vocabulary

/-!
What statements are handled in: the scene so far and what is known of it.
-/

namespace SceneScript

/-- What statements are read into: the vocabulary and mode that stay, and the scene, diagnostics and
    events that grow. `extensions` are those loaded so far, `sources` holds the statement that drew each
    entity, by id, and `drawn` counts the ids given out. -/
structure Context where
  vocabulary : Vocabulary
  strict : Bool := false
  scene : Scene := {}
  diagnostics : List Diagnostic := []
  extensions : List String := []
  sources : List (String × Statement) := []
  drawn : Nat := 0
  events : List Event := []
  deriving Inhabited

namespace Context

def warn (c : Context) (d : Diagnostic) : Context := { c with diagnostics := c.diagnostics ++ [d] }

def note (c : Context) (e : Event) : Context := { c with events := c.events ++ [e] }

/-- What a keyword stands for with the extensions loaded now. -/
def typeOf (c : Context) (keyword : String) : EntityType :=
  c.vocabulary.typeOf keyword c.extensions c.strict

/-- The id of the entity that is drawn next. -/
def nextId (c : Context) : String := "entity_" ++ toString (c.drawn + 1)

/-- Marks an extension as loaded, here and in the metadata of the scene. -/
def loadExtension (c : Context) (name : String) : Context :=
  if c.extensions.contains name then c
  else { c with
    extensions := c.extensions ++ [name]
    scene.metadata.extensions := c.scene.metadata.extensions ++ [name] }

/-- The reference of an `UPDATE` names the entity: by its id or subtype, by a recognized keyword of its
    subtype, or by the keyword it was drawn with. -/
def refersTo (c : Context) (reference : Token) (e : Entity) : Bool :=
  let type := c.typeOf reference.wordText
  e.id == reference.lexeme || e.subtype == Text.lower reference.lexeme ||
    type.recognized && e.subtype == type.subtype || e.keyword == reference.wordText

/-- The environment under a preset: its background if it has one, and its lighting on top of the old. -/
def applyPreset (e : Environment) (preset : EnvironmentDefinition) : Environment :=
  { e with
    background := if preset.background.isEmpty then e.background else preset.background
    lighting := Assoc.merge e.lighting preset.lighting }

end Context

end SceneScript
