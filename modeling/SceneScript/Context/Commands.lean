import SceneScript.Command.Reading
import SceneScript.Context.State

/-!
Carrying out a command in one go, once its statement is read: what handlers do to the context, told apart from
what they ask of the text.
-/

namespace SceneScript.Context

/-- Loads an extension; one without a catalog is loaded too, with a warning. -/
def load (c : Context) (source : String) (name : Token) : Context :=
  let extension := Text.lower name.lexeme
  let c := c.loadExtension extension
  if c.vocabulary.extensionNames.contains extension then c
  else c.warn ((Warning.unknownExtension extension).diagnostic name.span (some source))

/-- Sets the environment. An unknown one only changes the type. -/
def setEnvironment (c : Context) (name : Token) : Context :=
  let type := Text.lower name.lexeme
  let environment := { c.scene.environment with type }
  let environment := match c.vocabulary.environment? type c.extensions c.strict with
    | some preset => applyPreset environment preset
    | none => environment
  { c with scene.environment := environment }

/-- Draws an entity with the default attributes of its subtype and those that the clauses set. -/
def draw (c : Context) (s : Statement) (keyword : String) (clauses : List Token) (placed : Position.Placed) :
    Except Fault Context := do
  let type := c.typeOf keyword
  let defaults ← c.vocabulary.attributesFor type.subtype
  let stated ← Attributes.read s.text clauses
  let entity : Entity := {
    id := c.nextId, category := type.category, subtype := type.subtype, keyword := type.keyword,
    attributes := Assoc.merge defaults stated, position := placed.position }
  let scene ← c.scene.add entity
  return { c with
    scene
    diagnostics := c.diagnostics ++ placed.warning.toList
    sources := Assoc.set c.sources entity.id s
    drawn := c.drawn + 1
    events := c.events ++ [.entityDrawn entity.id keyword entity.category entity.subtype] }

/-- Sets attributes of the first entity that the reference names; without one, only warns. -/
def update (c : Context) (s : Statement) (reference : Token) (clauses : List Token) : Except Fault Context :=
  match c.scene.entities.find? (c.refersTo reference) with
  | none => .ok (c.warn ((Warning.noSuchEntity reference.lexeme).diagnostic reference.span (some s.text)))
  | some e => do
    let stated ← Attributes.read s.text clauses
    let entities := Scene.updateFirst (c.refersTo reference)
      (fun e => { e with attributes := Assoc.merge e.attributes stated }) c.scene.entities
    return { c with
      scene.entities := entities
      events := c.events ++ [.entityUpdated e.id (Assoc.keys stated)] }

/-- Carries out a command that the statement states. -/
def carryOut (c : Context) (s : Statement) : Command → Except Fault Context
  | .load name => .ok (c.load s.text name)
  | .environment name => .ok (c.setEnvironment name)
  | .draw keyword clauses placed => c.draw s keyword clauses placed
  | .update reference clauses => c.update s reference clauses
  | .exportAs options => .ok { c with scene.metadata.exportOptions := some options }

/-- The context after the warnings and the opening of a statement are noted. -/
def begin (c : Context) (s : Statement) (r : Reading) : Context :=
  { c with
    diagnostics := c.diagnostics ++ r.warnings
    events := c.events ++ r.opening.toList.map fun o => .statementBegun s.line o.word }

end SceneScript.Context
