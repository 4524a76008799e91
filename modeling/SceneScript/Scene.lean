import SceneScript.Attribute.Value
import SceneScript.Json
import SceneScript.Position

/-!
Scenes: entities in the order in which they were drawn, an environment and metadata. A frozen scene
takes no further entities, and no key of its entities' attributes can be set.
-/

namespace SceneScript

structure Entity where
  id : String
  category : String
  subtype : String
  attributes : Attributes := []
  position : Position := {}
  keyword : String := ""
  deriving Inhabited

structure Environment where
  type : String := "default"
  background : Data.Entries := [(some (.text "type"), .text "solid"), (some (.text "color"), .text "#ffffff")]
  lighting : Data.Entries := [(some (.text "ambient"), .number (.float 0.8))]
  deriving Inhabited

/-- The quality of an export: a named level or an amount. -/
inductive Quality where
  | level (name : String)
  | amount (n : Number)
  deriving Inhabited

structure ExportOptions where
  format : String := "png"
  quality : Option Quality := some (.level "medium")
  width : Option Int := none
  height : Option Int := none
  density : Option Int := none
  deriving Inhabited

structure Metadata where
  author : String := ""
  version : String := "1.0.0"
  extensions : List String := []
  exportOptions : Option ExportOptions := none
  deriving Inhabited

structure Scene where
  entities : List Entity := []
  environment : Environment := {}
  metadata : Metadata := {}
  frozen : Bool := false
  deriving Inhabited

namespace ExportOptions

/-- Width and height, if both are set. -/
def resolution (o : ExportOptions) : Option (Int × Int) := do return (← o.width, ← o.height)

end ExportOptions

namespace Scene

def add (s : Scene) (e : Entity) : Except Fault Scene :=
  if s.frozen then .error .sceneFrozen else .ok { s with entities := s.entities ++ [e] }

/-- The first entity with an id. -/
def find? (s : Scene) (id : String) : Option Entity := s.entities.find? (·.id == id)

/-- Changes the first of the entities that satisfies `p`. -/
def updateFirst (p : Entity → Bool) (f : Entity → Entity) : List Entity → List Entity
  | [] => []
  | e :: rest => if p e then f e :: rest else e :: updateFirst p f rest

/-- The place of the first entity with an id, past the last entity if there is none. -/
def place (s : Scene) (id : String) : Nat := s.entities.findIdx (·.id == id)

/-- Changes the entity at a place. -/
def updateAt (s : Scene) (i : Nat) (f : Entity → Entity) : Scene := { s with entities := s.entities.modify i f }

/-- Sets an attribute of the entity at a place. -/
def setAttributeAt (s : Scene) (i : Nat) (key : String) (v : Value) : Except Fault Scene :=
  if s.frozen then .error .attributesFrozen
  else .ok (s.updateAt i fun e => { e with attributes := Assoc.set e.attributes key v })

/-- Sets an attribute of the first entity with an id. -/
def setAttribute (s : Scene) (id key : String) (v : Value) : Except Fault Scene :=
  s.setAttributeAt (s.place id) key v

/-- The attribute of the entity at a place is a record. -/
def hasRecordAt (s : Scene) (i : Nat) (name : String) : Bool :=
  match s.entities[i]?.bind fun e => Assoc.get? e.attributes name with
  | some (.record _) => true
  | _ => false

/-- Sets a field of a record attribute of the entity at a place. In a frozen scene only a record that is
    there already can be written to. -/
def setFieldAt (s : Scene) (i : Nat) (name key : String) (v : Value) : Except Fault Scene :=
  if s.frozen && !s.hasRecordAt i name then .error .attributesFrozen
  else .ok (s.updateAt i fun e => { e with attributes := e.attributes.setField name key v })

/-- Sets a field of a record attribute of the first entity with an id. -/
def setField (s : Scene) (id name key : String) (v : Value) : Except Fault Scene :=
  s.setFieldAt (s.place id) name key v

/-- Moves the first entity with an id. -/
def move (s : Scene) (id : String) (p : Position) : Scene :=
  s.updateAt (s.place id) fun e => { e with position := p }

def freeze (s : Scene) : Scene := { s with frozen := true }

end Scene

/-! ### JSON -/

namespace Position

def toJson (p : Position) : Json :=
  let number (n : Number) := Json.number n
  let optional (name : String) (n : Option Number) := n.toList.map fun n => (name, number n)
  let relation :=
    if p.isResolved then []
    else
      [("relative", Json.ofOption (fun r => .string r.name) p.relative),
        ("relativeTo", Json.ofOption .string p.relativeTo)] ++ optional "distance" p.distance
  .object ([("x", number p.x), ("y", number p.y), ("z", number p.z)] ++
    optional "rotation" p.rotation ++ optional "scale" p.scale ++ relation)

end Position

namespace Entity

def members (e : Entity) : List (String × Json) :=
  [("id", .string e.id), ("category", .string e.category), ("subtype", .string e.subtype),
    ("attributes", .ofData e.attributes.toData), ("position", e.position.toJson)]

def toJson (e : Entity) : Json := .object e.members

end Entity

namespace Environment

def toJson (e : Environment) : Json :=
  .object [("type", .string e.type), ("background", .ofData (.mapping e.background)),
    ("lighting", .ofData (.mapping e.lighting))]

/-- The kind of the first value that there is no JSON for. Only environments hold such values. -/
def unwritable? (e : Environment) : Option String :=
  (Json.unwritable? (.mapping e.background)).or (Json.unwritable? (.mapping e.lighting))

end Environment

namespace ExportOptions

def resolutionJson (o : ExportOptions) : Option Json :=
  o.resolution.map fun (w, h) => .object [("width", .int w), ("height", .int h)]

def qualityJson : Quality → Json
  | .level name => .string name
  | .amount n => .number n

def toJson (o : ExportOptions) : Json :=
  .object ([("format", .string o.format), ("quality", .ofOption qualityJson o.quality)] ++
    o.resolutionJson.toList.map (("resolution", ·)) ++ o.density.toList.map fun n => ("dpi", .int n))

end ExportOptions

namespace Metadata

def toJson (m : Metadata) : Json :=
  .object ([("author", .string m.author), ("version", .string m.version),
    ("extensions", .array (m.extensions.map .string))] ++
    m.exportOptions.toList.map fun o => ("exportOptions", o.toJson))

end Metadata

namespace Scene

/-- The camera of every scene. -/
def cameraJson : Json :=
  .object [("position", .array [.int 0, .int 0, .int 5]), ("target", .array [.int 0, .int 0, .int 0]),
    ("fov", .int 45)]

/-- The scene with its entities given as JSON by `entity`. -/
def toJsonWith (entity : Entity → Json) (s : Scene) : Json :=
  .object [("type", .string "scene"), ("entities", .array (s.entities.map entity)),
    ("environment", s.environment.toJson), ("camera", cameraJson), ("metadata", s.metadata.toJson)]

def toJson (s : Scene) : Json := s.toJsonWith Entity.toJson

end Scene

end SceneScript
