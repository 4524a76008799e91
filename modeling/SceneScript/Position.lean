import SceneScript.Relation

/-!
Positions on the canvas.
-/

namespace SceneScript

/-- The coordinate of entities that are placed nowhere else. -/
def canvasCenter : Number × Number × Number := (400, 300, 0)

/-- A coordinate with optional rotation and scale. A position is pending while it names a relation or a
    target; its coordinate then only stands in. -/
structure Position where
  x : Number := 400
  y : Number := 300
  z : Number := 0
  rotation : Option Number := none
  scale : Option Number := none
  relative : Option Relation := none
  relativeTo : Option String := none
  distance : Option Number := none
  deriving Inhabited

namespace Position

/-- An absolute position. -/
def absolute (x y z : Number) : Position := { x, y, z }

/-- Neither a relation nor a target is pending. -/
def isResolved (p : Position) : Bool := p.relative.isNone && p.relativeTo.isNone

/-- The position moved to a coordinate, with nothing pending. -/
def settleAt (p : Position) (x y z : Number) : Position :=
  { p with x, y, z, relative := none, relativeTo := none, distance := none }

/-- The named places of the canvas. -/
def named : List (String × Int × Int × Int) := [
  ("LEFT", 150, 300, 0), ("RIGHT", 650, 300, 0), ("CENTER", 400, 300, 0), ("TOP", 400, 100, 0),
  ("BOTTOM", 400, 500, 0), ("TOP_LEFT", 150, 100, 0), ("TOP_RIGHT", 650, 100, 0),
  ("BOTTOM_LEFT", 150, 500, 0), ("BOTTOM_RIGHT", 650, 500, 0), ("FAR_LEFT", 50, 300, 0),
  ("FAR_RIGHT", 750, 300, 0), ("CENTER_LEFT", 200, 300, 0), ("CENTER_RIGHT", 600, 300, 0),
  ("UPPER", 400, 150, 0), ("MIDDLE", 400, 300, 0), ("LOWER", 400, 450, 0),
  ("FOREGROUND", 400, 300, 100), ("BACKGROUND", 400, 300, -100)]

/-- The position of a named place. -/
def ofName? (name : String) : Option Position :=
  (named.lookup name).map fun (x, y, z) => absolute (.int x) (.int y) (.int z)

/-- The middle of a grid cell: cells are 150 wide and high, the first is at (100, 100). -/
def ofGrid (row column : Number) : Position :=
  absolute ((column.scale 150).shift 100) ((row.scale 150).shift 100) 0

/-- A position in a relation to a target that is still to be found. -/
def pending (r : Relation) (target : String) (distance : Option Number) : Position :=
  let (x, y, z) := r.standIn distance
  { x, y, z, relative := some r, relativeTo := some target, distance }

end Position

end SceneScript
