import SceneScript.Number

/-!
Events of a parse, in the order in which they happen, as a verbose run reports them.
-/

namespace SceneScript

inductive Event where
  | catalogLoaded (name path : String)
  | statementBegun (line : Int) (keyword : String)
  | statementRefused (line : Int) (message : String)
  | entityDrawn (id keyword category subtype : String)
  | entityUpdated (id : String) (keys : List String)
  | entityPlaced (id relation target : String) (x y z : Number)
  deriving Repr, Inhabited

/-- The line a verbose run writes for an event: level, channel and message. -/
def Event.text : Event → String
  | catalogLoaded name path => "INFO sigl.vocabulary: loaded vocabulary catalog " ++ name ++ " from " ++ path
  | statementBegun line keyword => "DEBUG sigl.parser: line " ++ toString line ++ ": " ++ keyword
  | statementRefused line message => "DEBUG sigl.parser: line " ++ toString line ++ ": " ++ message
  | entityDrawn id keyword category subtype =>
    "DEBUG sigl.parser: " ++ id ++ ": " ++ keyword ++ " " ++ category ++ "/" ++ subtype
  | entityUpdated id keys => "DEBUG sigl.parser: " ++ id ++ " updated: " ++ ", ".intercalate keys
  | entityPlaced id relation target x y z =>
    "DEBUG sigl.resolver: " ++ id ++ " " ++ relation ++ " " ++ target ++ " -> (" ++ x.text ++ ", " ++ y.text ++
      ", " ++ z.text ++ ")"

end SceneScript
