import SceneScript.Event
import SceneScript.Refusal
import SceneScript.Scene
import SceneScript.Statement
import SceneScript.Text.Case

/-!
Resolution of relative positions. Entities are settled in the order in which they were drawn, each once:
at its target's position of that moment plus the offset of the relation, or at the canvas center if the
target is not found. What names mean is fixed before the first is settled.
-/

namespace SceneScript

/-- The places in the entity list by the names that refer to them, in upper case. -/
abbrev NameTable := List (String × Nat)

namespace NameTable

/-- Words for the first entity of a subtype. -/
def aliases : List (String × String) :=
  [("MAN", "adult_male"), ("WOMAN", "adult_female"), ("BOY", "child_male"), ("GIRL", "child_female")]

/-- Ids name their entity. -/
def idNames (entities : List Entity) : List (String × Nat) :=
  entities.zipIdx.map fun (e, i) => (Text.upper e.id, i)

/-- An alias names the first entity of its subtype. -/
def aliasNames (entities : List Entity) : List (String × Nat) :=
  aliases.filterMap fun (word, subtype) => (entities.findIdx? (·.subtype == subtype)).map (word, ·)

/-- A keyword that is not empty and a subtype name their entity. -/
def kindNames (entities : List Entity) : List (String × Nat) :=
  entities.zipIdx.flatMap fun (e, i) =>
    (if e.keyword.isEmpty then [] else [(Text.upper e.keyword, i)]) ++ [(Text.upper e.subtype, i)]

/-- All names. Of several meanings of a name the first counts: ids before aliases before keywords and
    subtypes, earlier entities before later ones. -/
def ofEntities (entities : List Entity) : NameTable :=
  (idNames entities ++ aliasNames entities ++ kindNames entities).foldl (fun t p => Assoc.add t p.1 p.2) []

/-- The names under which a target text is sought: trimmed in upper case, then with underscores between
    its words. -/
def candidates (target : String) : List String :=
  let name := Text.upper (Text.trim target)
  [name, Text.joinWords "_" name]

/-- The place of the entity that a target text names. -/
def find? (table : NameTable) (target : String) : Option Nat :=
  (candidates target).findSome? (Assoc.get? table)

end NameTable

/-- A scene's entities while they are settled, with the warnings and events so far and how many targets
    were found. -/
structure Resolution where
  entities : List Entity
  found : Nat := 0
  warnings : List Diagnostic := []
  events : List Event := []
  deriving Inhabited

namespace Resolution

/-- The warning for an entity whose target is not found, at the statement that drew it if one is known. -/
def unresolved (sources : List (String × Statement)) (e : Entity) : Diagnostic :=
  let warning := Warning.unresolvedTarget e.id (e.position.relativeTo.getD "None")
  match Assoc.get? sources e.id with
  | some s => warning.diagnostic s.span (some s.text)
  | none => warning.diagnostic (.ofLine 0 "" none) none

/-- The position of `e` in its relation to a target. -/
def beside (target e : Position) (r : Relation) : Position :=
  let (dx, dy, dz) := r.offset
  e.settleAt (target.x.shift dx) (target.y.shift dy) (target.z.shift dz)

/-- Settles the entity at place `i`. -/
def settle (table : NameTable) (sources : List (String × Statement)) (state : Resolution) (i : Nat) :
    Except Fault Resolution :=
  match state.entities[i]? with
  | none => .ok state
  | some e =>
    if e.position.isResolved then .ok state
    else
      match (table.find? (e.position.relativeTo.getD "")).bind fun j => state.entities[j]? with
      | none =>
        let (x, y, z) := canvasCenter
        .ok { state with
          entities := state.entities.set i { e with position := e.position.settleAt x y z }
          warnings := state.warnings ++ [unresolved sources e] }
      | some target =>
        match e.position.relative with
        | none => .error .missingRelation
        | some r =>
          let p := beside target.position e.position r
          .ok { state with
            entities := state.entities.set i { e with position := p }
            found := state.found + 1
            events := state.events ++ [.entityPlaced e.id r.name target.id p.x p.y p.z] }

/-- Settles the entities at the given places in turn, up to the first fault. -/
def settleAll (table : NameTable) (sources : List (String × Statement)) :
    List Nat → Resolution → Resolution × Option Fault
  | [], state => (state, none)
  | i :: rest, state =>
    match settle table sources state i with
    | .ok state => settleAll table sources rest state
    | .error fault => (state, some fault)

/-- Settles all entities in order. -/
def ofEntities (entities : List Entity) (sources : List (String × Statement)) : Resolution × Option Fault :=
  settleAll (NameTable.ofEntities entities) sources (List.range entities.length) { entities }

end Resolution

end SceneScript
