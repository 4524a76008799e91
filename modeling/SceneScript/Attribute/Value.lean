import SceneScript.Fault
import SceneScript.Json

/-!
Attribute values: a scalar, or a record of further values by name.
-/

namespace SceneScript

inductive Value where
  | scalar (s : Scalar)
  | record (fields : List (String × Value))
  deriving Inhabited

/-- The attributes of an entity in the order in which they were first set. -/
abbrev Attributes := List (String × Value)

namespace Value

def text (s : String) : Value := .scalar (.text s)

def number (n : Number) : Value := .scalar (.number n)

def flag : Value := .scalar (.bool true)

mutual
/-- The value that data stands for: mappings become records, their keys texts. Null, lists and values of
    other kinds have no value; the first of them on the way is the fault. -/
def ofData : Data → Except Fault Value
  | .null => .error (.unusableValue .null)
  | .scalar s => .ok (.scalar s)
  | .list items => .error (.unusableValue (.list items))
  | .mapping entries => (ofEntries [] entries).map .record
  | .foreign v => .error (.unusableValue (.foreign v))

/-- Adds the values of entries to the fields read so far. -/
def ofEntries (fields : List (String × Value)) :
    List (Option Scalar × Data) → Except Fault (List (String × Value))
  | [] => .ok fields
  | (k, d) :: rest =>
    match ofData d with
    | .error e => .error e
    | .ok v => ofEntries (Assoc.set fields (Key.toText k) v) rest
end

/-- The value of data, or the one that is given already. -/
def of : Data ⊕ Value → Except Fault Value
  | .inl d => ofData d
  | .inr v => .ok v

mutual
/-- The value as plain data. -/
def toData : Value → Data
  | .scalar s => .scalar s
  | .record fields => .mapping (toEntries fields)

def toEntries : List (String × Value) → List (Option Scalar × Data)
  | [] => []
  | (k, v) :: rest => (some (.text k), v.toData) :: toEntries rest
end

/-- The fields of a record; none of a scalar. -/
def fields : Value → List (String × Value)
  | .record fields => fields
  | .scalar _ => []

end Value

namespace Attributes

/-- The attributes that the entries of a mapping stand for. Only texts are meant as keys: any other goes by
    its name in JSON here, so that `1` and the text of that name, which a mapping keeps apart, become one
    attribute. -/
def ofEntries (entries : Data.Entries) : Except Fault Attributes :=
  Value.ofEntries [] (entries.map fun (k, d) => (some (.text (Json.memberName k)), d))

def toData (attributes : Attributes) : Data := .mapping (Value.toEntries attributes)

/-- Sets a field of the record under `group`. A missing or scalar group becomes a record. -/
def setField (attributes : Attributes) (group key : String) (v : Value) : Attributes :=
  Assoc.set attributes group (.record (Assoc.set (((Assoc.get? attributes group).map Value.fields).getD []) key v))

end Attributes

end SceneScript
