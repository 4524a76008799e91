import SceneScript.Assoc
import SceneScript.Number
import SceneScript.Text.Quoted

/-!
Plain data: what a catalog file holds. Mappings keep the order of their keys, and a key is a scalar or
null. A file can also hold values of other kinds; of these only that is kept which can be asked of any
value.
-/

namespace SceneScript

inductive Scalar where
  | bool (b : Bool)
  | number (n : Number)
  | text (s : String)
  deriving Repr, Inhabited, BEq

/-- A key of a mapping; the null key is `none`. -/
abbrev Key := Option Scalar

/-- What is known of a value of another kind, such as a date, bytes or a set: the name of its kind, its
    text on its own and inside other data, whether it can be a key, and its items if it can be gone
    through. -/
structure Foreign (α : Type) where
  kind : String
  text : String
  quoted : String
  isKey : Bool := true
  items : Option (List α) := none

/-- A key of another kind stands in a mapping as its text, which is all that is ever asked of it. -/
inductive Data where
  | null
  | scalar (s : Scalar)
  | list (items : List Data)
  | mapping (entries : List (Option Scalar × Data))
  | foreign (v : Foreign Data)
  deriving Inhabited

namespace Scalar

/-- The scalar as a text used in a message or as a name. -/
def toText : Scalar → String
  | .bool b => if b then "True" else "False"
  | .number n => n.text
  | .text s => s

/-- The scalar as it shows inside other data: texts are quoted. -/
def quoted : Scalar → String
  | .text s => Text.Quoted.encode s
  | s => s.toText

end Scalar

namespace Key

def toText : Key → String
  | none => "None"
  | some s => s.toText

def quoted : Key → String
  | none => "None"
  | some s => s.quoted

end Key

namespace Data

/-- The entries of a mapping of data. -/
abbrev Entries := List (Option Scalar × Data)

def text (s : String) : Data := .scalar (.text s)

def number (n : Number) : Data := .scalar (.number n)

def bool (b : Bool) : Data := .scalar (.bool b)

/-- A key as data. -/
def ofKey : Key → Data
  | none => .null
  | some s => .scalar s

/-- A mapping with texts as keys. -/
def ofFields (fields : List (String × Data)) : Data := .mapping (fields.map fun (k, v) => (some (.text k), v))

mutual
/-- The data as it shows in messages. -/
def quoted : Data → String
  | .null => "None"
  | .scalar s => s.quoted
  | .list items => "[" ++ ", ".intercalate (quotedItems items) ++ "]"
  | .mapping entries => "\x7b" ++ ", ".intercalate (quotedEntries entries) ++ "\x7d"
  | .foreign v => v.quoted

def quotedItems : List Data → List String
  | [] => []
  | d :: rest => quoted d :: quotedItems rest

def quotedEntries : List (Option Scalar × Data) → List String
  | [] => []
  | (k, d) :: rest => (Key.quoted k ++ ": " ++ quoted d) :: quotedEntries rest
end

/-- The data as a name or inside a sentence: a text stands for itself. -/
def toText : Data → String
  | .scalar s => s.toText
  | .foreign v => v.text
  | d => d.quoted

/-- What counts as left out: null, false, zero, and whatever is empty. -/
def isBlank : Data → Bool
  | .null => true
  | .scalar (.bool b) => !b
  | .scalar (.number n) => n.isZero
  | .scalar (.text s) => s.isEmpty
  | .list items => items.isEmpty
  | .mapping entries => entries.isEmpty
  | .foreign v => v.items.any (·.isEmpty)

/-- What data is gone through by: the characters of a text, the items of a list, the keys of a mapping. -/
def items? : Data → Option (List Data)
  | .scalar (.text s) => some (s.toList.map fun c => text c.toString)
  | .list items => some items
  | .mapping entries => some (entries.map fun e => ofKey e.1)
  | .foreign v => v.items
  | _ => none

/-- The entry of a mapping under a text key. -/
def Entries.field? (entries : Entries) (name : String) : Option Data := Assoc.get? entries (some (.text name))

end Data

end SceneScript
