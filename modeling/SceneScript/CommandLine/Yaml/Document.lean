import SceneScript.CommandLine.Yaml.Scalar
import SceneScript.CommandLine.Yaml.Token
import SceneScript.Yaml

/-!
The reader of YAML that the program runs with: from the tokens of a text to the data of its one document.
-/

namespace SceneScript.CommandLine.Yaml

/-- The front token is one of those given; the end of the text counts as each of them. -/
def meets (marks : List Token) : List Token → Bool
  | [] => true
  | t :: _ => marks.contains t

/-- Entries as a mapping: keys must be scalars, and a later entry replaces an earlier one's value. -/
def mappingOf (pairs : List (Data × Data)) : Option Data := do
  let entries ← pairs.mapM fun (k, v) => match k with
    | .null => some ((none : Key), v)
    | .scalar s => some (some s, v)
    | _ => none
  return .mapping (Assoc.ofPairs entries)

mutual
/-- A node. In a block, `entries` allows a sequence that is not indented. -/
def node (fuel : Nat) (inBlock entries : Bool) (ts : List Token) : Option (Data × List Token) :=
  match fuel, ts with
  | 0, _ | _, [] => none
  | fuel + 1, t :: rest =>
    match t with
    | .scalar plain text => some (if plain then ofPlain text else .text text, rest)
    | .flowSequence => do
      let (items, rest) ← flowItems fuel true rest
      return (.list items, rest)
    | .flowMapping => do
      let (pairs, rest) ← flowPairs fuel true rest
      return (← mappingOf pairs, rest)
    | .blockSequence =>
      if inBlock then
        match blockItems fuel rest with
        | some (items, .blockEnd :: rest) => some (.list items, rest)
        | _ => none
      else none
    | .blockMapping =>
      if inBlock then
        match blockPairs fuel rest with
        | some (pairs, .blockEnd :: rest) => (mappingOf pairs).map (·, rest)
        | _ => none
      else none
    | .blockEntry =>
      if inBlock && entries then do
        let (items, rest) ← blockItems fuel (t :: rest)
        return (.list items, rest)
      else none
    | _ => none

/-- A node, or null if one of the marks stands in its place. -/
def nodeUnless (fuel : Nat) (marks : List Token) (inBlock entries : Bool) (ts : List Token) :
    Option (Data × List Token) :=
  match fuel with
  | 0 => none
  | fuel + 1 => if meets marks ts then some (.null, ts) else node fuel inBlock entries ts

/-- The items of a block sequence. -/
def blockItems (fuel : Nat) (ts : List Token) : Option (List Data × List Token) :=
  match fuel, ts with
  | 0, _ => none
  | fuel + 1, .blockEntry :: rest => do
    let (item, rest) ← nodeUnless fuel [.blockEntry, .key, .value, .blockEnd] true false rest
    let (items, rest) ← blockItems fuel rest
    return (item :: items, rest)
  | _ + 1, ts => some ([], ts)

/-- The pairs of a block mapping. A key without a value has null, and so has a value without a key. -/
def blockPairs (fuel : Nat) (ts : List Token) : Option (List (Data × Data) × List Token) :=
  match fuel with
  | 0 => none
  | fuel + 1 => do
    let (k, rest) ← match ts with
      | .key :: rest => nodeUnless fuel [.key, .value, .blockEnd] true true rest
      | ts => some (.null, ts)
    match ts, rest with
    | _, .value :: rest =>
      let (v, rest) ← nodeUnless fuel [.key, .value, .blockEnd] true true rest
      let (pairs, rest) ← blockPairs fuel rest
      return ((k, v) :: pairs, rest)
    | .key :: _, rest =>
      let (pairs, rest) ← blockPairs fuel rest
      return ((k, .null) :: pairs, rest)
    | _, rest => return ([], rest)

/-- The items of a sequence in brackets. A key in it makes a mapping of one pair. -/
def flowItems (fuel : Nat) (isFirst : Bool) (ts : List Token) : Option (List Data × List Token) :=
  match fuel, ts with
  | 0, _ => none
  | _ + 1, .flowSequenceEnd :: rest => some ([], rest)
  | fuel + 1, ts =>
    let separated := match ts with
      | .flowEntry :: rest => if isFirst then none else some rest
      | ts => if isFirst then some ts else none
    match separated with
    | none => none
    | some (.flowSequenceEnd :: rest) => if isFirst then none else some ([], rest)
    | some (.key :: rest) => do
      let (k, rest) ← nodeUnless fuel [.value, .flowEntry, .flowSequenceEnd] false false rest
      let (v, rest) ← match rest with
        | .value :: rest => nodeUnless fuel [.flowEntry, .flowSequenceEnd] false false rest
        | rest => some (.null, rest)
      let item ← mappingOf [(k, v)]
      let (items, rest) ← flowItems fuel false rest
      return (item :: items, rest)
    | some rest => do
      let (item, rest) ← node fuel false false rest
      let (items, rest) ← flowItems fuel false rest
      return (item :: items, rest)

/-- The pairs of a mapping in braces. A node alone is a key with null. -/
def flowPairs (fuel : Nat) (isFirst : Bool) (ts : List Token) : Option (List (Data × Data) × List Token) :=
  match fuel, ts with
  | 0, _ => none
  | _ + 1, .flowMappingEnd :: rest => some ([], rest)
  | fuel + 1, ts =>
    let separated := match ts with
      | .flowEntry :: rest => if isFirst then none else some rest
      | ts => if isFirst then some ts else none
    match separated with
    | none => none
    | some (.flowMappingEnd :: rest) => if isFirst then none else some ([], rest)
    | some (.key :: rest) => do
      let (k, rest) ← nodeUnless fuel [.value, .flowEntry, .flowMappingEnd] false false rest
      let (v, rest) ← match rest with
        | .value :: rest => nodeUnless fuel [.flowEntry, .flowMappingEnd] false false rest
        | rest => some (.null, rest)
      let (pairs, rest) ← flowPairs fuel false rest
      return ((k, v) :: pairs, rest)
    | some rest => do
      let (k, rest) ← node fuel false false rest
      let (pairs, rest) ← flowPairs fuel false rest
      return ((k, .null) :: pairs, rest)
end

/-- The one document that tokens hold; null if there is none. -/
def document? (ts : List Token) : Option Data := do
  let fuel := 4 * ts.length + 4
  let (d, rest) ← match ts with
    | [] => some (.null, [])
    | .documentStart :: rest => nodeUnless fuel [.documentStart, .documentEnd] true false rest
    | ts => node fuel true false ts
  if rest.all (· == .documentEnd) then some d else none

/-- The data that a text stands for. What the reader does not know of YAML it takes as malformed. -/
def read : SceneScript.Yaml.Reader := fun text =>
  match (tokens? text).bind document? with
  | some d => .ok d
  | none => .error (.malformed "malformed document")

end SceneScript.CommandLine.Yaml
