import SceneScript.Text.Character

/-!
Words of a command line. A word is an argument or names a switch by its full name, by a prefix that only
one long name has, or by its letter; a value may be attached to the name.
-/

namespace SceneScript.CommandLine

inductive Switch where
  | help
  | verbose
  | output
  | force
  | strictExtensions
  | extension
  deriving Repr, DecidableEq, Inhabited

/-- A value follows the switch. -/
def Switch.takesValue : Switch → Bool
  | output | extension => true
  | _ => false

/-- The names of the switches that are known at some place: a dash and a letter, or two dashes and a
    word. -/
abbrev Switches := List (String × Switch)

/-- What is attached to the name of a switch, after an equals sign or at once. -/
structure Attached where
  afterSign : Bool
  text : List Char
  deriving Repr, DecidableEq, Inhabited

inductive Word where
  | argument (text : String)
  /-- Two dashes: only arguments follow. -/
  | separator
  | switch (s : Switch) (isLong : Bool) (attached : Option Attached)
  | unknown
  deriving Repr, DecidableEq, Inhabited

namespace Word

/-- A minus and a number in decimal digits, with a point or without. A line feed may end it. -/
def isNegativeNumber (chars : List Char) : Bool :=
  let chars := if chars.getLast? = some '\n' then chars.dropLast else chars
  match chars with
  | '-' :: number =>
    let whole := number.takeWhile Text.isDecimal
    match number.dropWhile Text.isDecimal with
    | [] => !whole.isEmpty
    | '.' :: fraction => !fraction.isEmpty && fraction.all Text.isDecimal
    | _ => false
  | _ => false

/-- The switches that a word with one dash or two may name, by its letter or by a prefix of its name. -/
def candidates (known : Switches) (second : Char) (chars name : List Char) (value : Option (List Char)) :
    List Word :=
  known.filterMap fun (full, s) =>
    if second = '-' then
      if name.isPrefixOf full.toList then some (switch s true (value.map fun v => ⟨true, v⟩)) else none
    else if full.toList = ['-', second] then some (switch s false (some ⟨false, chars.drop 2⟩))
    else none

/-- Reads a word; `none` if it may name several switches. A dash alone, a negative number and a text with
    a space are arguments. -/
def ofString? (known : Switches) (text : String) : Option Word :=
  match text.toList with
  | '-' :: second :: more =>
    let chars := '-' :: second :: more
    let name := chars.takeWhile (· ≠ '=')
    let value := (chars.dropWhile (· ≠ '=')).tail?
    match known.lookup text, value.bind fun _ => known.lookup (String.ofList name) with
    | some s, _ => some (switch s (second = '-') none)
    | none, some s => some (switch s (second = '-') (value.map fun v => ⟨true, v⟩))
    | none, none =>
      match candidates known second chars name value with
      | [word] => some word
      | _ :: _ => none
      | [] => some (if isNegativeNumber chars || chars.contains ' ' then argument text else unknown)
  | _ => some (argument text)

/-- Reads words up to a separator; all after it are arguments. -/
def ofStrings? (known : Switches) : List String → Option (List Word)
  | [] => some []
  | text :: rest =>
    if text = "--" then some (separator :: rest.map argument)
    else do return (← ofString? known text) :: (← ofStrings? known rest)

end Word

/-! ### Clusters -/

/-- The switches that one word names, in order. The value of a pending one is the next word. -/
structure Cluster where
  given : List (Switch × Option String) := []
  pending : Option Switch := none
  /-- The word goes on with a letter that is no switch. -/
  excess : Bool := false
  deriving Repr, DecidableEq, Inhabited

namespace Cluster

/-- A switch with nothing attached. -/
def single (s : Switch) : Cluster :=
  if s.takesValue then { pending := some s } else { given := [(s, none)] }

/-- A switch with something attached: its value, or the letters of more switches. `none` if it takes
    neither. -/
def attached? (known : Switches) (s : Switch) (isLong afterSign : Bool) (text : List Char) : Option Cluster :=
  if s.takesValue then some { given := [(s, some (String.ofList text))] }
  else if isLong || afterSign then none
  else
    match text with
    | [] => none
    | '-' :: _ => none
    | letter :: rest =>
      match known.lookup (String.ofList ['-', letter]) with
      | none => some { given := [(s, none)], excess := true }
      | some s' =>
        let more := match rest with
          | [] => some (single s')
          | '=' :: value => attached? known s' false true value
          | letters => attached? known s' false false letters
        more.map fun c => { c with given := (s, none) :: c.given }
termination_by text.length

end Cluster

end SceneScript.CommandLine
