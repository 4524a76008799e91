import SceneScript.Position.Clause
import SceneScript.Scene

/-!
Commands: what the statements of the language ask for, and the grammar of each form. A handler takes what it
needs of the grammar as it goes; put together, they read a statement by its text alone.
-/

namespace SceneScript

inductive Command where
  /-- `LOAD EXTENSION name` -/
  | load (name : Token)
  /-- `ADD ENVIRONMENT name` -/
  | environment (name : Token)
  /-- `DRAW keyword [WITH clauses] [position]`; the clauses are the tokens of the attribute section. -/
  | draw (keyword : String) (clauses : List Token) (placed : Position.Placed)
  /-- `UPDATE reference WITH clauses` -/
  | update (reference : Token) (clauses : List Token)
  /-- `EXPORT AS format [options]` -/
  | exportAs (options : ExportOptions)
  deriving Inhabited

/-- Why a statement was not read. -/
inductive Failure where
  | refused (r : Refusal)
  | fault (f : Fault)
  deriving Inhabited

namespace Command

/-- The forms of statements. -/
inductive Opening where
  | load | environment | draw | update | exportAs
  deriving Repr, DecidableEq, Inhabited

namespace Opening

def all : List Opening := [load, environment, draw, update, exportAs]

/-- The words that a statement of the form begins with. -/
def phrase : Opening → List String
  | load => ["LOAD", "EXTENSION"]
  | environment => ["ADD", "ENVIRONMENT"]
  | draw => ["DRAW"]
  | update => ["UPDATE"]
  | exportAs => ["EXPORT"]

/-- The word that the form is known by. -/
def word (o : Opening) : String := o.phrase.headD ""

/-- The form of a statement, by its first tokens. -/
def of? (tokens : List Token) : Option Opening := all.find? fun o => Lead.opens o.phrase tokens

end Opening

/-! ### LOAD EXTENSION and ADD ENVIRONMENT -/

/-- The word at the cursor; else the rejection that names what stands there. -/
def expectWord (rejection : String → Rejection) (source : String) (c : Cursor) : Except Refusal Token :=
  if c.current.kind = .word then .ok c.current
  else .error ⟨rejection c.current.describe, c.current.span, some source⟩

/-! ### DRAW -/

/-- An attribute section or a position clause begins at the front of the tokens. -/
def startsClause (tokens : List Token) : Bool :=
  (tokens.head?.map (·.isWord ["WITH", "WITHOUT"])).getD false || (Lead.of? tokens).isSome

/-- The keyword of what is drawn and the tokens after it. It may be left out; `ANIMAL` takes the kind
    with it. -/
def entityKeyword (source : String) (c : Cursor) : Except Refusal (String × List Token) := do
  let first ← expectWord .drawWithoutEntity source c
  if startsClause c.rest then return ("", c.rest)
  let rest := c.advance.rest
  match rest with
  | kind :: more =>
    if first.wordText = "ANIMAL" && kind.kind = .word && !startsClause rest then
      return ("ANIMAL_" ++ kind.wordText, more)
    return (first.wordText, rest)
  | [] => return (first.wordText, rest)

/-- The tokens of the attribute section: those after `WITH`, or all from `WITHOUT` on. -/
def attributeTokens : List Token → List Token
  | [] => []
  | t :: rest =>
    if t.isWord ["WITH"] then rest
    else if t.isWord ["WITHOUT"] then t :: rest
    else []

def readDraw (source : String) (c : Cursor) : Except Refusal Command := do
  let (keyword, rest) ← entityKeyword source c
  match Token.findLead rest with
  | none => return .draw keyword (attributeTokens rest) { position := {} }
  | some n =>
    let placed ← Position.ofTokens source (rest.drop n)
    return .draw keyword (attributeTokens (rest.take n)) placed

/-! ### UPDATE -/

def readUpdate (source : String) (c : Cursor) : Except Refusal Command := do
  let reference ← expectWord .updateWithoutEntity source c
  match c.advance.matchWord ["WITH"] with
  | (none, c) => throw ⟨.updateWithoutWith c.current.describe, c.current.span, some source⟩
  | (some joiner, c) =>
    if c.atEnd then throw ⟨.updateWithoutAttributes, joiner.span, some source⟩
    return .update reference c.rest

end Command

/-- A read statement: its form, once that is recognised, the warnings met while reading, and the command
    or what stands against it. -/
structure Reading where
  opening : Option Command.Opening := none
  warnings : List Diagnostic := []
  outcome : Except Failure Command

instance : Inhabited Reading := ⟨{ outcome := .error default }⟩

end SceneScript
