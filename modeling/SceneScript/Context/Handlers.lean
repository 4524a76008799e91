import SceneScript.Command.Reading
import SceneScript.Context.State

/-!
The handlers of statements. Each goes through its statement once and by turns looks at the tokens, at the
context and at the vocabulary, changes the context, and fails where something stands against the
statement. Nothing is taken back then: the context is left as it has become.
-/

namespace SceneScript

/-- What a handler does with the context. The context that it leaves when it fails is told too. -/
abbrev Handler := EStateM Failure Context

namespace Handler

/-- Goes on with what was read, or fails with the refusal. -/
def orRefuse : Except Refusal α → Handler α
  | .ok a => pure a
  | .error r => throw (.refused r)

/-- Goes on with what was made, or fails with the fault. -/
def orFault : Except Fault α → Handler α
  | .ok a => pure a
  | .error f => throw (.fault f)

/-- The word at the cursor. -/
def word (rejection : String → Rejection) (s : Statement) (c : Cursor) : Handler Token :=
  orRefuse (Command.expectWord rejection s.text c)

/-! ### LOAD EXTENSION and ADD ENVIRONMENT -/

/-- An extension without a catalog is loaded too, with a warning. -/
def load (s : Statement) (c : Cursor) : Handler Unit := do
  let name ← word .loadWithoutName s c
  let extension := Text.lower name.lexeme
  modify (·.loadExtension extension)
  let context ← get
  if !context.vocabulary.extensionNames.contains extension then
    modify (·.warn ((Warning.unknownExtension extension).diagnostic name.span (some s.text)))

/-- An unknown environment only changes the type. -/
def environment (s : Statement) (c : Cursor) : Handler Unit := do
  let name ← word .environmentWithoutName s c
  let type := Text.lower name.lexeme
  modify fun context => { context with scene.environment.type := type }
  let context ← get
  match context.vocabulary.environment? type context.extensions context.strict with
  | none => return
  | some preset =>
    modify fun context => { context with
      scene.environment := Context.applyPreset context.scene.environment preset }

/-! ### DRAW -/

/-- The position that the tokens from a lead on state. The warning about an unknown place comes before
    anything is drawn. -/
def position (s : Statement) (tokens : List Token) : Handler Position := do
  let placed ← orRefuse (Position.ofTokens s.text tokens)
  match placed.warning with
  | none => return placed.position
  | some warning =>
    modify (·.warn warning)
    return placed.position

/-- The next id, which is given out once. -/
def takeId : Handler String := do
  let context ← get
  set { context with drawn := context.drawn + 1 }
  return context.nextId

/-- Draws an entity with the default attributes of its subtype and those that the clauses set. -/
def drawAt (s : Statement) (keyword : String) (clauses : List Token) (position : Position) : Handler Unit := do
  let context ← get
  let type := context.typeOf keyword
  let defaults ← orFault (context.vocabulary.attributesFor type.subtype)
  let stated ← orFault (Attributes.read s.text clauses)
  let id ← takeId
  let entity : Entity := {
    id, category := type.category, subtype := type.subtype, keyword := type.keyword,
    attributes := Assoc.merge defaults stated, position }
  let scene ← orFault ((← get).scene.add entity)
  modify fun context => { context with scene, sources := Assoc.set context.sources id s }
  modify (·.note (.entityDrawn id keyword entity.category entity.subtype))

def draw (s : Statement) (c : Cursor) : Handler Unit := do
  let (keyword, rest) ← orRefuse (Command.entityKeyword s.text c)
  match Token.findLead rest with
  | none => drawAt s keyword (Command.attributeTokens rest) {}
  | some n =>
    let position ← position s (rest.drop n)
    drawAt s keyword (Command.attributeTokens (rest.take n)) position

/-! ### UPDATE -/

/-- The first entity that the reference names gets the attributes; without one, there is only a warning. -/
def update (s : Statement) (c : Cursor) : Handler Unit := do
  let reference ← word .updateWithoutEntity s c
  match c.advance.matchWord ["WITH"] with
  | (none, c) => throw (.refused ⟨.updateWithoutWith c.current.describe, c.current.span, some s.text⟩)
  | (some joiner, c) =>
    if c.atEnd then throw (.refused ⟨.updateWithoutAttributes, joiner.span, some s.text⟩)
    let context ← get
    match context.scene.entities.find? (context.refersTo reference) with
    | none => modify (·.warn ((Warning.noSuchEntity reference.lexeme).diagnostic reference.span (some s.text)))
    | some e =>
      let stated ← orFault (Attributes.read s.text c.rest)
      modify fun context => { context with
        scene.entities := Scene.updateFirst (context.refersTo reference)
          (fun e => { e with attributes := Assoc.merge e.attributes stated }) context.scene.entities }
      modify (·.note (.entityUpdated e.id (Assoc.keys stated)))

/-! ### EXPORT -/

open Command.Export in
/-- The options that tokens hold. A word that names none is warned about at once. -/
def options (f : Frame) (options : ExportOptions) (tokens : List Token) : Handler ExportOptions :=
  match tokens with
  | [] => return options
  | t :: rest =>
    if t.isWord joiners || t.kind = .comma then Handler.options f options rest
    else if t.kind ≠ .word then orRefuse (f.refuse .exportUnexpected t)
    else
      match h : dropColon rest with
      | (hasColon, rest') =>
        have : rest'.length ≤ rest.length := by
          have := dropColon_length_le rest
          rwa [h] at this
        if t.isWord optionWords then do
          let options ← orRefuse (setOption f t.wordText (f.front rest') options)
          Handler.options f options (rest'.drop 1)
        else do
          have := dropValue_length_le hasColon rest'
          modify (·.warn ((Warning.unknownOption t.lexeme).diagnostic t.span (some f.source)))
          Handler.options f options (dropValue hasColon rest')
termination_by tokens.length
decreasing_by all_goals simp_all; try omega

open Command.Export in
/-- The options take the place of earlier ones once all of them are read. -/
def exportAs (s : Statement) (c : Cursor) : Handler Unit := do
  let f : Frame := ⟨s.text, c.last⟩
  match c.matchWord ["AS"] with
  | (none, c) => orRefuse (f.refuse .exportWithoutAs c.current)
  | (some _, c) =>
    match c.matchWord formats with
    | (none, c) => orRefuse (f.refuse .exportWithoutFormat c.current)
    | (some format, c) =>
      let options ← options f { format := Text.lower format.wordText } c.rest
      modify fun context => { context with scene.metadata.exportOptions := some options }

/-! ### Statements -/

/-- The handler of a form of statements. -/
def of : Command.Opening → Statement → Cursor → Handler Unit
  | .load => load
  | .environment => environment
  | .draw => draw
  | .update => update
  | .exportAs => exportAs

/-- Cuts a statement into tokens and hands it on by its opening. -/
def statement (s : Statement) : Handler Unit := do
  let tokens ← match s.tokens with
    | .ok tokens => pure tokens
    | .error failure => throw failure
  let c := Cursor.ofTokens tokens
  match Command.Opening.of? c.tokens with
  | none => throw (.refused ⟨.unknownStatement s.text, s.span, some s.text⟩)
  | some opening =>
    modify (·.note (.statementBegun s.line opening.word))
    of opening s { c with pos := opening.phrase.length }

end Handler

end SceneScript
