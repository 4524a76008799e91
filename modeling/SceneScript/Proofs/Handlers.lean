import SceneScript.Context
import SceneScript.Context.Commands
import SceneScript.Proofs.Outcomes

/-!
What handlers come to. A handler looks at the tokens and at the context by turns, and changes the context on the
way; but as long as something can still stand against the statement, all that it does to the context is to warn of
unknown export options. So the statement can as well be read by its text alone and the command carried out after.
-/

namespace SceneScript

variable {c : Context} {s : Statement} {cursor : Cursor}

namespace Context

/-- The context with warnings added. -/
def warnAll (c : Context) (ws : List Diagnostic) : Context := { c with diagnostics := c.diagnostics ++ ws }

theorem warnAll_nil (c : Context) : c.warnAll [] = c := by
  simp [warnAll]

theorem warnAll_cons (c : Context) (w : Diagnostic) (ws : List Diagnostic) :
    c.warnAll (w :: ws) = (c.warn w).warnAll ws := by
  simp [warnAll, warn]

@[simp] theorem warnAll_vocabulary (ws : List Diagnostic) : (c.warnAll ws).vocabulary = c.vocabulary := rfl

@[simp] theorem warnAll_scene (ws : List Diagnostic) : (c.warnAll ws).scene = c.scene := rfl

@[simp] theorem warnAll_nextId (ws : List Diagnostic) : (c.warnAll ws).nextId = c.nextId := rfl

@[simp] theorem warnAll_typeOf (ws : List Diagnostic) (keyword : String) :
    (c.warnAll ws).typeOf keyword = c.typeOf keyword := rfl

/-- What comes of the warnings of reading and of what was read, a command or a refusal. -/
def conclude (c : Context) (s : Statement) : List Diagnostic × Except Refusal Command →
    Except Fault (Context × Option Refusal)
  | (ws, .ok command) => ((c.warnAll ws).carryOut s command).map (·, none)
  | (ws, .error r) => .ok (c.warnAll ws, some r)

theorem conclude_ok (command : Command) :
    c.conclude s ([], .ok command) = (c.carryOut s command).map (·, none) := by
  rw [conclude, warnAll_nil]

theorem conclude_error (r : Refusal) : c.conclude s ([], .error r) = .ok (c, some r) := by
  rw [conclude, warnAll_nil]

end Context

namespace Handler

/-! ### Handlers by the form of the statement

Each handler leaves and tells what comes of reading its tokens: the cases are those of the reading, and in each of them
the run of the handler is known. -/

@[simp] theorem orRefuse_ok (a : α) : orRefuse (.ok a) = pure a := rfl

@[simp] theorem orFault_ok (a : α) : orFault (.ok a) = pure a := rfl

theorem ofHandled_load :
    Context.ofHandled ((load s cursor).run c) = c.conclude s (Command.readAfter s.text cursor .load) := by
  simp only [Command.readAfter, load, word]
  cases Command.expectWord .loadWithoutName s.text cursor with
  | error r => exact (Context.conclude_error r).symm
  | ok name =>
    simp only [Except.map, Context.conclude_ok, Context.carryOut, Context.load]
    by_cases h : Text.lower name.lexeme ∈ (c.loadExtension (Text.lower name.lexeme)).vocabulary.extensionNames
    · simp [h, Context.ofHandled]
    · simp [h, Context.ofHandled]

theorem ofHandled_environment :
    Context.ofHandled ((environment s cursor).run c) =
      c.conclude s (Command.readAfter s.text cursor .environment) := by
  simp only [Command.readAfter, environment, word]
  cases Command.expectWord .environmentWithoutName s.text cursor with
  | error r => exact (Context.conclude_error r).symm
  | ok name =>
    simp only [Except.map, Context.conclude_ok, Context.carryOut, Context.setEnvironment]
    cases h : c.vocabulary.environment? (Text.lower name.lexeme) c.extensions c.strict with
    | none => simp [h, Context.ofHandled]
    | some preset => simp [h, Context.ofHandled]

/-- The position of a drawing with the warning about it, as its clause says. -/
theorem run_position (tokens : List Token) :
    (position s tokens).run c = match Position.ofTokens s.text tokens with
      | .ok placed => .ok placed.position (c.warnAll placed.warning.toList)
      | .error r => .error (.refused r) c := by
  rw [position]
  cases Position.ofTokens s.text tokens with
  | error r => rfl
  | ok placed =>
    obtain ⟨p, warning⟩ := placed
    cases warning with
    | none => exact congrArg _ c.warnAll_nil.symm
    | some w => rfl

theorem run_takeId (c : Context) : takeId.run c = .ok c.nextId { c with drawn := c.drawn + 1 } := rfl

/-- The warning about the place stands before the entity is drawn, and is the last thing that reading has told. -/
theorem ofHandled_drawAt (keyword : String) (clauses : List Token) (placed : Position.Placed) :
    Context.ofHandled ((drawAt s keyword clauses placed.position).run (c.warnAll placed.warning.toList)) =
      (c.draw s keyword clauses placed).map (·, none) := by
  simp only [drawAt, Context.draw, EStateM.run_bind, EStateM.run_get, Context.warnAll_vocabulary,
    Context.warnAll_typeOf]
  cases c.vocabulary.attributesFor (c.typeOf keyword).subtype with
  | error e => rfl
  | ok defaults =>
    cases Attributes.read s.text clauses with
    | error e => rfl
    | ok stated =>
      simp only [ok_bind, orFault_ok, EStateM.run_pure, run_takeId, EStateM.run_modify,
        Context.warnAll_scene, Context.warnAll_nextId]
      cases c.scene.add _ with
      | error e => rfl
      | ok scene => rfl

theorem ofHandled_draw :
    Context.ofHandled ((draw s cursor).run c) =
      c.conclude s (Command.readAfter s.text cursor .draw) := by
  simp only [Command.readAfter, Command.readDraw, draw]
  cases Command.entityKeyword s.text cursor with
  | error r => exact (Context.conclude_error r).symm
  | ok p =>
    obtain ⟨keyword, rest⟩ := p
    simp only [orRefuse_ok, pure_bind, ok_bind]
    cases Token.findLead rest with
    | none =>
      have hdrawn := ofHandled_drawAt (c := c) (s := s) keyword (Command.attributeTokens rest) { position := {} }
      rw [Option.toList, c.warnAll_nil] at hdrawn
      exact hdrawn.trans (Context.conclude_ok (.draw keyword (Command.attributeTokens rest) _)).symm
    | some n =>
      simp only [EStateM.run_bind, run_position]
      cases Position.ofTokens s.text (rest.drop n) with
      | error r => exact (Context.conclude_error r).symm
      | ok placed =>
        refine Eq.trans (ofHandled_drawAt (c := c) (s := s) keyword _ placed) ?_
        exact (Context.conclude_ok (.draw keyword _ placed)).symm

theorem ofHandled_update :
    Context.ofHandled ((update s cursor).run c) =
      c.conclude s (Command.readAfter s.text cursor .update) := by
  simp only [Command.readAfter, Command.readUpdate, update, word]
  cases Command.expectWord .updateWithoutEntity s.text cursor with
  | error r => exact (Context.conclude_error r).symm
  | ok reference =>
    simp only [orRefuse_ok, pure_bind, ok_bind]
    rcases cursor.advance.matchWord ["WITH"] with ⟨_ | joiner, after⟩
    · exact (Context.conclude_error _).symm
    · by_cases hend : after.atEnd
      · simp only [if_pos hend]
        exact (Context.conclude_error _).symm
      · simp only [if_neg hend]
        refine Eq.trans ?_ (Context.conclude_ok (.update reference after.rest)).symm
        simp only [Context.carryOut, Context.update, EStateM.run_bind, EStateM.run_get]
        cases c.scene.entities.find? (c.refersTo reference) with
        | none => rfl
        | some e =>
          cases Attributes.read s.text after.rest with
          | error f => rfl
          | ok stated => rfl

open Command.Export in
/-- The options that are read with the warnings about unknown ones, or the refusal of the first bad one with the
    warnings before it. -/
theorem run_options (f : Frame) (options : ExportOptions) (tokens : List Token) :
    ∀ c, (Handler.options f options tokens).run c = match readOptions f options tokens with
      | (ws, .ok options) => .ok options (c.warnAll ws)
      | (ws, .error r) => .error (.refused r) (c.warnAll ws) := by
  fun_induction readOptions f options tokens with
  | case1 options =>
    intro c
    simp only [Handler.options, c.warnAll_nil]
    rfl
  | case2 options t rest hskip ih =>
    intro c
    rw [Handler.options, if_pos hskip, ih]
  | case3 options t rest hskip hword =>
    intro c
    rw [Handler.options, if_neg hskip, if_pos hword]
    simp only [Frame.refuse, c.warnAll_nil]
    rfl
  | case4 options t rest hskip hword hasColon rest' hdrop _ hoption r hset =>
    intro c
    rw [Handler.options, if_neg hskip, if_neg hword]
    simp only [hdrop, if_pos hoption, hset, c.warnAll_nil]
    rfl
  | case5 options t rest hskip hword hasColon rest' hdrop _ hoption options' hset ih =>
    intro c
    rw [Handler.options, if_neg hskip, if_neg hword]
    simp only [hdrop, if_pos hoption, hset]
    exact ih c
  | case6 options t rest hskip hword hasColon rest' hdrop _ hoption _ warning warnings result hread ih =>
    -- The warning is in the context by now, whatever the options behind it come to.
    intro c
    rw [Handler.options, if_neg hskip, if_neg hword]
    simp only [hdrop, if_neg hoption]
    refine Eq.trans (ih (c.warn warning)) ?_
    rw [hread]
    cases result with
    | ok options => exact congrArg _ (c.warnAll_cons warning warnings).symm
    | error r => exact congrArg _ (c.warnAll_cons warning warnings).symm

theorem ofHandled_exportAs :
    Context.ofHandled ((exportAs s cursor).run c) =
      c.conclude s (Command.readAfter s.text cursor .exportAs) := by
  simp only [Command.readAfter, Command.Export.read, exportAs]
  rcases cursor.matchWord ["AS"] with ⟨_ | as, named⟩
  · exact (Context.conclude_error _).symm
  · dsimp only
    rcases named.matchWord Command.Export.formats with ⟨_ | format, after⟩
    · exact (Context.conclude_error _).symm
    · simp only [EStateM.run_bind, run_options]
      rcases Command.Export.readOptions ⟨s.text, cursor.last⟩ { format := Text.lower format.wordText } after.rest with
        ⟨ws, r | options⟩
      · rfl
      · rfl

/-- The handler of any form leaves and tells what comes of reading the tokens by the grammar of the form. -/
theorem ofHandled_of (o : Command.Opening) :
    Context.ofHandled ((Handler.of o s cursor).run c) = c.conclude s (Command.readAfter s.text cursor o) := by
  cases o with
  | load => exact ofHandled_load
  | environment => exact ofHandled_environment
  | draw => exact ofHandled_draw
  | update => exact ofHandled_update
  | exportAs => exact ofHandled_exportAs

end Handler

namespace Context

theorem begin_unopened (outcome : Except Failure Command) : c.begin s { outcome } = c := by
  simp [begin]

/-- Handling a statement comes to reading it by its text alone, and then, if nothing stands against it, carrying its
    command out. -/
theorem attempt_eq (c : Context) (s : Statement) :
    c.attempt s = match s.read.outcome with
      | .ok command => ((c.begin s s.read).carryOut s command).map (·, none)
      | .error (.refused r) => .ok (c.begin s s.read, some r)
      | .error (.fault f) => .error f := by
  rw [attempt, Handler.statement, Statement.read]
  cases s.tokens with
  | error failure =>
    cases failure with
    | refused r => exact congrArg (fun c => Except.ok (c, some r)) (begin_unopened _).symm
    | fault f => rfl
  | ok tokens =>
    simp only [pure_bind]
    cases Command.Opening.of? (Cursor.ofTokens tokens).tokens with
    | none => exact congrArg (fun c => Except.ok (c, some _)) (begin_unopened _).symm
    | some o =>
      refine Eq.trans (Handler.ofHandled_of (c := c.note (.statementBegun s.line o.word)) o) ?_
      dsimp only
      rcases Command.readAfter s.text { Cursor.ofTokens tokens with pos := o.phrase.length } o with ⟨ws, r | command⟩
      · rfl
      · rfl

end Context

end SceneScript
