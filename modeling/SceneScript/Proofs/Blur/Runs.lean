import Mathlib.Data.List.Forall2
import SceneScript.Proofs.Blur.Readings
import SceneScript.Proofs.Blur.Values
import SceneScript.Proofs.Parses

/-!
Runs under a blur. Two contexts that a blur does not tell apart stay so when each takes a statement of two
that are not told apart either, and when their positions settle. The one text that is looked at letter by
letter is the reference of an update.
-/

namespace SceneScript

/-- The reference of an update as it is spelled. -/
def Reading.reference? (r : Reading) : Option String :=
  match r.outcome with
  | .ok (.update reference _) => some reference.lexeme
  | _ => none

def Statement.reference? (s : Statement) : Option String := s.read.reference?

namespace Blur

variable (b : Blur)

/-! ### Contexts -/

def entity (e : Entity) : Entity :=
  { e with attributes := b.attributes e.attributes, position := b.position e.position }

/-- What is told of the statement that drew an entity. -/
def origin (s : Statement) : Span × String := (b.span s.span, b.text s.text)

/-- Contexts that are not told apart. Their events are not compared. -/
structure Alike (c d : Context) : Prop where
  vocabulary : c.vocabulary = d.vocabulary
  strict : c.strict = d.strict
  extensions : c.extensions = d.extensions
  drawn : c.drawn = d.drawn
  environment : c.scene.environment = d.scene.environment
  metadata : c.scene.metadata = d.scene.metadata
  frozen : c.scene.frozen = d.scene.frozen
  entities : c.scene.entities.map b.entity = d.scene.entities.map b.entity
  diagnostics : c.diagnostics.map b.diagnostic = d.diagnostics.map b.diagnostic
  sources : c.sources.map (fun p => (p.1, b.origin p.2)) = d.sources.map fun p => (p.1, b.origin p.2)

variable {b}

namespace Alike

variable {c c' d : Context}

theorem refl (c : Context) : b.Alike c c := ⟨rfl, rfl, rfl, rfl, rfl, rfl, rfl, rfl, rfl, rfl⟩

theorem typeOf (h : b.Alike c d) (keyword : String) : c.typeOf keyword = d.typeOf keyword := by
  rw [Context.typeOf, Context.typeOf, h.vocabulary, h.extensions, h.strict]

theorem nextId (h : b.Alike c d) : c.nextId = d.nextId := by rw [Context.nextId, Context.nextId, h.drawn]

/-- Diagnostics that are not told apart keep the contexts so. -/
theorem append {ds ds' : List Diagnostic} (h : b.Alike c d) (hds : ds.map b.diagnostic = ds'.map b.diagnostic)
    (es es' : List Event) :
    b.Alike { c with diagnostics := c.diagnostics ++ ds, events := es }
      { d with diagnostics := d.diagnostics ++ ds', events := es' } :=
  { h with diagnostics := by simp only [List.map_append, h.diagnostics, hds] }

/-! ### Commands -/

theorem loadExtension (h : b.Alike c d) (name : String) : b.Alike (c.loadExtension name) (d.loadExtension name) := by
  unfold Context.loadExtension
  rw [h.extensions]
  split
  · exact h
  · exact { h with
      extensions := rfl
      metadata := by simp only [h.metadata] }

theorem load (h : b.Alike c d) {source source' : String} {name name' : Token} (hsource : b.text source = b.text source')
    (hname : b.token name = b.token name') : b.Alike (c.load source name) (d.load source' name') := by
  have hlexeme : b.text name.lexeme = b.text name'.lexeme := congrArg Token.lexeme hname
  have hspan : b.span name.span = b.span name'.span := congrArg Token.span hname
  have hlower : Text.lower name.lexeme = Text.lower name'.lexeme := by rw [← b.lower_text, hlexeme, lower_text]
  have hloaded := h.loadExtension (Text.lower name'.lexeme)
  unfold Context.load
  rw [hlower]
  simp only [hloaded.vocabulary]
  split
  · exact hloaded
  · refine hloaded.append ?_ _ _
    simp only [List.map_cons, List.map_nil, diagnostic, Warning.diagnostic, Option.map_some, hsource, hspan]

theorem setEnvironment (h : b.Alike c d) {name name' : Token} (hname : b.token name = b.token name') :
    b.Alike (c.setEnvironment name) (d.setEnvironment name') := by
  have hlexeme : b.text name.lexeme = b.text name'.lexeme := congrArg Token.lexeme hname
  have hlower : Text.lower name.lexeme = Text.lower name'.lexeme := by rw [← b.lower_text, hlexeme, lower_text]
  exact { h with
    environment := by
      simp only [Context.setEnvironment, hlower, h.vocabulary, h.extensions, h.strict, h.environment] }

theorem stated {source source' : String} {clauses clauses' : List Token} {fields : Attributes}
    (hsource : b.text source = b.text source') (hclauses : clauses.map b.token = clauses'.map b.token)
    (h : Attributes.read source clauses = .ok fields) :
    ∃ fields', Attributes.read source' clauses' = .ok fields' ∧ b.attributes fields' = b.attributes fields := by
  have hread : (Attributes.read source' clauses').map b.attributes =
      (Attributes.read source clauses).map b.attributes := by
    rw [← read_blur, ← hsource, ← hclauses, read_blur]
  exact exists_of_map_eq hread h

theorem draw (h : b.Alike c d) {s s' : Statement} {keyword : String} {clauses clauses' : List Token}
    {placed placed' : Position.Placed} (htext : b.text s.text = b.text s'.text) (hspan : b.span s.span = b.span s'.span)
    (hclauses : clauses.map b.token = clauses'.map b.token) (hplaced : b.placed placed = b.placed placed')
    (hdraw : c.draw s keyword clauses placed = .ok c') :
    ∃ d', d.draw s' keyword clauses' placed' = .ok d' ∧ b.Alike c' d' := by
  obtain ⟨defaults, fields, hdefaults, hfields, hfrozen, rfl⟩ := Context.draw_eq_ok hdraw
  obtain ⟨fields', hfields', hseen⟩ := stated htext hclauses hfields
  have hposition : b.position placed.position = b.position placed'.position := congrArg Position.Placed.position hplaced
  have hwarning : placed.warning.map b.diagnostic = placed'.warning.map b.diagnostic :=
    congrArg Position.Placed.warning hplaced
  rw [h.vocabulary, h.typeOf] at hdefaults
  rw [h.frozen] at hfrozen
  have hdone : ∃ d', d.draw s' keyword clauses' placed' = .ok d' := by
    simp [Context.draw, Scene.add, bind, Except.bind, pure, Except.pure, hdefaults, hfields', hfrozen]
  obtain ⟨d', hd'⟩ := hdone
  obtain ⟨defaults', fields'', hdefaults', hfields'', -, rfl⟩ := Context.draw_eq_ok hd'
  rw [hdefaults] at hdefaults'
  cases hdefaults'
  rw [hfields'] at hfields''
  cases hfields''
  refine ⟨_, hd', ?_⟩
  exact { h with
    drawn := by simp only [h.drawn]
    entities := by
      simp only [List.map_append, List.map_cons, List.map_nil, h.entities, h.nextId, h.typeOf, entity, hposition,
        attributes_merge, hseen]
    diagnostics := by
      have hlists : placed.warning.toList.map b.diagnostic = placed'.warning.toList.map b.diagnostic := by
        rw [← Option.toList_map, ← Option.toList_map, hwarning]
      simp only [List.map_append, h.diagnostics, hlists]
    sources := by
      have horigin : b.origin s = b.origin s' := Prod.ext hspan htext
      simp only [← Assoc.set_map b.origin, h.sources, h.nextId, horigin] }

theorem refersTo (h : b.Alike c d) {reference reference' : Token} (hreference : b.token reference = b.token reference')
    (hlexeme : reference.lexeme = reference'.lexeme) : c.refersTo reference = d.refersTo reference' := by
  have hform : (b.token reference).form = (b.token reference').form := congrArg Token.form hreference
  rw [form_token, form_token] at hform
  have hword : reference.wordText = reference'.wordText := by rw [Token.wordText, Token.wordText, hform, hlexeme]
  funext e
  simp only [Context.refersTo, hlexeme, hword, h.typeOf]

theorem map_updateFirst {p : Entity → Bool} {fields : Attributes} (hp : ∀ e, p (b.entity e) = p e)
    (entities : List Entity) :
    (Scene.updateFirst p (fun e => { e with attributes := Assoc.merge e.attributes fields }) entities).map b.entity =
      Scene.updateFirst p (fun e => { e with attributes := Assoc.merge e.attributes (b.attributes fields) })
        (entities.map b.entity) := by
  induction entities with
  | nil => rfl
  | cons e entities ih =>
    simp only [List.map_cons, Scene.updateFirst, hp]
    split
    · simp only [List.map_cons, entity, attributes_merge]
    · rw [List.map_cons, ih]

theorem update (h : b.Alike c d) {s s' : Statement} {reference reference' : Token} {clauses clauses' : List Token}
    (htext : b.text s.text = b.text s'.text) (hclauses : clauses.map b.token = clauses'.map b.token)
    (hreference : b.token reference = b.token reference') (hlexeme : reference.lexeme = reference'.lexeme)
    (hupdate : c.update s reference clauses = .ok c') :
    ∃ d', d.update s' reference' clauses' = .ok d' ∧ b.Alike c' d' := by
  -- What a reference names is told by id, subtype and keyword, which the blur keeps.
  have hrefers := h.refersTo hreference hlexeme
  have hspan : b.span reference.span = b.span reference'.span := congrArg Token.span hreference
  have hfound : (c.scene.entities.find? (c.refersTo reference)).map b.entity =
      (d.scene.entities.find? (d.refersTo reference')).map b.entity := by
    have hseen : ∀ entities : List Entity, (entities.find? (d.refersTo reference')).map b.entity =
        (entities.map b.entity).find? (d.refersTo reference') := by
      intro entities
      rw [List.find?_map]
      rfl
    rw [hrefers, hseen, hseen, h.entities]
  rcases Context.update_eq_ok hupdate with ⟨hnone, rfl⟩ | ⟨e, fields, hsome, hfields, rfl⟩
  · rw [hnone] at hfound
    have hnone' : d.scene.entities.find? (d.refersTo reference') = none := Option.map_eq_none_iff.mp hfound.symm
    have hwarns : d.update s' reference' clauses' =
        .ok (d.warn ((Warning.noSuchEntity reference'.lexeme).diagnostic reference'.span (some s'.text))) := by
      rw [Context.update, hnone']
    refine ⟨_, hwarns, h.append ?_ _ _⟩
    simp only [List.map_cons, List.map_nil, diagnostic, Warning.diagnostic, Option.map_some, htext, hspan, hlexeme]
  · obtain ⟨fields', hfields', hseen⟩ := stated htext hclauses hfields
    rw [hsome] at hfound
    obtain ⟨e', hsome', -⟩ := Option.map_eq_some_iff.mp hfound.symm
    refine ⟨_, by rw [Context.update, hsome', hfields']; rfl, ?_⟩
    exact { h with
      entities := by
        have hstable : ∀ e, d.refersTo reference' (b.entity e) = d.refersTo reference' e := fun _ => rfl
        simp only [hrefers, map_updateFirst hstable, h.entities, hseen] }

theorem carryOut (h : b.Alike c d) {s s' : Statement} {command command' : Command}
    (htext : b.text s.text = b.text s'.text) (hspan : b.span s.span = b.span s'.span)
    (hcommand : b.command command = b.command command')
    (hreference : ∀ {reference reference' : Token} {clauses clauses' : List Token},
      command = .update reference clauses → command' = .update reference' clauses' →
        reference.lexeme = reference'.lexeme)
    (hcarried : c.carryOut s command = .ok c') :
    ∃ d', d.carryOut s' command' = .ok d' ∧ b.Alike c' d' := by
  cases command with
  | load name =>
    cases command' with
    | load name' =>
      cases hcarried
      exact ⟨_, rfl, h.load htext (Command.load.inj hcommand)⟩
    | _ => cases hcommand
  | environment name =>
    cases command' with
    | environment name' =>
      cases hcarried
      exact ⟨_, rfl, h.setEnvironment (Command.environment.inj hcommand)⟩
    | _ => cases hcommand
  | draw keyword clauses placed =>
    cases command' with
    | draw keyword' clauses' placed' =>
      obtain ⟨rfl, hclauses, hplaced⟩ := Command.draw.inj hcommand
      exact h.draw htext hspan hclauses hplaced hcarried
    | _ => cases hcommand
  | update reference clauses =>
    cases command' with
    | update reference' clauses' =>
      obtain ⟨hseen, hclauses⟩ := Command.update.inj hcommand
      exact h.update htext hclauses hseen (hreference rfl rfl) hcarried
    | _ => cases hcommand
  | exportAs options =>
    cases command' with
    | exportAs options' =>
      cases Command.exportAs.inj hcommand
      cases hcarried
      exact ⟨_, rfl, { h with metadata := by simp only [h.metadata] }⟩
    | _ => cases hcommand

/-! ### Statements -/

theorem message_rejection (cause : Rejection) : b.text (b.rejection cause).message = b.text cause.message := by
  have hafter : ∀ front s : String, b.text (front ++ b.text s) = b.text (front ++ s) := by
    intro front s
    rw [text_append, text_text, ← text_append]
  have hbetween : ∀ front s back : String, b.text (front ++ b.text s ++ back) = b.text (front ++ s ++ back) := by
    intro front s back
    rw [text_append, hafter, ← text_append]
  cases cause with
  | openString | updateWithoutAttributes | positionWithoutPlace | positionWithoutTarget _ => rfl
  | unknownStatement text =>
    have hslice := hafter "unknown statement: " (Text.slice text 0 50)
    rw [← slice_text] at hslice
    exact hslice
  | noPosition lexeme => exact hbetween _ _ _
  | _ => exact hafter _ _

theorem diagnostic_refusal {r r' : Refusal} (h : b.refusal r = b.refusal r') :
    b.diagnostic r.diagnostic = b.diagnostic r'.diagnostic := by
  have hcode : ∀ cause, (b.rejection cause).code = cause.code := by
    intro cause
    cases cause <;> rfl
  have hcause : b.rejection r.cause = b.rejection r'.cause := congrArg Refusal.cause h
  have hspan : b.span r.span = b.span r'.span := congrArg Refusal.span h
  have hline : r.sourceLine.map b.text = r'.sourceLine.map b.text := congrArg Refusal.sourceLine h
  have hcodes : r.cause.code = r'.cause.code := by rw [← hcode, hcause, hcode]
  have hmessages : b.text r.cause.message = b.text r'.cause.message := by
    rw [← message_rejection, hcause, message_rejection]
  have hhints : r.cause.hints = r'.cause.hints := by rw [Rejection.hints, Rejection.hints, hcodes]
  simp only [diagnostic, Refusal.diagnostic, hspan, hline, hcodes, hmessages, hhints]

/-- A step keeps contexts from being told apart. -/
theorem step (h : b.Alike c d) {s s' : Statement} (hs : b.Matches s s') (hreference : s.reference? = s'.reference?)
    (hstep : c.step s = .ok c') : ∃ d', d.step s' = .ok d' ∧ b.Alike c' d' := by
  have hreading := hs.reading
  have hwarnings : s.read.warnings.map b.diagnostic = s'.read.warnings.map b.diagnostic :=
    congrArg Reading.warnings hreading
  have houtcome : (s.read.outcome.map b.command).mapError b.failure =
      (s'.read.outcome.map b.command).mapError b.failure :=
    congrArg Reading.outcome hreading
  have hbegun : b.Alike (c.begin s s.read) (d.begin s' s'.read) := h.append hwarnings _ _
  obtain ⟨⟨c₁, o⟩, hattempt, rfl⟩ := Context.step_eq_ok.mp hstep
  rcases Context.attempt_cases hattempt with ⟨command, hcommand, hcarried, rfl⟩ | ⟨r, hr, rfl, rfl⟩
  · rw [hcommand] at houtcome
    cases hcommand' : s'.read.outcome with
    | error f =>
      rw [hcommand'] at houtcome
      cases houtcome
    | ok command' =>
      rw [hcommand'] at houtcome
      have hseen : b.command command = b.command command' := Except.ok.inj houtcome
      have hspelled : ∀ {reference reference' : Token} {clauses clauses' : List Token},
          command = .update reference clauses → command' = .update reference' clauses' →
            reference.lexeme = reference'.lexeme := by
        rintro reference reference' clauses clauses' rfl rfl
        simpa [Statement.reference?, Reading.reference?, hcommand, hcommand'] using hreference
      obtain ⟨d₁, hd₁, halike⟩ := hbegun.carryOut hs.text hs.span hseen hspelled hcarried
      refine ⟨d₁, ?_, halike⟩
      simp [Context.step, Context.attempt_eq, hcommand', hd₁, Except.map, Context.report]
  · rw [hr] at houtcome
    cases hr' : s'.read.outcome with
    | ok command =>
      rw [hr'] at houtcome
      cases houtcome
    | error f =>
      rw [hr'] at houtcome
      cases f with
      | fault f => cases houtcome
      | refused r' =>
        have hseen : b.refusal r = b.refusal r' := Failure.refused.inj (Except.error.inj houtcome)
        refine ⟨(d.begin s' s'.read).refuse s' r', ?_, ?_⟩
        · simp [Context.step, Context.attempt_of_refused hr', Except.map, Context.report]
        · refine hbegun.append ?_ _ _
          simp only [List.map_cons, List.map_nil, diagnostic_refusal hseen]

theorem run {statements statements' : List Statement} (h : b.Alike c d)
    (hs : List.Forall₂ (fun s s' => b.Matches s s' ∧ s.reference? = s'.reference?) statements statements')
    (hrun : c.run statements = .ok c') : ∃ d', d.run statements' = .ok d' ∧ b.Alike c' d' := by
  induction hs generalizing c d with
  | nil =>
    cases hrun
    exact ⟨d, rfl, h⟩
  | cons hfirst _ ih =>
    rw [Context.run_cons] at hrun
    obtain ⟨c₁, hc₁, hrest⟩ := bind_eq_ok.mp hrun
    obtain ⟨d₁, hd₁, halike⟩ := h.step hfirst.1 hfirst.2 hc₁
    obtain ⟨d', hd', halike'⟩ := ih halike hrest
    refine ⟨d', ?_, halike'⟩
    rw [Context.run_cons]
    exact bind_eq_ok.mpr ⟨d₁, hd₁, hd'⟩

end Alike
end Blur
end SceneScript
