import SceneScript.Proofs.Handlers
import SceneScript.Proofs.Readings

/-!
What one statement does to a context. An attempt comes to carrying out the command that the statement states,
or to leaving the context as it was, apart from reports. Reports (diagnostics and events) are only ever
appended: no statement looks at them.
-/

namespace SceneScript
namespace Context

variable {c c' : Context} {s : Statement}

/-! ### Attempts -/

/-- An attempt that ends carries out the command that the statement states, or tells why it is refused. -/
theorem attempt_cases {o : Option Refusal} (h : c.attempt s = .ok (c', o)) :
    (∃ command, s.read.outcome = .ok command ∧ (c.begin s s.read).carryOut s command = .ok c' ∧ o = none) ∨
      ∃ r, s.read.outcome = .error (.refused r) ∧ c' = c.begin s s.read ∧ o = some r := by
  rw [attempt_eq] at h
  split at h
  · rename_i command houtcome
    obtain ⟨d, hd, heq⟩ := map_eq_ok.mp h
    cases heq
    exact Or.inl ⟨command, houtcome, hd, rfl⟩
  · rename_i r houtcome
    cases h
    exact Or.inr ⟨r, houtcome, rfl, rfl⟩
  · cases h

theorem attempt_of_refused {r : Refusal} (h : s.read.outcome = .error (.refused r)) :
    c.attempt s = .ok (c.begin s s.read, some r) := by
  rw [attempt_eq, h]

theorem attempt_refused {r : Refusal} (h : c.attempt s = .ok (c', some r)) : c' = c.begin s s.read := by
  rcases attempt_cases h with ⟨_, -, -, hnone⟩ | ⟨_, -, hc', -⟩
  · cases hnone
  · exact hc'

theorem step_eq_ok : c.step s = .ok c' ↔ ∃ p, c.attempt s = .ok p ∧ report s p = c' := map_eq_ok

/-! ### Commands -/

/-- Loading adds to the loaded extensions, or does not, and at most warns at the name. -/
theorem load_eq (source : String) (name : Token) :
    ∃ added ws, c.load source name = { c with
        extensions := c.extensions ++ added
        scene.metadata.extensions := c.scene.metadata.extensions ++ added
        diagnostics := c.diagnostics ++ ws } ∧
      ∀ w ∈ ws, ∃ extension, w = (Warning.unknownExtension extension).diagnostic name.span (some source) := by
  have hloaded : ∀ extension, ∃ added, c.loadExtension extension = { c with
      extensions := c.extensions ++ added
      scene.metadata.extensions := c.scene.metadata.extensions ++ added } := by
    intro extension
    unfold loadExtension
    split
    · exact ⟨[], by simp⟩
    · exact ⟨[extension], rfl⟩
  obtain ⟨added, hadded⟩ := hloaded (Text.lower name.lexeme)
  simp only [load, hadded]
  split
  · exact ⟨added, [], by simp, by simp⟩
  · refine ⟨added, [_], rfl, fun w hw => ?_⟩
    exact ⟨_, List.mem_singleton.mp hw⟩

/-- A drawing gives the defaults of the subtype, the stated attributes on top of them, and the next id. -/
theorem draw_eq_ok {keyword : String} {clauses : List Token} {placed : Position.Placed}
    (h : c.draw s keyword clauses placed = .ok c') :
    ∃ defaults stated, c.vocabulary.attributesFor (c.typeOf keyword).subtype = .ok defaults ∧
      Attributes.read s.text clauses = .ok stated ∧ c.scene.frozen = false ∧
      c' = { c with
        scene.entities := c.scene.entities ++ [{
          id := c.nextId, category := (c.typeOf keyword).category, subtype := (c.typeOf keyword).subtype,
          keyword := (c.typeOf keyword).keyword, attributes := Assoc.merge defaults stated,
          position := placed.position }]
        diagnostics := c.diagnostics ++ placed.warning.toList
        sources := Assoc.set c.sources c.nextId s
        drawn := c.drawn + 1
        events := c.events ++
          [.entityDrawn c.nextId keyword (c.typeOf keyword).category (c.typeOf keyword).subtype] } := by
  obtain ⟨defaults, hdefaults, h⟩ := bind_eq_ok.mp h
  obtain ⟨stated, hstated, h⟩ := bind_eq_ok.mp h
  obtain ⟨scene, hscene, h⟩ := bind_eq_ok.mp h
  unfold Scene.add at hscene
  split at hscene
  · cases hscene
  · rename_i hfrozen
    cases hscene
    cases pure_eq_ok.mp h
    refine ⟨defaults, stated, hdefaults, hstated, by simpa using hfrozen, ?_⟩
    dsimp only

/-- An update warns that no entity is meant, or sets the stated attributes of the first that is. -/
theorem update_eq_ok {reference : Token} {clauses : List Token} (h : c.update s reference clauses = .ok c') :
    (c.scene.entities.find? (c.refersTo reference) = none ∧
        c' = c.warn ((Warning.noSuchEntity reference.lexeme).diagnostic reference.span (some s.text))) ∨
      ∃ e stated, c.scene.entities.find? (c.refersTo reference) = some e ∧
        Attributes.read s.text clauses = .ok stated ∧
        c' = { c with
          scene.entities := Scene.updateFirst (c.refersTo reference)
            (fun e => { e with attributes := Assoc.merge e.attributes stated }) c.scene.entities
          events := c.events ++ [.entityUpdated e.id (Assoc.keys stated)] } := by
  unfold update at h
  split at h
  · rename_i hnone
    cases h
    exact Or.inl ⟨hnone, rfl⟩
  · rename_i e hsome
    obtain ⟨stated, hstated, h⟩ := bind_eq_ok.mp h
    exact Or.inr ⟨e, stated, hsome, hstated, (pure_eq_ok.mp h).symm⟩

theorem carryOut_kept {command : Command} (h : c.carryOut s command = .ok c') :
    c'.vocabulary = c.vocabulary ∧ c'.strict = c.strict := by
  cases command with
  | load name =>
    cases h
    obtain ⟨_, _, heq, -⟩ := load_eq (c := c) s.text name
    rw [heq]
    exact ⟨rfl, rfl⟩
  | environment name =>
    cases h
    exact ⟨rfl, rfl⟩
  | draw keyword clauses placed =>
    obtain ⟨_, _, -, -, -, rfl⟩ := draw_eq_ok h
    exact ⟨rfl, rfl⟩
  | update reference clauses => rcases update_eq_ok h with ⟨-, rfl⟩ | ⟨_, _, -, -, rfl⟩ <;> exact ⟨rfl, rfl⟩
  | exportAs options =>
    cases h
    exact ⟨rfl, rfl⟩

/-! ### Runs -/

theorem run_nil : c.run [] = .ok c := rfl

theorem run_cons {statements : List Statement} :
    c.run (s :: statements) = (c.step s).bind fun d => d.run statements := rfl

theorem run_append {before after : List Statement} :
    c.run (before ++ after) = (c.run before).bind fun d => d.run after := List.foldlM_append

/-- The contexts that statements lead to, in any number and order, from an empty scene. -/
inductive Reachable (vocabulary : Vocabulary) (strict : Bool) : Context → Prop
  | start : Reachable vocabulary strict { vocabulary, strict }
  | step {c c' : Context} {s : Statement} :
      Reachable vocabulary strict c → c.step s = .ok c' → Reachable vocabulary strict c'

theorem Reachable.run {vocabulary : Vocabulary} {strict : Bool} {statements : List Statement}
    (hc : Reachable vocabulary strict c) (h : c.run statements = .ok c') : Reachable vocabulary strict c' := by
  induction statements generalizing c with
  | nil =>
    cases h
    exact hc
  | cons s statements ih =>
    obtain ⟨d, hd, h⟩ := bind_eq_ok.mp h
    exact ih (hc.step hd) h

/-! ### Earlier reports

A context with more reports before its own does the same and ends with these reports before its own. -/

/-- The context with diagnostics and events before its own. -/
def behind (c : Context) (ds : List Diagnostic) (es : List Event) : Context :=
  { c with diagnostics := ds ++ c.diagnostics, events := es ++ c.events }

section Behind
variable (ds : List Diagnostic) (es : List Event)

theorem behind_warn (d : Diagnostic) : (c.behind ds es).warn d = (c.warn d).behind ds es := by
  simp [behind, warn]

theorem behind_begin (r : Reading) : (c.behind ds es).begin s r = (c.begin s r).behind ds es := by
  simp [behind, begin]

theorem behind_load (source : String) (name : Token) :
    (c.behind ds es).load source name = (c.load source name).behind ds es := by
  have hloaded : ∀ extension, (c.behind ds es).loadExtension extension = (c.loadExtension extension).behind ds es := by
    intro extension
    unfold loadExtension
    split <;> split <;> first | rfl | contradiction
  simp only [load, hloaded]
  split <;> split
  · rfl
  · contradiction
  · contradiction
  · exact behind_warn ds es _

theorem behind_draw (keyword : String) (clauses : List Token) (placed : Position.Placed) :
    (c.behind ds es).draw s keyword clauses placed =
      (c.draw s keyword clauses placed).map (·.behind ds es) := by
  have htype : (c.behind ds es).typeOf keyword = c.typeOf keyword := rfl
  have hvocabulary : (c.behind ds es).vocabulary = c.vocabulary := rfl
  have hscene : (c.behind ds es).scene = c.scene := rfl
  simp only [draw, htype, hvocabulary, hscene, bind, Except.bind, pure, Except.pure]
  cases c.vocabulary.attributesFor (c.typeOf keyword).subtype with
  | error f => rfl
  | ok defaults =>
    cases Attributes.read s.text clauses with
    | error f => rfl
    | ok stated =>
      cases hfrozen : c.scene.frozen with
      | true => simp [Scene.add, hfrozen, Except.map]
      | false => simp [Scene.add, hfrozen, Except.map, behind, nextId]

theorem behind_update (reference : Token) (clauses : List Token) :
    (c.behind ds es).update s reference clauses = (c.update s reference clauses).map (·.behind ds es) := by
  have hrefers : (c.behind ds es).refersTo reference = c.refersTo reference := rfl
  have hscene : (c.behind ds es).scene = c.scene := rfl
  simp only [update, hrefers, hscene]
  cases c.scene.entities.find? (c.refersTo reference) with
  | none => simp [behind_warn, Except.map]
  | some e =>
    cases Attributes.read s.text clauses with
    | error f => rfl
    | ok stated => simp [bind, Except.bind, pure, Except.pure, Except.map, behind]

theorem behind_carryOut (command : Command) :
    (c.behind ds es).carryOut s command = (c.carryOut s command).map (·.behind ds es) := by
  cases command with
  | load name => exact congrArg Except.ok (behind_load ds es s.text name)
  | environment name => rfl
  | draw keyword clauses placed => exact behind_draw ds es keyword clauses placed
  | update reference clauses => exact behind_update ds es reference clauses
  | exportAs options => rfl

theorem behind_attempt :
    (c.behind ds es).attempt s = (c.attempt s).map fun p => (p.1.behind ds es, p.2) := by
  simp only [attempt_eq, behind_begin]
  cases s.read.outcome with
  | ok command =>
    simp only [behind_carryOut]
    cases (c.begin s s.read).carryOut s command <;> rfl
  | error failure => cases failure <;> rfl

theorem behind_step :
    (c.behind ds es).step s = (c.step s).map (·.behind ds es) := by
  unfold step
  rw [behind_attempt]
  cases c.attempt s with
  | error f => rfl
  | ok p =>
    obtain ⟨d, o⟩ := p
    cases o with
    | none => rfl
    | some r => simp [Except.map, report, refuse, behind, warn, note]

end Behind

/-- The context without its reports. -/
def bare (c : Context) : Context := { c with diagnostics := [], events := [] }

theorem bare_behind (c : Context) : c.bare.behind c.diagnostics c.events = c := by
  simp [bare, behind]

/-- Two contexts that differ in their reports alone. -/
def Agree (c d : Context) : Prop := c.bare = d.bare

namespace Agree
variable {d : Context}

theorem refl (c : Context) : Agree c c := rfl

theorem symm (h : Agree c d) : Agree d c := Eq.symm h

theorem trans (h : Agree c d) (h' : Agree d c') : Agree c c' := Eq.trans h h'

theorem scene (h : Agree c d) : c.scene = d.scene := by
  have hscene := congrArg Context.scene h
  exact hscene

theorem extensions (h : Agree c d) : c.extensions = d.extensions := by
  have hextensions := congrArg Context.extensions h
  exact hextensions

theorem sources (h : Agree c d) : c.sources = d.sources := by
  have hsources := congrArg Context.sources h
  exact hsources

theorem nextId (h : Agree c d) : c.nextId = d.nextId := by
  have hid := congrArg Context.nextId h
  exact hid

/-- What an attempt does does not depend on the reports before it. -/
theorem attempt (h : Agree c d) {o : Option Refusal} (ha : c.attempt s = .ok (c', o)) :
    ∃ d', d.attempt s = .ok (d', o) ∧ Agree c' d' := by
  rw [← bare_behind c, behind_attempt, h] at ha
  rw [← bare_behind d, behind_attempt]
  cases hd : d.bare.attempt s with
  | error f => simp [hd, Except.map] at ha
  | ok p =>
    simp only [hd, Except.map, Except.ok.injEq, Prod.mk.injEq] at ha
    obtain ⟨rfl, rfl⟩ := ha
    exact ⟨_, rfl, rfl⟩

/-- What a statement does and adds to the diagnostics does not depend on the reports before it. -/
theorem step (h : Agree c d) (hstep : c.step s = .ok c') :
    ∃ d' ds, d.step s = .ok d' ∧ Agree c' d' ∧ c'.diagnostics = c.diagnostics ++ ds ∧
      d'.diagnostics = d.diagnostics ++ ds := by
  rw [← bare_behind c, behind_step] at hstep
  obtain ⟨e, he, rfl⟩ := map_eq_ok.mp hstep
  refine ⟨e.behind d.diagnostics d.events, e.diagnostics, ?_, rfl, rfl, rfl⟩
  have hd : d.step s = (d.bare.step s).map (·.behind d.diagnostics d.events) := by
    rw [← behind_step, bare_behind]
  rw [hd, ← h, he]
  rfl

end Agree

/-- What the commands keep, and reports do not bear on, is kept by every statement. -/
theorem step_invariant {p : Context → Prop} (hagree : ∀ {c d : Context}, Agree c d → p c → p d)
    (hcarry : ∀ {c c' : Context} {command : Command}, s.read.outcome = .ok command →
      c.carryOut s command = .ok c' → p c → p c')
    (hc : p c) (h : c.step s = .ok c') : p c' := by
  obtain ⟨⟨d, o⟩, hd, rfl⟩ := step_eq_ok.mp h
  have hbegin : Agree c (c.begin s s.read) := rfl
  have hbegun := hagree hbegin hc
  rcases attempt_cases hd with ⟨command, hcommand, hcarried, rfl⟩ | ⟨r, -, rfl, rfl⟩
  · exact hcarry hcommand hcarried hbegun
  · have hreport : Agree (c.begin s s.read) (report s (c.begin s s.read, some r)) := rfl
    exact hagree hreport hbegun

/-- The vocabulary and the mode stay. -/
theorem step_kept (h : c.step s = .ok c') : c'.vocabulary = c.vocabulary ∧ c'.strict = c.strict := by
  refine step_invariant (p := fun d => d.vocabulary = c.vocabulary ∧ d.strict = c.strict) (fun hagree hd => ?_)
    (fun _ hcarried hd => ?_) ⟨rfl, rfl⟩ h
  · have hvocabulary := congrArg Context.vocabulary hagree
    have hstrict := congrArg Context.strict hagree
    exact ⟨hvocabulary.symm.trans hd.1, hstrict.symm.trans hd.2⟩
  · obtain ⟨hvocabulary, hstrict⟩ := carryOut_kept hcarried
    exact ⟨hvocabulary.trans hd.1, hstrict.trans hd.2⟩

theorem step_vocabulary (h : c.step s = .ok c') : c'.vocabulary = c.vocabulary := (step_kept h).1

theorem Reachable.vocabulary_eq {vocabulary : Vocabulary} {strict : Bool} (h : Reachable vocabulary strict c) :
    c.vocabulary = vocabulary := by
  induction h with
  | start => rfl
  | step _ hstep ih => rw [step_vocabulary hstep, ih]

end Context
end SceneScript
