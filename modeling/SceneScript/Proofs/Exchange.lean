import SceneScript.Proofs.Books
import SceneScript.Proofs.Blur.Places
import SceneScript.Proofs.Lines

/-!
Exchanging statements. What setting an environment or export options writes is not looked at by drawings and
updates, and the reports before a statement are not looked at by any; so a statement of the one kind and one of
the other come to the same scene in either order, and their reports differ in their order alone.
-/

namespace SceneScript

open Command (Opening)

/-- The forms of statements that neither read nor write what statements of the form write. -/
def Command.Opening.others : Opening → List Opening
  | .environment => [.draw, .update, .exportAs]
  | .exportAs => [.load, .draw, .update]
  | _ => []

/-- One of the statements is refused, or neither sees what the other writes. -/
def Statement.Independent (s t : Statement) : Prop :=
  s.refusal?.isSome = true ∨ t.refusal?.isSome = true ∨
    ∃ o p, s.read.opening = some o ∧ t.read.opening = some p ∧ (p ∈ o.others ∨ o ∈ p.others)

namespace Context

variable {c c' d e : Context} {s t : Statement}

/-! ### Contexts with the same reports in another order -/

/-- Contexts that differ in their events and in the order of their diagnostics alone. -/
structure Shuffled (c d : Context) : Prop where
  agree : Agree c d
  diagnostics : c.diagnostics.Perm d.diagnostics

namespace Shuffled

theorem symm (h : Shuffled c d) : Shuffled d c := ⟨h.agree.symm, h.diagnostics.symm⟩

theorem step (h : Shuffled c d) (hstep : c.step s = .ok c') : ∃ d', d.step s = .ok d' ∧ Shuffled c' d' := by
  obtain ⟨d', ds, hd', hagree, hc, hd⟩ := h.agree.step hstep
  refine ⟨d', hd', hagree, ?_⟩
  rw [hc, hd]
  exact h.diagnostics.append_right ds

theorem run {statements : List Statement} (h : Shuffled c d) (hrun : c.run statements = .ok c') :
    ∃ d', d.run statements = .ok d' ∧ Shuffled c' d' := by
  induction statements generalizing c d with
  | nil =>
    cases hrun
    exact ⟨d, rfl, h⟩
  | cons s statements ih =>
    rw [run_cons] at hrun
    obtain ⟨c₁, hc₁, hrest⟩ := bind_eq_ok.mp hrun
    obtain ⟨d₁, hd₁, hshuffled⟩ := h.step hc₁
    obtain ⟨d', hd', hshuffled'⟩ := ih hshuffled hrest
    refine ⟨d', ?_, hshuffled'⟩
    rw [run_cons]
    exact bind_eq_ok.mpr ⟨d₁, hd₁, hd'⟩

theorem anyError (h : Shuffled c d) : Diagnostic.anyError c.diagnostics = Diagnostic.anyError d.diagnostics :=
  h.diagnostics.any_eq

theorem resolve {n : Nat} (h : Shuffled c d) (hresolve : c.resolve = .ok (c', n)) :
    ∃ d', d.resolve = .ok (d', n) ∧ Shuffled c' d' := by
  rcases resolve_eq_ok.mp hresolve with ⟨herror, rfl, rfl⟩ | ⟨hnone, settled, hsettled, rfl, rfl⟩
  · rw [h.anyError] at herror
    exact ⟨d, resolve_eq_ok.mpr (Or.inl ⟨herror, rfl, rfl⟩), h⟩
  · rw [h.anyError] at hnone
    rw [h.agree.scene, h.agree.sources] at hsettled
    refine ⟨d.settleBy settled, resolve_eq_ok.mpr (Or.inr ⟨hnone, settled, hsettled, rfl, rfl⟩), ?_, ?_⟩
    · have hagree := congrArg (fun e : Context => { e with scene.entities := settled.entities }) h.agree
      exact hagree
    · exact h.diagnostics.append_right settled.warnings

end Shuffled

/-! ### Effects that drawings and updates do not see -/

/-- The part of a context that drawings, updates and reports write. -/
structure Written where
  entities : List Entity
  diagnostics : List Diagnostic
  sources : List (String × Statement)
  drawn : Nat
  events : List Event

def written (c : Context) : Written := ⟨c.scene.entities, c.diagnostics, c.sources, c.drawn, c.events⟩

def put (c : Context) (w : Written) : Context :=
  { c with
    scene.entities := w.entities
    diagnostics := w.diagnostics
    sources := w.sources
    drawn := w.drawn
    events := w.events }

/-- What a drawing writes, with the type of its keyword and the attributes of the entity. -/
def Written.draw (w : Written) (s : Statement) (keyword : String) (type : EntityType) (attributes : Attributes)
    (placed : Position.Placed) : Written :=
  let id := "entity_" ++ toString (w.drawn + 1)
  { entities := w.entities ++ [{
      id, category := type.category, subtype := type.subtype, keyword := type.keyword, attributes,
      position := placed.position }]
    diagnostics := w.diagnostics ++ placed.warning.toList
    sources := Assoc.set w.sources id s
    drawn := w.drawn + 1
    events := w.events ++ [.entityDrawn id keyword type.category type.subtype] }

theorem draw_eq (keyword : String) (clauses : List Token) (placed : Position.Placed) :
    c.draw s keyword clauses placed =
      (c.vocabulary.attributesFor (c.typeOf keyword).subtype).bind fun defaults =>
        (Attributes.read s.text clauses).bind fun stated =>
          if c.scene.frozen then .error .sceneFrozen
          else .ok (c.put (c.written.draw s keyword (c.typeOf keyword) (Assoc.merge defaults stated) placed)) := by
  refine congrArg (Except.bind _) (funext fun defaults => congrArg (Except.bind _) (funext fun stated => ?_))
  simp only [Scene.add]
  by_cases hfrozen : c.scene.frozen = true
  · rw [if_pos hfrozen, if_pos hfrozen]
    rfl
  · rw [if_neg hfrozen, if_neg hfrozen]
    rfl

/-- The effect changes nothing that drawings and updates read, and commutes with all that they write. -/
structure Aside (f : Context → Context) : Prop where
  vocabulary : ∀ c, (f c).vocabulary = c.vocabulary
  strict : ∀ c, (f c).strict = c.strict
  extensions : ∀ c, (f c).extensions = c.extensions
  frozen : ∀ c, (f c).scene.frozen = c.scene.frozen
  put : ∀ c w, (f c).put w = f (c.put w)

/-- An export sets the options that the scene is exported with. -/
def setExport (c : Context) (options : ExportOptions) : Context :=
  { c with scene.metadata.exportOptions := some options }

theorem aside_id : Aside id := ⟨fun _ => rfl, fun _ => rfl, fun _ => rfl, fun _ => rfl, fun _ _ => rfl⟩

theorem aside_setEnvironment (name : Token) : Aside (·.setEnvironment name) :=
  ⟨fun _ => rfl, fun _ => rfl, fun _ => rfl, fun _ => rfl, fun _ _ => rfl⟩

theorem aside_setExport (options : ExportOptions) : Aside (·.setExport options) :=
  ⟨fun _ => rfl, fun _ => rfl, fun _ => rfl, fun _ => rfl, fun _ _ => rfl⟩

namespace Aside

variable {f : Context → Context}

theorem written (h : Aside f) (c : Context) : (f c).written = c.written := by
  have hput : (f c).put c.written = f c := h.put c c.written
  rw [← hput]
  rfl

/-- A change of what is written goes through the effect. -/
theorem change (h : Aside f) (c : Context) (g : Written → Written) :
    (f c).put (g (f c).written) = f (c.put (g c.written)) := by rw [h.written, h.put]

theorem entities (h : Aside f) (c : Context) : (f c).scene.entities = c.scene.entities :=
  congrArg Written.entities (h.written c)

theorem diagnostics (h : Aside f) (c : Context) : (f c).diagnostics = c.diagnostics :=
  congrArg Written.diagnostics (h.written c)

theorem typeOf (h : Aside f) (c : Context) (keyword : String) : (f c).typeOf keyword = c.typeOf keyword := by
  rw [Context.typeOf, Context.typeOf, h.vocabulary, h.extensions, h.strict]

theorem begin (h : Aside f) (c : Context) (r : Reading) : (f c).begin s r = f (c.begin s r) :=
  h.change c fun w => { w with
    diagnostics := w.diagnostics ++ r.warnings
    events := w.events ++ r.opening.toList.map fun o => .statementBegun s.line o.word }

theorem warn (h : Aside f) (c : Context) (d : Diagnostic) : (f c).warn d = f (c.warn d) :=
  h.change c fun w => { w with diagnostics := w.diagnostics ++ [d] }

theorem refuse (h : Aside f) (c : Context) (r : Refusal) : (f c).refuse s r = f (c.refuse s r) :=
  h.change c fun w => { w with
    diagnostics := w.diagnostics ++ [r.diagnostic]
    events := w.events ++ [.statementRefused s.line r.diagnostic.message] }

theorem draw (h : Aside f) (c : Context) (keyword : String) (clauses : List Token) (placed : Position.Placed) :
    (f c).draw s keyword clauses placed = (c.draw s keyword clauses placed).map f := by
  rw [draw_eq, draw_eq, h.vocabulary, h.typeOf, h.frozen]
  cases c.vocabulary.attributesFor (c.typeOf keyword).subtype with
  | error fault => rfl
  | ok defaults =>
    cases Attributes.read s.text clauses with
    | error fault => rfl
    | ok stated =>
      cases c.scene.frozen with
      | true => rfl
      | false => exact congrArg Except.ok (h.change c (·.draw s keyword _ _ placed))

theorem update (h : Aside f) (c : Context) (reference : Token) (clauses : List Token) :
    (f c).update s reference clauses = (c.update s reference clauses).map f := by
  have hrefers : (f c).refersTo reference = c.refersTo reference := by
    funext e
    rw [Context.refersTo, Context.refersTo, h.typeOf]
  simp only [Context.update, hrefers, h.entities]
  cases c.scene.entities.find? (c.refersTo reference) with
  | none => exact congrArg Except.ok (h.warn c _)
  | some e =>
    cases Attributes.read s.text clauses with
    | error fault => rfl
    | ok stated =>
      exact congrArg Except.ok (h.change c fun w => { w with
        entities := _
        events := w.events ++ [_] })

/-- A statement whose command goes through the effect does so too. -/
theorem step (h : Aside f) (hcarry : ∀ command, t.read.outcome = .ok command → ∀ c,
    (f c).carryOut t command = (c.carryOut t command).map f) (c : Context) : (f c).step t = (c.step t).map f := by
  simp only [Context.step, attempt_eq]
  simp only [h.begin]
  cases houtcome : t.read.outcome with
  | ok command =>
    simp only [hcarry command houtcome]
    cases (c.begin t t.read).carryOut t command <;> rfl
  | error failure =>
    cases failure with
    | refused r => exact congrArg Except.ok (h.refuse (c.begin t t.read) r)
    | fault fault => rfl

end Aside

/-! ### Statements that go past each other -/

/-- What two statements come to in this order they also come to in the other, up to the order of reports. -/
def Exchanges (s t : Statement) : Prop :=
  ∀ c e : Context, c.run [s, t] = .ok e → ∃ e', c.run [t, s] = .ok e' ∧ Shuffled e e'

/-- Whatever the context, the statement has the effect and adds the diagnostics. -/
def Acts (s : Statement) (f : Context → Context) (ds : List Diagnostic) : Prop :=
  ∀ c : Context, ∃ c', c.step s = .ok c' ∧ Agree (f c) c' ∧ c'.diagnostics = c.diagnostics ++ ds

theorem run_pair : c.run [s, t] = .ok e ↔ ∃ d, c.step s = .ok d ∧ d.step t = .ok e := by
  constructor
  · intro h
    obtain ⟨d, hd, h⟩ := bind_eq_ok.mp h
    obtain ⟨_, he, h⟩ := bind_eq_ok.mp h
    cases h
    exact ⟨d, hd, he⟩
  · rintro ⟨d, hd, he⟩
    exact bind_eq_ok.mpr ⟨d, hd, bind_eq_ok.mpr ⟨e, he, rfl⟩⟩

section Exchange
variable {f : Context → Context} {ds : List Diagnostic}

theorem acts_of_refused {r : Refusal} (h : s.read.outcome = .error (.refused r)) :
    Acts s id (s.read.warnings ++ [r.diagnostic]) := by
  intro c
  refine ⟨(c.begin s s.read).refuse s r, step_eq_ok.mpr ⟨_, attempt_of_refused h, rfl⟩, rfl, ?_⟩
  exact List.append_assoc c.diagnostics s.read.warnings [r.diagnostic]

theorem Aside.acts (hf : Aside f) {command : Command} (h : s.read.outcome = .ok command)
    (hcarry : ∀ c : Context, c.carryOut s command = .ok (f c)) : Acts s f s.read.warnings := by
  intro c
  refine ⟨f (c.begin s s.read), ?_, ?_, ?_⟩
  · simp [Context.step, attempt_eq, h, hcarry, Except.map, report]
  · rw [← hf.begin]
    rfl
  · exact hf.diagnostics (c.begin s s.read)

/-- Both orders end well where the other statement does, and differ in the order of their reports alone. -/
theorem Acts.past (hs : Acts s f ds) (hf : Aside f) (ht : ∀ c, (f c).step t = (c.step t).map f)
    (hd : c.step t = .ok d) :
    ∃ c₁ e e', c.step s = .ok c₁ ∧ c₁.step t = .ok e ∧ d.step s = .ok e' ∧ Shuffled e e' := by
  obtain ⟨c₁, hc₁, hagree, hadded⟩ := hs c
  obtain ⟨e', he', hagree', hadded'⟩ := hs d
  have hpast : (f c).step t = .ok (f d) := by
    rw [ht, hd]
    rfl
  obtain ⟨e, us, he, hagree₁, hus, hus'⟩ := hagree.step hpast
  rw [hf.diagnostics, hf.diagnostics] at hus
  refine ⟨c₁, e, e', hc₁, he, he', hagree₁.symm.trans hagree', ?_⟩
  rw [hus', hadded, hadded', hus, List.append_assoc, List.append_assoc]
  exact List.perm_append_comm.append_left c.diagnostics

/-- A statement with an effect aside goes past one that its effect does not matter to. -/
theorem Acts.exchanges (hs : Acts s f ds) (hf : Aside f) (ht : ∀ c, (f c).step t = (c.step t).map f) :
    Exchanges s t ∧ Exchanges t s := by
  constructor
  · intro c e hrun
    obtain ⟨c₁, hc₁, he⟩ := run_pair.mp hrun
    obtain ⟨c₂, hc₂, hagree, -⟩ := hs c
    rw [hc₁] at hc₂
    cases hc₂
    -- Behind the effect the second statement ends well, so it does in front of it too.
    obtain ⟨_, _, he₁, -⟩ := hagree.symm.step he
    rw [ht] at he₁
    obtain ⟨d, hd, -⟩ := map_eq_ok.mp he₁
    obtain ⟨c₂, e₂, e', hc₂, he₂, he', hshuffled⟩ := hs.past hf ht hd
    rw [hc₁] at hc₂
    cases hc₂
    rw [he] at he₂
    cases he₂
    exact ⟨e', run_pair.mpr ⟨d, hd, he'⟩, hshuffled⟩
  · intro c e hrun
    obtain ⟨d, hd, he⟩ := run_pair.mp hrun
    obtain ⟨c₁, e₁, e', hc₁, he₁, he', hshuffled⟩ := hs.past hf ht hd
    rw [he] at he'
    cases he'
    exact ⟨e₁, run_pair.mpr ⟨c₁, hc₁, he₁⟩, hshuffled.symm⟩

theorem exchanges_of_refused (h : s.refusal?.isSome = true) : Exchanges s t ∧ Exchanges t s := by
  obtain ⟨r, hr⟩ := Option.isSome_iff_exists.mp h
  refine (acts_of_refused (Statement.refusal?_eq_some.mp hr)).exchanges aside_id fun c => ?_
  cases hstep : c.step t <;> simp [hstep, Except.map]

theorem setExport_loadExtension (options : ExportOptions) (extension : String) :
    (c.setExport options).loadExtension extension = (c.loadExtension extension).setExport options := by
  unfold loadExtension
  split <;> split <;> first | rfl | contradiction

theorem setExport_load (options : ExportOptions) (source : String) (name : Token) :
    (c.setExport options).load source name = (c.load source name).setExport options := by
  simp only [load, setExport_loadExtension]
  split <;> split
  · rfl
  · contradiction
  · contradiction
  · rfl

end Exchange

/-- A statement of the one form goes past a statement of the other. -/
theorem exchanges_of_mem_others {o p : Opening} (ho : s.read.opening = some o) (hp : t.read.opening = some p)
    (h : p ∈ o.others) : Exchanges s t ∧ Exchanges t s := by
  cases houtcome : s.read.outcome with
  | error failure =>
    cases failure with
    | refused r => exact exchanges_of_refused (by rw [Statement.refusal?_eq_some.mpr houtcome]; rfl)
    | fault fault =>
      rw [Statement.opening_of_fault houtcome] at ho
      cases ho
  | ok command =>
    have hopening : command.opening = o := by
      rw [Statement.opening_of_read houtcome] at ho
      exact Option.some.inj ho
    have hother : ∀ command', t.read.outcome = .ok command' → command'.opening = p := by
      intro command' houtcome'
      rw [Statement.opening_of_read houtcome'] at hp
      exact Option.some.inj hp
    subst hopening
    cases command with
    | environment name =>
      have haside := aside_setEnvironment name
      refine (haside.acts houtcome fun _ => rfl).exchanges haside (haside.step fun command' hcommand' c => ?_)
      have hform := hother command' hcommand'
      cases command' with
      | draw keyword clauses placed => exact haside.draw c keyword clauses placed
      | update reference clauses => exact haside.update c reference clauses
      | exportAs options => rfl
      | _ =>
        subst hform
        simp [Command.opening, Command.Opening.others] at h
    | exportAs options =>
      have haside := aside_setExport options
      refine (haside.acts houtcome fun _ => rfl).exchanges haside (haside.step fun command' hcommand' c => ?_)
      have hform := hother command' hcommand'
      cases command' with
      | load name => exact congrArg Except.ok (setExport_load options t.text name)
      | draw keyword clauses placed => exact haside.draw c keyword clauses placed
      | update reference clauses => exact haside.update c reference clauses
      | _ =>
        subst hform
        simp [Command.opening, Command.Opening.others] at h
    | _ => simp [Command.opening, Command.Opening.others] at h

theorem exchanges_of_independent (h : s.Independent t) : Exchanges s t := by
  rcases h with h | h | ⟨o, p, ho, hp, h | h⟩
  · exact (exchanges_of_refused h).1
  · exact (exchanges_of_refused h).2
  · exact (exchanges_of_mem_others ho hp h).1
  · exact (exchanges_of_mem_others hp ho h).2

/-- Statements that go past each other do so within any others. -/
theorem Exchanges.run (h : Exchanges s t) {before after : List Statement}
    (hrun : c.run (before ++ s :: t :: after) = .ok c') :
    ∃ d', c.run (before ++ t :: s :: after) = .ok d' ∧ Shuffled c' d' := by
  have hsplit : ∀ s t : Statement, before ++ s :: t :: after = before ++ ([s, t] ++ after) := fun _ _ => rfl
  rw [hsplit, run_append] at hrun
  obtain ⟨c₁, hc₁, hrest⟩ := bind_eq_ok.mp hrun
  rw [run_append] at hrest
  obtain ⟨c₂, hc₂, hafter⟩ := bind_eq_ok.mp hrest
  obtain ⟨d₂, hd₂, hshuffled⟩ := h c₁ c₂ hc₂
  obtain ⟨d', hd', hshuffled'⟩ := hshuffled.run hafter
  refine ⟨d', ?_, hshuffled'⟩
  rw [hsplit, run_append]
  refine bind_eq_ok.mpr ⟨c₁, hc₁, ?_⟩
  rw [run_append]
  exact bind_eq_ok.mpr ⟨d₂, hd₂, hd'⟩

end Context

/-! ### Parses -/

/-- The lines of the second text are those of the first, with the lines of two statements exchanged between which
    there is none. -/
def LinesExchanged (filename : Option String) (source source' : String) (s t : Statement) : Prop :=
  ∃ (before between after : List (List Char)) (first second : List Char),
    Text.splitAt '\n' source.toList = before ++ first :: (between ++ second :: after) ∧
    Text.splitAt '\n' source'.toList = before ++ second :: (between ++ first :: after) ∧
    Statement.ofLine? filename (before.length + 1) first = some s ∧
    Statement.ofLines filename (before.length + 2) between = [] ∧
    Statement.ofLine? filename (before.length + between.length + 2) second = some t

theorem LinesExchanged.statements {filename : Option String} {source source' : String} {s t : Statement}
    (h : LinesExchanged filename source source' s t) :
    ∃ before after s' t', Statement.ofSource source filename = before ++ s :: t :: after ∧
      Statement.ofSource source' filename = before ++ t' :: s' :: after ∧ s.text = s'.text ∧ t.text = t'.text := by
  obtain ⟨before, between, after, first, second, hsource, hsource', hs, hbetween, ht⟩ := h
  have hlines : ∀ {source : String} {first second : List Char} {s t : Statement},
      Text.splitAt '\n' source.toList = before ++ first :: (between ++ second :: after) →
      Statement.ofLine? filename (before.length + 1) first = some s →
      Statement.ofLine? filename (before.length + between.length + 2) second = some t →
      Statement.ofSource source filename = Statement.ofLines filename 1 before ++
        s :: t :: Statement.ofLines filename (before.length + between.length + 3) after := by
    intro source first second s t hsource hs ht
    have hfirst : 1 + before.length = before.length + 1 := Nat.add_comm _ _
    have hsecond : before.length + 2 + between.length = before.length + between.length + 2 := by omega
    rw [Statement.ofSource, hsource, Statement.ofLines_append, hfirst, Statement.ofLines, hs,
      Statement.ofLines_append, hbetween, hsecond, Statement.ofLines, ht]
    rfl
  exact ⟨_, _, _, _, hlines hsource hs ht,
    hlines hsource' (Statement.ofLine?_renumber ht _) (Statement.ofLine?_renumber hs _), rfl, rfl⟩

/-- Independent statements commute. A text with the lines of two neighbouring independent statements exchanged is
    parsed if the text is, with the same scene and the same diagnostics but for their places and order. -/
theorem readSource_exchanged {v : Vocabulary} {strict : Bool} {source source' : String} {filename : Option String}
    {s t : Statement} {r : Result} (hexchanged : LinesExchanged filename source source' s t)
    (hindependent : s.Independent t) (h : readSource v strict source filename = .ok r) :
    ∃ r', readSource v strict source' filename = .ok r' ∧ r.success = r'.success ∧ r.scene = r'.scene ∧
      (r.diagnostics.map fun d => (d.code, d.message)).Perm (r'.diagnostics.map fun d => (d.code, d.message)) := by
  obtain ⟨before, after, s', t', hsource, hsource', hs, ht⟩ := hexchanged.statements
  obtain ⟨c, ⟨d, n⟩, hc, hd, rfl⟩ := readSource_eq_ok.mp h
  rw [hsource] at hc
  -- First the statements are exchanged on their lines, then each is moved to the line of the other.
  obtain ⟨c₁, hc₁, hshuffled⟩ := (Context.exchanges_of_independent hindependent).run hc
  obtain ⟨d₁, hd₁, hshuffled₁⟩ := hshuffled.resolve hd
  have hmoved : List.Forall₂ (fun s s' => Blur.anywhere.Matches s s' ∧ s.reference? = s'.reference?)
      (before ++ t :: s :: after) (before ++ t' :: s' :: after) := by
    have hsame : ∀ statements : List Statement,
        List.Forall₂ (fun s s' => Blur.anywhere.Matches s s' ∧ s.reference? = s'.reference?) statements statements :=
      fun statements => List.forall₂_same.mpr fun s _ => Blur.matches_of_letters rfl rfl fun _ => rfl
    exact List.rel_append (hsame before)
      (.cons (Blur.matches_of_letters rfl ht fun _ => rfl)
        (.cons (Blur.matches_of_letters rfl hs fun _ => rfl) (hsame after)))
  obtain ⟨c₂, hc₂, halike⟩ := (Blur.Alike.refl _).run hmoved hc₁
  obtain ⟨d₂, hd₂, halike₂⟩ := halike.resolve hd₁
  rw [← hsource'] at hc₂
  have hresults := halike₂.result
  refine ⟨.ofContext d₂, readSource_eq_ok.mpr ⟨c₂, (d₂, n), hc₂, hd₂, rfl⟩, ?_, ?_, ?_⟩
  · have hsuccess : (Result.ofContext d).success = (Result.ofContext d₁).success := congrArg (!·) hshuffled₁.anyError
    exact hsuccess.trans hresults.success
  · have hscene : (Result.ofContext d).scene = (Result.ofContext d₁).scene :=
      congrArg Scene.freeze hshuffled₁.agree.scene
    exact hscene.trans (hresults.scene_of_letters rfl)
  · have hsaid : ∀ ds : List Diagnostic, (ds.map fun d => (d.code, d.message)) =
        (ds.map Blur.anywhere.diagnostic).map fun d => (d.code, d.message) := by
      intro ds
      simp only [List.map_map, Function.comp_def, Blur.diagnostic_of_letters (b := Blur.anywhere) rfl]
    have hmoved : (d₁.diagnostics.map fun d => (d.code, d.message)) =
        d₂.diagnostics.map fun d => (d.code, d.message) := by
      rw [hsaid d₁.diagnostics, hsaid d₂.diagnostics, halike₂.diagnostics]
    have hperm := hshuffled₁.diagnostics.map fun d => (d.code, d.message)
    rw [hmoved] at hperm
    exact hperm

/-- A drawing beside what is not there and, past a comment, an export with an unknown option: both warn. -/
theorem readSource_exchanged_past :
    ∃ r r', readSource {} false "DRAW MAN\nDRAW MAN NEAR TREE\n// Done\nEXPORT AS PNG GLOW: 1" none = .ok r ∧
      readSource {} false "DRAW MAN\nEXPORT AS PNG GLOW: 1\n// Done\nDRAW MAN NEAR TREE" none = .ok r' ∧
      r.success = r'.success ∧ r.scene = r'.scene ∧
      (r.diagnostics.map fun d => (d.code, d.message)).Perm (r'.diagnostics.map fun d => (d.code, d.message)) := by
  have hexchanged : LinesExchanged none "DRAW MAN\nDRAW MAN NEAR TREE\n// Done\nEXPORT AS PNG GLOW: 1"
      "DRAW MAN\nEXPORT AS PNG GLOW: 1\n// Done\nDRAW MAN NEAR TREE"
      ⟨2, "DRAW MAN NEAR TREE", 1, none⟩ ⟨4, "EXPORT AS PNG GLOW: 1", 1, none⟩ :=
    ⟨["DRAW MAN".toList], ["// Done".toList], [], "DRAW MAN NEAR TREE".toList, "EXPORT AS PNG GLOW: 1".toList,
      by decide +kernel, by decide +kernel, by decide +kernel, by decide +kernel, by decide +kernel⟩
  have hindependent : Statement.Independent ⟨2, "DRAW MAN NEAR TREE", 1, none⟩ ⟨4, "EXPORT AS PNG GLOW: 1", 1, none⟩ :=
    Or.inr (Or.inr ⟨.draw, .exportAs, by decide +kernel, by decide +kernel, Or.inr (by decide)⟩)
  have hparsed : (readSource {} false "DRAW MAN\nDRAW MAN NEAR TREE\n// Done\nEXPORT AS PNG GLOW: 1"
      none).toOption.isSome = true := by decide +kernel
  obtain ⟨r, hr⟩ := toOption_isSome.mp hparsed
  obtain ⟨r', hr', hsame⟩ := readSource_exchanged hexchanged hindependent hr
  exact ⟨r, r', hr, hr', hsame⟩

end SceneScript
