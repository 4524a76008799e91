import SceneScript.Proofs.Errors
import SceneScript.Proofs.Settling
import SceneScript.Vocabulary

/-!
Reading whole source texts. Scenes that statements lead to are open for further entities and pair every
target with a relation, so their positions always settle; a parse then ends well whenever its statements
do, and its errors are their refusals.
-/

namespace SceneScript

theorem Scene.mem_updateFirst {p : Entity → Bool} {f : Entity → Entity} {entities : List Entity} {e : Entity}
    (h : e ∈ updateFirst p f entities) : e ∈ entities ∨ ∃ e₀ ∈ entities, e = f e₀ := by
  induction entities with
  | nil => cases h
  | cons e₁ rest ih =>
    unfold updateFirst at h
    split at h
    · rcases List.mem_cons.mp h with rfl | h
      · exact Or.inr ⟨e₁, List.mem_cons_self, rfl⟩
      · exact Or.inl (List.mem_cons_of_mem _ h)
    · rcases List.mem_cons.mp h with rfl | h
      · exact Or.inl List.mem_cons_self
      · rcases ih h with h | ⟨e₀, he₀, rfl⟩
        · exact Or.inl (List.mem_cons_of_mem _ h)
        · exact Or.inr ⟨e₀, List.mem_cons_of_mem _ he₀, rfl⟩

namespace Context

variable {c c' : Context} {s : Statement} {vocabulary : Vocabulary} {strict : Bool}

/-! ### Scenes that statements lead to -/

/-- The scene takes further entities, and each of its entities has a target exactly if it has a relation
    to one. -/
structure Sound (c : Context) : Prop where
  unfrozen : c.scene.frozen = false
  paired : ∀ e ∈ c.scene.entities, e.position.Paired

namespace Sound

theorem of_eq (h : c.Sound) (hfrozen : c'.scene.frozen = c.scene.frozen)
    (hentities : c'.scene.entities = c.scene.entities) : c'.Sound :=
  ⟨by rw [hfrozen, h.unfrozen], by rw [hentities]; exact h.paired⟩

theorem load (h : c.Sound) (source : String) (name : Token) : (c.load source name).Sound := by
  obtain ⟨_, _, heq, -⟩ := load_eq (c := c) source name
  rw [heq]
  exact h.of_eq rfl rfl

theorem draw {keyword : String} {clauses : List Token} {placed : Position.Placed} (h : c.Sound)
    (hplaced : placed.Sound) (hdrawn : c.draw s keyword clauses placed = .ok c') : c'.Sound := by
  obtain ⟨_, _, -, -, -, rfl⟩ := draw_eq_ok hdrawn
  refine ⟨h.unfrozen, fun e he => ?_⟩
  rcases List.mem_append.mp he with he | he
  · exact h.paired e he
  · rw [List.mem_singleton.mp he]
    exact hplaced.paired

theorem update {reference : Token} {clauses : List Token} (h : c.Sound)
    (hupdated : c.update s reference clauses = .ok c') : c'.Sound := by
  rcases update_eq_ok hupdated with ⟨-, rfl⟩ | ⟨_, _, -, -, rfl⟩
  · exact h.of_eq rfl rfl
  · refine ⟨h.unfrozen, fun e he => ?_⟩
    -- An update sets attributes and leaves positions alone.
    rcases Scene.mem_updateFirst he with he | ⟨e₀, he₀, rfl⟩
    · exact h.paired e he
    · exact h.paired e₀ he₀

theorem carryOut {command : Command} (h : c.Sound) (hs : command.Sound)
    (hcarried : c.carryOut s command = .ok c') : c'.Sound := by
  cases command with
  | load name =>
    cases hcarried
    exact h.load s.text name
  | environment name =>
    cases hcarried
    exact h.of_eq rfl rfl
  | draw keyword clauses placed => exact h.draw hs hcarried
  | update reference clauses => exact h.update hcarried
  | exportAs options =>
    cases hcarried
    exact h.of_eq rfl rfl

theorem step (h : c.Sound) (hstep : c.step s = .ok c') : c'.Sound := by
  refine step_invariant (fun hagree hc => ?_) (fun hcommand hcarried hc => ?_) h hstep
  · exact hc.of_eq (congrArg Scene.frozen hagree.scene.symm) (congrArg Scene.entities hagree.scene.symm)
  · exact hc.carryOut (Statement.sound_of_read hcommand) hcarried

theorem related (h : c.Sound) : Resolution.Related c.scene.entities := fun e he hto => by
  rw [h.paired e he]
  exact hto

end Sound

theorem Reachable.sound (h : Reachable vocabulary strict c) : c.Sound := by
  induction h with
  | start => exact ⟨rfl, by simp⟩
  | step _ hstep ih => exact ih.step hstep

/-! ### Settling positions -/

/-- The context with the positions of a resolution and its reports after those before. -/
def settleBy (c : Context) (r : Resolution) : Context :=
  { c with
    scene.entities := r.entities
    diagnostics := c.diagnostics ++ r.warnings
    events := c.events ++ r.events }

theorem resolve_eq_ok {n : Nat} :
    c.resolve = .ok (c', n) ↔
      (Diagnostic.anyError c.diagnostics = true ∧ c = c' ∧ 0 = n) ∨
        Diagnostic.anyError c.diagnostics = false ∧ ∃ r : Resolution,
          Resolution.ofEntities c.scene.entities c.sources = (r, none) ∧ c.settleBy r = c' ∧ r.found = n := by
  unfold Context.resolve
  cases Diagnostic.anyError c.diagnostics with
  | true => simp
  | false =>
    obtain ⟨r, fault⟩ := Resolution.ofEntities c.scene.entities c.sources
    cases fault with
    | none => simp [settleBy]
    | some f => simp

/-- After an error nothing settles; without one everything does. -/
theorem Sound.resolve_cases (h : c.Sound) :
    (Diagnostic.anyError c.diagnostics = true ∧ c.resolve = .ok (c, 0)) ∨
      Diagnostic.anyError c.diagnostics = false ∧ ∃ settled : Resolution,
        c.resolve = .ok (c.settleBy settled, settled.found) ∧
          Resolution.SettledTo (.ofEntities c.scene.entities) c.sources c.scene.entities
            c.scene.entities.length settled := by
  unfold Context.resolve
  cases herror : Diagnostic.anyError c.diagnostics with
  | true => exact Or.inl ⟨rfl, rfl⟩
  | false =>
    obtain ⟨settled, heq, hsettled⟩ := Resolution.ofEntities_eq c.sources h.related
    rw [heq]
    exact Or.inr ⟨rfl, settled, rfl, hsettled⟩

/-- Positions settle, and the only reports are warnings. -/
theorem Sound.resolve (h : c.Sound) : ∃ p, c.resolve = .ok p ∧ Warns c p.1 := by
  rcases h.resolve_cases with ⟨-, heq⟩ | ⟨-, settled, heq, hsettled⟩
  · exact ⟨_, heq, Appends.of_eq rfl⟩
  · exact ⟨_, heq, settled.warnings, rfl, fun w hw => (hsettled.isWarning w hw).severity⟩

end Context

/-! ### Parses -/

section Parses
variable {v : Vocabulary} {strict : Bool} {source : String} {filename : Option String}

theorem readSource_eq_ok {r : Result} :
    readSource v strict source filename = .ok r ↔
      ∃ c p, Context.run { vocabulary := v, strict } (Statement.ofSource source filename) = .ok c ∧
        c.resolve = .ok p ∧ Result.ofContext p.1 = r := by
  unfold readSource
  constructor
  · intro h
    obtain ⟨c, hc, h⟩ := bind_eq_ok.mp h
    obtain ⟨p, hp, h⟩ := bind_eq_ok.mp h
    exact ⟨c, p, hc, hp, pure_eq_ok.mp h⟩
  · rintro ⟨c, p, hc, hp, rfl⟩
    exact bind_eq_ok.mpr ⟨c, hc, bind_eq_ok.mpr ⟨p, hp, rfl⟩⟩

/-- A parse ends well exactly if its statements are all carried out or refused. -/
theorem exists_readSource_iff :
    (∃ r, readSource v strict source filename = .ok r) ↔
      ∃ c, Context.run { vocabulary := v, strict } (Statement.ofSource source filename) = .ok c := by
  constructor
  · rintro ⟨r, h⟩
    obtain ⟨c, -, hc, -, -⟩ := readSource_eq_ok.mp h
    exact ⟨c, hc⟩
  · rintro ⟨c, hc⟩
    obtain ⟨p, hp, -⟩ := (Context.Reachable.start.run hc).sound.resolve
    exact ⟨_, readSource_eq_ok.mpr ⟨c, p, hc, hp, rfl⟩⟩

/-- A parse that fails ends in the context of its statements, and one that succeeds in the same with all
    positions settled. -/
theorem readSource_cases {r : Result} (h : readSource v strict source filename = .ok r) :
    ∃ c, Context.run { vocabulary := v, strict } (Statement.ofSource source filename) = .ok c ∧
      ((r.success = false ∧ r = .ofContext c) ∨
        r.success = true ∧ ∃ settled : Resolution, r = .ofContext (c.settleBy settled) ∧
          Resolution.SettledTo (.ofEntities c.scene.entities) c.sources c.scene.entities
            c.scene.entities.length settled) := by
  obtain ⟨c, p, hc, hp, rfl⟩ := readSource_eq_ok.mp h
  refine ⟨c, hc, ?_⟩
  rcases (Context.Reachable.start.run hc).sound.resolve_cases with
    ⟨herror, heq⟩ | ⟨hnone, settled, heq, hsettled⟩
  · rw [heq] at hp
    cases hp
    exact Or.inl ⟨by simp [Result.success, Result.ofContext, herror], rfl⟩
  · rw [heq] at hp
    cases hp
    have hwarnings := Diagnostic.errors_eq_nil fun w hw => (hsettled.isWarning w hw).severity
    refine Or.inr ⟨?_, settled, rfl, hsettled⟩
    rw [Diagnostic.anyError_eq] at hnone
    simpa [Result.success, Result.ofContext, Context.settleBy, Diagnostic.anyError_eq, Diagnostic.errors_append,
      hwarnings] using hnone

/-- The errors of a parse are the refusals of its statements. -/
theorem errors_readSource {r : Result} (h : readSource v strict source filename = .ok r) :
    Diagnostic.errors r.diagnostics =
      (Statement.refusals (Statement.ofSource source filename)).map Refusal.diagnostic := by
  obtain ⟨c, p, hc, hp, rfl⟩ := readSource_eq_ok.mp h
  obtain ⟨p', hp', hwarns⟩ := (Context.Reachable.start.run hc).sound.resolve
  rw [hp] at hp'
  cases hp'
  calc Diagnostic.errors p.1.diagnostics
    _ = Diagnostic.errors c.diagnostics := hwarns.errors_eq
    _ = (Statement.refusals (Statement.ofSource source filename)).map Refusal.diagnostic :=
      Context.errors_run hc

/-- Errors are told by the text alone. Contexts of any vocabulary, mode and history refuse the same
    statements for the same cause at the same place, and parses that end well have the same errors and
    succeed alike. -/
theorem errors_of_text :
    (∀ (c d : Context) (s : Statement) (r : Refusal), c.Refuses s r ↔ d.Refuses s r) ∧
      ∀ (v w : Vocabulary) (strict strict' : Bool) (source : String) (filename : Option String) (r r' : Result),
        readSource v strict source filename = .ok r → readSource w strict' source filename = .ok r' →
          Diagnostic.errors r.diagnostics = Diagnostic.errors r'.diagnostics ∧ r.success = r'.success := by
  refine ⟨fun c d s r => by rw [Context.refuses_iff, Context.refuses_iff], ?_⟩
  intro v w strict strict' source filename r r' h h'
  have herrors : Diagnostic.errors r.diagnostics = Diagnostic.errors r'.diagnostics := by
    rw [errors_readSource h, errors_readSource h']
  refine ⟨herrors, ?_⟩
  unfold Result.success
  rw [Diagnostic.anyError_eq, Diagnostic.anyError_eq, herrors]

/-- A fresh context without a vocabulary refuses what one with an entity and extensions refuses, and the errors of
    a text are the same for both vocabularies and in both modes. -/
theorem errors_of_text_bundled :
    (∃ c r, Context.run { vocabulary := .bundled }
        (Statement.ofSource "LOAD EXTENSION EDUCATIONAL\nDRAW TEACHER AT LEFT" none) = .ok c ∧
      c.scene.entities.map (·.subtype) = ["teacher"] ∧ c.Refuses ⟨3, "UPDATE TEACHER AGE 5", 1, none⟩ r ∧
      Context.Refuses { vocabulary := {}, strict := true } ⟨3, "UPDATE TEACHER AGE 5", 1, none⟩ r) ∧
      ∃ r r', readSource Vocabulary.bundled false "DRAW\nDRAW MAN" none = .ok r ∧
        readSource {} true "DRAW\nDRAW MAN" none = .ok r' ∧
        Diagnostic.errors r.diagnostics = Diagnostic.errors r'.diagnostics ∧ r.success = r'.success := by
  have hdrawn : (Context.run { vocabulary := .bundled } (Statement.ofSource
      "LOAD EXTENSION EDUCATIONAL\nDRAW TEACHER AT LEFT" none)).toOption.map (·.scene.entities.map (·.subtype)) =
        some ["teacher"] := by decide +kernel
  have hupdate : (Statement.refusal? ⟨3, "UPDATE TEACHER AGE 5", 1, none⟩).isSome = true := by decide +kernel
  have hbundled : (readSource Vocabulary.bundled false "DRAW\nDRAW MAN" none).toOption.isSome = true := by
    decide +kernel
  have hempty : (readSource {} true "DRAW\nDRAW MAN" none).toOption.isSome = true := by decide +kernel
  constructor
  · obtain ⟨c, hc, hentities⟩ := toOption_map_eq_some.mp hdrawn
    obtain ⟨r, hr⟩ := Option.isSome_iff_exists.mp hupdate
    have hrefuses : c.Refuses ⟨3, "UPDATE TEACHER AGE 5", 1, none⟩ r := Context.refuses_iff.mpr hr
    exact ⟨c, r, hc, hentities, hrefuses, (errors_of_text.1 c _ _ r).mp hrefuses⟩
  · obtain ⟨r, hr⟩ := toOption_isSome.mp hbundled
    obtain ⟨r', hr'⟩ := toOption_isSome.mp hempty
    exact ⟨r, r', hr, hr', errors_of_text.2 _ _ _ _ _ _ r r' hr hr'⟩

end Parses

end SceneScript
