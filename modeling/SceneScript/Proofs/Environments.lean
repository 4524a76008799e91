import SceneScript.Proofs.Accounting
import SceneScript.Proofs.Exchange
import SceneScript.Proofs.Isolation
import SceneScript.Proofs.Layers
import SceneScript.Proofs.Relocation

/-!
Texts without their earlier environments. Only what adds environments looks at the environment of the scene; so a text
comes to the same scene without the environments before the last, but for what shows of them below it.
-/

namespace SceneScript
namespace Context

variable {c c' d : Context} {s : Statement} {statements : List Statement}

/-! ### Environments put aside -/

/-- The context in another environment. -/
def inEnvironment (c : Context) (e : Environment) : Context := { c with scene.environment := e }

theorem aside_inEnvironment (e : Environment) : Aside (·.inEnvironment e) :=
  ⟨fun _ => rfl, fun _ => rfl, fun _ => rfl, fun _ => rfl, fun _ _ => rfl⟩

theorem inEnvironment_load (e : Environment) (source : String) (name : Token) :
    (c.inEnvironment e).load source name = (c.load source name).inEnvironment e := by
  have hloaded : ∀ extension, (c.inEnvironment e).loadExtension extension =
      (c.loadExtension extension).inEnvironment e := by
    intro extension
    unfold loadExtension
    split <;> split <;> first | rfl | contradiction
  simp only [load, hloaded]
  split <;> split <;> first | rfl | contradiction

/-- Statements of other forms do not see the environment. -/
theorem step_inEnvironment (h : s.addsEnvironment = false) (c : Context) (e : Environment) :
    (c.inEnvironment e).step s = (c.step s).map (·.inEnvironment e) := by
  refine (aside_inEnvironment e).step (fun command hcommand c => ?_) c
  cases command with
  | load name => exact congrArg Except.ok (inEnvironment_load e s.text name)
  | environment name =>
    rw [(Statement.outcome_of_addsEnvironment hcommand).mpr ⟨name, rfl⟩] at h
    cases h
  | draw keyword clauses placed => exact (aside_inEnvironment e).draw c keyword clauses placed
  | update reference clauses => exact (aside_inEnvironment e).update c reference clauses
  | exportAs options => rfl

theorem run_others (h : ∀ s ∈ statements, s.addsEnvironment = false) (hrun : c.run statements = .ok c') :
    c'.scene.environment = c.scene.environment := by
  induction statements generalizing c with
  | nil =>
    cases hrun
    rfl
  | cons s statements ih =>
    rw [run_cons] at hrun
    obtain ⟨d, hd, hrest⟩ := bind_eq_ok.mp hrun
    have hsame := step_inEnvironment (h s List.mem_cons_self) c c.scene.environment
    have hself : c.inEnvironment c.scene.environment = c := rfl
    rw [hself, hd] at hsame
    have hkept := congrArg (fun d : Context => d.scene.environment) (Except.ok.inj hsame)
    exact (ih (fun t ht => h t (List.mem_cons_of_mem s ht)) hrest).trans hkept

theorem step_adding {name : Token} (h : s.read.outcome = .ok (.environment name)) :
    c.step s = .ok ((c.begin s s.read).setEnvironment name) := by
  simp [step, attempt_eq, h, carryOut, Except.map, report]

/-- The last environment lies on the one before it and stays. -/
theorem run_last {name : Token} {preset : EnvironmentDefinition} {after : List Statement}
    (hlast : s.read.outcome = .ok (.environment name)) (hafter : ∀ t ∈ after, t.addsEnvironment = false)
    (hfound : c.vocabulary.environment? (Text.lower name.lexeme) c.extensions c.strict = some preset)
    (hrun : c.run (s :: after) = .ok c') :
    c'.scene.environment = { c.scene.environment.layered [preset] with type := Text.lower name.lexeme } := by
  rw [run_cons, step_adding hlast] at hrun
  have hset := setEnvironment_layered (c.begin s s.read) name
  have hbegun : (c.begin s s.read).vocabulary.environment? (Text.lower name.lexeme) (c.begin s s.read).extensions
      (c.begin s s.read).strict = some preset := hfound
  rw [run_others hafter hrun, hset, hbegun]
  rfl

/-- Contexts that differ in their environments and reports alone. -/
def Beneath (c d : Context) : Prop := Agree (c.inEnvironment {}) (d.inEnvironment {})

namespace Beneath

theorem scene (h : Beneath c d) : d.scene = { c.scene with environment := d.scene.environment } := by
  have hscene := Agree.scene h
  exact congrArg (fun scene : Scene => { scene with environment := d.scene.environment }) hscene.symm

theorem sources (h : Beneath c d) : c.sources = d.sources := by
  have hsources := Agree.sources h
  exact hsources

theorem extensions (h : Beneath c d) : c.extensions = d.extensions := by
  have hextensions := Agree.extensions h
  exact hextensions

theorem step (h : Beneath c d) (hs : s.addsEnvironment = false) (hstep : c.step s = .ok c') :
    ∃ d', d.step s = .ok d' ∧ Beneath c' d' := by
  have hplain : (c.inEnvironment {}).step s = .ok (c'.inEnvironment {}) := by
    rw [step_inEnvironment hs, hstep]
    rfl
  obtain ⟨d₁, -, hd₁, hagree, -⟩ := Agree.step h hplain
  rw [step_inEnvironment hs] at hd₁
  obtain ⟨d', hd', rfl⟩ := map_eq_ok.mp hd₁
  exact ⟨d', hd', hagree⟩

/-- A statement that adds an environment leaves nothing else but reports, unless it is refused. -/
theorem adding (h : Beneath c d) (hs : s.addsEnvironment = true) (hrefused : s.refusal? = none)
    (hstep : c.step s = .ok c') : Beneath c' d := by
  obtain ⟨⟨c₁, o⟩, hc₁, -⟩ := step_eq_ok.mp hstep
  rcases attempt_cases hc₁ with ⟨command, hcommand, -, -⟩ | ⟨r, hr, -, -⟩
  · obtain ⟨name, rfl⟩ := (Statement.outcome_of_addsEnvironment hcommand).mp hs
    rw [step_adding hcommand] at hstep
    cases hstep
    exact h
  · rw [Statement.refusal?_eq_some.mpr hr] at hrefused
    cases hrefused

/-- Without the statements that add environments a run comes to the same but for the environment. -/
theorem run (h : Beneath c d) (hrefused : ∀ s ∈ statements, s.refusal? = none)
    (hrun : c.run statements = .ok c') :
    ∃ d', d.run (statements.filter (!·.addsEnvironment)) = .ok d' ∧ Beneath c' d' := by
  induction statements generalizing c d with
  | nil =>
    cases hrun
    exact ⟨d, rfl, h⟩
  | cons s statements ih =>
    rw [run_cons] at hrun
    obtain ⟨c₁, hc₁, hrest⟩ := bind_eq_ok.mp hrun
    have hlater : ∀ t ∈ statements, t.refusal? = none := fun t ht => hrefused t (List.mem_cons_of_mem s ht)
    cases hadds : s.addsEnvironment with
    | true =>
      obtain ⟨d', hd', hbeneath⟩ := ih (h.adding hadds (hrefused s List.mem_cons_self) hc₁) hlater hrest
      refine ⟨d', ?_, hbeneath⟩
      rw [List.filter_cons_of_neg (by simp [hadds])]
      exact hd'
    | false =>
      obtain ⟨d₁, hd₁, hbeneath₁⟩ := h.step hadds hc₁
      obtain ⟨d', hd', hbeneath⟩ := ih hbeneath₁ hlater hrest
      refine ⟨d', ?_, hbeneath⟩
      rw [List.filter_cons_of_pos (by simp [hadds])]
      exact bind_eq_ok.mpr ⟨d₁, hd₁, hd'⟩

/-- An environment that is added last goes over both contexts, and so do the statements after it. -/
theorem run_last {name : Token} {after : List Statement} (h : Beneath c d)
    (hlast : s.read.outcome = .ok (.environment name)) (hafter : ∀ t ∈ after, t.addsEnvironment = false)
    (hrefused : ∀ t ∈ after, t.refusal? = none) (hrun : c.run (s :: after) = .ok c') :
    ∃ d', d.run (s :: after) = .ok d' ∧ Beneath c' d' := by
  have hset : Beneath ((c.begin s s.read).setEnvironment name) ((d.begin s s.read).setEnvironment name) := h
  have hkept : after.filter (!·.addsEnvironment) = after := List.filter_eq_self.mpr fun t ht => by simp [hafter t ht]
  rw [run_cons, step_adding hlast] at hrun
  obtain ⟨d', hd', hbeneath⟩ := hset.run hrefused hrun
  rw [hkept] at hd'
  refine ⟨d', ?_, hbeneath⟩
  rw [run_cons, step_adding hlast]
  exact hd'

theorem resolve {n : Nat} (h : Beneath c d) (hc : Diagnostic.anyError c.diagnostics = false)
    (hd : Diagnostic.anyError d.diagnostics = false) (hresolve : c.resolve = .ok (c', n)) :
    ∃ d', d.resolve = .ok (d', n) ∧ Beneath c' d' ∧ c'.scene.environment = c.scene.environment ∧
      d'.scene.environment = d.scene.environment ∧
      Diagnostic.anyError d'.diagnostics = Diagnostic.anyError c'.diagnostics := by
  rcases resolve_eq_ok.mp hresolve with ⟨herror, -, -⟩ | ⟨-, settled, hsettled, rfl, rfl⟩
  · rw [hc] at herror
    cases herror
  · have hentities : c.scene.entities = d.scene.entities := by rw [h.scene]
    rw [hentities, h.sources] at hsettled
    refine ⟨d.settleBy settled, resolve_eq_ok.mpr (Or.inr ⟨hd, settled, hsettled, rfl, rfl⟩), ?_, rfl, rfl, ?_⟩
    · have hbeneath := congrArg (fun e : Context => { e with scene.entities := settled.entities }) h
      exact hbeneath
    · rw [Diagnostic.anyError] at hc hd ⊢
      simp only [Diagnostic.anyError, settleBy, List.any_append, hc, hd]

end Beneath
end Context

/-! ### Texts without earlier environments -/

namespace Statement

variable {filename : Option String} {n : Nat} {lines : List (List Char)}

/-- The lines numbered from `n` on, without those that add an environment before another one does. -/
def dropEarlier (filename : Option String) (n : Nat) : List (List Char) → List (List Char)
  | [] => []
  | line :: rest =>
    if (ofLine? filename n line).any addsEnvironment && (ofLines filename (n + 1) rest).any addsEnvironment then
      dropEarlier filename (n + 1) rest
    else line :: dropEarlier filename (n + 1) rest

/-- The source text without the lines that add an environment before another one does. -/
def withoutEarlier (source : String) (filename : Option String) : String :=
  String.ofList (['\n'].intercalate (dropEarlier filename 1 (Text.splitAt '\n' source.toList)))

theorem dropEarlier_ne_nil (h : lines ≠ []) : dropEarlier filename n lines ≠ [] := by
  induction lines generalizing n with
  | nil => exact absurd rfl h
  | cons line rest ih =>
    unfold dropEarlier
    split
    · rename_i hdropped
      -- A line is dropped for another one behind it.
      refine ih fun hnil => ?_
      rw [hnil] at hdropped
      simp [ofLines] at hdropped
    · exact List.cons_ne_nil _ _

theorem dropEarlier_subset : dropEarlier filename n lines ⊆ lines := by
  induction lines generalizing n with
  | nil => exact List.Subset.refl _
  | cons line rest ih =>
    unfold dropEarlier
    split
    · exact List.subset_cons_of_subset line ih
    · exact List.cons_subset_cons line ih

/-- Nothing is dropped from the last environment on. -/
theorem dropEarlier_of_last {line : List Char} {rest : List (List Char)}
    (h : ∀ s ∈ ofLines filename (n + 1) rest, s.addsEnvironment = false) :
    dropEarlier filename n (line :: rest) = line :: rest := by
  have hnone : (ofLines filename (n + 1) rest).any addsEnvironment = false := by simpa using h
  rw [dropEarlier, hnone, Bool.and_false, if_neg Bool.false_ne_true]
  induction rest generalizing n line with
  | nil => rfl
  | cons next rest ih =>
    have hrest : ∀ s ∈ ofLines filename (n + 1 + 1) rest, s.addsEnvironment = false :=
      fun s hs => h s (List.mem_append_right _ hs)
    have hnone : (ofLines filename (n + 1 + 1) rest).any addsEnvironment = false := by simpa using hrest
    rw [dropEarlier, hnone, Bool.and_false, if_neg Bool.false_ne_true, ih hrest hnone]

/-- What is left says what the statements say without the environments before the last. -/
theorem said_dropEarlier {before after : List Statement} {s : Statement}
    (hlines : ofLines filename n lines = before ++ s :: after) (hs : s.addsEnvironment = true)
    (hafter : ∀ t ∈ after, t.addsEnvironment = false) :
    (dropEarlier filename n lines).filterMap saidOn? =
      (before.filter (!·.addsEnvironment) ++ s :: after).map (·.text) := by
  induction lines generalizing n before with
  | nil => simp [ofLines] at hlines
  | cons line rest ih =>
    have htext := text_ofLine? filename n line
    cases hline : ofLine? filename n line with
    | none =>
      rw [ofLines, hline] at hlines
      rw [hline] at htext
      rw [dropEarlier, hline, Option.any_none, Bool.false_and, if_neg Bool.false_ne_true, List.filterMap_cons, ← htext]
      exact ih hlines
    | some t =>
      rw [ofLines, hline, Option.toList_some, List.singleton_append] at hlines
      rw [hline] at htext
      cases before with
      | nil =>
        obtain ⟨rfl, hrest⟩ := List.cons.inj hlines
        have hothers : ∀ t ∈ ofLines filename (n + 1) rest, t.addsEnvironment = false := by
          rw [hrest]
          exact hafter
        rw [dropEarlier_of_last hothers, List.filterMap_cons, ← htext, ← texts_ofLines filename (n + 1), hrest]
        rfl
      | cons b before =>
        obtain ⟨rfl, hrest⟩ := List.cons.inj hlines
        have hsome : (ofLines filename (n + 1) rest).any addsEnvironment = true := by
          have hmem : s ∈ ofLines filename (n + 1) rest := by
            rw [hrest]
            exact List.mem_append_right before List.mem_cons_self
          exact List.any_eq_true.mpr ⟨s, hmem, hs⟩
        rw [dropEarlier, hline, hsome, Option.any_some, Bool.and_true]
        cases hadds : t.addsEnvironment with
        | true =>
          rw [if_pos rfl, List.filter_cons_of_neg (by simp [hadds])]
          exact ih hrest
        | false =>
          rw [if_neg Bool.false_ne_true, List.filter_cons_of_pos (by simp [hadds]), List.filterMap_cons, ← htext,
            ih hrest]
          rfl

theorem texts_withoutEarlier {source : String} {before after : List Statement} {s : Statement}
    (hsource : ofSource source filename = before ++ s :: after) (hs : s.addsEnvironment = true)
    (hafter : ∀ t ∈ after, t.addsEnvironment = false) :
    (before.filter (!·.addsEnvironment) ++ s :: after).map (·.text) =
      (ofSource (withoutEarlier source filename) filename).map (·.text) := by
  have hmarks : ∀ line ∈ dropEarlier filename 1 (Text.splitAt '\n' source.toList), '\n' ∉ line :=
    fun line hline => Text.not_mem_of_mem_splitAt (dropEarlier_subset hline)
  rw [ofSource, withoutEarlier, String.toList_ofList,
    Text.splitAt_intercalate (dropEarlier_ne_nil (Text.splitAt_ne_nil '\n' source.toList)) hmarks, texts_ofLines]
  exact (said_dropEarlier hsource hs hafter).symm

end Statement

/-! ### Parses -/

theorem Blur.matches_of_texts {statements statements' : List Statement}
    (h : statements.map (·.text) = statements'.map (·.text)) :
    List.Forall₂ (fun s s' => Blur.anywhere.Matches s s' ∧ s.reference? = s'.reference?) statements statements' := by
  have hpairs := List.forall₂_eq_eq_eq.symm ▸ h
  rw [List.forall₂_map_left_iff, List.forall₂_map_right_iff] at hpairs
  refine hpairs.imp fun s s' htext => ?_
  exact matches_of_letters rfl htext fun _ => rfl

/-- A hall with a lamp, and a yard with nothing. -/
def Vocabulary.hallAndYard : Vocabulary where
  catalogs := [{
    name := coreName
    environments := [
      ("hall", { name := "hall", lighting := [(some (.text "lamp"), .number 1)] }),
      ("yard", { name := "yard" })] }]

section Parses
variable {v : Vocabulary} {strict : Bool} {source : String} {filename : Option String} {r : Result}
  {before after : List Statement} {s : Statement} {preset : EnvironmentDefinition}

theorem refusal?_of_success (h : readSource v strict source filename = .ok r) (hsuccess : r.success = true) :
    ∀ s ∈ Statement.ofSource source filename, s.refusal? = none := by
  have hnone := errors_readSource h
  rw [success_eq_true.mp hsuccess] at hnone
  exact List.filterMap_eq_nil_iff.mp (List.map_eq_nil_iff.mp hnone.symm)

theorem anyError_of_run {statements : List Statement} {c : Context} (hrefused : ∀ s ∈ statements, s.refusal? = none)
    (hrun : Context.run { vocabulary := v, strict } statements = .ok c) :
    Diagnostic.anyError c.diagnostics = false := by
  have hnone : Statement.refusals statements = [] := List.filterMap_eq_nil_iff.mpr hrefused
  rw [Diagnostic.anyError_eq, Context.errors_run hrun, hnone]
  rfl

/-- A run without the environments before the last comes to the same but for the environment, and there to the same on
    top. -/
theorem run_withoutEarlier {c : Context} (hlast : s.preset? v strict (before.foldl Statement.loads []) = some preset)
    (hafter : ∀ t ∈ after, t.addsEnvironment = false) (hrefused : ∀ t ∈ before ++ s :: after, t.refusal? = none)
    (hrun : Context.run { vocabulary := v, strict } (before ++ s :: after) = .ok c) :
    ∃ d, Context.run { vocabulary := v, strict } (before.filter (!·.addsEnvironment) ++ s :: after) = .ok d ∧
      c.Beneath d ∧ Environment.SameOnTop (Statement.presets v strict [] before) preset c.scene.environment
        d.scene.environment := by
  obtain ⟨name, hname, hfound⟩ := Statement.preset?_eq_some hlast
  rw [Context.run_append] at hrun
  obtain ⟨c₁, hc₁, hrest⟩ := bind_eq_ok.mp hrun
  have hstart : Context.Beneath { vocabulary := v, strict } { vocabulary := v, strict } := rfl
  obtain ⟨d₁, hd₁, hbeneath₁⟩ := hstart.run (fun t ht => hrefused t (List.mem_append_left _ ht)) hc₁
  obtain ⟨d, hd, hbeneath⟩ := hbeneath₁.run_last hname hafter
    (fun t ht => hrefused t (List.mem_append_right _ (List.mem_cons_of_mem s ht))) hrest
  have hloaded := Context.run_extensions hc₁
  have hlater : ∀ {c₁ c : Context} {statements : List Statement},
      Context.run { vocabulary := v, strict } statements = .ok c₁ → c₁.extensions = before.foldl Statement.loads [] →
      c₁.run (s :: after) = .ok c →
        c.scene.environment = { c₁.scene.environment.layered [preset] with type := Text.lower name.lexeme } := by
    intro c₁ c statements hc₁ hextensions hrest
    obtain ⟨hvocabulary, hstrict⟩ := Context.run_kept hc₁
    refine Context.run_last hname hafter ?_ hrest
    rw [hvocabulary, hstrict, hextensions]
    exact hfound
  have hfull : c.scene.environment =
      { ({} : Environment).layered (Statement.presets v strict [] before ++ [preset]) with
        type := Text.lower name.lexeme } := by
    obtain ⟨type, hbefore⟩ := Context.run_environment hc₁
    rw [hlater hc₁ hloaded hrest, hbefore, Environment.layered_type, Environment.layered, Environment.layered,
      Environment.layered, List.foldl_append]
  have hbare : d.scene.environment =
      { ({} : Environment).layered [preset] with type := Text.lower name.lexeme } := by
    rw [hlater hd₁ (hbeneath₁.extensions.symm.trans hloaded) hd,
      Context.run_others (fun t ht => by simpa using (List.mem_filter.mp ht).2) hd₁]
  refine ⟨d, ?_, hbeneath, ?_⟩
  · rw [Context.run_append, hd₁]
    exact hd
  · rw [hfull, hbare]
    exact Environment.sameOnTop_layered _ preset _

/-- Without its earlier environments a text that succeeds comes to the same scene but for the environment. There the
    last preset shows alike, and what it does not cover shows the presets before it in the one scene and the default
    in the other. -/
theorem readSource_withoutEarlier (h : readSource v strict source filename = .ok r) (hsuccess : r.success = true)
    (hsource : Statement.ofSource source filename = before ++ s :: after)
    (hlast : s.preset? v strict (before.foldl Statement.loads []) = some preset)
    (hafter : ∀ t ∈ after, t.addsEnvironment = false) :
    ∃ r', readSource v strict (Statement.withoutEarlier source filename) filename = .ok r' ∧ r'.success = true ∧
      r'.scene = { r.scene with environment := r'.scene.environment } ∧
      Environment.SameOnTop (Statement.presets v strict [] before) preset r.scene.environment
        r'.scene.environment := by
  have hrefused := refusal?_of_success h hsuccess
  rw [hsource] at hrefused
  obtain ⟨c, ⟨c', n⟩, hc, hc', rfl⟩ := readSource_eq_ok.mp h
  rw [hsource] at hc
  obtain ⟨d, hd, hbeneath, htop⟩ := run_withoutEarlier hlast hafter hrefused hc
  have hkept : ∀ t ∈ before.filter (!·.addsEnvironment) ++ s :: after, t.refusal? = none :=
    fun t ht => hrefused t ((List.filter_sublist.append_right _).subset ht)
  obtain ⟨d', hd', hbeneath', he, he', herrors⟩ :=
    hbeneath.resolve (anyError_of_run hrefused hc) (anyError_of_run hkept hd) hc'
  -- The statements that are left are moved to their lines in the other text.
  have hadds : s.addsEnvironment = true := by
    obtain ⟨name, hname, -⟩ := Statement.preset?_eq_some hlast
    exact (Statement.outcome_of_addsEnvironment hname).mpr ⟨name, rfl⟩
  obtain ⟨d₂, hd₂, halike⟩ :=
    (Blur.Alike.refl _).run (Blur.matches_of_texts (Statement.texts_withoutEarlier hsource hadds hafter)) hd
  obtain ⟨d₃, hd₃, halike₃⟩ := halike.resolve hd'
  have hscene : d'.scene.freeze = d₃.scene.freeze := halike₃.result.scene_of_letters rfl
  have henvironment : d'.scene.environment = d₃.scene.environment := by
    have hsame := congrArg Scene.environment hscene
    exact hsame
  refine ⟨.ofContext d₃, readSource_eq_ok.mpr ⟨d₂, (d₃, n), hd₂, hd₃, rfl⟩, ?_, ?_, ?_⟩
  · have hsame : (Result.ofContext d').success = (Result.ofContext c').success := congrArg (!·) herrors
    exact halike₃.result.success.symm.trans (hsame.trans hsuccess)
  · have hframe : d'.scene.freeze = { c'.scene.freeze with environment := d'.scene.environment } :=
      congrArg Scene.freeze hbeneath'.scene
    rw [hscene, henvironment] at hframe
    exact hframe
  · rw [← he, ← he', henvironment] at htop
    exact htop

/-- A yard after a hall, with drawings between them and after both. -/
theorem readSource_withoutEarlier_yard :
    ∃ r preset r', readSource .hallAndYard false
        "ADD ENVIRONMENT hall\nDRAW MAN\nADD ENVIRONMENT yard // outside\nDRAW TREE" none = .ok r ∧
      r.success = true ∧ Statement.preset? .hallAndYard false [] ⟨3, "ADD ENVIRONMENT yard", 1, none⟩ = some preset ∧
      readSource .hallAndYard false (Statement.withoutEarlier
        "ADD ENVIRONMENT hall\nDRAW MAN\nADD ENVIRONMENT yard // outside\nDRAW TREE" none) none = .ok r' ∧
      r'.success = true ∧ r'.scene = { r.scene with environment := r'.scene.environment } ∧
      Environment.SameOnTop (Statement.presets .hallAndYard false []
        [⟨1, "ADD ENVIRONMENT hall", 1, none⟩, ⟨2, "DRAW MAN", 1, none⟩]) preset r.scene.environment
          r'.scene.environment := by
  have hparsed : (readSource .hallAndYard false
      "ADD ENVIRONMENT hall\nDRAW MAN\nADD ENVIRONMENT yard // outside\nDRAW TREE" none).toOption.map (·.success) =
        some true := by decide +kernel
  have hsource : Statement.ofSource "ADD ENVIRONMENT hall\nDRAW MAN\nADD ENVIRONMENT yard // outside\nDRAW TREE" none =
      [⟨1, "ADD ENVIRONMENT hall", 1, none⟩, ⟨2, "DRAW MAN", 1, none⟩] ++
        ⟨3, "ADD ENVIRONMENT yard", 1, none⟩ :: [⟨4, "DRAW TREE", 1, none⟩] := by decide +kernel
  have hlast : (Statement.preset? .hallAndYard false
      (List.foldl Statement.loads [] [⟨1, "ADD ENVIRONMENT hall", 1, none⟩, ⟨2, "DRAW MAN", 1, none⟩])
      ⟨3, "ADD ENVIRONMENT yard", 1, none⟩).isSome = true := by decide +kernel
  have hloaded : List.foldl Statement.loads []
      [⟨1, "ADD ENVIRONMENT hall", 1, none⟩, ⟨2, "DRAW MAN", 1, none⟩] = [] := by decide +kernel
  obtain ⟨r, hread, hsuccess⟩ := toOption_map_eq_some.mp hparsed
  obtain ⟨preset, hpreset⟩ := Option.isSome_iff_exists.mp hlast
  obtain ⟨r', hr', hsuccess', hscene, htop⟩ :=
    readSource_withoutEarlier hread hsuccess hsource hpreset (by decide +kernel)
  rw [hloaded] at hpreset
  exact ⟨r, preset, r', hread, hsuccess, hpreset, hr', hsuccess', hscene, htop⟩

/-- Environments are not what the last preset makes them. The lamp of a hall stays on in the yard. -/
theorem lamp_stays :
    ¬∀ (v : Vocabulary) (strict : Bool) (source : String) (filename : Option String) (r : Result)
      (before after : List Statement) (s : Statement) (preset : EnvironmentDefinition),
      readSource v strict source filename = .ok r → r.success = true →
      Statement.ofSource source filename = before ++ s :: after →
      s.preset? v strict (before.foldl Statement.loads []) = some preset →
      (∀ t ∈ after, t.addsEnvironment = false) →
        ∃ r', readSource v strict (Statement.withoutEarlier source filename) filename = .ok r' ∧
          r.scene.environment = r'.scene.environment := by
  intro hwins
  have hfull : (readSource .hallAndYard false "ADD ENVIRONMENT hall\nADD ENVIRONMENT yard" none).toOption.map
      (fun r => (r.success, r.scene.environment.lighting.length)) = some (true, 2) := by decide +kernel
  have hbare : (readSource .hallAndYard false
      (Statement.withoutEarlier "ADD ENVIRONMENT hall\nADD ENVIRONMENT yard" none) none).toOption.map
      (·.scene.environment.lighting.length) = some 1 := by decide +kernel
  have hsource : Statement.ofSource "ADD ENVIRONMENT hall\nADD ENVIRONMENT yard" none =
      [⟨1, "ADD ENVIRONMENT hall", 1, none⟩] ++ ⟨2, "ADD ENVIRONMENT yard", 1, none⟩ :: [] := by decide +kernel
  have hlast : (Statement.preset? .hallAndYard false
      (List.foldl Statement.loads [] [⟨1, "ADD ENVIRONMENT hall", 1, none⟩])
      ⟨2, "ADD ENVIRONMENT yard", 1, none⟩).isSome = true := by decide +kernel
  obtain ⟨r, hr, hlamp⟩ := toOption_map_eq_some.mp hfull
  obtain ⟨hsuccess, htwo⟩ := Prod.mk.inj hlamp
  obtain ⟨preset, hpreset⟩ := Option.isSome_iff_exists.mp hlast
  obtain ⟨r', hr', hsame⟩ := hwins _ _ _ _ r _ _ _ preset hr hsuccess hsource hpreset (by simp)
  obtain ⟨r₁, hr₁, hone⟩ := toOption_map_eq_some.mp hbare
  rw [hr'] at hr₁
  cases hr₁
  rw [hsame, hone] at htwo
  cases htwo

end Parses

end SceneScript
