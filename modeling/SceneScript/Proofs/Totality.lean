import SceneScript.Proofs.Defaults
import SceneScript.Proofs.Parses
import SceneScript.Proofs.Scanning

/-!
When a parse comes to a result. Almost every text is read to its end; two things in a statement stop the
whole parse with a fault instead: a signed dimension that runs into a word outside of strings, and an age
whose number has no finite value in a statement that is carried out.
-/

namespace SceneScript

theorem exists_foldlM_error_iff {ε α β : Type} {f : β → α → Except ε β} {p : α → Prop}
    (hf : ∀ b a, (∃ e, f b a = .error e) ↔ p a) {as : List α} {b : β} :
    (∃ e, as.foldlM f b = .error e) ↔ ∃ a ∈ as, p a := by
  induction as generalizing b with
  | nil => simp [pure, Except.pure]
  | cons a as ih =>
    rw [List.foldlM_cons]
    cases hb : f b a with
    | error e =>
      have ha : p a := (hf b a).mp ⟨e, hb⟩
      exact ⟨fun _ => ⟨a, List.mem_cons_self, ha⟩, fun _ => ⟨e, rfl⟩⟩
    | ok b' =>
      have ha : ¬p a := fun ha => by
        obtain ⟨e, he⟩ := (hf b a).mpr ha
        rw [hb] at he
        cases he
      refine (ih (b := b')).trans ?_
      simp [ha]

/-! ### Clauses -/

namespace Clause

/-- An `AGE` with a number that is not negative and has no finite value. -/
def InfiniteAge (clause : List Token) : Prop :=
  ∃ a n lexeme span rest, clause = a :: ⟨.number n, lexeme, span⟩ :: rest ∧ a.isWord ["AGE"] = true ∧
    n.isNegative = false ∧ n.truncate? = none

theorem age_error_iff (source : String) {clause : List Token} :
    (∃ f, age source clause = .error f) ↔ InfiniteAge clause := by
  constructor
  · rintro ⟨f, h⟩
    unfold age at h
    split at h
    · rename_i a n lexeme span rest
      split at h
      · rename_i hage
        simp only [Bool.and_eq_true, Bool.not_eq_true'] at hage
        split at h
        · cases h
        · rename_i hnone
          exact ⟨a, n, lexeme, span, rest, rfl, hage.1, hage.2, hnone⟩
      · cases h
    · cases h
  · rintro ⟨a, n, lexeme, span, rest, rfl, hage, hsign, hnone⟩
    refine ⟨.infiniteAge, ?_⟩
    simp [age, hage, hsign, hnone]

/-- The rule comes to a result on every clause. -/
def Total (rule : Rule) : Prop := ∀ source clause, ∃ o, rule source clause = .ok o

theorem total_of_mem_tail : ∀ rule ∈ rules.tail, Total rule := by
  intro rule hrule source clause
  simp only [rules, List.tail_cons, List.mem_cons, List.not_mem_nil, or_false] at hrule
  -- Which way a rule goes is told by at most two tokens.
  rcases clause with _ | ⟨a, _ | ⟨b, rest⟩⟩ <;>
    rcases hrule with rfl | rfl | rfl | rfl | rfl | rfl | rfl | rfl | rfl | rfl | rfl <;> exact ⟨_, rfl⟩

theorem total_firstMatch {rules : List Rule} (h : ∀ rule ∈ rules, Total rule) : Total (firstMatch rules) := by
  intro source clause
  induction rules with
  | nil => exact ⟨none, rfl⟩
  | cons rule rules ih =>
    obtain ⟨o, ho⟩ := h rule List.mem_cons_self source clause
    have hrest := ih fun rule' hrule' => h rule' (List.mem_cons_of_mem rule hrule')
    simp only [firstMatch, ho]
    split
    · exact hrest
    · exact ⟨o, rfl⟩

/-- Of all rules only the one on ages can fail. -/
theorem applyTo_error_iff {source : String} {attributes : Attributes} {clause : List Token} :
    (∃ f, applyTo source attributes clause = .error f) ↔ InfiniteAge clause := by
  rw [← age_error_iff source]
  have hrules : assignment? source clause = firstMatch (age :: rules.tail) source clause := rfl
  obtain ⟨o, ho⟩ := total_firstMatch total_of_mem_tail source clause
  unfold applyTo
  rw [hrules, firstMatch]
  cases hage : age source clause with
  | error f => simp [Except.map]
  | ok found => cases found <;> simp [ho, Except.map]

end Clause

theorem Attributes.read_error_iff (source : String) {tokens : List Token} :
    (∃ f, read source tokens = .error f) ↔ ∃ clause ∈ Clause.ofTokens tokens, Clause.InfiniteAge clause := by
  unfold read readInto
  exact exists_foldlM_error_iff (p := Clause.InfiniteAge) fun _ _ => Clause.applyTo_error_iff

/-! ### Statements -/

namespace Statement
open Token

/-- A signed dimension runs into a word outside of the strings of the statement. -/
def RunsOn (s : Statement) : Prop :=
  ∃ before after, s.text.toList = before ++ after ∧ Closed before ∧ Token.RunsOn after

theorem read_fault_iff {s : Statement} : (∃ f, s.read.outcome = .error (.fault f)) ↔ s.RunsOn := by
  unfold RunsOn
  rw [← scan_badInteger_iff]
  unfold read tokens
  rcases hscan : s.scan with ⟨found, ending⟩
  cases ending with
  | complete last =>
    refine iff_of_false ?_ (by simp)
    rintro ⟨f, hf⟩
    simp only at hf
    split at hf
    · cases hf
    · obtain ⟨r, -, hr⟩ := mapError_eq_error.mp hf
      cases hr
  | openString span => simp
  | badInteger lexeme => simp

end Statement

namespace Context

variable {c c' : Context} {s : Statement} {vocabulary : Vocabulary} {strict : Bool}

/-- An attribute clause that the command carries out states an infinite age. -/
def StatesInfiniteAge (c : Context) : Command → Prop
  | .draw _ clauses _ => ∃ clause ∈ Clause.ofTokens clauses, Clause.InfiniteAge clause
  | .update reference clauses => (∃ e ∈ c.scene.entities, c.refersTo reference e = true) ∧
      ∃ clause ∈ Clause.ofTokens clauses, Clause.InfiniteAge clause
  | _ => False

/-- The statement stops a parse that has come to the context. -/
def Halts (c : Context) (s : Statement) : Prop :=
  s.RunsOn ∨ ∃ command, s.read.outcome = .ok command ∧ c.StatesInfiniteAge command

theorem draw_error_iff {keyword : String} {defaults : Attributes} {clauses : List Token} {placed : Position.Placed}
    (hdefaults : c.vocabulary.attributesFor (c.typeOf keyword).subtype = .ok defaults) (hc : c.Sound) :
    (∃ f, c.draw s keyword clauses placed = .error f) ↔
      ∃ clause ∈ Clause.ofTokens clauses, Clause.InfiniteAge clause := by
  rw [← Attributes.read_error_iff s.text]
  cases hstated : Attributes.read s.text clauses with
  | error f => simp [draw, hdefaults, hstated, bind, Except.bind]
  | ok stated => simp [draw, hdefaults, hstated, bind, Except.bind, Scene.add, hc.unfrozen, pure, Except.pure]

theorem update_error_iff {reference : Token} {clauses : List Token} :
    (∃ f, c.update s reference clauses = .error f) ↔
      (∃ e ∈ c.scene.entities, c.refersTo reference e = true) ∧
        ∃ clause ∈ Clause.ofTokens clauses, Clause.InfiniteAge clause := by
  rw [← Attributes.read_error_iff s.text, ← List.find?_isSome]
  unfold update
  cases hfound : c.scene.entities.find? (c.refersTo reference) with
  | none => simp
  | some e =>
    cases hstated : Attributes.read s.text clauses with
    | error f => simp [bind, Except.bind]
    | ok stated => simp [bind, Except.bind, pure, Except.pure]

theorem carryOut_error_iff (hv : c.vocabulary.usable = true) (hc : c.Sound) {command : Command} :
    (∃ f, c.carryOut s command = .error f) ↔ c.StatesInfiniteAge command := by
  cases command with
  | load name => simp [carryOut, StatesInfiniteAge]
  | environment name => simp [carryOut, StatesInfiniteAge]
  | draw keyword clauses placed =>
    obtain ⟨defaults, hdefaults⟩ := Vocabulary.attributesFor_of_usable hv (c.typeOf keyword).subtype
    exact draw_error_iff hdefaults hc
  | update reference clauses => exact update_error_iff
  | exportAs options => simp [carryOut, StatesInfiniteAge]

/-- A statement stops the parse exactly if its text runs a dimension into a word or it is to be carried
    out with an infinite age. -/
theorem step_error_iff (hv : c.vocabulary.usable = true) (hc : c.Sound) :
    (∃ f, c.step s = .error f) ↔ c.Halts s := by
  have hbegun : (c.begin s s.read).Sound := hc.of_eq rfl rfl
  unfold step Halts
  rw [← Statement.read_fault_iff]
  simp only [map_eq_error, attempt_eq]
  cases houtcome : s.read.outcome with
  | ok command =>
    have hcarried : (∃ f, (c.begin s s.read).carryOut s command = .error f) ↔ c.StatesInfiniteAge command :=
      carryOut_error_iff (c := c.begin s s.read) hv hbegun
    simp [map_eq_error, hcarried]
  | error failure => cases failure <;> simp

/-! ### Runs -/

/-- A run goes through its statements exactly if none stops it where it stands. -/
theorem run_ok_iff (hv : c.vocabulary.usable = true) (hc : c.Sound) {statements : List Statement} :
    (∃ c', c.run statements = .ok c') ↔
      ∀ before s after d, statements = before ++ s :: after → c.run before = .ok d → ¬d.Halts s := by
  induction statements generalizing c with
  | nil => simp [run_nil]
  | cons s statements ih =>
    cases hstep : c.step s with
    | error f =>
      have hhalts : c.Halts s := (step_error_iff hv hc).mp ⟨f, hstep⟩
      constructor
      · rintro ⟨c', hc'⟩
        rw [run_cons, hstep] at hc'
        cases hc'
      · exact fun h => absurd hhalts (h [] s statements c rfl run_nil)
    | ok d =>
      have hruns : ¬c.Halts s := fun hhalts => by
        obtain ⟨f, hf⟩ := (step_error_iff hv hc).mpr hhalts
        rw [hstep] at hf
        cases hf
      have hfirst : ∀ more, c.run (s :: more) = d.run more := fun more => by
        rw [run_cons, hstep]
        rfl
      rw [hfirst, ih (by rw [step_vocabulary hstep, hv]) (hc.step hstep)]
      constructor
      · intro h before t after e hsplit hrun
        cases before with
        | nil =>
          cases hrun
          cases hsplit
          exact hruns
        | cons b before =>
          cases hsplit
          rw [hfirst] at hrun
          exact h before t after e rfl hrun
      · intro h before t after e hsplit hrun
        refine h (s :: before) t after e (by rw [hsplit]; rfl) ?_
        rw [hfirst, hrun]

end Context

/-- With usable defaults a parse comes to a result, with the refusals of its statements as its errors,
    exactly if none of its statements stops it. -/
theorem readSource_usable_iff {v : Vocabulary} (hv : v.usable = true) {strict : Bool} {source : String}
    {filename : Option String} :
    (∃ r, readSource v strict source filename = .ok r ∧
      Diagnostic.errors r.diagnostics =
        (Statement.refusals (Statement.ofSource source filename)).map Refusal.diagnostic) ↔
      ∀ before s after c, Statement.ofSource source filename = before ++ s :: after →
        Context.run { vocabulary := v, strict } before = .ok c → ¬c.Halts s := by
  have hstart : Context.Sound { vocabulary := v, strict } := Context.Reachable.start.sound
  rw [← Context.run_ok_iff (c := { vocabulary := v, strict }) hv hstart, ← exists_readSource_iff]
  constructor
  · rintro ⟨r, hr, -⟩
    exact ⟨r, hr⟩
  · rintro ⟨r, hr⟩
    exact ⟨r, hr, errors_readSource hr⟩

/-- With the bundled catalogs a parse comes to a result, and malformed statements to errors in it, exactly
    if no statement runs a signed dimension into a word or states an infinite age where it stands. -/
theorem readSource_bundled_iff (strict : Bool) (source : String) (filename : Option String) :
    (∃ r, readSource .bundled strict source filename = .ok r ∧
      Diagnostic.errors r.diagnostics =
        (Statement.refusals (Statement.ofSource source filename)).map Refusal.diagnostic) ↔
      ∀ before s after c, Statement.ofSource source filename = before ++ s :: after →
        Context.run { vocabulary := .bundled, strict } before = .ok c → ¬c.Halts s :=
  readSource_usable_iff Vocabulary.usable_bundled

example : (readSource .bundled false "DRAW MAN AT -5x10z" none).toOption.isNone = true := by decide +kernel

end SceneScript
