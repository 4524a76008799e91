import SceneScript.Proofs.Pointing
import SceneScript.Proofs.Steps

/-!
The errors of a parse. Commands only warn, and whether and why a statement is refused is decided by its
text; so the errors of a run are the refusals of its statements, in order, whatever the vocabulary, the
mode and the statements before.
-/

namespace SceneScript

/-- The refusal that reading a statement ends in, if it does. -/
def Statement.refusal? (s : Statement) : Option Refusal :=
  match s.read.outcome with
  | .error (.refused r) => some r
  | _ => none

theorem Statement.refusal?_eq_some {s : Statement} {r : Refusal} :
    s.refusal? = some r ↔ s.read.outcome = .error (.refused r) := by
  unfold refusal?
  split
  · rename_i r' h
    rw [h]
    simp
  · rename_i h
    exact iff_of_false (by simp) (h r)

/-- The refusals of statements, in order. -/
def Statement.refusals (statements : List Statement) : List Refusal := statements.filterMap refusal?

namespace Context

variable {c c' : Context} {s : Statement}

/-- The context refuses the statement, and for this cause. -/
def Refuses (c : Context) (s : Statement) (r : Refusal) : Prop := ∃ c', c.attempt s = .ok (c', some r)

theorem refuses_iff {r : Refusal} : c.Refuses s r ↔ s.refusal? = some r := by
  rw [Statement.refusal?_eq_some]
  constructor
  · rintro ⟨c', h⟩
    rcases attempt_cases h with ⟨_, -, -, hnone⟩ | ⟨r', hr, -, hsome⟩
    · cases hnone
    · cases hsome
      exact hr
  · exact fun h => ⟨_, attempt_of_refused h⟩

theorem refusal?_of_attempt {o : Option Refusal} (h : c.attempt s = .ok (c', o)) : s.refusal? = o := by
  rcases attempt_cases h with ⟨command, hcommand, -, rfl⟩ | ⟨r, hr, -, rfl⟩
  · simp [Statement.refusal?, hcommand]
  · exact Statement.refusal?_eq_some.mpr hr

/-! ### What a statement adds to the diagnostics -/

/-- The diagnostics of `c'` are those of `c` and then some that satisfy `p`. -/
def Appends (p : Diagnostic → Prop) (c c' : Context) : Prop :=
  ∃ ds, c'.diagnostics = c.diagnostics ++ ds ∧ ∀ d ∈ ds, p d

/-- The diagnostics of `c'` are those of `c` and then warnings. -/
abbrev Warns (c c' : Context) : Prop := Appends (·.severity = .warning) c c'

namespace Appends

variable {p q : Diagnostic → Prop}

theorem of_eq (h : c'.diagnostics = c.diagnostics) : Appends p c c' := ⟨[], by simp [h], by simp⟩

theorem trans {d : Context} (h₁ : Appends p c d) (h₂ : Appends p d c') : Appends p c c' := by
  obtain ⟨ds₁, heq₁, hds₁⟩ := h₁
  obtain ⟨ds₂, heq₂, hds₂⟩ := h₂
  refine ⟨ds₁ ++ ds₂, by rw [heq₂, heq₁, List.append_assoc], fun d hd => ?_⟩
  rcases List.mem_append.mp hd with hd | hd
  · exact hds₁ d hd
  · exact hds₂ d hd

theorem mono (h : Appends p c c') (hpq : ∀ d, p d → q d) : Appends q c c' := by
  obtain ⟨ds, heq, hds⟩ := h
  exact ⟨ds, heq, fun d hd => hpq d (hds d hd)⟩

theorem begin (c : Context) (s : Statement) : Appends (·.IsEarly s) c (c.begin s s.read) := by
  obtain ⟨hpoints, -⟩ := s.read_within
  exact ⟨s.read.warnings, rfl, fun w hw => (s.read_warnings w hw).early (by decide) (hpoints w hw)⟩

theorem load {name : Token} (hname : s.Covers name.span) : Appends (·.IsEarly s) c (c.load s.text name) := by
  obtain ⟨added, ws, heq, hws⟩ := load_eq (c := c) s.text name
  rw [heq]
  refine ⟨ws, rfl, fun w hw => ?_⟩
  obtain ⟨extension, rfl⟩ := hws w hw
  exact (Warning.isWarning _ _ _).early (by simp [Warning.code]) ⟨rfl, hname⟩

theorem draw {keyword : String} {clauses : List Token} {placed : Position.Placed} (hsound : placed.Sound)
    (hwithin : placed.Within s) (h : c.draw s keyword clauses placed = .ok c') : Appends (·.IsEarly s) c c' := by
  obtain ⟨_, _, -, -, -, rfl⟩ := draw_eq_ok h
  refine ⟨placed.warning.toList, rfl, fun w hw => ?_⟩
  have hw : w ∈ placed.warning := Option.mem_toList.mp hw
  exact (hsound.warning w hw).early (by decide) (hwithin.warning w hw)

theorem update {reference : Token} {clauses : List Token} (hreference : s.Covers reference.span)
    (h : c.update s reference clauses = .ok c') : Appends (·.IsEarly s) c c' := by
  rcases update_eq_ok h with ⟨-, rfl⟩ | ⟨_, _, -, -, rfl⟩
  · refine ⟨[_], rfl, fun w hw => ?_⟩
    rw [List.mem_singleton.mp hw]
    exact (Warning.isWarning _ _ _).early (by simp [Warning.code]) ⟨rfl, hreference⟩
  · exact of_eq rfl

theorem carryOut {command : Command} (hsound : command.Sound) (hwithin : command.Within s)
    (h : c.carryOut s command = .ok c') : Appends (·.IsEarly s) c c' := by
  cases command with
  | load name =>
    cases h
    exact load hwithin
  | environment name =>
    cases h
    exact of_eq rfl
  | draw keyword clauses placed => exact draw hsound hwithin h
  | update reference clauses => exact update hwithin h
  | exportAs options =>
    cases h
    exact of_eq rfl

/-- Until the refusal itself is reported, a statement only warns, and of itself. -/
theorem attempt {o : Option Refusal} (h : c.attempt s = .ok (c', o)) : Appends (·.IsEarly s) c c' := by
  rcases attempt_cases h with ⟨command, hcommand, hcarried, -⟩ | ⟨r, -, rfl, -⟩
  · have hwithin := s.read_within.2.2 command hcommand
    exact (begin c s).trans (carryOut (Statement.sound_of_read hcommand) hwithin hcarried)
  · exact begin c s

end Appends

theorem Warns.attempt {o : Option Refusal} (h : c.attempt s = .ok (c', o)) : Warns c c' :=
  (Appends.attempt h).mono fun _ hd => hd.severity

theorem Warns.errors_eq (h : Warns c c') : Diagnostic.errors c'.diagnostics = Diagnostic.errors c.diagnostics := by
  obtain ⟨ws, heq, hws⟩ := h
  rw [heq, Diagnostic.errors_append, Diagnostic.errors_eq_nil hws, List.append_nil]

/-! ### The errors of a run -/

theorem errors_report (p : Context × Option Refusal) :
    Diagnostic.errors (report s p).diagnostics =
      Diagnostic.errors p.1.diagnostics ++ p.2.toList.map Refusal.diagnostic := by
  obtain ⟨c, _ | r⟩ := p
  · simp [report]
  · exact Diagnostic.errors_append c.diagnostics [r.diagnostic]

theorem errors_step (h : c.step s = .ok c') :
    Diagnostic.errors c'.diagnostics =
      Diagnostic.errors c.diagnostics ++ s.refusal?.toList.map Refusal.diagnostic := by
  obtain ⟨⟨d, o⟩, hd, rfl⟩ := step_eq_ok.mp h
  rw [errors_report, Warns.errors_eq (Warns.attempt hd), refusal?_of_attempt hd]

theorem errors_run {statements : List Statement} (h : c.run statements = .ok c') :
    Diagnostic.errors c'.diagnostics =
      Diagnostic.errors c.diagnostics ++ (Statement.refusals statements).map Refusal.diagnostic := by
  induction statements generalizing c with
  | nil =>
    cases h
    simp [Statement.refusals]
  | cons s statements ih =>
    obtain ⟨d, hd, h⟩ := bind_eq_ok.mp h
    rw [ih h, errors_step hd]
    cases hr : s.refusal? <;> simp [Statement.refusals, hr]

end Context
end SceneScript
