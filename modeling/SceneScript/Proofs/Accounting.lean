import SceneScript.Proofs.Lines
import SceneScript.Proofs.Parses

/-!
Accounting for diagnostics. A statement adds warnings about itself and then, if it is refused, one error; the
targets that are not found are told after all statements, if none was refused. So the diagnostics of a parse
are those of its statements in turn, on increasing lines, and each error stands for one refused statement.
-/

namespace SceneScript

theorem Refusal.code_ne (r : Refusal) : r.diagnostic.code ≠ "W101" := by
  obtain ⟨cause, span, sourceLine⟩ := r
  cases cause <;> simp [Refusal.diagnostic, Rejection.code]

/-- What comes of one statement: why it is refused, if it is, and the diagnostics that it adds. -/
structure Account where
  statement : Statement
  refusal : Option Refusal
  diagnostics : List Diagnostic

namespace Account

/-- The diagnostics are about the statement: warnings, and last the error of its refusal if it is refused. -/
structure Balances (a : Account) : Prop where
  warned : ∃ ws, a.diagnostics = ws ++ a.refusal.toList.map Refusal.diagnostic ∧
    ∀ w ∈ ws, w.severity = .warning
  points : ∀ d ∈ a.diagnostics, d.PointsInto a.statement
  early : ∀ d ∈ a.diagnostics, d.code ≠ "W101"

variable {accounts : List Account}

theorem Balances.errors {a : Account} (h : a.Balances) :
    Diagnostic.errors a.diagnostics = a.refusal.toList.map Refusal.diagnostic := by
  obtain ⟨ws, heq, hws⟩ := h.warned
  rw [heq, Diagnostic.errors_append, Diagnostic.errors_eq_nil hws, List.nil_append]
  cases a.refusal <;> rfl

theorem Balances.line_eq {a : Account} {q : Refusal} (h : a.Balances) (hq : a.refusal = some q) :
    q.diagnostic.line = a.statement.line := by
  obtain ⟨ws, heq, -⟩ := h.warned
  refine (h.points q.diagnostic ?_).line_eq
  rw [heq, hq]
  exact List.mem_append_right ws List.mem_cons_self

theorem errors_flatMap (h : ∀ a ∈ accounts, a.Balances) :
    Diagnostic.errors (accounts.flatMap (·.diagnostics)) =
      (accounts.filterMap (·.refusal)).map Refusal.diagnostic := by
  induction accounts with
  | nil => rfl
  | cons a rest ih =>
    rw [List.flatMap_cons, Diagnostic.errors_append, (h a List.mem_cons_self).errors,
      ih fun b hb => h b (List.mem_cons_of_mem a hb)]
    cases hr : a.refusal <;> simp [hr]

/-- Before the targets that are not found, all errors are those of refusals. -/
theorem errors_append_late {late : List Diagnostic} (h : ∀ a ∈ accounts, a.Balances)
    (hlate : ∀ d ∈ late, d.IsWarning "W101") :
    Diagnostic.errors (accounts.flatMap (·.diagnostics) ++ late) =
      (accounts.filterMap (·.refusal)).map Refusal.diagnostic := by
  rw [Diagnostic.errors_append, Diagnostic.errors_eq_nil fun d hd => (hlate d hd).severity, List.append_nil,
    errors_flatMap h]

theorem filter_append_late {late : List Diagnostic} (h : ∀ a ∈ accounts, a.Balances)
    (hlate : ∀ d ∈ late, d.IsWarning "W101") :
    (accounts.flatMap (·.diagnostics) ++ late).filter (·.code != "W101") = accounts.flatMap (·.diagnostics) := by
  have hfirst : ∀ d ∈ accounts.flatMap (·.diagnostics), (d.code != "W101") = true := fun d hd => by
    obtain ⟨a, ha, hd⟩ := List.mem_flatMap.mp hd
    exact bne_iff_ne.mpr ((h a ha).early d hd)
  have hlast : ∀ d ∈ late, ¬(d.code != "W101") = true := fun d hd => by simp [(hlate d hd).code]
  rw [List.filter_append, List.filter_eq_self.mpr hfirst, List.filter_eq_nil_iff.mpr hlast, List.append_nil]

/-! ### Lines -/

/-- The statements of the accounts stand on increasing lines. -/
def Ascending (accounts : List Account) : Prop := accounts.Pairwise fun a b => a.statement.line < b.statement.line

theorem Ascending.diagnostics (h : Ascending accounts) (hbalances : ∀ a ∈ accounts, a.Balances) :
    (accounts.flatMap (·.diagnostics)).Pairwise fun d e => d.line ≤ e.line := by
  rw [List.pairwise_flatMap]
  refine ⟨fun a ha => ?_, h.imp_of_mem fun ha hb hlt d hd e he => ?_⟩
  · refine List.pairwise_of_forall_mem_list fun d hd e he => Int.le_of_eq ?_
    rw [((hbalances a ha).points d hd).line_eq, ((hbalances a ha).points e he).line_eq]
  · rw [((hbalances _ ha).points d hd).line_eq, ((hbalances _ hb).points e he).line_eq]
    exact Int.le_of_lt hlt

theorem Ascending.errors (h : Ascending accounts) (hbalances : ∀ a ∈ accounts, a.Balances) :
    ((accounts.filterMap (·.refusal)).map Refusal.diagnostic).Pairwise fun d e => d.line < e.line := by
  rw [List.pairwise_map, List.pairwise_filterMap]
  refine h.imp_of_mem fun ha hb hlt q hq q' hq' => ?_
  rw [(hbalances _ ha).line_eq hq, (hbalances _ hb).line_eq hq']
  exact hlt

end Account

/-! ### The accounts of a run -/

namespace Context

variable {c c' : Context} {s : Statement}

/-- The accounts of statements that are carried out or refused in turn, up to the first fault. -/
def accounts (c : Context) : List Statement → List Account
  | [] => []
  | s :: rest =>
    match c.attempt s with
    | .error _ => []
    | .ok p => ⟨s, p.2, (report s p).diagnostics.drop c.diagnostics.length⟩ :: accounts (report s p) rest

/-- What an attempt and its report add is an account that balances. -/
theorem balances_of_attempt {p : Context × Option Refusal} (h : c.attempt s = .ok p) :
    ∃ ds, (report s p).diagnostics = c.diagnostics ++ ds ∧ Account.Balances ⟨s, p.2, ds⟩ := by
  obtain ⟨d, o⟩ := p
  obtain ⟨ws, heq, hws⟩ := Appends.attempt h
  refine ⟨ws ++ o.toList.map Refusal.diagnostic, ?_, ⟨ws, rfl, fun w hw => (hws w hw).severity⟩, ?_, ?_⟩
  · cases o with
    | none => simpa [report] using heq
    | some q => simp [report, refuse, warn, note, heq]
  · intro e he
    rcases List.mem_append.mp he with he | he
    · exact (hws e he).points
    · -- The refusal is the one that reading the statement ends in.
      obtain ⟨q, hq, rfl⟩ := List.mem_map.mp he
      have hrefusal : s.refusal? = some q := by rw [refusal?_of_attempt h]; exact Option.mem_toList.mp hq
      exact s.read_within.2.1 q (Statement.refusal?_eq_some.mp hrefusal)
  · intro e he
    rcases List.mem_append.mp he with he | he
    · exact (hws e he).code
    · obtain ⟨q, -, rfl⟩ := List.mem_map.mp he
      exact q.code_ne

theorem accounts_of_run {statements : List Statement} (h : c.run statements = .ok c') :
    (c.accounts statements).map (·.statement) = statements ∧ (∀ a ∈ c.accounts statements, a.Balances) ∧
      c'.diagnostics = c.diagnostics ++ (c.accounts statements).flatMap (·.diagnostics) := by
  induction statements generalizing c with
  | nil =>
    cases h
    simp [accounts]
  | cons s statements ih =>
    obtain ⟨d, hd, h⟩ := bind_eq_ok.mp h
    obtain ⟨p, hp, rfl⟩ := step_eq_ok.mp hd
    obtain ⟨ds, hds, hbalances⟩ := balances_of_attempt hp
    obtain ⟨hstatements, hrest, hdiagnostics⟩ := ih h
    have haccounts : c.accounts (s :: statements) = ⟨s, p.2, ds⟩ :: (report s p).accounts statements := by
      simp [accounts, hp, hds]
    rw [haccounts]
    refine ⟨by rw [List.map_cons, hstatements], fun a ha => ?_, ?_⟩
    · rcases List.mem_cons.mp ha with rfl | ha
      · exact hbalances
      · exact hrest a ha
    · rw [hdiagnostics, hds, List.flatMap_cons, List.append_assoc]

theorem ascending_accounts {source : String} {filename : Option String}
    (h : c.run (Statement.ofSource source filename) = .ok c') :
    Account.Ascending (c.accounts (Statement.ofSource source filename)) := by
  obtain ⟨hstatements, -, -⟩ := accounts_of_run h
  have hlines := Statement.pairwise_ofLines filename 1 (Text.splitAt '\n' source.toList)
  rw [show Statement.ofLines filename 1 _ = Statement.ofSource source filename from rfl, ← hstatements,
    List.pairwise_map] at hlines
  exact hlines

/-- The warnings of the entities whose targets are not found, in the order of the entities. -/
def lost (c : Context) : List Diagnostic :=
  (c.scene.entities.filter (Resolution.isLost (.ofEntities c.scene.entities))).map (Resolution.unresolved c.sources)

theorem isWarning_lost : ∀ d ∈ c.lost, d.IsWarning "W101" := by
  intro d hd
  obtain ⟨e, -, rfl⟩ := List.mem_map.mp hd
  exact Resolution.unresolved_isWarning e

end Context

/-! ### The accounts of a parse -/

section Parses
variable {v : Vocabulary} {strict : Bool} {source : String} {filename : Option String} {r : Result}

/-- A parse adds to the diagnostics of its statements only the warnings of targets that are not found, and
    these only if it succeeds. -/
theorem diagnostics_readSource (h : readSource v strict source filename = .ok r) :
    ∃ c, Context.run { vocabulary := v, strict } (Statement.ofSource source filename) = .ok c ∧
      r.scene.entities.map (·.id) = c.scene.entities.map (·.id) ∧
      r.diagnostics = c.diagnostics ++ if r.success then c.lost else [] := by
  obtain ⟨c, hc, ⟨hfails, hr⟩ | ⟨hsucceeds, settled, hr, hsettled⟩⟩ := readSource_cases h
  · refine ⟨c, hc, by rw [hr]; rfl, ?_⟩
    rw [hfails, hr]
    exact (List.append_nil _).symm
  · refine ⟨c, hc, ?_, ?_⟩
    · rw [hr]
      exact hsettled.map_eq fun _ _ => rfl
    · have hlost : settled.warnings = c.lost := by rw [hsettled.warnings, List.take_length, Context.lost]
      rw [hsucceeds, hr, if_pos rfl, ← hlost]
      rfl

theorem success_eq_true : r.success = true ↔ Diagnostic.errors r.diagnostics = [] := by
  simp [Result.success, Diagnostic.anyError_eq]

/-- The diagnostics of a parse are accounted for. Its statements each have an account of what they add, with
    warnings and then the one error of a refusal, all on the line of the statement. The errors are those of
    the refusals, in order and on increasing lines, and the parse succeeds if there is no refusal. The targets
    that are not found are told of last, in the order of the entities, and only if the parse succeeds. -/
theorem readSource_accounts (h : readSource v strict source filename = .ok r) :
    let statements := Statement.ofSource source filename
    let accounts := Context.accounts { vocabulary := v, strict } statements
    accounts.map (·.statement) = statements ∧
      (∀ a ∈ accounts, a.Balances ∧ ∀ d ∈ a.diagnostics, d.line = a.statement.line) ∧
      Diagnostic.errors r.diagnostics = (accounts.filterMap (·.refusal)).map Refusal.diagnostic ∧
      (Diagnostic.errors r.diagnostics).Pairwise (fun d e => d.line < e.line) ∧
      (r.success = true ↔ ∀ a ∈ accounts, a.refusal = none) ∧
      r.diagnostics.filter (·.code != "W101") = accounts.flatMap (·.diagnostics) ∧
      (r.diagnostics.filter (·.code != "W101")).Pairwise (fun d e => d.line ≤ e.line) ∧
      ∃ c, Context.run { vocabulary := v, strict } statements = .ok c ∧
        r.scene.entities.map (·.id) = c.scene.entities.map (·.id) ∧ (∀ d ∈ c.lost, d.IsWarning "W101") ∧
        r.diagnostics = accounts.flatMap (·.diagnostics) ++ if r.success then c.lost else [] := by
  intro statements accounts
  obtain ⟨c, hc, hids, hlost⟩ := diagnostics_readSource h
  obtain ⟨hstatements, hbalances, hearly⟩ := Context.accounts_of_run hc
  have hascending : Account.Ascending accounts := Context.ascending_accounts hc
  rw [List.nil_append] at hearly
  rw [hearly] at hlost
  have hlate : ∀ d ∈ if r.success then c.lost else [], d.IsWarning "W101" := by
    split
    · exact Context.isWarning_lost
    · simp
  have herrors : Diagnostic.errors r.diagnostics = (accounts.filterMap (·.refusal)).map Refusal.diagnostic := by
    rw [hlost, Account.errors_append_late hbalances hlate]
  have hkept : r.diagnostics.filter (·.code != "W101") = accounts.flatMap (·.diagnostics) := by
    rw [hlost, Account.filter_append_late hbalances hlate]
  refine ⟨hstatements, fun a ha => ⟨hbalances a ha, fun d hd => ((hbalances a ha).points d hd).line_eq⟩, herrors,
    ?_, ?_, hkept, ?_, c, hc, hids, Context.isWarning_lost, hlost⟩
  · rw [herrors]
    exact hascending.errors hbalances
  · rw [success_eq_true, herrors, List.map_eq_nil_iff, List.filterMap_eq_nil_iff]
  · rw [hkept]
    exact hascending.diagnostics hbalances

/-- A statement that warns before it is refused stands between two that are refused too. -/
theorem readSource_accounts_bundled :
    let source := "DRAW\nEXPORT AS PNG COLOR: 3 DPI: x\nDRAW MAN NEAR GHOST\nDRAW TREE NEAR"
    ∃ r, readSource .bundled false source none = .ok r ∧
      (Context.accounts { vocabulary := .bundled } (Statement.ofSource source none)).map (·.diagnostics.length) =
        [1, 2, 0, 1] ∧
      (Diagnostic.errors r.diagnostics).Pairwise (fun d e => d.line < e.line) ∧
      (r.diagnostics.filter (·.code != "W101")).Pairwise (fun d e => d.line ≤ e.line) := by
  intro source
  have hparse : (readSource .bundled false source none).toOption.isSome = true := by decide +kernel
  have hlengths : (Context.accounts { vocabulary := .bundled } (Statement.ofSource source none)).map
      (·.diagnostics.length) = [1, 2, 0, 1] := by decide +kernel
  obtain ⟨r, hr⟩ := toOption_isSome.mp hparse
  obtain ⟨-, -, -, hincreasing, -, -, hordered, -⟩ := readSource_accounts hr
  exact ⟨r, hr, hlengths, hincreasing, hordered⟩

end Parses
end SceneScript
