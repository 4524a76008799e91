import SceneScript.Proofs.Layout
import SceneScript.Proofs.Readings

/-!
What reading a statement says about its text. Whatever comes of a statement, the warnings met on the way and
the refusal quote the statement and mark a stretch of it; the tokens that a command keeps stand in it too, and
a relation that a drawing states is to a target with a name.
-/

namespace SceneScript

/-- The diagnostic quotes the statement and marks a stretch of it. -/
structure Diagnostic.PointsInto (s : Statement) (d : Diagnostic) : Prop where
  sourceLine : d.sourceLine = some s.text
  span : s.Covers d.span

theorem Diagnostic.PointsInto.line_eq {s : Statement} {d : Diagnostic} (h : d.PointsInto s) : d.line = s.line := by
  obtain ⟨_, _, -, -, hspan⟩ := h.span
  rw [Diagnostic.line, hspan]
  rfl

/-- A warning about the statement that is given before positions settle. -/
structure Diagnostic.IsEarly (s : Statement) (d : Diagnostic) : Prop where
  severity : d.severity = .warning
  code : d.code ≠ "W101"
  points : d.PointsInto s

theorem Diagnostic.IsWarning.early {s : Statement} {d : Diagnostic} {code : String} (h : d.IsWarning code)
    (hcode : code ≠ "W101") (hpoints : d.PointsInto s) : d.IsEarly s :=
  ⟨h.severity, by rw [h.code]; exact hcode, hpoints⟩

/-! ### Results of reading -/

namespace Statement

variable {s : Statement} {α β : Type} {p : α → Prop} {q : β → Prop}

/-- Reading comes to a result that satisfies `p`, or to a refusal that points into the statement. -/
def Yields (s : Statement) (x : Except Refusal α) (p : α → Prop) : Prop :=
  match x with
  | .ok a => p a
  | .error r => r.diagnostic.PointsInto s

theorem yields_error {cause : Rejection} {span : Span} (h : s.Covers span) :
    s.Yields (.error ⟨cause, span, some s.text⟩) p := ⟨rfl, h⟩

theorem Yields.bind {x : Except Refusal α} {f : α → Except Refusal β} (h : s.Yields x p)
    (hf : ∀ a, p a → s.Yields (f a) q) : s.Yields (x >>= f) q := by
  cases x with
  | error r => exact h
  | ok a => exact hf a h

theorem Yields.map {x : Except Refusal α} {f : α → β} (h : s.Yields x p) (hf : ∀ a, p a → q (f a)) :
    s.Yields (x.map f) q := by
  cases x with
  | error r => exact h
  | ok a => exact hf a h

end Statement

/-! ### Positions -/

namespace Position

/-- The position names a relation and a target; the name is not empty. -/
def IsPending (p : Position) : Prop :=
  ∃ r target, p.relative = some r ∧ p.relativeTo = some target ∧ target ≠ ""

/-- What a position clause can state: a coordinate alone, or a relation to a target with a name. -/
def Stated (p : Position) : Prop := p.IsAbsolute ∨ p.IsPending

/-- A position as a clause of the statement gives it. -/
structure Placed.Within (s : Statement) (placed : Placed) : Prop where
  stated : placed.position.Stated
  warning : ∀ w ∈ placed.warning, w.PointsInto s

variable {s : Statement} {tokens : List Token}

theorem laidOut_splitDistance (h : s.LaidOut 0 tokens) : s.LaidOut 0 (splitDistance tokens).1 := by
  unfold splitDistance
  split
  · rename_i n lexeme span second first before hreverse
    split
    · refine h.sublist ?_
      rw [← List.reverse_reverse tokens, hreverse, List.reverse_cons, List.reverse_cons, List.reverse_cons]
      exact ((List.sublist_append_left _ _).trans (List.sublist_append_left _ _)).trans
        (List.sublist_append_left _ _)
    · exact h
  · exact h

theorem ofLead_yields {lead : Lead} {span : Span} (hspan : s.Covers span) (h : s.LaidOut 0 tokens) :
    s.Yields (ofLead s.text lead span tokens) (·.Within s) := by
  cases lead with
  | «at» =>
    simp only [ofLead]
    split
    · exact Statement.yields_error hspan
    · rename_i target htarget
      split
      · rename_i p hp
        exact ⟨Or.inl (isAbsolute_of_place? hp), by simp⟩
      · refine ⟨Or.inl ⟨rfl, rfl, rfl⟩, fun w hw => ?_⟩
        cases hw
        exact ⟨rfl, h.covers_spanOf? htarget⟩
  | relation r =>
    simp only [ofLead]
    split
    · exact Statement.yields_error hspan
    · rename_i hne
      refine ⟨Or.inr ⟨r, _, rfl, rfl, ?_⟩, by simp⟩
      exact (laidOut_splitDistance h).textOf_ne_empty (by simpa using hne)

theorem ofTokens_yields (h : s.LaidOut 0 tokens) (hne : tokens ≠ []) :
    s.Yields (ofTokens s.text tokens) (·.Within s) := by
  have hcursor := Cursor.Within.ofTokens h hne
  simp only [ofTokens]
  split
  · exact Statement.yields_error hcursor.current
  · refine ofLead_yields ?_ (hcursor.tokens.sublist (List.drop_sublist _ _))
    unfold Cursor.spanOf
    cases hspan : Token.spanOf? ((Cursor.ofTokens tokens).tokens.take _) with
    | none => exact hcursor.last
    | some span => exact (hcursor.tokens.sublist (List.take_sublist _ _)).covers_spanOf? hspan

end Position

/-! ### Commands -/

theorem Token.lt_of_findLeadFrom {depth n : Nat} {tokens : List Token} (h : findLeadFrom depth tokens = some n) :
    n < tokens.length := by
  induction tokens generalizing depth n with
  | nil => cases h
  | cons t rest ih =>
    unfold findLeadFrom at h
    split at h
    · cases h
      exact Nat.zero_lt_succ _
    · obtain ⟨m, hm, rfl⟩ := Option.map_eq_some_iff.mp h
      exact Nat.succ_lt_succ (ih hm)

namespace Command

/-- The tokens of the command that diagnostics are about stand in the statement. -/
def Within (s : Statement) : Command → Prop
  | .load name => s.Covers name.span
  | .environment _ => True
  | .draw _ _ placed => placed.Within s
  | .update reference _ => s.Covers reference.span
  | .exportAs _ => True

variable {s : Statement} {c : Cursor}

theorem expectWord_yields (rejection : String → Rejection) (h : c.Within s) :
    s.Yields (expectWord rejection s.text c) fun t => s.Covers t.span := by
  unfold expectWord
  split
  · exact h.current
  · exact Statement.yields_error h.current

theorem entityKeyword_yields (h : c.Within s) :
    s.Yields (entityKeyword s.text c) fun p => s.LaidOut 0 p.2 := by
  refine (expectWord_yields .drawWithoutEntity h).bind fun first _ => ?_
  split
  · exact h.rest
  · have hrest := h.advance.rest
    simp only
    split
    · rename_i kind more hmore
      split
      · rw [hmore] at hrest
        exact hrest.sublist (List.sublist_cons_self _ _)
      · exact hrest
    · exact hrest

theorem readDraw_yields (h : c.Within s) : s.Yields (readDraw s.text c) (·.Within s) := by
  refine (entityKeyword_yields h).bind fun p hrest => ?_
  obtain ⟨keyword, rest⟩ := p
  simp only
  split
  · exact ⟨Or.inl ⟨rfl, rfl, rfl⟩, by simp⟩
  · rename_i n hn
    have hne : rest.drop n ≠ [] := by simpa using Token.lt_of_findLeadFrom hn
    exact (Position.ofTokens_yields (hrest.sublist (List.drop_sublist n rest)) hne).bind fun _ hplaced => hplaced

theorem readUpdate_yields (h : c.Within s) : s.Yields (readUpdate s.text c) (·.Within s) := by
  refine (expectWord_yields .updateWithoutEntity h).bind fun reference hreference => ?_
  split
  · rename_i after hnone
    obtain ⟨-, hafter⟩ := h.advance.matchWord hnone
    exact Statement.yields_error hafter.current
  · rename_i joiner after hsome
    obtain ⟨hjoiner, -⟩ := h.advance.matchWord hsome
    split
    · exact Statement.yields_error (hjoiner joiner rfl)
    · exact hreference

namespace Export

variable {f : Frame}

/-- The options are read against the text of the statement. -/
structure Frame.Within (s : Statement) (f : Frame) : Prop where
  source : f.source = s.text
  last : s.Covers f.last.span

theorem Frame.Within.refuse {α : Type} {p : α → Prop} {t : Token} (h : f.Within s) (rejection : String → Rejection)
    (ht : s.Covers t.span) : s.Yields (f.refuse rejection t) p := by
  unfold Frame.refuse
  rw [h.source]
  exact Statement.yields_error ht

theorem Frame.Within.front {tokens : List Token} (h : f.Within s) (htokens : s.LaidOut 0 tokens) :
    s.Covers (f.front tokens).span := by
  unfold Frame.front
  cases htokens with
  | nil => exact h.last
  | cons hstart hlt hstop hspan hrest => exact ⟨_, _, Nat.le_of_lt hlt, hstop, hspan⟩

theorem setOption_yields {value : Token} (h : f.Within s) (hvalue : s.Covers value.span) (word : String)
    (options : ExportOptions) : s.Yields (setOption f word value options) fun _ => True := by
  unfold setOption
  split
  · split
    · trivial
    · exact h.refuse _ hvalue
  · split
    · split
      · trivial
      · exact h.refuse _ hvalue
    · split
      · trivial
      · exact h.refuse _ hvalue

theorem laidOut_of_dropColon {hasColon : Bool} {t : Token} {rest rest' : List Token} (h : s.LaidOut 0 (t :: rest))
    (hdrop : dropColon rest = (hasColon, rest')) : s.LaidOut 0 rest' := by
  have hrest : s.LaidOut 0 rest := h.sublist (List.sublist_cons_self _ _)
  unfold dropColon at hdrop
  split at hdrop
  · cases hdrop
    exact hrest
  · split at hdrop
    · cases hdrop
      exact hrest.sublist (List.sublist_cons_self _ _)
    · cases hdrop
      exact hrest

theorem laidOut_dropValue {tokens : List Token} (h : s.LaidOut 0 tokens) (hasColon : Bool) :
    s.LaidOut 0 (dropValue hasColon tokens) := by
  unfold dropValue
  split
  · exact h
  · exact h.sublist (List.drop_sublist _ _)

theorem readOptions_yields {options : ExportOptions} {tokens : List Token} (h : f.Within s)
    (htokens : s.LaidOut 0 tokens) :
    (∀ w ∈ (readOptions f options tokens).1, w.PointsInto s) ∧
      s.Yields (readOptions f options tokens).2 fun _ => True := by
  fun_induction readOptions f options tokens with
  | case1 => exact ⟨by simp, trivial⟩
  | case2 options t rest _ ih => exact ih (htokens.sublist (List.sublist_cons_self _ _))
  | case3 options t rest => exact ⟨by simp, h.refuse _ (htokens.covers List.mem_cons_self)⟩
  | case4 options t rest _ _ hasColon rest' hdrop _ _ r hset =>
    have hvalue := h.front (laidOut_of_dropColon htokens hdrop)
    have hyields := setOption_yields h hvalue t.wordText options
    rw [hset] at hyields
    exact ⟨by simp, hyields⟩
  | case5 options t rest _ _ hasColon rest' hdrop _ _ options' _ ih =>
    exact ih ((laidOut_of_dropColon htokens hdrop).sublist (List.drop_sublist _ _))
  | case6 options t rest _ _ hasColon rest' hdrop _ _ _ warning warnings result hread ih =>
    rw [hread] at ih
    obtain ⟨hwarnings, hresult⟩ := ih (laidOut_dropValue (laidOut_of_dropColon htokens hdrop) hasColon)
    refine ⟨fun w hw => ?_, hresult⟩
    rcases List.mem_cons.mp hw with rfl | hw
    · exact ⟨congrArg some h.source, htokens.covers List.mem_cons_self⟩
    · exact hwarnings w hw

theorem read_yields (h : c.Within s) :
    (∀ w ∈ (read s.text c).1, w.PointsInto s) ∧ s.Yields (read s.text c).2 (·.Within s) := by
  have hframe : Frame.Within s ⟨s.text, c.last⟩ := ⟨rfl, h.last⟩
  unfold read
  split
  · rename_i after hnone
    obtain ⟨-, hafter⟩ := h.matchWord hnone
    exact ⟨by simp, hframe.refuse _ hafter.current⟩
  · rename_i as after hsome
    obtain ⟨-, hafter⟩ := h.matchWord hsome
    split
    · rename_i last hnone
      obtain ⟨-, hlast⟩ := hafter.matchWord hnone
      exact ⟨by simp, hframe.refuse _ hlast.current⟩
    · rename_i format last hformat
      obtain ⟨-, hlast⟩ := hafter.matchWord hformat
      obtain ⟨hwarnings, hresult⟩ := readOptions_yields hframe hlast.rest
      exact ⟨hwarnings, hresult.map fun _ _ => trivial⟩

end Export

theorem readAfter_yields (h : c.Within s) (opening : Opening) :
    (∀ w ∈ (readAfter s.text c opening).1, w.PointsInto s) ∧
      s.Yields (readAfter s.text c opening).2 (·.Within s) := by
  cases opening with
  | load => exact ⟨by simp [readAfter], (expectWord_yields _ h).map fun _ hname => hname⟩
  | environment => exact ⟨by simp [readAfter], (expectWord_yields _ h).map fun _ _ => trivial⟩
  | draw => exact ⟨by simp [readAfter], readDraw_yields h⟩
  | update => exact ⟨by simp [readAfter], readUpdate_yields h⟩
  | exportAs => exact Export.read_yields h

end Command

/-! ### Statements -/

namespace Statement

variable {s : Statement}

theorem pointsInto_of_tokens {r : Refusal} (h : s.tokens = .error (.refused r)) : r.diagnostic.PointsInto s := by
  obtain ⟨-, hends⟩ := scan_laidOut s
  unfold Statement.tokens at h
  split at h
  · cases h
  · rename_i found span hscan
    cases h
    rw [hscan] at hends
    exact ⟨rfl, hends.openString span rfl⟩
  · cases h

/-- What is read of a statement points into it: the warnings, the refusal and the command. -/
theorem read_within (s : Statement) :
    (∀ w ∈ s.read.warnings, w.PointsInto s) ∧
      (∀ r, s.read.outcome = .error (.refused r) → r.diagnostic.PointsInto s) ∧
      ∀ command, s.read.outcome = .ok command → command.Within s := by
  unfold read
  split
  · rename_i failure hfailure
    refine ⟨by simp, fun r hr => ?_, by simp⟩
    cases hr
    exact pointsInto_of_tokens hfailure
  · rename_i tokens htokens
    have hcursor := tokens_within htokens
    simp only
    split
    · refine ⟨by simp, fun r hr => ?_, by simp⟩
      cases hr
      exact ⟨rfl, s.covers_span⟩
    · rename_i opening _
      obtain ⟨hwarnings, hresult⟩ := Command.readAfter_yields (hcursor.moved opening.phrase.length) opening
      refine ⟨hwarnings, fun r hr => ?_, fun command hcommand => ?_⟩
      · obtain ⟨r', hr', heq⟩ := mapError_eq_error.mp hr
        cases heq
        rw [hr'] at hresult
        exact hresult
      · rw [mapError_eq_ok.mp hcommand] at hresult
        exact hresult

end Statement

end SceneScript
