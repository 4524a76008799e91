import SceneScript.Command.Reading
import SceneScript.Proofs.Outcomes

/-!
What reading a statement can yield. The only warnings met while a statement is read are about unknown
export options; a drawing that is read has a position that is settled or waits for a named target, and
its warning, if any, is about an unknown place.
-/

namespace SceneScript

namespace Diagnostic

/-- A warning of the given code. -/
structure IsWarning (code : String) (d : Diagnostic) : Prop where
  severity : d.severity = .warning
  code : d.code = code

theorem errors_append (ds ds' : List Diagnostic) : errors (ds ++ ds') = errors ds ++ errors ds' :=
  List.filter_append ..

theorem errors_eq_nil {ds : List Diagnostic} (h : ∀ d ∈ ds, d.severity = .warning) : errors ds = [] := by
  unfold errors withSeverity
  rw [List.filter_eq_nil_iff]
  intro d hd
  simp [h d hd]

theorem anyError_eq (ds : List Diagnostic) : anyError ds = !(errors ds).isEmpty := by
  induction ds with
  | nil => rfl
  | cons d ds ih =>
    cases hd : d.severity == .error <;> simp_all [anyError, errors, withSeverity, isError]

end Diagnostic

theorem Warning.isWarning (w : Warning) (span : Span) (sourceLine : Option String) :
    (w.diagnostic span sourceLine).IsWarning w.code := ⟨rfl, rfl⟩

/-! ### Export options -/

namespace Command.Export

theorem readOptions_warnings (f : Frame) (options : ExportOptions) (tokens : List Token) :
    ∀ w ∈ (readOptions f options tokens).1, w.IsWarning "W104" := by
  fun_induction readOptions f options tokens with
  | case1 => simp
  | case2 _ _ _ _ ih => exact ih
  | case3 => simp
  | case4 => simp
  | case5 _ _ _ _ _ _ _ _ _ _ _ _ ih => exact ih
  | case6 options t rest _ _ hasColon rest' _ _ _ _ warning warnings result hread ih =>
    rw [hread] at ih
    intro w hw
    rcases List.mem_cons.mp hw with rfl | hw
    · exact Warning.isWarning (.unknownOption t.lexeme) t.span (some f.source)
    · exact ih w hw

theorem read_warnings (source : String) (c : Cursor) : ∀ w ∈ (read source c).1, w.IsWarning "W104" := by
  unfold read
  split
  · simp
  · split
    · simp
    · exact readOptions_warnings _ _ _

end Command.Export

theorem Command.readAfter_warnings (source : String) (c : Cursor) (opening : Opening) :
    ∀ w ∈ (readAfter source c opening).1, w.IsWarning "W104" := by
  cases opening with
  | load => simp [readAfter]
  | environment => simp [readAfter]
  | draw => simp [readAfter]
  | update => simp [readAfter]
  | exportAs => exact Export.read_warnings source c

/-- Whatever comes of a statement, reading it warns about unknown export options only. -/
theorem Statement.read_warnings (s : Statement) : ∀ w ∈ s.read.warnings, w.IsWarning "W104" := by
  unfold read
  split
  · simp
  · simp only
    split
    · simp
    · exact Command.readAfter_warnings _ _ _

/-! ### Positions -/

namespace Position

/-- A relation is pending exactly when a target is. -/
def Paired (p : Position) : Prop := p.relative.isSome = p.relativeTo.isSome

/-- Nothing is pending, no distance either. -/
structure IsAbsolute (p : Position) : Prop where
  relative : p.relative = none
  relativeTo : p.relativeTo = none
  distance : p.distance = none

theorem IsAbsolute.paired {p : Position} (h : p.IsAbsolute) : p.Paired := by
  unfold Paired
  rw [h.relative, h.relativeTo]
  rfl

theorem isAbsolute_absolute (x y z : Number) : (absolute x y z).IsAbsolute := ⟨rfl, rfl, rfl⟩

theorem paired_pending (r : Relation) (target : String) (distance : Option Number) :
    (pending r target distance).Paired := rfl

theorem isAbsolute_of_ofName? {name : String} {p : Position} (h : ofName? name = some p) : p.IsAbsolute := by
  obtain ⟨⟨x, y, z⟩, -, rfl⟩ := Option.map_eq_some_iff.mp h
  exact isAbsolute_absolute _ _ _

theorem isAbsolute_of_place? {target : List Token} {p : Position} (h : place? target = some p) : p.IsAbsolute := by
  unfold place? at h
  split at h
  · cases h
  · split at h
    · obtain ⟨⟨row, column⟩, -, rfl⟩ := Option.map_eq_some_iff.mp h
      exact isAbsolute_absolute _ _ _
    · split at h
      · exact isAbsolute_of_ofName? h
      · obtain ⟨⟨x, y⟩, -, rfl⟩ := Option.map_eq_some_iff.mp h
        exact isAbsolute_absolute _ _ _

/-- A position as a clause states it, with a warning only about an unknown place. -/
structure Placed.Sound (placed : Placed) : Prop where
  paired : placed.position.Paired
  warning : ∀ w ∈ placed.warning, w.IsWarning "W105"

theorem sound_of_ofLead {source : String} {lead : Lead} {span : Span} {target : List Token} {placed : Placed}
    (h : ofLead source lead span target = .ok placed) : placed.Sound := by
  cases lead with
  | «at» =>
    simp only [ofLead] at h
    split at h
    · cases h
    · split at h
      · rename_i p hp
        cases h
        exact ⟨(isAbsolute_of_place? hp).paired, by simp⟩
      · cases h
        refine ⟨rfl, fun w hw => ?_⟩
        cases hw
        exact Warning.isWarning (.unknownPosition _) _ _
  | relation r =>
    simp only [ofLead] at h
    split at h
    · cases h
    · cases h
      exact ⟨paired_pending _ _ _, by simp⟩

theorem sound_of_ofTokens {source : String} {tokens : List Token} {placed : Placed}
    (h : ofTokens source tokens = .ok placed) : placed.Sound := by
  simp only [ofTokens] at h
  split at h
  · cases h
  · exact sound_of_ofLead h

end Position

/-! ### Commands -/

namespace Command

/-- What holds of every command that a statement states. -/
def Sound : Command → Prop
  | .draw _ _ placed => placed.Sound
  | _ => True

theorem sound_of_readDraw {source : String} {c : Cursor} {command : Command}
    (h : readDraw source c = .ok command) : command.Sound := by
  obtain ⟨⟨keyword, rest⟩, -, h⟩ := bind_eq_ok.mp h
  simp only at h
  split at h
  · cases pure_eq_ok.mp h
    exact ⟨rfl, by simp⟩
  · obtain ⟨placed, hplaced, h⟩ := bind_eq_ok.mp h
    cases pure_eq_ok.mp h
    exact Position.sound_of_ofTokens hplaced

theorem readDraw_eq_ok {source : String} {c : Cursor} {command : Command} (h : readDraw source c = .ok command) :
    ∃ keyword clauses placed, command = .draw keyword clauses placed := by
  obtain ⟨⟨keyword, rest⟩, -, h⟩ := bind_eq_ok.mp h
  simp only at h
  split at h
  · exact ⟨keyword, _, _, (pure_eq_ok.mp h).symm⟩
  · obtain ⟨placed, -, h⟩ := bind_eq_ok.mp h
    exact ⟨keyword, _, placed, (pure_eq_ok.mp h).symm⟩

theorem readUpdate_eq_ok {source : String} {c : Cursor} {command : Command}
    (h : readUpdate source c = .ok command) : ∃ reference clauses, command = .update reference clauses := by
  obtain ⟨reference, -, h⟩ := bind_eq_ok.mp h
  simp only at h
  split at h
  · cases h
  · split at h
    · obtain ⟨_, hthrow, -⟩ := bind_eq_ok.mp h
      cases hthrow
    · exact ⟨reference, _, (pure_eq_ok.mp h).symm⟩

theorem Export.read_eq_ok {source : String} {c : Cursor} {command : Command}
    (h : (Export.read source c).2 = .ok command) : ∃ options, command = .exportAs options := by
  unfold Export.read at h
  split at h
  · cases h
  · split at h
    · cases h
    · obtain ⟨options, -, rfl⟩ := map_eq_ok.mp h
      exact ⟨options, rfl⟩

theorem sound_of_readAfter {source : String} {c : Cursor} {opening : Opening} {command : Command}
    (h : (readAfter source c opening).2 = .ok command) : command.Sound := by
  cases opening with
  | load =>
    obtain ⟨name, -, rfl⟩ := map_eq_ok.mp h
    trivial
  | environment =>
    obtain ⟨name, -, rfl⟩ := map_eq_ok.mp h
    trivial
  | draw => exact sound_of_readDraw h
  | update =>
    obtain ⟨reference, clauses, rfl⟩ := readUpdate_eq_ok h
    trivial
  | exportAs =>
    obtain ⟨options, rfl⟩ := Export.read_eq_ok h
    trivial

end Command

theorem Statement.sound_of_read {s : Statement} {command : Command} (h : s.read.outcome = .ok command) :
    command.Sound := by
  unfold read at h
  split at h
  · cases h
  · simp only at h
    split at h
    · cases h
    · exact Command.sound_of_readAfter (mapError_eq_ok.mp h)

end SceneScript
