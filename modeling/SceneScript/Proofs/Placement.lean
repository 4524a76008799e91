import SceneScript.Proofs.Accounting
import SceneScript.Proofs.Books

/-!
Where entities stand. Every entity is drawn at a coordinate or in a relation to a target with a name, as its
statement says, and stays so while statements are carried out. A parse that succeeds then moves all of them
to coordinates; one that fails leaves them as they were drawn.
-/

namespace SceneScript

/-! ### Stated positions -/

theorem Statement.stated_of_placement? {s : Statement} {p : Position} (h : s.placement? = some p) : p.Stated := by
  unfold placement? at h
  split at h
  · rename_i keyword clauses placed hread
    cases h
    have hplaced : placed.Within s := s.read_within.2.2 _ hread
    exact hplaced.stated
  · cases h

theorem Position.Stated.isAbsolute {p : Position} (h : p.Stated) (hresolved : p.isResolved = true) : p.IsAbsolute := by
  rcases h with h | ⟨r, target, hr, -, -⟩
  · exact h
  · simp [isResolved, hr] at hresolved

namespace Context

variable {c c' : Context} {s : Statement} {vocabulary : Vocabulary} {strict : Bool}

/-- The positions of the entities in turn. -/
def positions (c : Context) : List Position := c.scene.entities.map (·.position)

theorem positions_step (h : c.step s = .ok c') : c'.positions = c.positions ++ s.placement?.toList := by
  unfold positions
  rcases step_books h with ⟨e, hadds⟩ | ⟨hnone, hkeeps⟩
  · rw [hadds.entities, hadds.placement, List.map_append]
    rfl
  · rw [hkeeps.map_eq fun _ => rfl, hnone, Option.toList_none, List.append_nil]

/-- Positions are stated once, by the statements that draw. -/
theorem positions_run {statements : List Statement} (h : c.run statements = .ok c') :
    c'.positions = c.positions ++ statements.filterMap Statement.placement? := by
  induction statements generalizing c with
  | nil =>
    cases h
    simp
  | cons s statements ih =>
    obtain ⟨d, hd, h⟩ := bind_eq_ok.mp h
    rw [ih h, positions_step hd, List.append_assoc]
    cases hp : s.placement? <;> simp [hp]

theorem Reachable.stated (h : Reachable vocabulary strict c) : ∀ p ∈ c.positions, p.Stated := by
  induction h with
  | start => simp [positions]
  | step _ hstep ih =>
    intro p hp
    rw [positions_step hstep] at hp
    rcases List.mem_append.mp hp with hp | hp
    · exact ih p hp
    · exact Statement.stated_of_placement? (Option.mem_toList.mp hp)

end Context

/-! ### Settled positions -/

/-- If only coordinates and relations to named targets are stated, nothing is pending in what settles. -/
theorem Resolution.SettledTo.isAbsolute {table : NameTable} {sources : List (String × Statement)}
    {before : List Entity} {state : Resolution} (h : SettledTo table sources before before.length state)
    (hstated : ∀ e ∈ before, e.position.Stated) : ∀ e ∈ state.entities, e.position.IsAbsolute := by
  intro e he
  obtain ⟨i, hi⟩ := List.mem_iff_getElem?.mp he
  have hlt : i < before.length := by
    rw [← h.length_eq]
    exact (List.getElem?_eq_some_iff.mp hi).1
  have hbefore := List.getElem?_eq_getElem hlt
  obtain ⟨p, hp, hcase⟩ := (h.settles i _ hlt hbefore).exists_position
  rw [hi] at hp
  cases hp
  -- An entity that does not wait for a target was drawn at a coordinate and still stands there.
  rcases hcase with ⟨hresolved, rfl⟩ | habsolute
  · exact (hstated _ (List.mem_of_getElem? hbefore)).isAbsolute hresolved
  · exact habsolute

/-- Success means absolute positions. In every context that statements lead to, each entity either has a
    relation to a target with a name or neither relation nor target, so its positions settle without a fault.
    After a parse that succeeds nothing is pending; after one that fails all positions are as the statements
    state them, and no target is reported as not found. -/
theorem positions_of_readSource :
    (∀ (v : Vocabulary) (strict : Bool) (c : Context), Context.Reachable v strict c →
      (∀ e ∈ c.scene.entities, e.position.Stated) ∧
        ∃ settled, Resolution.ofEntities c.scene.entities c.sources = (settled, none)) ∧
      ∀ (v : Vocabulary) (strict : Bool) (source : String) (filename : Option String) (r : Result),
        readSource v strict source filename = .ok r →
          (r.success = true → ∀ e ∈ r.scene.entities, e.position.IsAbsolute) ∧
            (r.success = false →
              r.scene.entities.map (·.position) =
                  (Statement.ofSource source filename).filterMap Statement.placement? ∧
                ∀ d ∈ r.diagnostics, d.code ≠ "W101") := by
  refine ⟨fun v strict c hc => ⟨fun e he => hc.stated _ (List.mem_map_of_mem he), ?_⟩, ?_⟩
  · obtain ⟨settled, heq, -⟩ := Resolution.ofEntities_eq c.sources hc.sound.related
    exact ⟨settled, heq⟩
  · intro v strict source filename r h
    obtain ⟨c, hc, hends⟩ := readSource_cases h
    rcases hends with ⟨hfails, rfl⟩ | ⟨hsucceeds, settled, rfl, hsettled⟩
    · refine ⟨fun hsucceeds => ?_, fun _ => ⟨Context.positions_run hc, fun d hd => ?_⟩⟩
      · rw [hfails] at hsucceeds
        cases hsucceeds
      · obtain ⟨-, hbalances, hdiagnostics⟩ := Context.accounts_of_run hc
        have hd : d ∈ c.diagnostics := hd
        rw [hdiagnostics] at hd
        obtain ⟨a, ha, hd⟩ := List.mem_flatMap.mp hd
        exact (hbalances a ha).early d hd
    · refine ⟨fun _ => hsettled.isAbsolute fun e he => ?_, fun hfails => ?_⟩
      · exact (Context.Reachable.start.run hc).stated _ (List.mem_map_of_mem he)
      · rw [hsucceeds] at hfails
        cases hfails

/-- A tree beside a man ends up at a coordinate, unless another statement is refused. -/
theorem positions_of_readSource_bundled :
    (∃ r, readSource .bundled false "DRAW MAN AT LEFT\nDRAW TREE NEAR MAN" none = .ok r ∧ r.success = true ∧
      ∀ e ∈ r.scene.entities, e.position.IsAbsolute) ∧
    ∃ r, readSource .bundled false "DRAW TREE NEAR MAN\nDRAW" none = .ok r ∧ r.success = false ∧
      r.scene.entities.map (·.position) =
        (Statement.ofSource "DRAW TREE NEAR MAN\nDRAW" none).filterMap Statement.placement? ∧
      ∀ d ∈ r.diagnostics, d.code ≠ "W101" := by
  have hplaced : (readSource .bundled false "DRAW MAN AT LEFT\nDRAW TREE NEAR MAN" none).toOption.map
      Result.success = some true := by decide +kernel
  have hpending : (readSource .bundled false "DRAW TREE NEAR MAN\nDRAW" none).toOption.map
      Result.success = some false := by decide +kernel
  obtain ⟨r, hr, hsucceeds⟩ := toOption_map_eq_some.mp hplaced
  obtain ⟨r', hr', hfails⟩ := toOption_map_eq_some.mp hpending
  have ⟨habsolute, _⟩ := positions_of_readSource.2 _ _ _ _ r hr
  have ⟨_, hkept⟩ := positions_of_readSource.2 _ _ _ _ r' hr'
  exact ⟨⟨r, hr, hsucceeds, habsolute hsucceeds⟩, r', hr', hfails, hkept hfails⟩

end SceneScript
