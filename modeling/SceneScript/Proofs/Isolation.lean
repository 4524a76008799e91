import SceneScript.Proofs.Parses

/-!
Isolation of refused statements. A refused statement leaves nothing but reports, and no statement looks at
reports; so the lines with refused statements can be emptied without a trace in the scene.
-/

namespace SceneScript

/-! ### Lines -/

namespace Text
variable {mark : Char}

theorem splitAt_eq_splitOn (mark : Char) (cs : List Char) : splitAt mark cs = cs.splitOn mark := by
  induction cs with
  | nil => rfl
  | cons c rest ih =>
    rw [List.splitOn_cons_eq_if_modifyHead, ← ih, splitAt]
    split
    · rename_i hnil
      exact absurd hnil (splitAt_ne_nil mark rest)
    · rename_i piece pieces hpieces
      rw [hpieces]
      by_cases hc : c = mark <;> simp [hc]

theorem not_mem_of_mem_splitAt {cs piece : List Char} (h : piece ∈ splitAt mark cs) : mark ∉ piece := by
  induction cs generalizing piece with
  | nil =>
    rw [List.mem_singleton.mp h]
    exact List.not_mem_nil
  | cons c rest ih =>
    rw [splitAt] at h
    split at h
    · rename_i hnil
      exact absurd hnil (splitAt_ne_nil mark rest)
    · rename_i first pieces hpieces
      rw [hpieces] at ih
      split at h
      · rcases List.mem_cons.mp h with rfl | h
        · exact List.not_mem_nil
        · exact ih h
      · rename_i hc
        rcases List.mem_cons.mp h with rfl | h
        · intro hmark
          rcases List.mem_cons.mp hmark with hmark | hmark
          · exact hc hmark.symm
          · exact ih List.mem_cons_self hmark
        · exact ih (List.mem_cons_of_mem _ h)

theorem splitAt_intercalate {lines : List (List Char)} (hne : lines ≠ []) (h : ∀ line ∈ lines, mark ∉ line) :
    splitAt mark ([mark].intercalate lines) = lines := by
  rw [splitAt_eq_splitOn, List.splitOn_intercalate mark h hne]

end Text

theorem Statement.ofLine?_nil {filename : Option String} {n : Nat} : ofLine? filename n [] = none := rfl

namespace Context

variable {c c' d : Context} {s : Statement} {filename : Option String}

/-! ### Emptied lines -/

/-- The lines as the context runs through them, numbered from `n` on, with an empty line in the place of
    each that it refuses. -/
def emptyRefused (filename : Option String) (c : Context) (n : Nat) : List (List Char) → List (List Char)
  | [] => []
  | line :: rest =>
    match Statement.ofLine? filename n line with
    | none => line :: emptyRefused filename c (n + 1) rest
    | some s =>
      match c.attempt s with
      | .ok (d, none) => line :: emptyRefused filename d (n + 1) rest
      | .ok (d, some r) => [] :: emptyRefused filename (d.refuse s r) (n + 1) rest
      | .error _ => line :: rest

/-- The source text with every line emptied that the context refuses when it runs through the text. -/
def withoutRefused (c : Context) (source : String) (filename : Option String) : String :=
  String.ofList (['\n'].intercalate (c.emptyRefused filename 1 (Text.splitAt '\n' source.toList)))

theorem emptyRefused_ne_nil {n : Nat} {lines : List (List Char)} (h : lines ≠ []) :
    emptyRefused filename c n lines ≠ [] := by
  cases lines with
  | nil => exact absurd rfl h
  | cons line rest =>
    unfold emptyRefused
    split
    · exact List.cons_ne_nil _ _
    · split <;> exact List.cons_ne_nil _ _

theorem mem_emptyRefused {n : Nat} {lines : List (List Char)} {line : List Char}
    (h : line ∈ emptyRefused filename c n lines) : line = [] ∨ line ∈ lines := by
  induction lines generalizing c n with
  | nil => exact Or.inr h
  | cons first rest ih =>
    have hrest : ∀ {d m}, line ∈ emptyRefused filename d m rest → line = [] ∨ line ∈ first :: rest := fun h =>
      (ih h).imp_right (List.mem_cons_of_mem first)
    unfold emptyRefused at h
    split at h
    · rcases List.mem_cons.mp h with rfl | h
      · exact Or.inr List.mem_cons_self
      · exact hrest h
    · split at h
      · rcases List.mem_cons.mp h with rfl | h
        · exact Or.inr List.mem_cons_self
        · exact hrest h
      · rcases List.mem_cons.mp h with rfl | h
        · exact Or.inl rfl
        · exact hrest h
      · exact Or.inr h

theorem ofSource_withoutRefused (c : Context) (source : String) (filename : Option String) :
    Statement.ofSource (c.withoutRefused source filename) filename =
      Statement.ofLines filename 1 (c.emptyRefused filename 1 (Text.splitAt '\n' source.toList)) := by
  have hmarks : ∀ line ∈ c.emptyRefused filename 1 (Text.splitAt '\n' source.toList), '\n' ∉ line := by
    intro line hline
    rcases mem_emptyRefused hline with rfl | hline
    · exact List.not_mem_nil
    · exact Text.not_mem_of_mem_splitAt hline
  unfold Statement.ofSource withoutRefused
  rw [String.toList_ofList,
    Text.splitAt_intercalate (emptyRefused_ne_nil (Text.splitAt_ne_nil '\n' source.toList)) hmarks]

/-! ### Runs without refused lines -/

/-- A context that agrees with another follows it through its emptied lines, and refuses nothing there. -/
theorem run_emptyRefused {n : Nat} {lines : List (List Char)} (hagree : Agree c d)
    (h : c.run (Statement.ofLines filename n lines) = .ok c') :
    ∃ d', d.run (Statement.ofLines filename n (emptyRefused filename c n lines)) = .ok d' ∧ Agree c' d' ∧
      Warns d d' := by
  induction lines generalizing c d n with
  | nil =>
    cases h
    exact ⟨d, rfl, hagree, Appends.of_eq rfl⟩
  | cons line rest ih =>
    unfold emptyRefused
    cases hline : Statement.ofLine? filename n line with
    | none =>
      simp only [Statement.ofLines, hline, Option.toList_none, List.nil_append] at h ⊢
      exact ih hagree h
    | some s =>
      simp only [Statement.ofLines, hline, Option.toList_some, List.singleton_append] at h
      obtain ⟨c₁, hstep, h⟩ := bind_eq_ok.mp h
      obtain ⟨⟨c₀, o⟩, hattempt, rfl⟩ := step_eq_ok.mp hstep
      simp only [hattempt]
      cases o with
      | none =>
        obtain ⟨d₀, hd₀, hagree₀⟩ := hagree.attempt hattempt
        obtain ⟨d', hd', hagree', hwarns⟩ := ih hagree₀ h
        refine ⟨d', ?_, hagree', (Warns.attempt hd₀).trans hwarns⟩
        simp only [Statement.ofLines, hline, Option.toList_some, List.singleton_append]
        exact bind_eq_ok.mpr ⟨d₀, step_eq_ok.mpr ⟨_, hd₀, rfl⟩, hd'⟩
      | some r =>
        -- The refused statement has left nothing but reports, so agreement goes on without it.
        have hleft : Agree (c₀.refuse s r) d := by
          rw [attempt_refused hattempt]
          exact hagree
        obtain ⟨d', hd', hagree', hwarns⟩ := ih hleft h
        refine ⟨d', ?_, hagree', hwarns⟩
        simp only [Statement.ofLines, Statement.ofLine?_nil, Option.toList_none, List.nil_append]
        exact hd'

/-- Refused statements are isolated. The context that one leaves differs from the one before in nothing
    but warnings about unknown export options; and a run through a text comes to the same scene, extensions,
    sources and next id as a run through the text with the refused lines emptied, which refuses nothing. -/
theorem refusal_isolated :
    (∀ (c c' : Context) (s : Statement) (r : Refusal), c.attempt s = .ok (c', some r) →
      c'.scene = c.scene ∧ c'.extensions = c.extensions ∧ c'.sources = c.sources ∧ c'.nextId = c.nextId ∧
        ∃ ws, c'.diagnostics = c.diagnostics ++ ws ∧ ∀ w ∈ ws, w.IsWarning "W104") ∧
      ∀ (c c' : Context) (source : String) (filename : Option String),
        c.run (Statement.ofSource source filename) = .ok c' →
          ∃ d, c.run (Statement.ofSource (c.withoutRefused source filename) filename) = .ok d ∧
            d.scene = c'.scene ∧ d.extensions = c'.extensions ∧ d.sources = c'.sources ∧
            d.nextId = c'.nextId ∧ Diagnostic.errors d.diagnostics = Diagnostic.errors c.diagnostics := by
  constructor
  · intro c c' s r h
    rw [attempt_refused h]
    exact ⟨rfl, rfl, rfl, rfl, s.read.warnings, rfl, s.read_warnings⟩
  · intro c c' source filename h
    obtain ⟨d, hd, hagree, hwarns⟩ := run_emptyRefused (Agree.refl c) h
    refine ⟨d, ?_, hagree.scene.symm, hagree.extensions.symm, hagree.sources.symm, hagree.nextId.symm,
      hwarns.errors_eq⟩
    rw [ofSource_withoutRefused]
    exact hd

/-- An export refused at its last option, where a person, an environment and earlier options stand; and a
    drawing refused between two that are not. -/
theorem refusal_isolated_runs :
    (∃ c c' r, Context.run { vocabulary := .bundled } (Statement.ofSource
          "LOAD EXTENSION EDUCATIONAL\nADD ENVIRONMENT CLASSROOM\nDRAW TEACHER AT LEFT\nEXPORT AS GIF DPI: 72" none) =
        .ok c ∧
      c.scene.entities.map (·.subtype) = ["teacher"] ∧ c.scene.environment.type = "classroom" ∧
      (c.scene.metadata.exportOptions.bind (·.density)) = some 72 ∧
      c.attempt ⟨5, "EXPORT AS PNG GLOW: 1 DPI: 0", 1, none⟩ = .ok (c', some r) ∧
      c'.scene = c.scene ∧ c'.extensions = ["educational"] ∧ c'.sources = c.sources ∧ c'.nextId = "entity_2" ∧
      c'.diagnostics.length = c.diagnostics.length + 1) ∧
      ∃ c' d, Context.run { vocabulary := {} } (Statement.ofSource "DRAW MAN\nDRAW\nDRAW TREE" none) = .ok c' ∧
        Context.run { vocabulary := {} } (Statement.ofSource
          (Context.withoutRefused { vocabulary := {} } "DRAW MAN\nDRAW\nDRAW TREE" none) none) = .ok d ∧
        d.scene = c'.scene ∧ d.nextId = c'.nextId := by
  have hexport : (Statement.refusal? ⟨5, "EXPORT AS PNG GLOW: 1 DPI: 0", 1, none⟩).isSome = true := by
    decide +kernel
  have hwarns : (Statement.read ⟨5, "EXPORT AS PNG GLOW: 1 DPI: 0", 1, none⟩).warnings.length = 1 := by
    decide +kernel
  have hbefore : (Context.run { vocabulary := .bundled } (Statement.ofSource
      "LOAD EXTENSION EDUCATIONAL\nADD ENVIRONMENT CLASSROOM\nDRAW TEACHER AT LEFT\nEXPORT AS GIF DPI: 72"
      none)).toOption.map (fun c => (c.scene.entities.map (·.subtype), c.scene.environment.type,
        c.scene.metadata.exportOptions.bind (·.density), c.extensions, c.nextId)) =
      some (["teacher"], "classroom", some 72, ["educational"], "entity_2") := by decide +kernel
  have hrun : (Context.run { vocabulary := {} }
      (Statement.ofSource "DRAW MAN\nDRAW\nDRAW TREE" none)).toOption.isSome = true := by decide +kernel
  constructor
  · obtain ⟨c, hc, hbooks⟩ := toOption_map_eq_some.mp hbefore
    simp only [Prod.mk.injEq] at hbooks
    obtain ⟨hentities, htype, hdensity, hextensions, hid⟩ := hbooks
    obtain ⟨r, hr⟩ := Option.isSome_iff_exists.mp hexport
    obtain ⟨c', hc'⟩ := (refuses_iff (c := c)).mpr hr
    obtain ⟨hscene, hloaded, hsources, hnext, -⟩ := refusal_isolated.1 _ _ _ _ hc'
    refine ⟨c, c', r, hc, hentities, htype, hdensity, hc', hscene, hloaded.trans hextensions, hsources,
      hnext.trans hid, ?_⟩
    rw [attempt_refused hc', begin, List.length_append, hwarns]
  · obtain ⟨c', hc'⟩ := toOption_isSome.mp hrun
    obtain ⟨d, hd, hscene, -, -, hid, -⟩ := refusal_isolated.2 _ _ _ _ hc'
    exact ⟨c', d, hc', hd, hscene, hid⟩

end Context
end SceneScript
