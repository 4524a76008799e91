import SceneScript.Proofs.Catalogs
import SceneScript.Proofs.Errors

/-!
The books that a context keeps: ids, sources and extensions. Each drawing adds one entity with the next id and
enters its statement under that id; no statement takes anything back. So after any statements the books tell
which of them drew, and what was drawn stays as it is but for its attributes.
-/

namespace SceneScript

/-! ### Drawings -/

namespace Command

/-- The form of the statements that state the command. -/
def opening : Command → Opening
  | .load _ => .load
  | .environment _ => .environment
  | .draw _ _ _ => .draw
  | .update _ _ => .update
  | .exportAs _ => .exportAs

theorem opening_of_readAfter {source : String} {c : Cursor} {opening : Opening} {command : Command}
    (h : (readAfter source c opening).2 = .ok command) : command.opening = opening := by
  cases opening with
  | load =>
    obtain ⟨_, -, rfl⟩ := map_eq_ok.mp h
    rfl
  | environment =>
    obtain ⟨_, -, rfl⟩ := map_eq_ok.mp h
    rfl
  | draw =>
    obtain ⟨_, _, _, rfl⟩ := readDraw_eq_ok h
    rfl
  | update =>
    obtain ⟨_, _, rfl⟩ := readUpdate_eq_ok h
    rfl
  | exportAs =>
    obtain ⟨_, rfl⟩ := Export.read_eq_ok h
    rfl

end Command

namespace Statement

variable {s : Statement}

/-- The statement is a `DRAW` that is not refused. -/
def draws (s : Statement) : Bool := s.read.opening == some .draw && s.refusal?.isNone

/-- The position that a drawing states. -/
def placement? (s : Statement) : Option Position :=
  match s.read.outcome with
  | .ok (.draw _ _ placed) => some placed.position
  | _ => none

theorem opening_of_read {command : Command} (h : s.read.outcome = .ok command) :
    s.read.opening = some command.opening := by
  unfold read at h ⊢
  split at h
  · cases h
  · simp only at h ⊢
    split at h
    · cases h
    · rw [Command.opening_of_readAfter (mapError_eq_ok.mp h)]

theorem opening_of_fault {f : Fault} (h : s.read.outcome = .error (.fault f)) : s.read.opening = none := by
  unfold read at h ⊢
  split at h
  · rfl
  · simp only at h
    split at h
    · cases h
    · obtain ⟨_, -, hr⟩ := mapError_eq_error.mp h
      cases hr

theorem isSome_placement? (s : Statement) : s.placement?.isSome = s.draws := by
  unfold placement? draws refusal?
  cases h : s.read.outcome with
  | ok command =>
    rw [opening_of_read h]
    cases command <;> rfl
  | error failure =>
    cases failure with
    | refused r => simp
    | fault f => simp [opening_of_fault h]

end Statement

/-! ### What a statement does to the books -/

/-- The entity without its attributes, the one part of it that later statements change. -/
def Entity.outline (e : Entity) : Entity := { e with attributes := [] }

theorem Scene.map_outline_updateFirst {p : Entity → Bool} {f : Entity → Attributes} (entities : List Entity) :
    (updateFirst p (fun e => { e with attributes := f e }) entities).map Entity.outline =
      entities.map Entity.outline := by
  induction entities with
  | nil => rfl
  | cons e rest ih =>
    unfold updateFirst
    split
    · rfl
    · rw [List.map_cons, List.map_cons, ih]

namespace Context

variable {c c' d : Context} {s : Statement}

/-- The entities without their attributes. -/
def outlines (c : Context) : List Entity := c.scene.entities.map Entity.outline

/-- The statement adds one entity, with the next id and the position that it states. -/
structure Adds (c : Context) (s : Statement) (c' : Context) (e : Entity) : Prop where
  entities : c'.scene.entities = c.scene.entities ++ [e]
  id : e.id = c.nextId
  category : ∃ keyword, e.category = (c.typeOf keyword).category
  placement : s.placement? = some e.position
  sources : c'.sources = Assoc.set c.sources e.id s
  drawn : c'.drawn = c.drawn + 1

/-- At most the attributes of entities differ. -/
structure Keeps (c c' : Context) : Prop where
  outlines : c'.outlines = c.outlines
  sources : c'.sources = c.sources
  drawn : c'.drawn = c.drawn

theorem carryOut_books {command : Command} (h : c.carryOut s command = .ok c')
    (hs : s.read.outcome = .ok command) : (∃ e, c.Adds s c' e) ∨ (s.placement? = none ∧ c.Keeps c') := by
  cases command with
  | load name =>
    cases h
    obtain ⟨_, _, heq, -⟩ := load_eq (c := c) s.text name
    rw [heq]
    exact Or.inr ⟨by simp [Statement.placement?, hs], rfl, rfl, rfl⟩
  | environment name =>
    cases h
    exact Or.inr ⟨by simp [Statement.placement?, hs], rfl, rfl, rfl⟩
  | draw keyword clauses placed =>
    obtain ⟨_, _, -, -, -, rfl⟩ := draw_eq_ok h
    exact Or.inl ⟨_, rfl, rfl, ⟨keyword, rfl⟩, by simp [Statement.placement?, hs], rfl, rfl⟩
  | update reference clauses =>
    refine Or.inr ⟨by simp [Statement.placement?, hs], ?_⟩
    rcases update_eq_ok h with ⟨-, rfl⟩ | ⟨_, _, -, -, rfl⟩
    · exact ⟨rfl, rfl, rfl⟩
    · exact ⟨Scene.map_outline_updateFirst _, rfl, rfl⟩
  | exportAs options =>
    cases h
    exact Or.inr ⟨by simp [Statement.placement?, hs], rfl, rfl, rfl⟩

/-- A statement adds an entity if it is a drawing, and else keeps all. -/
theorem step_books (h : c.step s = .ok c') : (∃ e, c.Adds s c' e) ∨ (s.placement? = none ∧ c.Keeps c') := by
  obtain ⟨⟨d, o⟩, hd, rfl⟩ := step_eq_ok.mp h
  rcases attempt_cases hd with ⟨command, hcommand, hcarried, rfl⟩ | ⟨r, hr, rfl, rfl⟩
  · rcases carryOut_books hcarried hcommand with ⟨e, hadds⟩ | ⟨hnone, hkeeps⟩
    · exact Or.inl ⟨e, hadds.entities, hadds.id, hadds.category, hadds.placement, hadds.sources, hadds.drawn⟩
    · exact Or.inr ⟨hnone, hkeeps.outlines, hkeeps.sources, hkeeps.drawn⟩
  · exact Or.inr ⟨by simp [Statement.placement?, hr], rfl, rfl, rfl⟩

/-! ### Extensions -/

/-- The loaded extensions are distinct and listed alike in the metadata. -/
structure Listed (c : Context) : Prop where
  nodup : c.extensions.Nodup
  metadata : c.scene.metadata.extensions = c.extensions

namespace Listed

theorem of_eq (h : c.Listed) (hextensions : c'.extensions = c.extensions)
    (hmetadata : c'.scene.metadata.extensions = c.scene.metadata.extensions) : c'.Listed :=
  ⟨by rw [hextensions]; exact h.nodup, by rw [hmetadata, h.metadata, hextensions]⟩

theorem loadExtension (h : c.Listed) (name : String) : (c.loadExtension name).Listed := by
  unfold Context.loadExtension
  split
  · exact h
  · rename_i hnew
    refine ⟨?_, congrArg (· ++ [name]) h.metadata⟩
    rw [List.nodup_append]
    refine ⟨h.nodup, by simp, fun extension hextension new hmem => ?_⟩
    rw [List.mem_singleton.mp hmem]
    rintro rfl
    exact hnew (List.contains_iff_mem.mpr hextension)

theorem carryOut {command : Command} (h : c.Listed) (hcarried : c.carryOut s command = .ok c') : c'.Listed := by
  cases command with
  | load name =>
    cases hcarried
    have hloaded := h.loadExtension (Text.lower name.lexeme)
    simp only [load]
    split
    · exact hloaded
    · exact hloaded.of_eq rfl rfl
  | environment name =>
    cases hcarried
    exact h.of_eq rfl rfl
  | draw keyword clauses placed =>
    obtain ⟨_, _, -, -, -, rfl⟩ := draw_eq_ok hcarried
    exact h.of_eq rfl rfl
  | update reference clauses =>
    rcases update_eq_ok hcarried with ⟨-, rfl⟩ | ⟨_, _, -, -, rfl⟩ <;> exact h.of_eq rfl rfl
  | exportAs options =>
    cases hcarried
    exact h.of_eq rfl rfl

theorem step (h : c.Listed) (hstep : c.step s = .ok c') : c'.Listed := by
  refine step_invariant (fun hagree hc => ?_) (fun _ hcarried hc => hc.carryOut hcarried) h hstep
  exact hc.of_eq hagree.extensions.symm (congrArg (·.metadata.extensions) hagree.scene.symm)

end Listed

/-! ### Ids -/

/-- The id of the entity at place `i`, of which the first is `entity_1`. -/
def entityId (i : Nat) : String := "entity_" ++ toString (i + 1)

theorem entityId_inj {i j : Nat} (h : entityId i = entityId j) : i = j := by
  have hnumber : toString (i + 1) = toString (j + 1) := (String.append_right_inj _).mp h
  have hdigits : Nat.toDigits 10 (i + 1) = Nat.toDigits 10 (j + 1) := String.ofList_injective hnumber
  have hvalue := congrArg (Nat.ofDigitChars 10 · 0) hdigits
  simpa [Nat.ofDigitChars_toDigits] using hvalue

theorem nextId_eq (c : Context) : c.nextId = entityId c.drawn := rfl

/-! ### The books after statements -/

/-- The books of a context that the statements have led to. -/
structure Booked (statements : List Statement) (c : Context) : Prop where
  ids : c.scene.entities.map (·.id) = (List.range (statements.countP Statement.draws)).map entityId
  nextId : c.nextId = entityId (statements.countP Statement.draws)
  sources : c.sources = (c.scene.entities.map (·.id)).zip (statements.filter Statement.draws)
  listed : c.Listed

/-- Nothing that is drawn or entered is taken back. -/
structure Extends (c c' : Context) : Prop where
  outlines : c.outlines <+: c'.outlines
  sources : c.sources <+: c'.sources

theorem Extends.refl (c : Context) : c.Extends c := ⟨List.prefix_rfl, List.prefix_rfl⟩

theorem Extends.trans (h₁ : c.Extends d) (h₂ : d.Extends c') : c.Extends c' :=
  ⟨h₁.outlines.trans h₂.outlines, h₁.sources.trans h₂.sources⟩

theorem Keeps.map_eq {α : Type} {f : Entity → α} (h : c.Keeps c') (hf : ∀ e, f e = f e.outline) :
    c'.scene.entities.map f = c.scene.entities.map f := by
  have hmap : ∀ entities : List Entity, entities.map f = (entities.map Entity.outline).map f := fun entities => by
    rw [List.map_map]
    exact List.map_congr_left fun e _ => hf e
  rw [hmap c'.scene.entities, hmap c.scene.entities]
  exact congrArg (List.map f) h.outlines

namespace Booked

variable {statements : List Statement}

theorem length_ids (h : c.Booked statements) :
    (c.scene.entities.map (·.id)).length = (statements.filter Statement.draws).length := by
  rw [h.ids, List.length_map, List.length_range, List.countP_eq_length_filter]

theorem keys_sources (h : c.Booked statements) : Assoc.keys c.sources = c.scene.entities.map (·.id) := by
  unfold Assoc.keys
  rw [h.sources, List.map_fst_zip (Nat.le_of_eq h.length_ids)]

/-- Every entity is entered under one of the statements. -/
theorem exists_source (h : c.Booked statements) {e : Entity} (he : e ∈ c.scene.entities) :
    ∃ s ∈ statements, Assoc.get? c.sources e.id = some s := by
  have hkey : e.id ∈ Assoc.keys c.sources := by
    rw [h.keys_sources]
    exact List.mem_map_of_mem he
  obtain ⟨s, hs⟩ := Assoc.exists_get?_of_mem_keys hkey
  obtain ⟨id, hmem⟩ := Assoc.mem_of_get? hs
  rw [h.sources] at hmem
  exact ⟨s, (List.mem_filter.mp (List.of_mem_zip hmem).2).1, hs⟩

theorem nextId_notMem (h : c.Booked statements) : c.nextId ∉ Assoc.keys c.sources := by
  rw [h.keys_sources, h.ids, h.nextId]
  intro hmem
  obtain ⟨i, hi, heq⟩ := List.mem_map.mp hmem
  rw [List.mem_range, entityId_inj heq] at hi
  exact Nat.lt_irrefl _ hi

theorem start (v : Vocabulary) (strict : Bool) : Booked [] { vocabulary := v, strict } where
  ids := rfl
  nextId := rfl
  sources := rfl
  listed := ⟨List.nodup_nil, rfl⟩

theorem adds {e : Entity} (h : c.Booked statements) (hadds : c.Adds s c' e) (hlisted : c'.Listed) :
    c'.Booked (statements ++ [s]) ∧ c.Extends c' := by
  have hdraws : s.draws = true := by
    rw [← s.isSome_placement?, hadds.placement]
    rfl
  have hdrawn : c.drawn = statements.countP Statement.draws := entityId_inj (c.nextId_eq.symm.trans h.nextId)
  have hcount : (statements ++ [s]).countP Statement.draws = statements.countP Statement.draws + 1 := by
    simp [hdraws]
  -- The next id is not entered yet, so the entry goes last and takes no other one's place.
  have hsources : c'.sources = c.sources ++ [(e.id, s)] := by
    rw [hadds.sources, Assoc.set_of_notMem s (hadds.id ▸ h.nextId_notMem)]
  refine ⟨⟨?_, ?_, ?_, hlisted⟩, ?_, ?_⟩
  · rw [hadds.entities, List.map_append, h.ids, hcount, List.range_succ, List.map_append, List.map_singleton,
      List.map_singleton, hadds.id, h.nextId]
  · rw [nextId_eq, hadds.drawn, hdrawn, hcount]
  · rw [hsources, hadds.entities, List.map_append, List.filter_append, List.zip_append h.length_ids, h.sources]
    simp [hdraws]
  · unfold outlines
    rw [hadds.entities, List.map_append]
    exact List.prefix_append _ _
  · rw [hsources]
    exact List.prefix_append _ _

theorem keeps (h : c.Booked statements) (hnone : s.placement? = none) (hkeeps : c.Keeps c')
    (hlisted : c'.Listed) : c'.Booked (statements ++ [s]) ∧ c.Extends c' := by
  have hdraws : s.draws = false := by
    rw [← s.isSome_placement?, hnone]
    rfl
  have hids : c'.scene.entities.map (·.id) = c.scene.entities.map (·.id) := hkeeps.map_eq fun _ => rfl
  have hcount : (statements ++ [s]).countP Statement.draws = statements.countP Statement.draws := by
    simp [hdraws]
  refine ⟨⟨?_, ?_, ?_, hlisted⟩, ?_, ?_⟩
  · rw [hids, hcount, h.ids]
  · rw [nextId_eq, hkeeps.drawn, ← nextId_eq, hcount, h.nextId]
  · rw [hkeeps.sources, hids, h.sources]
    simp [hdraws]
  · exact hkeeps.outlines ▸ List.prefix_rfl
  · exact hkeeps.sources ▸ List.prefix_rfl

theorem step (h : c.Booked statements) (hstep : c.step s = .ok c') :
    c'.Booked (statements ++ [s]) ∧ c.Extends c' := by
  have hlisted := h.listed.step hstep
  rcases step_books hstep with ⟨e, hadds⟩ | ⟨hnone, hkeeps⟩
  · exact h.adds hadds hlisted
  · exact h.keeps hnone hkeeps hlisted

theorem run {more : List Statement} (h : c.Booked statements) (hrun : c.run more = .ok c') :
    c'.Booked (statements ++ more) ∧ c.Extends c' := by
  induction more generalizing c statements with
  | nil =>
    cases hrun
    exact ⟨by rwa [List.append_nil], Extends.refl _⟩
  | cons s more ih =>
    obtain ⟨d, hd, hrun⟩ := bind_eq_ok.mp hrun
    obtain ⟨hbooked, hextends⟩ := h.step hd
    obtain ⟨hbooked', hextends'⟩ := ih hbooked hrun
    exact ⟨by rwa [List.append_assoc] at hbooked', hextends.trans hextends'⟩

end Booked

/-! ### Categories -/

/-- Every entity is of a known category, and so is whatever the vocabulary defines. -/
structure Categorized (c : Context) : Prop where
  vocabulary : c.vocabulary.Categorized
  category : ∀ e ∈ c.scene.entities, e.category ∈ categories

theorem Categorized.step (h : c.Categorized) (hstep : c.step s = .ok c') : c'.Categorized := by
  refine ⟨by rw [step_vocabulary hstep]; exact h.vocabulary, fun e he => ?_⟩
  rcases step_books hstep with ⟨e', hadds⟩ | ⟨-, hkeeps⟩
  · rw [hadds.entities] at he
    rcases List.mem_append.mp he with he | he
    · exact h.category e he
    · obtain ⟨keyword, hkeyword⟩ := hadds.category
      rw [List.mem_singleton.mp he, hkeyword]
      exact h.vocabulary.typeOf keyword _ _
  · have hmem : e.category ∈ c'.scene.entities.map (·.category) := List.mem_map_of_mem he
    rw [hkeeps.map_eq fun _ => rfl] at hmem
    obtain ⟨e₀, he₀, heq⟩ := List.mem_map.mp hmem
    rw [← heq]
    exact h.category e₀ he₀

/-- With a vocabulary built from catalogs, any statements in a row lead to the books that they call for: the
    ids count the drawings, the sources hold the statement of each, no extension is listed twice, and every
    entity is of a known category. Every statement draws one entity or none, the entity is entered under the
    statement that drew it, and from then on at most its attributes change. -/
theorem books_of_run {catalogs : List Data} {v : Vocabulary} {strict : Bool} {statements : List Statement}
    (hv : Vocabulary.ofData catalogs = .ok v)
    (h : Context.run { vocabulary := v, strict } statements = .ok c) :
    c.Booked statements ∧ (∀ e ∈ c.scene.entities, e.category ∈ ["human", "object", "prop"]) ∧
      ∀ before s after, statements = before ++ s :: after →
        ∃ d d', Context.run { vocabulary := v, strict } before = .ok d ∧ d.step s = .ok d' ∧
          (s.draws = true → ∃ e, d'.scene.entities = d.scene.entities ++ [e] ∧ e.id = d.nextId ∧
            Assoc.get? c.sources e.id = some s) ∧
          (s.draws = false → d'.outlines = d.outlines) ∧ d'.outlines <+: c.outlines := by
  obtain ⟨hbooked, -⟩ := (Booked.start v strict).run h
  have hstart : Categorized { vocabulary := v, strict } := ⟨Vocabulary.categorized_ofData hv, by simp⟩
  have hcategorized : c.Categorized := foldlM_invariant Categorized (fun _ _ _ => Categorized.step) hstart h
  refine ⟨hbooked, hcategorized.category, ?_⟩
  rintro before s after rfl
  rw [run_append] at h
  obtain ⟨d, hd, h⟩ := bind_eq_ok.mp h
  obtain ⟨d', hd', h⟩ := bind_eq_ok.mp h
  obtain ⟨hbefore, -⟩ := (Booked.start v strict).run hd
  obtain ⟨hstep, -⟩ := hbefore.step hd'
  obtain ⟨-, hafter⟩ := hstep.run h
  refine ⟨d, d', hd, hd', ?_, ?_, hafter.outlines⟩
  · intro hdraws
    rcases step_books hd' with ⟨e, hadds⟩ | ⟨hnone, -⟩
    · refine ⟨e, hadds.entities, hadds.id, Assoc.get?_of_prefix hafter.sources ?_⟩
      rw [hadds.sources, Assoc.get?_set_self]
    · rw [← s.isSome_placement?, hnone] at hdraws
      cases hdraws
  · intro hdraws
    rcases step_books hd' with ⟨e, hadds⟩ | ⟨-, hkeeps⟩
    · rw [← s.isSome_placement?, hadds.placement] at hdraws
      cases hdraws
    · exact hkeeps.outlines

/-- Two entities are drawn between a refused drawing and an extension that is loaded twice. -/
theorem books_of_run_bundled :
    let statements := Statement.ofSource
      "LOAD EXTENSION Hospital\nDRAW MAN\nDRAW\nDRAW TREE NEAR MAN\nLOAD EXTENSION hospital" none
    Vocabulary.ofData (Catalog.Bundled.all.map Prod.snd) = .ok .bundled ∧
      ∃ c, Context.run { vocabulary := .bundled } statements = .ok c ∧ c.Booked statements ∧
        c.scene.entities.map (·.id) = ["entity_1", "entity_2"] ∧
        ∀ e ∈ c.scene.entities, e.category ∈ ["human", "object", "prop"] := by
  intro statements
  have hrun : (Context.run { vocabulary := .bundled } statements).toOption.isSome = true := by decide +kernel
  have hids : (List.range (statements.countP Statement.draws)).map entityId = ["entity_1", "entity_2"] := by
    decide +kernel
  obtain ⟨c, hc⟩ := toOption_isSome.mp hrun
  obtain ⟨hbooked, hcategory, -⟩ := books_of_run Vocabulary.ofData_bundled hc
  exact ⟨Vocabulary.ofData_bundled, c, hc, hbooked, by rw [hbooked.ids, hids], hcategory⟩

end Context
end SceneScript
