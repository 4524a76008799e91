import SceneScript.Proofs.Readings
import SceneScript.Resolution

/-!
The recurrence behind settled positions. Entities are settled in one pass in place: an entity reads its
target at the final position if the target comes before it, and at the initial one if the target is the
entity itself or comes later. The boundary between settled and unsettled entities carries the induction.
-/

namespace SceneScript

/-! ### Names -/

namespace NameTable

theorem lt_of_mem {entities : List Entity} {p : String × Nat}
    (h : p ∈ idNames entities ++ aliasNames entities ++ kindNames entities) : p.2 < entities.length := by
  rcases List.mem_append.mp h with h | h
  · rcases List.mem_append.mp h with h | h
    · obtain ⟨⟨e, i⟩, hi, rfl⟩ := List.mem_map.mp h
      exact (List.mem_zipIdx' hi).1
    · obtain ⟨⟨word, subtype⟩, -, hfound⟩ := List.mem_filterMap.mp h
      obtain ⟨i, hi, rfl⟩ := Option.map_eq_some_iff.mp hfound
      obtain ⟨hlt, -⟩ := List.findIdx?_eq_some_iff_getElem.mp hi
      exact hlt
  · obtain ⟨⟨e, i⟩, hi, hp⟩ := List.mem_flatMap.mp h
    have hlt := (List.mem_zipIdx' hi).1
    rcases List.mem_append.mp hp with hp | hp
    · split at hp
      · cases hp
      · rw [List.mem_singleton.mp hp]
        exact hlt
    · rw [List.mem_singleton.mp hp]
      exact hlt

theorem find?_lt {entities : List Entity} {target : String} {j : Nat}
    (h : (ofEntities entities).find? target = some j) : j < entities.length := by
  obtain ⟨name, -, hname⟩ := List.exists_of_findSome?_eq_some h
  obtain ⟨name', hmem⟩ := Assoc.mem_of_get? hname
  rcases Assoc.mem_foldl_add hmem with hmem | hmem
  · cases hmem
  · exact lt_of_mem hmem

end NameTable

namespace Resolution

/-! ### The recurrence -/

/-- The place of the target that a pending entity names. -/
def targetOf? (table : NameTable) (e : Entity) : Option Nat := table.find? (e.position.relativeTo.getD "")

/-- The entity waits for a target that is not found. -/
def isLost (table : NameTable) (e : Entity) : Bool := !e.position.isResolved && (targetOf? table e).isNone

/-- The entity waits for a target that is found. -/
def isFound (table : NameTable) (e : Entity) : Bool := !e.position.isResolved && (targetOf? table e).isSome

/-- The entity at the coordinate of a target plus the offset of a relation, with nothing pending. -/
def offsetFrom (target : Position) (r : Relation) (e : Entity) : Entity :=
  { e with
    position := e.position.settleAt (target.x.shift r.offset.1) (target.y.shift r.offset.2.1)
      (target.z.shift r.offset.2.2) }

/-- What becomes of the entity `e` at place `i` of `before`. A target before `i` is read in `after`, and
    any other in `before`; only the coordinate and what was pending change. -/
structure Settles (table : NameTable) (before after : List Entity) (i : Nat) (e : Entity) : Prop where
  resolved : e.position.isResolved = true → after[i]? = some e
  lost : e.position.isResolved = false → targetOf? table e = none →
    after[i]? = some { e with position := e.position.settleAt 400 300 0 }
  found : e.position.isResolved = false → ∀ j, targetOf? table e = some j →
    ∃ r target, e.position.relative = some r ∧ (if j < i then after else before)[j]? = some target ∧
      after[i]? = some (offsetFrom target.position r e)

/-- Every entity that names a target names a relation to it. -/
def Related (entities : List Entity) : Prop :=
  ∀ e ∈ entities, e.position.relativeTo.isSome = true → e.position.relative.isSome = true

instance (entities : List Entity) : Decidable (Related entities) :=
  inferInstanceAs (Decidable (∀ e ∈ entities, _))

/-- Every pending entity has a target, which comes before it or is resolved from the start. -/
def Ordered (table : NameTable) (entities : List Entity) : Prop :=
  ∀ i e, entities[i]? = some e → e.position.isResolved = false →
    ∃ j target, targetOf? table e = some j ∧ entities[j]? = some target ∧
      (j < i ∨ target.position.isResolved = true)

/-- The entities before place `i` are settled and reported on, those from `i` on are as in `before`. -/
structure SettledTo (table : NameTable) (sources : List (String × Statement)) (before : List Entity)
    (i : Nat) (state : Resolution) : Prop where
  length_eq : state.entities.length = before.length
  rest : ∀ k, i ≤ k → state.entities[k]? = before[k]?
  settles : ∀ k e, k < i → before[k]? = some e → Settles table before state.entities k e
  warnings : state.warnings = ((before.take i).filter (isLost table)).map (unresolved sources)
  found : state.found = (before.take i).countP (isFound table)

variable {table : NameTable} {sources : List (String × Statement)} {before : List Entity}

theorem settledTo_zero : SettledTo table sources before 0 { entities := before } where
  length_eq := rfl
  rest := fun _ _ => rfl
  settles := fun _ _ hk => absurd hk (Nat.not_lt_zero _)
  warnings := by simp
  found := by simp

/-- What is settled stays settled when an entity further on is changed. -/
theorem Settles.set {after : List Entity} {k i : Nat} {e e' : Entity} (h : Settles table before after k e)
    (hk : k < i) : Settles table before (after.set i e') k e where
  resolved := fun hr => by
    rw [List.getElem?_set_ne (by omega)]
    exact h.resolved hr
  lost := fun hr hn => by
    rw [List.getElem?_set_ne (by omega)]
    exact h.lost hr hn
  found := fun hr j hj => by
    obtain ⟨r, target, hrel, htarget, hafter⟩ := h.found hr j hj
    refine ⟨r, target, hrel, ?_, ?_⟩
    · by_cases hjk : j < k
      · rw [if_pos hjk, List.getElem?_set_ne (by omega)]
        rwa [if_pos hjk] at htarget
      · rw [if_neg hjk]
        rwa [if_neg hjk] at htarget
    · rw [List.getElem?_set_ne (by omega)]
      exact hafter

theorem take_succ_of_getElem? {i : Nat} {e : Entity} (he : before[i]? = some e) :
    before.take (i + 1) = before.take i ++ [e] := by
  rw [List.take_add_one, he]
  rfl

theorem filter_take_succ {i : Nat} {e : Entity} (he : before[i]? = some e) (p : Entity → Bool) :
    (before.take (i + 1)).filter p = (before.take i).filter p ++ if p e then [e] else [] := by
  rw [take_succ_of_getElem? he, List.filter_append]
  cases h : p e <;> simp [h]

theorem countP_take_succ {i : Nat} {e : Entity} (he : before[i]? = some e) (p : Entity → Bool) :
    (before.take (i + 1)).countP p = (before.take i).countP p + if p e then 1 else 0 := by
  rw [take_succ_of_getElem? he, List.countP_append]
  cases h : p e <;> simp [h]

theorem Related.relative (h : Related before) {e : Entity} (he : e ∈ before) (hp : e.position.isResolved = false) :
    ∃ r, e.position.relative = some r := by
  cases hr : e.position.relative with
  | some r => exact ⟨r, rfl⟩
  | none =>
    cases hto : e.position.relativeTo with
    | none => simp [Position.isResolved, hr, hto] at hp
    | some target =>
      have hrel := h e he (by rw [hto]; rfl)
      rw [hr] at hrel
      cases hrel

/-- The boundary moves past place `i` once the entity there is right and reported on. -/
theorem SettledTo.advance {state state' : Resolution} {i : Nat} {e e' : Entity}
    (h : SettledTo table sources before i state) (he : before[i]? = some e)
    (hentities : state'.entities = state.entities.set i e')
    (hnew : Settles table before state'.entities i e)
    (hwarnings : state'.warnings = state.warnings ++ if isLost table e then [unresolved sources e] else [])
    (hfound : state'.found = state.found + if isFound table e then 1 else 0) :
    SettledTo table sources before (i + 1) state' where
  length_eq := by rw [hentities, List.length_set, h.length_eq]
  rest := fun k hk => by
    rw [hentities, List.getElem?_set_ne (by omega)]
    exact h.rest k (by omega)
  settles := fun k e₀ hk he₀ => by
    by_cases hki : k = i
    · subst hki
      rw [he] at he₀
      cases he₀
      exact hnew
    · rw [hentities]
      exact (h.settles k e₀ (by omega) he₀).set (by omega)
  warnings := by
    rw [hwarnings, h.warnings, filter_take_succ he, List.map_append]
    split <;> rfl
  found := by rw [hfound, h.found, countP_take_succ he]

/-- Settling the entity at place `i` moves the boundary past it. -/
theorem SettledTo.settle {state : Resolution} {i : Nat} {e : Entity} (h : SettledTo table sources before i state)
    (hrelated : Related before) (htable : ∀ {target j}, table.find? target = some j → j < before.length)
    (he : before[i]? = some e) :
    ∃ state', Resolution.settle table sources state i = .ok state' ∧
      SettledTo table sources before (i + 1) state' := by
  have hse : state.entities[i]? = some e := by rw [h.rest i (Nat.le_refl i), he]
  have hi : i < state.entities.length := (List.getElem?_eq_some_iff.mp hse).1
  unfold Resolution.settle
  rw [hse]
  simp only
  by_cases hres : e.position.isResolved = true
  · rw [if_pos hres]
    have hset : state.entities.set i e = state.entities := by
      rw [← (List.getElem?_eq_some_iff.mp hse).2, List.set_getElem_self]
    refine ⟨state, rfl, h.advance he hset.symm ⟨fun _ => hse, fun hp => ?_, fun hp => ?_⟩ ?_ ?_⟩
    · simp [hres] at hp
    · simp [hres] at hp
    · simp [isLost, hres]
    · simp [isFound, hres]
  · have hpending : e.position.isResolved = false := by simpa using hres
    rw [if_neg hres]
    cases htarget : table.find? (e.position.relativeTo.getD "") with
    | none =>
      refine ⟨_, rfl, h.advance he rfl ⟨fun hr => absurd hr hres, fun _ _ => ?_, fun _ j hj => ?_⟩ ?_ ?_⟩
      · exact List.getElem?_set_self hi
      · simp [targetOf?, htarget] at hj
      · simp [isLost, hpending, targetOf?, htarget]
      · simp [isFound, targetOf?, htarget]
    | some j =>
      obtain ⟨r, hr⟩ := hrelated.relative (List.mem_of_getElem? he) hpending
      obtain ⟨target, ht⟩ : ∃ target, state.entities[j]? = some target :=
        ⟨_, List.getElem?_eq_getElem (by rw [h.length_eq]; exact htable htarget)⟩
      simp only [Option.bind_some, ht, hr]
      refine ⟨_, rfl, h.advance he rfl ⟨fun hr => absurd hr hres, fun _ hn => ?_, fun _ j' hj' => ?_⟩ ?_ ?_⟩
      · simp [targetOf?, htarget] at hn
      · rw [targetOf?, htarget] at hj'
        cases hj'
        refine ⟨r, target, hr, ?_, List.getElem?_set_self hi⟩
        -- A target before `i` is settled and not touched again; any other still stands as at the start.
        by_cases hji : j < i
        · rw [if_pos hji, List.getElem?_set_ne (by omega), ht]
        · rw [if_neg hji, ← h.rest j (by omega), ht]
      · simp [isLost, targetOf?, htarget]
      · simp [isFound, hpending, targetOf?, htarget]

theorem SettledTo.settleAll {n i : Nat} {state : Resolution} (h : SettledTo table sources before i state)
    (hrelated : Related before) (htable : ∀ {target j}, table.find? target = some j → j < before.length)
    (hn : i + n = before.length) :
    ∃ r, Resolution.settleAll table sources (List.range' i n) state = (r, none) ∧
      SettledTo table sources before before.length r := by
  induction n generalizing i state with
  | zero =>
    have hi : i = before.length := hn
    subst hi
    exact ⟨state, rfl, h⟩
  | succ n ih =>
    obtain ⟨state', hstate', h'⟩ := h.settle hrelated htable (List.getElem?_eq_getElem (by omega))
    rw [List.range'_succ, Resolution.settleAll, hstate']
    exact ih h' (by omega)

/-- The pass over all entities ends without a fault, with every entity settled. -/
theorem ofEntities_eq {entities : List Entity} (sources : List (String × Statement)) (hrelated : Related entities) :
    ∃ r, ofEntities entities sources = (r, none) ∧
      SettledTo (NameTable.ofEntities entities) sources entities entities.length r := by
  unfold ofEntities
  rw [List.range_eq_range']
  exact settledTo_zero.settleAll hrelated NameTable.find?_lt (Nat.zero_add _)

theorem unresolved_isWarning (e : Entity) : (unresolved sources e).IsWarning "W101" := by
  simp only [unresolved]
  split <;> exact Warning.isWarning (.unresolvedTarget _ _) _ _

theorem SettledTo.isWarning {i : Nat} {state : Resolution} (h : SettledTo table sources before i state) :
    ∀ w ∈ state.warnings, w.IsWarning "W101" := by
  intro w hw
  rw [h.warnings] at hw
  obtain ⟨e, -, rfl⟩ := List.mem_map.mp hw
  exact unresolved_isWarning e

/-- At most the position of an entity changes, and then nothing is pending in the new one. -/
theorem Settles.exists_position {after : List Entity} {i : Nat} {e : Entity} (h : Settles table before after i e) :
    ∃ p, after[i]? = some { e with position := p } ∧
      ((e.position.isResolved = true ∧ p = e.position) ∨ p.IsAbsolute) := by
  cases hresolved : e.position.isResolved with
  | true => exact ⟨e.position, h.resolved hresolved, Or.inl ⟨rfl, rfl⟩⟩
  | false =>
    cases htarget : targetOf? table e with
    | none => exact ⟨_, h.lost hresolved htarget, Or.inr ⟨rfl, rfl, rfl⟩⟩
    | some j =>
      obtain ⟨_, _, -, -, hafter⟩ := h.found hresolved j htarget
      exact ⟨_, hafter, Or.inr ⟨rfl, rfl, rfl⟩⟩

/-- What does not depend on positions is as before, in the same order. -/
theorem SettledTo.map_eq {α : Type} {f : Entity → α} {state : Resolution}
    (h : SettledTo table sources before before.length state) (hf : ∀ e p, f { e with position := p } = f e) :
    state.entities.map f = before.map f := by
  refine List.ext_getElem? fun i => ?_
  rw [List.getElem?_map, List.getElem?_map]
  cases he : before[i]? with
  | none => rw [h.rest i (List.getElem?_eq_none_iff.mp he), he]
  | some e =>
    obtain ⟨p, hp, -⟩ := (h.settles i e (List.getElem?_eq_some_iff.mp he).1 he).exists_position
    rw [hp, Option.map_some, Option.map_some, hf]

/-- In an ordered scene every target is read where it ends up. -/
theorem Settles.final {after : List Entity} {i : Nat} {e : Entity} (hordered : Ordered table before)
    (hsettles : ∀ k e, before[k]? = some e → Settles table before after k e)
    (he : before[i]? = some e) (hpending : e.position.isResolved = false) :
    ∃ j r target, targetOf? table e = some j ∧ e.position.relative = some r ∧ after[j]? = some target ∧
      after[i]? = some (offsetFrom target.position r e) := by
  obtain ⟨j, start, hj, hstart, hcase⟩ := hordered i e he hpending
  obtain ⟨r, target, hr, htarget, hafter⟩ := (hsettles i e he).found hpending j hj
  refine ⟨j, r, target, hj, hr, ?_, hafter⟩
  by_cases hji : j < i
  · rwa [if_pos hji] at htarget
  · -- A target that does not come before its entity was resolved from the start and has not moved.
    rw [if_neg hji, hstart] at htarget
    cases htarget
    exact (hsettles j start hstart).resolved (hcase.resolve_left hji)

/-- Settling ends without a fault. Every entity is settled by the recurrence; the warnings are one for
    each target that is not found, in order, and the count is that of the targets found. In an ordered
    scene all entities end up at their offset from their targets at once. -/
theorem ofEntities_settles {entities : List Entity} (sources : List (String × Statement))
    (hrelated : Related entities) :
    ∃ r : Resolution, ofEntities entities sources = (r, none) ∧ r.entities.length = entities.length ∧
      (∀ i e, entities[i]? = some e → Settles (.ofEntities entities) entities r.entities i e) ∧
      (Ordered (.ofEntities entities) entities →
        ∀ (i : Nat) (e : Entity), entities[i]? = some e → e.position.isResolved = false →
          ∃ j relation target, targetOf? (.ofEntities entities) e = some j ∧
            e.position.relative = some relation ∧ r.entities[j]? = some target ∧
            r.entities[i]? = some (offsetFrom target.position relation e)) ∧
      r.warnings = (entities.filter (isLost (.ofEntities entities))).map (unresolved sources) ∧
      (∀ w ∈ r.warnings, w.IsWarning "W101") ∧
      r.found = entities.countP (isFound (.ofEntities entities)) := by
  obtain ⟨r, hr, hsettled⟩ := ofEntities_eq sources hrelated
  have hsettles : ∀ i e, entities[i]? = some e → Settles (.ofEntities entities) entities r.entities i e :=
    fun i e he => hsettled.settles i e (List.getElem?_eq_some_iff.mp he).1 he
  have hwarnings := hsettled.warnings
  rw [List.take_length] at hwarnings
  refine ⟨r, hr, hsettled.length_eq, hsettles, ?_, hwarnings, hsettled.isWarning, ?_⟩
  · exact fun hordered i e he hpending => Settles.final hordered hsettles he hpending
  · rw [hsettled.found, List.take_length]

/-- Of two that name each other, the first reads the second where it starts, and the second reads the
    first where it ended up. -/
theorem ofEntities_settles_cycle :
    let man : Entity := { id := "entity_1", category := "person", subtype := "adult_male", keyword := "MAN",
                          position := .pending .leftOf "WOMAN" none }
    let woman : Entity := { id := "entity_2", category := "person", subtype := "adult_female",
                            keyword := "WOMAN", position := .pending .above "MAN" none }
    Related [man, woman] ∧ ∃ r : Resolution, ofEntities [man, woman] [] = (r, none) ∧ r.found = 2 ∧
      r.entities[0]? = some { man with position := .absolute (.int (-150)) (.int (-80)) 0 } ∧
      r.entities[1]? = some { woman with position := .absolute (.int (-150)) (.int (-230)) 0 } := by
  intro man woman
  have hrelated : Related [man, woman] := by decide
  obtain ⟨r, hr, -, hsettles, -, -, -, hfound⟩ := ofEntities_settles [] hrelated
  have hman : r.entities[0]? = some { man with position := .absolute (.int (-150)) (.int (-80)) 0 } := by
    obtain ⟨_, _, hrel, htarget, h⟩ := (hsettles 0 man rfl).found rfl 1 (by decide)
    cases hrel
    cases htarget
    exact h
  have hwoman : r.entities[1]? = some { woman with position := .absolute (.int (-150)) (.int (-230)) 0 } := by
    obtain ⟨_, _, hrel, htarget, h⟩ := (hsettles 1 woman rfl).found rfl 0 (by decide)
    cases hrel
    rw [if_pos Nat.zero_lt_one, hman] at htarget
    cases htarget
    exact h
  exact ⟨hrelated, r, hr, by rw [hfound]; decide, hman, hwoman⟩

end Resolution
end SceneScript
