import SceneScript.Proofs.Books

/-!
What a frozen scene lets happen. It refuses entities and attributes; the one write that it takes goes to a field
of a record that an entity has. So from the freezing on nothing changes but the fields of the records that were
there, and those hold what was last written to them.
-/

namespace SceneScript

/-- An attempt to change a scene; entities are told by their places. -/
inductive Attempt where
  | add (e : Entity)
  | setAttribute (i : Nat) (key : String) (v : Value)
  | setField (i : Nat) (name key : String) (v : Value)

namespace Attempt

/-- The scene that the attempt makes of one, or the fault that it fails with. -/
def on (s : Scene) : Attempt → Except Fault Scene
  | add e => s.add e
  | setAttribute i key v => s.setAttributeAt i key v
  | setField i name key v => s.setFieldAt i name key v

/-- The fault that a frozen scene answers the attempt with. -/
def refusal : Attempt → Fault
  | add _ => .sceneFrozen
  | setAttribute _ _ _ => .attributesFrozen
  | setField _ _ _ _ => .attributesFrozen

/-- The attempt writes a field of a record that the entity at the place has. -/
def Finds (s : Scene) (i : Nat) : Attempt → Prop
  | setField j name _ _ => j = i ∧ s.hasRecordAt i name = true
  | _ => False

/-- The field that the attempt writes in an attribute of the entity at a place. -/
def field? (i : Nat) (name : String) : Attempt → Option (String × Value)
  | setField j name' key v => if j = i ∧ name' = name then some (key, v) else none
  | _ => none

/-- The fields that the attempts write there in turn. -/
def writes (as : List Attempt) (i : Nat) (name : String) : List (String × Value) := as.filterMap (·.field? i name)

theorem writes_concat (as : List Attempt) (a : Attempt) (i : Nat) (name : String) :
    writes (as ++ [a]) i name = writes as i name ++ (a.field? i name).toList := by
  rw [writes, List.filterMap_append]
  cases h : a.field? i name <;> simp [writes, h]

end Attempt

/-- The value after fields are written, if it is a record. -/
def Value.written (writes : List (String × Value)) : Value → Value
  | .record fields => .record (Assoc.merge fields writes)
  | .scalar s => .scalar s

namespace Scene

/-- The scene after an attempt; one that fails leaves it as it is. -/
def attempt (s : Scene) (a : Attempt) : Scene :=
  match a.on s with
  | .ok s' => s'
  | .error _ => s

/-- The scene after attempts in turn. -/
def attempts (s : Scene) (as : List Attempt) : Scene := as.foldl attempt s

/-- The entity is `e` but for the fields written in its records. -/
structure Written (e : Entity) (writes : String → List (String × Value)) (e' : Entity) : Prop where
  outline : e'.outline = e.outline
  keys : Assoc.keys e'.attributes = Assoc.keys e.attributes
  get? : ∀ name, Assoc.get? e'.attributes name = (Assoc.get? e.attributes name).map (Value.written (writes name))

/-- The scene is `s` as it was frozen, but for the fields that the attempts wrote in records of `s`. -/
structure Sealed (s : Scene) (as : List Attempt) (t : Scene) : Prop where
  frame : t = { s.freeze with entities := t.entities }
  length : t.entities.length = s.entities.length
  written : ∀ i e, s.entities[i]? = some e →
    ∃ e', t.entities[i]? = some e' ∧ Written e (Attempt.writes as i) e'
  untouched : ∀ i, (∀ a ∈ as, ¬a.Finds s i) → t.entities[i]? = s.entities[i]?

variable {s t : Scene} {as : List Attempt} {a : Attempt}

theorem getElem?_updateAt_self (s : Scene) (i : Nat) (f : Entity → Entity) :
    (s.updateAt i f).entities[i]? = s.entities[i]?.map f := List.getElem?_modify_eq ..

theorem getElem?_updateAt_of_ne {i j : Nat} (f : Entity → Entity) (h : j ≠ i) :
    (s.updateAt j f).entities[i]? = s.entities[i]? := List.getElem?_modify_ne f s.entities h

/-! ### Records stay records -/

theorem hasRecordAt_eq_true {i : Nat} {name : String} :
    s.hasRecordAt i name = true ↔
      ∃ e fields, s.entities[i]? = some e ∧ Assoc.get? e.attributes name = some (.record fields) := by
  unfold hasRecordAt
  constructor
  · intro h
    split at h
    · rename_i fields hfields
      obtain ⟨e, he, hget⟩ := Option.bind_eq_some_iff.mp hfields
      exact ⟨e, fields, he, hget⟩
    · cases h
  · rintro ⟨e, fields, he, hget⟩
    rw [he, Option.bind_some, hget]

theorem Sealed.exists_entity (h : Sealed s as t) {i : Nat} {e' : Entity} (he' : t.entities[i]? = some e') :
    ∃ e, s.entities[i]? = some e ∧ Written e (Attempt.writes as i) e' := by
  have hlt := (List.getElem?_eq_some_iff.mp he').1
  rw [h.length] at hlt
  obtain ⟨e'', he'', hwritten⟩ := h.written i _ (List.getElem?_eq_getElem hlt)
  rw [he'] at he''
  cases he''
  exact ⟨_, List.getElem?_eq_getElem hlt, hwritten⟩

theorem Sealed.hasRecordAt_iff (h : Sealed s as t) (i : Nat) (name : String) :
    t.hasRecordAt i name = true ↔ s.hasRecordAt i name = true := by
  rw [hasRecordAt_eq_true, hasRecordAt_eq_true]
  constructor
  · rintro ⟨e', fields', he', hfields'⟩
    obtain ⟨e, he, hwritten⟩ := h.exists_entity he'
    rw [hwritten.get?] at hfields'
    obtain ⟨v, hv, hrecord⟩ := Option.map_eq_some_iff.mp hfields'
    cases v with
    | scalar _ => cases hrecord
    | record fields => exact ⟨e, fields, he, hv⟩
  · rintro ⟨e, fields, he, hfields⟩
    obtain ⟨e', he', hwritten⟩ := h.written i e he
    refine ⟨e', Assoc.merge fields (Attempt.writes as i name), he', ?_⟩
    rw [hwritten.get?, hfields]
    rfl

theorem Sealed.frozen (h : Sealed s as t) : t.frozen = true := by
  rw [h.frame]
  rfl

/-! ### What an attempt comes to -/

/-- A frozen scene refuses an attempt unless it finds the record that it writes to. -/
theorem Sealed.on_eq (h : Sealed s as t) (a : Attempt) :
    (∃ i, a.Finds s i ∧ ∃ t', a.on t = .ok t') ∨ ((∀ i, ¬a.Finds s i) ∧ a.on t = .error a.refusal) := by
  have hfrozen := h.frozen
  cases a with
  | add e => exact Or.inr ⟨fun _ => id, if_pos hfrozen⟩
  | setAttribute i key v => exact Or.inr ⟨fun _ => id, if_pos hfrozen⟩
  | setField i name key v =>
    cases hrecord : s.hasRecordAt i name with
    | true =>
      have ht := (h.hasRecordAt_iff i name).mpr hrecord
      exact Or.inl ⟨i, ⟨rfl, hrecord⟩, _, if_neg (by simp [ht])⟩
    | false =>
      have ht : t.hasRecordAt i name = false := by
        rw [Bool.eq_false_iff, ne_eq, h.hasRecordAt_iff, hrecord]
        exact Bool.false_ne_true
      refine Or.inr ⟨?_, if_pos (by simp [hfrozen, ht])⟩
      rintro j ⟨rfl, hfound⟩
      rw [hrecord] at hfound
      cases hfound

theorem Written.append_of_none {e e' : Entity} {i : Nat} (h : Written e (Attempt.writes as i) e')
    (hnone : ∀ name fields, Assoc.get? e.attributes name = some (.record fields) → a.field? i name = none) :
    Written e (Attempt.writes (as ++ [a]) i) e' := by
  refine ⟨h.outline, h.keys, fun name => ?_⟩
  rw [h.get? name]
  cases hget : Assoc.get? e.attributes name with
  | none => rfl
  | some v =>
    cases v with
    | scalar _ => rfl
    | record fields =>
      rw [Attempt.writes_concat, hnone name fields hget, Option.toList_none, List.append_nil]

/-- Writing a field of a record adds it to those written in it. -/
theorem Written.setField {e e' : Entity} {i : Nat} {name key : String} {v : Value} {fields : List (String × Value)}
    (h : Written e (Attempt.writes as i) e') (hfields : Assoc.get? e.attributes name = some (.record fields)) :
    Written e (Attempt.writes (as ++ [.setField i name key v]) i)
      { e' with attributes := e'.attributes.setField name key v } := by
  have hrecord : Assoc.get? e'.attributes name = some (.record (Assoc.merge fields (Attempt.writes as i name))) := by
    rw [h.get? name, hfields]
    rfl
  refine ⟨h.outline, ?_, fun name' => ?_⟩
  · show Assoc.keys (Assoc.set e'.attributes name _) = _
    rw [Assoc.keys_set, if_pos (by rw [Assoc.contains, hrecord]; rfl), h.keys]
  · show Assoc.get? (Assoc.set e'.attributes name _) name' = _
    rw [Attempt.writes_concat]
    by_cases hname : name = name'
    · subst hname
      rw [Assoc.get?_set_self, hrecord, hfields, Attempt.field?, if_pos ⟨rfl, rfl⟩]
      simp only [Option.map_some, Option.getD_some, Option.toList_some, Value.written, Value.fields, Assoc.merge,
        List.foldl_append, List.foldl_cons, List.foldl_nil]
    · rw [Assoc.get?_set_of_ne hname, h.get? name', Attempt.field?, if_neg fun hplace => hname hplace.2,
        Option.toList_none, List.append_nil]

theorem Sealed.start (s : Scene) : Sealed s [] s.freeze where
  frame := rfl
  length := rfl
  written i e he := by
    refine ⟨e, he, rfl, rfl, fun name => ?_⟩
    cases Assoc.get? e.attributes name with
    | none => rfl
    | some v => cases v <;> rfl
  untouched _ _ := rfl

/-- An attempt that finds no record leaves everything as it is. -/
theorem Sealed.skip (h : Sealed s as t) (hfinds : ∀ i, ¬a.Finds s i) : Sealed s (as ++ [a]) t := by
  refine ⟨h.frame, h.length, fun i e he => ?_, fun i hfree => ?_⟩
  · obtain ⟨e', he', hwritten⟩ := h.written i e he
    refine ⟨e', he', hwritten.append_of_none fun name fields hfields => ?_⟩
    cases a with
    | add _ => rfl
    | setAttribute _ _ _ => rfl
    | setField j name' key v =>
      refine if_neg ?_
      rintro ⟨rfl, rfl⟩
      exact hfinds j ⟨rfl, hasRecordAt_eq_true.mpr ⟨e, fields, he, hfields⟩⟩
  · exact h.untouched i fun b hb => hfree b (List.mem_append_left _ hb)

theorem Sealed.setField {j : Nat} {name key : String} {v : Value} (h : Sealed s as t)
    (hrecord : s.hasRecordAt j name = true) :
    Sealed s (as ++ [.setField j name key v])
      (t.updateAt j fun e => { e with attributes := e.attributes.setField name key v }) := by
  obtain ⟨e₀, fields, he₀, hfields⟩ := hasRecordAt_eq_true.mp hrecord
  refine ⟨?_, (List.length_modify ..).trans h.length, fun i e he => ?_, fun i hfree => ?_⟩
  · show ({ t with entities := _ } : Scene) = _
    rw [h.frame]
    rfl
  · obtain ⟨e', he', hwritten⟩ := h.written i e he
    by_cases hi : j = i
    · subst hi
      rw [he₀] at he
      cases he
      refine ⟨{ e' with attributes := e'.attributes.setField name key v }, ?_, hwritten.setField hfields⟩
      rw [getElem?_updateAt_self, he', Option.map_some]
    · refine ⟨e', ?_, hwritten.append_of_none fun _ _ _ => if_neg fun hplace => hi hplace.1⟩
      rw [getElem?_updateAt_of_ne _ hi, he']
  · have hi : j ≠ i := by
      rintro rfl
      exact hfree _ (List.mem_append_right _ List.mem_cons_self) ⟨rfl, hrecord⟩
    rw [getElem?_updateAt_of_ne _ hi, h.untouched i fun b hb => hfree b (List.mem_append_left _ hb)]

/-- What one attempt keeps. -/
theorem Sealed.attempt (h : Sealed s as t) (a : Attempt) : Sealed s (as ++ [a]) (t.attempt a) := by
  rcases h.on_eq a with ⟨i, hfinds, -⟩ | ⟨hfinds, hrefused⟩
  · cases a with
    | add e => exact hfinds.elim
    | setAttribute j key v => exact hfinds.elim
    | setField j name key v =>
      obtain ⟨rfl, hrecord⟩ := hfinds
      have hok : t.attempt (.setField j name key v) =
          t.updateAt j fun e => { e with attributes := e.attributes.setField name key v } := by
        simp [Scene.attempt, Attempt.on, setFieldAt, (h.hasRecordAt_iff j name).mpr hrecord]
      rw [hok]
      exact h.setField hrecord
  · have hsame : t.attempt a = t := by rw [Scene.attempt, hrefused]
    rw [hsame]
    exact h.skip hfinds

theorem Sealed.attempts (h : Sealed s as t) (more : List Attempt) : Sealed s (as ++ more) (t.attempts more) := by
  induction more generalizing as t with
  | nil => rwa [List.append_nil]
  | cons a more ih =>
    rw [List.append_cons]
    exact ih (h.attempt a)

/-- A frozen scene takes nothing but fields of the records that its entities had when it was frozen. After any
    attempts the next one is refused, with a fault that tells entities from attributes, unless it writes such a
    field; freezing again changes nothing; the entities are those that were frozen but for such fields; and if no
    attempt wrote one, the whole scene is as it was frozen. Records are values here: a record that a caller has put
    into two entities is written in one of them only, and what shared records show is not told. -/
theorem freeze_seals (s : Scene) (as : List Attempt) :
    (∀ a : Attempt, ((∃ t, a.on (s.freeze.attempts as) = .ok t) ↔ ∃ i, a.Finds s i) ∧
        ∀ f, a.on (s.freeze.attempts as) = .error f → f = a.refusal) ∧
      (s.freeze.attempts as).freeze = s.freeze.attempts as ∧ Sealed s as (s.freeze.attempts as) ∧
        ((∀ a ∈ as, ∀ i, ¬a.Finds s i) → s.freeze.attempts as = s.freeze) := by
  have h : Sealed s as (s.freeze.attempts as) := (Sealed.start s).attempts as
  refine ⟨fun a => ?_, ?_, h, fun hfree => ?_⟩
  · rcases h.on_eq a with ⟨i, hfinds, t, hok⟩ | ⟨hfinds, hrefused⟩
    · rw [hok]
      exact ⟨⟨fun _ => ⟨i, hfinds⟩, fun _ => ⟨t, rfl⟩⟩, fun f hf => by cases hf⟩
    · rw [hrefused]
      refine ⟨⟨?_, ?_⟩, ?_⟩
      · rintro ⟨t, ht⟩
        cases ht
      · rintro ⟨i, hi⟩
        exact absurd hi (hfinds i)
      · intro f hf
        cases hf
        rfl
  · rw [h.frame]
    rfl
  · have hentities : (s.freeze.attempts as).entities = s.entities :=
      List.ext_getElem? fun i => h.untouched i fun a ha => hfree a ha i
    rw [h.frame, hentities]
    rfl

example :
    let s : Scene := { entities := [⟨"a", "prop", "ball", [("paint", .record [("stripe", .text "red")])], {}, ""⟩] }
    let t := s.freeze.attempts [.setField 0 "paint" "stripe" (.text "blue"), .setField 0 "size" "width" (.text "big")]
    t.entities.map (·.attributes) = [[("paint", .record [("stripe", .text "blue")])]] := rfl

end Scene
end SceneScript
