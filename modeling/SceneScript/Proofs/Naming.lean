import Mathlib.Data.List.Nodup
import SceneScript.Proofs.Blur.Runs
import SceneScript.Proofs.Settling
import SceneScript.Proofs.Updates

/-!
What ids name. Target texts seek ids before all other names, so an id always means its entity. An update takes the first
entity that it can mean in any way; so an earlier one that was drawn with the id for a keyword, or is of the kind that
the id stands for as a keyword, is taken before the entity with the id.
-/

namespace SceneScript

/-! ### Ids as texts -/

namespace Text

theorem toList_upper {s : String} (h : ∀ c ∈ s.toList, upperChar c = [c.toUpper]) :
    (upper s).toList = s.toList.map Char.toUpper := by
  rw [upper, String.toList_ofList, List.map_eq_flatMap]
  exact List.flatMap_congr h

theorem lower_eq_self {s : String} (h : ∀ c ∈ s.toList, c ≠ 'Σ' ∧ lowerChar c = [c]) : lower s = s := by
  have hfrom : ∀ {before cs : List Char}, (∀ c ∈ cs, c ≠ 'Σ' ∧ lowerChar c = [c]) → lowerFrom before cs = cs := by
    intro before cs
    induction cs generalizing before with
    | nil => exact fun _ => rfl
    | cons c cs ih =>
      intro h
      obtain ⟨hsigma, hc⟩ := h c List.mem_cons_self
      rw [lowerFrom, if_neg hsigma, hc, ih fun d hd => h d (List.mem_cons_of_mem c hd)]
      rfl
  rw [lower, hfrom h, String.ofList_toList]

theorem trim_eq_self {s : String} (h : ∀ c ∈ s.toList, isBlank c = false) : trim s = s := by
  rw [trim, trimChars_of_ends (fun c hc => h c (List.mem_of_head? hc)) fun c hc => h c (List.mem_of_getLast? hc),
    String.ofList_toList]

end Text

namespace Context

variable {i j : Nat}

/-- The characters that ids are made of. -/
def idChars : List Char := "entity_0123456789".toList

theorem mem_idChars_of_isDigit {c : Char} (h : c.isDigit = true) : c ∈ idChars := by
  have hall : ∀ n < 58, 48 ≤ n → Char.ofNat n ∈ idChars := by decide
  simp only [Char.isDigit, Bool.and_eq_true, decide_eq_true_eq, ge_iff_le, UInt32.le_iff_toNat_le] at h
  rw [← Char.ofNat_toNat c]
  exact hall c.toNat (Nat.lt_succ_of_le h.2) h.1

theorem mem_idChars {c : Char} (h : c ∈ (entityId i).toList) : c ∈ idChars := by
  rw [entityId, String.toList_append] at h
  rcases List.mem_append.mp h with h | h
  · exact List.mem_append_left "0123456789".toList h
  · have hdigits : (toString (i + 1)).toList = Nat.toDigits 10 (i + 1) := Nat.toList_repr
    rw [hdigits] at h
    exact mem_idChars_of_isDigit (Nat.isDigit_of_mem_toDigits (by decide) (by decide) h)

/-- What can be seen of all of these characters is true of those of an id. -/
theorem forall_entityId {p : Char → Prop} [DecidablePred p] (h : idChars.all (p ·) = true) (i : Nat) :
    ∀ c ∈ (entityId i).toList, p c :=
  fun c hc => of_decide_eq_true (List.all_eq_true.mp h c (mem_idChars hc))

theorem lower_entityId (i : Nat) : Text.lower (entityId i) = entityId i :=
  Text.lower_eq_self (forall_entityId (by decide) i)

theorem trim_entityId (i : Nat) : Text.trim (entityId i) = entityId i :=
  Text.trim_eq_self (forall_entityId (by decide) i)

/-- Ids stay distinct in upper case. -/
theorem upper_entityId_inj (h : Text.upper (entityId i) = Text.upper (entityId j)) : i = j := by
  have hupper : ∀ i, (Text.upper (entityId i)).toList = (entityId i).toList.map Char.toUpper := fun i =>
    Text.toList_upper (forall_entityId (by decide) i)
  have hlower : ∀ i, ((entityId i).toList.map Char.toUpper).map Char.toLower = (entityId i).toList := by
    intro i
    have hback : ∀ c ∈ (entityId i).toList, (Char.toLower ∘ Char.toUpper) c = id c := forall_entityId (by decide) i
    rw [List.map_map, List.map_congr_left hback, List.map_id]
  have hlist : (entityId i).toList = (entityId j).toList := by rw [← hlower i, ← hlower j, ← hupper, ← hupper, h]
  exact entityId_inj (String.toList_injective hlist)

theorem Reachable.exists_booked {vocabulary : Vocabulary} {strict : Bool} {c : Context}
    (hc : Reachable vocabulary strict c) : ∃ statements, c.Booked statements := by
  induction hc with
  | start => exact ⟨[], Booked.start vocabulary strict⟩
  | step _ hstep ih =>
    obtain ⟨statements, hbooked⟩ := ih
    exact ⟨_, (hbooked.step hstep).1⟩

/-- The ids of a scene, in the order in which its entities were drawn. -/
theorem Reachable.ids {vocabulary : Vocabulary} {strict : Bool} {c : Context} (hc : Reachable vocabulary strict c) :
    c.scene.entities.map (·.id) = (List.range c.scene.entities.length).map entityId := by
  obtain ⟨statements, hbooked⟩ := hc.exists_booked
  have hlength := congrArg List.length hbooked.ids
  rw [List.length_map, List.length_map, List.length_range] at hlength
  rw [hbooked.ids, hlength]

end Context

/-! ### Target texts -/

namespace NameTable

open Context (entityId upper_entityId_inj trim_entityId)

variable {entities : List Entity} {i : Nat} {e : Entity}

theorem get?_ofEntities (entities : List Entity) (name : String) : Assoc.get? (ofEntities entities) name =
    (Assoc.get? (idNames entities) name).or
      ((Assoc.get? (aliasNames entities) name).or (Assoc.get? (kindNames entities) name)) := by
  rw [ofEntities, Assoc.get?_foldl_add, Assoc.get?_append, Assoc.get?_append, Option.or_assoc]
  rfl

theorem keys_idNames (entities : List Entity) :
    Assoc.keys (idNames entities) = (entities.map (·.id)).map Text.upper := by
  have hfst : entities.zipIdx.map Prod.fst = entities := List.zipIdx_map_fst ..
  calc Assoc.keys (idNames entities)
    _ = (entities.zipIdx.map Prod.fst).map fun e => Text.upper e.id := by
      rw [Assoc.keys, idNames, List.map_map, List.map_map]
      rfl
    _ = (entities.map (·.id)).map Text.upper := by
      rw [hfst, List.map_map]
      rfl

/-- The id of an entity is found at its place. -/
theorem find?_id (hids : entities.map (·.id) = (List.range entities.length).map entityId) (he : entities[i]? = some e)
    (hid : e.id = entityId i) : (ofEntities entities).find? e.id = some i := by
  have hnodup : (Assoc.keys (idNames entities)).Nodup := by
    rw [keys_idNames, hids, List.map_map]
    exact List.nodup_range.map fun _ _ => upper_entityId_inj
  have hmem : (Text.upper e.id, i) ∈ idNames entities :=
    List.mem_map.mpr ⟨(e, i), List.mem_zipIdx_iff_getElem?.mpr he, rfl⟩
  have hfound : Assoc.get? (ofEntities entities) (Text.upper e.id) = some i := by
    rw [get?_ofEntities, Assoc.get?_of_mem hnodup hmem]
    rfl
  have htrim : Text.trim e.id = e.id := by rw [hid, trim_entityId]
  rw [find?, candidates, htrim, List.findSome?_cons, hfound]

end NameTable

namespace Context

variable {c : Context} {i : Nat} {id : String} {e : Entity}

/-! ### References -/

/-- The id, taken for a name of another kind, means the entity: its subtype, a recognized keyword of its subtype, or the
    keyword that it was drawn with. -/
def Rivals (c : Context) (id : String) (e : Entity) : Prop :=
  e.subtype = id ∨
    ((c.typeOf (Text.upper id)).recognized = true ∧ e.subtype = (c.typeOf (Text.upper id)).subtype) ∨
    e.keyword = Text.upper id

theorem names_iff {reference : Token} (h : reference.lexeme = entityId i) :
    c.Names reference e ↔ e.id = entityId i ∨ c.Rivals (entityId i) e := by
  rw [Names, h, lower_entityId, Rivals]

theorem exists_update_of_reference {s : Statement} (h : s.reference? = some id) :
    ∃ reference clauses, s.read.outcome = .ok (.update reference clauses) ∧ reference.lexeme = id := by
  unfold Statement.reference? Reading.reference? at h
  split at h
  · rename_i reference clauses hread
    exact ⟨reference, clauses, hread, Option.some.inj h⟩
  · cases h

theorem id_eq_of_ids (hids : c.scene.entities.map (·.id) = (List.range c.scene.entities.length).map entityId)
    (he : c.scene.entities[i]? = some e) : e.id = entityId i := by
  have hid := congrArg (·[i]?) hids
  obtain ⟨hlt, rfl⟩ := List.getElem?_eq_some_iff.mp he
  simpa [hlt] using hid

theorem id_ne_of_mem_take (hids : c.scene.entities.map (·.id) = (List.range c.scene.entities.length).map entityId)
    (he : e ∈ c.scene.entities.take i) : e.id ≠ entityId i := by
  obtain ⟨j, hlt, hget⟩ := List.mem_take_iff_getElem.mp he
  obtain ⟨hi, hlength⟩ := Nat.lt_min.mp hlt
  rw [id_eq_of_ids hids (List.getElem?_eq_some_iff.mpr ⟨hlength, hget⟩)]
  exact fun heq => Nat.ne_of_lt hi (entityId_inj heq)

/-- An id is a target text for its entity alone. As the reference of an update it means its entity unless an earlier one
    is a rival for it; then it means the first of these. -/
theorem id_names_entity {vocabulary : Vocabulary} {strict : Bool} (hc : Reachable vocabulary strict c)
    (he : c.scene.entities[i]? = some e) :
    (NameTable.ofEntities c.scene.entities).find? e.id = some i ∧
      ∀ (s : Statement) (reference : Token) (clauses : List Token),
        s.read.outcome = .ok (.update reference clauses) → reference.lexeme = e.id →
          (c.scene.entities.find? (c.refersTo reference) = some e ↔
              ∀ e' ∈ c.scene.entities.take i, ¬c.Rivals e.id e') ∧
            ∀ before e' after, c.scene.entities.take i = before ++ e' :: after →
              (∀ earlier ∈ before, ¬c.Rivals e.id earlier) → c.Rivals e.id e' →
                c.scene.entities.find? (c.refersTo reference) = some e' := by
  have hids := hc.ids
  have hid := id_eq_of_ids hids he
  refine ⟨NameTable.find?_id hids he hid, fun s reference clauses hread hreference => ?_⟩
  have hrefers : ∀ {e' : Entity}, c.refersTo reference e' = true ↔ e'.id = entityId i ∨ c.Rivals (entityId i) e' :=
    (refersTo_iff_of_read hread).trans (names_iff (hreference.trans hid))
  have hfirst : ∀ {before e' after}, c.scene.entities = before ++ e' :: after →
      (∀ earlier ∈ before, earlier ∈ c.scene.entities.take i ∧ ¬c.Rivals (entityId i) earlier) →
        c.refersTo reference e' = true → c.scene.entities.find? (c.refersTo reference) = some e' := by
    intro before e' after hsplit hbefore he'
    refine List.find?_eq_some_iff_append.mpr ⟨he', before, after, hsplit, fun earlier hearlier => ?_⟩
    obtain ⟨hmem, hrival⟩ := hbefore earlier hearlier
    have hnot := mt hrefers.mp (not_or.mpr ⟨id_ne_of_mem_take hids hmem, hrival⟩)
    simpa using hnot
  have hsplit : c.scene.entities = c.scene.entities.take i ++ e :: c.scene.entities.drop (i + 1) := by
    obtain ⟨hlt, heq⟩ := List.getElem?_eq_some_iff.mp he
    rw [← heq, ← List.drop_eq_getElem_cons hlt, List.take_append_drop]
  rw [hid]
  refine ⟨⟨fun hfound e' he' hrival => ?_, fun hnone => ?_⟩, fun before e' after htake hbefore hrival => ?_⟩
  · -- A rival is found among the entities before this one.
    obtain ⟨x, hx⟩ := Option.isSome_iff_exists.mp (List.find?_isSome.mpr ⟨e', he', hrefers.mpr (Or.inr hrival)⟩)
    rw [hsplit, List.find?_append, hx, Option.some_or] at hfound
    cases hfound
    exact id_ne_of_mem_take hids (List.mem_of_find?_eq_some hx) hid
  · exact hfirst hsplit (fun earlier hearlier => ⟨hearlier, hnone earlier hearlier⟩) (hrefers.mpr (Or.inl hid))
  · have hall : c.scene.entities = before ++ e' :: (after ++ e :: c.scene.entities.drop (i + 1)) := by
      rw [htake, List.append_assoc] at hsplit
      exact hsplit
    refine hfirst hall (fun earlier hearlier => ⟨?_, hbefore earlier hearlier⟩) (hrefers.mpr (Or.inr hrival))
    rw [htake]
    exact List.mem_append_left _ hearlier

/-- The second of two entities, where the first is no rival for its id. -/
theorem id_names_entity_woman :
    let s : Statement := { line := 3, text := "UPDATE entity_2 WITH AGE 5" }
    ∃ c e reference clauses,
      Context.run { vocabulary := .bundled } (Statement.ofSource "DRAW MAN\nDRAW WOMAN" none) = .ok c ∧
      s.read.outcome = .ok (.update reference clauses) ∧ c.scene.entities[1]? = some e ∧ e.id = "entity_2" ∧
      (NameTable.ofEntities c.scene.entities).find? e.id = some 1 ∧
      c.scene.entities.find? (c.refersTo reference) = some e := by
  intro s
  have hreference : s.reference? = some "entity_2" := by decide +kernel
  have hscene : (Context.run { vocabulary := .bundled } (Statement.ofSource "DRAW MAN\nDRAW WOMAN" none)).toOption.map
      (fun c => (c.scene.entities.map fun e => (e.id, e.subtype, e.keyword), (c.typeOf "ENTITY_2").recognized)) =
      some ([("entity_1", "adult_male", "MAN"), ("entity_2", "adult_female", "WOMAN")], false) := by
    decide +kernel
  obtain ⟨reference, clauses, hread, hlexeme⟩ := exists_update_of_reference hreference
  obtain ⟨c, hc, hscene⟩ := toOption_map_eq_some.mp hscene
  obtain ⟨hentities, hunknown⟩ := Prod.mk.inj hscene
  obtain ⟨man, rest, hall, hman, hrest⟩ := List.map_eq_cons_iff.mp hentities
  obtain ⟨woman, more, rfl, hwoman, -⟩ := List.map_eq_cons_iff.mp hrest
  simp only [Prod.mk.injEq] at hman hwoman
  have hget : c.scene.entities[1]? = some woman := by
    rw [hall]
    rfl
  obtain ⟨htarget, hupdate⟩ := id_names_entity (Reachable.start.run hc) hget
  obtain ⟨hiff, -⟩ := hupdate s reference clauses hread (hlexeme.trans hwoman.1.symm)
  refine ⟨c, woman, reference, clauses, hc, hread, hget, hwoman.1, htarget, hiff.mpr fun e he => ?_⟩
  obtain rfl : e = man := by
    rw [hall] at he
    exact List.mem_singleton.mp he
  have hupper : Text.upper "entity_2" = "ENTITY_2" := by decide
  simp [Rivals, hwoman.1, hman.2.1, hman.2.2, hupper, hunknown]

/-- An entity that was drawn with a later id for its keyword is meant in place of the entity with the id. -/
theorem exists_rival_of_id :
    let s : Statement := { line := 3, text := "UPDATE entity_2 WITH AGE 5" }
    ∃ c e reference clauses,
      Context.run { vocabulary := .bundled } (Statement.ofSource "DRAW ENTITY_2\nDRAW MAN" none) = .ok c ∧
      s.read.outcome = .ok (.update reference clauses) ∧ e ∈ c.scene.entities ∧ reference.lexeme = e.id ∧
      c.scene.entities.find? (c.refersTo reference) ≠ some e := by
  intro s
  have hreference : s.reference? = some "entity_2" := by decide +kernel
  have hscene : (Context.run { vocabulary := .bundled }
      (Statement.ofSource "DRAW ENTITY_2\nDRAW MAN" none)).toOption.map
        (fun c => c.scene.entities.map fun e => (e.id, e.keyword)) =
      some [("entity_1", "ENTITY_2"), ("entity_2", "MAN")] := by
    decide +kernel
  obtain ⟨reference, clauses, hread, hlexeme⟩ := exists_update_of_reference hreference
  obtain ⟨c, hc, hentities⟩ := toOption_map_eq_some.mp hscene
  obtain ⟨first, rest, hall, hfirst, hrest⟩ := List.map_eq_cons_iff.mp hentities
  obtain ⟨man, more, rfl, hman, -⟩ := List.map_eq_cons_iff.mp hrest
  obtain ⟨hid, hkeyword⟩ := Prod.mk.inj hfirst
  obtain ⟨hman, -⟩ := Prod.mk.inj hman
  refine ⟨c, man, reference, clauses, hc, hread, ?_, hlexeme.trans hman.symm, fun hsome => ?_⟩
  · rw [hall]
    exact List.mem_cons_of_mem first List.mem_cons_self
  · have hupper : Text.upper "entity_2" = "ENTITY_2" := by decide
    have hnames : c.Names reference first := Or.inr (Or.inr (Or.inr (by rw [hkeyword, hlexeme, hupper])))
    rw [hall, List.find?_cons_of_pos ((refersTo_iff_of_read hread).mpr hnames)] at hsome
    obtain rfl := Option.some.inj hsome
    exact absurd (hid.symm.trans hman) (by decide)

end Context
end SceneScript
