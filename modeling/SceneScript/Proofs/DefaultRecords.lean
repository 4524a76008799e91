import SceneScript.Proofs.Assembly
import SceneScript.Proofs.PlainData

/-!
Default attributes as catalogs state them. The record of a subtype is the first that one of the catalogs read has for
it, or else the first fallback record that is not blank. If it is plain, the attributes made of it are the same again.
-/

namespace SceneScript

namespace Catalog

/-! ### What one catalog states -/

/-- The data under the first key that reads as the subtype. -/
def statedDefaults? (entries : Data.Entries) (subtype : String) : Option Data :=
  (sectionOf entries "defaults").toOption.bind fun parts =>
    Assoc.get? (parts.map fun (k, d) => (Key.toText k, d)) subtype

/-- The data for subtypes without any, unless it is blank. -/
def statedFallback? (entries : Data.Entries) : Option Data :=
  (entries.field? "fallback_defaults").filter (!·.isBlank)

theorem get?_of_records {parts : Data.Entries} {read : List (String × Data.Entries)}
    (h : parts.mapM (fun (k, d) => return (Key.toText k, ← recordOf d)) = .ok read) (subtype : String) :
    (Assoc.get? read subtype).map .ok =
      (Assoc.get? (parts.map fun (k, d) => (Key.toText k, d)) subtype).map recordOf := by
  induction parts generalizing read with
  | nil =>
    cases h
    rfl
  | cons p parts ih =>
    rw [List.mapM_cons] at h
    obtain ⟨pair, hpair, h⟩ := bind_eq_ok.mp h
    obtain ⟨rest, hrest, h⟩ := bind_eq_ok.mp h
    obtain ⟨record, hrecord, hpair⟩ := bind_eq_ok.mp hpair
    cases pure_eq_ok.mp h
    cases pure_eq_ok.mp hpair
    rw [List.map_cons, Assoc.get?, Assoc.get?]
    by_cases hkey : (Key.toText p.1 == subtype) = true
    · rw [if_pos hkey, if_pos hkey, Option.map_some, Option.map_some, hrecord]
    · rw [if_neg hkey, if_neg hkey, ih hrest]

theorem get?_defaults {name : String} {entries : Data.Entries} {c : Catalog} (h : ofEntries name entries = .ok c)
    (subtype : String) : (Assoc.get? c.defaults subtype).map .ok = (statedDefaults? entries subtype).map recordOf := by
  obtain ⟨_, _, parts, _, _, read, -, -, -, -, hparts, hread, rfl⟩ := ofEntries_eq_ok h
  rw [Assoc.get?_foldl_add, statedDefaults?, hparts]
  exact get?_of_records hread subtype

theorem recordIn_fallback (entries : Data.Entries) :
    recordIn entries "fallback_defaults" = recordOf ((statedFallback? entries).getD (.mapping [])) := by
  rw [recordIn, statedFallback?]
  cases entries.field? "fallback_defaults" with
  | none => rfl
  | some d =>
    by_cases hblank : d.isBlank = true
    · have hrecord : recordOf d = .ok [] := if_pos hblank
      rw [Option.filter_some_neg (by simpa using hblank)]
      exact hrecord
    · rw [Option.filter_some_pos (by simpa using hblank)]
      rfl

end Catalog

namespace Vocabulary

variable {v v' : Vocabulary} {order : List Data.Entries}

/-! ### What catalogs state in turn -/

theorem findSome?_defaults {ps : List (String × Data.Entries)} {cs : List Catalog} (h : List.Forall₂ ReadFrom ps cs)
    (subtype : String) : (cs.findSome? fun c => Assoc.get? c.defaults subtype).map .ok =
      (ps.findSome? fun p => Catalog.statedDefaults? p.2 subtype).map Catalog.recordOf := by
  induction h with
  | nil => rfl
  | @cons p c ps cs hc _ ih =>
    have hfirst : (Assoc.get? c.defaults subtype).map .ok =
        (Catalog.statedDefaults? p.2 subtype).map Catalog.recordOf := Catalog.get?_defaults hc subtype
    rw [List.findSome?_cons, List.findSome?_cons]
    cases hstated : Catalog.statedDefaults? p.2 subtype with
    | none =>
      rw [hstated, Option.map_none, Option.map_eq_none_iff] at hfirst
      rw [hfirst]
      exact ih
    | some d =>
      rw [hstated] at hfirst
      obtain ⟨record, hrecord, -⟩ := Option.map_eq_some_iff.mp hfirst
      rw [hrecord] at hfirst ⊢
      exact hfirst

theorem any_fallback (v : Vocabulary) : v.catalogs.any (!·.fallback.isEmpty) = !v.fallback.isEmpty := by
  have hany : v.catalogs.any (!·.fallback.isEmpty) = (v.catalogs.map (·.fallback)).any (!·.isEmpty) := by
    rw [List.any_map]
    rfl
  rw [hany, fallback]
  cases hfound : (v.catalogs.map (·.fallback)).find? (!·.isEmpty) with
  | none => exact List.any_eq_false.mpr (List.find?_eq_none.mp hfound)
  | some entries =>
    have hentries := List.find?_some hfound
    rw [Option.getD_some, hentries]
    exact List.any_eq_true.mpr ⟨entries, List.mem_of_find?_eq_some hfound, hentries⟩

theorem fallback_append (v : Vocabulary) (c : Catalog) :
    fallback { catalogs := v.catalogs ++ [c] } = if v.fallback.isEmpty then c.fallback else v.fallback := by
  rw [fallback, fallback, List.map_append, List.find?_append]
  cases hfound : (v.catalogs.map (·.fallback)).find? (!·.isEmpty) with
  | none =>
    rw [Option.none_or, Option.getD_none, if_pos List.isEmpty_nil, List.map_singleton, List.find?_singleton]
    cases c.fallback <;> rfl
  | some entries =>
    have hentries := List.find?_some hfound
    rw [Option.some_or, Option.getD_some, if_neg (by simpa using hentries)]

/-- Fallback attributes stay once there are any; until then the first catalog that states some settles them. -/
theorem fallback_of_foldlM_add (h : order.foldlM add v = .ok v') :
    .ok v'.fallback = if v.fallback.isEmpty then
        Catalog.recordOf (((firsts (v.catalogs.map (·.name)) order).findSome? fun p => Catalog.statedFallback? p.2).getD
          (.mapping []))
      else .ok v.fallback := by
  induction order generalizing v with
  | nil =>
    cases h
    cases v'.fallback <;> rfl
  | cons entries order ih =>
    rw [List.foldlM_cons] at h
    obtain ⟨d, hd, hrest⟩ := bind_eq_ok.mp h
    obtain ⟨name, hname, ⟨htaken, rfl⟩ | ⟨hnew, c, hc, rfl, hfallback⟩⟩ := add_eq_ok hd
    · rw [firsts_cons hname, if_pos htaken]
      exact ih hrest
    · have hlater := ih hrest
      rw [fallback_append, List.map_append, List.map_singleton, hc.name_eq] at hlater
      rw [any_fallback, Catalog.recordIn_fallback] at hfallback
      rw [hlater, firsts_cons hname, if_neg hnew, List.findSome?_cons]
      -- The new catalog has a say only as long as no other has settled the fallback attributes.
      by_cases hempty : v.fallback.isEmpty = true
      · rw [if_neg (by simp [hempty])] at hfallback
        rw [if_pos hempty, if_pos hempty]
        cases hstated : Catalog.statedFallback? entries with
        | none =>
          rw [hstated] at hfallback
          have hnone : [] = c.fallback := Except.ok.inj hfallback
          rw [← hnone]
          rfl
        | some stated =>
          rw [hstated] at hfallback
          have hblank : (!stated.isBlank) = true := (Option.filter_eq_some_iff.mp hstated).2
          have hnonempty : c.fallback.isEmpty = stated.isBlank := Catalog.isEmpty_of_recordOf hfallback
          rw [if_neg (by rw [hnonempty]; simpa using hblank)]
          exact hfallback.symm
      · rw [if_neg hempty, if_neg hempty, if_neg hempty]

/-- The data that catalogs state for a subtype, the empty mapping if there is none. -/
def statedFor (catalogs : List Data.Entries) (subtype : String) : Data :=
  let read := firsts [] (readingOrder catalogs)
  ((read.findSome? fun p => Catalog.statedDefaults? p.2 subtype).or
    (read.findSome? fun p => Catalog.statedFallback? p.2)).getD (.mapping [])

/-- The default attributes of a subtype are the record that the catalogs state for it. -/
theorem recordOf_statedFor {catalogs : List Data.Entries} (h : ofData (catalogs.map .mapping) = .ok v)
    (subtype : String) : Catalog.recordOf (statedFor catalogs subtype) = .ok (v.defaultsFor subtype) := by
  have hdefaults := findSome?_defaults (catalogs_of_ofData h) subtype
  rw [ofData_mappings] at h
  have hfallback := fallback_of_foldlM_add h
  rw [statedFor, defaultsFor]
  cases hstated : (firsts [] (readingOrder catalogs)).findSome? fun p => Catalog.statedDefaults? p.2 subtype with
  | none =>
    rw [hstated, Option.map_none, Option.map_eq_none_iff] at hdefaults
    rw [hdefaults]
    exact hfallback.symm
  | some d =>
    rw [hstated] at hdefaults
    obtain ⟨record, hrecord, -⟩ := Option.map_eq_some_iff.mp hdefaults
    rw [hrecord] at hdefaults ⊢
    exact (Option.some.inj hdefaults).symm

/-! ### Records as attributes -/

/-- Plain data goes into values and comes back unchanged, and values stay what they are. Data has no value exactly if
    a null, a list or a foreign value is reached in it, and the first of these is named. So a subtype has the default
    attributes that the catalogs state for it. -/
theorem plain_data_kept :
    (∀ d : Data, d.Plain → ∃ value, Value.of (.inl d) = .ok value ∧ value.toData = d ∧
      Value.of (.inr value) = .ok value ∧ Value.of (.inl value.toData) = .ok value) ∧
    (∀ d : Data, (∃ fault, Value.of (.inl d) = .error fault) ↔
      ∃ x, d.Reaches x ∧ (x = .null ∨ (∃ items, x = .list items) ∨ ∃ v, x = .foreign v)) ∧
    (∀ (d : Data) (fault : Fault), Value.of (.inl d) = .error fault →
      ∃ x, d.reached.find? Data.isMisfit = some x ∧ fault = .unusableValue x ∧
        fault.message = "cannot use " ++ Fault.kindOf x ++ " as an attribute value: " ++ x.quoted) ∧
    (∀ (v : Vocabulary) (subtype : String), (Data.mapping (v.defaultsFor subtype)).Plain →
      ∃ attributes, v.attributesFor subtype = .ok attributes ∧ attributes.toData = .mapping (v.defaultsFor subtype)) ∧
    ∀ (catalogs : List Data.Entries) (v : Vocabulary), ofData (catalogs.map .mapping) = .ok v →
      ∀ subtype entries, statedFor catalogs subtype = .mapping entries → (Data.mapping entries).Plain →
        ∃ attributes, v.attributesFor subtype = .ok attributes ∧ attributes.toData = .mapping entries := by
  have hrecord : ∀ (v : Vocabulary) (subtype : String), (Data.mapping (v.defaultsFor subtype)).Plain →
      ∃ attributes, v.attributesFor subtype = .ok attributes ∧
        attributes.toData = .mapping (v.defaultsFor subtype) :=
    fun v subtype => Attributes.ofEntries_of_plain
  refine ⟨fun d hd => ?_, fun d => ?_, fun d fault h => ?_, hrecord,
    fun catalogs v hv subtype entries hstated hplain => ?_⟩
  · obtain ⟨value, hvalue, hdata⟩ := Value.ofData_of_plain hd
    exact ⟨value, hvalue, hdata, rfl, hdata ▸ hvalue⟩
  · simp only [← Data.isMisfit_iff]
    exact Value.exists_error_iff
  · obtain ⟨x, hx, rfl⟩ := Value.ofData_eq_error_iff.mp h
    exact ⟨x, hx, rfl, rfl⟩
  · have hread := recordOf_statedFor hv subtype
    have hsame : Catalog.recordOf (.mapping entries) = .ok entries := by cases entries <;> rfl
    rw [hstated, hsame] at hread
    cases hread
    exact hrecord v subtype hplain

/-- A record inside the defaults that the core states for a subtype. -/
theorem plain_data_kept_child :
    let record : List (String × Data) := [("age", .number (.int 7)), ("hair", .ofFields [("color", .text "red")])]
    let core : Data.Entries := [(some (.text "name"), .text "core"),
      (some (.text "defaults"), .ofFields [("child", .ofFields record)])]
    ∃ v attributes, ofData [.mapping core] = .ok v ∧ v.attributesFor "child" = .ok attributes ∧
      attributes.toData = .ofFields record := by
  intro record core
  have hbuilt : (ofData [.mapping core]).toOption.isSome = true := by decide +kernel
  obtain ⟨v, hv⟩ := toOption_isSome.mp hbuilt
  have hplain : (Data.ofFields record).Plain := by
    have hhair : (Data.ofFields [("color", .text "red")]).Plain := by
      refine .mapping (by decide) fun f hf => ?_
      rw [List.mem_singleton.mp hf]
      exact .scalar _
    refine .mapping (by decide) fun f hf => ?_
    rcases List.mem_cons.mp hf with rfl | hf
    · exact .scalar _
    · rw [List.mem_singleton.mp hf]
      exact hhair
  have hstated : statedFor [core] "child" = .ofFields record := by
    have horder : readingOrder [core] = [core] := by
      have hcore : isCore core = true := by decide +kernel
      rw [readingOrder, List.filter_cons_of_pos hcore, List.filter_cons_of_neg (by simp [hcore])]
      rfl
    have hname : (Catalog.nameOf core).toOption.map id = some coreName := by decide +kernel
    obtain ⟨_, hname, rfl⟩ := toOption_map_eq_some.mp hname
    have hsection : Catalog.sectionOf core "defaults" = .ok [(some (.text "child"), .ofFields record)] := by
      have hfield : core.field? "defaults" = some (.ofFields [("child", .ofFields record)]) := by
        rw [Data.Entries.field?, Assoc.get?, if_neg (by decide +kernel), Assoc.get?, if_pos (by decide +kernel)]
      rw [Catalog.sectionOf, hfield]
      rfl
    rw [statedFor, horder, firsts_cons hname, if_neg List.not_mem_nil, List.findSome?_cons, Catalog.statedDefaults?,
      hsection]
    rfl
  obtain ⟨attributes, hattributes, hdata⟩ := plain_data_kept.2.2.2.2 [core] v hv "child" _ hstated hplain
  exact ⟨v, attributes, hv, hattributes, hdata⟩

end Vocabulary

end SceneScript
