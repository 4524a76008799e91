import Mathlib.Data.List.Forall2
import SceneScript.Proofs.Defects

/-!
How a vocabulary is put together. The catalogs are read in one order, those that are spelled as the core first. Of
several catalogs of one name only the first counts, and all of it but the fallback attributes is read without regard to
the others. So a vocabulary holds what its catalogs hold, in this order and under distinct names.
-/

namespace SceneScript

/-- The catalog without its fallback attributes, in which alone other catalogs have a say. -/
def Catalog.bare (c : Catalog) : Catalog := { c with fallback := [] }

namespace Vocabulary

variable {v v' : Vocabulary} {entries : Data.Entries} {order : List Data.Entries} {taken : List String}

/-! ### One more catalog -/

/-- The catalog is read from the data under the name. -/
def ReadFrom (p : String × Data.Entries) (c : Catalog) : Prop := Catalog.ofEntries p.1 p.2 = .ok c.bare

theorem ReadFrom.name_eq {p : String × Data.Entries} {c : Catalog} (h : ReadFrom p c) : c.name = p.1 := by
  have hname : c.bare.name = p.1 := Catalog.name_of_ofEntries h
  exact hname

theorem ReadFrom.bare_inj {p : String × Data.Entries} {c c' : Catalog} (h : ReadFrom p c) (h' : ReadFrom p c') :
    c.bare = c'.bare := Except.ok.inj (h.symm.trans h')

theorem bare_of_ofEntries {name : String} {c : Catalog} (h : Catalog.ofEntries name entries = .ok c) : c.bare = c := by
  obtain ⟨_, _, _, _, _, _, -, -, -, -, -, -, rfl⟩ := Catalog.ofEntries_eq_ok h
  rfl

/-- A catalog of a taken name is passed over, and any other one goes last. Its fallback attributes are read if there are
    none yet. -/
theorem add_eq_ok (h : v.add entries = .ok v') : ∃ name, Catalog.nameOf entries = .ok name ∧
    (name ∈ v.catalogs.map (·.name) ∧ v' = v ∨
      name ∉ v.catalogs.map (·.name) ∧ ∃ c, ReadFrom (name, entries) c ∧ v' = { catalogs := v.catalogs ++ [c] } ∧
        (if v.catalogs.any (!·.fallback.isEmpty) then .ok [] else Catalog.recordIn entries "fallback_defaults") =
          .ok c.fallback) := by
  obtain ⟨name, hname, h⟩ := bind_eq_ok.mp h
  have htaken : v.catalogs.any (·.name == name) = true ↔ name ∈ v.catalogs.map (·.name) := by
    simp [List.any_eq_true, List.mem_map]
  refine ⟨name, hname, ?_⟩
  split at h
  · rename_i hany
    exact Or.inl ⟨htaken.mp hany, (pure_eq_ok.mp h).symm⟩
  · rename_i hany
    obtain ⟨catalog, hcatalog, h⟩ := bind_eq_ok.mp h
    have hread : ∀ fallback, ReadFrom (name, entries) { catalog with fallback } := by
      intro fallback
      have hbare : { catalog with fallback }.bare = catalog := bare_of_ofEntries hcatalog
      rw [ReadFrom, hbare]
      exact hcatalog
    refine Or.inr ⟨mt htaken.mpr hany, ?_⟩
    split at h
    · rename_i hsettled
      obtain ⟨fallback, hfallback, h⟩ := bind_eq_ok.mp h
      exact ⟨{ catalog with fallback }, hread fallback, (pure_eq_ok.mp h).symm, (if_pos hsettled).trans hfallback⟩
    · rename_i hsettled
      obtain ⟨fallback, hfallback, h⟩ := bind_eq_ok.mp h
      exact ⟨{ catalog with fallback }, hread fallback, (pure_eq_ok.mp h).symm, (if_neg hsettled).trans hfallback⟩

/-! ### All catalogs -/

/-- The catalogs in the order in which they are read. -/
def readingOrder (catalogs : List Data.Entries) : List Data.Entries :=
  catalogs.filter isCore ++ catalogs.filter (!isCore ·)

/-- The first catalog of each name but the taken ones, with that name. -/
def firsts (taken : List String) : List Data.Entries → List (String × Data.Entries)
  | [] => []
  | entries :: rest =>
    match Catalog.nameOf entries with
    | .error _ => firsts taken rest
    | .ok name => if name ∈ taken then firsts taken rest else (name, entries) :: firsts (taken ++ [name]) rest

theorem firsts_cons {name : String} (h : Catalog.nameOf entries = .ok name) : firsts taken (entries :: order) =
    if name ∈ taken then firsts taken order else (name, entries) :: firsts (taken ++ [name]) order := by
  rw [firsts, h]

theorem firsts_cons_error {e : CatalogError} (h : Catalog.nameOf entries = .error e) :
    firsts taken (entries :: order) = firsts taken order := by
  rw [firsts, h]

theorem notMem_of_mem_firsts {p : String × Data.Entries} (h : p ∈ firsts taken order) :
    p.1 ∉ taken ∧ Catalog.nameOf p.2 = .ok p.1 ∧ p.2 ∈ order := by
  induction order generalizing taken with
  | nil => cases h
  | cons entries order ih =>
    have hlater : ∀ {taken}, p ∈ firsts taken order →
        p.1 ∉ taken ∧ Catalog.nameOf p.2 = .ok p.1 ∧ p.2 ∈ entries :: order :=
      fun h => (ih h).imp id fun ⟨hname, hmem⟩ => ⟨hname, List.mem_cons_of_mem entries hmem⟩
    cases hname : Catalog.nameOf entries with
    | error e => exact hlater (firsts_cons_error hname ▸ h)
    | ok name =>
      rw [firsts_cons hname] at h
      split at h
      · exact hlater h
      · rename_i hnew
        rcases List.mem_cons.mp h with rfl | h
        · exact ⟨hnew, hname, List.mem_cons_self⟩
        · obtain ⟨hnot, hrest⟩ := hlater h
          exact ⟨fun hmem => hnot (List.mem_append_left [name] hmem), hrest⟩

theorem nodup_firsts (taken : List String) (order : List Data.Entries) : ((firsts taken order).map Prod.fst).Nodup := by
  induction order generalizing taken with
  | nil => exact List.nodup_nil
  | cons entries order ih =>
    cases hname : Catalog.nameOf entries with
    | error e =>
      rw [firsts_cons_error hname]
      exact ih taken
    | ok name =>
      rw [firsts_cons hname]
      split
      · exact ih taken
      · rw [List.map_cons, List.nodup_cons]
        refine ⟨fun hmem => ?_, ih _⟩
        obtain ⟨p, hp, rfl⟩ := List.mem_map.mp hmem
        exact (notMem_of_mem_firsts hp).1 (List.mem_append_right taken List.mem_cons_self)

theorem exists_of_foldlM_add (h : order.foldlM add v = .ok v') :
    ∃ added, v'.catalogs = v.catalogs ++ added ∧
      List.Forall₂ ReadFrom (firsts (v.catalogs.map (·.name)) order) added := by
  induction order generalizing v with
  | nil =>
    cases h
    exact ⟨[], (List.append_nil _).symm, .nil⟩
  | cons entries order ih =>
    rw [List.foldlM_cons] at h
    obtain ⟨d, hd, hrest⟩ := bind_eq_ok.mp h
    obtain ⟨name, hname, ⟨htaken, rfl⟩ | ⟨hnew, c, hc, rfl, -⟩⟩ := add_eq_ok hd
    · rw [firsts_cons hname, if_pos htaken]
      exact ih hrest
    · obtain ⟨added, hadded, hread⟩ := ih hrest
      refine ⟨c :: added, by rw [hadded, List.append_assoc]; rfl, ?_⟩
      rw [firsts_cons hname, if_neg hnew]
      rw [List.map_append, List.map_singleton, hc.name_eq] at hread
      exact .cons hc hread

theorem exists_of_mapM_entriesOf {catalogs : List Data} {read : List Data.Entries}
    (h : catalogs.mapM Catalog.entriesOf = .ok read) : catalogs = read.map .mapping := by
  induction catalogs generalizing read with
  | nil =>
    cases h
    rfl
  | cons d catalogs ih =>
    rw [List.mapM_cons] at h
    obtain ⟨entries, hentries, h⟩ := bind_eq_ok.mp h
    obtain ⟨rest, hrest, h⟩ := bind_eq_ok.mp h
    cases pure_eq_ok.mp h
    rw [ih hrest]
    cases d with
    | mapping entries' =>
      cases hentries
      rfl
    | _ => cases hentries

theorem ofData_mappings (catalogs : List Data.Entries) :
    ofData (catalogs.map .mapping) = (readingOrder catalogs).foldlM add {} := by
  rw [ofData, mapM_entriesOf]
  rfl

theorem exists_of_ofData {catalogs : List Data} (h : ofData catalogs = .ok v) :
    ∃ read : List Data.Entries, catalogs = read.map .mapping := by
  obtain ⟨read, hread, -⟩ := bind_eq_ok.mp h
  exact ⟨read, exists_of_mapM_entriesOf hread⟩

/-- The catalogs of a vocabulary are the first ones of their names, in the order in which they are read. -/
theorem catalogs_of_ofData {catalogs : List Data.Entries} (h : ofData (catalogs.map .mapping) = .ok v) :
    List.Forall₂ ReadFrom (firsts [] (readingOrder catalogs)) v.catalogs := by
  rw [ofData_mappings] at h
  obtain ⟨added, hadded, hread⟩ := exists_of_foldlM_add h
  rwa [hadded, List.nil_append]

theorem names_of_forall₂ {ps : List (String × Data.Entries)} {cs : List Catalog} (h : List.Forall₂ ReadFrom ps cs) :
    cs.map (·.name) = ps.map Prod.fst := by
  induction h with
  | nil => rfl
  | cons hc _ ih => rw [List.map_cons, List.map_cons, hc.name_eq, ih]

theorem exists_of_mem_forall₂ {ps : List (String × Data.Entries)} {cs : List Catalog} {c : Catalog}
    (h : List.Forall₂ ReadFrom ps cs) (hc : c ∈ cs) : ∃ p ∈ ps, ReadFrom p c := by
  induction h with
  | nil => cases hc
  | @cons p c' _ _ hp _ ih =>
    rcases List.mem_cons.mp hc with rfl | hc
    · exact ⟨p, List.mem_cons_self, hp⟩
    · obtain ⟨q, hq, hread⟩ := ih hc
      exact ⟨q, List.mem_cons_of_mem p hq, hread⟩

theorem nodup_names {catalogs : List Data} (h : ofData catalogs = .ok v) : (v.catalogs.map (·.name)).Nodup := by
  obtain ⟨read, rfl⟩ := exists_of_ofData h
  rw [names_of_forall₂ (catalogs_of_ofData h)]
  exact nodup_firsts [] (readingOrder read)

end Vocabulary
end SceneScript
