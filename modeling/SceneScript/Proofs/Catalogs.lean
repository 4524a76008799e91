import SceneScript.Proofs.Defects
import SceneScript.Vocabulary

/-!
What the definitions of a vocabulary are worth. A vocabulary built from data refuses entities of an unknown
category, so every keyword stands for a human, an object or a prop.
-/

namespace SceneScript

namespace Catalog

theorem category_of_entityOf {catalog : String} {key : Key} {d : Data} {e : EntityDefinition}
    (h : entityOf catalog key d = .ok e) : e.category ∈ categories := by
  obtain ⟨entry, -, h⟩ := bind_eq_ok.mp h
  obtain ⟨hknown, h⟩ := throwIf_eq_ok.mp h
  simp only [Bool.not_eq_false', Bool.and_eq_true] at hknown
  split at h
  · cases h
  · cases pure_eq_ok.mp h
    exact List.contains_iff_mem.mp hknown.2

/-- Every entity that the catalog defines is of a known category. -/
def Categorized (c : Catalog) : Prop := ∀ p ∈ c.entities, p.2.category ∈ categories

theorem categorized_ofEntries {name : String} {entries : Data.Entries} {c : Catalog}
    (h : ofEntries name entries = .ok c) : c.Categorized := by
  obtain ⟨_, _, _, entities, _, _, -, hentities, -, -, -, -, rfl⟩ := ofEntries_eq_ok h
  intro p hp
  obtain ⟨q, hq, heq⟩ := Assoc.exists_of_mem_ofPairs hp
  obtain ⟨e, he, rfl⟩ := List.mem_map.mp hq
  obtain ⟨⟨key, d⟩, -, hread⟩ := exists_of_mem_mapM hentities he
  rw [heq]
  exact category_of_entityOf hread

end Catalog

namespace Vocabulary

variable {v : Vocabulary}

/-- Every entity that the vocabulary defines is of a known category. -/
def Categorized (v : Vocabulary) : Prop := ∀ c ∈ v.catalogs, c.Categorized

theorem categorized_add {v' : Vocabulary} {entries : Data.Entries} (hv : v.Categorized)
    (h : v.add entries = .ok v') : v'.Categorized := by
  obtain ⟨name, -, h⟩ := bind_eq_ok.mp h
  split at h
  · cases pure_eq_ok.mp h
    exact hv
  · obtain ⟨catalog, hcatalog, h⟩ := bind_eq_ok.mp h
    obtain ⟨fallback, rfl⟩ : ∃ fallback, v' = { catalogs := v.catalogs ++ [{ catalog with fallback }] } := by
      split at h
      · obtain ⟨fallback, -, h⟩ := bind_eq_ok.mp h
        exact ⟨fallback, (pure_eq_ok.mp h).symm⟩
      · obtain ⟨fallback, -, h⟩ := bind_eq_ok.mp h
        exact ⟨fallback, (pure_eq_ok.mp h).symm⟩
    intro c hc
    rcases List.mem_append.mp hc with hc | hc
    · exact hv c hc
    · have hcategorized := Catalog.categorized_ofEntries hcatalog
      rw [List.mem_singleton.mp hc]
      exact hcategorized

theorem categorized_ofData {catalogs : List Data} (h : ofData catalogs = .ok v) : v.Categorized := by
  obtain ⟨entries, -, h⟩ := bind_eq_ok.mp h
  refine foldlM_invariant Categorized (fun _ _ _ => categorized_add) ?_ h
  intro c hc
  cases hc

theorem mem_catalogs_of_mem_searched {loaded : List String} {strict : Bool} {c : Catalog}
    (h : c ∈ v.core ++ v.active loaded ++ v.inactive loaded strict) : c ∈ v.catalogs := by
  rcases List.mem_append.mp h with h | h
  · rcases List.mem_append.mp h with h | h
    · exact (List.mem_filter.mp h).1
    · obtain ⟨h, -⟩ := List.mem_filter.mp h
      exact (List.mem_filter.mp h).1
  · unfold inactive at h
    split at h
    · cases h
    · obtain ⟨h, -⟩ := List.mem_filter.mp h
      exact (List.mem_filter.mp h).1

theorem Categorized.entity? (hv : v.Categorized) {keyword : String} {loaded : List String} {strict : Bool}
    {d : EntityDefinition} (h : v.entity? keyword loaded strict = some d) : d.category ∈ categories := by
  obtain ⟨c, hc, hget⟩ := List.exists_of_findSome?_eq_some h
  obtain ⟨_, hmem⟩ := Assoc.mem_of_get? hget
  exact hv c (mem_catalogs_of_mem_searched hc) _ hmem

/-- A keyword, known or not, stands for an entity of a known category. -/
theorem Categorized.typeOf (hv : v.Categorized) (keyword : String) (loaded : List String) (strict : Bool) :
    (v.typeOf keyword loaded strict).category ∈ categories := by
  simp only [Vocabulary.typeOf]
  split
  · simp [categories]
  · split
    · rename_i d hd
      exact hv.entity? hd
    · simp [categories]

theorem ofData_bundled : ofData (Catalog.Bundled.all.map Prod.snd) = .ok bundled := by
  have hbuilt : (ofData (Catalog.Bundled.all.map Prod.snd)).toOption.isSome = true := by decide +kernel
  obtain ⟨v, hv⟩ := toOption_isSome.mp hbuilt
  unfold bundled
  rw [hv]

end Vocabulary
end SceneScript
