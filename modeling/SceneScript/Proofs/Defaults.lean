import SceneScript.Proofs.Outcomes
import SceneScript.Vocabulary

/-!
Default attributes. Records of scalars and mappings always have attribute values; the bundled catalogs
hold no other defaults, so with them no drawing fails for its defaults.
-/

namespace SceneScript

namespace Data

mutual
/-- The data is made of scalars and mappings alone. -/
def usable : Data → Bool
  | .null => false
  | .scalar _ => true
  | .list _ => false
  | .mapping entries => usableEntries entries
  | .foreign _ => false

def usableEntries : List (Option Scalar × Data) → Bool
  | [] => true
  | (_, d) :: rest => usable d && usableEntries rest
end

theorem usableEntries_map (rename : Option Scalar → Option Scalar) (entries : List (Option Scalar × Data)) :
    usableEntries (entries.map fun (k, d) => (rename k, d)) = usableEntries entries := by
  induction entries with
  | nil => rfl
  | cons entry entries ih => rw [List.map_cons, usableEntries, usableEntries, ih]

end Data

namespace Value

mutual
theorem ofData_of_usable : ∀ {d : Data}, d.usable = true → ∃ v, ofData d = .ok v
  | .null, h => by cases h
  | .scalar s, _ => ⟨.scalar s, rfl⟩
  | .list _, h => by cases h
  | .foreign _, h => by cases h
  | .mapping entries, h => by
    have hentries : Data.usableEntries entries = true := h
    obtain ⟨fields, hfields⟩ := ofEntries_of_usable [] hentries
    exact ⟨.record fields, by rw [ofData, hfields]; rfl⟩

theorem ofEntries_of_usable (fields : List (String × Value)) :
    ∀ {entries : List (Option Scalar × Data)}, Data.usableEntries entries = true →
      ∃ fields', ofEntries fields entries = .ok fields'
  | [], _ => ⟨fields, rfl⟩
  | (k, d) :: rest, h => by
    simp only [Data.usableEntries, Bool.and_eq_true] at h
    obtain ⟨v, hv⟩ := ofData_of_usable h.1
    obtain ⟨fields', hfields'⟩ := ofEntries_of_usable (Assoc.set fields (Key.toText k) v) h.2
    exact ⟨fields', by rw [ofEntries, hv]; exact hfields'⟩
end

end Value

theorem Attributes.ofEntries_of_usable {entries : Data.Entries} (h : Data.usableEntries entries = true) :
    ∃ attributes, ofEntries entries = .ok attributes := by
  refine Value.ofEntries_of_usable [] ?_
  rw [Data.usableEntries_map fun k => some (.text (Json.memberName k)), h]

namespace Vocabulary

/-- Every default record of every catalog is usable. -/
def usable (v : Vocabulary) : Bool :=
  v.catalogs.all fun c => c.defaults.all (fun p => Data.usableEntries p.2) && Data.usableEntries c.fallback

theorem usableEntries_fallback {v : Vocabulary} (h : v.usable = true) :
    Data.usableEntries v.fallback = true := by
  unfold fallback
  cases hfound : (v.catalogs.map (·.fallback)).find? (!·.isEmpty) with
  | none => rfl
  | some entries =>
    obtain ⟨catalog, hmem, rfl⟩ := List.mem_map.mp (List.mem_of_find?_eq_some hfound)
    have hcatalog := List.all_eq_true.mp h catalog hmem
    exact (Bool.and_eq_true_iff.mp hcatalog).2

theorem usableEntries_defaultsFor {v : Vocabulary} (h : v.usable = true) (subtype : String) :
    Data.usableEntries (v.defaultsFor subtype) = true := by
  unfold defaultsFor
  cases hfound : v.catalogs.findSome? fun c => Assoc.get? c.defaults subtype with
  | none => exact usableEntries_fallback h
  | some entries =>
    obtain ⟨catalog, hmem, hget⟩ := List.exists_of_findSome?_eq_some hfound
    obtain ⟨_, hentries⟩ := Assoc.mem_of_get? hget
    have hcatalog := List.all_eq_true.mp h catalog hmem
    exact List.all_eq_true.mp (Bool.and_eq_true_iff.mp hcatalog).1 _ hentries

/-- With usable defaults every subtype has default attributes. -/
theorem attributesFor_of_usable {v : Vocabulary} (h : v.usable = true) (subtype : String) :
    ∃ attributes, v.attributesFor subtype = .ok attributes :=
  Attributes.ofEntries_of_usable (usableEntries_defaultsFor h subtype)

theorem usable_bundled : bundled.usable = true := by decide +kernel

end Vocabulary

end SceneScript
