import SceneScript.Proofs.Defects

/-!
Data as attribute values. Data of scalars and mappings of texts goes into values and comes back unchanged; other data
fails, if a null, a list or a value of another kind is reached in it through mappings, with the first of these.
-/

namespace SceneScript

namespace Data

/-! ### What is reached through mappings -/

/-- Induction over data, in a mapping over what its keys hold. Lists are not entered. -/
@[elab_as_elim]
theorem induction_entries {motive : Data → Prop} (null : motive .null) (scalar : ∀ s, motive (.scalar s))
    (list : ∀ items, motive (.list items)) (foreign : ∀ v, motive (.foreign v))
    (mapping : ∀ entries : Entries, (∀ e ∈ entries, motive e.2) → motive (.mapping entries)) : ∀ d, motive d
  | .null => null
  | .scalar s => scalar s
  | .list items => list items
  | .foreign v => foreign v
  | .mapping entries => mapping entries fun (k, d) h =>
    have hentry : 1 + sizeOf k + sizeOf d < sizeOf entries := List.sizeOf_lt_of_mem h
    have hless : sizeOf d < 1 + sizeOf entries := by omega
    induction_entries null scalar list foreign mapping d

mutual
/-- The data and all that is reached in it through mappings: depth first, in the order of keys. -/
def reached : Data → List Data
  | .null => [.null]
  | .scalar s => [.scalar s]
  | .list items => [.list items]
  | .foreign v => [.foreign v]
  | .mapping entries => .mapping entries :: reachedIn entries

def reachedIn : List (Option Scalar × Data) → List Data
  | [] => []
  | (_, d) :: rest => d.reached ++ reachedIn rest
end

theorem reachedIn_eq (entries : Entries) : reachedIn entries = entries.flatMap fun e => e.2.reached := by
  induction entries with
  | nil => rfl
  | cons e entries ih => rw [reachedIn, ih, List.flatMap_cons]

/-- From the one data the other is reached by going into mappings any number of times. -/
inductive Reaches : Data → Data → Prop where
  | refl (d : Data) : Reaches d d
  | entry {entries : Entries} {e : Key × Data} {x : Data} (hmem : e ∈ entries) (h : Reaches e.2 x) :
      Reaches (.mapping entries) x

theorem mem_reached {d x : Data} : x ∈ d.reached ↔ d.Reaches x := by
  induction d using induction_entries with
  | mapping entries ih =>
    rw [reached, reachedIn_eq, List.mem_cons, List.mem_flatMap]
    constructor
    · rintro (rfl | ⟨e, he, hx⟩)
      · exact .refl _
      · exact .entry he ((ih e he).mp hx)
    · intro h
      cases h with
      | refl => exact Or.inl rfl
      | @entry _ e _ he h => exact Or.inr ⟨e, he, (ih e he).mpr h⟩
  | _ =>
    refine List.mem_singleton.trans ⟨fun h => h ▸ .refl _, fun h => ?_⟩
    cases h
    rfl

/-- The data is null, a list or of another kind, which no attribute has for its value. -/
def isMisfit : Data → Bool
  | .null | .list _ | .foreign _ => true
  | .scalar _ | .mapping _ => false

theorem isMisfit_iff {d : Data} :
    d.isMisfit = true ↔ d = .null ∨ (∃ items, d = .list items) ∨ ∃ v, d = .foreign v := by
  cases d <;> simp [isMisfit]

/-- All that is reached and has no value. -/
def misfits (d : Data) : List Data := d.reached.filter isMisfit

theorem misfits_mapping (entries : Entries) : misfits (.mapping entries) = entries.flatMap fun e => e.2.misfits := by
  rw [misfits, reached, reachedIn_eq, List.filter_cons_of_neg Bool.false_ne_true, List.filter_flatMap]
  rfl

/-! ### Plain data -/

/-- Scalars, and mappings of distinct texts to plain data. -/
inductive Plain : Data → Prop where
  | scalar (s : Scalar) : Plain (.scalar s)
  | mapping {fields : List (String × Data)} (hkeys : (fields.map Prod.fst).Nodup) (h : ∀ f ∈ fields, Plain f.2) :
      Plain (.ofFields fields)

theorem Plain.exists_fields {entries : Entries} (h : (Data.mapping entries).Plain) :
    ∃ fields, Data.mapping entries = .ofFields fields := by
  generalize hd : Data.mapping entries = d at h
  cases h with
  | scalar s => cases hd
  | @mapping fields _ _ => exact ⟨fields, rfl⟩

end Data

namespace Value

/-! ### Values of data -/

/-- The value of an entry, under the text of its key. -/
def ofEntry (e : Key × Data) : Except Fault (String × Value) := (ofData e.2).map (e.1.toText, ·)

theorem ofEntries_eq (fields : List (String × Value)) (entries : Data.Entries) :
    ofEntries fields entries = (entries.mapM ofEntry).map (Assoc.merge fields) := by
  induction entries generalizing fields with
  | nil => rfl
  | cons e entries ih =>
    rw [ofEntries, List.mapM_cons, ofEntry]
    cases ofData e.2 with
    | error fault => rfl
    | ok v =>
      refine (ih _).trans ?_
      cases entries.mapM ofEntry <;> rfl

theorem failsFirst_ofData (d : Data) : FailsFirst (ofData d) (d.misfits.map .unusableValue) := by
  induction d using Data.induction_entries with
  | null => exact .error _
  | scalar s => exact .ok _
  | list items => exact .error _
  | foreign v => exact .error _
  | mapping entries ih =>
    rw [ofData, ofEntries_eq, Data.misfits_mapping, List.map_flatMap]
    -- All entries are read before any is set, so keys that read the same hide no fault.
    have hentries : FailsFirst (entries.mapM ofEntry) (entries.flatMap fun e => e.2.misfits.map .unusableValue) :=
      .mapM fun e he => (ih e he).map _
    exact (hentries.map _).map _

/-- The fault names the first misfit that is reached. -/
theorem ofData_eq_error_iff {d : Data} {fault : Fault} :
    ofData d = .error fault ↔ ∃ x, d.reached.find? Data.isMisfit = some x ∧ fault = .unusableValue x := by
  rw [failsFirst_ofData d fault, List.head?_map, Data.misfits, List.head?_filter, Option.map_eq_some_iff]
  simp only [eq_comm]

theorem exists_error_iff {d : Data} : (∃ fault, ofData d = .error fault) ↔ ∃ x, d.Reaches x ∧ x.isMisfit = true := by
  constructor
  · rintro ⟨fault, h⟩
    obtain ⟨x, hx, -⟩ := ofData_eq_error_iff.mp h
    exact ⟨x, Data.mem_reached.mp (List.mem_of_find?_eq_some hx), List.find?_some hx⟩
  · rintro ⟨x, hx, hmisfit⟩
    have hfound : (d.reached.find? Data.isMisfit).isSome = true :=
      List.find?_isSome.mpr ⟨x, Data.mem_reached.mpr hx, hmisfit⟩
    obtain ⟨first, hfirst⟩ := Option.isSome_iff_exists.mp hfound
    exact ⟨.unusableValue first, ofData_eq_error_iff.mpr ⟨first, hfirst, rfl⟩⟩

/-- The entries of a mapping of texts. -/
theorem exists_of_fields {fields : List (String × Data)} (h : ∀ f ∈ fields, ∃ v, ofData f.2 = .ok v ∧ v.toData = f.2) :
    ∃ read, (fields.map fun (k, d) => (some (.text k), d)).mapM ofEntry = .ok read ∧
      Data.mapping (toEntries read) = .ofFields fields ∧ Assoc.keys read = fields.map Prod.fst := by
  induction fields with
  | nil => exact ⟨[], rfl, rfl, rfl⟩
  | cons f fields ih =>
    obtain ⟨v, hv, hdata⟩ := h f List.mem_cons_self
    obtain ⟨read, hread, hentries, hkeys⟩ := ih fun f' hf' => h f' (List.mem_cons_of_mem f hf')
    refine ⟨(f.1, v) :: read, ?_, ?_, ?_⟩
    · have hentry : ofEntry (some (.text f.1), f.2) = .ok (f.1, v) := by
        rw [ofEntry, hv]
        rfl
      rw [List.map_cons, List.mapM_cons, hentry, hread]
      rfl
    · rw [toEntries, hdata, Data.mapping.inj hentries]
      rfl
    · exact congrArg (f.1 :: ·) hkeys

/-- Plain data has a value, which is that data again. -/
theorem ofData_of_plain {d : Data} (h : d.Plain) : ∃ v, ofData d = .ok v ∧ v.toData = d := by
  induction h with
  | scalar s => exact ⟨.scalar s, rfl, rfl⟩
  | @mapping fields hkeys _ ih =>
    obtain ⟨read, hread, hentries, hsame⟩ := exists_of_fields ih
    have hmerge : Assoc.merge [] read = read := Assoc.ofPairs_of_nodup (hsame ▸ hkeys)
    refine ⟨.record read, ?_, hentries⟩
    rw [Data.ofFields, ofData, ofEntries_eq, hread]
    exact congrArg (Except.ok ∘ record) hmerge

end Value

namespace Attributes

/-- Texts as keys are the names of attributes. -/
theorem ofEntries_of_fields {entries : Data.Entries} {fields : List (String × Data)}
    (h : Data.mapping entries = .ofFields fields) : ofEntries entries = Value.ofEntries [] entries := by
  cases h
  rw [ofEntries, List.map_map]
  rfl

theorem ofEntries_of_plain {entries : Data.Entries} (h : (Data.mapping entries).Plain) :
    ∃ attributes, ofEntries entries = .ok attributes ∧ toData attributes = .mapping entries := by
  obtain ⟨fields, hfields⟩ := h.exists_fields
  obtain ⟨v, hv, hdata⟩ := Value.ofData_of_plain h
  rw [ofEntries_of_fields hfields]
  obtain ⟨attributes, hattributes, rfl⟩ := map_eq_ok.mp hv
  exact ⟨attributes, hattributes, hdata⟩

end Attributes

end SceneScript
