import Mathlib.Data.List.Find
import Mathlib.Data.List.Nodup
import SceneScript.Proofs.Assembly
import SceneScript.Proofs.Catalogs

/-!
Which definition counts. A lookup goes through the listed definitions in an order of its own, in strict mode without
those of extensions that are not loaded, and takes the first of the name. So what it finds and what it misses is told by
the list; and the core wins among entities, loaded extensions among environments.
-/

namespace SceneScript

/-! ### Tables of definitions -/

namespace Assoc

variable {κ α : Type} [BEq κ] {m : List (κ × α)}

/-- In a table whose keys are the names of the values a key finds the first value of that name. -/
theorem get?_eq_find? {nameOf : α → κ} (h : ∀ p ∈ m, nameOf p.2 = p.1) (k : κ) :
    get? m k = (m.map Prod.snd).find? (nameOf · == k) := by
  induction m with
  | nil => rfl
  | cons p m ih =>
    rw [get?, List.map_cons, List.find?_cons, h p List.mem_cons_self, ih fun q hq => h q (List.mem_cons_of_mem p hq)]
    cases p.1 == k <;> rfl

end Assoc

/-- The table holds definitions by their distinct names, all of the extension that the catalog stands for. -/
structure Catalog.Holds {δ : Type} (catalog : String) (table : List (String × δ)) (nameOf : δ → String)
    (extension : δ → Option String) : Prop where
  nodup : (Assoc.keys table).Nodup
  name : ∀ p ∈ table, nameOf p.2 = p.1
  extension : ∀ p ∈ table, extension p.2 = Catalog.extensionOf catalog

theorem Catalog.holds_ofPairs {δ : Type} {catalog : String} {definitions : List δ} {nameOf : δ → String}
    {extension : δ → Option String} (h : ∀ d ∈ definitions, extension d = Catalog.extensionOf catalog) :
    Holds catalog (Assoc.ofPairs (definitions.map fun d => (nameOf d, d))) nameOf extension := by
  obtain ⟨hnodup, hmem⟩ := Assoc.ofPairs_sound (definitions.map fun d => (nameOf d, d))
  have hpair : ∀ p ∈ Assoc.ofPairs (definitions.map fun d => (nameOf d, d)), p.2 ∈ definitions ∧ nameOf p.2 = p.1 := by
    intro p hp
    obtain ⟨d, hd, rfl⟩ := List.mem_map.mp (hmem p hp)
    exact ⟨hd, rfl⟩
  exact ⟨hnodup, fun p hp => (hpair p hp).2, fun p hp => h p.2 (hpair p hp).1⟩

theorem Catalog.extension_of_entityOf {catalog : String} {key : Key} {d : Data} {e : EntityDefinition}
    (h : entityOf catalog key d = .ok e) : e.extension = extensionOf catalog := by
  obtain ⟨entry, -, h⟩ := bind_eq_ok.mp h
  obtain ⟨-, h⟩ := throwIf_eq_ok.mp h
  split at h
  · cases h
  · cases pure_eq_ok.mp h
    rfl

theorem Catalog.extension_of_environmentOf {catalog : String} {key : Key} {d : Data} {e : EnvironmentDefinition}
    (h : environmentOf catalog key d = .ok e) : e.extension = extensionOf catalog := by
  obtain ⟨_, -, h⟩ := bind_eq_ok.mp h
  obtain ⟨_, -, h⟩ := bind_eq_ok.mp h
  obtain ⟨_, -, h⟩ := bind_eq_ok.mp h
  cases pure_eq_ok.mp h
  rfl

theorem Catalog.holds_of_ofEntries {name : String} {entries : Data.Entries} {c : Catalog}
    (h : ofEntries name entries = .ok c) :
    Holds name c.entities (·.keyword) (·.extension) ∧ Holds name c.environments (·.name) (·.extension) := by
  obtain ⟨_, _, _, entities, environments, _, -, hentities, -, henvironments, -, -, rfl⟩ := ofEntries_eq_ok h
  constructor
  · refine holds_ofPairs fun d hd => ?_
    obtain ⟨p, -, hp⟩ := exists_of_mem_mapM hentities hd
    exact extension_of_entityOf hp
  · refine holds_ofPairs fun d hd => ?_
    obtain ⟨p, -, hp⟩ := exists_of_mem_mapM henvironments hd
    exact extension_of_environmentOf hp

namespace Vocabulary

variable {v : Vocabulary}

/-- The definitions of each catalog are held by their names. -/
theorem holds_of_ofData {catalogs : List Data} (h : ofData catalogs = .ok v) : ∀ c ∈ v.catalogs,
    Catalog.Holds c.name c.entities (·.keyword) (·.extension) ∧
      Catalog.Holds c.name c.environments (·.name) (·.extension) := by
  obtain ⟨read, rfl⟩ := exists_of_ofData h
  intro c hc
  obtain ⟨p, -, hp⟩ := exists_of_mem_forall₂ (catalogs_of_ofData h) hc
  have hread : Catalog.ofEntries p.1 p.2 = .ok c.bare := hp
  have hholds := Catalog.holds_of_ofEntries hread
  rw [hp.name_eq]
  exact hholds

/-! ### Lookups and lists -/

/-- Definitions of the extension can be seen in strict mode: those of the core, and of extensions loaded in any case. -/
def Seen (loaded : List String) (extension : Option String) : Prop :=
  extension = none ∨ ∃ name ∈ loaded, extension = some (Text.lower name)

/-- What the lookup of one name finds, with some extensions loaded and in either mode, is told by the listed
    definitions. -/
structure Agrees {δ : Type} (all : List δ) (named : δ → Prop) (extension : δ → Option String)
    (lookup : List String → Bool → Option δ) : Prop where
  mem : ∀ {loaded strict d}, lookup loaded strict = some d → d ∈ all ∧ named d
  lenient : ∀ loaded, lookup loaded false = none ↔ ∀ d ∈ all, ¬named d
  strict : ∀ loaded, lookup loaded true = none ↔ ∀ d ∈ all, named d → ¬Seen loaded (extension d)
  same : ∀ {loaded d}, lookup loaded true = some d → lookup loaded false = some d
  mono : ∀ {loaded more}, loaded ⊆ more → lookup loaded true ≠ none → lookup more true ≠ none

/-- A lookup that takes the first of its name agrees with the list, if it goes through all of the list, and in strict
    mode first through what can be seen and no further. -/
theorem Agrees.of_order {δ : Type} {all : List δ} {named : δ → Prop} [DecidablePred named]
    {extension : δ → Option String} {lookup : List String → Bool → Option δ} (seen others : List String → List δ)
    (hstrict : ∀ loaded, lookup loaded true = (seen loaded).find? fun d => named d)
    (hlenient : ∀ loaded, lookup loaded false = (seen loaded ++ others loaded).find? fun d => named d)
    (hseen : ∀ loaded d, d ∈ seen loaded ↔ d ∈ all ∧ Seen loaded (extension d))
    (hall : ∀ loaded d, d ∈ seen loaded ++ others loaded ↔ d ∈ all) : Agrees all named extension lookup := by
  have hnone : ∀ loaded, lookup loaded true = none ↔ ∀ d ∈ all, named d → ¬Seen loaded (extension d) := by
    intro loaded
    rw [hstrict, List.find?_eq_none]
    constructor
    · intro h d hd hnamed hsees
      exact h d ((hseen loaded d).mpr ⟨hd, hsees⟩) (decide_eq_true hnamed)
    · intro h d hd hnamed
      obtain ⟨hd, hsees⟩ := (hseen loaded d).mp hd
      exact h d hd (of_decide_eq_true hnamed) hsees
  refine ⟨?_, fun loaded => ?_, hnone, ?_, ?_⟩
  · intro loaded strict d h
    cases strict with
    | true =>
      rw [hstrict] at h
      obtain ⟨hd, -⟩ := (hseen loaded d).mp (List.mem_of_find?_eq_some h)
      have hnamed := List.find?_some h
      exact ⟨hd, of_decide_eq_true hnamed⟩
    | false =>
      rw [hlenient] at h
      have hnamed := List.find?_some h
      exact ⟨(hall loaded d).mp (List.mem_of_find?_eq_some h), of_decide_eq_true hnamed⟩
  · rw [hlenient, List.find?_eq_none]
    simp only [hall, decide_eq_true_eq]
  · intro loaded d h
    rw [hstrict] at h
    rw [hlenient, List.find?_append, h, Option.some_or]
  · intro loaded more hmore
    rw [Ne, Ne, hnone, hnone]
    refine mt fun h d hd hnamed hsees => h d hd hnamed ?_
    exact hsees.imp_right fun ⟨name, hname, heq⟩ => ⟨name, hmore hname, heq⟩

section
variable {δ : Type} {table : Catalog → List (String × δ)} {nameOf : δ → String} {extension : δ → Option String}

/-- The definitions of the catalogs by the table, in order. -/
def definitions (table : Catalog → List (String × δ)) (cs : List Catalog) : List δ :=
  cs.flatMap fun c => (table c).map Prod.snd

theorem mem_definitions_congr {cs cs' : List Catalog} (h : ∀ c, c ∈ cs ↔ c ∈ cs') {d : δ} :
    d ∈ definitions table cs ↔ d ∈ definitions table cs' := by
  simp only [definitions, List.mem_flatMap, h]

theorem findSome?_get? {cs : List Catalog} (h : ∀ c ∈ cs, Catalog.Holds c.name (table c) nameOf extension)
    (name : String) : (cs.findSome? fun c => Assoc.get? (table c) name) =
      (definitions table cs).find? fun d => nameOf d = name := by
  rw [definitions, List.find?_flatMap]
  induction cs with
  | nil => rfl
  | cons c cs ih =>
    rw [List.findSome?_cons, List.findSome?_cons, ih fun c' hc' => h c' (List.mem_cons_of_mem c hc'),
      Assoc.get?_eq_find? (h c List.mem_cons_self).name]
    rfl

theorem mem_core_or_active {loaded : List String} {c : Catalog} :
    c ∈ v.core ∨ c ∈ v.active loaded ↔ c ∈ v.catalogs ∧ Seen loaded (Catalog.extensionOf c.name) := by
  have hloaded : isLoaded loaded c = true ↔ ∃ name ∈ loaded, c.name = Text.lower name := by
    rw [isLoaded, List.contains_iff_mem, List.mem_map]
    exact exists_congr fun name => and_congr_right fun _ => eq_comm
  simp only [core, active, extensions, List.mem_filter, hloaded, Seen, Catalog.extensionOf]
  by_cases hname : c.name = coreName <;> simp [hname]

theorem mem_definitions_seen (h : ∀ c ∈ v.catalogs, Catalog.Holds c.name (table c) nameOf extension)
    {loaded : List String} {cs : List Catalog} (hcs : ∀ c, c ∈ cs ↔ c ∈ v.core ∨ c ∈ v.active loaded) {d : δ} :
    d ∈ definitions table cs ↔ d ∈ definitions table v.catalogs ∧ Seen loaded (extension d) := by
  simp only [definitions, List.mem_flatMap, List.mem_map]
  constructor
  · rintro ⟨c, hc, p, hp, rfl⟩
    obtain ⟨hc, hseen⟩ := mem_core_or_active.mp ((hcs c).mp hc)
    rw [(h c hc).extension p hp]
    exact ⟨⟨c, hc, p, hp, rfl⟩, hseen⟩
  · rintro ⟨⟨c, hc, p, hp, rfl⟩, hseen⟩
    rw [(h c hc).extension p hp] at hseen
    exact ⟨c, (hcs c).mpr (mem_core_or_active.mpr ⟨hc, hseen⟩), p, hp, rfl⟩

theorem mem_inactive {loaded : List String} {strict : Bool} {c : Catalog} (h : c ∈ v.inactive loaded strict) :
    c ∈ v.catalogs := by
  unfold inactive at h
  split at h
  · cases h
  · exact List.mem_of_mem_filter (List.mem_of_mem_filter h)

theorem mem_searched_iff (loaded : List String) (c : Catalog) :
    (c ∈ v.core ∨ c ∈ v.active loaded) ∨ c ∈ v.inactive loaded false ↔ c ∈ v.catalogs := by
  constructor
  · rintro (h | h)
    · exact (mem_core_or_active.mp h).1
    · exact mem_inactive h
  · intro h
    simp only [core, active, inactive, extensions, List.mem_filter, Bool.false_eq_true, ↓reduceIte]
    by_cases hname : c.name = coreName
    · simp [h, hname]
    · cases hloaded : isLoaded loaded c <;> simp [h, hname]

/-- A lookup that goes through the core and the loaded extensions, in one order or the other, and then through the other
    extensions agrees with the list of all definitions. -/
theorem agrees_of_searched (h : ∀ c ∈ v.catalogs, Catalog.Holds c.name (table c) nameOf extension)
    {lookup : List String → Bool → Option δ} {name : String} (first : List String → List Catalog)
    (hfirst : ∀ loaded c, c ∈ first loaded ↔ c ∈ v.core ∨ c ∈ v.active loaded)
    (hlookup : ∀ loaded strict, lookup loaded strict =
      (first loaded ++ v.inactive loaded strict).findSome? fun c => Assoc.get? (table c) name) :
    Agrees (definitions table v.catalogs) (fun d => nameOf d = name) extension lookup := by
  have hfound : ∀ loaded strict, lookup loaded strict =
      (definitions table (first loaded ++ v.inactive loaded strict)).find? fun d => nameOf d = name := by
    intro loaded strict
    rw [hlookup]
    refine findSome?_get? (fun c hc => h c ?_) name
    rcases List.mem_append.mp hc with hc | hc
    · exact (mem_core_or_active.mp ((hfirst loaded c).mp hc)).1
    · exact mem_inactive hc
  refine Agrees.of_order (fun loaded => definitions table (first loaded))
    (fun loaded => definitions table (v.inactive loaded false)) (fun loaded => ?_) (fun loaded => ?_)
    (fun loaded d => mem_definitions_seen h (hfirst loaded)) fun loaded d => ?_
  · rw [hfound, inactive, if_pos rfl, List.append_nil]
  · rw [hfound, definitions, List.flatMap_append]
    rfl
  · have hall : ∀ c, c ∈ first loaded ++ v.inactive loaded false ↔ c ∈ v.catalogs := by
      intro c
      rw [List.mem_append, hfirst, mem_searched_iff]
    rw [← mem_definitions_congr hall, definitions, definitions, definitions, List.flatMap_append]

/-- Among the catalogs of one sort the first definition of a name is the first in the list that is of that sort too. -/
theorem find?_definitions_filter {cs : List Catalog} {r : Catalog → Bool} (named q : δ → Prop) [DecidablePred named]
    [DecidablePred q] (hq : ∀ c ∈ cs, ∀ p ∈ table c, q p.2 ↔ r c = true) :
    ((definitions table (cs.filter r)).find? fun d => named d) =
      (definitions table cs).find? fun d => named d ∧ q d := by
  induction cs with
  | nil => rfl
  | cons c cs ih =>
    have hrest := ih fun c' hc' => hq c' (List.mem_cons_of_mem c hc')
    have hcons : definitions table (c :: cs) = (table c).map Prod.snd ++ definitions table cs := rfl
    rw [hcons, List.find?_append, List.filter_cons]
    cases hr : r c with
    | true =>
      have hkept : definitions table (c :: cs.filter r) =
          (table c).map Prod.snd ++ definitions table (cs.filter r) := rfl
      have hsame : (((table c).map Prod.snd).find? fun d => named d) =
          ((table c).map Prod.snd).find? fun d => named d ∧ q d := by
        refine List.find?_congr fun d hd => ?_
        obtain ⟨p, hp, rfl⟩ := List.mem_map.mp hd
        simp [(hq c List.mem_cons_self p hp).mpr hr]
      rw [if_pos rfl, hkept, List.find?_append, hrest, hsame]
    | false =>
      have hnone : (((table c).map Prod.snd).find? fun d => named d ∧ q d) = none := by
        refine List.find?_eq_none.mpr fun d hd => ?_
        obtain ⟨p, hp, rfl⟩ := List.mem_map.mp hd
        have hnot := mt (hq c List.mem_cons_self p hp).mp (by simp [hr])
        simp [hnot]
      rw [if_neg Bool.false_ne_true, hrest, hnone, Option.none_or]

end

/-! ### The core and loaded extensions -/

variable {loaded : List String} {strict : Bool}

/-- What the core defines under a keyword counts, whatever else does. -/
theorem entity?_of_core {catalogs : List Data} (h : ofData catalogs = .ok v) {keyword : String} {d : EntityDefinition}
    (hd : d ∈ v.entityTypes none) (hcore : d.extension = none) (hname : d.keyword = Text.upper keyword) :
    v.entity? keyword loaded strict = some d := by
  obtain ⟨c, hc, hmem⟩ := List.mem_flatMap.mp hd
  obtain ⟨p, hp, rfl⟩ := List.mem_map.mp hmem
  obtain ⟨hholds, -⟩ := holds_of_ofData h c hc
  have hcoreName : c.name = coreName := by
    rw [hholds.extension p hp, Catalog.extensionOf] at hcore
    by_contra hne
    rw [if_neg hne] at hcore
    cases hcore
  -- There is one core, so it is the first to be searched.
  have hfirst : ∃ rest, v.core = c :: rest := by
    have hmem : c ∈ v.core := List.mem_filter.mpr ⟨hc, beq_iff_eq.mpr hcoreName⟩
    obtain ⟨c', rest, hcons⟩ := List.exists_cons_of_ne_nil (List.ne_nil_of_mem hmem)
    obtain ⟨hc', hname'⟩ := List.mem_filter.mp (hcons ▸ List.mem_cons_self : c' ∈ v.core)
    have hsame : c' = c :=
      List.inj_on_of_nodup_map (nodup_names h) hc' hc ((beq_iff_eq.mp hname').trans hcoreName.symm)
    exact ⟨rest, hsame ▸ hcons⟩
  obtain ⟨rest, hrest⟩ := hfirst
  have hkey : p.1 = Text.upper keyword := by rw [← hname, ← hholds.name p hp]
  have hget : Assoc.get? c.entities (Text.upper keyword) = some p.2 := hkey ▸ Assoc.get?_of_mem hholds.nodup hp
  rw [entity?, hrest, List.cons_append, List.cons_append, List.findSome?_cons, hget]

/-- The first environment of a name that a loaded extension defines counts, whatever else does. -/
theorem environment?_of_loaded {catalogs : List Data} (h : ofData catalogs = .ok v) {name : String}
    {d : EnvironmentDefinition} (hd : ((v.environments none).find? fun d =>
      d.name = Text.lower name ∧ ∃ e ∈ loaded, d.extension = some (Text.lower e)) = some d) :
    v.environment? name loaded strict = some d := by
  have hholds : ∀ c ∈ v.catalogs, Catalog.Holds c.name c.environments (·.name) (·.extension) :=
    fun c hc => (holds_of_ofData h c hc).2
  have hactive : v.active loaded = v.catalogs.filter fun c => isLoaded loaded c && c.name != coreName :=
    List.filter_filter
  have hloaded : ∀ c ∈ v.catalogs, ∀ p ∈ c.environments,
      (∃ e ∈ loaded, p.2.extension = some (Text.lower e)) ↔ (isLoaded loaded c && c.name != coreName) = true := by
    intro c hc p hp
    rw [(hholds c hc).extension p hp, Catalog.extensionOf, isLoaded, Bool.and_eq_true, List.contains_iff_mem,
      List.mem_map, bne_iff_ne]
    by_cases hcore : c.name = coreName <;> simp [hcore, eq_comm]
  have hfiltered : ((definitions Catalog.environments (v.active loaded)).find? fun d => d.name = Text.lower name) =
      (v.environments none).find? fun d => d.name = Text.lower name ∧
        ∃ e ∈ loaded, d.extension = some (Text.lower e) := by
    rw [hactive]
    exact find?_definitions_filter (fun d : EnvironmentDefinition => d.name = Text.lower name)
      (fun d => ∃ e ∈ loaded, d.extension = some (Text.lower e)) hloaded
  have hfirst : ((v.active loaded).findSome? fun c => Assoc.get? c.environments (Text.lower name)) = some d := by
    rw [← hd, ← hfiltered]
    exact findSome?_get? (fun c hc => hholds c (mem_core_or_active.mp (Or.inr hc)).1) (Text.lower name)
  rw [environment?, List.append_assoc, List.findSome?_append, hfirst, Option.some_or]

/-- Lookups and lists agree, for entities and environments alike: what a lookup finds is listed under the name in its
    case; it misses what is not listed, in strict mode also what is listed only under extensions that are not loaded;
    strict mode finds nothing else, and loading more hides nothing from it. A keyword of the core has its meaning there,
    and an environment that loaded extensions define has the first of their meanings. -/
theorem lookups_agree {catalogs : List Data} (h : ofData catalogs = .ok v) (keyword name : String) :
    Agrees (v.entityTypes none) (fun d => d.keyword = Text.upper keyword) (·.extension) (v.entity? keyword) ∧
      Agrees (v.environments none) (fun d => d.name = Text.lower name) (·.extension) (v.environment? name) ∧
      (∀ d ∈ v.entityTypes none, d.extension = none → d.keyword = Text.upper keyword →
        ∀ loaded strict, v.entity? keyword loaded strict = some d) ∧
      ∀ loaded strict, (∃ d ∈ v.environments none, d.name = Text.lower name ∧
          ∃ e ∈ loaded, d.extension = some (Text.lower e)) →
        ∃ d, v.environment? name loaded strict = some d ∧ (∃ e ∈ loaded, d.extension = some (Text.lower e)) ∧
          (v.environments none).find? (fun d => d.name = Text.lower name ∧
            ∃ e ∈ loaded, d.extension = some (Text.lower e)) = some d := by
  have hentities : ∀ c ∈ v.catalogs, Catalog.Holds c.name c.entities (·.keyword) (·.extension) :=
    fun c hc => (holds_of_ofData h c hc).1
  have henvironments : ∀ c ∈ v.catalogs, Catalog.Holds c.name c.environments (·.name) (·.extension) :=
    fun c hc => (holds_of_ofData h c hc).2
  refine ⟨?_, ?_, fun d hd hcore hname loaded strict => entity?_of_core h hd hcore hname, fun loaded strict hsome => ?_⟩
  · exact agrees_of_searched hentities (fun loaded => v.core ++ v.active loaded)
      (fun _ _ => List.mem_append) fun _ _ => rfl
  · exact agrees_of_searched henvironments (fun loaded => v.active loaded ++ v.core)
      (fun _ _ => List.mem_append.trans or_comm) fun _ _ => rfl
  · obtain ⟨e, he, hname, hloaded⟩ := hsome
    have hlisted : ((v.environments none).find? fun d => d.name = Text.lower name ∧
        ∃ e ∈ loaded, d.extension = some (Text.lower e)).isSome = true :=
      List.find?_isSome.mpr ⟨e, he, decide_eq_true ⟨hname, hloaded⟩⟩
    obtain ⟨d, hd⟩ := Option.isSome_iff_exists.mp hlisted
    have hfirst := List.find?_some hd
    exact ⟨d, environment?_of_loaded h hd, (of_decide_eq_true hfirst).2, hd⟩

/-- The hospital of the core is hidden by that of an extension, and barracks are not seen in strict mode. -/
theorem lookups_agree_bundled :
    bundled.environment? "barracks" ["hospital"] true = none ∧
      ∀ strict, ∃ d, bundled.environment? "Hospital" ["HOSPITAL"] strict = some d ∧ d.extension = some "hospital" := by
  obtain ⟨-, hagree, -⟩ := lookups_agree ofData_bundled "" "barracks"
  obtain ⟨-, -, -, hhides⟩ := lookups_agree ofData_bundled "" "Hospital"
  refine ⟨(hagree.strict ["hospital"]).mpr ?_, fun strict => ?_⟩
  · have hbarracks : (bundled.environments none).all (fun d =>
        d.name ≠ Text.lower "barracks" || d.extension == some "military") = true := by
      decide +kernel
    intro d hd hname hseen
    have hmilitary := List.all_eq_true.mp hbarracks d hd
    simp only [hname, ne_eq, not_true_eq_false, decide_false, Bool.false_or, beq_iff_eq] at hmilitary
    rw [hmilitary] at hseen
    rcases hseen with hnone | ⟨e, he, hsome⟩
    · cases hnone
    · rw [List.mem_singleton.mp he] at hsome
      revert hsome
      decide
  · obtain ⟨d, hd, ⟨e, he, hextension⟩, -⟩ := hhides ["HOSPITAL"] strict (by decide +kernel)
    refine ⟨d, hd, ?_⟩
    rw [hextension, List.mem_singleton.mp he]
    decide

end Vocabulary
end SceneScript
