import SceneScript.Proofs.Assembly

/-!
The place of the core among catalogs. A catalog that is spelled as the core is read first, so it may stand anywhere. One
that has the name in another case is the core as well, but it is read where it stands: lookups still do not depend on
that, while lists and the default attributes of subtypes follow the order.
-/

namespace SceneScript

namespace Vocabulary

variable {v v' : Vocabulary}

/-! ### What lookups read -/

/-- The vocabulary without fallback attributes. -/
def bare (v : Vocabulary) : Vocabulary := { catalogs := v.catalogs.map Catalog.bare }

theorem core_bare (v : Vocabulary) : v.bare.core = v.core.map Catalog.bare := List.filter_map

theorem extensions_bare (v : Vocabulary) : v.bare.extensions = v.extensions.map Catalog.bare := List.filter_map

theorem listed_bare (v : Vocabulary) (name : String) :
    v.bare.listed (some name) = (v.listed (some name)).map Catalog.bare := List.filter_map

theorem active_bare (v : Vocabulary) (loaded : List String) :
    v.bare.active loaded = (v.active loaded).map Catalog.bare := by
  rw [active, extensions_bare, List.filter_map]
  rfl

theorem inactive_bare (v : Vocabulary) (loaded : List String) (strict : Bool) :
    v.bare.inactive loaded strict = (v.inactive loaded strict).map Catalog.bare := by
  rw [inactive, inactive, extensions_bare, List.filter_map]
  cases strict <;> rfl

theorem entity?_bare (v : Vocabulary) (keyword : String) (loaded : List String) (strict : Bool) :
    v.bare.entity? keyword loaded strict = v.entity? keyword loaded strict := by
  rw [entity?, entity?, core_bare, active_bare, inactive_bare, ← List.map_append, ← List.map_append, List.findSome?_map]
  rfl

theorem environment?_bare (v : Vocabulary) (name : String) (loaded : List String) (strict : Bool) :
    v.bare.environment? name loaded strict = v.environment? name loaded strict := by
  rw [environment?, environment?, core_bare, active_bare, inactive_bare, ← List.map_append, ← List.map_append,
    List.findSome?_map]
  rfl

theorem entityTypes_bare (v : Vocabulary) (name : String) :
    v.bare.entityTypes (some name) = v.entityTypes (some name) := by
  rw [entityTypes, entityTypes, listed_bare, List.flatMap_map]
  rfl

theorem environments_bare (v : Vocabulary) (name : String) :
    v.bare.environments (some name) = v.environments (some name) := by
  rw [environments, environments, listed_bare, List.flatMap_map]
  rfl

/-- What is listed of one catalog is that of the core or of an extension. -/
theorem listed_eq (v : Vocabulary) (name : String) :
    v.listed (some name) = (v.core ++ v.extensions).filter (·.name == Text.lower name) := by
  rw [listed, core, extensions, List.filter_append, List.filter_filter, List.filter_filter]
  by_cases hname : Text.lower name = coreName
  · have hcore : ∀ c ∈ v.catalogs, (c.name == Text.lower name && c.name == coreName) = (c.name == Text.lower name) := by
      intro c _
      rw [hname, Bool.and_self]
    have hnone : v.catalogs.filter (fun c => c.name == Text.lower name && c.name != coreName) = [] := by
      refine List.filter_eq_nil_iff.mpr fun c _ => ?_
      simp [hname]
    rw [List.filter_congr hcore, hnone, List.append_nil]
  · have hnone : v.catalogs.filter (fun c => c.name == Text.lower name && c.name == coreName) = [] := by
      refine List.filter_eq_nil_iff.mpr fun c _ hboth => ?_
      simp only [Bool.and_eq_true, beq_iff_eq] at hboth
      exact hname (hboth.1.symm.trans hboth.2)
    have hothers : ∀ c ∈ v.catalogs,
        (c.name == Text.lower name && c.name != coreName) = (c.name == Text.lower name) := by
      intro c _
      by_cases hc : c.name = Text.lower name <;> simp [hc, hname]
    rw [hnone, List.filter_congr hothers, List.nil_append]

/-- All lookups give the same in the two vocabularies, and so do the names of their extensions and what is listed of
    single catalogs. -/
structure LooksUpAs (v v' : Vocabulary) : Prop where
  extensionNames : v'.extensionNames = v.extensionNames
  entity? : ∀ keyword loaded strict, v'.entity? keyword loaded strict = v.entity? keyword loaded strict
  environment? : ∀ name loaded strict, v'.environment? name loaded strict = v.environment? name loaded strict
  entityTypes : ∀ name, v'.entityTypes (some name) = v.entityTypes (some name)
  environments : ∀ name, v'.environments (some name) = v.environments (some name)

/-- Lookups read the core and the extensions apart, and no fallback attributes. -/
theorem LooksUpAs.of_bare (hcore : v'.bare.core = v.bare.core) (hextensions : v'.bare.extensions = v.bare.extensions) :
    v.LooksUpAs v' where
  extensionNames := by
    have hnames : ∀ v : Vocabulary, v.extensionNames = v.bare.extensionNames := by
      intro v
      rw [Vocabulary.extensionNames, Vocabulary.extensionNames, extensions_bare, List.map_map]
      rfl
    rw [hnames v, hnames v', Vocabulary.extensionNames, Vocabulary.extensionNames, hextensions]
  entity? keyword loaded strict := by
    rw [← entity?_bare, ← entity?_bare v]
    simp only [Vocabulary.entity?, active, inactive, hcore, hextensions]
  environment? name loaded strict := by
    rw [← environment?_bare, ← environment?_bare v]
    simp only [Vocabulary.environment?, active, inactive, hcore, hextensions]
  entityTypes name := by
    rw [← entityTypes_bare, ← entityTypes_bare v]
    simp only [Vocabulary.entityTypes, listed_eq, hcore, hextensions]
  environments name := by
    rw [← environments_bare, ← environments_bare v]
    simp only [Vocabulary.environments, listed_eq, hcore, hextensions]

/-! ### Where the core is read -/

variable {core : Data.Entries} {before after before' after' front back : List Data.Entries} {taken taken' : List String}

theorem nameOf_of_isCore {entries : Data.Entries} (h : isCore entries = true) :
    Catalog.nameOf entries = .ok coreName := by
  unfold isCore at h
  split at h
  · rename_i name hname
    have hlower : Text.lower coreName = coreName := by decide
    have hempty : coreName.isEmpty = false := by decide
    have htext : ((entries.field? "name").map Data.toText).getD "" = name := by rw [hname]; rfl
    simp only [Catalog.nameOf, htext, beq_iff_eq.mp h, hlower, hempty, Bool.false_eq_true, ↓reduceIte]
  · cases h

theorem readingOrder_eq (hothers : ∀ entries ∈ before ++ after, Catalog.nameOf entries ≠ .ok coreName) :
    readingOrder (before ++ core :: after) =
      if isCore core then core :: (before ++ after) else before ++ core :: after := by
  have hplain : ∀ entries ∈ before ++ after, isCore entries = false := by
    intro entries hentries
    exact (Bool.not_eq_true _).mp (mt nameOf_of_isCore (hothers entries hentries))
  have hbefore : ∀ entries ∈ before, isCore entries = false :=
    fun entries h => hplain entries (List.mem_append_left _ h)
  have hafter : ∀ entries ∈ after, isCore entries = false :=
    fun entries h => hplain entries (List.mem_append_right _ h)
  have hnone : ∀ {l : List Data.Entries}, (∀ entries ∈ l, isCore entries = false) →
      l.filter isCore = [] ∧ l.filter (!isCore ·) = l := by
    intro l hl
    exact ⟨List.filter_eq_nil_iff.mpr fun entries h => by simp [hl entries h],
      List.filter_eq_self.mpr fun entries h => by simp [hl entries h]⟩
  rw [readingOrder, List.filter_append, List.filter_append, (hnone hbefore).1, (hnone hbefore).2, List.nil_append]
  cases hcore : isCore core with
  | true => simp [hcore, hnone hafter]
  | false => simp [hcore, hnone hafter]

theorem firsts_append (taken : List String) (front back : List Data.Entries) : firsts taken (front ++ back) =
    firsts taken front ++ firsts (taken ++ (firsts taken front).map Prod.fst) back := by
  induction front generalizing taken with
  | nil => rw [firsts, List.map_nil, List.append_nil]; rfl
  | cons entries front ih =>
    cases hname : Catalog.nameOf entries with
    | error e => rw [List.cons_append, firsts_cons_error hname, firsts_cons_error hname, ih]
    | ok name =>
      rw [List.cons_append, firsts_cons hname, firsts_cons hname]
      split
      · exact ih taken
      · rw [ih, List.cons_append, List.map_cons, List.append_assoc]
        rfl

/-- Names that no catalog has may be taken or not. -/
theorem firsts_congr {order : List Data.Entries}
    (h : ∀ entries ∈ order, ∀ name, Catalog.nameOf entries = .ok name → (name ∈ taken ↔ name ∈ taken')) :
    firsts taken order = firsts taken' order := by
  induction order generalizing taken taken' with
  | nil => rfl
  | cons entries order ih =>
    have hrest := fun entries' hentries' => h entries' (List.mem_cons_of_mem entries hentries')
    cases hname : Catalog.nameOf entries with
    | error e => rw [firsts_cons_error hname, firsts_cons_error hname, ih hrest]
    | ok name =>
      have hmore : firsts (taken ++ [name]) order = firsts (taken' ++ [name]) order := by
        refine ih fun entries' hentries' name' hname' => ?_
        rw [List.mem_append, List.mem_append, hrest entries' hentries' name' hname']
      rw [firsts_cons hname, firsts_cons hname, ih hrest, hmore]
      simp only [h entries List.mem_cons_self name hname]

/-- The only core is one of the first catalogs, and the others are the same without it. -/
theorem firsts_core (hcore : Catalog.nameOf core = .ok coreName)
    (hothers : ∀ entries ∈ front ++ back, Catalog.nameOf entries ≠ .ok coreName) :
    ∃ later, firsts [] (front ++ core :: back) = firsts [] front ++ (coreName, core) :: later ∧
      firsts [] (front ++ back) = firsts [] front ++ later := by
  have hnew : coreName ∉ [] ++ (firsts [] front).map Prod.fst := by
    intro hmem
    obtain ⟨p, hp, hname⟩ := List.mem_map.mp (List.nil_append _ ▸ hmem)
    obtain ⟨-, hread, hmem⟩ := notMem_of_mem_firsts hp
    exact hothers p.2 (List.mem_append_left back hmem) (hname ▸ hread)
  refine ⟨firsts ([] ++ (firsts [] front).map Prod.fst ++ [coreName]) back, ?_, ?_⟩
  · rw [firsts_append, firsts_cons hcore, if_neg hnew]
  · rw [firsts_append]
    refine congrArg (firsts [] front ++ ·) (firsts_congr fun entries hentries name hname => ?_)
    have hne : name ≠ coreName := fun heq => hothers entries (List.mem_append_right front hentries) (heq ▸ hname)
    simp [hne]

theorem forall₂_append {ps qs : List (String × Data.Entries)} {cs : List Catalog}
    (h : List.Forall₂ ReadFrom (ps ++ qs) cs) :
    ∃ earlier later, cs = earlier ++ later ∧ List.Forall₂ ReadFrom ps earlier ∧ List.Forall₂ ReadFrom qs later := by
  induction ps generalizing cs with
  | nil => exact ⟨[], cs, rfl, .nil, h⟩
  | cons p ps ih =>
    cases h with
    | @cons _ c _ cs hc h =>
      obtain ⟨earlier, later, rfl, hearlier, hlater⟩ := ih h
      exact ⟨c :: earlier, later, rfl, .cons hc hearlier, hlater⟩

theorem map_bare_of_forall₂ {ps : List (String × Data.Entries)} {cs cs' : List Catalog}
    (h : List.Forall₂ ReadFrom ps cs) (h' : List.Forall₂ ReadFrom ps cs') :
    cs.map Catalog.bare = cs'.map Catalog.bare := by
  induction h generalizing cs' with
  | nil =>
    cases h'
    rfl
  | cons hc _ ih =>
    cases h' with
    | cons hc' h' => rw [List.map_cons, List.map_cons, hc.bare_inj hc', ih h']

/-- The core is read where it stands among the others, or before them if it is spelled so; the others are read as if it
    were not there. -/
theorem core_stands (hcore : Catalog.nameOf core = .ok coreName)
    (hothers : ∀ entries ∈ before ++ after, Catalog.nameOf entries ≠ .ok coreName)
    (h : ofData ((before ++ core :: after).map .mapping) = .ok v) :
    ∃ earlier c later, v.catalogs = earlier ++ c :: later ∧ v.core = [c] ∧ v.extensions = earlier ++ later ∧
      ReadFrom (coreName, core) c ∧ List.Forall₂ ReadFrom (firsts [] (before ++ after)) (earlier ++ later) ∧
      earlier.map (·.name) = if isCore core then [] else (firsts [] before).map Prod.fst := by
  obtain ⟨front, back, horder, hsame, hfront⟩ : ∃ front back,
      readingOrder (before ++ core :: after) = front ++ core :: back ∧ front ++ back = before ++ after ∧
        front = if isCore core then [] else before := by
    rw [readingOrder_eq hothers]
    cases isCore core with
    | true => exact ⟨[], before ++ after, rfl, rfl, rfl⟩
    | false => exact ⟨before, after, rfl, rfl, rfl⟩
  obtain ⟨later, hfirsts, hrest⟩ := firsts_core hcore (hsame ▸ hothers)
  have hread := catalogs_of_ofData h
  rw [horder, hfirsts] at hread
  obtain ⟨earlier, others, hcatalogs, hearlier, hread⟩ := forall₂_append hread
  cases hread with
  | @cons _ c _ later' hc hlater =>
    have hall : List.Forall₂ ReadFrom (firsts [] (before ++ after)) (earlier ++ later') := by
      rw [← hsame, hrest]
      exact List.rel_append hearlier hlater
    have hnames : ∀ c' ∈ earlier ++ later', c'.name ≠ coreName := by
      intro c' hc'
      obtain ⟨p, hp, hread⟩ := exists_of_mem_forall₂ hall hc'
      obtain ⟨-, hname, hmem⟩ := notMem_of_mem_firsts hp
      rw [hread.name_eq]
      exact fun heq => hothers p.2 hmem (heq ▸ hname)
    have hname : c.name = coreName := hc.name_eq
    have hfilter : ∀ cs : List Catalog, (∀ c' ∈ cs, c'.name ≠ coreName) →
        cs.filter (·.name == coreName) = [] ∧ cs.filter (·.name != coreName) = cs := by
      intro cs hcs
      exact ⟨List.filter_eq_nil_iff.mpr fun c' hc' => by simpa using hcs c' hc',
        List.filter_eq_self.mpr fun c' hc' => by simpa using hcs c' hc'⟩
    obtain ⟨hearlierNone, hearlierAll⟩ := hfilter earlier fun c' hc' => hnames c' (List.mem_append_left _ hc')
    obtain ⟨hlaterNone, hlaterAll⟩ := hfilter later' fun c' hc' => hnames c' (List.mem_append_right _ hc')
    refine ⟨earlier, c, later', hcatalogs, ?_, ?_, hc, hall, ?_⟩
    · simp [Vocabulary.core, hcatalogs, hname, hearlierNone, hlaterNone]
    · simp [Vocabulary.extensions, hcatalogs, hname, hearlierAll, hlaterAll]
    · rw [names_of_forall₂ hearlier, hfront]
      cases isCore core <;> rfl

/-- Moving the only core to another place among the others makes no difference if it is spelled so. If it has the name
    in another case, lookups still give the same, and so does what is listed of single catalogs; but the core is read,
    and listed, behind the catalogs in front of it. -/
theorem ofData_moved (hsame : before' ++ after' = before ++ after) (hcore : Catalog.nameOf core = .ok coreName)
    (hothers : ∀ entries ∈ before ++ after, Catalog.nameOf entries ≠ .ok coreName)
    (h : ofData ((before ++ core :: after).map .mapping) = .ok v) :
    (isCore core = true → ofData ((before' ++ core :: after').map .mapping) = .ok v) ∧
      (∀ v', ofData ((before' ++ core :: after').map .mapping) = .ok v' → v.LooksUpAs v') ∧
      ∃ earlier later, v.catalogs = earlier ++ v.core ++ later ∧ v.extensions = earlier ++ later ∧
        earlier.map (·.name) = if isCore core then [] else (firsts [] before).map Prod.fst := by
  refine ⟨fun hspelled => ?_, fun v' h' => ?_, ?_⟩
  · have horder : readingOrder (before ++ core :: after) = _ := readingOrder_eq hothers
    have horder' : readingOrder (before' ++ core :: after') = _ := readingOrder_eq (hsame ▸ hothers)
    rw [if_pos hspelled] at horder horder'
    rw [← h, ofData_mappings, ofData_mappings, horder, horder', hsame]
  · obtain ⟨_, c, _, -, hc, hextensions, hread, hall, -⟩ := core_stands hcore hothers h
    obtain ⟨_, c', _, -, hc', hextensions', hread', hall', -⟩ := core_stands hcore (hsame ▸ hothers) h'
    rw [hsame] at hall'
    refine .of_bare ?_ ?_
    · rw [core_bare, core_bare, hc, hc', List.map_singleton, List.map_singleton, hread'.bare_inj hread]
    · rw [extensions_bare, extensions_bare, hextensions, hextensions', map_bare_of_forall₂ hall' hall]
  · obtain ⟨earlier, c, later, hcatalogs, hc, hextensions, -, -, hnames⟩ := core_stands hcore hothers h
    exact ⟨earlier, later, by rw [hcatalogs, hc, List.append_assoc]; rfl, hextensions, hnames⟩

/-- A core in another case, behind an extension and in front of it: lookups give the same, and the lists differ. -/
theorem ofData_moved_capital :
    let ext : Data.Entries := [(some (.text "name"), .text "ext"),
      (some (.text "entities"), .ofFields [("A", .ofFields [("subtype", .text "a")])])]
    let core : Data.Entries := [(some (.text "name"), .text "Core"),
      (some (.text "entities"), .ofFields [("B", .ofFields [("subtype", .text "b")])])]
    ∃ v v', ofData [.mapping ext, .mapping core] = .ok v ∧ ofData [.mapping core, .mapping ext] = .ok v' ∧
      v.LooksUpAs v' ∧ (v.entityTypes none).map (·.keyword) = ["A", "B"] ∧
      (v'.entityTypes none).map (·.keyword) = ["B", "A"] := by
  intro ext core
  have hbehind : (ofData [.mapping ext, .mapping core]).toOption.map (fun v => (v.entityTypes none).map (·.keyword)) =
      some ["A", "B"] := by
    decide +kernel
  have hfront : (ofData [.mapping core, .mapping ext]).toOption.map (fun v => (v.entityTypes none).map (·.keyword)) =
      some ["B", "A"] := by
    decide +kernel
  obtain ⟨v, hv, hlisted⟩ := toOption_map_eq_some.mp hbehind
  obtain ⟨v', hv', hlisted'⟩ := toOption_map_eq_some.mp hfront
  have hnames : ((Catalog.nameOf ext).toOption.map id = some "ext") ∧
      ((Catalog.nameOf core).toOption.map id = some coreName) := by
    decide +kernel
  obtain ⟨_, hext, rfl⟩ := toOption_map_eq_some.mp hnames.1
  obtain ⟨_, hcore, heq⟩ := toOption_map_eq_some.mp hnames.2
  have hothers : ∀ entries ∈ [ext] ++ [], Catalog.nameOf entries ≠ .ok coreName := by
    intro entries hentries heq
    rw [List.mem_singleton.mp hentries, hext] at heq
    exact absurd (Except.ok.inj heq) (by decide)
  have hsame : [] ++ [ext] = [ext] ++ [] := rfl
  obtain ⟨-, hlooks, -⟩ := ofData_moved hsame (heq ▸ hcore) hothers hv
  exact ⟨v, v', hv, hv', hlooks v' hv', hlisted, hlisted'⟩

end Vocabulary
end SceneScript
