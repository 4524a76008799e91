import SceneScript.Proofs.Outcomes
import SceneScript.Vocabulary

/-!
What stands against catalogs. All defects of catalogs are listed in the order in which the catalogs are read;
building a vocabulary ends at the first of them.
-/

namespace SceneScript

/-! ### Ending at the first defect -/

/-- The computation fails with the first of the defects, and ends well if there is none. -/
def FailsFirst {ε α : Type} (x : Except ε α) (defects : List ε) : Prop :=
  ∀ e, x = .error e ↔ defects.head? = some e

namespace FailsFirst

variable {ε α β : Type} {x : Except ε α} {defects later : List ε}

theorem ok (a : α) : FailsFirst (.ok a : Except ε α) [] := fun _ => iff_of_false nofun nofun

theorem error (e : ε) : FailsFirst (.error e : Except ε α) [e] := by
  intro e'
  rw [List.head?_cons, Option.some.injEq, Except.error.injEq]

theorem defects_eq_nil {a : α} (h : FailsFirst (.ok a) defects) : defects = [] := by
  cases defects with
  | nil => rfl
  | cons e rest =>
    have hfails := (h e).mpr rfl
    cases hfails

theorem map (h : FailsFirst x defects) (f : α → β) : FailsFirst (x.map f) defects :=
  fun e => map_eq_error.trans (h e)

theorem bind {f : α → Except ε β} (hx : FailsFirst x defects) (hf : ∀ a, x = .ok a → FailsFirst (f a) later) :
    FailsFirst (x >>= f) (defects ++ later) := by
  intro e
  cases x with
  | error e' =>
    have hhead : defects.head? = some e' := (hx e').mp rfl
    rw [List.head?_append, hhead, Option.some_or, Option.some.injEq]
    exact Except.error.injEq e' e ▸ Iff.rfl
  | ok a =>
    rw [hx.defects_eq_nil, List.nil_append]
    exact hf a rfl e

/-- A check in front of a computation that has at most one defect. -/
theorem guard {defect? : Option ε} (h : FailsFirst x defect?.toList) (p : Bool) (e : ε) :
    FailsFirst (if p = true then .error e else x) (if p = true then some e else defect?).toList := by
  cases p with
  | true => exact error e
  | false => exact h

theorem mapM {f : α → Except ε β} {g : α → List ε} {as : List α} (h : ∀ a ∈ as, FailsFirst (f a) (g a)) :
    FailsFirst (as.mapM f) (as.flatMap g) := by
  induction as with
  | nil => exact ok []
  | cons a as ih =>
    have hrest := ih fun a ha => h a (List.mem_cons_of_mem _ ha)
    rw [List.mapM_cons, List.flatMap_cons]
    refine (h a List.mem_cons_self).bind fun b _ => ?_
    exact hrest.map (b :: ·)

end FailsFirst

namespace Catalog

/-! ### Records -/

/-- The data can be a key. -/
def isKey : Data → Bool
  | .null | .scalar _ => true
  | .list _ | .mapping _ => false
  | .foreign v => v.isKey

/-- What stands against data as the pair at an index. -/
def pairDefect? (index : Nat) (d : Data) : Option CatalogError :=
  match d.items? with
  | none => some .notPairs
  | some [k, _] => if isKey k then none else some .notPairs
  | some items => some (.unevenPair index items.length)

def pairsDefects (index : Nat) : List Data → List CatalogError
  | [] => []
  | d :: rest => (pairDefect? index d).toList ++ pairsDefects (index + 1) rest

def recordDefects (d : Data) : List CatalogError :=
  if d.isBlank then []
  else
    match d with
    | .mapping _ => []
    | d =>
      match d.items? with
      | some items => pairsDefects 0 items
      | none => [.notPairs]

theorem failsFirst_keyed (k v : Data) :
    FailsFirst (keyed k v) (if isKey k then none else some CatalogError.notPairs).toList := by
  cases k with
  | null => exact .ok _
  | scalar s => exact .ok _
  | foreign f =>
    rw [keyed, isKey]
    cases f.isKey with
    | true => exact .ok _
    | false => exact .error _
  | _ => exact .error _

theorem failsFirst_pairOf (index : Nat) (d : Data) : FailsFirst (pairOf index d) (pairDefect? index d).toList := by
  rw [pairOf, pairDefect?]
  rcases d.items? with _ | _ | ⟨k, _ | ⟨v, _ | ⟨_, _⟩⟩⟩
  case some.cons.cons.nil => exact failsFirst_keyed k v
  all_goals exact .error _

theorem failsFirst_pairsFrom (index : Nat) (items : List Data) :
    FailsFirst (pairsFrom index items) (pairsDefects index items) := by
  induction items generalizing index with
  | nil => exact .ok []
  | cons d rest ih => exact (failsFirst_pairOf index d).bind fun pair _ => (ih (index + 1)).map (pair :: ·)

theorem failsFirst_recordOf (d : Data) : FailsFirst (recordOf d) (recordDefects d) := by
  unfold recordOf recordDefects
  by_cases hblank : d.isBlank = true
  · rw [if_pos hblank, if_pos hblank]
    exact .ok []
  · rw [if_neg hblank, if_neg hblank]
    -- A mapping is taken as it is, although it can be gone through as well.
    have hitems : ∀ items? : Option (List Data), FailsFirst
        (match items? with
          | some items => (pairsFrom 0 items).map Assoc.ofPairs
          | none => .error .notPairs : Except CatalogError Data.Entries)
        (match items? with
          | some items => pairsDefects 0 items
          | none => [.notPairs]) := by
      rintro (_ | items)
      · exact .error _
      · exact (failsFirst_pairsFrom 0 items).map _
    cases d with
    | mapping entries => exact .ok entries
    | null => exact hitems none
    | scalar s => exact hitems (Data.scalar s).items?
    | list items => exact hitems (some items)
    | foreign v => exact hitems v.items

/-- Data that can be gone through is blank if there is nothing in it. -/
theorem isBlank_of_items? {d : Data} {items : List Data} (h : d.items? = some items) : d.isBlank = items.isEmpty := by
  cases d with
  | null => cases h
  | list items' =>
    cases h
    rfl
  | mapping entries =>
    cases h
    exact List.isEmpty_map.symm
  | foreign v => exact congrArg (Option.any List.isEmpty) h
  | scalar s =>
    cases s with
    | text s =>
      cases h
      rw [List.isEmpty_map, Data.isBlank, Bool.eq_iff_iff, List.isEmpty_iff, String.isEmpty_iff,
        String.toList_eq_nil_iff]
    | _ => cases h

theorem isEmpty_of_recordOf {d : Data} {fields : Data.Entries} (h : recordOf d = .ok fields) :
    fields.isEmpty = d.isBlank := by
  have hpairs : ∀ {items : List Data}, (pairsFrom 0 items).map Assoc.ofPairs = .ok fields →
      fields.isEmpty = items.isEmpty := by
    intro items h
    obtain ⟨pairs, hpairs, rfl⟩ := map_eq_ok.mp h
    rw [Assoc.isEmpty_ofPairs]
    cases items with
    | nil =>
      cases hpairs
      rfl
    | cons d rest =>
      obtain ⟨_, -, hpairs⟩ := bind_eq_ok.mp hpairs
      obtain ⟨_, -, hpairs⟩ := bind_eq_ok.mp hpairs
      rw [← pure_eq_ok.mp hpairs]
      rfl
  unfold recordOf at h
  by_cases hblank : d.isBlank = true
  · rw [if_pos hblank] at h
    cases h
    exact hblank.symm
  · rw [if_neg hblank] at h
    split at h
    · cases h
      rfl
    · split at h
      · rename_i hitems
        rw [hpairs h, isBlank_of_items? hitems]
      · cases h

/-! ### Sections -/

/-- What stands against a section and, if it is one, against its parts. -/
def sectionDefects (entries : Data.Entries) (name : String) (ofPart : Key × Data → List CatalogError) :
    List CatalogError :=
  match entries.field? name with
  | none => []
  | some d =>
    if d.isBlank then []
    else
      match d with
      | .mapping parts => parts.flatMap ofPart
      | _ => [.notAMapping]

theorem failsFirst_section {α β : Type} (entries : Data.Entries) (name : String)
    {f : Key × Data → Except CatalogError α} {ofPart : Key × Data → List CatalogError}
    {next : List α → Except CatalogError β} {later : List CatalogError} (hf : ∀ p, FailsFirst (f p) (ofPart p))
    (hnext : ∀ as, FailsFirst (next as) later) :
    FailsFirst (sectionOf entries name >>= fun parts => parts.mapM f >>= next)
      (sectionDefects entries name ofPart ++ later) := by
  have hsection : FailsFirst (sectionOf entries name >>= fun parts => parts.mapM f)
      (sectionDefects entries name ofPart) := by
    unfold sectionOf sectionDefects
    cases entries.field? name with
    | none => exact .ok []
    | some d =>
      by_cases hblank : d.isBlank = true
      · simp only [if_pos hblank]
        exact .ok []
      · simp only [if_neg hblank]
        cases d with
        | mapping parts => exact .mapM fun p _ => hf p
        | _ => exact .error _
  rw [← bind_assoc]
  exact hsection.bind fun as _ => hnext as

/-- The category is left out, or it is the text of a known one. -/
def isCategory : Option Data → Bool
  | none => true
  | some (.scalar (.text category)) => categories.contains category
  | some _ => false

def entityDefect? (catalog : String) (p : Key × Data) : Option CatalogError :=
  match p.2 with
  | .mapping entry =>
    let category := Data.Entries.field? entry "category"
    if !isCategory category then
      some (.unknownCategory catalog p.1.toText ((category.map Data.toText).getD "human"))
    else if (Data.Entries.field? entry "subtype").isNone then some .noSubtype
    else none
  | _ => some .notAMapping

/-- What stands against the record under a name, nothing if it is left out. -/
def recordDefectsIn (entries : Data.Entries) (name : String) : List CatalogError :=
  recordDefects ((entries.field? name).getD .null)

def environmentDefects (p : Key × Data) : List CatalogError :=
  match p.2 with
  | .mapping entry => recordDefectsIn entry "background" ++ recordDefectsIn entry "lighting"
  | _ => [.notAMapping]

/-- What stands against the sections of a catalog of a name. -/
def defects (name : String) (entries : Data.Entries) : List CatalogError :=
  sectionDefects entries "entities" (fun p => (entityDefect? name p).toList) ++
    (sectionDefects entries "environments" environmentDefects ++
      sectionDefects entries "defaults" (fun p => recordDefects p.2))

theorem failsFirst_entityOf (catalog : String) (p : Key × Data) :
    FailsFirst (entityOf catalog p.1 p.2) (entityDefect? catalog p).toList := by
  obtain ⟨key, d⟩ := p
  cases d with
  | mapping entry =>
    simp only [entityOf, entityDefect?, entriesOf, bind, Except.bind]
    have hsubtype : ∀ category : String, FailsFirst
        (match Data.Entries.field? entry "subtype" with
          | none => throw .noSubtype
          | some subtype => pure
              { keyword := Text.upper key.toText, category, subtype := subtype.toText,
                extension := extensionOf catalog } : Except CatalogError EntityDefinition)
        (if (Data.Entries.field? entry "subtype").isNone then some CatalogError.noSubtype else none).toList := by
      intro category
      cases Data.Entries.field? entry "subtype" with
      | none => exact .error _
      | some subtype => exact .ok _
    cases Data.Entries.field? entry "category" with
    | none => exact hsubtype "human"
    | some d =>
      cases d with
      | scalar s =>
        cases s with
        | text category =>
          have hguarded := (hsubtype category).guard (!categories.contains category)
            (.unknownCategory catalog key.toText category)
          exact hguarded
        | _ => exact .error _
      | _ => exact .error _
  | _ => exact .error _

theorem failsFirst_environmentOf (catalog : String) (p : Key × Data) :
    FailsFirst (environmentOf catalog p.1 p.2) (environmentDefects p) := by
  obtain ⟨key, d⟩ := p
  cases d with
  | mapping entry =>
    refine (failsFirst_recordOf _).bind fun background _ => ?_
    exact (failsFirst_recordOf _).map _
  | _ => exact .error _

/-- A catalog is read from its three sections and all of their parts. -/
theorem ofEntries_eq_ok {name : String} {entries : Data.Entries} {c : Catalog} (h : ofEntries name entries = .ok c) :
    ∃ keyed named stated entities environments defaults,
      sectionOf entries "entities" = .ok keyed ∧ keyed.mapM (fun (k, d) => entityOf name k d) = .ok entities ∧
      sectionOf entries "environments" = .ok named ∧
        named.mapM (fun (k, d) => environmentOf name k d) = .ok environments ∧
      sectionOf entries "defaults" = .ok stated ∧
        stated.mapM (fun (k, d) => return (Key.toText k, ← recordOf d)) = .ok defaults ∧
      c = { name, entities := Assoc.ofPairs (entities.map fun e => (e.keyword, e)),
            environments := Assoc.ofPairs (environments.map fun e => (e.name, e)),
            defaults := defaults.foldl (fun m p => Assoc.add m p.1 p.2) [] } := by
  obtain ⟨keyed, hkeyed, h⟩ := bind_eq_ok.mp h
  obtain ⟨entities, hentities, h⟩ := bind_eq_ok.mp h
  obtain ⟨named, hnamed, h⟩ := bind_eq_ok.mp h
  obtain ⟨environments, henvironments, h⟩ := bind_eq_ok.mp h
  obtain ⟨stated, hstated, h⟩ := bind_eq_ok.mp h
  obtain ⟨defaults, hdefaults, h⟩ := bind_eq_ok.mp h
  exact ⟨keyed, named, stated, entities, environments, defaults, hkeyed, hentities, hnamed, henvironments, hstated,
    hdefaults, (pure_eq_ok.mp h).symm⟩

theorem name_of_ofEntries {name : String} {entries : Data.Entries} {c : Catalog} (h : ofEntries name entries = .ok c) :
    c.name = name := by
  obtain ⟨_, _, _, _, _, _, -, -, -, -, -, -, rfl⟩ := ofEntries_eq_ok h
  rfl

theorem failsFirst_ofEntries (name : String) (entries : Data.Entries) :
    FailsFirst (ofEntries name entries) (defects name entries) := by
  refine failsFirst_section entries "entities" (failsFirst_entityOf name) fun entities => ?_
  refine failsFirst_section entries "environments" (failsFirst_environmentOf name) fun environments => ?_
  rw [← List.append_nil (sectionDefects entries "defaults" _)]
  exact failsFirst_section entries "defaults"
    (fun ⟨k, d⟩ => (failsFirst_recordOf d).map fun fields => (Key.toText k, fields)) fun defaults => .ok _

end Catalog

/-! ### Vocabularies -/

namespace Vocabulary

/-- What stands against catalogs that are added to others: to those of the taken names, of which one has fallback
    attributes if that is settled. Catalogs of taken names are passed over. -/
def defectsFrom (taken : List String) (settled : Bool) : List Data.Entries → List CatalogError
  | [] => []
  | entries :: rest =>
    match Catalog.nameOf entries with
    | .error e => e :: defectsFrom taken settled rest
    | .ok name =>
      if taken.any (· == name) then defectsFrom taken settled rest
      else
        let fallback := (entries.field? "fallback_defaults").getD .null
        Catalog.defects name entries ++ ((if settled then [] else Catalog.recordDefects fallback) ++
          defectsFrom (taken ++ [name]) (settled || !fallback.isBlank) rest)

/-- What stands against catalogs, the core before the others. -/
def defects (catalogs : List Data.Entries) : List CatalogError :=
  defectsFrom [] false (catalogs.filter isCore ++ catalogs.filter (!isCore ·))

theorem failsFirst_fallback (v : Vocabulary) (entries : Data.Entries) :
    FailsFirst (if v.catalogs.any (!·.fallback.isEmpty) then pure [] else Catalog.recordIn entries "fallback_defaults")
      (if v.catalogs.any (!·.fallback.isEmpty) then [] else
        Catalog.recordDefects ((entries.field? "fallback_defaults").getD .null)) := by
  cases v.catalogs.any (!·.fallback.isEmpty) with
  | true => exact .ok []
  | false => exact Catalog.failsFirst_recordOf _

theorem failsFirst_foldlM_add (v : Vocabulary) (catalogs : List Data.Entries) :
    FailsFirst (catalogs.foldlM add v)
      (defectsFrom (v.catalogs.map (·.name)) (v.catalogs.any (!·.fallback.isEmpty)) catalogs) := by
  induction catalogs generalizing v with
  | nil => exact .ok v
  | cons entries rest ih =>
    rw [List.foldlM_cons, defectsFrom]
    cases hname : Catalog.nameOf entries with
    | error e =>
      have hadd : v.add entries = .error e := by
        rw [add, hname]
        rfl
      rw [hadd]
      exact (FailsFirst.error e).bind fun _ h => nomatch h
    | ok name =>
      have hnames : (v.catalogs.map (·.name)).any (· == name) = v.catalogs.any (·.name == name) := List.any_map
      dsimp only
      rw [hnames]
      by_cases htaken : v.catalogs.any (·.name == name) = true
      · have hadd : v.add entries = .ok v := by
          rw [add, hname]
          exact if_pos htaken
        rw [hadd, if_pos htaken]
        exact ih v
      · have hadd : v.add entries = Catalog.ofEntries name entries >>= fun catalog =>
            (if v.catalogs.any (!·.fallback.isEmpty) then pure [] else Catalog.recordIn entries "fallback_defaults") >>=
              fun fallback => pure { catalogs := v.catalogs ++ [{ catalog with fallback }] } := by
          rw [add, hname]
          refine (if_neg htaken).trans ?_
          cases v.catalogs.any (!·.fallback.isEmpty) <;> rfl
        rw [hadd, if_neg htaken, bind_assoc]
        refine (Catalog.failsFirst_ofEntries name entries).bind fun catalog hcatalog => ?_
        rw [bind_assoc]
        refine (failsFirst_fallback v entries).bind fun fallback hfallback => ?_
        have htakens : (v.catalogs ++ [{ catalog with fallback }]).map Catalog.name =
            v.catalogs.map Catalog.name ++ [name] := by
          rw [← Catalog.name_of_ofEntries hcatalog, List.map_append]
          rfl
        have hsettled : (v.catalogs ++ [{ catalog with fallback }]).any (fun c => !c.fallback.isEmpty) =
            (v.catalogs.any (!·.fallback.isEmpty) ||
              !((entries.field? "fallback_defaults").getD .null).isBlank) := by
          rw [List.any_append, List.any_cons, List.any_nil, Bool.or_false]
          cases hany : v.catalogs.any (!·.fallback.isEmpty) with
          | true => rfl
          | false =>
            rw [hany] at hfallback
            exact congrArg (false || !·) (Catalog.isEmpty_of_recordOf hfallback)
        have hrest := ih { catalogs := v.catalogs ++ [{ catalog with fallback }] }
        rw [htakens, hsettled] at hrest
        exact hrest

theorem mapM_entriesOf (catalogs : List Data.Entries) :
    (catalogs.map Data.mapping).mapM Catalog.entriesOf = .ok catalogs := by
  induction catalogs with
  | nil => rfl
  | cons entries rest ih =>
    rw [List.map_cons, List.mapM_cons, ih]
    rfl

/-- Building a vocabulary ends at the first defect of the catalogs. -/
theorem failsFirst_ofData (catalogs : List Data.Entries) :
    FailsFirst (ofData (catalogs.map .mapping)) (defects catalogs) := by
  have hbuilt : ofData (catalogs.map .mapping) =
      (catalogs.filter isCore ++ catalogs.filter (!isCore ·)).foldlM add {} := by
    rw [ofData, mapM_entriesOf]
    rfl
  rw [hbuilt]
  exact failsFirst_foldlM_add {} _

/-- Two entities with a defect and, in a catalog of the same name, none that counts. -/
example : defects [
    [(some (.text "name"), .text "Park"), (some (.text "entities"), .ofFields [
      ("TREE", .ofFields [("category", .text "prop")]), ("BENCH", .number (.int 3))])],
    [(some (.text "name"), .text "park"), (some (.text "environments"), .text "none")]] =
      [.noSubtype, .notAMapping] := by
  decide +kernel

end Vocabulary
end SceneScript
