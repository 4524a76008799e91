import Mathlib.Data.List.Find
import Mathlib.Data.List.Forall2
import SceneScript.Proofs.Directories
import SceneScript.Proofs.Keys
import SceneScript.Proofs.Loading

/-!
Which catalog file counts. The names of catalogs are collected by listing the shelves, and each is then sought on the
shelves in turn under its name and the ending. The two agree on every file but one: the file that is named by the
ending alone. It is collected under the whole of its name, and then sought under that name with a second ending.
-/

namespace SceneScript

/-! ### Valid catalogs -/

namespace Vocabulary

/-- What stands against one catalog alone. -/
theorem defects_singleton (entries : Data.Entries) :
    defects [entries] = match Catalog.nameOf entries with
      | .error e => [e]
      | .ok name =>
        Catalog.defects name entries ++ Catalog.recordDefects ((entries.field? "fallback_defaults").getD .null) := by
  have horder : [entries].filter isCore ++ [entries].filter (!isCore ·) = [entries] := by
    cases h : isCore entries <;> simp [h]
  unfold defects
  rw [horder, defectsFrom]
  cases Catalog.nameOf entries <;> simp [defectsFrom]

theorem ofData_eq_ok_iff {catalogs : List Data.Entries} :
    (∃ v, ofData (catalogs.map .mapping) = .ok v) ↔ defects catalogs = [] := by
  have hfails := failsFirst_ofData catalogs
  cases hbuilt : ofData (catalogs.map .mapping) with
  | ok v =>
    rw [hbuilt] at hfails
    exact iff_of_true ⟨v, rfl⟩ hfails.defects_eq_nil
  | error e =>
    have hhead := (hfails e).mp hbuilt
    exact iff_of_false (fun ⟨_, hok⟩ => nomatch hok) fun hnil => by simp [hnil] at hhead

/-- Nothing stands against catalogs of which each is valid alone. -/
theorem defectsFrom_eq_nil {order : List Data.Entries} (h : ∀ entries ∈ order, defects [entries] = [])
    (taken : List String) (settled : Bool) : defectsFrom taken settled order = [] := by
  induction order generalizing taken settled with
  | nil => rfl
  | cons entries rest ih =>
    obtain ⟨hfirst, hrest⟩ := List.forall_mem_cons.mp h
    rw [defects_singleton] at hfirst
    cases hname : Catalog.nameOf entries with
    | error e =>
      rw [hname] at hfirst
      cases hfirst
    | ok name =>
      rw [hname] at hfirst
      obtain ⟨hsections, hfallback⟩ := List.append_eq_nil_iff.mp hfirst
      rw [defectsFrom, hname]
      simp only [hsections, hfallback, ih hrest, ite_self, List.append_nil]

theorem exists_of_valid {catalogs : List Data.Entries}
    (h : ∀ entries ∈ catalogs, ∃ v, ofData [.mapping entries] = .ok v) :
    ∃ v, ofData (catalogs.map .mapping) = .ok v := by
  refine ofData_eq_ok_iff.mpr (defectsFrom_eq_nil (fun entries hmem => ?_) [] false)
  have hentries : entries ∈ catalogs := by
    rcases List.mem_append.mp hmem with hmem | hmem <;> exact (List.mem_filter.mp hmem).1
  exact ofData_eq_ok_iff.mp (h entries hentries)

end Vocabulary

/-! ### Files of a shelf -/

/-- The file can be read, and its catalog alone makes a vocabulary. -/
def FileTree.IsCatalog (t : FileTree) (yaml : Yaml.Reader) (path : Path) : Prop :=
  ∃ entries v, Catalog.readFile yaml t path = .ok entries ∧ Vocabulary.ofData [.mapping entries] = .ok v

instance (t : FileTree) (yaml : Yaml.Reader) (path : Path) : Decidable (t.IsCatalog yaml path) :=
  decidable_of_iff ((Catalog.readFile yaml t path).toOption.any
      fun entries => (Vocabulary.ofData [.mapping entries]).toOption.isSome) <| by
    unfold FileTree.IsCatalog
    cases Catalog.readFile yaml t path with
    | error e => simp [Except.toOption]
    | ok entries => simp [Except.toOption, ← toOption_isSome]

namespace Shelf

variable {yaml : Yaml.Reader} {t : FileTree} {s : Shelf} {name : String}

/-- The shelf has a file with the name and the ending of catalog files. -/
def Holds (t : FileTree) (s : Shelf) (name : String) : Prop := name ++ Catalog.fileEnding ∈ s.fileNames t

/-- The shelf is a directory in which all catalog files hold catalogs, or the bundled one. -/
def Valid (yaml : Yaml.Reader) (t : FileTree) : Shelf → Prop
  | directory path =>
    t.isDirectory path = true ∧ ∀ file ∈ (directory path).fileNames t, t.IsCatalog yaml (path.join (.ofName file))
  | bundled _ => True

instance (t : FileTree) (s : Shelf) (name : String) : Decidable (s.Holds t name) :=
  inferInstanceAs (Decidable (_ ∈ _))

instance (yaml : Yaml.Reader) (t : FileTree) : (s : Shelf) → Decidable (s.Valid yaml t)
  | directory _ => inferInstanceAs (Decidable (_ ∧ _))
  | bundled _ => inferInstanceAs (Decidable True)

theorem endsWith_iff {file ending : String} : file.endsWith ending = true ↔ ∃ name, file = name ++ ending := by
  rw [String.endsWith_eq_endsWith_toSlice, String.Slice.endsWith_string_iff, String.copy_toSlice]
  constructor
  · rintro ⟨front, hfront⟩
    refine ⟨String.ofList front, ?_⟩
    rw [← String.toList_inj, String.toList_append, String.toList_ofList, hfront]
  · rintro ⟨name, rfl⟩
    exact ⟨name.toList, String.toList_append.symm⟩

theorem mem_fileNames_directory {path : Path} {file : String} :
    file ∈ (directory path).fileNames t ↔ file ∈ t.children path ∧ ∃ name, file = name ++ Catalog.fileEnding := by
  rw [fileNames, Text.sorted, List.mem_mergeSort, List.mem_filter, endsWith_iff]

theorem holds_directory {path : Path} :
    (directory path).Holds t name ↔ name ++ Catalog.fileEnding ∈ t.children path := by
  rw [Holds, mem_fileNames_directory, and_iff_left ⟨name, rfl⟩]

theorem holds_bundled {shown : Path} : (bundled shown).Holds t name ↔ name ∈ Catalog.Bundled.all.map Prod.fst := by
  rw [Holds, fileNames, List.mem_map, List.mem_map]
  exact exists_congr fun c => and_congr_right fun _ => String.append_left_inj _

/-- Every file of a shelf has a name before the ending. -/
theorem exists_of_mem_fileNames {file : String} (h : file ∈ s.fileNames t) :
    ∃ name, file = name ++ Catalog.fileEnding := by
  cases s with
  | directory path => exact (mem_fileNames_directory.mp h).2
  | bundled shown =>
    obtain ⟨c, -, rfl⟩ := List.mem_map.mp h
    exact ⟨c.1, rfl⟩

theorem Holds.isName (ht : t.WellFormed) (h : s.Holds t name) : Path.IsName (name ++ Catalog.fileEnding) := by
  cases s with
  | directory path => exact FileTree.isName_of_mem_children ht (holds_directory.mp h)
  | bundled shown =>
    have hall : ∀ file ∈ Catalog.Bundled.all.map Prod.fst, Path.IsName (file ++ Catalog.fileEnding) := by decide +kernel
    exact hall name (holds_bundled.mp h)

/-! ### Asking a shelf -/

theorem pathOf_eq (hname : Path.IsName (name ++ Catalog.fileEnding)) :
    s.pathOf name = s.path.join (.ofName (name ++ Catalog.fileEnding)) := by
  rw [pathOf, Path.ofString_eq_ofName hname]

theorem bundledAt?_eq {shown : Path} (hname : Path.IsName (name ++ Catalog.fileEnding)) :
    bundledAt? shown ((bundled shown).pathOf name) =
      (Catalog.Bundled.all.find? (·.1 = name)).map Prod.snd := by
  have hnames : ∀ c ∈ Catalog.Bundled.all, Path.IsName (c.1 ++ Catalog.fileEnding) := by decide +kernel
  rw [bundledAt?]
  refine congrArg (Option.map Prod.snd) (List.find?_congr fun c hc => ?_)
  rw [pathOf_eq (hnames c hc), pathOf_eq hname]
  simp [Path.join, Path.ofName]

/-- The path that is noted in a catalog does not bear on whether it is valid. -/
theorem defects_set_source (entries : Data.Entries) (d : Data) :
    Vocabulary.defects [Assoc.set entries (some (.text "_source_path")) d] = Vocabulary.defects [entries] := by
  have hfield : ∀ field, field ≠ "_source_path" →
      Data.Entries.field? (Assoc.set entries (some (.text "_source_path")) d) field = entries.field? field :=
    fun field hne => Data.Entries.field?_set d hne
  simp only [Vocabulary.defects_singleton, Catalog.nameOf, Catalog.defects, Catalog.sectionDefects,
    hfield "name" (by decide), hfield "entities" (by decide), hfield "environments" (by decide),
    hfield "defaults" (by decide), hfield "fallback_defaults" (by decide)]

/-- The data is read as a catalog of its own name, and nothing stands against it. -/
def isReady : Data → Bool
  | .mapping entries =>
    Catalog.isSupported ((Data.Entries.field? entries "schema_version").getD (.text "1.0")) &&
      (Data.Entries.field? entries "entities").isSome && Assoc.contains entries (some (.text "name")) &&
        (Vocabulary.defects [entries]).isEmpty
  | _ => false

theorem bundled_valid (path : Path) : ∀ c ∈ Catalog.Bundled.all, ∃ entries v,
    Catalog.entriesAt path c.2 = .ok entries ∧ Vocabulary.ofData [.mapping entries] = .ok v := by
  have hall : ∀ c ∈ Catalog.Bundled.all, isReady c.2 = true := by decide +kernel
  rintro ⟨name, d⟩ hc
  have hready := hall _ hc
  cases d with
  | mapping entries =>
    simp only [isReady, Bool.and_eq_true, List.isEmpty_iff] at hready
    obtain ⟨⟨⟨hversion, hentities⟩, hname⟩, hdefects⟩ := hready
    have hread : Catalog.entriesAt path (.mapping entries) =
        .ok (Assoc.set entries (some (.text "_source_path")) (.text path.text)) := by
      simp [Catalog.entriesAt, hversion, Option.isSome_iff_ne_none.mp hentities, Assoc.add, hname]
    have hvalid := (defects_set_source entries (.text path.text)).trans hdefects
    obtain ⟨v, hv⟩ := Vocabulary.ofData_eq_ok_iff.mpr hvalid
    exact ⟨_, v, hread, hv⟩
  | _ => cases hready

/-- A shelf that holds the file of a name reads a valid catalog from it. -/
theorem Holds.read? (ht : t.WellFormed) (hvalid : s.Valid yaml t) (h : s.Holds t name) :
    ∃ entries v, s.read? yaml t name = some (.ok entries) ∧ Vocabulary.ofData [.mapping entries] = .ok v := by
  have hname := h.isName ht
  cases s with
  | directory path =>
    obtain ⟨hpath, hcatalogs⟩ := hvalid
    obtain ⟨entries, v, hread, hv⟩ := hcatalogs _ h
    refine ⟨entries, v, ?_, hv⟩
    have hthere := (FileTree.contains_join_iff ht hname hpath).mpr (holds_directory.mp h)
    simp only [Shelf.read?, pathOf_eq hname, Shelf.path, hthere, ↓reduceIte, hread]
  | bundled shown =>
    obtain ⟨c, hc, rfl⟩ := List.mem_map.mp (holds_bundled.mp h)
    obtain ⟨c', hfound⟩ := Option.isSome_iff_exists.mp
      (List.find?_isSome.mpr ⟨c, hc, by simp⟩ : (Catalog.Bundled.all.find? (·.1 = c.1)).isSome)
    obtain ⟨entries, v, hread, hv⟩ := bundled_valid ((bundled shown).pathOf c.1) c' (List.mem_of_find?_eq_some hfound)
    refine ⟨entries, v, ?_, hv⟩
    simp only [Shelf.read?, bundledAt?_eq hname, hfound, Option.map_some, hread]

/-- A shelf that does not hold the file of a name reads nothing for it. -/
theorem read?_eq_none (ht : t.WellFormed) (hvalid : s.Valid yaml t) (hname : Path.IsName (name ++ Catalog.fileEnding))
    (h : ¬s.Holds t name) : s.read? yaml t name = none := by
  cases s with
  | directory path =>
    have hmissing := mt (FileTree.contains_join_iff ht hname hvalid.1).mp (mt holds_directory.mpr h)
    simp only [Shelf.read?, pathOf_eq hname, Shelf.path, hmissing, Bool.false_eq_true, ↓reduceIte]
  | bundled shown =>
    have hmissing : Catalog.Bundled.all.find? (·.1 = name) = none := by
      refine List.find?_eq_none.mpr fun c hc hname => h (holds_bundled.mpr ?_)
      exact List.mem_map.mpr ⟨c, hc, of_decide_eq_true hname⟩
    simp only [Shelf.read?, bundledAt?_eq hname, hmissing, Option.map_none]

end Shelf

/-! ### All shelves -/

namespace Library

variable {yaml : Yaml.Reader} {t : FileTree} {shelves : List Shelf} {name : String}

/-- The catalog of a name is read from the first shelf that holds the file of the name. -/
def ReadsFirst (yaml : Yaml.Reader) (t : FileTree) (shelves : List Shelf) (name : String)
    (entries : Data.Entries) : Prop :=
  ∃ before s after, shelves = before ++ s :: after ∧ s.Holds t name ∧ (∀ s' ∈ before, ¬s'.Holds t name) ∧
    s.read? yaml t name = some (.ok entries)

theorem nodup_eraseDups (names : List String) : names.eraseDups.Nodup := by
  induction hlength : names.length using Nat.strong_induction_on generalizing names with
  | _ n ih =>
    cases names with
    | nil => exact List.nodup_nil
    | cons name rest =>
      have hshorter : (rest.filter fun other => !other == name).length < n := by
        rw [← hlength, List.length_cons]
        exact Nat.lt_succ_of_le (List.length_filter_le _ _)
      rw [List.eraseDups_cons, List.nodup_cons]
      refine ⟨fun hmem => ?_, ih _ hshorter _ rfl⟩
      rw [List.mem_eraseDups, List.mem_filter] at hmem
      simp at hmem

theorem stemOf_append_ending (name : String) :
    Path.stemOf (name ++ Catalog.fileEnding) = if name = "" then Catalog.fileEnding else name :=
  Path.stemOf_append (by decide) (by decide) (by decide)

/-- The names to be read are those of the files, but the ending for a file that has nothing before it. -/
theorem mem_stems_iff : name ∈ stems t shelves ↔
    (name ≠ "" ∧ ∃ s ∈ shelves, s.Holds t name) ∨ (name = Catalog.fileEnding ∧ ∃ s ∈ shelves, s.Holds t "") := by
  simp only [stems, List.mem_eraseDups, List.mem_flatMap, Shelf.stems, List.mem_map]
  constructor
  · rintro ⟨s, hs, file, hfile, rfl⟩
    obtain ⟨stem, rfl⟩ := Shelf.exists_of_mem_fileNames hfile
    rw [stemOf_append_ending]
    split
    · rename_i hempty
      exact Or.inr ⟨rfl, s, hs, by rwa [hempty] at hfile⟩
    · rename_i hne
      exact Or.inl ⟨hne, s, hs, hfile⟩
  · rintro (⟨hne, s, hs, hholds⟩ | ⟨rfl, s, hs, hholds⟩)
    · exact ⟨s, hs, _, hholds, by rw [stemOf_append_ending, if_neg hne]⟩
    · exact ⟨s, hs, _, hholds, by rw [stemOf_append_ending, if_pos rfl]⟩

section Valid
variable (ht : t.WellFormed) (hvalid : ∀ s ∈ shelves, s.Valid yaml t)
include ht hvalid

/-- If any shelf holds the file of a name, the first one that does is read. -/
theorem readFirst_of_holds (h : ∃ s ∈ shelves, s.Holds t name) :
    ∃ entries v, readFirst yaml t shelves name = .ok entries ∧ ReadsFirst yaml t shelves name entries ∧
      Vocabulary.ofData [.mapping entries] = .ok v := by
  obtain ⟨s₀, hs₀, hholds₀⟩ := h
  have hname := hholds₀.isName ht
  obtain ⟨_, _, hread₀, -⟩ := hholds₀.read? ht (hvalid s₀ hs₀)
  obtain ⟨found, hfound⟩ := Option.isSome_iff_exists.mp
    (List.findSome?_isSome_iff.mpr ⟨s₀, hs₀, by rw [hread₀]; rfl⟩ :
      (shelves.findSome? (·.read? yaml t name)).isSome)
  obtain ⟨before, s, after, hshelves, hread, hbefore⟩ := List.findSome?_eq_some_iff.mp hfound
  have hs : s ∈ shelves := by simp [hshelves]
  have hholds : s.Holds t name := by
    by_contra hnot
    rw [Shelf.read?_eq_none ht (hvalid s hs) hname hnot] at hread
    cases hread
  obtain ⟨entries, v, hread', hv⟩ := hholds.read? ht (hvalid s hs)
  obtain rfl : .ok entries = found := Option.some.inj (hread'.symm.trans hread)
  refine ⟨entries, v, by rw [readFirst, hfound]; rfl, ⟨before, s, after, hshelves, hholds, ?_, hread⟩, hv⟩
  intro s' hs' hholds'
  obtain ⟨_, _, hsome, -⟩ := hholds'.read? ht (hvalid s' (by simp [hshelves, hs']))
  rw [hbefore s' hs'] at hsome
  cases hsome

theorem readFirst_of_not_holds (hname : Path.IsName (name ++ Catalog.fileEnding))
    (h : ¬∃ s ∈ shelves, s.Holds t name) :
    readFirst yaml t shelves name = .error (.notFound name (shelves.map (·.path))) := by
  have hnone : shelves.findSome? (·.read? yaml t name) = none := List.findSome?_eq_none_iff.mpr fun s hs =>
    Shelf.read?_eq_none ht (hvalid s hs) hname fun hholds => h ⟨s, hs, hholds⟩
  rw [readFirst, hnone]
  rfl

/-- The catalogs of all names are read if the one named by the ending is asked for only where it is. -/
theorem readAll_of_valid (hcore : ∃ s ∈ shelves, s.Holds t coreName)
    (hbare : (∃ s ∈ shelves, s.Holds t "") → ∃ s ∈ shelves, s.Holds t Catalog.fileEnding) :
    ∃ catalogs, readAll yaml t shelves = .ok catalogs ∧
      List.Forall₂ (ReadsFirst yaml t shelves) (stems t shelves) catalogs ∧
      ∀ entries ∈ catalogs, ∃ v, Vocabulary.ofData [.mapping entries] = .ok v := by
  have hheld : ∀ name ∈ stems t shelves, ∃ s ∈ shelves, s.Holds t name := fun name hname => by
    rcases mem_stems_iff.mp hname with ⟨-, hholds⟩ | ⟨rfl, hholds⟩
    · exact hholds
    · exact hbare hholds
  have hstems : stems t shelves |>.contains coreName := List.contains_iff_mem.mpr (mem_stems_iff.mpr
    (Or.inl ⟨by decide, hcore⟩))
  have hread : ∀ names : List String, (∀ name ∈ names, ∃ s ∈ shelves, s.Holds t name) →
      ∃ catalogs, names.mapM (readFirst yaml t shelves) = .ok catalogs ∧
        List.Forall₂ (ReadsFirst yaml t shelves) names catalogs ∧
        ∀ entries ∈ catalogs, ∃ v, Vocabulary.ofData [.mapping entries] = .ok v := by
    intro names
    induction names with
    | nil => exact fun _ => ⟨[], rfl, .nil, by simp⟩
    | cons name rest ih =>
      intro h
      obtain ⟨hfirst, hrest⟩ := List.forall_mem_cons.mp h
      obtain ⟨entries, v, hentries, hreads, hv⟩ := readFirst_of_holds ht hvalid hfirst
      obtain ⟨catalogs, hcatalogs, hall, hvs⟩ := ih hrest
      refine ⟨entries :: catalogs, ?_, .cons hreads hall, List.forall_mem_cons.mpr ⟨⟨v, hv⟩, hvs⟩⟩
      rw [List.mapM_cons, hentries, hcatalogs]
      rfl
  obtain ⟨catalogs, hcatalogs, hall, hvs⟩ := hread _ hheld
  exact ⟨catalogs, (if_pos hstems).trans hcatalogs, hall, hvs⟩

/-- A file that is named by the ending alone is asked for under the name of another file. -/
theorem readAll_of_bare (hcore : ∃ s ∈ shelves, s.Holds t coreName) (hbare : ∃ s ∈ shelves, s.Holds t "")
    (hmissing : ¬∃ s ∈ shelves, s.Holds t Catalog.fileEnding) :
    readAll yaml t shelves = .error (.notFound Catalog.fileEnding (shelves.map (·.path))) := by
  have hstems : stems t shelves |>.contains coreName := List.contains_iff_mem.mpr (mem_stems_iff.mpr
    (Or.inl ⟨by decide, hcore⟩))
  have hasked : Catalog.fileEnding ∈ stems t shelves := mem_stems_iff.mpr (Or.inr ⟨rfl, hbare⟩)
  have hfails := readFirst_of_not_holds ht hvalid (by decide) hmissing
  refine (if_pos hstems).trans ?_
  cases hread : (stems t shelves).mapM (readFirst yaml t shelves) with
  | ok catalogs =>
    obtain ⟨entries, hentries⟩ := exists_of_mapM_eq_ok hread hasked
    rw [hfails] at hentries
    cases hentries
  | error e =>
    -- Every other name is that of a file on a shelf, so the error is the one for the ending.
    obtain ⟨name, hname, herror⟩ := exists_of_mapM_eq_error hread
    rcases mem_stems_iff.mp hname with ⟨-, hholds⟩ | ⟨rfl, -⟩
    · obtain ⟨entries, _, hentries, -, -⟩ := readFirst_of_holds ht hvalid hholds
      rw [hentries] at herror
      cases herror
    · rw [hfails] at herror
      cases herror
      rfl

end Valid

theorem load_of_shelves {s : SearchPath} (h : s.shelves t = .ok shelves) :
    (load yaml { searchPath := s } t).2 = build yaml t shelves := by
  unfold load shelve
  dsimp only
  rw [h]
  dsimp only
  obtain ⟨events, outcome⟩ := build yaml t shelves
  cases outcome <;> rfl

/-- Each name on shelves of valid catalogs is read once, from the first shelf that holds the file of the name, so an
    earlier file hides the later ones of its name and no others. No file is missed, and the vocabulary is built, if and
    only if a file that is named by the ending alone is never on the shelves without one of the doubled ending: the
    names to be read are taken from the files without the ending, but for that file, which keeps it. -/
theorem build_of_valid (ht : t.WellFormed) (hvalid : ∀ s ∈ shelves, s.Valid yaml t)
    (hcore : ∃ s ∈ shelves, s.Holds t coreName) :
    (∀ s : SearchPath, s.shelves t = .ok shelves → (load yaml { searchPath := s } t).2 = build yaml t shelves) ∧
      (stems t shelves).Nodup ∧
      (∀ name, name ∈ stems t shelves ↔ (name ≠ "" ∧ ∃ s ∈ shelves, s.Holds t name) ∨
        (name = Catalog.fileEnding ∧ ∃ s ∈ shelves, s.Holds t "")) ∧
      (∀ name, (∃ s ∈ shelves, s.Holds t name) →
        ∃ entries, readFirst yaml t shelves name = .ok entries ∧ ReadsFirst yaml t shelves name entries) ∧
      (((∃ s ∈ shelves, s.Holds t "") → ∃ s ∈ shelves, s.Holds t Catalog.fileEnding) →
        ∃ catalogs v, List.Forall₂ (ReadsFirst yaml t shelves) (stems t shelves) catalogs ∧
          build yaml t shelves = (catalogs.map noted, .ok v)) ∧
      ((∃ s ∈ shelves, s.Holds t "") → (¬∃ s ∈ shelves, s.Holds t Catalog.fileEnding) →
        build yaml t shelves = ([], .error (.notFound Catalog.fileEnding (shelves.map (·.path))))) := by
  refine ⟨fun s hs => load_of_shelves hs, nodup_eraseDups _, fun name => mem_stems_iff, fun name hholds => ?_,
    fun hbare => ?_, fun hbare hmissing => ?_⟩
  · obtain ⟨entries, _, hread, hfirst, -⟩ := readFirst_of_holds ht hvalid hholds
    exact ⟨entries, hread, hfirst⟩
  · obtain ⟨catalogs, hread, hall, hvs⟩ := readAll_of_valid ht hvalid hcore hbare
    obtain ⟨v, hv⟩ := Vocabulary.exists_of_valid hvs
    refine ⟨catalogs, v, hall, ?_⟩
    rw [build, hread]
    dsimp only
    rw [hv]
    rfl
  · rw [build, readAll_of_bare ht hvalid hcore hbare hmissing]

/-- Beside the bundled catalogs, a directory with a file that is named by the ending alone. With a second directory
    that has the doubled ending, the catalogs load. -/
theorem build_of_valid_bare :
    let root : Path := { anchor := some "" }
    let text := "\x7b\"name\": \"dot\", \"entities\": \x7b\x7d\x7d"
    let yaml : Yaml.Reader := fun s =>
      if s = text then .ok (.ofFields [("name", .text "dot"), ("entities", .mapping [])])
      else .error (.malformed "malformed")
    let dot : FileNode := .file text
    let t : FileTree :=
      { cwd := root, nodes := [(root.join { parts := ["a"] }, .directory), (root.join { parts := ["b"] }, .directory),
        (root.join { parts := ["a", ".yaml"] }, dot)] }
    let t' := t.put (root.join { parts := ["b", ".yaml.yaml"] }) dot
    let shelves := [Shelf.directory (root.join { parts := ["a"] }), .directory (root.join { parts := ["b"] }),
      .bundled { anchor := some "<bundled>" }]
    build yaml t shelves = ([], .error (.notFound ".yaml" (shelves.map (·.path)))) ∧
      ∃ events v, build yaml t' shelves = (events, .ok v) := by
  intro root text yaml dot t t' shelves
  have ht : t.WellFormed := ⟨by decide +kernel, by decide, Or.inl rfl⟩
  have ht' : t'.WellFormed := ⟨by decide +kernel, by decide, Or.inl rfl⟩
  have hvalid : ∀ s ∈ shelves, s.Valid yaml t := by decide +kernel
  have hvalid' : ∀ s ∈ shelves, s.Valid yaml t' := by decide +kernel
  obtain ⟨-, -, -, -, -, hfails⟩ := build_of_valid ht hvalid (by decide +kernel)
  obtain ⟨-, -, -, -, hbuilt, -⟩ := build_of_valid ht' hvalid' (by decide +kernel)
  have hdoubled : ∃ s ∈ shelves, s.Holds t' Catalog.fileEnding := by decide +kernel
  obtain ⟨catalogs, v, -, hbuild⟩ := hbuilt fun _ => hdoubled
  exact ⟨hfails (by decide +kernel) (by decide +kernel), _, v, hbuild⟩

end Library

end SceneScript
