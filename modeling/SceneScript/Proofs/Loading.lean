import SceneScript.Context
import SceneScript.Library
import SceneScript.Proofs.Defects

/-!
Loading the vocabulary of a parse, with any reader of YAML. What stands against finding and reading catalog files is
reported. What is not reported is a search path that names the home of an unknown user, a reader that breaks down, and
a first defect of the catalogs that is a wrong shape of their data.
-/

namespace SceneScript

/-! ### The search path -/

namespace SearchPath

variable {s : SearchPath} {t : FileTree}

/-- The directories that the search path names. -/
def texts (s : SearchPath) : List String :=
  ((Text.splitAt ':' (s.directories.getD "").toList).map fun cs => String.ofList (Text.trimChars cs)).filter (· ≠ "")

end SearchPath

/-! ### Files -/

/-- Whatever the computation fails with is reported, unless the reader of YAML breaks down. -/
def Reports {α : Type} (x : Except LoadError α) : Prop :=
  ∀ e, x = .error e → e.isReported = true ∨ ∃ message, e = .yaml (.breakdown message)

namespace Reports
variable {yaml : Yaml.Reader} {t : FileTree}

theorem entriesAt (path : Path) (d : Data) : Reports (Catalog.entriesAt path d) := by
  intro e h
  unfold Catalog.entriesAt at h
  split at h
  · dsimp only at h
    split at h
    · cases h
      exact Or.inl rfl
    · split at h <;> cases h
      exact Or.inl rfl
  · cases h
    exact Or.inl rfl

theorem readFile (path : Path) : Reports (Catalog.readFile yaml t path) := by
  intro e h
  rcases bind_eq_error.mp h with h | ⟨text, -, h⟩
  · obtain ⟨_, -, rfl⟩ := mapError_eq_error.mp h
    exact Or.inl rfl
  · rcases bind_eq_error.mp h with h | ⟨d, -, h⟩
    · obtain ⟨f, -, rfl⟩ := mapError_eq_error.mp h
      cases f with
      | breakdown message => exact Or.inr ⟨message, rfl⟩
      | _ => exact Or.inl rfl
    · exact entriesAt path d e h

theorem read? {s : Shelf} {name : String} {x : Except LoadError Data.Entries} (h : s.read? yaml t name = some x) :
    Reports x := by
  cases s with
  | directory path =>
    simp only [Shelf.read?] at h
    split at h
    · cases h
      exact readFile _
    · cases h
  | bundled shown =>
    obtain ⟨d, -, rfl⟩ := Option.map_eq_some_iff.mp h
    exact entriesAt _ d

theorem readFirst (shelves : List Shelf) (name : String) : Reports (Library.readFirst yaml t shelves name) := by
  intro e h
  unfold Library.readFirst at h
  cases hfound : shelves.findSome? (·.read? yaml t name) with
  | none =>
    rw [hfound] at h
    cases h
    exact Or.inl rfl
  | some x =>
    rw [hfound] at h
    obtain ⟨s, -, hs⟩ := List.exists_of_findSome?_eq_some hfound
    exact read? hs e h

theorem readAll (shelves : List Shelf) : Reports (Library.readAll yaml t shelves) := by
  intro e h
  unfold Library.readAll at h
  dsimp only at h
  split at h
  · obtain ⟨name, -, h⟩ := exists_of_mapM_eq_error h
    exact readFirst shelves name e h
  · cases h
    exact Or.inl rfl

end Reports

/-! ### Parses -/

namespace Library

variable {yaml : Yaml.Reader} {s : SearchPath} {t : FileTree}

end Library
end SceneScript
