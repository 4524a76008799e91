import SceneScript.Proofs.Blur.Parses

/-!
Texts on other lines. A blur that tells all letters apart, and forgets of a place what the line of a statement
decides, sees no difference between statements that say the same.
-/

namespace SceneScript
namespace Blur

/-! ### Blurs that tell all letters apart -/

variable {b : Blur}

theorem text_of_letters (hb : b.letter = id) (s : String) : b.text s = s := by
  rw [← String.toList_inj, toList_text, hb]
  exact List.map_id s.toList

mutual
theorem value_of_letters (hb : b.letter = id) : ∀ v : Value, b.value v = v
  | .scalar s => by cases s <;> simp [value, scalar, text_of_letters hb]
  | .record fields => by rw [value, attributes_of_letters hb fields]

theorem attributes_of_letters (hb : b.letter = id) : ∀ fields : Attributes, b.attributes fields = fields
  | [] => by rw [attributes]
  | (k, v) :: rest => by rw [attributes, value_of_letters hb v, attributes_of_letters hb rest]
end

section Letters
variable (hb : b.letter = id)
include hb

theorem entity_of_letters (e : Entity) : b.entity e = e := by
  have hposition : b.position e.position = e.position := by
    have htarget : e.position.relativeTo.map b.text = e.position.relativeTo := by
      rw [funext (text_of_letters hb)]
      exact Option.map_id'
    rw [position, htarget]
  rw [entity, attributes_of_letters hb, hposition]

theorem diagnostic_of_letters (d : Diagnostic) : b.diagnostic d = { d with span := b.span d.span } := by
  have hline : d.sourceLine.map b.text = d.sourceLine := by
    rw [funext (text_of_letters hb)]
    exact Option.map_id'
  rw [diagnostic, text_of_letters hb, hline]

theorem ResultsAlike.scene_of_letters {r r' : Result} (h : b.ResultsAlike r r') : r.scene = r'.scene := by
  have hentities : r.scene.entities = r'.scene.entities := by
    have hmapped := h.entities
    rwa [funext (entity_of_letters hb), List.map_id', List.map_id'] at hmapped
  calc r.scene
    _ = ⟨r.scene.entities, r.scene.environment, r.scene.metadata, r.scene.frozen⟩ := rfl
    _ = ⟨r'.scene.entities, r'.scene.environment, r'.scene.metadata, r'.scene.frozen⟩ := by
      rw [hentities, h.environment, h.metadata, h.frozen]

omit hb in
theorem reference?_reading (b : Blur) (r : Reading) : (b.reading r).reference? = r.reference?.map b.text := by
  unfold Reading.reference? reading
  cases r.outcome with
  | error failure => rfl
  | ok command => cases command <;> rfl

/-- Statements that say the same match where their places are not told apart. -/
theorem matches_of_letters {s s' : Statement} (htext : s.text = s'.text)
    (hplace : ∀ n, b.place (s.location n) = b.place (s'.location n)) :
    b.Matches s s' ∧ s.reference? = s'.reference? := by
  have hmatches : b.Matches s s' := ⟨by rw [htext], hplace⟩
  have hseen : ∀ s : Statement, s.reference? = (b.reading s.read).reference? := by
    intro s
    rw [reference?_reading, funext (text_of_letters hb)]
    exact Option.map_id'.symm
  exact ⟨hmatches, by rw [hseen, hseen, hmatches.reading]⟩

end Letters

/-! ### Any place, and any line of a file -/

/-- What tells nothing but places apart. -/
def anywhere : Blur where
  letter := id
  place l := ⟨0, 1, l.offset, none⟩
  letter_eq _ := Or.inl rfl
  offset_place _ := rfl
  place_unknown := rfl

/-- What tells nothing but lines and columns apart. -/
def onAnyLine : Blur where
  letter := id
  place l := ⟨0, 1, l.offset, l.filename⟩
  letter_eq _ := Or.inl rfl
  offset_place _ := rfl
  place_unknown := rfl

end Blur
end SceneScript
