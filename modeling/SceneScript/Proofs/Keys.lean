import SceneScript.Data

/-!
Keys of mappings. A key is compared as equal with itself alone, unless it is a float; so a mapping with another one
merged into it has under each such key what the other sets there, and else what it had.
-/

namespace SceneScript

namespace Assoc

variable {κ α : Type} [BEq κ] {k : κ}

/-- The key is compared as equal with itself alone. -/
def IsExact (k : κ) : Prop := ∀ k', ((k' == k) = true ↔ k' = k) ∧ ((k == k') = true ↔ k = k')

theorem get?_set_of_exact (hk : IsExact k) (m : List (κ × α)) (k' : κ) (v : α) :
    get? (set m k' v) k = (get? [(k', v)] k).or (get? m k) := by
  induction m with
  | nil => exact (Option.or_none ..).symm
  | cons p rest ih =>
    obtain ⟨k₀, v₀⟩ := p
    unfold set
    have hpast : ∀ k' : κ, k' ≠ k → (k' == k) = false := fun k' hne => Bool.eq_false_iff.mpr (hne ∘ (hk k').1.mp)
    by_cases hfirst : (k₀ == k') = true
    · rw [if_pos hfirst]
      by_cases hold : k₀ = k
      · subst hold
        have hnew : k₀ = k' := (hk k').2.mp hfirst
        subst hnew
        simp [get?, hfirst]
      · have hnew : k' ≠ k := by
          rintro rfl
          exact hold ((hk k₀).1.mp hfirst)
        simp [get?, hpast k₀ hold, hpast k' hnew]
    · have hcons : ∀ rest : List (κ × α), get? ((k₀, v₀) :: rest) k = if k₀ == k then some v₀ else get? rest k :=
        fun _ => rfl
      rw [if_neg hfirst, hcons, hcons, ih]
      by_cases hold : (k₀ == k) = true
      · have hnew : k' ≠ k := by
          rintro rfl
          exact hfirst hold
        rw [if_pos hold, if_pos hold]
        simp [get?, hpast k' hnew]
      · rw [if_neg hold, if_neg hold]

/-- Updates go before what they are merged into. -/
theorem get?_merge_of_exact (hk : IsExact k) (m updates : List (κ × α)) :
    get? (merge m updates) k = (get? (ofPairs updates) k).or (get? m k) := by
  induction updates generalizing m with
  | nil => rfl
  | cons p updates ih =>
    have hmerge : ∀ m : List (κ × α), merge m (p :: updates) = merge (set m p.1 p.2) updates := fun _ => rfl
    rw [ofPairs, hmerge, hmerge, ih, ih (set [] p.1 p.2), get?_set_of_exact hk, Option.or_assoc]
    rfl

end Assoc

/-- The key is a float. -/
def Key.isFloat : Key → Bool
  | some (.number (.float _)) => true
  | _ => false

theorem Scalar.beq_iff {s s' : Scalar} (h : Key.isFloat (some s) = false ∨ Key.isFloat (some s') = false) :
    (s == s') = true ↔ s = s' := by
  have hbool : ∀ b b' : Bool, (Scalar.bool b == .bool b') = (b == b') := fun _ _ => rfl
  have hint : ∀ m n : Int, (Scalar.number (.int m) == .number (.int n)) = (m == n) := fun _ _ => rfl
  have htext : ∀ a b : String, (Scalar.text a == .text b) = (a == b) := fun _ _ => rfl
  rcases s with b | (m | x) | a <;> rcases s' with b' | (n | y) | b
  case number.float.number.float => simp [Key.isFloat] at h
  case bool.bool => simp [hbool]
  case number.int.number.int => simp [hint]
  case text.text => simp [htext]
  all_goals exact iff_of_false (fun heq => nomatch heq) (by simp)

theorem Key.beq_iff {k k' : Key} (h : k.isFloat = false ∨ k'.isFloat = false) : (k == k') = true ↔ k = k' := by
  rcases k with _ | s <;> rcases k' with _ | s'
  case some.some => simp [Scalar.beq_iff h]
  all_goals simp

theorem Key.exact_of_isFloat {k : Key} (h : k.isFloat = false) : Assoc.IsExact k :=
  fun _ => ⟨beq_iff (Or.inr h), beq_iff (Or.inl h)⟩

theorem Data.Entries.field?_set {entries : Data.Entries} {name field : String} (d : Data) (hne : field ≠ name) :
    field? (Assoc.set entries (some (.text name)) d) field = entries.field? field := by
  have hother : ((some (.text name) : Key) == some (.text field)) = false :=
    Bool.eq_false_iff.mpr fun heq => hne (by simpa using ((Key.beq_iff (Or.inl rfl)).mp heq).symm)
  rw [field?, Assoc.get?_set_of_exact (Key.exact_of_isFloat rfl), Assoc.get?, hother]
  rfl

end SceneScript
