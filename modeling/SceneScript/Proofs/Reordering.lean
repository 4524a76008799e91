import SceneScript.Proofs.Matching
import SceneScript.Proofs.Totality

/-!
The order of clauses. Two clauses conflict if one writes what the other writes, or a record that holds it. Clauses that
do not conflict can change places: the attributes after all clauses are the same but for the order of keys, also in
records. So every order in which conflicting clauses keep theirs gives the same attributes.
-/

namespace SceneScript

/-! ### Orders that keep a relation -/

section
variable {α : Type} {R : α → α → Prop} {x y : α} {xs ys before after : List α}

/-- The second list is the first in another order, in which elements that `R` relates stand as they stood. Elements are
    told by their places in the first list. -/
def Rearranges (R : α → α → Prop) (xs ys : List α) : Prop :=
  ∃ placed : List (α × Nat), placed.Perm xs.zipIdx ∧ placed.map Prod.fst = ys ∧
    placed.Pairwise fun p q => R p.1 q.1 → p.2 < q.2

/-- The second list comes of the first by exchanging neighbours that `R` does not relate. -/
inductive Swaps (R : α → α → Prop) : List α → List α → Prop
  | refl (xs : List α) : Swaps R xs xs
  | cons (x : α) {xs ys : List α} (h : Swaps R xs ys) : Swaps R (x :: xs) (x :: ys)
  | swap (x y : α) (xs : List α) (h : ¬R x y) : Swaps R (x :: y :: xs) (y :: x :: xs)
  | trans {xs ys zs : List α} (h : Swaps R xs ys) (h' : Swaps R ys zs) : Swaps R xs zs

theorem Swaps.append (before : List α) (h : Swaps R xs ys) : Swaps R (before ++ xs) (before ++ ys) := by
  induction before with
  | nil => exact h
  | cons x before ih => exact .cons x ih

/-- An element passes those that it is not related to. -/
theorem Swaps.front (h : ∀ x ∈ before, ¬R x y) : Swaps R (before ++ y :: after) (y :: (before ++ after)) := by
  induction before with
  | nil => exact .refl _
  | cons x before ih =>
    obtain ⟨hx, hmore⟩ := List.forall_mem_cons.mp h
    exact .trans (.cons x (ih hmore)) (.swap x y _ hx)

/-- The first element of the new order passes all that stood before it; then the rest is put in order. -/
theorem swaps_of_placed (hsymm : ∀ x y, R x y → R y x) {placed sorted : List (α × Nat)} (hperm : placed.Perm sorted)
    (hsorted : sorted.Pairwise fun p q => p.2 < q.2) (hkept : placed.Pairwise fun p q => R p.1 q.1 → p.2 < q.2) :
    Swaps R (sorted.map Prod.fst) (placed.map Prod.fst) := by
  induction placed generalizing sorted with
  | nil =>
    rw [hperm.nil_eq]
    exact .refl _
  | cons p placed ih =>
    obtain ⟨before, after, rfl⟩ := List.append_of_mem (hperm.mem_iff.mp List.mem_cons_self)
    obtain ⟨hfirst, hkept⟩ := List.pairwise_cons.mp hkept
    have hrest : placed.Perm (before ++ after) := (hperm.trans List.perm_middle).cons_inv
    have hpass : ∀ x ∈ before.map Prod.fst, ¬R x p.1 := by
      intro x hx hrelated
      obtain ⟨q, hq, rfl⟩ := List.mem_map.mp hx
      have hlater : p.2 < q.2 := hfirst q (hrest.mem_iff.mpr (List.mem_append_left after hq)) (hsymm _ _ hrelated)
      have hearlier : q.2 < p.2 := (List.pairwise_append.mp hsorted).2.2 q hq p List.mem_cons_self
      omega
    have hfront : Swaps R ((before ++ p :: after).map Prod.fst) (p.1 :: (before ++ after).map Prod.fst) := by
      rw [List.map_append, List.map_cons, List.map_append]
      exact .front hpass
    have hsub : (before ++ after).Sublist (before ++ p :: after) :=
      (List.Sublist.refl before).append (List.sublist_cons_self p after)
    exact hfront.trans (.cons p.1 (ih hrest (hsorted.sublist hsub) hkept))

theorem Rearranges.swaps (hsymm : ∀ x y, R x y → R y x) (h : Rearranges R xs ys) : Swaps R xs ys := by
  obtain ⟨placed, hperm, rfl, hkept⟩ := h
  have hsorted : xs.zipIdx.Pairwise fun p q => p.2 < q.2 := by
    rw [← List.pairwise_map (f := Prod.snd) (R := (· < ·)), List.zipIdx_map_snd]
    exact List.pairwise_lt_range'
  have hswaps := swaps_of_placed hsymm hperm hsorted hkept
  rwa [List.zipIdx_map_fst] at hswaps

end

/-! ### Values up to the order of keys -/

/-- The values are the same but for the order of fields, at every depth. -/
inductive Value.Alike : Value → Value → Prop
  | scalar (s : Scalar) : Alike (.scalar s) (.scalar s)
  | record {fields fields' : List (String × Value)} (keys : (Assoc.keys fields).Perm (Assoc.keys fields'))
      (values : ∀ key v v', Assoc.get? fields key = some v → Assoc.get? fields' key = some v' → Alike v v') :
      Alike (.record fields) (.record fields')

/-- The attributes are the same but for the order of keys, at every depth. -/
def Attributes.Alike (attributes attributes' : Attributes) : Prop :=
  Value.Alike (.record attributes) (.record attributes')

namespace Value.Alike

variable {u v w : Value} {key key' : String} {fields fields' : List (String × Value)}

theorem sizeOf_lt_of_get? (h : Assoc.get? fields key = some v) : sizeOf v < sizeOf fields := by
  obtain ⟨key', hmem⟩ := Assoc.mem_of_get? h
  have hpair := List.sizeOf_lt_of_mem hmem
  simp only [Prod.mk.sizeOf_spec] at hpair
  omega

theorem refl (v : Value) : Alike v v := by
  cases v with
  | scalar s => exact .scalar s
  | record fields =>
    refine .record (List.Perm.refl _) fun key v v' hv hv' => ?_
    obtain rfl := Option.some.inj (hv.symm.trans hv')
    have hsmaller : sizeOf v < 1 + sizeOf fields := Nat.lt_add_left 1 (sizeOf_lt_of_get? hv)
    exact refl v
termination_by sizeOf v

theorem trans (h : Alike u v) (h' : Alike v w) : Alike u w := by
  induction h generalizing w with
  | scalar s => exact h'
  | record keys values ih =>
    cases h' with
    | record keys' values' =>
      refine .record (keys.trans keys') fun key v w hv hw => ?_
      obtain ⟨middle, hmiddle⟩ := Assoc.exists_get?_of_mem_keys (keys.mem_iff.mp (Assoc.mem_keys_iff.mpr ⟨v, hv⟩))
      exact ih key v middle hv hmiddle (values' key middle w hmiddle hw)

/-- Under each key stand alike values, or no values. -/
theorem get?_cases (h : Alike (.record fields) (.record fields')) (key : String) :
    Assoc.get? fields key = none ∧ Assoc.get? fields' key = none ∨
      ∃ v v', Assoc.get? fields key = some v ∧ Assoc.get? fields' key = some v' ∧ Alike v v' := by
  cases h with
  | record keys values =>
    by_cases hmem : key ∈ Assoc.keys fields
    · obtain ⟨v, hv⟩ := Assoc.mem_keys_iff.mp hmem
      obtain ⟨v', hv'⟩ := Assoc.mem_keys_iff.mp (keys.mem_iff.mp hmem)
      exact Or.inr ⟨v, v', hv, hv', values key v v' hv hv'⟩
    · exact Or.inl ⟨Assoc.get?_of_notMem hmem, Assoc.get?_of_notMem fun hmem' => hmem (keys.mem_iff.mpr hmem')⟩

theorem of_get? (hkeys : (Assoc.keys fields).Perm (Assoc.keys fields'))
    (h : ∀ key, Assoc.get? fields key = Assoc.get? fields' key) : Alike (.record fields) (.record fields') := by
  refine .record hkeys fun key v v' hv hv' => ?_
  rw [h, hv'] at hv
  cases hv
  exact refl v

theorem contains_eq (h : Alike (.record fields) (.record fields')) (key : String) :
    Assoc.contains fields key = Assoc.contains fields' key := by
  rcases h.get?_cases key with ⟨hnone, hnone'⟩ | ⟨v, v', hv, hv', -⟩
  · rw [Assoc.contains, Assoc.contains, hnone, hnone']
  · rw [Assoc.contains, Assoc.contains, hv, hv']
    rfl

theorem set (h : Alike (.record fields) (.record fields')) (key : String) (hv : Alike v w) :
    Alike (.record (Assoc.set fields key v)) (.record (Assoc.set fields' key w)) := by
  have hcontains := h.contains_eq key
  obtain ⟨keys, values⟩ : (Assoc.keys fields).Perm (Assoc.keys fields') ∧ ∀ key v v',
      Assoc.get? fields key = some v → Assoc.get? fields' key = some v' → Alike v v' := by
    cases h with
    | record keys values => exact ⟨keys, values⟩
  refine .record ?_ fun key' u u' hu hu' => ?_
  · rw [Assoc.keys_set, Assoc.keys_set, ← hcontains]
    split
    · exact keys
    · exact keys.append_right [key]
  · by_cases heq : key = key'
    · subst heq
      rw [Assoc.get?_set_self] at hu hu'
      cases hu
      cases hu'
      exact hv
    · rw [Assoc.get?_set_of_ne heq] at hu hu'
      exact values key' u u' hu hu'

/-- Of two keys it does not matter which is set first. -/
theorem set_set (h : key ≠ key') (fields : List (String × Value)) (v v' : Value) :
    Alike (.record (Assoc.set (Assoc.set fields key v) key' v'))
      (.record (Assoc.set (Assoc.set fields key' v') key v)) := by
  refine of_get? ?_ fun other => ?_
  · have hkey : (key == key') = false := by simpa using h
    have hkey' : (key' == key) = false := by simpa using h.symm
    simp only [Assoc.keys_set, Assoc.contains_set, hkey, hkey', Bool.false_or]
    split <;> split <;> simp only [List.append_assoc, List.Perm.refl]
    exact (List.Perm.swap key' key []).append_left _
  · by_cases hother : key = other
    · subst hother
      rw [Assoc.get?_set_of_ne h.symm, Assoc.get?_set_self, Assoc.get?_set_self]
    · by_cases hother' : key' = other
      · subst hother'
        rw [Assoc.get?_set_self, Assoc.get?_set_of_ne h, Assoc.get?_set_self]
      · rw [Assoc.get?_set_of_ne hother', Assoc.get?_set_of_ne hother, Assoc.get?_set_of_ne hother,
          Assoc.get?_set_of_ne hother']

theorem record_fields (h : Alike v w) : Alike (.record v.fields) (.record w.fields) := by
  cases h with
  | scalar s => exact refl _
  | record keys values => exact .record keys values

end Value.Alike

/-! ### Assignments -/

namespace Clause

/-- What an assignment writes: an attribute, or a field in one. -/
def Assignment.path : Assignment → List String
  | .attribute key _ => [key]
  | .field group key _ => [group, key]

/-- The attribute that an assignment writes, as a whole or in part. -/
def Assignment.key : Assignment → String
  | .attribute key _ => key
  | .field group _ _ => group

/-- The value of this attribute after an assignment, by the value before. -/
def Assignment.valueAfter (old : Option Value) : Assignment → Value
  | .attribute _ v => v
  | .field _ key v => .record (Assoc.set ((old.map Value.fields).getD []) key v)

variable {a b : Assignment} {attributes attributes' : Attributes}

theorem Assignment.apply_eq (a : Assignment) (attributes : Attributes) :
    a.apply attributes = Assoc.set attributes a.key (a.valueAfter (Assoc.get? attributes a.key)) := by
  cases a <;> rfl

theorem Assignment.apply_alike (h : attributes.Alike attributes') (a : Assignment) :
    (a.apply attributes).Alike (a.apply attributes') := by
  rw [a.apply_eq, a.apply_eq]
  refine h.set a.key ?_
  rcases a with ⟨key, v⟩ | ⟨group, key, v⟩
  · exact .refl v
  · refine .set ?_ key (.refl v)
    rcases h.get?_cases group with ⟨hnone, hnone'⟩ | ⟨old, old', hold, hold', halike⟩
    · simp only [Assignment.key, hnone, hnone']
      exact .refl _
    · simp only [Assignment.key, hold, hold']
      exact halike.record_fields

/-- Assignments with paths apart can be made in either order. -/
theorem Assignment.apply_comm (hab : ¬a.path <+: b.path) (hba : ¬b.path <+: a.path) (attributes : Attributes) :
    (b.apply (a.apply attributes)).Alike (a.apply (b.apply attributes)) := by
  by_cases hkey : a.key = b.key
  · -- Both write fields of one record, and so different ones.
    rcases a with ⟨key, v⟩ | ⟨group, key, v⟩
    · cases b <;> cases hkey <;> simp [Assignment.path] at hab
    · rcases b with ⟨key', v'⟩ | ⟨group', key', v'⟩ <;> cases hkey
      · simp [Assignment.path] at hba
      · have hne : key ≠ key' := by
          rintro rfl
          simp [Assignment.path] at hab
        simp only [Assignment.apply_eq, Assignment.key, Assignment.valueAfter, Assoc.get?_set_self, Assoc.set_set]
        exact Value.Alike.set (.refl _) _ (.set_set hne _ v v')
  · simp only [Assignment.apply_eq, Assoc.get?_set_of_ne hkey, Assoc.get?_set_of_ne (Ne.symm hkey)]
    exact .set_set hkey _ _ _

/-! ### Outcomes -/

/-- Both runs fail by the same fault, or both come to attributes that are alike. -/
inductive Agree : Except Fault Attributes → Except Fault Attributes → Prop
  | ok {attributes attributes' : Attributes} (h : attributes.Alike attributes') :
      Agree (.ok attributes) (.ok attributes')
  | error (f : Fault) : Agree (.error f) (.error f)

variable {x y z : Except Fault Attributes} {source : String} {c d : List Token} {clauses clauses' : List (List Token)}

theorem Agree.refl (x : Except Fault Attributes) : Agree x x := by
  cases x with
  | error f => exact .error f
  | ok attributes => exact .ok (.refl _)

theorem Agree.trans (h : Agree x y) (h' : Agree y z) : Agree x z := by
  cases h with
  | error f => exact h'
  | ok h =>
    cases h' with
    | ok h' => exact .ok (Value.Alike.trans h h')

theorem Agree.bind {f g : Attributes → Except Fault Attributes} (h : Agree x y)
    (hfg : ∀ attributes attributes', attributes.Alike attributes' → Agree (f attributes) (g attributes')) :
    Agree (x >>= f) (y >>= g) := by
  cases h with
  | error fault => exact .error fault
  | ok h => exact hfg _ _ h

/-- The attributes after what a clause sets, if it sets anything. -/
def change (found : Option Assignment) (attributes : Attributes) : Attributes :=
  (found.map (·.apply attributes)).getD attributes

theorem applyTo_of_ok {found : Option Assignment} (h : assignment? source c = .ok found) (attributes : Attributes) :
    applyTo source attributes c = .ok (change found attributes) := by
  rw [applyTo, h]
  cases found <;> rfl

theorem applyTo_of_error {f : Fault} (h : assignment? source c = .error f) (attributes : Attributes) :
    applyTo source attributes c = .error f := by
  rw [applyTo, h]
  rfl

theorem applyTo_agree (h : attributes.Alike attributes') (source : String) (c : List Token) :
    Agree (applyTo source attributes c) (applyTo source attributes' c) := by
  cases hc : assignment? source c with
  | error f =>
    rw [applyTo_of_error hc, applyTo_of_error hc]
    exact .error f
  | ok found =>
    rw [applyTo_of_ok hc, applyTo_of_ok hc]
    cases found with
    | none => exact .ok h
    | some a => exact .ok (Assignment.apply_alike h a)

theorem foldlM_agree (h : attributes.Alike attributes') (source : String) (clauses : List (List Token)) :
    Agree (clauses.foldlM (applyTo source) attributes) (clauses.foldlM (applyTo source) attributes') := by
  induction clauses generalizing attributes attributes' with
  | nil => exact .ok h
  | cons c clauses ih => exact (applyTo_agree h source c).bind fun _ _ => ih

theorem firstMatch_eq_error {rules : List Rule} {f : Fault} (h : firstMatch rules source c = .error f) :
    ∃ rule ∈ rules, rule source c = .error f := by
  induction rules with
  | nil => cases h
  | cons rule rules ih =>
    rw [firstMatch] at h
    split at h
    · obtain ⟨rule', hrule', herror⟩ := ih h
      exact ⟨rule', List.mem_cons_of_mem rule hrule', herror⟩
    · exact ⟨rule, List.mem_cons_self, h⟩

/-- A clause fails by one fault only. -/
theorem eq_infiniteAge {f : Fault} (h : assignment? source c = .error f) : f = .infiniteAge := by
  obtain ⟨rule, hrule, herror⟩ := firstMatch_eq_error h
  have hrule : rule = age ∨ rule ∈ rules.tail := List.mem_cons.mp hrule
  rcases hrule with rfl | hrule
  · unfold age at herror
    split at herror
    · split at herror
      · split at herror <;> cases herror
        rfl
      · cases herror
    · cases herror
  · obtain ⟨found, hfound⟩ := total_of_mem_tail rule hrule source c
    rw [hfound] at herror
    cases herror

/-! ### Clauses that conflict -/

/-- The path that a clause writes, if it satisfies a rule. -/
def path? (source : String) (clause : List Token) : Option (List String) :=
  match assignment? source clause with
  | .ok found => found.map (·.path)
  | .error _ => none

/-- The path that one clause writes is that of the other or leads to it. -/
def Conflict (source : String) (c d : List Token) : Prop :=
  ∃ p ∈ path? source c, ∃ q ∈ path? source d, p <+: q ∨ q <+: p

theorem Conflict.symm (h : Conflict source c d) : Conflict source d c := by
  obtain ⟨p, hp, q, hq, hpq⟩ := h
  exact ⟨q, hq, p, hp, hpq.symm⟩

theorem change_comm {found found' : Option Assignment} (hc : assignment? source c = .ok found)
    (hd : assignment? source d = .ok found') (h : ¬Conflict source c d) (attributes : Attributes) :
    (change found' (change found attributes)).Alike (change found (change found' attributes)) := by
  cases found with
  | none => exact .refl _
  | some a =>
    cases found' with
    | none => exact .refl _
    | some b =>
      have hp : a.path ∈ path? source c := by simp [path?, hc]
      have hq : b.path ∈ path? source d := by simp [path?, hd]
      exact Assignment.apply_comm (fun hab => h ⟨_, hp, _, hq, Or.inl hab⟩) (fun hba => h ⟨_, hp, _, hq, Or.inr hba⟩)
        attributes

theorem applyTo_exchanged (h : ¬Conflict source c d) (attributes : Attributes) :
    Agree (applyTo source attributes c >>= fun next => applyTo source next d)
      (applyTo source attributes d >>= fun next => applyTo source next c) := by
  cases hc : assignment? source c with
  | error f =>
    cases hd : assignment? source d with
    | error f' =>
      rw [applyTo_of_error hc, applyTo_of_error hd, eq_infiniteAge hc, eq_infiniteAge hd]
      exact .error _
    | ok found' =>
      rw [applyTo_of_error hc, applyTo_of_ok hd]
      show Agree (.error f) (applyTo source (change found' attributes) c)
      rw [applyTo_of_error hc]
      exact .error f
  | ok found =>
    rw [applyTo_of_ok hc]
    show Agree (applyTo source (change found attributes) d) _
    cases hd : assignment? source d with
    | error f' =>
      rw [applyTo_of_error hd, applyTo_of_error hd]
      exact .error f'
    | ok found' =>
      rw [applyTo_of_ok hd, applyTo_of_ok hd]
      show Agree _ (applyTo source (change found' attributes) c)
      rw [applyTo_of_ok hc]
      exact .ok (change_comm hc hd h attributes)

/-- Neighbours that do not conflict can be exchanged, any number of times. -/
theorem foldlM_swaps (h : Swaps (Conflict source) clauses clauses') (attributes : Attributes) :
    Agree (clauses.foldlM (applyTo source) attributes) (clauses'.foldlM (applyTo source) attributes) := by
  induction h generalizing attributes with
  | refl clauses => exact .refl _
  | cons c h ih =>
    rw [List.foldlM_cons, List.foldlM_cons]
    cases applyTo source attributes c with
    | error f => exact .error f
    | ok next => exact ih next
  | swap c d clauses h =>
    simp only [List.foldlM_cons, ← bind_assoc]
    exact (applyTo_exchanged h attributes).bind fun _ _ halike => foldlM_agree halike source clauses
  | trans h h' ih ih' => exact (ih attributes).trans (ih' attributes)

/-- Two neighbouring clauses that do not conflict can be exchanged, and so all orders of clauses in which those that
    conflict keep theirs give the same attributes up to the order of keys. -/
theorem foldlM_applyTo_rearranged (source : String) (attributes : Attributes) :
    (∀ before c d after, ¬Conflict source c d →
        Agree ((before ++ c :: d :: after).foldlM (applyTo source) attributes)
          ((before ++ d :: c :: after).foldlM (applyTo source) attributes)) ∧
      ∀ clauses clauses', Rearranges (Conflict source) clauses clauses' →
        Agree (clauses.foldlM (applyTo source) attributes) (clauses'.foldlM (applyTo source) attributes) :=
  ⟨fun before c d after h => foldlM_swaps ((Swaps.swap c d after h).append before) attributes,
    fun _ _ h => foldlM_swaps (h.swaps fun _ _ => Conflict.symm) attributes⟩

/-- A dress and a shirt where clothing was a text: each of them can be the first to make it a record. -/
theorem foldlM_applyTo_rearranged_rags :
    let word (upper : String) : Token := ⟨.word upper, upper, .empty ⟨1, 1, 0, none⟩⟩
    let dress := [word "RED", word "DRESS"]
    let shirt := [word "BLUE", word "SHIRT"]
    let rags : Attributes := [("clothing", .text "rags")]
    ¬Conflict "" dress shirt ∧ Rearranges (Conflict "") [dress, dress, shirt] [shirt, dress, dress] ∧
      Agree ([dress, shirt].foldlM (applyTo "") rags) ([shirt, dress].foldlM (applyTo "") rags) ∧
      Agree ([dress, dress, shirt].foldlM (applyTo "") rags) ([shirt, dress, dress].foldlM (applyTo "") rags) := by
  intro word dress shirt rags
  have hdress : path? "" dress = some ["clothing", Text.lower "DRESS"] := by
    rw [path?, assignment?_color rfl rfl rfl rfl]
    rfl
  have hshirt : path? "" shirt = some ["clothing", Text.lower "SHIRT"] := by
    rw [path?, assignment?_color rfl rfl rfl rfl]
    rfl
  have hfree : ¬Conflict "" dress shirt := by
    rintro ⟨p, hp, q, hq, hpq⟩
    rw [hdress] at hp
    rw [hshirt] at hq
    cases hp
    cases hq
    revert hpq
    decide +kernel
  have hkept : Rearranges (Conflict "") [dress, dress, shirt] [shirt, dress, dress] := by
    refine ⟨[(shirt, 2), (dress, 0), (dress, 1)], ?_, rfl, ?_⟩
    · have hmoved : ([(dress, 0), (dress, 1)] ++ [(shirt, 2)]).Perm ((shirt, 2) :: ([(dress, 0), (dress, 1)] ++ [])) :=
        List.perm_middle
      exact hmoved.symm
    · have hfree' : ¬Conflict "" shirt dress := fun h => hfree h.symm
      simp [hfree']
  obtain ⟨hexchange, hrearrange⟩ := foldlM_applyTo_rearranged "" rags
  exact ⟨hfree, hkept, hexchange [] dress shirt [] hfree, hrearrange _ _ hkept⟩

end Clause
end SceneScript
