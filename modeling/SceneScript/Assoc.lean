/-!
Maps as lists of pairs in insertion order. A key set again keeps its place; keys of a map are distinct
as long as it is built by these operations.
-/

namespace SceneScript.Assoc

variable {κ α : Type} [BEq κ]

def keys (m : List (κ × α)) : List κ := m.map Prod.fst

/-- The value under a key. -/
def get? (m : List (κ × α)) (k : κ) : Option α :=
  match m with
  | [] => none
  | (k', v) :: rest => if k' == k then some v else get? rest k

def contains (m : List (κ × α)) (k : κ) : Bool := (get? m k).isSome

/-- The map with `v` under `k`: in the place of the old value, or at the end. -/
def set (m : List (κ × α)) (k : κ) (v : α) : List (κ × α) :=
  match m with
  | [] => [(k, v)]
  | (k', v') :: rest => if k' == k then (k', v) :: rest else (k', v') :: set rest k v

/-- The map with `v` under `k` unless the key is taken already. -/
def add (m : List (κ × α)) (k : κ) (v : α) : List (κ × α) :=
  if contains m k then m else m ++ [(k, v)]

/-- The map with every pair of `updates` set in turn. -/
def merge (m updates : List (κ × α)) : List (κ × α) :=
  updates.foldl (fun m p => set m p.1 p.2) m

/-- The map made of pairs in turn; a later pair replaces the value of an earlier one. -/
def ofPairs (pairs : List (κ × α)) : List (κ × α) := merge [] pairs

/-- Setting a key keeps the places of all keys and puts a new one last. -/
theorem keys_set (m : List (κ × α)) (k : κ) (v : α) :
    keys (set m k v) = if contains m k then keys m else keys m ++ [k] := by
  induction m with
  | nil => simp [set, keys, contains, get?]
  | cons p rest ih =>
    by_cases hp : p.1 == k
    · simp [set, keys, contains, get?, hp]
    · simp only [keys, contains] at ih
      simp only [set, keys, contains, get?, hp, Bool.false_eq_true, ↓reduceIte, List.map_cons]
      rw [ih]
      split <;> simp_all

theorem mem_of_get? {m : List (κ × α)} {k : κ} {v : α} (h : get? m k = some v) : ∃ k', (k', v) ∈ m := by
  induction m with
  | nil => cases h
  | cons p m ih =>
    obtain ⟨k', v'⟩ := p
    unfold get? at h
    split at h
    · cases h
      exact ⟨k', List.mem_cons_self⟩
    · obtain ⟨k'', hk''⟩ := ih h
      exact ⟨k'', List.mem_cons_of_mem _ hk''⟩

theorem mem_foldl_add {pairs m : List (κ × α)} {q : κ × α}
    (h : q ∈ pairs.foldl (fun t p => add t p.1 p.2) m) : q ∈ m ∨ q ∈ pairs := by
  induction pairs generalizing m with
  | nil => exact Or.inl h
  | cons p pairs ih =>
    rcases ih h with hq | hq
    · simp only [add] at hq
      split at hq
      · exact Or.inl hq
      · rcases List.mem_append.mp hq with hq | hq
        · exact Or.inl hq
        · rw [List.mem_singleton.mp hq]
          exact Or.inr List.mem_cons_self
    · exact Or.inr (List.mem_cons_of_mem _ hq)

theorem get?_of_prefix {m m' : List (κ × α)} {k : κ} {v : α} (h : m <+: m') (hget : get? m k = some v) :
    get? m' k = some v := by
  obtain ⟨more, rfl⟩ := h
  induction m with
  | nil => cases hget
  | cons p rest ih =>
    rw [List.cons_append]
    unfold get? at hget ⊢
    split at hget
    · rename_i hk
      rw [if_pos hk]
      exact hget
    · rename_i hk
      rw [if_neg hk]
      exact ih hget

theorem get?_append (m m' : List (κ × α)) (k : κ) : get? (m ++ m') k = (get? m k).or (get? m' k) := by
  induction m with
  | nil => rfl
  | cons p rest ih =>
    rw [List.cons_append, get?, get?]
    split
    · rfl
    · exact ih

theorem mem_set {m : List (κ × α)} {k : κ} {v : α} {q : κ × α} (h : q ∈ set m k v) : q ∈ m ∨ q.2 = v := by
  induction m with
  | nil =>
    rw [List.mem_singleton.mp h]
    exact Or.inr rfl
  | cons p rest ih =>
    unfold set at h
    split at h
    · rcases List.mem_cons.mp h with rfl | h
      · exact Or.inr rfl
      · exact Or.inl (List.mem_cons_of_mem p h)
    · rcases List.mem_cons.mp h with rfl | h
      · exact Or.inl List.mem_cons_self
      · exact (ih h).imp_left (List.mem_cons_of_mem p)

/-- Every value of a map made of pairs is the value of one of the pairs. -/
theorem exists_of_mem_ofPairs {pairs : List (κ × α)} {q : κ × α} (h : q ∈ ofPairs pairs) :
    ∃ p ∈ pairs, q.2 = p.2 := by
  have hmerge : ∀ {pairs m : List (κ × α)}, q ∈ merge m pairs → q ∈ m ∨ ∃ p ∈ pairs, q.2 = p.2 := by
    intro pairs
    induction pairs with
    | nil => exact fun h => Or.inl h
    | cons p pairs ih =>
      intro m h
      rcases ih h with h | ⟨p', hp', heq⟩
      · exact (mem_set h).imp_right fun heq => ⟨p, List.mem_cons_self, heq⟩
      · exact Or.inr ⟨p', List.mem_cons_of_mem p hp', heq⟩
  rcases hmerge h with h | h
  · cases h
  · exact h

theorem set_ne_nil (m : List (κ × α)) (k : κ) (v : α) : set m k v ≠ [] := by
  cases m with
  | nil => exact List.cons_ne_nil _ _
  | cons p rest =>
    unfold set
    split <;> exact List.cons_ne_nil _ _

theorem merge_ne_nil {m : List (κ × α)} (h : m ≠ []) (updates : List (κ × α)) : merge m updates ≠ [] := by
  induction updates generalizing m with
  | nil => exact h
  | cons p updates ih => exact ih (set_ne_nil m p.1 p.2)

theorem isEmpty_ofPairs (pairs : List (κ × α)) : (ofPairs pairs).isEmpty = pairs.isEmpty := by
  cases pairs with
  | nil => rfl
  | cons p pairs => exact List.isEmpty_eq_false_iff.mpr (merge_ne_nil (set_ne_nil [] p.1 p.2) pairs)

section
variable [LawfulBEq κ]

/-- A new key goes last. -/
theorem set_of_notMem {m : List (κ × α)} {k : κ} (v : α) (h : k ∉ keys m) : set m k v = m ++ [(k, v)] := by
  induction m with
  | nil => rfl
  | cons p rest ih =>
    have hp : p.1 ≠ k := fun heq => h (by rw [← heq]; exact List.mem_cons_self)
    have hrest : k ∉ keys rest := fun hmem => h (List.mem_cons_of_mem _ hmem)
    rw [set, if_neg (by simpa using hp), ih hrest]
    rfl

theorem merge_of_nodup {m updates : List (κ × α)} (h : (keys (m ++ updates)).Nodup) :
    merge m updates = m ++ updates := by
  induction updates generalizing m with
  | nil => exact (List.append_nil m).symm
  | cons p updates ih =>
    have hnew : p.1 ∉ keys m := by
      intro hmem
      rw [keys, List.map_append] at h
      exact (List.nodup_append.mp h).2.2 p.1 hmem p.1 List.mem_cons_self rfl
    rw [List.append_cons] at h ⊢
    rw [← ih h, ← set_of_notMem p.2 hnew]
    rfl

/-- A map made of pairs with distinct keys is these pairs. -/
theorem ofPairs_of_nodup {pairs : List (κ × α)} (h : (keys pairs).Nodup) : ofPairs pairs = pairs := merge_of_nodup h

theorem exists_get?_of_mem_keys {m : List (κ × α)} {k : κ} (h : k ∈ keys m) : ∃ v, get? m k = some v := by
  induction m with
  | nil => cases h
  | cons p rest ih =>
    unfold get?
    split
    · exact ⟨p.2, rfl⟩
    · rename_i hp
      rcases List.mem_cons.mp h with rfl | h
      · simp at hp
      · exact ih h

theorem get?_set_self (m : List (κ × α)) (k : κ) (v : α) : get? (set m k v) k = some v := by
  induction m with
  | nil => simp [set, get?]
  | cons p rest ih => by_cases h : p.1 == k <;> simp [set, get?, h, ih]

theorem get?_set_of_ne {m : List (κ × α)} {k k' : κ} {v : α} (h : k ≠ k') :
    get? (set m k v) k' = get? m k' := by
  induction m with
  | nil => simp [set, get?, h]
  | cons p rest ih =>
    by_cases hp : p.1 == k
    · have : p.1 = k := by simpa using hp
      simp [set, get?, this, h]
    · simp [set, get?, hp, ih]

theorem get?_of_notMem {m : List (κ × α)} {k : κ} (h : k ∉ keys m) : get? m k = none := by
  induction m with
  | nil => rfl
  | cons p rest ih =>
    have hp : p.1 ≠ k := fun heq => h (by rw [← heq]; exact List.mem_cons_self)
    rw [get?, if_neg (by simpa using hp)]
    exact ih fun hmem => h (List.mem_cons_of_mem _ hmem)

theorem get?_of_mem {m : List (κ × α)} {k : κ} {v : α} (h : (keys m).Nodup) (hmem : (k, v) ∈ m) : get? m k = some v := by
  induction m with
  | nil => cases hmem
  | cons p rest ih =>
    obtain ⟨hnew, hrest⟩ := List.nodup_cons.mp h
    rcases List.mem_cons.mp hmem with rfl | hmem
    · rw [get?, if_pos (beq_self_eq_true k)]
    · have hne : p.1 ≠ k := fun heq => hnew (heq ▸ List.mem_map_of_mem hmem)
      rw [get?, if_neg (by simpa using hne), ih hrest hmem]

theorem mem_keys_iff {m : List (κ × α)} {k : κ} : k ∈ keys m ↔ ∃ v, get? m k = some v := by
  refine ⟨exists_get?_of_mem_keys, fun ⟨v, hv⟩ => ?_⟩
  by_cases h : k ∈ keys m
  · exact h
  · rw [get?_of_notMem h] at hv
    cases hv

theorem contains_set (m : List (κ × α)) (k k' : κ) (v : α) :
    contains (set m k v) k' = (k == k' || contains m k') := by
  by_cases h : k = k'
  · subst h
    simp [contains, get?_set_self]
  · simp [contains, get?_set_of_ne h, h]

/-- Of two values set under one key the later one counts. -/
theorem set_set (m : List (κ × α)) (k : κ) (v v' : α) : set (set m k v) k v' = set m k v' := by
  induction m with
  | nil => simp [set]
  | cons p rest ih => by_cases h : p.1 == k <;> simp [set, h, ih]

theorem nodup_set {m : List (κ × α)} (h : (keys m).Nodup) (k : κ) (v : α) : (keys (set m k v)).Nodup := by
  by_cases hmem : k ∈ keys m
  · obtain ⟨v', hv'⟩ := exists_get?_of_mem_keys hmem
    rwa [keys_set, if_pos (by rw [contains, hv']; rfl)]
  · rw [set_of_notMem v hmem, keys, List.map_append, List.map_singleton, List.nodup_append]
    refine ⟨h, by simp, fun a ha b hb hab => hmem ?_⟩
    have hb : b = k := List.mem_singleton.mp hb
    rw [← hb, ← hab]
    exact ha

theorem eq_of_mem_set {m : List (κ × α)} {p : κ × α} {k : κ} {v : α} (h : p ∈ set m k v) : p ∈ m ∨ p = (k, v) := by
  induction m with
  | nil => exact Or.inr (List.mem_singleton.mp h)
  | cons q rest ih =>
    unfold set at h
    split at h
    · rename_i hq
      rcases List.mem_cons.mp h with rfl | h
      · exact Or.inr (by rw [eq_of_beq hq])
      · exact Or.inl (List.mem_cons_of_mem q h)
    · rcases List.mem_cons.mp h with rfl | h
      · exact Or.inl List.mem_cons_self
      · exact (ih h).imp_left (List.mem_cons_of_mem q)

/-- A map made of pairs holds distinct keys and nothing but pairs of those. -/
theorem ofPairs_sound (pairs : List (κ × α)) : (keys (ofPairs pairs)).Nodup ∧ ∀ p ∈ ofPairs pairs, p ∈ pairs := by
  have hmerge : ∀ (pairs m : List (κ × α)), (keys m).Nodup →
      (keys (merge m pairs)).Nodup ∧ ∀ p ∈ merge m pairs, p ∈ m ∨ p ∈ pairs := by
    intro pairs
    induction pairs with
    | nil => exact fun m hm => ⟨hm, fun p hp => Or.inl hp⟩
    | cons q pairs ih =>
      intro m hm
      obtain ⟨hnodup, hmem⟩ := ih (set m q.1 q.2) (nodup_set hm q.1 q.2)
      refine ⟨hnodup, fun p hp => ?_⟩
      rcases hmem p hp with hp | hp
      · exact (eq_of_mem_set hp).imp_right fun heq => by rw [heq]; exact List.mem_cons_self
      · exact Or.inr (List.mem_cons_of_mem q hp)
  obtain ⟨hnodup, hmem⟩ := hmerge pairs [] List.nodup_nil
  exact ⟨hnodup, fun p hp => (hmem p hp).resolve_left List.not_mem_nil⟩

theorem get?_add (m : List (κ × α)) (k : κ) (v : α) (k' : κ) :
    get? (add m k v) k' = (get? m k').or (get? [(k, v)] k') := by
  unfold add
  split
  · rename_i htaken
    by_cases hk : k = k'
    · subst hk
      obtain ⟨v', hv'⟩ := Option.isSome_iff_exists.mp htaken
      rw [hv']
      rfl
    · rw [get?, if_neg (by simpa using hk), get?, Option.or_none]
  · exact get?_append m [(k, v)] k'

/-- Of several pairs with one key the first counts, and what is there before goes first. -/
theorem get?_foldl_add (pairs m : List (κ × α)) (k : κ) :
    get? (pairs.foldl (fun t p => add t p.1 p.2) m) k = (get? m k).or (get? pairs k) := by
  induction pairs generalizing m with
  | nil => exact (Option.or_none ..).symm
  | cons p pairs ih =>
    have hcons : get? (p :: pairs) k = (get? [p] k).or (get? pairs k) := get?_append [p] pairs k
    rw [List.foldl_cons, ih, get?_add, hcons, Option.or_assoc]

theorem get?_merge_of_notMem {updates : List (κ × α)} {k : κ} (h : k ∉ keys updates) (m : List (κ × α)) :
    get? (merge m updates) k = get? m k := by
  induction updates generalizing m with
  | nil => rfl
  | cons p updates ih =>
    have hp : p.1 ≠ k := fun heq => h (by rw [← heq]; exact List.mem_cons_self)
    have hmerge : merge m (p :: updates) = merge (set m p.1 p.2) updates := rfl
    rw [hmerge, ih fun hmem => h (List.mem_cons_of_mem _ hmem), get?_set_of_ne hp]

/-- Of several pairs with one key the last counts. -/
theorem get?_ofPairs_of_last (before : List (κ × α)) {after : List (κ × α)} {k : κ} (v : α) (h : k ∉ keys after) :
    get? (ofPairs (before ++ (k, v) :: after)) k = some v := by
  have hmerge : ofPairs (before ++ (k, v) :: after) = merge (set (ofPairs before) k v) after := List.foldl_append
  rw [hmerge, get?_merge_of_notMem h, get?_set_self]

/-- Updates go before what they are merged into. -/
theorem get?_merge {m updates : List (κ × α)} (h : (keys updates).Nodup) (k : κ) :
    get? (merge m updates) k = (get? updates k).or (get? m k) := by
  induction updates generalizing m with
  | nil => rfl
  | cons p updates ih =>
    obtain ⟨hnew, hrest⟩ := List.nodup_cons.mp h
    have hmerge : merge m (p :: updates) = merge (set m p.1 p.2) updates := rfl
    rw [hmerge, ih hrest]
    by_cases hp : p.1 = k
    · subst hp
      rw [get?_of_notMem hnew, get?_set_self, get?, if_pos (beq_self_eq_true _)]
      rfl
    · rw [get?_set_of_ne hp, get?, if_neg (by simpa using hp)]

end

end SceneScript.Assoc
