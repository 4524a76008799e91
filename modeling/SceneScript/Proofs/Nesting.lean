import SceneScript.Attribute.Clause

/-!
What parentheses shield. Tokens whose parentheses nest are passed over as one: a lead in parentheses around them
is not found, the closing parenthesis behind them is the one that is looked for, and no separator in them that is
shielded cuts them apart.
-/

namespace SceneScript.Token

variable {p : Token → Bool} {depth : Nat} {t : Token} {tokens rest : List Token}

/-- The depth of parentheses after tokens. -/
def depthAfterAll (depth : Nat) (tokens : List Token) : Nat := tokens.foldl depthAfter depth

@[simp] theorem depthAfterAll_nil : depthAfterAll depth [] = depth := rfl

@[simp] theorem depthAfterAll_cons :
    depthAfterAll depth (t :: tokens) = depthAfterAll (depthAfter depth t) tokens := rfl

/-- The parentheses nest: with `depth` open before, every one that closes has one to close, and in the end all are
    closed. -/
def nests (depth : Nat) : List Token → Bool
  | [] => depth = 0
  | t :: rest => (t.kind ≠ .rightParen || 0 < depth) && nests (depthAfter depth t) rest

/-- No token that satisfies `p` stands outside of parentheses. -/
def shields (p : Token → Bool) (depth : Nat) : List Token → Bool
  | [] => true
  | t :: rest => (0 < depthAfter depth t || !p t) && shields p (depthAfter depth t) rest

/-! ### One token -/

theorem nests_nil (h : nests depth [] = true) : depth = 0 := by simpa [nests] using h

theorem nests_cons : nests depth (t :: rest) = true ↔
    (t.kind = .rightParen → 0 < depth) ∧ nests (depthAfter depth t) rest = true := by
  simp [nests, Decidable.imp_iff_not_or]

theorem shields_cons : shields p depth (t :: rest) = true ↔
    (depthAfter depth t = 0 → p t = false) ∧ shields p (depthAfter depth t) rest = true := by
  simp [shields, Decidable.imp_iff_not_or, Nat.pos_iff_ne_zero]

theorem depthAfter_of_word (h : t.kind = .word) (depth : Nat) : depthAfter depth t = depth := by rw [depthAfter, h]

theorem nests_cons_plain (hplain : ∀ d, depthAfter d t = d) (h : nests depth rest = true) :
    nests depth (t :: rest) = true := by
  rw [nests_cons, hplain]
  refine ⟨fun hclose => ?_, h⟩
  have hone := hplain 1
  rw [depthAfter, hclose] at hone
  exact absurd hone Nat.zero_ne_one

theorem shields_cons_plain (hplain : ∀ d, depthAfter d t = d) (hp : p t = false) (h : shields p depth rest = true) :
    shields p depth (t :: rest) = true := by
  rw [shields_cons, hplain]
  exact ⟨fun _ => hp, h⟩

theorem depthAfter_succ (h : t.kind = .rightParen → 0 < depth) : depthAfter (depth + 1) t = depthAfter depth t + 1 := by
  unfold depthAfter
  split
  · rfl
  · rename_i hkind
    have hpos := h hkind
    omega
  · rfl

/-- A bare separator ends the first group. -/
theorem splitGroupsFrom_cut (ht : depthAfter depth t = 0) (hp : p t = true) :
    splitGroupsFrom p depth (t :: rest) = [] :: splitGroupsFrom p 0 rest := by
  simp [splitGroupsFrom, ht, hp]

/-- A token that is no bare separator belongs to the first group. -/
theorem splitGroupsFrom_cons (h : depthAfter depth t = 0 → p t = false) :
    splitGroupsFrom p depth (t :: rest) = (splitGroupsFrom p (depthAfter depth t) rest).modifyHead (t :: ·) := by
  obtain ⟨group, groups, hgroups⟩ := List.exists_cons_of_ne_nil (splitGroupsFrom_ne_nil p (depthAfter depth t) rest)
  have hcut : ¬(decide (depthAfter depth t = 0) && p t) = true := by simpa using h
  simp only [splitGroupsFrom, if_neg hcut, hgroups, List.modifyHead_cons]

theorem takeClosed_cons (h : t.kind = .rightParen → 0 < depth) :
    Clause.takeClosed depth (t :: rest) = (Clause.takeClosed (depthAfter depth t) rest).map (t :: ·) := by
  cases hkind : t.kind with
  | rightParen =>
    obtain ⟨d, rfl⟩ := Nat.exists_eq_add_one.mpr (h hkind)
    simp only [Clause.takeClosed, depthAfter, hkind, Nat.add_sub_cancel]
  | _ => simp only [Clause.takeClosed, depthAfter, hkind]

/-! ### Tokens that nest -/

theorem nests_append (h : nests depth tokens = true) (hrest : nests 0 rest = true) :
    nests depth (tokens ++ rest) = true := by
  induction tokens generalizing depth with
  | nil => rwa [nests_nil h]
  | cons t tokens ih =>
    obtain ⟨hclose, hmore⟩ := nests_cons.mp h
    exact nests_cons.mpr ⟨hclose, ih hmore⟩

theorem splitGroupsFrom_of_shields (h : shields p depth tokens = true) :
    splitGroupsFrom p depth tokens = [tokens] := by
  induction tokens generalizing depth with
  | nil => rfl
  | cons t tokens ih =>
    obtain ⟨hplain, hmore⟩ := shields_cons.mp h
    rw [splitGroupsFrom_cons hplain, ih hmore, List.modifyHead_cons]

theorem nests_closes (h : nests depth tokens = true) : depthAfterAll depth tokens = 0 := by
  induction tokens generalizing depth with
  | nil => exact nests_nil h
  | cons t tokens ih => exact ih (nests_cons.mp h).2

/-- Behind tokens that close all parentheses a separator starts the split anew. -/
theorem splitGroupsFrom_append_cons (hclosed : depthAfterAll depth tokens = 0) (hp : p t = true)
    (ht : depthAfter 0 t = 0) :
    splitGroupsFrom p depth (tokens ++ t :: rest) = splitGroupsFrom p depth tokens ++ splitGroups p rest := by
  induction tokens generalizing depth with
  | nil =>
    obtain rfl : depth = 0 := hclosed
    exact splitGroupsFrom_cut ht hp
  | cons u tokens ih =>
    have hmore := ih hclosed
    rw [List.cons_append]
    by_cases hcut : depthAfter depth u = 0 ∧ p u = true
    · rw [hcut.1] at hmore
      rw [splitGroupsFrom_cut hcut.1 hcut.2, splitGroupsFrom_cut hcut.1 hcut.2, hmore]
      rfl
    · have hplain : depthAfter depth u = 0 → p u = false := by simpa using hcut
      obtain ⟨group, groups, hgroups⟩ :=
        List.exists_cons_of_ne_nil (splitGroupsFrom_ne_nil p (depthAfter depth u) tokens)
      rw [splitGroupsFrom_cons hplain, splitGroupsFrom_cons hplain, hmore, hgroups]
      rfl

/-- A bare separator behind such tokens ends their group. -/
theorem splitGroups_append_cons (hnests : nests 0 tokens = true) (h : shields p 0 tokens = true) (hp : p t = true)
    (ht : depthAfter 0 t = 0) : splitGroups p (tokens ++ t :: rest) = tokens :: splitGroups p rest := by
  rw [splitGroups, splitGroupsFrom_append_cons (nests_closes hnests) hp ht, splitGroupsFrom_of_shields h]
  rfl

theorem shields_of_nests (h : nests depth tokens = true) (hrest : shields p 1 rest = true) :
    shields p (depth + 1) (tokens ++ rest) = true := by
  induction tokens generalizing depth with
  | nil => rwa [nests_nil h]
  | cons t tokens ih =>
    obtain ⟨hclose, hmore⟩ := nests_cons.mp h
    -- The depth never falls back to zero, so nothing is asked of the token.
    rw [List.cons_append, shields_cons, depthAfter_succ hclose]
    exact ⟨fun hzero => absurd hzero (Nat.succ_ne_zero _), ih hmore⟩

theorem findLeadFrom_cons_none (h : Lead.of? (t :: rest) = none)
    (hrest : findLeadFrom (depthAfter depth t) rest = none) : findLeadFrom depth (t :: rest) = none := by
  have hhere : ¬(decide (depth = 0) && (Lead.of? (t :: rest)).isSome) = true := by simp [h]
  rw [findLeadFrom, if_neg hhere, hrest]
  rfl

theorem findLeadFrom_of_nests (h : nests depth tokens = true) (hrest : findLeadFrom 1 rest = none) :
    findLeadFrom (depth + 1) (tokens ++ rest) = none := by
  induction tokens generalizing depth with
  | nil => rwa [nests_nil h]
  | cons t tokens ih =>
    obtain ⟨hclose, hmore⟩ := nests_cons.mp h
    have hdeep : ¬(decide (depth + 1 = 0) && (Lead.of? (t :: (tokens ++ rest))).isSome) = true := by simp
    rw [List.cons_append, findLeadFrom, if_neg hdeep, depthAfter_succ hclose, ih hmore]
    rfl

theorem takeClosed_append (h : nests depth tokens = true) :
    Clause.takeClosed depth (tokens ++ rest) = (Clause.takeClosed 0 rest).map (tokens ++ ·) := by
  induction tokens generalizing depth with
  | nil =>
    rw [nests_nil h]
    exact (congrFun Option.map_id _).symm
  | cons t tokens ih =>
    obtain ⟨hclose, hmore⟩ := nests_cons.mp h
    rw [List.cons_append, takeClosed_cons hclose, ih hmore, Option.map_map]
    rfl

/-! ### Tokens in another place -/

section Map
variable {f : Token → Token} (hf : ∀ t, (f t).kind = t.kind)
include hf

theorem depthAfter_map (depth : Nat) (t : Token) : depthAfter depth (f t) = depthAfter depth t := by
  unfold depthAfter
  rw [hf t]

theorem nests_map (depth : Nat) (tokens : List Token) : nests depth (tokens.map f) = nests depth tokens := by
  induction tokens generalizing depth with
  | nil => rfl
  | cons t tokens ih => rw [List.map_cons, nests, nests, depthAfter_map hf, hf t, ih]

theorem shields_map (hp : ∀ t, p (f t) = p t) (depth : Nat) (tokens : List Token) :
    shields p depth (tokens.map f) = shields p depth tokens := by
  induction tokens generalizing depth with
  | nil => rfl
  | cons t tokens ih => rw [List.map_cons, shields, shields, depthAfter_map hf, hp t, ih]

end Map

end SceneScript.Token
