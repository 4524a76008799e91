import SceneScript.Proofs.Forms

/-!
Splitting tokens at separators is the inverse of joining groups by them. The groups of a split, with the separators
in their places, are the tokens again; and groups that a split can make come back from the tokens they are joined to,
whatever parentheses stray in them. So a section of clauses is read part by part where an `AND` ends a part that
closes its parentheses.
-/

namespace SceneScript

namespace Token

variable {p : Token → Bool} {depth : Nat} {t : Token} {tokens group : List Token} {groups : List (List Token)}
  {between : List Token}

/-- The separators outside parentheses, in order. -/
def separatorsFrom (isSeparator : Token → Bool) (depth : Nat) : List Token → List Token
  | [] => []
  | t :: rest =>
    let separators := separatorsFrom isSeparator (depthAfter depth t) rest
    if depthAfter depth t = 0 && isSeparator t then t :: separators else separators

def separators (isSeparator : Token → Bool) (tokens : List Token) : List Token := separatorsFrom isSeparator 0 tokens

/-- The tokens of groups in a row, with a separator behind each group but the last. -/
def joinGroups : List (List Token) → List Token → List Token
  | group :: groups, t :: separators => group ++ t :: joinGroups groups separators
  | groups, _ => groups.flatten

/-- Groups between separators, the first of them where `depth` parentheses are open: no separator stands outside
    parentheses, and each group but the last closes all that are open. -/
inductive Parts (p : Token → Bool) : Nat → List (List Token) → Prop
  | last {depth : Nat} {group : List Token} (shielded : shields p depth group = true) : Parts p depth [group]
  | next {depth : Nat} {group : List Token} {groups : List (List Token)} (shielded : shields p depth group = true)
      (closed : depthAfterAll depth group = 0) (more : Parts p 0 groups) : Parts p depth (group :: groups)

theorem Parts.ne_nil (h : Parts p depth groups) : groups ≠ [] := by
  cases h <;> exact List.cons_ne_nil _ _

theorem Parts.modifyHead (h : Parts p (depthAfter depth t) groups) (hplain : depthAfter depth t = 0 → p t = false) :
    Parts p depth (groups.modifyHead (t :: ·)) := by
  cases h with
  | last shielded => exact .last (shields_cons.mpr ⟨hplain, shielded⟩)
  | next shielded closed more => exact .next (shields_cons.mpr ⟨hplain, shielded⟩) closed more

/-- Each group is judged from its own start. -/
theorem parts_iff : Parts p 0 groups ↔ groups ≠ [] ∧ (∀ group ∈ groups, shields p 0 group = true) ∧
    ∀ group ∈ groups.dropLast, depthAfterAll 0 group = 0 := by
  constructor
  · intro h
    refine ⟨h.ne_nil, ?_⟩
    generalize hdepth : 0 = depth at h
    induction h with
    | last shielded =>
      subst hdepth
      simpa using shielded
    | next shielded closed more ih =>
      subst hdepth
      obtain ⟨hshielded, hclosed⟩ := ih rfl
      rw [List.dropLast_cons_of_ne_nil more.ne_nil]
      exact ⟨List.forall_mem_cons.mpr ⟨shielded, hshielded⟩, List.forall_mem_cons.mpr ⟨closed, hclosed⟩⟩
  · rintro ⟨hne, hshielded, hclosed⟩
    induction groups with
    | nil => exact absurd rfl hne
    | cons group groups ih =>
      obtain ⟨hfirst, hmore⟩ := List.forall_mem_cons.mp hshielded
      by_cases hnil : groups = []
      · rw [hnil]
        exact .last hfirst
      · rw [List.dropLast_cons_of_ne_nil hnil] at hclosed
        obtain ⟨hdepth, hclosed⟩ := List.forall_mem_cons.mp hclosed
        exact .next hfirst hdepth (ih hnil hmore hclosed)

/-! ### Splitting -/

theorem separatorsFrom_cut (ht : depthAfter depth t = 0) (hp : p t = true) :
    separatorsFrom p depth (t :: tokens) = t :: separatorsFrom p 0 tokens := by
  simp [separatorsFrom, ht, hp]

theorem separatorsFrom_plain (h : depthAfter depth t = 0 → p t = false) :
    separatorsFrom p depth (t :: tokens) = separatorsFrom p (depthAfter depth t) tokens := by
  have hcut : ¬(decide (depthAfter depth t = 0) && p t) = true := by simpa using h
  simp only [separatorsFrom, if_neg hcut]

theorem joinGroups_cons (groups : List (List Token)) (between : List Token) :
    joinGroups ((t :: group) :: groups) between = t :: joinGroups (group :: groups) between := by
  cases between <;> rfl

/-- The groups joined by the separators between them are the tokens. -/
theorem joinGroups_splitGroupsFrom (p : Token → Bool) (depth : Nat) (tokens : List Token) :
    joinGroups (splitGroupsFrom p depth tokens) (separatorsFrom p depth tokens) = tokens := by
  induction tokens generalizing depth with
  | nil => rfl
  | cons t tokens ih =>
    by_cases hcut : depthAfter depth t = 0 ∧ p t = true
    · rw [splitGroupsFrom_cut hcut.1 hcut.2, separatorsFrom_cut hcut.1 hcut.2, joinGroups, ih, List.nil_append]
    · have hplain : depthAfter depth t = 0 → p t = false := by simpa using hcut
      have hmore := ih (depthAfter depth t)
      obtain ⟨group, groups, hgroups⟩ :=
        List.exists_cons_of_ne_nil (splitGroupsFrom_ne_nil p (depthAfter depth t) tokens)
      rw [hgroups] at hmore
      rw [splitGroupsFrom_cons hplain, separatorsFrom_plain hplain, hgroups, List.modifyHead_cons, joinGroups_cons,
        hmore]

theorem length_splitGroupsFrom (p : Token → Bool) (depth : Nat) (tokens : List Token) :
    (splitGroupsFrom p depth tokens).length = (separatorsFrom p depth tokens).length + 1 := by
  induction tokens generalizing depth with
  | nil => rfl
  | cons t tokens ih =>
    by_cases hcut : depthAfter depth t = 0 ∧ p t = true
    · rw [splitGroupsFrom_cut hcut.1 hcut.2, separatorsFrom_cut hcut.1 hcut.2, List.length_cons, List.length_cons, ih]
    · have hplain : depthAfter depth t = 0 → p t = false := by simpa using hcut
      rw [splitGroupsFrom_cons hplain, separatorsFrom_plain hplain, List.length_modifyHead, ih]

theorem of_mem_separatorsFrom (h : t ∈ separatorsFrom p depth tokens) : p t = true := by
  induction tokens generalizing depth with
  | nil => cases h
  | cons u tokens ih =>
    simp only [separatorsFrom] at h
    split at h
    · rename_i hcut
      rcases List.mem_cons.mp h with rfl | h
      · exact (Bool.and_eq_true_iff.mp hcut).2
      · exact ih h
    · exact ih h

section
variable (hp : ∀ t, p t = true → t.kind ≠ .leftParen ∧ t.kind ≠ .rightParen)
include hp

theorem depthAfter_of_separator (ht : p t = true) (depth : Nat) : depthAfter depth t = depth := by
  obtain ⟨hleft, hright⟩ := hp t ht
  unfold depthAfter
  split
  · exact absurd ‹_› hleft
  · exact absurd ‹_› hright
  · rfl

theorem parts_splitGroupsFrom (depth : Nat) (tokens : List Token) : Parts p depth (splitGroupsFrom p depth tokens) := by
  induction tokens generalizing depth with
  | nil => exact .last rfl
  | cons t tokens ih =>
    by_cases hcut : depthAfter depth t = 0 ∧ p t = true
    · rw [splitGroupsFrom_cut hcut.1 hcut.2]
      exact .next rfl ((depthAfter_of_separator hp hcut.2 depth).symm.trans hcut.1) (ih 0)
    · have hplain : depthAfter depth t = 0 → p t = false := by simpa using hcut
      rw [splitGroupsFrom_cons hplain]
      exact (ih (depthAfter depth t)).modifyHead hplain

/-! ### Joining -/

theorem separatorsFrom_append_cons (hshielded : shields p depth group = true) (hclosed : depthAfterAll depth group = 0)
    (ht : p t = true) : separatorsFrom p depth (group ++ t :: tokens) = t :: separatorsFrom p 0 tokens := by
  induction group generalizing depth with
  | nil =>
    obtain rfl : depth = 0 := hclosed
    exact separatorsFrom_cut (depthAfter_of_separator hp ht 0) ht
  | cons u group ih =>
    obtain ⟨hplain, hmore⟩ := shields_cons.mp hshielded
    rw [List.cons_append, separatorsFrom_plain hplain, ih hmore hclosed]

/-- Groups that a split can make, and the separators between them, come back from what they are joined to. -/
theorem splitGroupsFrom_joinGroups (h : Parts p depth groups) (hlength : groups.length = between.length + 1)
    (hbetween : ∀ t ∈ between, p t = true) :
    splitGroupsFrom p depth (joinGroups groups between) = groups ∧
      separatorsFrom p depth (joinGroups groups between) = between := by
  induction h generalizing between with
  | @last depth group shielded =>
    obtain rfl : between = [] := List.length_eq_zero_iff.mp (Nat.succ.inj hlength).symm
    have hgroup : splitGroupsFrom p depth group = [group] := splitGroupsFrom_of_shields shielded
    have hnone := length_splitGroupsFrom p depth group
    rw [hgroup] at hnone
    rw [joinGroups, List.flatten_singleton]
    · exact ⟨hgroup, List.length_eq_zero_iff.mp (Nat.succ.inj hnone).symm⟩
    · exact fun _ _ _ _ _ h => nomatch h
  | @next depth group groups shielded closed more ih =>
    cases between with
    | nil => exact absurd (List.length_eq_zero_iff.mp (Nat.succ.inj hlength)) more.ne_nil
    | cons t between =>
      obtain ⟨ht, hmore⟩ := List.forall_mem_cons.mp hbetween
      obtain ⟨hgroups, hseparators⟩ := ih (Nat.succ.inj hlength) hmore
      rw [joinGroups, splitGroupsFrom_append_cons closed ht (depthAfter_of_separator hp ht 0),
        separatorsFrom_append_cons hp shielded closed ht, splitGroupsFrom_of_shields shielded, splitGroups, hgroups,
        hseparators]
      exact ⟨rfl, rfl⟩

end

/-! ### Sections of clauses -/

theorem depthAfterAll_filter (depth : Nat) (tokens : List Token) :
    depthAfterAll depth (tokens.filter fun t => t.kind ≠ .endOfStatement) = depthAfterAll depth tokens := by
  induction tokens generalizing depth with
  | nil => rfl
  | cons t tokens ih =>
    by_cases hkind : t.kind = .endOfStatement
    · have hdepth : depthAfter depth t = depth := by rw [depthAfter, hkind]
      rw [List.filter_cons_of_neg (by simpa using hkind), ih, depthAfterAll_cons, hdepth]
    · rw [List.filter_cons_of_pos (by simpa using hkind), depthAfterAll_cons, depthAfterAll_cons, ih]

end Token

/-- Behind tokens that close all parentheses an `AND` starts the clauses anew. -/
theorem Clause.ofTokens_append {front back : List Token} {joiner : Token} (hclosed : Token.depthAfterAll 0 front = 0)
    (hjoiner : joiner.isAnd = true) : ofTokens (front ++ joiner :: back) = ofTokens front ++ ofTokens back := by
  have hkind : joiner.kind = .word := Token.kind_of_isWord hjoiner
  have hkept : (joiner :: back).filter (fun t => t.kind ≠ .endOfStatement) =
      joiner :: back.filter (fun t => t.kind ≠ .endOfStatement) := List.filter_cons_of_pos (by simp [hkind])
  rw [ofTokens, List.filter_append, hkept, Token.splitGroups,
    Token.splitGroupsFrom_append_cons ((Token.depthAfterAll_filter 0 front).trans hclosed) hjoiner
      (Token.depthAfter_of_word hkind 0), List.filter_append]
  rfl

namespace Token

/-- Splitting and joining are inverse to each other. The groups of a split give back the tokens when they are joined
    by the separators between them, none of them holds a separator outside its parentheses, and all but the last close
    theirs; groups with these two properties come back from what they are joined to. So the clauses on both sides of
    an `AND` can be read one side after the other. -/
theorem splitGroups_inverts_joinGroups {p : Token → Bool}
    (hp : ∀ t, p t = true → t.kind ≠ .leftParen ∧ t.kind ≠ .rightParen) :
    (∀ tokens, joinGroups (splitGroups p tokens) (separators p tokens) = tokens ∧
        (splitGroups p tokens).length = (separators p tokens).length + 1 ∧ (∀ t ∈ separators p tokens, p t = true) ∧
        (∀ group ∈ splitGroups p tokens, shields p 0 group = true) ∧
        ∀ group ∈ (splitGroups p tokens).dropLast, depthAfterAll 0 group = 0) ∧
      (∀ (groups : List (List Token)) (between : List Token), groups.length = between.length + 1 →
        (∀ t ∈ between, p t = true) → (∀ group ∈ groups, shields p 0 group = true) →
        (∀ group ∈ groups.dropLast, depthAfterAll 0 group = 0) →
        splitGroups p (joinGroups groups between) = groups ∧ separators p (joinGroups groups between) = between) ∧
      ∀ (source : String) (attributes : Attributes) (front back : List Token) (joiner : Token),
        depthAfterAll 0 front = 0 → joiner.isAnd = true →
        attributes.readInto source (front ++ joiner :: back) =
          attributes.readInto source front >>= fun attributes => attributes.readInto source back := by
  refine ⟨fun tokens => ?_, fun groups between hlength hbetween hshielded hclosed => ?_,
    fun source attributes front back joiner hclosed hjoiner => ?_⟩
  · obtain ⟨-, hshielded, hclosed⟩ := parts_iff.mp (parts_splitGroupsFrom hp 0 tokens)
    exact ⟨joinGroups_splitGroupsFrom p 0 tokens, length_splitGroupsFrom p 0 tokens, fun t => of_mem_separatorsFrom,
      hshielded, hclosed⟩
  · have hne : groups ≠ [] := List.ne_nil_of_length_eq_add_one hlength
    exact splitGroupsFrom_joinGroups hp (parts_iff.mpr ⟨hne, hshielded, hclosed⟩) hlength hbetween
  · rw [Attributes.readInto, Clause.ofTokens_append hclosed hjoiner, List.foldlM_append]
    rfl

/-- Commas between groups with parentheses that close nothing, that shield a comma and that stay open. -/
theorem splitGroups_inverts_joinGroups_stray :
    let mark (form : Form) : Token := ⟨form, "", .empty ⟨1, 1, 0, none⟩⟩
    let groups : List (List Token) :=
      [[mark (.word "BEARD"), mark .rightParen], [mark .leftParen, mark .comma, mark .rightParen], [],
        [mark .leftParen]]
    let between : List Token := [mark .comma, mark .comma, mark .comma]
    let stray : List Token := [mark .rightParen, mark .comma, mark .leftParen, mark .comma]
    splitGroups isComma (joinGroups groups between) = groups ∧
      joinGroups (splitGroups isComma stray) (separators isComma stray) = stray ∧
      (Attributes.readInto "" [] ([mark (.word "BEARD"), mark .rightParen] ++
          mark (.word "AND") :: [mark (.word "GLASSES")])).toOption.map Assoc.keys = some ["beard", "glasses"] := by
  intro mark groups between stray
  have hcomma : ∀ t, isComma t = true → t.kind ≠ .leftParen ∧ t.kind ≠ .rightParen := by
    intro t ht
    have hkind : t.kind = .comma := of_decide_eq_true ht
    simp [hkind]
  obtain ⟨hsplit, hjoin, hread⟩ := splitGroups_inverts_joinGroups hcomma
  refine ⟨(hjoin groups between rfl (by decide) (by decide) (by decide)).1, (hsplit stray).1, ?_⟩
  rw [hread "" [] _ _ (mark (.word "AND")) rfl rfl]
  decide +kernel

end Token
end SceneScript
