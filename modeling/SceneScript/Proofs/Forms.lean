import SceneScript.Position.Clause
import SceneScript.Proofs.Nesting

/-!
What is told by the forms of tokens. Phrases, separators, parentheses and the grammar of places look at what a
token is and at the word it carries; so tokens that keep their forms under other spellings and places are cut and
read alike.
-/

namespace SceneScript

namespace Token

variable {t : Token} {words : List String}

theorem isWord_iff : t.isWord words = true ↔ ∃ w ∈ words, t.form = .word w := by
  obtain ⟨form, lexeme, span⟩ := t
  cases form <;> simp [isWord]

theorem isWord_singleton {w : String} : t.isWord [w] = true ↔ t.form = .word w := by simp [isWord_iff]

theorem kind_of_form_word {w : String} (h : t.form = .word w) : t.kind = .word := congrArg Form.kind h

theorem kind_of_isWord (h : t.isWord words = true) : t.kind = .word := by
  obtain ⟨w, -, hform⟩ := isWord_iff.mp h
  exact kind_of_form_word hform

theorem wordText_of_form {w : String} (h : t.form = .word w) : t.wordText = w := by rw [wordText, h]

theorem form_of_kind_word (h : t.kind = .word) : t.form = .word t.wordText := by
  obtain ⟨form, lexeme, span⟩ := t
  cases form with
  | word w => rfl
  | _ => cases h

/-- Marks carry no value, so their kind tells their form. -/
theorem form_of_kind_mark {mark : Form} (h : t.kind = mark.kind)
    (hmark : mark = .leftParen ∨ mark = .rightParen ∨ mark = .comma) : t.form = mark := by
  obtain ⟨form, lexeme, span⟩ := t
  rcases hmark with rfl | rfl | rfl <;> cases form <;> first | rfl | cases h

end Token

/-! ### Pairs -/

namespace Position

/-- The tokens are `x, y` or `(x, y)`. -/
def IsPair (x y : Number) (tokens : List Token) : Prop :=
  tokens.map (·.form) = [.number x, .comma, .number y] ∨
    tokens.map (·.form) = [.leftParen, .number x, .comma, .number y, .rightParen]

variable {x y : Number} {tokens : List Token}

theorem isPair_of_pair? (h : pair? tokens = some (x, y)) : IsPair x y tokens := by
  unfold pair? at h
  split at h
  · rename_i comma _ _ _
    split at h
    · rename_i hcomma
      cases h
      have hcomma : comma.form = .comma := Token.form_of_kind_mark hcomma (by simp)
      exact Or.inl (by simp [hcomma])
    · cases h
  · rename_i leftParen _ _ _ comma _ _ _ rightParen
    split at h
    · rename_i hkinds
      cases h
      simp only [Bool.and_eq_true, decide_eq_true_eq] at hkinds
      have hleft : leftParen.form = .leftParen := Token.form_of_kind_mark hkinds.1.1 (by simp)
      have hcomma : comma.form = .comma := Token.form_of_kind_mark hkinds.1.2 (by simp)
      have hright : rightParen.form = .rightParen := Token.form_of_kind_mark hkinds.2 (by simp)
      exact Or.inr (by simp [hleft, hcomma, hright])
    · cases h
  · cases h

theorem pair?_of_isPair (h : IsPair x y tokens) : pair? tokens = some (x, y) := by
  rcases h with h | h
  · obtain ⟨⟨_, _, _⟩, _, rfl, hx, h⟩ := List.map_eq_cons_iff.mp h
    obtain ⟨comma, _, rfl, hcomma, h⟩ := List.map_eq_cons_iff.mp h
    obtain ⟨⟨_, _, _⟩, _, rfl, hy, h⟩ := List.map_eq_cons_iff.mp h
    cases List.map_eq_nil_iff.mp h
    cases hx
    cases hy
    simp [pair?, Token.kind, hcomma, Token.Form.kind]
  · obtain ⟨left, _, rfl, hleft, h⟩ := List.map_eq_cons_iff.mp h
    obtain ⟨⟨_, _, _⟩, _, rfl, hx, h⟩ := List.map_eq_cons_iff.mp h
    obtain ⟨comma, _, rfl, hcomma, h⟩ := List.map_eq_cons_iff.mp h
    obtain ⟨⟨_, _, _⟩, _, rfl, hy, h⟩ := List.map_eq_cons_iff.mp h
    obtain ⟨right, _, rfl, hright, h⟩ := List.map_eq_cons_iff.mp h
    cases List.map_eq_nil_iff.mp h
    cases hx
    cases hy
    simp [pair?, Token.kind, hcomma, hleft, hright, Token.Form.kind]

theorem pair?_eq_some_iff : pair? tokens = some (x, y) ↔ IsPair x y tokens := ⟨isPair_of_pair?, pair?_of_isPair⟩

/-! ### Distances -/

/-- The tokens are `WITH DISTANCE n`. -/
def IsDistance (n : Number) (tokens : List Token) : Prop :=
  tokens.map (·.form) = [.word "WITH", .word "DISTANCE", .number n]

variable {n : Number} {target suffix : List Token}

theorem splitDistance_append (target : List Token) (h : IsDistance n suffix) :
    splitDistance (target ++ suffix) = (target, some n) := by
  obtain ⟨first, _, rfl, hfirst, h⟩ := List.map_eq_cons_iff.mp h
  obtain ⟨second, _, rfl, hsecond, h⟩ := List.map_eq_cons_iff.mp h
  obtain ⟨⟨_, _, _⟩, _, rfl, hnumber, h⟩ := List.map_eq_cons_iff.mp h
  cases List.map_eq_nil_iff.mp h
  cases hnumber
  have hwith : first.isWord ["WITH"] = true := Token.isWord_singleton.mpr hfirst
  have hdistance : second.isWord ["DISTANCE"] = true := Token.isWord_singleton.mpr hsecond
  simp [splitDistance, hwith, hdistance]

/-- Tokens that do not end in a distance are the target as a whole. -/
theorem splitDistance_of_not (h : ∀ before suffix n, target = before ++ suffix → ¬IsDistance n suffix) :
    splitDistance target = (target, none) := by
  unfold splitDistance
  split
  · rename_i n lexeme span second first before hreverse
    have hends : target = before.reverse ++ [first, second, ⟨.number n, lexeme, span⟩] := by
      rw [← List.reverse_reverse target, hreverse]
      simp
    refine if_neg fun hwords => h _ _ n hends ?_
    rw [Bool.and_eq_true] at hwords
    have hfirst := Token.isWord_singleton.mp hwords.1
    have hsecond := Token.isWord_singleton.mp hwords.2
    simp [IsDistance, hfirst, hsecond]
  · rfl

end Position

/-! ### Tokens that keep their forms -/

section Map
variable {f : Token → Token} (hf : ∀ t, (f t).form = t.form)
include hf

theorem Token.forms_map (tokens : List Token) : (tokens.map f).map (·.form) = tokens.map (·.form) := by
  rw [List.map_map]
  exact List.map_congr_left fun t _ => hf t

theorem Token.kind_map (t : Token) : (f t).kind = t.kind := congrArg Form.kind (hf t)

theorem Token.isWord_map (t : Token) (words : List String) : (f t).isWord words = t.isWord words := by
  unfold isWord
  rw [hf t]

theorem Token.wordText_map {t : Token} (h : t.kind = .word) : (f t).wordText = t.wordText :=
  wordText_of_form ((hf t).trans (form_of_kind_word h))

theorem Lead.opens_map (words : List String) (tokens : List Token) :
    opens words (tokens.map f) = opens words tokens := by
  induction words generalizing tokens with
  | nil => rfl
  | cons w words ih =>
    cases tokens with
    | nil => rfl
    | cons t tokens => simp only [List.map_cons, opens, Token.isWord_map hf, ih]

theorem Lead.of?_map (tokens : List Token) : of? (tokens.map f) = of? tokens := by
  simp only [of?, opens_map hf]

theorem Token.findLeadFrom_map (depth : Nat) (tokens : List Token) :
    findLeadFrom depth (tokens.map f) = findLeadFrom depth tokens := by
  induction tokens generalizing depth with
  | nil => rfl
  | cons t tokens ih =>
    have hlead := Lead.of?_map hf (t :: tokens)
    rw [List.map_cons] at hlead ⊢
    simp only [findLeadFrom, hlead, depthAfter_map (kind_map hf), ih]

theorem Token.findLead_map (tokens : List Token) : findLead (tokens.map f) = findLead tokens :=
  findLeadFrom_map hf 0 tokens

/-! ### Positions -/

theorem Position.pair?_map (tokens : List Token) : pair? (tokens.map f) = pair? tokens := by
  refine Option.ext fun p => ?_
  rw [pair?_eq_some_iff, pair?_eq_some_iff, IsPair, IsPair, Token.forms_map hf]

theorem Position.place?_map (target : List Token) : place? (target.map f) = place? target := by
  cases target with
  | nil => rfl
  | cons t rest =>
    have hall := pair?_map hf (t :: rest)
    have hrest := pair?_map hf rest
    rw [List.map_cons] at hall ⊢
    simp only [place?, Token.isWord_map hf, Token.kind_map hf, List.isEmpty_map]
    cases hgrid : t.isWord ["GRID"] with
    | true => simp only [if_true, hrest]
    | false =>
      cases hname : decide (t.kind = .word) && rest.isEmpty with
      | true =>
        have hkind : t.kind = .word := by
          rw [Bool.and_eq_true, decide_eq_true_eq] at hname
          exact hname.1
        simp only [Bool.false_eq_true, if_false, if_true, Token.wordText_map hf hkind]
      | false => cases t.isWord ["POSITION"] <;> simp only [Bool.false_eq_true, if_false, if_true, hrest, hall]

theorem Position.splitDistance_map (target : List Token) :
    splitDistance (target.map f) = ((splitDistance target).1.map f, (splitDistance target).2) := by
  have hdistance : ∀ {n : Number} {suffix : List Token}, IsDistance n (suffix.map f) ↔ IsDistance n suffix := by
    intro n suffix
    rw [IsDistance, IsDistance, Token.forms_map hf]
  by_cases hends : ∃ before suffix n, target = before ++ suffix ∧ IsDistance n suffix
  · obtain ⟨before, suffix, n, rfl, hn⟩ := hends
    rw [List.map_append, splitDistance_append _ hn, splitDistance_append _ (hdistance.mpr hn)]
  · have hnot : ∀ before suffix n, target = before ++ suffix → ¬IsDistance n suffix :=
      fun before suffix n heq hn => hends ⟨before, suffix, n, heq, hn⟩
    rw [splitDistance_of_not hnot, splitDistance_of_not]
    intro before suffix n heq hn
    obtain ⟨before', suffix', rfl, -, rfl⟩ := List.map_eq_append_iff.mp heq
    exact hnot before' suffix' n rfl (hdistance.mp hn)

/-! ### Groups -/

theorem Token.splitGroupsFrom_map {isSeparator : Token → Bool} (h : ∀ t, isSeparator (f t) = isSeparator t)
    (depth : Nat) (tokens : List Token) :
    splitGroupsFrom isSeparator depth (tokens.map f) = (splitGroupsFrom isSeparator depth tokens).map (List.map f) := by
  induction tokens generalizing depth with
  | nil => rfl
  | cons t tokens ih =>
    simp only [List.map_cons, splitGroupsFrom, depthAfter_map (kind_map hf), h, ih]
    by_cases hdepth : depthAfter depth t = 0
    · cases hsep : isSeparator t with
      | true => simp [hdepth]
      | false => cases hgroups : splitGroupsFrom isSeparator 0 tokens <;> simp [hdepth, hgroups]
    · cases splitGroupsFrom isSeparator (depthAfter depth t) tokens <;> simp [hdepth]

namespace Clause

theorem takeClosed_map (depth : Nat) (tokens : List Token) :
    takeClosed depth (tokens.map f) = (takeClosed depth tokens).map (List.map f) := by
  induction tokens generalizing depth with
  | nil => rfl
  | cons t rest ih =>
    simp only [List.map_cons, takeClosed, Token.kind_map hf, ih]
    cases t.kind with
    | rightParen =>
      cases depth with
      | zero => rfl
      | succ depth =>
        simp only [Option.map_map]
        rfl
    | _ =>
      simp only [Option.map_map]
      rfl

theorem ofTokens_map (tokens : List Token) : ofTokens (tokens.map f) = (ofTokens tokens).map (List.map f) := by
  have hand : ∀ t, Token.isAnd (f t) = Token.isAnd t := fun t => Token.isWord_map hf t ["AND"]
  have hinner : (tokens.map f).filter (fun t => t.kind ≠ .endOfStatement) =
      (tokens.filter fun t => t.kind ≠ .endOfStatement).map f := by
    rw [List.filter_map]
    simp only [Function.comp_def, Token.kind_map hf]
  have hnonempty : ∀ groups : List (List Token), (groups.map (List.map f)).filter (fun g => !g.isEmpty) =
      (groups.filter fun g => !g.isEmpty).map (List.map f) := by
    intro groups
    rw [List.filter_map]
    simp only [Function.comp_def, List.isEmpty_map]
  unfold ofTokens
  rw [hinner, Token.splitGroups, Token.splitGroupsFrom_map hf hand, hnonempty, Token.splitGroups]

theorem pair?_map (first second : List String) (tokens : List Token) :
    pair? first second (tokens.map f) = (pair? first second tokens).map f := by
  match tokens with
  | [] => rfl
  | [_] => rfl
  | t :: u :: rest =>
    simp only [List.map_cons, pair?, Token.isWord_map hf]
    split <;> rfl

end Clause
end Map
end SceneScript
