import SceneScript.Proofs.Forms
import SceneScript.Proofs.Outcomes

/-!
What a clause does to the attributes. The first rule that it satisfies says what it sets, the rules before leave no
trace, and what is set is one attribute or one field of a record; all else keeps its value and its place. Rules look at
the first tokens of a clause, so words behind change what it sets in one way only: behind a lone word the name of an
item makes the word a color.
-/

namespace SceneScript

/-- The map is `m` with `v` under `key`: in the place of the old value, or at the end. -/
inductive Assoc.Written {κ α : Type} (key : κ) (v : α) : List (κ × α) → List (κ × α) → Prop
  | replaced (before after : List (κ × α)) (old : α) (h : key ∉ Assoc.keys before) :
      Written key v (before ++ (key, old) :: after) (before ++ (key, v) :: after)
  | added (m : List (κ × α)) (h : key ∉ Assoc.keys m) : Written key v m (m ++ [(key, v)])

theorem Assoc.Written.cons {κ α : Type} {key : κ} {v : α} {m m' : List (κ × α)} {p : κ × α} (h : Written key v m m')
    (hp : key ≠ p.1) : Written key v (p :: m) (p :: m') := by
  have hnew : ∀ {rest : List (κ × α)}, key ∉ keys rest → key ∉ keys (p :: rest) := fun hrest =>
    List.not_mem_cons_of_ne_of_not_mem hp hrest
  cases h with
  | replaced before after old hkey => exact .replaced (p :: before) after old (hnew hkey)
  | added m hkey => exact .added (p :: m) (hnew hkey)

namespace Clause

variable {source : String} {clause words : List Token} {attributes attributes' : Attributes} {rule : Rule}
  {a : Assignment} {t item : Token}

/-! ### The first rule -/

/-- The rule is the first of the rules that the clause satisfies, and by it the clause sets `a`. -/
def MatchedBy (rules : List Rule) (source : String) (clause : List Token) (rule : Rule) (a : Assignment) : Prop :=
  ∃ before after, rules = before ++ rule :: after ∧ (∀ earlier ∈ before, earlier source clause = .ok none) ∧
    rule source clause = .ok (some a)

theorem firstMatch_eq_some_iff {rules : List Rule} :
    firstMatch rules source clause = .ok (some a) ↔ ∃ rule, MatchedBy rules source clause rule a := by
  induction rules with
  | nil => simp [firstMatch, MatchedBy]
  | cons first rules ih =>
    rw [firstMatch]
    constructor
    · intro h
      split at h
      · rename_i hnone
        obtain ⟨rule, before, after, rfl, hbefore, hrule⟩ := ih.mp h
        exact ⟨rule, first :: before, after, rfl, List.forall_mem_cons.mpr ⟨hnone, hbefore⟩, hrule⟩
      · exact ⟨first, [], rules, rfl, by simp, h⟩
    · rintro ⟨rule, before, after, heq, hbefore, hrule⟩
      cases before with
      | nil =>
        cases heq
        rw [hrule]
      | cons earlier before =>
        cases heq
        obtain ⟨hnone, hbefore⟩ := List.forall_mem_cons.mp hbefore
        rw [hnone]
        exact ih.mpr ⟨rule, before, after, rfl, hbefore, hrule⟩

theorem firstMatch_congr {rules : List Rule} {source' : String} {clause' : List Token}
    (h : ∀ rule ∈ rules, rule source' clause' = rule source clause) :
    firstMatch rules source' clause' = firstMatch rules source clause := by
  induction rules with
  | nil => rfl
  | cons rule rules ih =>
    obtain ⟨hrule, hmore⟩ := List.forall_mem_cons.mp h
    simp only [firstMatch, hrule, ih hmore]

theorem MatchedBy.mem {rules : List Rule} (h : MatchedBy rules source clause rule a) : rule ∈ rules := by
  obtain ⟨before, after, rfl, -, -⟩ := h
  exact List.mem_append_right before List.mem_cons_self

theorem MatchedBy.sets {rules : List Rule} (h : MatchedBy rules source clause rule a) :
    rule source clause = .ok (some a) := by
  obtain ⟨-, -, -, -, hset⟩ := h
  exact hset

/-! ### What rules set -/

/-- A word is no age. -/
theorem age_of_word (hitem : item.kind = .word) {rest : List Token} : age source (t :: item :: rest) = .ok none := by
  cases item with
  | mk form lexeme span =>
    cases form with
    | word upper => rfl
    | _ => cases hitem

/-- What may be a color is that of the item of clothing or appearance behind it. -/
theorem assignment?_color {group : String} (hsize : t.isWord ["SIZE"] = false) (hcolor : mayColor t item = true)
    (hitem : item.kind = .word) (hgroup : groupOf? item = some group) (rest : List Token) :
    assignment? source (t :: item :: rest) =
      .ok (some (.field group (Text.lower item.wordText) (.text (Color.normalize t.lexeme)))) := by
  refine firstMatch_eq_some_iff.mpr ⟨colorItem, [age, size], _, rfl, List.forall_mem_cons.mpr ⟨?_,
    List.forall_mem_cons.mpr ⟨?_, by simp⟩⟩, ?_⟩
  · exact age_of_word hitem
  · simp [size, hsize]
  · simp [colorItem, hcolor, hgroup]

/-! ### The frame -/

theorem takeClosed_of_words (hwords : ∀ t ∈ words, t.kind = .word) (depth : Nat) : takeClosed depth words = none := by
  induction words with
  | nil => rfl
  | cons t words ih =>
    obtain ⟨ht, hmore⟩ := List.forall_mem_cons.mp hwords
    simp only [takeClosed, ht, ih hmore, Option.map_none]

/-- Words close no parenthesis. -/
theorem takeClosed_append_words (hwords : ∀ t ∈ words, t.kind = .word) (depth : Nat) (tokens : List Token) :
    takeClosed depth (tokens ++ words) = takeClosed depth tokens := by
  induction tokens generalizing depth with
  | nil => exact takeClosed_of_words hwords depth
  | cons t tokens ih =>
    rw [List.cons_append]
    cases hkind : t.kind with
    | rightParen =>
      cases depth with
      | zero => simp only [takeClosed, hkind]
      | succ depth => simp only [takeClosed, hkind, ih]
    | _ => simp only [takeClosed, hkind, ih]

theorem parameterized_append_words (hwords : ∀ t ∈ words, t.kind = .word) (source : String) (t u : Token)
    (rest : List Token) : parameterized source (t :: u :: (rest ++ words)) = parameterized source (t :: u :: rest) := by
  simp only [parameterized, takeClosed_append_words hwords]

/-- Beyond its parentheses no rule looks at more than two tokens. -/
theorem rule_append_words (hwords : ∀ t ∈ words, t.kind = .word) (source : String) (t u : Token) (rest : List Token) :
    ∀ rule ∈ rules, rule source (t :: u :: (rest ++ words)) = rule source (t :: u :: rest) := by
  intro rule hrule
  simp only [rules, List.mem_cons, List.not_mem_nil, or_false] at hrule
  rcases hrule with rfl | rfl | rfl | rfl | rfl | rfl | rfl | rfl | rfl | rfl | rfl | rfl
  case inr.inr.inr.inr.inl => exact parameterized_append_words hwords source t u rest
  case inl => cases u with | mk form lexeme span => cases form <;> rfl
  all_goals rfl

theorem assignment?_append_words (hwords : ∀ t ∈ words, t.kind = .word) (source : String) (t u : Token)
    (rest : List Token) : assignment? source (t :: u :: (rest ++ words)) = assignment? source (t :: u :: rest) :=
  firstMatch_congr (rule_append_words hwords source t u rest)

theorem exists_word_of_ok_ite {names : List String} {x : Assignment}
    (h : (Except.ok (if t.isWord names then some x else none) : Except Fault (Option Assignment)) = .ok (some a)) :
    ∃ w ∈ names, t.form = .word w := by
  obtain ⟨hword, -⟩ := Option.ite_none_right_eq_some.mp (Except.ok.inj h)
  exact Token.isWord_iff.mp hword

/-- The words that satisfy a rule by themselves. -/
def loneWords : List String := outfits ++ features

theorem exists_loneWord (h : assignment? source [t] = .ok (some a)) : ∃ w ∈ loneWords, t.form = .word w := by
  obtain ⟨rule, hrule⟩ := firstMatch_eq_some_iff.mp h
  have hmem := hrule.mem
  have hset := hrule.sets
  simp only [rules, List.mem_cons, List.not_mem_nil, or_false] at hmem
  rcases hmem with rfl | rfl | rfl | rfl | rfl | rfl | rfl | rfl | rfl | rfl | rfl | rfl
  case inr.inr.inr.inr.inr.inl =>
    obtain ⟨w, hw, hform⟩ := exists_word_of_ok_ite hset
    exact ⟨w, List.mem_append_left features hw, hform⟩
  case inr.inr.inr.inr.inr.inr.inr.inr.inl =>
    obtain ⟨w, hw, hform⟩ := exists_word_of_ok_ite hset
    exact ⟨w, List.mem_append_right outfits hw, hform⟩
  all_goals cases hset

/-- A lone word begins no clause of another kind, but it can stand for a color. -/
theorem notMem_of_lone : ∀ w ∈ loneWords, ∀ words ∈
    [["AGE"], ["SIZE"], emotions, heights, hairstyles, skinTones, negations, ["BARE"], neverColors], w ∉ words := by
  decide

theorem assignment?_feature {w : String} (hw : w ∈ features) (ht : t.form = .word w) :
    assignment? source [t] = .ok (some (.attribute (Text.lower w) .flag)) := by
  have houtfit : t.isWord outfits = false := by
    have hnone : ∀ w ∈ features, w ∉ outfits := by decide
    simpa [Token.isWord, ht] using hnone w hw
  have hfeature : t.isWord features = true := Token.isWord_iff.mpr ⟨w, hw, ht⟩
  simp [assignment?, rules, firstMatch, age, size, colorItem, emotion, pair?, parameterized, outfit, houtfit, height,
    hairstyle, feature, hfeature, Token.wordText_of_form ht]

section
variable {w : String} (hw : w ∈ loneWords) (ht : t.form = .word w)
include hw ht

theorem not_isWord_of_lone (words : List String) (hwords : words ∈
    [["AGE"], ["SIZE"], emotions, heights, hairstyles, skinTones, negations, ["BARE"], neverColors]) :
    t.isWord words = false := by
  simpa [Token.isWord, ht] using notMem_of_lone w hw words hwords

theorem mayColor_of_lone (item : Token) : mayColor t item = true := by
  have hnever : w ∉ neverColors := notMem_of_lone w hw _ (by simp)
  have hstyle : w ∉ hairstyles := notMem_of_lone w hw _ (by simp)
  simp [mayColor, ht, hnever, hstyle]

/-- Before a word that names no item such a word sets what it sets alone. -/
theorem rule_lone (hitem : item.kind = .word) (hgroup : groupOf? item = none) :
    ∀ rule ∈ rules, rule source [t, item] = rule source [t] := by
  intro rule hrule
  simp only [rules, List.mem_cons, List.not_mem_nil, or_false] at hrule
  rcases hrule with rfl | rfl | rfl | rfl | rfl | rfl | rfl | rfl | rfl | rfl | rfl | rfl
  · exact age_of_word hitem
  · simp [size, not_isWord_of_lone hw ht ["SIZE"] (by simp)]
  · simp [colorItem, hgroup]
  · simp [emotion, pair?, not_isWord_of_lone hw ht emotions (by simp)]
  · simp [parameterized, hitem]
  · rfl
  · simp [height, pair?, not_isWord_of_lone hw ht heights (by simp)]
  · simp [hairstyle, pair?, not_isWord_of_lone hw ht hairstyles (by simp)]
  · rfl
  · simp [skin, pair?, not_isWord_of_lone hw ht skinTones (by simp)]
  · simp [negation, not_isWord_of_lone hw ht negations (by simp)]
  · simp [bareTorso, pair?, not_isWord_of_lone hw ht ["BARE"] (by simp)]

/-- Before the name of an item such a word is its color. -/
theorem assignment?_lone_item {group : String} (hitem : item.kind = .word) (hgroup : groupOf? item = some group)
    (rest : List Token) : assignment? source (t :: item :: rest) =
      .ok (some (.field group (Text.lower item.wordText) (.text (Color.normalize t.lexeme)))) :=
  assignment?_color (not_isWord_of_lone hw ht _ (by simp)) (mayColor_of_lone hw ht item) hitem hgroup rest

end

/-- Words behind a clause that satisfies a rule change nothing, unless the clause is a lone word, which is then an
    outfit or a feature, and an item of clothing or appearance comes next: there the word is the color of the item. -/
theorem applyTo_append_words (hset : assignment? source clause = .ok (some a)) (hwords : ∀ t ∈ words, t.kind = .word) :
    ((∀ t item, clause = [t] → item ∈ words.head? → groupOf? item = none) →
        assignment? source (clause ++ words) = .ok (some a) ∧
          ∀ attributes, applyTo source attributes (clause ++ words) = applyTo source attributes clause) ∧
      ∀ t item group, clause = [t] → item ∈ words.head? → groupOf? item = some group →
        (∃ w ∈ loneWords, t.form = .word w) ∧ assignment? source (clause ++ words) =
          .ok (some (.field group (Text.lower item.wordText) (.text (Color.normalize t.lexeme)))) := by
  have hsame : (∀ t item, clause = [t] → item ∈ words.head? → groupOf? item = none) →
      assignment? source (clause ++ words) = assignment? source clause := by
    intro hfree
    match clause with
    | [] => cases hset
    | [t] =>
      cases words with
      | nil => rfl
      | cons item rest =>
        obtain ⟨hitem, hrest⟩ := List.forall_mem_cons.mp hwords
        obtain ⟨w, hw, ht⟩ := exists_loneWord hset
        exact (assignment?_append_words hrest source t item []).trans
          (firstMatch_congr (rule_lone hw ht hitem (hfree t item rfl rfl)))
    | t :: u :: rest => exact assignment?_append_words hwords source t u rest
  refine ⟨fun hfree => ⟨(hsame hfree).trans hset, fun attributes => ?_⟩, ?_⟩
  · rw [applyTo, applyTo, hsame hfree]
  · rintro t item group rfl hhead hgroup
    obtain ⟨rest, rfl⟩ := List.head?_eq_some_iff.mp hhead
    obtain ⟨w, hw, ht⟩ := exists_loneWord hset
    have hitem : item.kind = .word := hwords item List.mem_cons_self
    exact ⟨⟨w, hw, ht⟩, assignment?_lone_item hw ht hitem hgroup rest⟩

/-- Glasses before the color of a shirt stay glasses. -/
theorem applyTo_append_words_glasses :
    let word (upper : String) : Token := ⟨.word upper, upper, .empty ⟨1, 1, 0, none⟩⟩
    assignment? "" [word "GLASSES"] = .ok (some (.attribute (Text.lower "GLASSES") .flag)) ∧
      ∀ attributes, applyTo "" attributes ([word "GLASSES"] ++ [word "RED", word "SHIRT"]) =
        applyTo "" attributes [word "GLASSES"] := by
  intro word
  have hset : assignment? "" [word "GLASSES"] = .ok (some (.attribute (Text.lower "GLASSES") .flag)) :=
    assignment?_feature (by decide) rfl
  refine ⟨hset, ((applyTo_append_words hset (by decide)).1 ?_).2⟩
  rintro t item - ⟨⟩
  rfl

/-- A beard before hair is the color of the hair, and no beard. -/
theorem applyTo_beard_hair :
    let word (upper : String) : Token := ⟨.word upper, upper, .empty ⟨1, 1, 0, none⟩⟩
    (word "HAIR").isAnd = false ∧ applyTo "" [] [word "BEARD"] = .ok [("beard", .flag)] ∧
      applyTo "" [] ([word "BEARD"] ++ [word "HAIR"]) = .ok [("appearance", .record [("hair", .text "BEARD")])] ∧
      applyTo "" [] ([word "BEARD"] ++ [word "HAIR"]) ≠ applyTo "" [] [word "BEARD"] := by
  intro word
  have hlower : Text.lower "BEARD" = "beard" ∧ Text.lower "HAIR" = "hair" ∧ Color.normalize "BEARD" = "BEARD" := by
    decide +kernel
  have halone : applyTo "" [] [word "BEARD"] = .ok [("beard", .flag)] := by
    rw [applyTo, assignment?_feature (w := "BEARD") (by decide) rfl, hlower.1]
    rfl
  have hbehind : applyTo "" [] ([word "BEARD"] ++ [word "HAIR"]) =
      .ok [("appearance", .record [("hair", .text "BEARD")])] := by
    have hset : assignment? "" [word "BEARD", word "HAIR"] =
        .ok (some (.field "appearance" (Text.lower "HAIR") (.text (Color.normalize "BEARD")))) :=
      assignment?_lone_item (w := "BEARD") (by decide) rfl rfl rfl []
    rw [List.singleton_append, applyTo, hset, hlower.2.1, hlower.2.2]
    rfl
  refine ⟨rfl, halone, hbehind, ?_⟩
  rw [halone, hbehind]
  simp

end Clause
end SceneScript
