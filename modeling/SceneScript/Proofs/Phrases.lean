import SceneScript.Proofs.Forms

/-!
Leads among tokens. The leads begin with different words, and none of these words stands further on in a lead; so
at most one lead begins at a place, and none reaches over the beginning of another. The first lead outside
parentheses is therefore found wherever the tokens before it hold none of their own.
-/

namespace SceneScript

/-- The tokens are these words. -/
def Token.IsPhrase (words : List String) (tokens : List Token) : Prop := tokens.map (·.form) = words.map .word

theorem Token.IsPhrase.length_eq {words : List String} {tokens : List Token} (h : IsPhrase words tokens) :
    tokens.length = words.length := by
  have hlength := congrArg List.length h
  rwa [List.length_map, List.length_map] at hlength

theorem Token.isPhrase_map {f : Token → Token} (hf : ∀ t, (f t).form = t.form) {words : List String}
    {tokens : List Token} : IsPhrase words (tokens.map f) ↔ IsPhrase words tokens := by
  rw [IsPhrase, IsPhrase, forms_map hf]

namespace Lead

variable {l l' : Lead} {words : List String} {tokens front back : List Token}

/-! ### The phrases -/

/-- A lead is told by its first word. -/
theorem eq_of_head? (h : l.phrase.head? = l'.phrase.head?) : l = l' := by
  rcases l with _ | r <;> rcases l' with _ | r'
  · rfl
  · cases r' <;> simp [phrase, Relation.phrase] at h
  · cases r <;> simp [phrase, Relation.phrase] at h
  · cases r <;> cases r' <;> simp [phrase, Relation.phrase] at h ⊢

theorem mem_all (l : Lead) : l ∈ all := by
  rcases l with _ | r
  · decide
  · cases r <;> decide

theorem exists_phrase (l : Lead) : ∃ word words, l.phrase = word :: words := by
  rcases l with _ | r
  · exact ⟨_, _, rfl⟩
  · cases r <;> exact ⟨_, _, rfl⟩

theorem ne_nil_of_isPhrase (h : Token.IsPhrase l.phrase tokens) : tokens ≠ [] := by
  obtain ⟨word, words, hphrase⟩ := l.exists_phrase
  rintro rfl
  rw [hphrase] at h
  cases h

/-- The first word of a lead stands nowhere else in a lead. -/
theorem head_notMem_tail {word : String} (h : l.phrase.head? = some word) : word ∉ l'.phrase.tail := by
  have hall : ∀ l ∈ all, ∀ l' ∈ all, ∀ word ∈ l.phrase.head?, word ∉ l'.phrase.tail := by decide
  exact hall l l.mem_all l' l'.mem_all word h

/-! ### A lead at the front -/

theorem opens_iff : opens words tokens = true ↔ ∃ front back, tokens = front ++ back ∧ Token.IsPhrase words front := by
  induction words generalizing tokens with
  | nil => exact iff_of_true rfl ⟨[], tokens, rfl, rfl⟩
  | cons w words ih =>
    cases tokens with
    | nil =>
      refine iff_of_false nofun ?_
      rintro ⟨front, back, heq, hfront⟩
      rw [(List.append_eq_nil_iff.mp heq.symm).1] at hfront
      cases hfront
    | cons t tokens =>
      rw [opens, Bool.and_eq_true, Token.isWord_singleton, ih]
      constructor
      · rintro ⟨ht, front, back, rfl, hfront⟩
        exact ⟨t :: front, back, rfl, by rw [Token.IsPhrase, List.map_cons, ht, hfront, List.map_cons]⟩
      · rintro ⟨front, back, heq, hfront⟩
        obtain ⟨u, more, rfl, hu, hmore⟩ := List.map_eq_cons_iff.mp hfront
        obtain ⟨rfl, rfl⟩ := List.cons.inj heq
        exact ⟨hu, more, back, rfl, hmore⟩

theorem opens_append (h : opens words front = true) (back : List Token) : opens words (front ++ back) = true := by
  obtain ⟨phrase, more, rfl, hphrase⟩ := opens_iff.mp h
  exact opens_iff.mpr ⟨phrase, more ++ back, List.append_assoc .., hphrase⟩

/-- The first token of a lead is its first word. -/
theorem head?_of_opens (h : opens l.phrase tokens = true) :
    ∃ t ∈ tokens.head?, ∃ word ∈ l.phrase.head?, t.form = .word word := by
  obtain ⟨word, words, hphrase⟩ := l.exists_phrase
  rw [hphrase] at h ⊢
  cases tokens with
  | nil => cases h
  | cons t tokens =>
    rw [opens, Bool.and_eq_true] at h
    exact ⟨t, rfl, word, rfl, Token.isWord_singleton.mp h.1⟩

theorem of?_eq_some_iff : of? tokens = some l ↔ opens l.phrase tokens = true := by
  have hopens : ∀ {l : Lead}, of? tokens = some l → opens l.phrase tokens = true := by
    intro l h
    have hsome := List.find?_some h
    exact hsome
  refine ⟨hopens, fun h => ?_⟩
  cases hfound : of? tokens with
  | none => exact absurd h (List.find?_eq_none.mp hfound l l.mem_all)
  | some l' =>
    obtain ⟨t, ht, word, hword, hform⟩ := head?_of_opens h
    obtain ⟨t', ht', word', hword', hform'⟩ := head?_of_opens (hopens hfound)
    obtain rfl : t = t' := Option.some.inj (ht.symm.trans ht')
    obtain rfl : word = word' := Token.Form.word.inj (hform.symm.trans hform')
    rw [eq_of_head? (hword.trans hword'.symm)]

/-- At most one lead stands at the front. -/
theorem eq_of_append {front' back' : List Token} (h : Token.IsPhrase l.phrase front)
    (h' : Token.IsPhrase l'.phrase front') (heq : front ++ back = front' ++ back') :
    l = l' ∧ front = front' ∧ back = back' := by
  have hfound : of? (front ++ back) = some l := of?_eq_some_iff.mpr (opens_iff.mpr ⟨front, back, rfl, h⟩)
  have hfound' : of? (front ++ back) = some l' := of?_eq_some_iff.mpr (opens_iff.mpr ⟨front', back', heq, h'⟩)
  obtain rfl : l = l' := Option.some.inj (hfound.symm.trans hfound')
  obtain ⟨hfront, hback⟩ := List.append_inj heq (h.length_eq.trans h'.length_eq.symm)
  exact ⟨rfl, hfront, hback⟩

/-- A lead stands at the front of the tokens. -/
def Begins (tokens : List Token) : Prop := ∃ (l : Lead) (front back : List Token),
  tokens = front ++ back ∧ Token.IsPhrase l.phrase front

theorem begins_iff_exists : Begins tokens ↔ ∃ l : Lead, opens l.phrase tokens = true :=
  exists_congr fun _ => opens_iff.symm

theorem begins_iff : Begins tokens ↔ (of? tokens).isSome = true := by
  rw [begins_iff_exists, Option.isSome_iff_exists]
  exact exists_congr fun _ => of?_eq_some_iff.symm

theorem begins_map {f : Token → Token} (hf : ∀ t, (f t).form = t.form) :
    Begins (tokens.map f) ↔ Begins tokens := by rw [begins_iff, begins_iff, of?_map hf]

theorem Begins.ne_nil (h : Begins tokens) : tokens ≠ [] := by
  obtain ⟨l, phrase, back, rfl, hphrase⟩ := h
  exact List.append_ne_nil_of_left_ne_nil (ne_nil_of_isPhrase hphrase) back

theorem not_begins_nil : ¬Begins [] := fun h => h.ne_nil rfl

theorem Begins.append (h : Begins front) (back : List Token) : Begins (front ++ back) := by
  obtain ⟨l, h⟩ := begins_iff_exists.mp h
  exact begins_iff_exists.mpr ⟨l, opens_append h back⟩

/-- A lead does not reach over the beginning of another one. -/
theorem Begins.of_append (h : Begins (front ++ back)) (hne : front ≠ []) (hback : Begins back) : Begins front := by
  obtain ⟨l, phrase, more, heq, hphrase⟩ := h
  rcases List.append_eq_append_iff.mp heq with ⟨later, rfl, rfl⟩ | ⟨rest, rfl, -⟩
  · cases later with
    | nil =>
      rw [List.append_nil] at hphrase
      exact ⟨l, front, [], (List.append_nil front).symm, hphrase⟩
    | cons t later =>
      -- The beginning of the other lead would be a later word of this one.
      exfalso
      obtain ⟨l', hopens⟩ := begins_iff_exists.mp hback
      obtain ⟨t', ht', word, hword, hform⟩ := head?_of_opens hopens
      cases ht'
      have hlater : word ∉ l.phrase.tail := head_notMem_tail hword
      refine hlater ?_
      obtain ⟨u, front, rfl⟩ := List.exists_cons_of_ne_nil hne
      obtain ⟨first, words, hwords⟩ := l.exists_phrase
      rw [Token.IsPhrase, hwords, List.cons_append, List.map_cons, List.map_cons, List.cons.injEq, List.map_append,
        List.map_cons] at hphrase
      have hmem : Token.Form.word word ∈ words.map Token.Form.word := by
        rw [← hphrase.2, ← hform]
        simp
      obtain ⟨word', hword', heq⟩ := List.mem_map.mp hmem
      cases heq
      rwa [hwords]
  · exact ⟨l, phrase, rest, rfl, hphrase⟩

end Lead

/-! ### The first lead outside parentheses -/

namespace Token

variable {depth n : Nat} {t : Token} {tokens front back : List Token}

/-- No lead begins outside parentheses, with `depth` open before. -/
def LeadFree (depth : Nat) (tokens : List Token) : Prop :=
  ∀ front back, tokens = front ++ back → depthAfterAll depth front = 0 → ¬Lead.Begins back

theorem leadFree_nil : LeadFree depth [] := by
  intro front back heq _
  rw [(List.append_eq_nil_iff.mp heq.symm).2]
  exact Lead.not_begins_nil

theorem leadFree_cons :
    LeadFree depth (t :: tokens) ↔ (depth = 0 → ¬Lead.Begins (t :: tokens)) ∧ LeadFree (depthAfter depth t) tokens := by
  constructor
  · intro h
    exact ⟨fun hdepth => h [] _ rfl hdepth, fun front back heq => h (t :: front) back (by rw [heq]; rfl)⟩
  · rintro ⟨hhere, hmore⟩ front back heq hdepth
    cases front with
    | nil =>
      rw [← List.nil_append back, ← heq]
      exact hhere hdepth
    | cons u front =>
      cases heq
      exact hmore front back rfl hdepth

theorem findLeadFrom_eq_none_iff : findLeadFrom depth tokens = none ↔ LeadFree depth tokens := by
  induction tokens generalizing depth with
  | nil => exact iff_of_true rfl leadFree_nil
  | cons t tokens ih =>
    rw [leadFree_cons, ← ih, Lead.begins_iff, findLeadFrom]
    by_cases hdepth : depth = 0
    · cases hlead : Lead.of? (t :: tokens) <;> simp [hdepth]
    · simp [hdepth]

/-- Behind tokens that hold no lead outside parentheses, and close all of these, the lead is found. -/
theorem findLeadFrom_append (hfront : LeadFree depth front) (hdepth : depthAfterAll depth front = 0)
    (hback : Lead.Begins back) : findLeadFrom depth (front ++ back) = some front.length := by
  induction front generalizing depth with
  | nil =>
    obtain rfl : depth = 0 := hdepth
    cases back with
    | nil => exact absurd hback Lead.not_begins_nil
    | cons t back =>
      have hlead := Lead.begins_iff.mp hback
      simp [findLeadFrom, hlead]
  | cons t front ih =>
    obtain ⟨hhere, hmore⟩ := leadFree_cons.mp hfront
    have hnot : ¬(decide (depth = 0) && (Lead.of? (t :: (front ++ back))).isSome) = true := by
      rw [Bool.and_eq_true, decide_eq_true_eq, ← Lead.begins_iff]
      rintro ⟨hzero, hbegins⟩
      rw [← List.cons_append] at hbegins
      exact hhere hzero (hbegins.of_append (List.cons_ne_nil t front) hback)
    rw [List.cons_append, findLeadFrom, if_neg hnot, ih hmore hdepth]
    rfl

/-- Where the lead is found it begins, and the tokens before hold no lead outside parentheses and close all of these. -/
theorem findLeadFrom_eq_some (h : findLeadFrom depth tokens = some n) :
    ∃ front back, tokens = front ++ back ∧ front.length = n ∧ LeadFree depth front ∧ depthAfterAll depth front = 0 ∧
      Lead.Begins back := by
  induction tokens generalizing depth n with
  | nil => cases h
  | cons t tokens ih =>
    rw [findLeadFrom] at h
    split at h
    · rename_i hhere
      rw [Bool.and_eq_true, decide_eq_true_eq, ← Lead.begins_iff] at hhere
      cases h
      exact ⟨[], t :: tokens, rfl, rfl, leadFree_nil, hhere.1, hhere.2⟩
    · rename_i hhere
      rw [Bool.and_eq_true, decide_eq_true_eq, ← Lead.begins_iff] at hhere
      obtain ⟨m, hm, rfl⟩ := Option.map_eq_some_iff.mp h
      obtain ⟨front, back, rfl, rfl, hfront, hdepth, hback⟩ := ih hm
      refine ⟨t :: front, back, rfl, rfl, leadFree_cons.mpr ⟨fun hzero hbegins => hhere ⟨hzero, ?_⟩, hfront⟩, hdepth,
        hback⟩
      exact hbegins.append back

end Token
end SceneScript
