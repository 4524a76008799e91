import SceneScript.Proofs.Carrying
import SceneScript.Proofs.Sections

/-!
The clauses of a drawing do not interfere. The attribute section and the position clause of a statement say there
what each of them says in a statement of its own: an entity drawn with both has its attributes from the one and its
position from the other, and under every key the stated attribute or else the default of its subtype.
-/

namespace SceneScript

/-- The statement is these words and, behind them, these tokens. -/
def Statement.Says (s : Statement) (words : List String) (behind : List Token) : Prop :=
  ∃ front last, s.tokens = .ok (front ++ (behind ++ [last])) ∧ Token.IsPhrase words front

/-- The last of the words can be seen as one of the tokens. -/
theorem Statement.Says.shift {s : Statement} (words : List String) {word : String} {behind : List Token}
    (h : s.Says (words ++ [word]) behind) : ∃ t, t.form = .word word ∧ s.Says words (t :: behind) := by
  obtain ⟨all, last, htokens, hall⟩ := h
  rw [Token.IsPhrase, List.map_append, List.map_singleton] at hall
  obtain ⟨front, more, rfl, hfront, hmore⟩ := List.map_eq_append_iff.mp hall
  obtain ⟨t, rest, rfl, ht, hrest⟩ := List.map_eq_cons_iff.mp hmore
  obtain rfl := List.map_eq_nil_iff.mp hrest
  rw [List.append_assoc] at htokens
  exact ⟨t, ht, front, last, htokens, hfront⟩

section
variable {s s' : Statement} {words words' : List String} {attributes attributes' position position' : List Token}

/-- An attribute section of the same text sets the same attributes in another statement. -/
theorem Statement.Says.attributes_eq (h : s.Says words (attributes ++ position)) (h' : s'.Says words' attributes')
    (hsame : Token.textOf s'.text attributes' = Token.textOf s.text attributes)
    (hfree : Token.LeadFree 0 attributes) :
    Attributes.read s'.text attributes' = Attributes.read s.text attributes ∧ Token.LeadFree 0 attributes' := by
  obtain ⟨front, last, htokens, -⟩ := h
  obtain ⟨front', last', htokens', -⟩ := h'
  rw [List.append_assoc] at htokens
  obtain ⟨_, _, _, hexcerpt, hexcerpt'⟩ :=
    Excerpt.exists_excerpts htokens htokens' (by simp) (by simp) hsame
  rw [← Token.findLeadFrom_eq_none_iff] at hfree ⊢
  exact ⟨hexcerpt'.read_eq hexcerpt, (hexcerpt'.findLead_eq hexcerpt).trans hfree⟩

/-- A position clause of the same text states the same position in another statement. -/
theorem Statement.Says.position_eq (h : s.Says words (attributes ++ position)) (h' : s'.Says words' position')
    (hsame : Token.textOf s'.text position' = Token.textOf s.text position) (hbegins : Lead.Begins position) :
    Position.stated? s.text position = Position.stated? s'.text position' ∧ Lead.Begins position' := by
  obtain ⟨front, last, htokens, -⟩ := h
  obtain ⟨front', last', htokens', -⟩ := h'
  rw [List.append_assoc, ← List.append_assoc front] at htokens
  obtain ⟨_, _, _, hexcerpt, hexcerpt'⟩ :=
    Excerpt.exists_excerpts htokens htokens' (by simp) (by simp) hsame
  exact ⟨hexcerpt.stated?_eq hexcerpt' hbegins, (hexcerpt.begins_iff hexcerpt').mp hbegins⟩

end

theorem Statement.Says.exists_drawing {s : Statement} {word : String} {behind : List Token}
    (h : s.Says ["DRAW", word] behind) : ∃ opener t last, opener.form = .word "DRAW" ∧ t.form = .word word ∧
      s.tokens = .ok (opener :: (t :: behind ++ [last])) := by
  obtain ⟨front, last, htokens, hfront⟩ := h
  obtain ⟨opener, more, rfl, hopener, hmore⟩ := List.map_eq_cons_iff.mp hfront
  obtain ⟨t, rest, rfl, ht, hrest⟩ := List.map_eq_cons_iff.mp hmore
  obtain rfl := List.map_eq_nil_iff.mp hrest
  exact ⟨opener, t, last, hopener, ht, htokens⟩

/-- An attribute section sets each of its keys once. -/
theorem Attributes.nodup_read {source : String} {tokens : List Token} {stated : Attributes}
    (h : read source tokens = .ok stated) : (Assoc.keys stated).Nodup := by
  have hnone : (Assoc.keys ([] : Attributes)).Nodup := List.nodup_nil
  refine foldlM_invariant (fun fields => (Assoc.keys fields).Nodup) (fun fields clause fields' hfields hclause => ?_)
    hnone h
  obtain ⟨found, -, rfl⟩ := map_eq_ok.mp hclause
  cases found with
  | none => exact hfields
  | some a => cases a <;> exact Assoc.nodup_set hfields _ _

namespace Command

variable {word : String} {t : Token} {attributes position behind : List Token}

/-! ### Keywords of one word -/

/-- The word does not open a clause. -/
structure IsPlain (word : String) : Prop where
  ne_with : word ≠ "WITH"
  ne_without : word ≠ "WITHOUT"
  phrase_ne (lead : Lead) : lead.phrase ≠ [word]

theorem with_notMem (lead : Lead) : "WITH" ∉ lead.phrase ∧ "WITHOUT" ∉ lead.phrase := by
  have hall : ∀ lead ∈ Lead.all, "WITH" ∉ lead.phrase ∧ "WITHOUT" ∉ lead.phrase := by decide
  exact hall lead lead.mem_all

/-- Before a clause a plain word stands for itself. -/
theorem not_opensClause (hword : IsPlain word) (ht : t.form = .word word) (hbehind : OpensClause behind) :
    ¬OpensClause (t :: behind) := by
  rintro (⟨u, hu, hform⟩ | ⟨lead, phrase, more, heq, hphrase⟩)
  · cases hu
    rw [ht, Token.Form.word.injEq, Token.Form.word.injEq] at hform
    exact hform.elim hword.ne_with hword.ne_without
  · obtain ⟨first, words, hwords⟩ := lead.exists_phrase
    rw [Token.IsPhrase, hwords] at hphrase
    obtain ⟨u, rest, rfl, hu, hrest⟩ := List.map_eq_cons_iff.mp hphrase
    obtain ⟨rfl, rfl⟩ := List.cons.inj heq
    obtain rfl := Token.Form.word.inj (hu.symm.trans ht)
    cases words with
    | nil => exact hword.phrase_ne lead hwords
    | cons second words =>
      obtain ⟨v, rest, rfl, hv, -⟩ := List.map_eq_cons_iff.mp hrest
      have hsecond : second ∈ lead.phrase.tail := by simp [hwords]
      -- The second word of a lead neither opens an attribute section nor begins a lead.
      rcases hbehind with ⟨w, hw, hform⟩ | hbegins
      · cases hw
        rw [hv, Token.Form.word.injEq, Token.Form.word.injEq] at hform
        rcases hform with rfl | rfl
        · exact (with_notMem lead).1 (List.mem_of_mem_tail hsecond)
        · exact (with_notMem lead).2 (List.mem_of_mem_tail hsecond)
      · obtain ⟨lead', hopens⟩ := Lead.begins_iff_exists.mp hbegins
        obtain ⟨w, hw, head, hhead, hform⟩ := Lead.head?_of_opens hopens
        cases hw
        obtain rfl := Token.Form.word.inj (hv.symm.trans hform)
        exact Lead.head_notMem_tail hhead hsecond

theorem Sections.of_plain (hword : IsPlain word) (ht : t.form = .word word)
    (hopens : OpensClause (attributes ++ position)) (hattributes : Token.LeadFree 0 attributes)
    (hposition : position = [] ∨ Token.depthAfterAll 0 attributes = 0 ∧ Lead.Begins position) :
    Sections.Of ⟨[t], attributes, position⟩ (t :: (attributes ++ position)) where
  tokens_eq := rfl
  keyword := .word (not_opensClause hword ht hopens) fun _ _ _ _ _ => hopens
  attributes := hattributes
  position := hposition

theorem leadFree_with (ht : t.form = .word "WITH") (h : Token.LeadFree 0 attributes) :
    Token.LeadFree 0 (t :: attributes) := by
  rw [Token.leadFree_cons, Token.depthAfter_of_word (Token.kind_of_form_word ht)]
  refine ⟨fun _ => ?_, h⟩
  rw [Lead.begins_iff, Lead.of?_of_avoids ht (by decide)]
  exact Bool.false_ne_true

theorem attributeTokens_with (ht : t.form = .word "WITH") : attributeTokens (t :: attributes) = attributes := by
  rw [attributeTokens, if_pos (Token.isWord_singleton.mpr ht)]

end Command

namespace Context

variable {c : Context} {s s₁ s₂ : Statement} {e : Entity} {opener last : Token} {tokens : List Token} {word : String}
  {attributes attributes₁ position position₂ : List Token}

/-! ### What a drawing adds -/

section
variable (h : s.tokens = .ok (opener :: (tokens ++ [last]))) (hdraw : opener.form = .word "DRAW")
  {p : Command.Sections} (hp : p.Of tokens) (hfirst : ∀ t ∈ tokens.head?, t.kind = .word) (hne : tokens ≠ [])
include h hdraw hp hfirst hne

theorem exists_stated_of_not_refuses (hnot : ∀ r, ¬c.Refuses s r) :
    ∃ placed, Position.stated? s.text p.position = some placed := by
  have hread := @Command.readDraw_of_sections s.text _ opener last _ hp hfirst hne
  rw [Position.stated?]
  cases hplaced : Position.ofClause s.text p.position with
  | error r =>
    rw [hplaced] at hread
    exact absurd ((refuses_draw_iff h hdraw).mpr hread) (hnot r)
  | ok placed => exact ⟨placed.position, rfl⟩

/-- A drawing adds the entity that its sections state. -/
theorem draws_iff_of_sections (hc : c.Sound) :
    c.Draws s e ↔ ∃ placed defaults stated, Position.stated? s.text p.position = some placed ∧
      c.vocabulary.attributesFor (c.typeOf (Command.nameOf p.keyword)).subtype = .ok defaults ∧
      Attributes.read s.text (Command.attributeTokens p.attributes) = .ok stated ∧
      e = c.entityOf (Command.nameOf p.keyword) (Assoc.merge defaults stated) placed := by
  have hread := @Command.readDraw_of_sections s.text _ opener last _ hp hfirst hne
  constructor
  · intro hdraws
    obtain ⟨placed, hplaced⟩ := exists_stated_of_not_refuses h hdraw hp hfirst hne fun r hr =>
      not_draws_of_refuses hr hdraws
    obtain ⟨clause, hclause, rfl⟩ := toOption_map_eq_some.mp hplaced
    rw [hclause] at hread
    obtain ⟨defaults, stated, hall⟩ := (draws_iff h hdraw hc hread).mp hdraws
    exact ⟨clause.position, defaults, stated, hplaced, hall⟩
  · rintro ⟨placed, defaults, stated, hplaced, hall⟩
    obtain ⟨clause, hclause, rfl⟩ := toOption_map_eq_some.mp hplaced
    rw [hclause] at hread
    exact (draws_iff h hdraw hc hread).mpr ⟨defaults, stated, hall⟩

end

/-- Clauses behind a plain word state the entity. -/
theorem draws_plain_iff (hc : c.Sound) (hword : Command.IsPlain word)
    (h : s.Says ["DRAW", word] (attributes ++ position)) (hopens : Command.OpensClause (attributes ++ position))
    (hfree : Token.LeadFree 0 attributes)
    (hposition : position = [] ∨ Token.depthAfterAll 0 attributes = 0 ∧ Lead.Begins position) :
    ((∀ r, ¬c.Refuses s r) → ∃ placed, Position.stated? s.text position = some placed) ∧
      ∀ e, c.Draws s e ↔ ∃ placed defaults stated, Position.stated? s.text position = some placed ∧
        c.vocabulary.attributesFor (c.typeOf word).subtype = .ok defaults ∧
        Attributes.read s.text (Command.attributeTokens attributes) = .ok stated ∧
        e = c.entityOf word (Assoc.merge defaults stated) placed := by
  obtain ⟨opener, t, last, hdraw, ht, htokens⟩ := h.exists_drawing
  have hsections := Command.Sections.of_plain hword ht hopens hfree hposition
  have hne : t :: (attributes ++ position) ≠ [] := List.cons_ne_nil _ _
  have hfirst : ∀ u ∈ (t :: (attributes ++ position)).head?, u.kind = .word := by
    intro u hu
    cases hu
    exact Token.kind_of_form_word ht
  have hname : Command.nameOf [t] = word := Token.wordText_of_form ht
  refine ⟨exists_stated_of_not_refuses htokens hdraw hsections hfirst hne, fun e => ?_⟩
  have hdraws := draws_iff_of_sections (e := e) htokens hdraw hsections hfirst hne hc
  rwa [hname] at hdraws

/-- A drawing with attributes, and perhaps a clause, states the entity by them. -/
theorem draws_with_iff (hc : c.Sound) (hword : Command.IsPlain word)
    (h : s.Says ["DRAW", word, "WITH"] (attributes ++ position)) (hfree : Token.LeadFree 0 attributes)
    (hposition : position = [] ∨ Token.depthAfterAll 0 attributes = 0 ∧ Lead.Begins position) :
    c.Draws s e ↔ ∃ placed defaults stated, Position.stated? s.text position = some placed ∧
      c.vocabulary.attributesFor (c.typeOf word).subtype = .ok defaults ∧
      Attributes.read s.text attributes = .ok stated ∧
      e = c.entityOf word (Assoc.merge defaults stated) placed := by
  obtain ⟨joiner, hjoiner, hsays⟩ := h.shift ["DRAW", word]
  have hopens : Command.OpensClause (joiner :: attributes ++ position) := Or.inl ⟨joiner, rfl, Or.inl hjoiner⟩
  have hdepth : Token.depthAfterAll 0 (joiner :: attributes) = Token.depthAfterAll 0 attributes := by
    rw [Token.depthAfterAll_cons, Token.depthAfter_of_word (Token.kind_of_form_word hjoiner)]
  rw [← hdepth] at hposition
  obtain ⟨-, hdraws⟩ :=
    draws_plain_iff hc hword hsays hopens (Command.leadFree_with hjoiner hfree) hposition
  rw [hdraws, Command.attributeTokens_with hjoiner]

/-- A drawing with attributes alone stands at the center of the canvas. -/
theorem draws_attributes_iff (hc : c.Sound) (hword : Command.IsPlain word)
    (h : s.Says ["DRAW", word, "WITH"] attributes) (hfree : Token.LeadFree 0 attributes) :
    c.Draws s e ↔ ∃ defaults stated, c.vocabulary.attributesFor (c.typeOf word).subtype = .ok defaults ∧
      Attributes.read s.text attributes = .ok stated ∧ e = c.entityOf word (Assoc.merge defaults stated) {} := by
  rw [← List.append_nil attributes] at h
  rw [draws_with_iff hc hword h hfree (Or.inl rfl)]
  constructor
  · rintro ⟨placed, defaults, stated, hplaced, hall⟩
    cases hplaced
    exact ⟨defaults, stated, hall⟩
  · exact fun ⟨defaults, stated, hall⟩ => ⟨{}, defaults, stated, rfl, hall⟩

/-- A drawing with a position clause alone has the defaults for attributes. -/
theorem draws_clause_iff (hc : c.Sound) (hword : Command.IsPlain word) (h : s.Says ["DRAW", word] position)
    (hbegins : Lead.Begins position) :
    ((∀ r, ¬c.Refuses s r) → ∃ placed, Position.stated? s.text position = some placed) ∧
      ∀ e, c.Draws s e ↔ ∃ placed defaults, Position.stated? s.text position = some placed ∧
        c.vocabulary.attributesFor (c.typeOf word).subtype = .ok defaults ∧ e = c.entityOf word defaults placed := by
  rw [← List.nil_append position] at h
  have hopens : Command.OpensClause ([] ++ position) := Or.inr hbegins
  obtain ⟨hstated, hdraws⟩ := draws_plain_iff hc hword h hopens Token.leadFree_nil (Or.inr ⟨rfl, hbegins⟩)
  refine ⟨hstated, fun e => (hdraws e).trans ?_⟩
  constructor
  · rintro ⟨placed, defaults, stated, hplaced, hdefaults, hread, rfl⟩
    cases hread
    exact ⟨placed, defaults, hplaced, hdefaults, rfl⟩
  · rintro ⟨placed, defaults, hplaced, hdefaults, rfl⟩
    exact ⟨placed, defaults, [], hplaced, hdefaults, rfl, rfl⟩

/-! ### Both clauses -/

/-- What a drawing states with both clauses it states with each of them alone. -/
theorem draws_apart {vocabulary : Vocabulary} {strict : Bool} (hc : Reachable vocabulary strict c)
    (hword : Command.IsPlain word) (h : s.Says ["DRAW", word, "WITH"] (attributes ++ position))
    (h₁ : s₁.Says ["DRAW", word, "WITH"] attributes₁) (h₂ : s₂.Says ["DRAW", word] position₂)
    (hsame₁ : Token.textOf s₁.text attributes₁ = Token.textOf s.text attributes)
    (hsame₂ : Token.textOf s₂.text position₂ = Token.textOf s.text position)
    (hclosed : Token.depthAfterAll 0 attributes = 0) (hfree : Token.LeadFree 0 attributes)
    (hbegins : Lead.Begins position) :
    (∀ e, c.Draws s e ↔ ∃ e₁ e₂, c.Draws s₁ e₁ ∧ c.Draws s₂ e₂ ∧ e = { e₁ with position := e₂.position }) ∧
      ((∃ e, c.Draws s e) ↔ (∃ e₁, c.Draws s₁ e₁) ∧ ∀ r, ¬c.Refuses s₂ r) ∧
      ∀ e, c.Draws s e → ∃ defaults stated, vocabulary.attributesFor e.subtype = .ok defaults ∧
        Attributes.read s.text attributes = .ok stated ∧
        ∀ key, Assoc.get? e.attributes key = (Assoc.get? stated key).or (Assoc.get? defaults key) := by
  -- Each clause is the same excerpt in both of its statements.
  obtain ⟨hread, hfree₁⟩ := h.attributes_eq h₁ hsame₁ hfree
  obtain ⟨hstated, hbegins₂⟩ := h.position_eq h₂ hsame₂ hbegins
  have hboth := fun e => draws_with_iff (e := e) hc.sound hword h hfree (Or.inr ⟨hclosed, hbegins⟩)
  have hfirst := fun e₁ => draws_attributes_iff (e := e₁) hc.sound hword h₁ hfree₁
  simp only [hread] at hfirst
  obtain ⟨haccepted, hsecond⟩ := draws_clause_iff hc.sound hword h₂ hbegins₂
  rw [← hstated] at haccepted
  simp only [← hstated] at hsecond
  have hsplit : ∀ e, c.Draws s e ↔
      ∃ e₁ e₂, c.Draws s₁ e₁ ∧ c.Draws s₂ e₂ ∧ e = { e₁ with position := e₂.position } := by
    intro e
    simp only [hboth, hfirst, hsecond]
    constructor
    · rintro ⟨placed, defaults, stated, hplaced, hdefaults, hok, rfl⟩
      refine ⟨_, _, ⟨defaults, stated, hdefaults, hok, rfl⟩, ⟨placed, defaults, hplaced, hdefaults, rfl⟩, ?_⟩
      rw [position_entityOf, entityOf_moved]
    · rintro ⟨e₁, e₂, ⟨defaults, stated, hdefaults, hok, rfl⟩, ⟨placed, _, hplaced, -, rfl⟩, rfl⟩
      refine ⟨placed, defaults, stated, hplaced, hdefaults, hok, ?_⟩
      rw [position_entityOf, entityOf_moved]
  refine ⟨hsplit, ⟨?_, ?_⟩, ?_⟩
  · rintro ⟨e, he⟩
    obtain ⟨e₁, e₂, h₁, h₂, -⟩ := (hsplit e).mp he
    exact ⟨⟨e₁, h₁⟩, fun r hr => not_draws_of_refuses hr h₂⟩
  · rintro ⟨⟨e₁, he₁⟩, hnot⟩
    obtain ⟨defaults, stated, hdefaults, hok, -⟩ := (hfirst e₁).mp he₁
    obtain ⟨placed, hplaced⟩ := haccepted hnot
    exact ⟨_, (hboth _).mpr ⟨placed, defaults, stated, hplaced, hdefaults, hok, rfl⟩⟩
  · intro e he
    obtain ⟨placed, defaults, stated, -, hdefaults, hok, rfl⟩ := (hboth e).mp he
    rw [subtype_entityOf, attributes_entityOf, ← hc.vocabulary_eq]
    exact ⟨defaults, stated, hdefaults, hok, Assoc.get?_merge (Attributes.nodup_read hok)⟩

/-- A man with a lead among the attributes, in parentheses, and with one of the same kind behind them. -/
theorem draws_apart_man :
    let s : Statement := { line := 1, text := "DRAW MAN WITH HAIR(AT: 1) AT LEFT" }
    let s₁ : Statement := { line := 1, text := "DRAW MAN WITH HAIR(AT: 1)" }
    let s₂ : Statement := { line := 1, text := "DRAW MAN AT LEFT" }
    let c : Context := { vocabulary := .bundled }
    ∃ e e₁ e₂, c.Draws s e ∧ c.Draws s₁ e₁ ∧ c.Draws s₂ e₂ ∧ e = { e₁ with position := e₂.position } := by
  let front (s : Statement) : List Token :=
    [s.cut 0 (.word "DRAW") "DRAW".toList, s.cut 5 (.word "MAN") "MAN".toList]
  let joiner (s : Statement) : List Token := [s.cut 9 (.word "WITH") "WITH".toList]
  let attributes (s : Statement) : List Token := [s.cut 14 (.word "HAIR") "HAIR".toList,
    s.cut 18 .leftParen "(".toList, s.cut 19 (.word "AT") "AT".toList, s.cut 21 .colon ":".toList,
    s.cut 23 (.number 1) "1".toList, s.cut 24 .rightParen ")".toList]
  let position (s : Statement) (offset : Nat) : List Token :=
    [s.cut offset (.word "AT") "AT".toList, s.cut (offset + 3) (.word "LEFT") "LEFT".toList]
  have htokens : let s : Statement := { line := 1, text := "DRAW MAN WITH HAIR(AT: 1) AT LEFT" }
      s.tokens = .ok (front s ++ joiner s ++ (attributes s ++ position s 26 ++ [.endAt (s.location 33)])) := by
    with_unfolding_all rfl
  have htokens₁ : let s : Statement := { line := 1, text := "DRAW MAN WITH HAIR(AT: 1)" }
      s.tokens = .ok (front s ++ joiner s ++ (attributes s ++ [.endAt (s.location 25)])) := by
    with_unfolding_all rfl
  have htokens₂ : let s : Statement := { line := 1, text := "DRAW MAN AT LEFT" }
      s.tokens = .ok (front s ++ (position s 9 ++ [.endAt (s.location 16)])) := by
    with_unfolding_all rfl
  have hdraws : ((Context.attempt { vocabulary := .bundled }
      { line := 1, text := "DRAW MAN WITH HAIR(AT: 1) AT LEFT" }).toOption.map
        fun p => (p.2.isNone, p.1.scene.entities.length)) = some (true, 1) := by decide +kernel
  intro s s₁ s₂ c
  have hplain : Command.IsPlain "MAN" := by
    have hall : ∀ lead ∈ Lead.all, lead.phrase ≠ ["MAN"] := by decide
    exact ⟨by decide, by decide, fun lead => hall lead lead.mem_all⟩
  obtain ⟨hsplit, -, -⟩ := @draws_apart c s s₁ s₂ "MAN" (attributes s) (attributes s₁) (position s 26) (position s₂ 9)
    .bundled false .start hplain ⟨_, _, htokens, rfl⟩ ⟨_, _, htokens₁, rfl⟩ ⟨_, _, htokens₂, rfl⟩ (by decide +kernel)
    (by decide +kernel) rfl (Token.findLeadFrom_eq_none_iff.mp rfl) (Lead.begins_iff.mpr rfl)
  obtain ⟨⟨c', refusal⟩, hattempt, hadded⟩ := toOption_map_eq_some.mp hdraws
  simp only [Prod.mk.injEq, Option.isNone_iff_eq_none] at hadded
  obtain ⟨rfl, hlength⟩ := hadded
  obtain ⟨e, he⟩ := List.length_eq_one_iff.mp hlength
  have hs : c.Draws s e := ⟨c', hattempt, he⟩
  obtain ⟨e₁, e₂, h₁, h₂, heq⟩ := (hsplit e).mp hs
  exact ⟨e, e₁, e₂, hs, h₁, h₂, heq⟩

end Context
end SceneScript
