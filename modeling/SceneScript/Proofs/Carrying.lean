import SceneScript.Proofs.Matching
import SceneScript.Proofs.PositionGrammar

/-!
Tokens carried to another text. A token counts for its form and its spelling, and tokens in a row for the text they
cover. Where these are kept, an attribute section sets the same attributes and a position clause states the same
position, whatever stands around them; so both are told by the text of an excerpt.
-/

namespace SceneScript

namespace Token

/-- Each token keeps its form and spelling, and those of them that stand in a row there cover what they covered. -/
structure Carries (f : Token → Token) (source source' : String) (tokens : List Token) : Prop where
  form (t : Token) : (f t).form = t.form
  lexeme (t : Token) : (f t).lexeme = t.lexeme
  textOf {part : List Token} : part.Sublist tokens → Token.textOf source' (part.map f) = Token.textOf source part

variable {f : Token → Token} {source source' : String} {tokens part group : List Token}

theorem Carries.sublist (h : Carries f source source' tokens) (hpart : part.Sublist tokens) :
    Carries f source source' part :=
  ⟨h.form, h.lexeme, fun hinner => h.textOf (hinner.trans hpart)⟩

/-- A carried token is the token but for its span. -/
theorem Carries.eq (h : Carries f source source' tokens) (t : Token) : f t = { t with span := (f t).span } := by
  rw [← h.form t, ← h.lexeme t]

theorem sublist_of_mem_splitGroupsFrom {isSeparator : Token → Bool} {depth : Nat}
    (h : group ∈ splitGroupsFrom isSeparator depth tokens) : group.Sublist tokens := by
  induction tokens generalizing depth group with
  | nil =>
    rw [List.mem_singleton.mp h]
  | cons t tokens ih =>
    obtain ⟨first, groups, hgroups⟩ :=
      List.exists_cons_of_ne_nil (splitGroupsFrom_ne_nil isSeparator (depthAfter depth t) tokens)
    have hinner : ∀ group ∈ first :: groups, group.Sublist tokens := fun group hgroup => ih (by rwa [hgroups])
    simp only [splitGroupsFrom, hgroups] at h
    split at h
    · rcases List.mem_cons.mp h with rfl | h
      · exact List.nil_sublist _
      · exact (hinner group h).cons t
    · rcases List.mem_cons.mp h with rfl | h
      · exact (hinner first List.mem_cons_self).cons_cons t
      · exact (hinner group (List.mem_cons_of_mem _ h)).cons t

end Token

namespace Clause

variable {f : Token → Token} {source source' : String} {tokens clause inner : List Token}

theorem sublist_of_mem_ofTokens (h : clause ∈ ofTokens tokens) : clause.Sublist tokens :=
  (Token.sublist_of_mem_splitGroupsFrom (List.mem_of_mem_filter h)).trans List.filter_sublist

theorem takeClosed_sublist {depth : Nat} (h : takeClosed depth tokens = some inner) : inner.Sublist tokens := by
  induction tokens generalizing depth inner with
  | nil => cases h
  | cons t rest ih =>
    unfold takeClosed at h
    split at h
    · obtain ⟨inner', hinner, rfl⟩ := Option.map_eq_some_iff.mp h
      exact (ih hinner).cons_cons t
    · split at h
      · cases h
        exact List.nil_sublist _
      · obtain ⟨inner', hinner, rfl⟩ := Option.map_eq_some_iff.mp h
        exact (ih hinner).cons_cons t
    · obtain ⟨inner', hinner, rfl⟩ := Option.map_eq_some_iff.mp h
      exact (ih hinner).cons_cons t

/-! ### Rules -/

/-- The rule sets the same by carried tokens. -/
def Portable (rule : Rule) : Prop :=
  ∀ {f : Token → Token} {source source' : String} {clause : List Token}, Token.Carries f source source' clause →
    rule source' (clause.map f) = rule source clause

/-- A rule that sets something by the word of a pair. -/
theorem portable_pair (first second : List String) {set : Token → Assignment}
    (hset : ∀ (t : Token) (span : Span), set { t with span } = set t) :
    Portable fun _ tokens => .ok ((pair? first second tokens).map set) := by
  intro f source source' clause h
  have hcarried : set ∘ f = set := funext fun t => by rw [Function.comp_apply, h.eq t, hset]
  simp only [pair?_map h.form, Option.map_map, hcarried]

theorem portable_age : Portable age := by
  intro f source source' clause h
  match clause with
  | [] => rfl
  | [_] => rfl
  | a :: ⟨form, lexeme, span⟩ :: rest =>
    rw [List.map_cons, List.map_cons, h.eq a, h.eq ⟨form, lexeme, span⟩]
    cases form <;> rfl

/-- Rules that look at the first tokens alone. -/
theorem portable_of_short : ∀ rule ∈ [size, colorItem, outfit, feature, negation], Portable rule := by
  intro rule hrule f source source' clause h
  simp only [List.mem_cons, List.not_mem_nil, or_false] at hrule
  rcases clause with _ | ⟨a, _ | ⟨b, rest⟩⟩
  · rcases hrule with rfl | rfl | rfl | rfl | rfl <;> rfl
  · rw [List.map_singleton, h.eq a]
    rcases hrule with rfl | rfl | rfl | rfl | rfl <;> rfl
  · rw [List.map_cons, List.map_cons, h.eq a, h.eq b]
    rcases hrule with rfl | rfl | rfl | rfl | rfl <;> rfl

theorem parameterValue_carried (h : Token.Carries f source source' tokens) :
    parameterValue source' (tokens.map f) = parameterValue source tokens := by
  have hwritten := h.textOf (List.Sublist.refl tokens)
  match tokens with
  | [] => rfl
  | [⟨form, lexeme, span⟩] =>
    rw [List.map_singleton, h.eq ⟨form, lexeme, span⟩] at hwritten ⊢
    cases form with
    | number n => rfl
    | string text => rfl
    | _ => simp only [parameterValue, hwritten]
  | ⟨form, lexeme, span⟩ :: t :: rest =>
    rw [parameterValue_of_several (by simp), parameterValue_of_several (by simp), hwritten]

theorem parameter?_carried (h : Token.Carries f source source' tokens) :
    parameter? source' (tokens.map f) = parameter? source tokens := by
  match tokens with
  | [] => rfl
  | [_] => rfl
  | [_, _] => rfl
  | key :: colon :: t :: rest =>
    have hvalue := parameterValue_carried (h.sublist (List.drop_sublist 2 (key :: colon :: t :: rest)))
    rw [List.drop_succ_cons, List.drop_succ_cons, List.drop_zero, List.map_cons] at hvalue
    simp only [List.map_cons, parameter?, Token.kind_map h.form, h.lexeme, hvalue]

theorem parameters_carried (h : Token.Carries f source source' tokens) :
    (Token.splitGroups Token.isComma (tokens.map f)).filterMap (parameter? source') =
      (Token.splitGroups Token.isComma tokens).filterMap (parameter? source) := by
  have hcomma : ∀ t, Token.isComma (f t) = Token.isComma t := fun t => by
    rw [Token.isComma, Token.isComma, Token.kind_map h.form]
  rw [Token.splitGroups, Token.splitGroupsFrom_map h.form hcomma, List.filterMap_map]
  refine List.filterMap_congr fun group hgroup => ?_
  exact parameter?_carried (h.sublist (Token.sublist_of_mem_splitGroupsFrom hgroup))

theorem portable_parameterized : Portable parameterized := by
  intro f source source' clause h
  match clause with
  | [] => rfl
  | [_] => rfl
  | name :: paren :: rest =>
    simp only [List.map_cons, parameterized, Token.kind_map h.form, h.lexeme, takeClosed_map h.form]
    cases hclosed : takeClosed 0 rest with
    | none => rfl
    | some inner =>
      cases inner with
      | nil => rfl
      | cons t inner =>
        have hsub := ((takeClosed_sublist hclosed).cons paren).cons name
        have hparameters := parameters_carried (h.sublist hsub)
        rw [List.map_cons] at hparameters
        simp only [Option.map_some, List.map_cons, hparameters]

theorem portable_firstMatch {rules : List Rule} (h : ∀ rule ∈ rules, Portable rule) : Portable (firstMatch rules) :=
  fun hcarries => firstMatch_congr fun rule hrule => h rule hrule hcarries

theorem portable_assignment? : Portable assignment? := by
  refine portable_firstMatch fun rule hrule => ?_
  simp only [rules, List.mem_cons, List.not_mem_nil, or_false] at hrule
  rcases hrule with rfl | rfl | rfl | rfl | rfl | rfl | rfl | rfl | rfl | rfl | rfl | rfl
  · exact portable_age
  · exact portable_of_short _ (by simp)
  · exact portable_of_short _ (by simp)
  · exact portable_pair _ _ fun _ _ => rfl
  · exact portable_parameterized
  · exact portable_of_short _ (by simp)
  · exact portable_pair _ _ fun _ _ => rfl
  · exact portable_pair _ _ fun _ _ => rfl
  · exact portable_of_short _ (by simp)
  · exact portable_pair _ _ fun _ _ => rfl
  · exact portable_of_short _ (by simp)
  · exact portable_pair _ _ fun _ _ => rfl

end Clause

/-! ### Sections and clauses -/

section
variable {f : Token → Token} {source source' : String} {tokens : List Token}

theorem Clause.foldlM_applyTo_carried {clauses : List (List Token)}
    (h : ∀ clause ∈ clauses, Token.Carries f source source' clause) (fields : Attributes) :
    (clauses.map (List.map f)).foldlM (applyTo source') fields = clauses.foldlM (applyTo source) fields := by
  induction clauses generalizing fields with
  | nil => rfl
  | cons clause clauses ih =>
    have hrest := ih fun clause' hclause => h clause' (List.mem_cons_of_mem clause hclause)
    rw [List.map_cons, List.foldlM_cons, List.foldlM_cons, applyTo, applyTo,
      portable_assignment? (h clause List.mem_cons_self)]
    simp only [hrest]

theorem Attributes.read_carried (h : Token.Carries f source source' tokens) :
    read source' (tokens.map f) = read source tokens := by
  have hclauses : ∀ clause ∈ Clause.ofTokens tokens, Token.Carries f source source' clause :=
    fun clause hclause => h.sublist (Clause.sublist_of_mem_ofTokens hclause)
  rw [read, read, readInto, readInto, Clause.ofTokens_map h.form, Clause.foldlM_applyTo_carried hclauses]

namespace Position

/-- The position that a clause states, if it is not refused. -/
def stated? (source : String) (tokens : List Token) : Option Position :=
  (ofClause source tokens).toOption.map (·.position)

theorem ofLead_carried {lead : Lead} (span span' : Span) (h : Token.Carries f source source' tokens) :
    (ofLead source' lead span' (tokens.map f)).toOption.map (·.position) =
      (ofLead source lead span tokens).toOption.map (·.position) := by
  cases lead with
  | «at» =>
    by_cases hnil : tokens = []
    · rw [hnil]
      rfl
    · obtain ⟨first, final, hfirst, hfinal⟩ := exists_ends hnil
      have hmapped := spanOf?_of_ends ((List.head?_map ..).trans (congrArg (Option.map f) hfirst))
        ((List.getLast?_map ..).trans (congrArg (Option.map f) hfinal))
      simp only [ofLead, spanOf?_of_ends hfirst hfinal, hmapped, place?_map h.form]
      cases place? tokens <;> simp only [Except.toOption, Option.map_some]
  | relation r =>
    obtain ⟨target, distance, hsplit⟩ : ∃ target distance, splitDistance tokens = (target, distance) := ⟨_, _, rfl⟩
    have hwritten := h.textOf (parts_iff.mpr hsplit).isPrefix.sublist
    simp only [ofLead, splitDistance_map h.form, hsplit, List.isEmpty_map, hwritten]
    split <;> simp only [Except.toOption, Option.map_some, Option.map_none]

theorem stated?_carried (h : Token.Carries f source source' tokens) (hbegins : Lead.Begins tokens)
    (hkind : ∀ t ∈ tokens, t.kind ≠ .endOfStatement) : stated? source' (tokens.map f) = stated? source tokens := by
  rw [stated?, stated?, ofClause_of_begins source hbegins,
    ofClause_of_begins source' ((Lead.begins_map h.form).mpr hbegins)]
  obtain ⟨lead, phrase, target, rfl, hphrase⟩ := hbegins
  have htarget : ∀ t ∈ target, t.kind ≠ .endOfStatement := fun t ht => hkind t (List.mem_append_right _ ht)
  have hmapped : ∀ t ∈ target.map f, t.kind ≠ .endOfStatement := by
    intro t ht
    obtain ⟨u, hu, rfl⟩ := List.mem_map.mp ht
    rw [Token.kind_map h.form]
    exact htarget u hu
  have hlast : ∀ t ∈ (none : Option Token), t.kind = .endOfStatement := by simp
  obtain ⟨span, hread⟩ := ofTokens_lead source hphrase htarget hlast
  obtain ⟨span', hread'⟩ := ofTokens_lead source' ((Token.isPhrase_map h.form).mpr hphrase) hmapped hlast
  rw [Option.toList_none, List.append_nil] at hread hread'
  rw [List.map_append, hread, hread']
  exact ofLead_carried span span' (h.sublist (List.sublist_append_right phrase target))

end Position
end

/-! ### Excerpts -/

namespace Statement.Excerpt

variable {s s' : Statement} {offset offset' : Nat} {text : List Char} {tokens tokens' : List Token}

/-- Excerpts of one text carry the tokens of one text. -/
theorem exists_shared (h : s.Excerpt offset text tokens) (h' : s'.Excerpt offset' text tokens') :
    ∃ base, tokens = base.map (s.place offset) ∧ tokens' = base.map (s'.place offset') ∧
      Token.Carries (s.place offset) (.ofList text) s.text base ∧
      Token.Carries (s'.place offset') (.ofList text) s'.text base := by
  obtain ⟨base, hbase, hplaced⟩ := h.exists_alone
  obtain ⟨base', hbase', hplaced'⟩ := h'.exists_alone
  obtain rfl := hbase.unique hbase'
  exact ⟨base, hplaced, hplaced', ⟨fun _ => rfl, fun _ => rfl, h.textOf_place hbase⟩,
    ⟨fun _ => rfl, fun _ => rfl, h'.textOf_place hbase⟩⟩

/-- Tokens that cover the same text are excerpts of it. -/
theorem exists_excerpts {before after before' after' : List Token} (h : s.tokens = .ok (before ++ (tokens ++ after)))
    (h' : s'.tokens = .ok (before' ++ (tokens' ++ after'))) (hafter : after ≠ []) (hafter' : after' ≠ [])
    (hsame : Token.textOf s'.text tokens' = Token.textOf s.text tokens) :
    ∃ offset offset' text, s.Excerpt offset text tokens ∧ s'.Excerpt offset' text tokens' := by
  obtain ⟨offset, text, hexcerpt⟩ := exists_excerpt h hafter
  obtain ⟨offset', text', hexcerpt'⟩ := exists_excerpt h' hafter'
  rw [hexcerpt.textOf, hexcerpt'.textOf] at hsame
  obtain rfl := String.ofList_injective hsame
  exact ⟨offset, offset', _, hexcerpt, hexcerpt'⟩

section
variable (h : s.Excerpt offset text tokens) (h' : s'.Excerpt offset' text tokens')
include h h'

theorem findLead_eq : Token.findLead tokens = Token.findLead tokens' := by
  obtain ⟨base, rfl, rfl, hcarries, hcarries'⟩ := h.exists_shared h'
  rw [Token.findLead_map hcarries.form, Token.findLead_map hcarries'.form]

theorem begins_iff : Lead.Begins tokens ↔ Lead.Begins tokens' := by
  obtain ⟨base, rfl, rfl, hcarries, hcarries'⟩ := h.exists_shared h'
  rw [Lead.begins_map hcarries.form, Lead.begins_map hcarries'.form]

theorem read_eq : Attributes.read s.text tokens = Attributes.read s'.text tokens' := by
  obtain ⟨base, rfl, rfl, hcarries, hcarries'⟩ := h.exists_shared h'
  rw [Attributes.read_carried hcarries, Attributes.read_carried hcarries']

theorem stated?_eq (hbegins : Lead.Begins tokens) :
    Position.stated? s.text tokens = Position.stated? s'.text tokens' := by
  have hkind : ∀ t ∈ tokens, t.kind ≠ .endOfStatement := h.scans.kind_ne
  obtain ⟨base, rfl, rfl, hcarries, hcarries'⟩ := h.exists_shared h'
  rw [Lead.begins_map hcarries.form] at hbegins
  have hkind : ∀ t ∈ base, t.kind ≠ .endOfStatement := fun t ht => hkind (s.place offset t) (List.mem_map_of_mem ht)
  rw [Position.stated?_carried hcarries hbegins hkind, Position.stated?_carried hcarries' hbegins hkind]

end
end Statement.Excerpt
end SceneScript
