import SceneScript.Proofs.Excerpts
import SceneScript.Proofs.Phrases
import SceneScript.Proofs.Readings

/-!
The grammar of position clauses. After `AT` stand a named place, a pair of numbers or a grid cell, and whatever
else stands there is the canvas center with a warning; after a relation stands a target, which may hold anything,
and at the very end of it possibly a distance.
-/

namespace SceneScript

theorem Cursor.tokens_ofTokens {tokens : List Token} {last : Option Token}
    (htokens : ∀ t ∈ tokens, t.kind ≠ .endOfStatement) (hlast : ∀ t ∈ last, t.kind = .endOfStatement) :
    (ofTokens (tokens ++ last.toList)).tokens = tokens := by
  unfold ofTokens
  cases last with
  | none =>
    rw [Option.toList_none, List.append_nil]
    split
    · rename_i t ht
      rw [if_neg (htokens t (List.mem_of_getLast? ht))]
    · rfl
  | some t => simp [hlast t rfl]

theorem Token.IsPhrase.kind_ne {words : List String} {tokens : List Token} (h : IsPhrase words tokens) :
    ∀ t ∈ tokens, t.kind ≠ .endOfStatement := by
  intro t ht
  have hform : t.form ∈ words.map Form.word := by
    rw [← h]
    exact List.mem_map_of_mem ht
  obtain ⟨w, -, hw⟩ := List.mem_map.mp hform
  rw [kind_of_form_word hw.symm]
  nofun

namespace Position

variable {source : String} {target target' : List Token} {last : Option Token} {distance : Option Number} {p : Position}

/-- A clause that begins with a lead is read as what stands behind the lead. -/
theorem ofTokens_lead (source : String) {lead : Lead} {phrase : List Token}
    (hphrase : Token.IsPhrase lead.phrase phrase)
    (htarget : ∀ t ∈ target, t.kind ≠ .endOfStatement) (hlast : ∀ t ∈ last, t.kind = .endOfStatement) :
    ∃ span, ofTokens source (phrase ++ (target ++ last.toList)) = ofLead source lead span target := by
  have htokens : (Cursor.ofTokens (phrase ++ (target ++ last.toList))).tokens = phrase ++ target := by
    rw [← List.append_assoc]
    refine Cursor.tokens_ofTokens (fun t ht => ?_) hlast
    rcases List.mem_append.mp ht with ht | ht
    · exact hphrase.kind_ne t ht
    · exact htarget t ht
  have hlead : Lead.of? (phrase ++ target) = some lead :=
    Lead.of?_eq_some_iff.mpr (Lead.opens_iff.mpr ⟨phrase, target, rfl, hphrase⟩)
  refine ⟨(Cursor.ofTokens (phrase ++ (target ++ last.toList))).spanOf phrase, ?_⟩
  simp only [ofTokens, htokens, hlead, ← hphrase.length_eq, List.take_left, List.drop_left]

/-- The position that a clause states; without one it is the center of the canvas. -/
def ofClause (source : String) (tokens : List Token) : Except Refusal Placed :=
  if tokens = [] then .ok { position := {} } else ofTokens source tokens

theorem ofClause_of_begins (source : String) {tokens : List Token} (h : Lead.Begins tokens) :
    ofClause source tokens = ofTokens source tokens := if_neg h.ne_nil

/-! ### Targets and distances -/

/-- The target and the distance that tokens state: `WITH DISTANCE n` at the end states one, and is taken off once. -/
inductive Parts : List Token → List Token → Option Number → Prop
  | stated {target suffix : List Token} {n : Number} : IsDistance n suffix → Parts (target ++ suffix) target (some n)
  | bare {target : List Token} : (∀ before suffix n, target = before ++ suffix → ¬IsDistance n suffix) →
      Parts target target none

theorem parts_iff : Parts target target' distance ↔ splitDistance target = (target', distance) := by
  constructor
  · intro h
    cases h with
    | stated hn => exact splitDistance_append _ hn
    | bare hnot => exact splitDistance_of_not hnot
  · intro h
    by_cases hends : ∃ before suffix n, target = before ++ suffix ∧ IsDistance n suffix
    · obtain ⟨before, suffix, n, rfl, hn⟩ := hends
      cases (splitDistance_append before hn).symm.trans h
      exact .stated hn
    · have hnot : ∀ before suffix n, target = before ++ suffix → ¬IsDistance n suffix :=
        fun before suffix n heq hn => hends ⟨before, suffix, n, heq, hn⟩
      cases (splitDistance_of_not hnot).symm.trans h
      exact .bare hnot

theorem Parts.isPrefix (h : Parts target target' distance) :
    target' <+: target := by
  cases h with
  | stated => exact List.prefix_append ..
  | bare => exact List.prefix_refl _

theorem Parts.eq_nil_iff (h : Parts target target' distance) :
    target' = [] ↔ target = [] ∨ ∃ n, IsDistance n target := by
  constructor
  · rintro rfl
    cases h with
    | stated hn => exact Or.inr ⟨_, hn⟩
    | bare => exact Or.inl rfl
  · intro hnone
    cases h with
    | @stated _ suffix n hn =>
      rcases hnone with hnil | ⟨m, hm⟩
      · exact (List.append_eq_nil_iff.mp hnil).1
      · -- Both the suffix and all tokens are three, so the target has none.
        have hlength := congrArg List.length hm
        have hsuffix := congrArg List.length hn
        simp only [List.length_map, List.length_append, List.length_cons, List.length_nil] at hlength hsuffix
        exact List.eq_nil_of_length_eq_zero (by omega)
    | bare hnot =>
      rcases hnone with hnil | ⟨m, hm⟩
      · exact hnil
      · exact absurd hm (hnot [] _ m rfl)

/-! ### Refusals -/

theorem exists_ends (h : target ≠ []) : ∃ first final, target.head? = some first ∧ target.getLast? = some final :=
  ⟨_, _, List.head?_eq_some_head h, List.getLast?_eq_some_getLast h⟩

theorem spanOf?_of_ends {first final : Token} (hfirst : target.head? = some first)
    (hfinal : target.getLast? = some final) :
    Token.spanOf? target = some ⟨first.span.start, final.span.stop⟩ := by rw [Token.spanOf?, hfirst, hfinal]

/-- Behind a lead tokens are missing; behind a relation a distance does not count as one. -/
theorem ofLead_error_iff {lead : Lead} {span : Span} :
    (∃ e, ofLead source lead span target = .error e) ↔
      target = [] ∨ ∃ r n, lead = .relation r ∧ IsDistance n target := by
  cases lead with
  | «at» =>
    cases target with
    | nil => exact iff_of_true ⟨_, rfl⟩ (Or.inl rfl)
    | cons t rest =>
      obtain ⟨first, final, hfirst, hfinal⟩ := exists_ends (List.cons_ne_nil t rest)
      refine iff_of_false ?_ (by simp)
      rintro ⟨e, he⟩
      simp only [ofLead, spanOf?_of_ends hfirst hfinal] at he
      split at he <;> cases he
  | relation r =>
    obtain ⟨target', distance, hsplit⟩ : ∃ target' distance, splitDistance target = (target', distance) := ⟨_, _, rfl⟩
    have hnil := (parts_iff.mpr hsplit).eq_nil_iff
    have hmissing : (∃ e, ofLead source (.relation r) span target = .error e) ↔ target' = [] := by
      simp only [ofLead, hsplit, ← List.isEmpty_iff]
      split
      · rename_i hempty
        exact iff_of_true ⟨_, rfl⟩ hempty
      · rename_i hempty
        refine iff_of_false ?_ hempty
        rintro ⟨_, he⟩
        cases he
    rw [hmissing, hnil]
    simp

theorem cause_of_ofLead {lead : Lead} {span : Span} {e : Refusal} (h : ofLead source lead span target = .error e) :
    e.cause.code = "E107" ∧ ∀ lexeme, e.cause ≠ .noPosition lexeme := by
  cases lead with
  | «at» =>
    simp only [ofLead] at h
    split at h
    · cases h
      exact ⟨rfl, fun lexeme hcause => by cases hcause⟩
    · split at h <;> cases h
  | relation r =>
    simp only [ofLead] at h
    split at h
    · cases h
      exact ⟨rfl, fun lexeme hcause => by cases hcause⟩
    · cases h

/-- A position clause without a place or a target: a lead alone, or a relation with nothing but a distance. -/
inductive LacksTarget : List Token → Prop
  | alone {l : Lead} {phrase : List Token} : Token.IsPhrase l.phrase phrase → LacksTarget phrase
  | distance {r : Relation} {phrase suffix : List Token} {n : Number} : Token.IsPhrase r.phrase phrase →
      IsDistance n suffix → LacksTarget (phrase ++ suffix)

theorem LacksTarget.ne_nil {tokens : List Token} (h : LacksTarget tokens) : tokens ≠ [] := by
  cases h with
  | @alone l _ hphrase => exact Lead.ne_nil_of_isPhrase hphrase
  | @distance r phrase suffix _ hphrase =>
    have hphrase : Token.IsPhrase (Lead.relation r).phrase phrase := hphrase
    exact List.append_ne_nil_of_left_ne_nil (Lead.ne_nil_of_isPhrase hphrase) suffix

theorem lacksTarget_append {lead : Lead} {phrase : List Token} (hphrase : Token.IsPhrase lead.phrase phrase) :
    LacksTarget (phrase ++ target) ↔ target = [] ∨ ∃ r n, lead = .relation r ∧ IsDistance n target := by
  constructor
  · intro h
    generalize htokens : phrase ++ target = tokens at h
    cases h with
    | alone halone =>
      rw [← List.append_nil tokens] at htokens
      exact Or.inl (Lead.eq_of_append hphrase halone htokens).2.2
    | @distance r phrase' suffix n hrelation hn =>
      have hrelation : Token.IsPhrase (Lead.relation r).phrase phrase' := hrelation
      obtain ⟨hlead, -, rfl⟩ := Lead.eq_of_append hphrase hrelation htokens
      exact Or.inr ⟨r, n, hlead, hn⟩
  · rintro (rfl | ⟨r, n, rfl, hn⟩)
    · rw [List.append_nil]
      exact .alone hphrase
    · exact .distance hphrase hn

/-- A clause that a lead begins is refused exactly if it lacks its place or target. -/
theorem ofTokens_error_iff (source : String) {tokens : List Token} (hbegins : Lead.Begins tokens)
    (hkind : ∀ t ∈ tokens, t.kind ≠ .endOfStatement) :
    ((∃ e, ofTokens source tokens = .error e) ↔ LacksTarget tokens) ∧
      ∀ e, ofTokens source tokens = .error e → e.cause.code = "E107" ∧ ∀ lexeme, e.cause ≠ .noPosition lexeme := by
  obtain ⟨lead, phrase, target, rfl, hphrase⟩ := hbegins
  have htarget : ∀ t ∈ target, t.kind ≠ .endOfStatement := fun t ht => hkind t (List.mem_append_right _ ht)
  have hlast : ∀ t ∈ (none : Option Token), t.kind = .endOfStatement := by simp
  obtain ⟨span, hread⟩ := ofTokens_lead source hphrase htarget hlast
  rw [Option.toList_none, List.append_nil] at hread
  rw [hread, ofLead_error_iff, lacksTarget_append hphrase]
  exact ⟨Iff.rfl, fun e he => cause_of_ofLead he⟩

/-! ### After `AT` -/

/-- The places that the tokens after `AT` state: one of the named ones, a pair, alone or after `POSITION`, or the
    middle of a grid cell, whose row comes first. -/
inductive States : List Token → Position → Prop
  | named {t : Token} {name : String} {x y z : Int} : t.form = .word name → (name, x, y, z) ∈ named →
      States [t] (absolute (.int x) (.int y) (.int z))
  | pair {tokens : List Token} {x y : Number} : IsPair x y tokens → States tokens (absolute x y 0)
  | position {t : Token} {tokens : List Token} {x y : Number} : t.form = .word "POSITION" → IsPair x y tokens →
      States (t :: tokens) (absolute x y 0)
  | grid {t : Token} {tokens : List Token} {row column : Number} : t.form = .word "GRID" → IsPair row column tokens →
      States (t :: tokens) (absolute ((column.scale 150).shift 100) ((row.scale 150).shift 100) 0)

/-- The names of places differ. -/
theorem mem_named_iff {name : String} {place : Int × Int × Int} :
    (name, place) ∈ named ↔ named.lookup name = some place := by
  constructor
  · intro h
    have hall : ∀ entry ∈ named, named.lookup entry.1 = some entry.2 := by decide
    exact hall _ h
  · intro h
    obtain ⟨front, back, heq, -⟩ := List.lookup_eq_some_iff.mp h
    rw [heq]
    simp

theorem ofName?_eq_some_iff {name : String} :
    ofName? name = some p ↔ ∃ x y z, (name, x, y, z) ∈ named ∧ absolute (.int x) (.int y) (.int z) = p := by
  simp [ofName?, mem_named_iff]

/-- A pair begins with a number or a parenthesis. -/
theorem IsPair.head {tokens : List Token} {x y : Number} (h : IsPair x y tokens) :
    ∃ t rest, tokens = t :: rest ∧ t.kind ≠ .word := by
  rcases h with h | h <;>
  · obtain ⟨t, rest, rfl, ht, -⟩ := List.map_eq_cons_iff.mp h
    refine ⟨t, rest, rfl, ?_⟩
    rw [Token.kind, ht]
    intro hkind
    cases hkind

theorem states_of_place? (h : place? target = some p) : States target p := by
  unfold place? at h
  split at h
  · cases h
  · rename_i t rest
    split at h
    · rename_i hgrid
      obtain ⟨⟨row, column⟩, hpair, rfl⟩ := Option.map_eq_some_iff.mp h
      exact .grid (Token.isWord_singleton.mp hgrid) (pair?_eq_some_iff.mp hpair)
    · split at h
      · rename_i hname
        rw [Bool.and_eq_true, decide_eq_true_eq, List.isEmpty_iff] at hname
        obtain ⟨hkind, rfl⟩ := hname
        obtain ⟨x, y, z, hmem, rfl⟩ := ofName?_eq_some_iff.mp h
        exact .named (Token.form_of_kind_word hkind) hmem
      · obtain ⟨⟨x, y⟩, hpair, rfl⟩ := Option.map_eq_some_iff.mp h
        have hpair := pair?_eq_some_iff.mp hpair
        split at hpair
        · rename_i hposition
          exact .position (Token.isWord_singleton.mp hposition) hpair
        · exact .pair hpair

theorem place?_of_states (h : States target p) : place? target = some p := by
  cases h with
  | @named t name x y z ht hmem =>
    have hgrid : t.isWord ["GRID"] = false := by
      refine Bool.eq_false_iff.mpr fun hword => ?_
      cases ht.symm.trans (Token.isWord_singleton.mp hword)
      have hnone : named.lookup "GRID" = none := by decide
      rw [mem_named_iff, hnone] at hmem
      cases hmem
    simp only [place?, hgrid, Token.kind_of_form_word ht, Token.wordText_of_form ht]
    exact ofName?_eq_some_iff.mpr ⟨x, y, z, hmem, rfl⟩
  | pair hpair =>
    obtain ⟨t, rest, rfl, hkind⟩ := hpair.head
    have hword : ∀ words, t.isWord words = false := fun words =>
      Bool.eq_false_iff.mpr fun h => hkind (Token.kind_of_isWord h)
    simp [place?, hword, hkind, pair?_eq_some_iff.mpr hpair]
  | @position t _ _ _ ht hpair =>
    obtain ⟨u, rest, rfl, -⟩ := hpair.head
    have hgrid : t.isWord ["GRID"] = false := by simp [Token.isWord, ht]
    have hposition : t.isWord ["POSITION"] = true := Token.isWord_singleton.mpr ht
    simp [place?, hgrid, hposition, pair?_eq_some_iff.mpr hpair]
  | grid ht hpair =>
    simp [place?, Token.isWord_singleton.mpr ht, pair?_eq_some_iff.mpr hpair, ofGrid]

theorem place?_eq_some_iff : place? target = some p ↔ States target p := ⟨states_of_place?, place?_of_states⟩

theorem States.ne_nil (h : States target p) : target ≠ [] := by
  rintro rfl
  cases place?_eq_some_iff.mpr h

theorem ofLead_at_of_states {span : Span} (h : States target p) :
    ofLead source .at span target = .ok { position := p } := by
  have hplace := place?_eq_some_iff.mpr h
  obtain ⟨first, final, hfirst, hfinal⟩ := exists_ends h.ne_nil
  simp only [ofLead, spanOf?_of_ends hfirst hfinal, hplace]

theorem ofLead_at_of_not {span : Span} {first final : Token} (hfirst : target.head? = some first)
    (hfinal : target.getLast? = some final) (h : ∀ p, ¬States target p) :
    ofLead source .at span target = .ok {
      position := {}
      warning := some ((Warning.unknownPosition (Token.textOf source target)).diagnostic
        ⟨first.span.start, final.span.stop⟩ (some source)) } := by
  have hplace : place? target = none := Option.eq_none_iff_forall_ne_some.mpr fun p hp => h p (place?_eq_some_iff.mp hp)
  simp only [ofLead, spanOf?_of_ends hfirst hfinal, hplace]

/-- Tokens behind `AT` are refused only if there are none. They give the place that they state; tokens that state none
    give the canvas center, and one warning that marks all of them. Nothing is ever left pending. -/
theorem ofTokens_at (source : String) {lead : Token} (hlead : lead.form = .word "AT")
    (htarget : ∀ t ∈ target, t.kind ≠ .endOfStatement) (hlast : ∀ t ∈ last, t.kind = .endOfStatement) :
    let read := ofTokens source (lead :: (target ++ last.toList))
    ((∃ r, read = .error r) ↔ target = []) ∧ (∀ r, read = .error r → r.cause.code = "E107") ∧
      (∀ p, read = .ok { position := p } ↔ States target p) ∧
      (∀ first final, target.head? = some first → target.getLast? = some final → (∀ p, ¬States target p) →
        ∃ w, read = .ok { position := absolute 400 300 0, warning := some w } ∧ w.code = "W105" ∧
          w.span = ⟨first.span.start, final.span.stop⟩) ∧
      ∀ placed, read = .ok placed → placed.position.IsAbsolute := by
  have hphrase : Token.IsPhrase Lead.at.phrase [lead] := by simp [Token.IsPhrase, Lead.phrase, hlead]
  obtain ⟨span, hread⟩ := ofTokens_lead source hphrase htarget hlast
  rw [List.singleton_append] at hread
  simp only [hread]
  have hrefused : (∃ e, ofLead source .at span target = .error e) ↔ target = [] := by simp [ofLead_error_iff]
  refine ⟨hrefused, fun e he => (cause_of_ofLead he).1, fun p => ⟨fun h => ?_, fun h => ofLead_at_of_states h⟩,
    fun first final hfirst hfinal hnot => ?_, fun placed h => ?_⟩
  · by_cases hstates : ∃ p, States target p
    · obtain ⟨p', hp'⟩ := hstates
      rw [ofLead_at_of_states hp'] at h
      cases h
      exact hp'
    · have hne : target ≠ [] := fun hnil => by
        obtain ⟨e, he⟩ := hrefused.mpr hnil
        rw [h] at he
        cases he
      obtain ⟨first, final, hfirst, hfinal⟩ := exists_ends hne
      rw [ofLead_at_of_not hfirst hfinal fun p hp => hstates ⟨p, hp⟩] at h
      cases h
  · rw [ofLead_at_of_not hfirst hfinal hnot]
    exact ⟨_, rfl, rfl, rfl⟩
  · simp only [ofLead] at h
    split at h
    · cases h
    · split at h
      · rename_i p hp
        cases h
        exact isAbsolute_of_place? hp
      · cases h
        exact isAbsolute_absolute _ _ _

/-- A grid cell in parentheses, with the closing token of its statement. -/
theorem ofTokens_at_grid :
    let t (form : Token.Form) : Token := ⟨form, "", .empty ⟨1, 1, 0, none⟩⟩
    ofTokens "AT GRID (2, 3)" (t (.word "AT") :: ([t (.word "GRID"), t .leftParen, t (.number 2), t .comma,
      t (.number 3), t .rightParen] ++ (some (t .endOfStatement)).toList)) =
        .ok { position := absolute 550 400 0 } := by
  intro t
  let cell := [t (.word "GRID"), t .leftParen, t (.number 2), t .comma, t (.number 3), t .rightParen]
  have hread := @ofTokens_at cell (some (t .endOfStatement)) "AT GRID (2, 3)" (t (.word "AT")) rfl
    (by simp [cell, t, Token.kind, Token.Form.kind]) (by simp [t, Token.kind, Token.Form.kind])
  have hcell : States cell (absolute (((3 : Number).scale 150).shift 100) (((2 : Number).scale 150).shift 100) 0) :=
    .grid rfl (.inr rfl)
  exact (hread.2.2.1 _).mpr hcell

end Position

/-! ### After a relation -/

/-- The offset from a target at a distance; behind it and in front of it the distance does not matter. -/
def Relation.away (r : Relation) (n : Number) : Number × Number × Number :=
  match r with
  | nextTo | rightOf => (n, 0, 0)
  | leftOf => (n.negate, 0, 0)
  | above => (0, n.negate, 0)
  | below => (0, n, 0)
  | near => (n, n, 0)
  | behind => (0, 50, .int (-30))
  | inFrontOf => (0, .int (-50), 30)

/-- The distance that counts: the stated one unless it is zero, else 80, or 50 for what is near. -/
inductive Relation.Reaches (r : Relation) : Option Number → Number → Prop
  | stated {n : Number} : n.isZero = false → Reaches r (some n) n
  | usual {distance : Option Number} : (∀ n ∈ distance, n.isZero = true) →
      Reaches r distance (if r = .near then 50 else 80)

theorem Relation.standIn_of_reaches {r : Relation} {distance : Option Number} {n : Number} (h : r.Reaches distance n) :
    r.standIn distance = r.away n := by
  cases h with
  | stated hn => cases r <;> simp [standIn, away, distanceOr, hn]
  | usual hzero =>
    have husual : ∀ usual, distanceOr usual distance = .int usual := by
      intro usual
      cases distance with
      | none => rfl
      | some n => simp [distanceOr, hzero n rfl]
    cases r <;> simp only [standIn, away, husual] <;> rfl

theorem Relation.exists_reaches (r : Relation) (distance : Option Number) : ∃ n, r.Reaches distance n := by
  cases distance with
  | none => exact ⟨_, .usual (by simp)⟩
  | some n =>
    cases hn : n.isZero with
    | true => exact ⟨_, .usual (by simp [hn])⟩
    | false => exact ⟨n, .stated hn⟩

namespace Position

variable {target target' : List Token} {last : Option Token} {distance : Option Number} {s : Statement}

/-- A clause that ends well has its target as it is written, from the first token to the last. -/
theorem exists_written {before phrase after : List Token} (h : s.tokens = .ok (before ++ (phrase ++ (target ++ after))))
    (hafter : after ≠ []) (hparts : Parts target target' distance) {first final : Token}
    (hfirst : target'.head? = some first) (hfinal : target'.getLast? = some final) :
    ∃ written, Token.textOf s.text target' = String.ofList written ∧
      Text.slice s.text first.span.start.offset.toNat final.span.stop.offset.toNat = String.ofList written ∧
      written ≠ [] ∧ (∀ c ∈ written.head?, c ≠ ' ' ∧ c ≠ '\t') ∧ ∀ c ∈ written.getLast?, c ≠ ' ' ∧ c ≠ '\t' := by
  obtain ⟨more, rfl⟩ := hparts.isPrefix
  have hstands : s.tokens = .ok (before ++ phrase ++ (target' ++ (more ++ after))) := by
    rw [h]
    simp only [List.append_assoc]
  obtain ⟨offset, written, hwritten⟩ := Statement.exists_excerpt hstands (by simp [hafter])
  have hne : target' ≠ [] := by
    rintro rfl
    cases hfirst
  have hgap : ∀ c, Text.isGap c = false → c ≠ ' ' ∧ c ≠ '\t' := by
    intro c hc
    simpa [Text.isGap] using hc
  refine ⟨written, hwritten.textOf, ?_, hwritten.ne_nil hne, fun c hc => hgap c (hwritten.first c hc),
    fun c hc => hgap c (hwritten.last c hc)⟩
  have htextOf := hwritten.textOf
  simpa only [Token.textOf, hfirst, hfinal, hwritten.isEmpty_source (hwritten.ne_nil hne), Bool.false_eq_true,
    if_false] using htextOf

/-- Tokens of a statement behind a relation are refused only if they hold no target, with or without a distance. Else
    the position waits, without a warning, for the target as it is written in the statement, from its first token to
    its last and with no space or tab around; its coordinate is the offset at the distance that counts. -/
theorem ofTokens_relation {r : Relation} {before phrase after : List Token}
    (h : s.tokens = .ok (before ++ (phrase ++ (target ++ after)))) (hphrase : Token.IsPhrase r.phrase phrase)
    (htarget : ∀ t ∈ target, t.kind ≠ .endOfStatement) (hlast : ∀ t ∈ last, t.kind = .endOfStatement) :
    let read := ofTokens s.text (phrase ++ (target ++ last.toList))
    ∃ target' distance, (∀ parts d, Parts target parts d ↔ parts = target' ∧ d = distance) ∧
      ((∃ e, read = .error e) ↔ target' = []) ∧ (∀ e, read = .error e → e.cause.code = "E107") ∧
      ∀ first final, target'.head? = some first → target'.getLast? = some final →
        ∃ written n, r.Reaches distance n ∧
          Text.slice s.text first.span.start.offset.toNat final.span.stop.offset.toNat = String.ofList written ∧
          written ≠ [] ∧ (∀ c ∈ written.head?, c ≠ ' ' ∧ c ≠ '\t') ∧ (∀ c ∈ written.getLast?, c ≠ ' ' ∧ c ≠ '\t') ∧
          read = .ok {
            position := {
              x := (r.away n).1, y := (r.away n).2.1, z := (r.away n).2.2
              relative := some r, relativeTo := some (String.ofList written), distance } } := by
  have hlead : Token.IsPhrase (Lead.relation r).phrase phrase := hphrase
  obtain ⟨span, hread⟩ := ofTokens_lead s.text hlead htarget hlast
  obtain ⟨target', distance, hsplit⟩ : ∃ target' distance, splitDistance target = (target', distance) := ⟨_, _, rfl⟩
  have hparts : Parts target target' distance := parts_iff.mpr hsplit
  have hafter : after ≠ [] := by
    rw [← List.append_assoc phrase] at h
    refine Statement.ne_nil_of_tokens h (fun hnil => ?_) fun t ht => ?_
    · exact Lead.ne_nil_of_isPhrase hlead (List.append_eq_nil_iff.mp hnil).1
    · rcases List.mem_append.mp ht with ht | ht
      · exact hphrase.kind_ne t ht
      · exact htarget t ht
  intro read
  have hread : read = ofLead s.text (.relation r) span target := hread
  refine ⟨target', distance, fun parts d => ?_, ?_, fun e he => ?_, fun first final hfirst hfinal => ?_⟩
  · rw [parts_iff, hsplit, Prod.mk.injEq, eq_comm, @eq_comm _ distance]
  · rw [hread, ofLead_error_iff, hparts.eq_nil_iff]
    simp
  · exact (cause_of_ofLead (hread.symm.trans he)).1
  · obtain ⟨written, htext, hslice, hne, hbegin, hend⟩ := exists_written h hafter hparts hfirst hfinal
    obtain ⟨n, hn⟩ := r.exists_reaches distance
    have hempty : ¬target'.isEmpty = true := by
      rw [List.isEmpty_iff]
      rintro rfl
      cases hfirst
    refine ⟨written, n, hn, hslice, hne, hbegin, hend, ?_⟩
    simp only [hread, ofLead, hsplit, if_neg hempty, htext, pending, Relation.standIn_of_reaches hn]

/-- A target of two words near which something stands at a distance. -/
theorem ofTokens_relation_near :
    let s : Statement := { line := 1, text := "DRAW DOG NEAR BIG TREE WITH DISTANCE 5" }
    let target := [s.cut 14 (.word "BIG") "BIG".toList, s.cut 18 (.word "TREE") "TREE".toList]
    let suffix := [s.cut 23 (.word "WITH") "WITH".toList, s.cut 28 (.word "DISTANCE") "DISTANCE".toList,
      s.cut 37 (.number 5) "5".toList]
    ofTokens s.text ([s.cut 9 (.word "NEAR") "NEAR".toList] ++ (target ++ suffix ++ (none : Option Token).toList)) =
      .ok { position := { x := 5, y := 5, z := 0, relative := some .near, relativeTo := some "BIG TREE",
                          distance := some 5 } } := by
  have htokens : let s : Statement := { line := 1, text := "DRAW DOG NEAR BIG TREE WITH DISTANCE 5" }
      s.tokens = .ok (s.scan.1.take 2 ++ ([s.cut 9 (.word "NEAR") "NEAR".toList] ++
        ([s.cut 14 (.word "BIG") "BIG".toList, s.cut 18 (.word "TREE") "TREE".toList] ++
          [s.cut 23 (.word "WITH") "WITH".toList, s.cut 28 (.word "DISTANCE") "DISTANCE".toList,
            s.cut 37 (.number 5) "5".toList] ++ [.endAt (s.location 38)]))) := by
    with_unfolding_all rfl
  intro s target suffix
  have hphrase : Token.IsPhrase Relation.near.phrase [s.cut 9 (.word "NEAR") "NEAR".toList] := rfl
  have hkind : ∀ t ∈ target ++ suffix, t.kind ≠ .endOfStatement := by
    simp [target, suffix, Statement.cut, Token.kind, Token.Form.kind]
  obtain ⟨target', distance, hparts, -, -, hread⟩ := @ofTokens_relation (target ++ suffix) none s .near
    (s.scan.1.take 2) [s.cut 9 (.word "NEAR") "NEAR".toList] [.endAt (s.location 38)] htokens hphrase hkind (by simp)
  obtain ⟨rfl, rfl⟩ := (hparts target (some 5)).mp (.stated rfl)
  obtain ⟨written, n, hreaches, hslice, -, -, -, hread⟩ := hread _ _ rfl rfl
  have hwritten : "BIG TREE" = String.ofList written := by
    rw [← hslice]
    decide +kernel
  have hn : n = 5 := by
    cases hreaches with
    | stated => rfl
    | usual hzero => exact absurd (hzero 5 rfl) (by decide)
  rw [hread, ← hwritten, hn]
  rfl

end Position
end SceneScript
