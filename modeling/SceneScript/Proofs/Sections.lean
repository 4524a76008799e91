import SceneScript.Proofs.PositionGrammar
import SceneScript.Proofs.Totality

/-!
The sections of a drawing. What stands behind `DRAW` is a keyword, an attribute section and a position clause, each
of which may be missing, and in just one way: the attribute section ends where the first lead outside parentheses
begins. A drawing is refused if no word begins it or its position clause is a lead without a target, and only then.
-/

namespace SceneScript

namespace Command

variable {source : String} {tokens keyword behind : List Token} {draw last : Token}

/-! ### The cut -/

/-- An attribute section or a position clause begins the tokens. -/
def OpensClause (tokens : List Token) : Prop :=
  (∃ t ∈ tokens.head?, t.form = .word "WITH" ∨ t.form = .word "WITHOUT") ∨ Lead.Begins tokens

theorem startsClause_iff : startsClause tokens = true ↔ OpensClause tokens := by
  rw [startsClause, Bool.or_eq_true, ← Lead.begins_iff, OpensClause]
  refine or_congr_left ?_
  cases tokens with
  | nil => simp
  | cons t rest => simp [Token.isWord_iff]

/-- The keyword in front of other tokens. It is missing where a section begins at once; `ANIMAL` takes the word behind
    it along, unless a section begins there. -/
inductive Names : List Token → List Token → Prop
  | nothing {behind : List Token} : OpensClause behind → Names [] behind
  | animal {first kind : Token} {behind : List Token} : ¬OpensClause (first :: kind :: behind) →
      first.form = .word "ANIMAL" → kind.kind = .word → ¬OpensClause (kind :: behind) → Names [first, kind] behind
  | word {first : Token} {behind : List Token} : ¬OpensClause (first :: behind) →
      (∀ kind more, first.form = .word "ANIMAL" → behind = kind :: more → kind.kind = .word → OpensClause behind) →
      Names [first] behind

/-- The keyword as a word of its own. -/
def nameOf : List Token → String
  | [] => ""
  | [first] => first.wordText
  | _ :: kind :: _ => "ANIMAL_" ++ kind.wordText

/-- The sections of a drawing. -/
structure Sections where
  keyword : List Token
  attributes : List Token
  position : List Token

/-- The tokens behind `DRAW` are these sections. -/
structure Sections.Of (p : Sections) (tokens : List Token) : Prop where
  tokens_eq : tokens = p.keyword ++ (p.attributes ++ p.position)
  keyword : Names p.keyword (p.attributes ++ p.position)
  attributes : Token.LeadFree 0 p.attributes
  position : p.position = [] ∨ Token.depthAfterAll 0 p.attributes = 0 ∧ Lead.Begins p.position

/-! ### Reading by sections -/

theorem expectWord_of_word {t : Token} {more : List Token} (ht : t.kind = .word) :
    expectWord .drawWithoutEntity source (afterDraw draw (t :: more) last) = .ok t := if_pos ht

theorem entityKeyword_of_names (h : Names keyword behind) (hfirst : ∀ t ∈ (keyword ++ behind).head?, t.kind = .word)
    (hne : keyword ++ behind ≠ []) :
    entityKeyword source (afterDraw draw (keyword ++ behind) last) = .ok (nameOf keyword, behind) := by
  obtain ⟨t, more, htokens⟩ := List.exists_cons_of_ne_nil hne
  have hkind : t.kind = .word := hfirst t (by rw [htokens]; rfl)
  have hrest : (afterDraw draw (t :: more) last).rest = t :: more := rfl
  have hadvance : (afterDraw draw (t :: more) last).advance.rest = more := rfl
  rw [htokens]
  simp only [entityKeyword, expectWord_of_word hkind, bind, Except.bind, hrest, hadvance]
  cases h with
  | nothing hopens =>
    obtain rfl : behind = t :: more := htokens
    rw [if_pos (startsClause_iff.mpr hopens)]
    rfl
  | @animal first kind _ hopens hanimal hword hplain =>
    rw [List.cons_append, List.singleton_append] at htokens
    obtain ⟨rfl, rfl⟩ := List.cons.inj htokens
    have hname : first.wordText = "ANIMAL" := Token.wordText_of_form hanimal
    have hmore : startsClause (kind :: behind) = false := by rwa [← Bool.not_eq_true, startsClause_iff]
    rw [if_neg (by rwa [startsClause_iff])]
    simp [hname, hword, hmore, nameOf, pure, Except.pure]
  | @word first _ hopens hanimal =>
    rw [List.singleton_append] at htokens
    obtain ⟨rfl, rfl⟩ := List.cons.inj htokens
    rw [if_neg (by rwa [startsClause_iff])]
    cases behind with
    | nil => rfl
    | cons kind more =>
      have hplain : ¬(decide (first.wordText = "ANIMAL") && decide (kind.kind = .word) &&
          !startsClause (kind :: more)) = true := by
        simp only [Bool.and_eq_true, decide_eq_true_eq, Bool.not_eq_true', not_and, Bool.not_eq_false]
        rintro ⟨hname, hword⟩
        refine startsClause_iff.mpr (hanimal kind more ?_ rfl hword)
        rw [Token.form_of_kind_word hkind, hname]
      simp only [if_neg hplain]
      rfl

theorem exists_names (hne : tokens ≠ []) : ∃ keyword behind, tokens = keyword ++ behind ∧ Names keyword behind := by
  obtain ⟨first, more, rfl⟩ := List.exists_cons_of_ne_nil hne
  by_cases hopens : OpensClause (first :: more)
  · exact ⟨[], _, rfl, .nothing hopens⟩
  · by_cases hanimal : ∃ kind rest, first.form = .word "ANIMAL" ∧ more = kind :: rest ∧ kind.kind = .word ∧
        ¬OpensClause (kind :: rest)
    · obtain ⟨kind, rest, hform, rfl, hword, hplain⟩ := hanimal
      exact ⟨[first, kind], rest, rfl, .animal hopens hform hword hplain⟩
    · refine ⟨[first], more, rfl, .word hopens fun kind rest hform heq hword => ?_⟩
      subst heq
      by_contra hplain
      exact hanimal ⟨kind, rest, hform, rfl, hword, hplain⟩

namespace Sections.Of

variable {p q : Sections}

theorem findLead_eq (h : p.Of tokens) : Token.findLead (p.attributes ++ p.position) =
    if p.position = [] then none else some p.attributes.length := by
  rcases h.position with hnil | ⟨hdepth, hbegins⟩
  · rw [if_pos hnil, hnil, List.append_nil]
    exact Token.findLeadFrom_eq_none_iff.mpr h.attributes
  · rw [if_neg hbegins.ne_nil]
    exact Token.findLeadFrom_append h.attributes hdepth hbegins

/-- The attribute section is what stands before the lead that is found, or everything. -/
theorem attributes_eq (h : p.Of tokens) : p.attributes = (p.attributes ++ p.position).take
    ((Token.findLead (p.attributes ++ p.position)).getD (p.attributes ++ p.position).length) := by
  rw [h.findLead_eq]
  split
  · rename_i hnil
    rw [Option.getD_none, List.take_length, hnil, List.append_nil]
  · rw [Option.getD_some, List.take_left]

end Sections.Of

/-- Any tokens are cut into sections. -/
theorem exists_sections (hne : tokens ≠ []) : ∃ p : Sections, p.Of tokens := by
  obtain ⟨keyword, behind, rfl, hnames⟩ := exists_names hne
  cases hlead : Token.findLead behind with
  | none =>
    have hfree : Token.LeadFree 0 behind := Token.findLeadFrom_eq_none_iff.mp hlead
    exact ⟨⟨keyword, behind, []⟩, by rw [List.append_nil], by rwa [List.append_nil], hfree, Or.inl rfl⟩
  | some n =>
    obtain ⟨front, back, rfl, -, hfree, hdepth, hbegins⟩ := Token.findLeadFrom_eq_some hlead
    exact ⟨⟨keyword, front, back⟩, rfl, hnames, hfree, Or.inr ⟨hdepth, hbegins⟩⟩

theorem entityKeyword_of_sections {p : Sections} (hp : p.Of tokens) (hfirst : ∀ t ∈ tokens.head?, t.kind = .word)
    (hne : tokens ≠ []) : entityKeyword source (afterDraw draw tokens last) =
      .ok (nameOf p.keyword, p.attributes ++ p.position) := by
  rw [hp.tokens_eq] at hfirst hne ⊢
  exact entityKeyword_of_names hp.keyword hfirst hne

/-- The sections of tokens that a word begins are told by the tokens. -/
theorem Sections.Of.unique {p q : Sections} (hp : p.Of tokens) (hq : q.Of tokens)
    (hfirst : ∀ t ∈ tokens.head?, t.kind = .word) (hne : tokens ≠ []) : p = q := by
  -- The keyword is read in one way, and so is what is left behind it.
  have hread := (@entityKeyword_of_sections "" _ default default p hp hfirst hne).symm.trans
    (entityKeyword_of_sections hq hfirst hne)
  have hbehind : p.attributes ++ p.position = q.attributes ++ q.position := congrArg Prod.snd (Except.ok.inj hread)
  have hnames : p.keyword = q.keyword := by
    have htokens := hp.tokens_eq.symm.trans hq.tokens_eq
    rw [hbehind] at htokens
    exact List.append_cancel_right htokens
  have hattributes : p.attributes = q.attributes := by rw [hp.attributes_eq, hq.attributes_eq, hbehind]
  have hposition : p.position = q.position := by
    rw [hattributes] at hbehind
    exact List.append_cancel_left hbehind
  obtain ⟨⟩ := p
  obtain ⟨⟩ := q
  simp only at hnames hattributes hposition
  rw [hnames, hattributes, hposition]

/-- A drawing is read by its sections. -/
theorem readDraw_of_sections {p : Sections} (hp : p.Of tokens) (hfirst : ∀ t ∈ tokens.head?, t.kind = .word)
    (hne : tokens ≠ []) :
    readDraw source (afterDraw draw tokens last) =
      (Position.ofClause source p.position).map (.draw (nameOf p.keyword) (attributeTokens p.attributes)) := by
  have hlead := hp.findLead_eq
  rw [readDraw, entityKeyword_of_sections hp hfirst hne, Position.ofClause]
  by_cases hnil : p.position = []
  · rw [if_pos hnil] at hlead ⊢
    rw [hnil, List.append_nil] at hlead ⊢
    simp only [bind, Except.bind, hlead]
    rfl
  · rw [if_neg hnil] at hlead ⊢
    simp only [bind, Except.bind, hlead, List.drop_left, List.take_left]
    cases Position.ofTokens source p.position <;> rfl

/-- The position clause alone decides whether a drawing that a word begins is refused. -/
theorem readDraw_cases {p : Sections} (hp : p.Of tokens) (hfirst : ∀ t ∈ tokens.head?, t.kind = .word)
    (hne : tokens ≠ []) (hkind : ∀ t ∈ tokens, t.kind ≠ .endOfStatement) :
    (Position.LacksTarget p.position ∧ ∃ r, readDraw source (afterDraw draw tokens last) = .error r ∧
        r.cause.code = "E107" ∧ ∀ lexeme, r.cause ≠ .noPosition lexeme) ∨
      (¬Position.LacksTarget p.position ∧ ∃ placed, readDraw source (afterDraw draw tokens last) =
        .ok (.draw (nameOf p.keyword) (attributeTokens p.attributes) placed)) := by
  rw [readDraw_of_sections hp hfirst hne]
  rcases hp.position with hnil | ⟨-, hbegins⟩
  · rw [hnil]
    exact Or.inr ⟨fun hlacks => hlacks.ne_nil rfl, _, rfl⟩
  · have hwithin : ∀ t ∈ p.position, t.kind ≠ .endOfStatement := fun t ht => hkind t (by simp [hp.tokens_eq, ht])
    obtain ⟨hlacks, hcause⟩ := Position.ofTokens_error_iff source hbegins hwithin
    rw [Position.ofClause_of_begins source hbegins, ← hlacks]
    cases hread : Position.ofTokens source p.position with
    | error r => exact Or.inl ⟨⟨r, rfl⟩, r, rfl, hcause r hread⟩
    | ok placed =>
      refine Or.inr ⟨?_, placed, rfl⟩
      rintro ⟨r, hr⟩
      cases hr

/-- Without a word in front a drawing is refused for that. -/
theorem readDraw_of_not_word (hfirst : ∀ t ∈ tokens.head?, t.kind ≠ .word) (hlast : last.kind ≠ .word) :
    ∃ found span, readDraw source (afterDraw draw tokens last) =
      .error ⟨.drawWithoutEntity found, span, some source⟩ := by
  have hcurrent : (afterDraw draw tokens last).current.kind ≠ .word := by
    cases tokens with
    | nil => exact hlast
    | cons t rest => exact hfirst t rfl
  have hexpect : expectWord .drawWithoutEntity source (afterDraw draw tokens last) =
      .error ⟨.drawWithoutEntity (afterDraw draw tokens last).current.describe,
        (afterDraw draw tokens last).current.span, some source⟩ := if_neg hcurrent
  refine ⟨(afterDraw draw tokens last).current.describe, (afterDraw draw tokens last).current.span, ?_⟩
  rw [readDraw, entityKeyword, hexpect]
  rfl

end Command

/-! ### Carrying out a drawing -/

namespace Context

variable {c c' : Context} {s : Statement} {e : Entity} {opener last : Token} {tokens : List Token}

/-- The statement adds one entity to the scene, this one. -/
def Draws (c : Context) (s : Statement) (e : Entity) : Prop :=
  ∃ c', c.attempt s = .ok (c', none) ∧ c'.scene.entities = c.scene.entities ++ [e]

/-- The entity that a keyword draws next. -/
def entityOf (c : Context) (keyword : String) (attributes : Attributes) (position : Position) : Entity :=
  { id := c.nextId, category := (c.typeOf keyword).category, subtype := (c.typeOf keyword).subtype,
    keyword := (c.typeOf keyword).keyword, attributes, position }

section
variable (keyword : String) (attributes : Attributes) (position : Position)

-- By `rfl` the type of the keyword would be looked up.
theorem subtype_entityOf : (c.entityOf keyword attributes position).subtype = (c.typeOf keyword).subtype := by
  rw [entityOf]

theorem attributes_entityOf : (c.entityOf keyword attributes position).attributes = attributes := rfl

theorem position_entityOf : (c.entityOf keyword attributes position).position = position := rfl

theorem entityOf_moved (position' : Position) :
    { c.entityOf keyword attributes position with position := position' } = c.entityOf keyword attributes position' := by
  simp only [entityOf]

end

theorem not_draws_of_refuses {r : Refusal} (hr : c.Refuses s r) : ¬c.Draws s e := by
  obtain ⟨d, hd⟩ := hr
  rintro ⟨d', hd', -⟩
  cases hd.symm.trans hd'

theorem attempt_ne_error_of_refuses {r : Refusal} (hr : c.Refuses s r) (f : Fault) : c.attempt s ≠ .error f := by
  obtain ⟨d, hd⟩ := hr
  rw [hd]
  nofun

/-- A statement is refused for one reason. -/
theorem refuses_unique {r r' : Refusal} (hr : c.Refuses s r) (hr' : c.Refuses s r') : r' = r :=
  Option.some.inj ((refuses_iff.mp hr').symm.trans (refuses_iff.mp hr))

theorem Sound.exists_draw (hc : c.Sound) (s : Statement) (placed : Position.Placed) {keyword : String}
    {defaults stated : Attributes} {clauses : List Token}
    (hdefaults : c.vocabulary.attributesFor (c.typeOf keyword).subtype = .ok defaults)
    (hstated : Attributes.read s.text clauses = .ok stated) : ∃ c', c.draw s keyword clauses placed = .ok c' := by
  simp [Context.draw, hdefaults, hstated, bind, Except.bind, Scene.add, hc.unfrozen, pure, Except.pure]

/-! ### Statements that begin with `DRAW` -/

section
variable (h : s.tokens = .ok (opener :: (tokens ++ [last]))) (hdraw : opener.form = .word "DRAW")
include h hdraw

theorem read_of_draw : s.read = {
    opening := some .draw
    outcome := (Command.readDraw s.text (Command.afterDraw opener tokens last)).mapError .refused } := by
  obtain ⟨found, hfound, hscans⟩ := Statement.scans_of_tokens h
  rw [← List.cons_append] at hfound
  obtain ⟨rfl, hlast⟩ := List.append_inj' hfound rfl
  rw [hscans.read_eq hdraw, ← List.singleton_inj.mp hlast]

theorem refuses_draw_iff {r : Refusal} :
    c.Refuses s r ↔ Command.readDraw s.text (Command.afterDraw opener tokens last) = .error r := by
  rw [refuses_iff, Statement.refusal?_eq_some, read_of_draw h hdraw]
  cases Command.readDraw s.text (Command.afterDraw opener tokens last) with
  | error r' => simp [Except.mapError]
  | ok command => exact iff_of_false nofun nofun

theorem attempt_draw_eq {keyword : String} {clauses : List Token} {placed : Position.Placed}
    (hread : Command.readDraw s.text (Command.afterDraw opener tokens last) = .ok (.draw keyword clauses placed)) :
    c.attempt s = ((c.begin s s.read).draw s keyword clauses placed).map (·, none) := by
  have houtcome : s.read.outcome = .ok (.draw keyword clauses placed) := by
    rw [read_of_draw h hdraw, hread]
    rfl
  rw [attempt_eq, houtcome]
  rfl

theorem draws_iff (hc : c.Sound) {keyword : String} {clauses : List Token} {placed : Position.Placed}
    (hread : Command.readDraw s.text (Command.afterDraw opener tokens last) = .ok (.draw keyword clauses placed)) :
    c.Draws s e ↔ ∃ defaults stated, c.vocabulary.attributesFor (c.typeOf keyword).subtype = .ok defaults ∧
      Attributes.read s.text clauses = .ok stated ∧
      e = c.entityOf keyword (Assoc.merge defaults stated) placed.position := by
  unfold Draws
  rw [attempt_draw_eq h hdraw hread]
  constructor
  · rintro ⟨c', hc', hadded⟩
    obtain ⟨d, hd, heq⟩ := map_eq_ok.mp hc'
    cases heq
    obtain ⟨defaults, stated, hdefaults, hstated, -, rfl⟩ := draw_eq_ok hd
    refine ⟨defaults, stated, hdefaults, hstated, ?_⟩
    have hlast := List.append_cancel_left hadded
    exact (List.singleton_inj.mp hlast).symm
  · rintro ⟨defaults, stated, hdefaults, hstated, rfl⟩
    have hbegun : (c.begin s s.read).Sound := hc.of_eq rfl rfl
    obtain ⟨d, hd⟩ := hbegun.exists_draw s placed hdefaults hstated
    obtain ⟨defaults', stated', hdefaults', hstated', -, hdrawn⟩ := draw_eq_ok hd
    obtain rfl : defaults = defaults' := Except.ok.inj (hdefaults.symm.trans hdefaults')
    obtain rfl : stated = stated' := Except.ok.inj (hstated.symm.trans hstated')
    exact ⟨d, map_eq_ok.mpr ⟨d, hd, rfl⟩, by rw [hdrawn]; rfl⟩

variable {keyword : String} {clauses : List Token} {placed : Position.Placed} {defaults : Attributes}
  (hc : c.Sound) (hdefaults : c.vocabulary.attributesFor (c.typeOf keyword).subtype = .ok defaults)
  (hread : Command.readDraw s.text (Command.afterDraw opener tokens last) = .ok (.draw keyword clauses placed))
include hc hdefaults hread

/-- A drawing that is not refused adds an entity unless it states an infinite age. -/
theorem exists_draws_iff :
    (∃ e, c.Draws s e) ↔ ∀ clause ∈ Clause.ofTokens clauses, ¬Clause.InfiniteAge clause := by
  have hstated := @Attributes.read_error_iff s.text clauses
  simp only [draws_iff h hdraw hc hread]
  constructor
  · rintro ⟨-, -, stated, -, hok, -⟩ clause hclause hage
    obtain ⟨f, hf⟩ := hstated.mpr ⟨clause, hclause, hage⟩
    cases hok.symm.trans hf
  · intro hages
    cases hok : Attributes.read s.text clauses with
    | error f =>
      obtain ⟨clause, hclause, hage⟩ := hstated.mp ⟨f, hok⟩
      exact absurd hage (hages clause hclause)
    | ok stated => exact ⟨_, defaults, stated, hdefaults, rfl, rfl⟩

theorem attempt_draw_error_iff :
    (∃ f, c.attempt s = .error f) ↔ ∃ clause ∈ Clause.ofTokens clauses, Clause.InfiniteAge clause := by
  have hbegun : (c.begin s s.read).Sound := hc.of_eq rfl rfl
  have hdrawn : (∃ f, (c.begin s s.read).draw s keyword clauses placed = .error f) ↔ _ :=
    draw_error_iff hdefaults hbegun
  simp only [attempt_draw_eq h hdraw hread, map_eq_error, hdrawn]

end

/-- A drawing is refused exactly if no word stands behind `DRAW` or its position clause lacks a place or target. Else
    it adds exactly one entity, unless an age without a finite value in its attribute section stops the parse; and its
    sections are told by its tokens. -/
theorem draws_by_sections {vocabulary : Vocabulary} {strict : Bool} (hc : Reachable vocabulary strict c)
    (hdefaults : ∀ subtype, ∃ defaults, vocabulary.attributesFor subtype = .ok defaults)
    (h : s.tokens = .ok (opener :: (tokens ++ [last]))) (hdraw : opener.form = .word "DRAW") :
    ((∃ r, c.Refuses s r ∧ r.cause.code = "E102") ↔ ∀ t ∈ tokens.head?, t.kind ≠ .word) ∧
      (∀ r lexeme, c.Refuses s r → r.cause ≠ .noPosition lexeme) ∧
      ((∃ t ∈ tokens.head?, t.kind = .word) → ∃ p : Command.Sections, (∀ q : Command.Sections, q.Of tokens ↔ q = p) ∧
        ((∃ r, c.Refuses s r ∧ r.cause.code = "E107") ↔ Position.LacksTarget p.position) ∧
        ((∃ e, c.Draws s e) ↔ ¬Position.LacksTarget p.position ∧
          ∀ clause ∈ Clause.ofTokens (Command.attributeTokens p.attributes), ¬Clause.InfiniteAge clause) ∧
        ((∃ f, c.attempt s = .error f) ↔ ¬Position.LacksTarget p.position ∧
          ∃ clause ∈ Clause.ofTokens (Command.attributeTokens p.attributes), Clause.InfiniteAge clause)) := by
  obtain ⟨found, hfound, hscans⟩ := Statement.scans_of_tokens h
  rw [← List.cons_append] at hfound
  obtain ⟨rfl, hlast⟩ := List.append_inj' hfound rfl
  have hlast : last.kind ≠ .word := by
    rw [List.singleton_inj.mp hlast]
    nofun
  have hkind : ∀ t ∈ tokens, t.kind ≠ .endOfStatement := fun t ht => hscans.kind_ne t (List.mem_cons_of_mem _ ht)
  by_cases hword : ∃ t ∈ tokens.head?, t.kind = .word
  · have hne : tokens ≠ [] := by
      rintro rfl
      obtain ⟨t, ht, -⟩ := hword
      cases ht
    have hfirst : ∀ t ∈ tokens.head?, t.kind = .word := by
      intro t ht
      obtain ⟨u, hu, hkind⟩ := hword
      rwa [Option.some.inj (ht.symm.trans hu)]
    have hnot : ¬∀ t ∈ tokens.head?, t.kind ≠ .word := by
      obtain ⟨t, ht, hkind⟩ := hword
      exact fun hall => hall t ht hkind
    obtain ⟨p, hp⟩ := Command.exists_sections hne
    have hunique : ∀ q : Command.Sections, q.Of tokens ↔ q = p := by
      refine fun q => ⟨fun hq => hq.unique hp hfirst hne, ?_⟩
      rintro rfl
      exact hp
    rcases @Command.readDraw_cases s.text _ opener last _ hp hfirst hne hkind with
      ⟨hlacks, r, hread, hcode, hcause⟩ | ⟨htarget, placed, hread⟩
    · have hr : c.Refuses s r := (refuses_draw_iff h hdraw).mpr hread
      have hcodes : ¬∃ r', c.Refuses s r' ∧ r'.cause.code = "E102" := by
        rintro ⟨r', hr', hcode'⟩
        rw [refuses_unique hr hr', hcode] at hcode'
        revert hcode'
        decide
      have hplaced : ∀ r' lexeme, c.Refuses s r' → r'.cause ≠ .noPosition lexeme := by
        intro r' lexeme hr'
        rw [refuses_unique hr hr']
        exact hcause lexeme
      have hdraws : ¬∃ e, c.Draws s e := fun ⟨_, he⟩ => not_draws_of_refuses hr he
      have hhalts : ¬∃ f, c.attempt s = .error f := fun ⟨f, hf⟩ => attempt_ne_error_of_refuses hr f hf
      exact ⟨iff_of_false hcodes hnot, hplaced, fun _ => ⟨p, hunique, iff_of_true ⟨r, hr, hcode⟩ hlacks,
        iff_of_false hdraws fun hall => hall.1 hlacks, iff_of_false hhalts fun hall => hall.1 hlacks⟩⟩
    · have hnone : ∀ r, ¬c.Refuses s r := fun r hr => by
        cases hread.symm.trans ((refuses_draw_iff h hdraw).mp hr)
      obtain ⟨defaults, hwrapped⟩ := hdefaults (c.typeOf (Command.nameOf p.keyword)).subtype
      rw [← hc.vocabulary_eq] at hwrapped
      refine ⟨iff_of_false (fun ⟨r, hr, _⟩ => hnone r hr) hnot, fun r _ hr => absurd hr (hnone r), fun _ =>
        ⟨p, hunique, iff_of_false (fun ⟨r, hr, _⟩ => hnone r hr) htarget, ?_, ?_⟩⟩
      · rw [exists_draws_iff h hdraw hc.sound hwrapped hread, and_iff_right htarget]
      · rw [attempt_draw_error_iff h hdraw hc.sound hwrapped hread, and_iff_right htarget]
  · have hnot : ∀ t ∈ tokens.head?, t.kind ≠ .word := fun t ht hkind => hword ⟨t, ht, hkind⟩
    obtain ⟨found, span, hread⟩ := @Command.readDraw_of_not_word s.text _ opener last hnot hlast
    have hr := (refuses_draw_iff (c := c) h hdraw).mpr hread
    refine ⟨iff_of_true ⟨_, hr, rfl⟩ hnot, fun r lexeme hr' => ?_, fun h => absurd h hword⟩
    rw [refuses_unique hr hr']
    nofun

/-- An animal whose attributes hold a lead in parentheses, near something. -/
theorem draws_by_sections_animal :
    let s : Statement := { line := 1, text := "DRAW ANIMAL dog WITH HAIR(AT: 1) NEAR TREE" }
    let keyword := [s.cut 5 (.word "ANIMAL") "ANIMAL".toList, s.cut 12 (.word "DOG") "dog".toList]
    let attributes := [s.cut 16 (.word "WITH") "WITH".toList, s.cut 21 (.word "HAIR") "HAIR".toList,
      s.cut 25 .leftParen "(".toList, s.cut 26 (.word "AT") "AT".toList, s.cut 28 .colon ":".toList,
      s.cut 30 (.number 1) "1".toList, s.cut 31 .rightParen ")".toList]
    let position := [s.cut 33 (.word "NEAR") "NEAR".toList, s.cut 38 (.word "TREE") "TREE".toList]
    (∀ q : Command.Sections, q.Of (keyword ++ (attributes ++ position)) ↔ q = ⟨keyword, attributes, position⟩) ∧
      ∃ e, Context.Draws { vocabulary := .bundled } s e := by
  have htokens : let s : Statement := { line := 1, text := "DRAW ANIMAL dog WITH HAIR(AT: 1) NEAR TREE" }
      s.tokens = .ok (s.cut 0 (.word "DRAW") "DRAW".toList ::
        ([s.cut 5 (.word "ANIMAL") "ANIMAL".toList, s.cut 12 (.word "DOG") "dog".toList] ++
          ([s.cut 16 (.word "WITH") "WITH".toList, s.cut 21 (.word "HAIR") "HAIR".toList,
            s.cut 25 .leftParen "(".toList, s.cut 26 (.word "AT") "AT".toList,
            s.cut 28 .colon ":".toList, s.cut 30 (.number 1) "1".toList,
            s.cut 31 .rightParen ")".toList] ++
          [s.cut 33 (.word "NEAR") "NEAR".toList, s.cut 38 (.word "TREE") "TREE".toList]) ++
        [.endAt (s.location 42)])) := by
    with_unfolding_all rfl
  intro s keyword attributes position
  have hsections : Command.Sections.Of ⟨keyword, attributes, position⟩ (keyword ++ (attributes ++ position)) :=
    ⟨rfl, .animal (by rw [← Command.startsClause_iff]; decide +kernel) rfl rfl
      (by rw [← Command.startsClause_iff]; decide +kernel), Token.findLeadFrom_eq_none_iff.mp rfl,
      Or.inr ⟨rfl, Lead.begins_iff.mpr rfl⟩⟩
  obtain ⟨-, -, hcut⟩ := @draws_by_sections { vocabulary := .bundled } s (s.cut 0 (.word "DRAW") "DRAW".toList)
    (.endAt (s.location 42)) (keyword ++ (attributes ++ position)) .bundled false .start
    (Vocabulary.attributesFor_of_usable Vocabulary.usable_bundled) htokens rfl
  obtain ⟨p, hp, -, hdraws, -⟩ := hcut ⟨_, rfl, rfl⟩
  obtain rfl := (hp _).mp hsections
  have htarget : ¬Position.LacksTarget position := by
    have hnear : Token.IsPhrase (Lead.relation .near).phrase (position.take 1) := rfl
    rw [← List.take_append_drop 1 position, Position.lacksTarget_append hnear]
    rintro (hnil | ⟨r, n, -, hn⟩)
    · cases hnil
    · have hlength := congrArg List.length hn
      cases hlength
  have hages : ¬∃ clause ∈ Clause.ofTokens (Command.attributeTokens attributes), Clause.InfiniteAge clause := by
    rw [← Attributes.read_error_iff s.text]
    rintro ⟨f, hf⟩
    cases hf
  exact ⟨hp, hdraws.mpr ⟨htarget, fun clause hclause hage => hages ⟨clause, hclause, hage⟩⟩⟩

end Context
end SceneScript
