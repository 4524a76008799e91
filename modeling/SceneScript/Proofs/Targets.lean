import SceneScript.Proofs.Accounting
import SceneScript.Proofs.Lookup
import SceneScript.Proofs.Recasing

/-!
Texts that always find their target. Every entity of a scene is entered under the statement that draws its keyword, and
a keyword is a word in upper case without blanks. So the keyword is found in any case, and so is an animal by its kind,
since the name with underscores is its keyword.
-/

namespace SceneScript

/-! ### Words -/

namespace Token
open Text

theorem not_isBlank_of_isDigit {c : Char} (h : isDigit c = true) : isBlank c = false :=
  not_isBlank_of_isWordChar (isWordChar_of_isDigit h)

theorem Numeral.Formed.isBlank_chars {n : Numeral} (h : n.Formed) : ∀ c ∈ n.chars, isBlank c = false := by
  cases n with
  | integer => exact fun _ hc => nomatch hc
  | decimal fraction =>
    intro c hc
    rcases List.mem_cons.mp hc with rfl | hc
    · decide
    · exact not_isBlank_of_isDigit (h.2 c hc)
  | crossed cross height =>
    obtain ⟨hcross, hheight⟩ := h
    intro c hc
    rcases List.mem_cons.mp hc with rfl | hc
    · rcases hcross with rfl | rfl <;> decide
    · exact not_isBlank_of_isDigit (hheight.2 c hc)

/-- There are no blanks in a word. -/
theorem Lexeme.isBlank_of_word {form : Form} {lexeme rest : List Char} (h : Lexeme form lexeme rest)
    (hword : form.kind = .word) : ∀ c ∈ lexeme, isBlank c = false := by
  cases h with
  | word hstart hmore =>
    intro d hd
    rcases List.mem_cons.mp hd with rfl | hd
    · exact not_isBlank_of_isWordChar (isWordChar_of_isWordStart hstart)
    · exact not_isBlank_of_isWordChar (hmore d hd)
  | ledByDigit hwhole hstops _ hmore =>
    intro d hd
    rcases List.mem_append.mp hd with hd | hd
    · rcases List.mem_append.mp hd with hd | hd
      · exact not_isBlank_of_isDigit (hwhole.2 d hd)
      · exact hstops.formed.isBlank_chars d hd
    · exact not_isBlank_of_isWordChar (hmore d hd)
  | @numeral _ _ _ n => cases n <;> cases hword
  | mark =>
    unfold punctuation at hword
    repeat' split at hword
    all_goals cases hword
  | _ => cases hword

theorem Readable.wordText_eq {t : Token} (h : t.Readable) (ht : t.kind = .word) : t.wordText = upper t.lexeme :=
  wordText_of_form (h.form_of_word ht)

theorem Readable.isBlank_lexeme {t : Token} (h : t.Readable) (ht : t.kind = .word) :
    ∀ c ∈ t.lexeme.toList, isBlank c = false := by
  obtain ⟨c, cs, rest, hlexeme, -, hreads⟩ := h
  rw [hlexeme, String.toList_ofList]
  exact hreads.isBlank_of_word ht

end Token

/-! ### Keywords of drawings -/

theorem Vocabulary.keyword_typeOf (v : Vocabulary) (keyword : String) (loaded : List String) (strict : Bool) :
    (v.typeOf keyword loaded strict).keyword = Text.upper keyword := by
  unfold typeOf
  simp only
  split
  · rfl
  · split <;> rfl

/-- The text is its own upper case and has no blanks. -/
structure IsName (name : String) : Prop where
  upper_eq : Text.upper name = name
  isBlank : ∀ c ∈ name.toList, Text.isBlank c = false

theorem IsName.of_any {name : String} (hupper : Text.upper name = name) (hblank : name.toList.any Text.isBlank = false) :
    IsName name :=
  ⟨hupper, fun c hc => (Bool.not_eq_true _).mp (List.any_eq_false.mp hblank c hc)⟩

theorem Token.Readable.isName {t : Token} (h : t.Readable) (ht : t.kind = .word) : IsName t.wordText := by
  rw [h.wordText_eq ht]
  exact ⟨Text.upper_upper t.lexeme, Text.isBlank_of_mem_upper (h.isBlank_lexeme ht)⟩

theorem IsName.animal {name : String} (h : IsName name) : IsName ("ANIMAL_" ++ name) := by
  have hlead : IsName "ANIMAL_" := .of_any (by decide) (by decide)
  refine ⟨by rw [Text.upper_append, hlead.upper_eq, h.upper_eq], fun c hc => ?_⟩
  rw [String.toList_append] at hc
  exact (List.mem_append.mp hc).elim (hlead.isBlank c) (h.isBlank c)

namespace Command

variable {source keyword : String} {c : Cursor} {tokens clauses : List Token} {placed : Position.Placed}

theorem entityKeyword_of_readDraw (h : readDraw source c = .ok (.draw keyword clauses placed)) :
    ∃ rest, entityKeyword source c = .ok (keyword, rest) := by
  obtain ⟨⟨word, rest⟩, hentity, h⟩ := bind_eq_ok.mp h
  refine ⟨rest, ?_⟩
  simp only at h
  split at h
  · cases pure_eq_ok.mp h
    exact hentity
  · obtain ⟨_, -, h⟩ := bind_eq_ok.mp h
    cases pure_eq_ok.mp h
    exact hentity

theorem isName_of_entityKeyword {rest : List Token} (hc : c.Before tokens) (hreadable : ∀ t ∈ tokens, t.Readable)
    (h : entityKeyword source c = .ok (keyword, rest)) : IsName keyword := by
  obtain ⟨first, hfirst, h⟩ := bind_eq_ok.mp h
  obtain ⟨more, rfl, hword⟩ := exists_of_expectWord hc hfirst
  have hname := (hreadable first List.mem_cons_self).isName hword
  split at h
  · cases pure_eq_ok.mp h
    exact .of_any (by decide) (by decide)
  · simp only at h
    split at h
    · rename_i kind behind hrest
      rw [hc.advance.rest_eq] at hrest
      split at h
      · rename_i hanimal
        cases pure_eq_ok.mp h
        simp only [Bool.and_eq_true, decide_eq_true_eq] at hanimal
        exact ((hreadable kind (by simp [hrest])).isName hanimal.1.2).animal
      · cases pure_eq_ok.mp h
        exact hname
    · cases pure_eq_ok.mp h
      exact hname

end Command

namespace Statement

variable {s : Statement} {keyword : String} {clauses : List Token} {placed : Position.Placed}

theorem isName_of_read (h : s.read.outcome = .ok (.draw keyword clauses placed)) : IsName keyword := by
  obtain ⟨cursor, tokens, hsaid, hcursor, -, hread⟩ := exists_says_of_read h
  obtain ⟨rest, hentity⟩ := Command.entityKeyword_of_readDraw hread
  exact Command.isName_of_entityKeyword hcursor hsaid.readable hentity

/-- An animal is drawn under its kind. -/
theorem Says.keyword_animal {kind : Token} {behind : List Token} (hsaid : s.Says ["DRAW", "ANIMAL"] (kind :: behind))
    (hkind : kind.kind = .word) (hplain : ¬Command.OpensClause (kind :: behind))
    (h : s.read.outcome = .ok (.draw keyword clauses placed)) : keyword = "ANIMAL_" ++ Text.upper kind.lexeme := by
  obtain ⟨opener, animal, last, hopener, hanimal, htokens⟩ := hsaid.exists_drawing
  have hopens : ¬Command.OpensClause (animal :: kind :: behind) := by
    rintro (⟨t, ht, hform⟩ | hbegins)
    · cases ht
      rw [hanimal, Token.Form.word.injEq, Token.Form.word.injEq] at hform
      revert hform
      decide
    · rw [Lead.begins_iff, Lead.of?_of_avoids hanimal (by decide)] at hbegins
      cases hbegins
  rw [Context.read_of_draw htokens hopener] at h
  obtain ⟨rest, hentity⟩ := Command.entityKeyword_of_readDraw (mapError_eq_ok.mp h)
  have hnames : Command.Names [animal, kind] behind := .animal hopens hanimal hkind hplain
  have hfirst : ∀ t ∈ ([animal, kind] ++ behind).head?, t.kind = .word := by
    intro t ht
    cases ht
    exact Token.kind_of_form_word hanimal
  have hread : Command.entityKeyword s.text (Command.afterDraw opener (animal :: kind :: behind) last) =
      .ok (Command.nameOf [animal, kind], behind) := Command.entityKeyword_of_names hnames hfirst (List.cons_ne_nil _ _)
  have hkeyword : Command.nameOf [animal, kind] = keyword :=
    congrArg Prod.fst (Except.ok.inj (hread.symm.trans hentity))
  rw [← hkeyword, Command.nameOf, (hsaid.readable kind List.mem_cons_self).wordText_eq hkind]

end Statement

/-! ### Scenes -/

namespace Context
open Blur

variable {c c' : Context} {s : Statement} {e : Entity}

/-- Every entity is entered under the statement that draws its keyword. -/
def Keyed (c : Context) : Prop :=
  ∀ e ∈ c.scene.entities, ∃ s clauses placed, Assoc.get? c.sources e.id = some s ∧
    s.read.outcome = .ok (.draw e.keyword clauses placed)

theorem exists_drawing_of_adds (h : c.step s = .ok c') (hadds : c.Adds s c' e) :
    ∃ clauses placed, s.read.outcome = .ok (.draw e.keyword clauses placed) := by
  have hplaced := hadds.placement
  unfold Statement.placement? at hplaced
  split at hplaced
  · rename_i keyword clauses placed hread
    obtain ⟨⟨d, o⟩, hd, rfl⟩ := step_eq_ok.mp h
    rcases attempt_cases hd with ⟨command, hcommand, hcarried, rfl⟩ | ⟨r, hr, -, -⟩
    · obtain rfl : command = .draw keyword clauses placed := Except.ok.inj (hcommand.symm.trans hread)
      obtain ⟨_, _, -, -, -, rfl⟩ := draw_eq_ok hcarried
      have hadded := List.append_cancel_left hadds.entities
      have hkeyword : e.keyword = Text.upper keyword := by
        rw [← List.singleton_inj.mp hadded]
        exact Vocabulary.keyword_typeOf ..
      refine ⟨clauses, placed, ?_⟩
      rw [hkeyword, (Statement.isName_of_read hread).upper_eq, hread]
    · cases hr.symm.trans hread
  · cases hplaced

theorem Keyed.step {statements : List Statement} (hc : c.Keyed) (hbooked : c.Booked statements)
    (h : c.step s = .ok c') : c'.Keyed := by
  obtain ⟨-, hextends⟩ := hbooked.step h
  have hold : ∀ e ∈ c.scene.entities, ∃ s clauses placed, Assoc.get? c'.sources e.id = some s ∧
      s.read.outcome = .ok (.draw e.keyword clauses placed) := by
    intro e he
    obtain ⟨s, clauses, placed, hsource, hread⟩ := hc e he
    exact ⟨s, clauses, placed, Assoc.get?_of_prefix hextends.sources hsource, hread⟩
  intro e he
  rcases step_books h with ⟨e', hadds⟩ | ⟨-, hkeeps⟩
  · rw [hadds.entities] at he
    rcases List.mem_append.mp he with he | he
    · exact hold e he
    · rw [List.mem_singleton.mp he]
      obtain ⟨clauses, placed, hread⟩ := exists_drawing_of_adds h hadds
      refine ⟨s, clauses, placed, ?_, hread⟩
      rw [hadds.sources, Assoc.get?_set_self]
  · have hnames : (c'.scene.entities.map fun e => (e.id, e.keyword)) =
        c.scene.entities.map fun e => (e.id, e.keyword) := hkeeps.map_eq fun _ => rfl
    have hmem : (e.id, e.keyword) ∈ c.scene.entities.map fun e => (e.id, e.keyword) := by
      rw [← hnames]
      exact List.mem_map_of_mem he
    obtain ⟨e', he', heq⟩ := List.mem_map.mp hmem
    obtain ⟨hid, hkeyword⟩ := Prod.mk.inj heq
    rw [← hid, ← hkeyword]
    exact hold e' he'

theorem Reachable.keyed {vocabulary : Vocabulary} {strict : Bool} (hc : Reachable vocabulary strict c) : c.Keyed := by
  induction hc with
  | start => exact fun _ he => nomatch he
  | step hc hstep ih =>
    obtain ⟨statements, hbooked⟩ := hc.exists_booked
    exact ih.step hbooked hstep

/-! ### What calls an entity -/

/-- The text calls the entity by what it was drawn with, in any case of the ASCII letters: by its keyword, or by
    `ANIMAL` and the kind behind blanks if it was drawn as an animal of that kind. -/
inductive Calls (c : Context) (e : Entity) (target : String) : Prop
  | keyword : e.keyword ≠ "" → caseless.text target = caseless.text e.keyword → Calls c e target
  | animal {s : Statement} {kind : Token} {behind : List Token} {blanks : List Char} :
      Assoc.get? c.sources e.id = some s → s.Says ["DRAW", "ANIMAL"] (kind :: behind) → kind.kind = .word →
      ¬Command.OpensClause (kind :: behind) → blanks ≠ [] → (∀ b ∈ blanks, Text.isBlank b = true) →
      caseless.text target = caseless.text ("ANIMAL" ++ String.ofList blanks ++ kind.lexeme) → Calls c e target

theorem isSome_meant? {entities : List Entity} (he : e ∈ entities) (hkeyword : e.keyword ≠ "") :
    (NameTable.meant? entities (Text.upper e.keyword)).isSome = true := by
  have hkind : (entities.findIdx? fun e' => (e'.keyword ≠ "" ∧ Text.upper e'.keyword = Text.upper e.keyword) ∨
      Text.upper e'.subtype = Text.upper e.keyword).isSome = true := by
    rw [List.findIdx?_isSome]
    exact List.any_eq_true.mpr ⟨e, he, by simp [hkeyword]⟩
  rw [NameTable.meant?, Option.isSome_or, Option.isSome_or, hkind, Bool.or_true, Bool.or_true]

/-- The upper case of a trimmed text does not depend on the case of its ASCII letters. -/
theorem upper_trim_of_caseless {target text : String} (h : caseless.text target = caseless.text text) :
    Text.upper (Text.trim target) = Text.upper (Text.trim text) := by
  rw [← caseless.upper_text, ← caseless.trim_text, h, caseless.trim_text, caseless.upper_text]

theorem Calls.isSome_find? {vocabulary : Vocabulary} {strict : Bool} {target : String}
    (hc : Reachable vocabulary strict c) (he : e ∈ c.scene.entities) (h : c.Calls e target) :
    ((NameTable.ofEntities c.scene.entities).find? target).isSome = true := by
  obtain ⟨drawn, clauses, placed, hdrawn, hread⟩ := hc.keyed e he
  have hname := Statement.isName_of_read hread
  rw [NameTable.find?_eq, NameTable.get?_eq_meant?, NameTable.get?_eq_meant?, Option.isSome_or, Bool.or_eq_true]
  cases h with
  | keyword hkeyword htarget =>
    left
    rw [upper_trim_of_caseless htarget, Text.trim_eq_self hname.isBlank]
    exact isSome_meant? he hkeyword
  | @animal s kind behind blanks hsource hsaid hkind hplain hne hblanks htarget =>
    right
    obtain rfl : s = drawn := Option.some.inj (hsource.symm.trans hdrawn)
    have hkeyword := hsaid.keyword_animal hkind hplain hread
    have hreadable := hsaid.readable kind List.mem_cons_self
    have hlexeme := hreadable.isBlank_lexeme hkind
    obtain ⟨first, more, _, hchars, -, -⟩ := hreadable
    have hanimal : IsName "ANIMAL" := .of_any (by decide) (by decide)
    have hblankText : ∀ b ∈ (String.ofList blanks).toList, Text.isBlank b = true := by rwa [String.toList_ofList]
    have htrim : Text.trim ("ANIMAL" ++ String.ofList blanks ++ kind.lexeme) =
        "ANIMAL" ++ String.ofList blanks ++ kind.lexeme := by
      refine Text.trim_of_ends (fun c hc => ?_) fun c hc => hlexeme c ?_
      · rw [String.toList_append, String.toList_append, List.append_assoc] at hc
        cases hc
        decide
      · have hlast : kind.lexeme.toList ≠ [] := by simp [hchars]
        rw [String.toList_append, List.getLast?_append_of_ne_nil _ hlast] at hc
        exact List.mem_of_getLast? hc
    have hjoined : String.ofList (Text.underscored (Text.upper (Text.trim target)).toList) = Text.upper e.keyword := by
      rw [upper_trim_of_caseless htarget, htrim, Text.upper_append, Text.upper_append, hanimal.upper_eq,
        Text.upper_of_blanks hblankText,
        Text.underscored_words hanimal.isBlank hne hblanks (Text.isBlank_of_mem_upper hlexeme), hname.upper_eq, hkeyword]
      rfl
    rw [hjoined]
    refine isSome_meant? he fun hempty => ?_
    rw [hempty, ← String.toList_inj, String.toList_append] at hkeyword
    cases hkeyword

/-- No statement warns of a target. -/
theorem Reachable.early {vocabulary : Vocabulary} {strict : Bool} (hc : Reachable vocabulary strict c) :
    ∀ d ∈ c.diagnostics, d.code ≠ "W101" := by
  induction hc with
  | start => exact fun _ hd => nomatch hd
  | step _ hstep ih =>
    obtain ⟨p, hp, rfl⟩ := step_eq_ok.mp hstep
    obtain ⟨ds, hds, hbalances⟩ := balances_of_attempt hp
    intro d hd
    rw [hds] at hd
    exact (List.mem_append.mp hd).elim (ih d) (hbalances.early d)

/-- What target texts mean, in closed form: a name in the table means the first entity of that id, else of that alias,
    else of that keyword or subtype, and a text means its name in upper case or else that name with underscores for
    blanks. So the text of what any entity was drawn with is found, and no warning is about such a text. -/
theorem targets_found {vocabulary : Vocabulary} {strict : Bool} (hc : Reachable vocabulary strict c) :
    (∀ (entities : List Entity) (name : String),
        Assoc.get? (NameTable.ofEntities entities) name = NameTable.meant? entities name) ∧
      (∀ (table : NameTable) (target : String),
        table.find? target = (Assoc.get? table (Text.upper (Text.trim target))).or
          (Assoc.get? table (String.ofList (Text.underscored (Text.upper (Text.trim target)).toList)))) ∧
      (∀ e ∈ c.scene.entities, ∀ target, c.Calls e target →
        ((NameTable.ofEntities c.scene.entities).find? target).isSome = true) ∧
      ∀ c' n, c.resolve = .ok (c', n) → ∃ lost : List Entity, lost.Sublist c.scene.entities ∧
        c'.diagnostics.filter (·.code == "W101") = lost.map (Resolution.unresolved c.sources) ∧
        ∀ e ∈ lost, ∀ drawn ∈ c.scene.entities, ¬c.Calls drawn (e.position.relativeTo.getD "") := by
  have hfound : ∀ e ∈ c.scene.entities, ∀ target, c.Calls e target →
      ((NameTable.ofEntities c.scene.entities).find? target).isSome = true :=
    fun e he target hcalls => hcalls.isSome_find? hc he
  refine ⟨NameTable.get?_eq_meant?, NameTable.find?_eq, hfound, fun c' n hresolve => ?_⟩
  have hearly : c.diagnostics.filter (·.code == "W101") = [] :=
    List.filter_eq_nil_iff.mpr fun d hd => by simpa using hc.early d hd
  rcases hc.sound.resolve_cases with ⟨-, heq⟩ | ⟨-, settled, heq, hsettled⟩
  · cases hresolve.symm.trans heq
    exact ⟨[], List.nil_sublist _, hearly, fun _ he => nomatch he⟩
  · cases hresolve.symm.trans heq
    have hlate : settled.warnings.filter (·.code == "W101") = settled.warnings :=
      List.filter_eq_self.mpr fun w hw => by simp [(hsettled.isWarning w hw).code]
    refine ⟨c.scene.entities.filter (Resolution.isLost (.ofEntities c.scene.entities)), List.filter_sublist, ?_, ?_⟩
    · rw [settleBy, List.filter_append, hearly, hlate, hsettled.warnings, List.take_length]
      rfl
    · intro e he drawn hdrawn hcalls
      obtain ⟨-, hlost⟩ := List.mem_filter.mp he
      simp only [Resolution.isLost, Resolution.targetOf?, Bool.and_eq_true, Option.isNone_iff_eq_none] at hlost
      have hsome := hfound drawn hdrawn _ hcalls
      rw [hlost.2] at hsome
      cases hsome

/-- An animal is found by its kind behind a tab, in another case. -/
theorem targets_found_animal :
    ∃ c e, Context.run { vocabulary := .bundled } (Statement.ofSource "DRAW MAN\nDRAW ANIMAL dog" none) = .ok c ∧
      e ∈ c.scene.entities ∧ e.keyword = "ANIMAL_DOG" ∧ c.Calls e "Animal\tDog" ∧
      ((NameTable.ofEntities c.scene.entities).find? "Animal\tDog").isSome = true := by
  have htokens : let s : Statement := { line := 2, text := "DRAW ANIMAL dog" }
      s.tokens = .ok (s.cut 0 (.word "DRAW") "DRAW".toList :: (s.cut 5 (.word "ANIMAL") "ANIMAL".toList ::
        ([s.cut 12 (.word "DOG") "dog".toList] ++ [.endAt (s.location 15)]))) := by
    with_unfolding_all rfl
  let s : Statement := { line := 2, text := "DRAW ANIMAL dog" }
  have hsaid : s.Says ["DRAW", "ANIMAL"] [s.cut 12 (.word "DOG") "dog".toList] := ⟨[_, _], _, htokens, rfl⟩
  have hscene : (Context.run { vocabulary := .bundled }
      (Statement.ofSource "DRAW MAN\nDRAW ANIMAL dog" none)).toOption.map
        (fun c => (c.scene.entities.map fun e => (e.id, e.keyword), Assoc.get? c.sources "entity_2")) =
      some ([("entity_1", "MAN"), ("entity_2", "ANIMAL_DOG")], some s) := by
    decide +kernel
  obtain ⟨c, hc, hscene⟩ := toOption_map_eq_some.mp hscene
  obtain ⟨hentities, hsource⟩ := Prod.mk.inj hscene
  have hmem : ("entity_2", "ANIMAL_DOG") ∈ c.scene.entities.map fun e => (e.id, e.keyword) := by simp [hentities]
  obtain ⟨e, he, heq⟩ := List.mem_map.mp hmem
  obtain ⟨hid, hkeyword⟩ := Prod.mk.inj heq
  have hcalls : c.Calls e "Animal\tDog" := by
    have htab : ['\t'].all Text.isBlank = true := by decide
    refine .animal (hid ▸ hsource) hsaid rfl ?_ (List.cons_ne_nil '\t' []) (List.all_eq_true.mp htab) ?_
    · rw [← Command.startsClause_iff]
      decide +kernel
    · rw [← String.toList_inj, toList_text, toList_text]
      decide
  obtain ⟨-, -, hfound, -⟩ := targets_found (Reachable.start.run hc)
  exact ⟨c, e, hc, he, hkeyword, hcalls, hfound e he _ hcalls⟩

end Context
end SceneScript
