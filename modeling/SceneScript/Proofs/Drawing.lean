import SceneScript.Proofs.Isolation
import SceneScript.Proofs.Joining
import SceneScript.Proofs.Phrases

/-!
Sources of one drawing. The one line of such a source is read into a command, and the command is carried out on
the empty scene; a position that states no relation stays as it is read. So the scene holds one entity, with the
stated attributes on top of the defaults of its subtype.
-/

namespace SceneScript

open Token

/-! ### Reading a drawing -/

/-- A source of one plain line is its statement. -/
theorem Statement.ofSource_plain {source : String} (filename : Option String) (hne : source.toList ≠ [])
    (hplain : Text.Plain source.toList) (hfirst : ∀ c ∈ source.toList.head?, Text.isBlank c = false)
    (hlast : ∀ c ∈ source.toList.getLast?, Text.isBlank c = false) :
    ofSource source filename = [⟨1, source, 1, filename⟩] := by
  have hlines : Text.splitAt '\n' source.toList = [source.toList] := by
    have hlone : ∀ line ∈ [source.toList], '\n' ∉ line := by
      intro line hline
      rw [List.mem_singleton.mp hline]
      exact hplain.1
    have hsplit := Text.splitAt_intercalate (List.cons_ne_nil _ _) hlone
    rwa [List.intercalate_singleton] at hsplit
  have hline := ofLine?_plain filename 1 hne hplain hfirst hlast
  rw [String.ofList_toList] at hline
  rw [ofSource, hlines, ofLines, hline]
  rfl

/-- No lead begins with the word. -/
def Lead.avoids (word : String) : Bool := all.all fun l => l.phrase.head? != some word

theorem Lead.of?_of_avoids {t : Token} {word : String} {rest : List Token} (ht : t.form = .word word)
    (h : avoids word = true) : of? (t :: rest) = none := by
  refine Option.eq_none_iff_forall_ne_some.mpr fun l hl => ?_
  obtain ⟨u, hu, w, hw, hform⟩ := head?_of_opens (of?_eq_some_iff.mp hl)
  cases hu
  obtain rfl := Form.word.inj (ht.symm.trans hform)
  have hne := List.all_eq_true.mp h l l.mem_all
  rw [Option.mem_def.mp hw, bne_self_eq_false] at hne
  cases hne

theorem Statement.Scans.tokens_eq {s : Statement} {tokens : List Token} (h : s.Scans 0 s.text.toList tokens) :
    s.tokens = .ok (tokens ++ [.endAt (s.location s.text.length)]) := by
  have hscan : s.scan = (tokens, .complete (.endAt (s.location s.text.length))) := by
    rw [Statement.scan, h.scanFrom_eq, Nat.zero_add, String.length_toList]
  rw [Statement.tokens, hscan]

/-- The keyword of a drawing is the word there, and what stands behind it is left. -/
theorem Command.entityKeyword_of_word {source : String} {c : Cursor} {t : Token} {keyword : String} {rest : List Token}
    (hcurrent : c.current = t) (hrest : c.rest = t :: rest) (hadvance : c.advance.rest = rest)
    (ht : t.form = .word keyword) (hkeyword : keyword ∉ ["ANIMAL", "WITH", "WITHOUT"])
    (havoids : Lead.avoids keyword = true) : entityKeyword source c = .ok (keyword, rest) := by
  have hword : t.kind = .word := by rw [Token.kind, ht]; rfl
  have hexpect : expectWord .drawWithoutEntity source c = .ok t := by
    rw [expectWord, hcurrent]
    exact if_pos hword
  have hplain : startsClause (t :: rest) = false := by
    have hwith : t.isWord ["WITH", "WITHOUT"] = false := by
      simp only [List.mem_cons, not_or] at hkeyword
      simp [isWord, ht, hkeyword]
    simp [startsClause, hwith, Lead.of?_of_avoids ht havoids]
  have hanimal : t.wordText = keyword := by rw [wordText, ht]
  have hne : keyword ≠ "ANIMAL" := fun heq => hkeyword (by simp [heq])
  simp only [entityKeyword, hexpect, bind, Except.bind, hrest, hplain, hadvance, hanimal]
  cases rest with
  | nil => rfl
  | cons u more => simp [hne, pure, Except.pure]

/-- What stands behind the keyword of a drawing, with no lead, is its attribute section. -/
theorem Command.readDraw_of_word {source : String} {c : Cursor} {t : Token} {keyword : String} {rest : List Token}
    (hcurrent : c.current = t) (hrest : c.rest = t :: rest) (hadvance : c.advance.rest = rest)
    (ht : t.form = .word keyword) (hkeyword : keyword ∉ ["ANIMAL", "WITH", "WITHOUT"])
    (havoids : Lead.avoids keyword = true) (hlead : findLead rest = none) :
    readDraw source c = .ok (.draw keyword (attributeTokens rest) { position := {} }) := by
  rw [readDraw, entityKeyword_of_word hcurrent hrest hadvance ht hkeyword havoids]
  simp only [bind, Except.bind, hlead]
  rfl

/-- The cursor behind `DRAW`. -/
def Command.afterDraw (draw : Token) (tokens : List Token) (last : Token) : Cursor := ⟨draw :: tokens, last, 1⟩

/-- What begins with `DRAW` is read as a drawing. -/
theorem Statement.Scans.read_eq {s : Statement} {first : Token} {rest : List Token}
    (h : s.Scans 0 s.text.toList (first :: rest)) (hfirst : first.form = .word "DRAW") :
    s.read = {
      opening := some .draw
      outcome := (Command.readDraw s.text
        (Command.afterDraw first rest (.endAt (s.location s.text.length)))).mapError .refused } := by
  obtain ⟨_, lexeme, span⟩ := first
  obtain rfl : _ = Form.word "DRAW" := hfirst
  have hopening : Command.Opening.of? (⟨.word "DRAW", lexeme, span⟩ :: rest) = some .draw := rfl
  unfold Statement.read
  simp only [h.tokens_eq, Cursor.ofTokens_append_endAt, hopening, Command.readAfter]
  rfl

/-- A drawing of one word without a position is read as such. -/
theorem Statement.Scans.read_draw {s : Statement} {first t : Token} {keyword : String} {rest : List Token}
    (h : s.Scans 0 s.text.toList (first :: t :: rest)) (hfirst : first.form = .word "DRAW")
    (ht : t.form = .word keyword) (hkeyword : keyword ∉ ["ANIMAL", "WITH", "WITHOUT"])
    (havoids : Lead.avoids keyword = true) (hlead : findLead rest = none) :
    s.read = {
      opening := some .draw
      outcome := .ok (.draw keyword (Command.attributeTokens rest) { position := {} }) } := by
  have hdraw : Command.readDraw s.text (Command.afterDraw first (t :: rest) (.endAt (s.location s.text.length))) =
      .ok (.draw keyword (Command.attributeTokens rest) { position := {} }) :=
    Command.readDraw_of_word rfl rfl rfl ht hkeyword havoids hlead
  rw [h.read_eq hfirst, hdraw]
  rfl

/-- A drawing of one word with a position clause right behind it is read as the clause is. -/
theorem Statement.Scans.read_placed {s : Statement} {first t : Token} {keyword : String} {rest : List Token}
    {placed : Position.Placed} (h : s.Scans 0 s.text.toList (first :: t :: rest)) (hfirst : first.form = .word "DRAW")
    (ht : t.form = .word keyword) (hkeyword : keyword ∉ ["ANIMAL", "WITH", "WITHOUT"])
    (havoids : Lead.avoids keyword = true) (hbegins : Lead.Begins rest)
    (hplaced : Position.ofTokens s.text rest = .ok placed) :
    s.read = { opening := some .draw, outcome := .ok (.draw keyword [] placed) } := by
  have hlead : findLead rest = some 0 := findLeadFrom_append leadFree_nil rfl hbegins
  have hentity : Command.entityKeyword s.text
      (Command.afterDraw first (t :: rest) (.endAt (s.location s.text.length))) = .ok (keyword, rest) :=
    Command.entityKeyword_of_word rfl rfl rfl ht hkeyword havoids
  have hdraw : Command.readDraw s.text (Command.afterDraw first (t :: rest) (.endAt (s.location s.text.length))) =
      .ok (.draw keyword [] placed) := by
    rw [Command.readDraw, hentity]
    simp only [bind, Except.bind, hlead, List.drop_zero, List.take_zero, hplaced]
    rfl
  rw [h.read_eq hfirst, hdraw]
  rfl

/-! ### The scene of one drawing -/

/-- Where nothing is pending nothing is settled. -/
theorem Resolution.settleAll_of_resolved {table : NameTable} {sources : List (String × Statement)}
    {state : Resolution} (h : ∀ e ∈ state.entities, e.position.isResolved = true) (places : List Nat) :
    settleAll table sources places state = (state, none) := by
  induction places with
  | nil => rfl
  | cons i places ih =>
    have hsettle : settle table sources state i = .ok state := by
      unfold settle
      split
      · rfl
      · rename_i e he
        rw [if_pos (h e (List.mem_of_getElem? he))]
    rw [settleAll, hsettle]
    exact ih

theorem Context.resolve_of_resolved {c : Context} (h : ∀ e ∈ c.scene.entities, e.position.isResolved = true) :
    c.resolve = .ok (c, 0) := by
  have hentities : Resolution.settleAll (.ofEntities c.scene.entities) c.sources (List.range c.scene.entities.length)
      { entities := c.scene.entities } = ({ entities := c.scene.entities }, none) :=
    Resolution.settleAll_of_resolved h _
  unfold Context.resolve
  split
  · rfl
  · simp only [Resolution.ofEntities, hentities, List.append_nil]

/-- The entity that a drawing makes as the first of a scene. -/
def Vocabulary.firstDrawn (v : Vocabulary) (strict : Bool) (keyword : String) (attributes : Attributes)
    (position : Position) : Entity :=
  let type := v.typeOf keyword [] strict
  { id := "entity_1", category := type.category, subtype := type.subtype, keyword := type.keyword, attributes, position }

variable {v : Vocabulary} {strict : Bool} {source : String} {filename : Option String}

theorem readSource_draw {s : Statement} {keyword : String} {clauses : List Token} {placed : Position.Placed}
    {defaults stated : Attributes} (hstatements : Statement.ofSource source filename = [s])
    (hread : s.read = { opening := some .draw, outcome := .ok (.draw keyword clauses placed) })
    (hdefaults : v.attributesFor (v.typeOf keyword [] strict).subtype = .ok defaults)
    (hstated : Attributes.read s.text clauses = .ok stated) (hresolved : placed.position.isResolved = true) :
    ∃ r, readSource v strict source filename = .ok r ∧ r.diagnostics = placed.warning.toList ∧
      r.scene.entities = [v.firstDrawn strict keyword (Assoc.merge defaults stated) placed.position] := by
  let start : Context := { vocabulary := v, strict }
  obtain ⟨c, hc⟩ : ∃ c, (start.begin s s.read).draw s keyword clauses placed = .ok c :=
    ⟨_, bind_eq_ok.mpr ⟨defaults, hdefaults, bind_eq_ok.mpr ⟨stated, hstated, bind_eq_ok.mpr ⟨_, rfl, rfl⟩⟩⟩⟩
  have hrun : start.run (Statement.ofSource source filename) = .ok c := by
    have hattempt : start.attempt s = .ok (c, none) := by
      rw [Context.attempt_eq]
      rw [hread] at hc ⊢
      exact congrArg (Except.map (·, none)) hc
    rw [hstatements]
    exact bind_eq_ok.mpr ⟨c, Context.step_eq_ok.mpr ⟨_, hattempt, rfl⟩, rfl⟩
  obtain ⟨defaults', stated', hdefaults', hstated', -, hdrawn⟩ := Context.draw_eq_ok hc
  obtain rfl : defaults = defaults' := Except.ok.inj (hdefaults.symm.trans hdefaults')
  obtain rfl : stated = stated' := Except.ok.inj (hstated.symm.trans hstated')
  have hdiagnostics : c.diagnostics = placed.warning.toList := by
    rw [hdrawn, hread]
    rfl
  have hentities : c.scene.entities =
      [v.firstDrawn strict keyword (Assoc.merge defaults stated) placed.position] := by
    have hid : "entity_" ++ toString (0 + 1) = "entity_1" := by decide
    rw [hdrawn, hread, Vocabulary.firstDrawn, ← hid]
    rfl
  have hsettled : c.resolve = .ok (c, 0) := by
    refine Context.resolve_of_resolved fun e he => ?_
    rw [hentities] at he
    rw [List.mem_singleton.mp he]
    exact hresolved
  exact ⟨_, readSource_eq_ok.mpr ⟨c, _, hrun, hsettled, rfl⟩, hdiagnostics, hentities⟩

end SceneScript
