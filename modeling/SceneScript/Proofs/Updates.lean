import SceneScript.Proofs.Openings

/-!
What an update changes. It looks for the first entity, in the order in which they were drawn, that its reference names
in any of four ways. Of this entity the stated attributes are set and all others stay; without one there is a warning,
and nothing changes.
-/

namespace SceneScript

/-! ### Merged attributes -/

/-- Merging keeps the keys that there are in their places and puts new ones behind, in the order of the updates. -/
theorem Assoc.keys_merge {κ α : Type} [DecidableEq κ] {m updates : List (κ × α)} (h : (keys updates).Nodup) :
    keys (merge m updates) = keys m ++ (keys updates).filter (· ∉ keys m) := by
  induction updates generalizing m with
  | nil => exact (List.append_nil (keys m)).symm
  | cons p updates ih =>
    obtain ⟨hnew, hrest⟩ := List.nodup_cons.mp h
    have hmerge : merge m (p :: updates) = merge (set m p.1 p.2) updates := rfl
    have hkeys : keys (p :: updates) = p.1 :: keys updates := rfl
    rw [hmerge, ih hrest, hkeys]
    by_cases hp : p.1 ∈ keys m
    · obtain ⟨v, hv⟩ := exists_get?_of_mem_keys hp
      have hset : keys (set m p.1 p.2) = keys m := by rw [keys_set, contains, hv, Option.isSome_some, if_pos rfl]
      rw [hset, List.filter_cons_of_neg (by simpa using hp)]
    · have hset : keys (set m p.1 p.2) = keys m ++ [p.1] := by
        rw [set_of_notMem p.2 hp, keys, List.map_append]
        rfl
      have hsame : (keys updates).filter (· ∉ keys m ++ [p.1]) = (keys updates).filter (· ∉ keys m) := by
        refine List.filter_congr fun k hk => decide_eq_decide.mpr ?_
        have hne : k ≠ p.1 := fun heq => hnew (heq ▸ hk)
        simp [hne]
      rw [hset, hsame, List.filter_cons_of_pos (by simpa using hp), List.append_assoc]
      rfl

/-! ### Updates as they are read -/

namespace Command

variable {source : String} {c : Cursor} {reference : Token} {tokens clauses : List Token}

/-- An update names an entity by a word and states attributes behind `WITH`. -/
theorem exists_joiner_of_readUpdate (hc : c.Before tokens)
    (h : readUpdate source c = .ok (.update reference clauses)) :
    ∃ joiner, tokens = reference :: joiner :: clauses ∧ reference.kind = .word ∧ joiner.form = .word "WITH" ∧
      clauses ≠ [] := by
  obtain ⟨first, hfirst, h⟩ := bind_eq_ok.mp h
  obtain ⟨rest, rfl, hword⟩ := exists_of_expectWord hc hfirst
  split at h
  · cases h
  · rename_i joiner c₁ hjoiner
    obtain ⟨more, rfl, hwith, hc₁⟩ := hc.advance.matchWord_eq_some hjoiner
    split at h
    · obtain ⟨_, hthrow, -⟩ := bind_eq_ok.mp h
      cases hthrow
    · rename_i hend
      obtain ⟨rfl, rfl⟩ := Command.update.inj (pure_eq_ok.mp h)
      rw [hc₁.atEnd_iff] at hend
      rw [hc₁.rest_eq]
      exact ⟨joiner, rfl, hword, Token.isWord_singleton.mp hwith, hend⟩

end Command

namespace Scene

variable {p : Entity → Bool} {f : Entity → Entity} {before after : List Entity} {e : Entity}

/-- The first entity that satisfies the condition is changed. -/
theorem updateFirst_append (hbefore : ∀ e ∈ before, p e = false) (he : p e = true) :
    updateFirst p f (before ++ e :: after) = before ++ f e :: after := by
  induction before with
  | nil => exact if_pos he
  | cons first before ih =>
    have hfirst : ¬p first = true := by simp [hbefore first List.mem_cons_self]
    rw [List.cons_append, updateFirst, if_neg hfirst, ih fun e he => hbefore e (List.mem_cons_of_mem first he)]
    rfl

end Scene

namespace Context

variable {c c' : Context} {s : Statement} {reference : Token} {e : Entity}

/-- The reference names the entity: by the id as spelled, by the subtype in lower case, by a recognized keyword of its
    subtype, or by the keyword that it was drawn with, in upper case. -/
def Names (c : Context) (reference : Token) (e : Entity) : Prop :=
  e.id = reference.lexeme ∨ e.subtype = Text.lower reference.lexeme ∨
    ((c.typeOf (Text.upper reference.lexeme)).recognized = true ∧
      e.subtype = (c.typeOf (Text.upper reference.lexeme)).subtype) ∨
    e.keyword = Text.upper reference.lexeme

theorem refersTo_iff (hform : reference.form = .word (Text.upper reference.lexeme)) :
    c.refersTo reference e = true ↔ c.Names reference e := by
  rw [refersTo, Token.wordText_of_form hform, Names]
  simp only [Bool.or_eq_true, Bool.and_eq_true, beq_iff_eq, or_assoc]

/-- The reference of an update means what it names. -/
theorem refersTo_iff_of_read {clauses : List Token} (h : s.read.outcome = .ok (.update reference clauses)) :
    c.refersTo reference e = true ↔ c.Names reference e := by
  obtain ⟨cursor, tokens, hsaid, hcursor, -, hread⟩ := Statement.exists_says_of_read h
  obtain ⟨joiner, rfl, hword, -, -⟩ := Command.exists_joiner_of_readUpdate hcursor hread
  exact refersTo_iff ((hsaid.readable reference List.mem_cons_self).form_of_word hword)

/-- An update that ends well changes the attributes of the first entity that its reference names, and nothing else: each
    stated attribute is set as a whole, the others stay, and new ones come last. If the reference names none, nothing
    changes but for one warning. -/
theorem update_frame (hupdate : s.read.opening = some .update) (h : c.attempt s = .ok (c', none)) :
    ∃ reference joiner clauses, s.Says ["UPDATE"] (reference :: joiner :: clauses) ∧ reference.kind = .word ∧
      joiner.form = .word "WITH" ∧ clauses ≠ [] ∧
      ((∀ e ∈ c.scene.entities, ¬c.Names reference e) ∧ Agree c c' ∧
          (∃ w : Diagnostic, w.IsWarning "W103" ∧ c'.diagnostics = c.diagnostics ++ [w]) ∨
        ∃ before e after stated attributes, c.scene.entities = before ++ e :: after ∧
          (∀ e' ∈ before, ¬c.Names reference e') ∧ c.Names reference e ∧
          Attributes.read s.text clauses = .ok stated ∧
          (∀ key, Assoc.get? attributes key = (Assoc.get? stated key).or (Assoc.get? e.attributes key)) ∧
          Assoc.keys attributes =
            Assoc.keys e.attributes ++ (Assoc.keys stated).filter (· ∉ Assoc.keys e.attributes) ∧
          Agree { c with scene.entities := before ++ { e with attributes } :: after } c' ∧
          c'.diagnostics = c.diagnostics) := by
  rcases attempt_cases h with ⟨command, hcommand, hcarried, -⟩ | ⟨r, -, -, hsome⟩
  · obtain ⟨cursor, tokens, hsaid, hcursor, hwarnings, hread⟩ := Statement.exists_says_of_read hcommand
    rw [Statement.opening_of_read hcommand] at hupdate
    cases command with
    | update reference clauses =>
      obtain ⟨joiner, rfl, hword, hjoiner, hclauses⟩ := Command.exists_joiner_of_readUpdate hcursor hread
      have hwarnings : s.read.warnings = [] := hwarnings
      have hnot : ∀ {e : Entity}, ¬c.refersTo reference e = true → ¬c.Names reference e := fun hrefers =>
        mt (refersTo_iff_of_read hcommand).mpr hrefers
      refine ⟨reference, joiner, clauses, hsaid, hword, hjoiner, hclauses, ?_⟩
      rcases update_eq_ok hcarried with ⟨hnone, rfl⟩ | ⟨e, stated, hsome, hstated, rfl⟩
      · refine Or.inl ⟨fun e he => hnot (List.find?_eq_none.mp hnone e he), rfl, _,
          Warning.isWarning (.noSuchEntity reference.lexeme) reference.span (some s.text), ?_⟩
        rw [warn, begin, hwarnings, List.append_nil]
      · obtain ⟨he, before, after, hentities, hbefore⟩ := List.find?_eq_some_iff_append.mp hsome
        have hfirst : ∀ e' ∈ before, c.refersTo reference e' = false := fun e' he' =>
          (Bool.not_eq_true' _).mp (hbefore e' he')
        have hnodup := Attributes.nodup_read hstated
        refine Or.inr ⟨before, e, after, stated, _, hentities, fun e' he' => hnot (by simp [hfirst e' he']),
          (refersTo_iff_of_read hcommand).mp he, hstated, Assoc.get?_merge hnodup, Assoc.keys_merge hnodup, ?_, ?_⟩
        · have hchanged : Scene.updateFirst (c.refersTo reference)
              (fun e => { e with attributes := Assoc.merge e.attributes stated }) (before ++ e :: after) =
                before ++ { e with attributes := Assoc.merge e.attributes stated } :: after :=
            Scene.updateFirst_append hfirst he
          rw [← hchanged, ← hentities]
          rfl
        · rw [begin, hwarnings, List.append_nil]
    | _ => cases hupdate
  · cases hsome

/-- The second of two entities is updated, by its keyword in lower case. -/
theorem update_frame_woman :
    let s : Statement := { line := 3, text := "UPDATE woman WITH AGE 40 AND HAT(COLOR: red)" }
    ∃ c c', Context.run { vocabulary := .bundled } (Statement.ofSource "DRAW MAN\nDRAW WOMAN" none) = .ok c ∧
      c.attempt s = .ok (c', none) ∧
      ∃ before e after attributes, c.scene.entities = before ++ e :: after ∧
        Assoc.keys e.attributes <+: Assoc.keys attributes ∧
        Agree { c with scene.entities := before ++ { e with attributes } :: after } c' := by
  intro s
  have hopening : s.read.opening = some .update := by decide +kernel
  have hdone : ((Context.run { vocabulary := .bundled } (Statement.ofSource "DRAW MAN\nDRAW WOMAN" none)).bind
      fun c => c.attempt s).toOption.map (fun p => (p.2.isNone, p.1.diagnostics.isEmpty)) = some (true, true) := by
    decide +kernel
  obtain ⟨⟨c', refusal⟩, hrun, hdone⟩ := toOption_map_eq_some.mp hdone
  obtain ⟨c, hc, hattempt⟩ := bind_eq_ok.mp hrun
  simp only [Prod.mk.injEq, Option.isNone_iff_eq_none, List.isEmpty_iff] at hdone
  obtain ⟨rfl, hnone⟩ := hdone
  obtain ⟨_, _, _, -, -, -, -, hcase⟩ := update_frame hopening hattempt
  rcases hcase with ⟨-, -, w, -, hadded⟩ | ⟨before, e, after, _, attributes, hentities, -, -, -, -, hkeys, hagree, -⟩
  · rw [hnone] at hadded
    exact absurd hadded.symm (List.append_ne_nil_of_right_ne_nil _ (List.cons_ne_nil w []))
  · exact ⟨c, c', hc, hattempt, before, e, after, attributes, hentities, ⟨_, hkeys.symm⟩, hagree⟩

end Context
end SceneScript
