import SceneScript.Command.Reading

/-!
Where tokens stand. The tokens of a statement cover stretches of its text that are not empty and come one
after another; so the span of any of them, or of several in order, is a stretch of the statement, and the
text that several cover is not empty.
-/

namespace SceneScript

namespace Statement

/-- The span is a stretch of the statement, which may be empty. -/
def Covers (s : Statement) (span : Span) : Prop :=
  ∃ start stop : Nat, start ≤ stop ∧ stop ≤ s.text.length ∧ span = ⟨s.location start, s.location stop⟩

/-- The tokens stand in the statement one after another from an offset on, none on an empty stretch. -/
inductive LaidOut (s : Statement) : Nat → List Token → Prop
  | nil {offset : Nat} : LaidOut s offset []
  | cons {offset start stop : Nat} {t : Token} {rest : List Token} :
      offset ≤ start → start < stop → stop ≤ s.text.length → t.span = ⟨s.location start, s.location stop⟩ →
      LaidOut s stop rest → LaidOut s offset (t :: rest)

variable {s : Statement}

theorem covers_span (s : Statement) : s.Covers s.span :=
  ⟨0, s.text.length, Nat.zero_le _, Nat.le_refl _, rfl⟩

theorem covers_empty {offset : Nat} (h : offset ≤ s.text.length) : s.Covers (.empty (s.location offset)) :=
  ⟨offset, offset, Nat.le_refl _, h, rfl⟩

/-! ### Parts of a layout -/

namespace LaidOut

variable {offset : Nat} {tokens : List Token}

theorem mono {offset' : Nat} (h : s.LaidOut offset tokens) (hle : offset' ≤ offset) : s.LaidOut offset' tokens := by
  cases h with
  | nil => exact .nil
  | cons hstart hlt hstop hspan hrest => exact .cons (Nat.le_trans hle hstart) hlt hstop hspan hrest

theorem sublist {tokens' : List Token} (h : s.LaidOut offset tokens) (hsub : tokens'.Sublist tokens) :
    s.LaidOut offset tokens' := by
  induction hsub generalizing offset with
  | slnil => exact h
  | cons t _ ih =>
    cases h with
    | cons hstart hlt _ _ hrest => exact (ih hrest).mono (by omega)
  | cons_cons t _ ih =>
    cases h with
    | cons hstart hlt hstop hspan hrest => exact .cons hstart hlt hstop hspan (ih hrest)

theorem covers {t : Token} (h : s.LaidOut offset tokens) (ht : t ∈ tokens) : s.Covers t.span := by
  induction h with
  | nil => cases ht
  | cons _ hlt hstop hspan _ ih =>
    rcases List.mem_cons.mp ht with rfl | ht
    · exact ⟨_, _, Nat.le_of_lt hlt, hstop, hspan⟩
    · exact ih ht

/-- The first token begins before the last one ends. -/
theorem ends {first last : Token} (h : s.LaidOut offset tokens) (hfirst : tokens.head? = some first)
    (hlast : tokens.getLast? = some last) :
    ∃ start stop : Nat, offset ≤ start ∧ start < stop ∧ stop ≤ s.text.length ∧
      first.span.start = s.location start ∧ last.span.stop = s.location stop := by
  induction h generalizing first with
  | nil => cases hfirst
  | @cons offset start stop t rest hstart hlt hstop hspan hrest ih =>
    cases hfirst
    cases rest with
    | nil =>
      obtain rfl : t = last := by simpa using hlast
      exact ⟨start, stop, hstart, hlt, hstop, by rw [hspan], by rw [hspan]⟩
    | cons u more =>
      rw [List.getLast?_cons_cons] at hlast
      obtain ⟨start', stop', hstart', hlt', hstop', -, hend⟩ := ih rfl hlast
      exact ⟨start, stop', hstart, by omega, hstop', by rw [hspan], hend⟩

theorem covers_spanOf? {span : Span} (h : s.LaidOut offset tokens) (hspan : Token.spanOf? tokens = some span) :
    s.Covers span := by
  unfold Token.spanOf? at hspan
  split at hspan
  · rename_i first last hfirst hlast
    cases hspan
    obtain ⟨start, stop, -, hlt, hstop, hbegin, hend⟩ := h.ends hfirst hlast
    exact ⟨start, stop, Nat.le_of_lt hlt, hstop, by rw [hbegin, hend]⟩
  · cases hspan

theorem textOf_ne_empty (h : s.LaidOut offset tokens) (hne : tokens ≠ []) : Token.textOf s.text tokens ≠ "" := by
  cases hfirst : tokens.head? with
  | none => exact absurd (List.head?_eq_none_iff.mp hfirst) hne
  | some first =>
    cases hlast : tokens.getLast? with
    | none => exact absurd (List.getLast?_eq_none_iff.mp hlast) hne
    | some last =>
      obtain ⟨start, stop, -, hlt, hstop, hbegin, hend⟩ := h.ends hfirst hlast
      have hsource : s.text.isEmpty = false := by
        cases hempty : s.text.isEmpty with
        | false => rfl
        | true =>
          rw [String.isEmpty_iff.mp hempty] at hstop
          exact absurd hstop (by simp; omega)
      have hlength : (Text.slice s.text start stop).length = stop - start := by
        rw [Text.slice, String.length_ofList, List.length_drop, List.length_take, String.length_toList]
        omega
      simp only [Token.textOf, hfirst, hlast, hsource, Bool.false_eq_true, ↓reduceIte, hbegin, hend, location,
        Int.toNat_natCast]
      intro hslice
      rw [hslice, String.length_empty] at hlength
      omega

end LaidOut

/-! ### Scanning -/

/-- How a scan may end at a place in the statement. -/
structure EndsWithin (s : Statement) (ending : ScanEnd) : Prop where
  complete : ∀ last, ending = .complete last → last = .endAt (s.location s.text.length)
  openString : ∀ span, ending = .openString span → s.Covers span

theorem scanFrom_laidOut {offset : Nat} {cs : List Char} (h : offset + cs.length = s.text.length) :
    s.LaidOut offset (s.scanFrom offset cs).1 ∧ s.EndsWithin (s.scanFrom offset cs).2 := by
  fun_induction scanFrom s offset cs with
  | case1 offset =>
    have hend : offset = s.text.length := h
    subst hend
    refine ⟨.nil, fun last hlast => ?_, fun _ hspan => by cases hspan⟩
    cases hlast
    rfl
  | case2 offset c rest _ ih =>
    rw [List.length_cons] at h
    obtain ⟨hlaid, hends⟩ := ih (by omega)
    exact ⟨hlaid.mono (Nat.le_succ offset), hends⟩
  | case3 offset c rest =>
    refine ⟨.nil, fun _ hlast => (by cases hlast), fun span hspan => ?_⟩
    cases hspan
    exact ⟨offset, _, Nat.le_add_right _ _, Nat.le_of_eq h, rfl⟩
  | case4 => exact ⟨.nil, fun _ hlast => (by cases hlast), fun _ hspan => (by cases hspan)⟩
  | case5 offset c rest _ piece _ stop token tokens ending hscan ih =>
    have hpiece := congrArg List.length piece.append_eq
    have hlexeme : 0 < piece.lexeme.length := List.length_pos_iff.mpr piece.ne_nil
    rw [List.length_append] at hpiece
    rw [hscan] at ih
    obtain ⟨hlaid, hends⟩ := ih (by omega)
    exact ⟨.cons (Nat.le_refl offset) (by omega) (by omega) rfl hlaid, hends⟩

theorem scan_laidOut (s : Statement) : s.LaidOut 0 s.scan.1 ∧ s.EndsWithin s.scan.2 :=
  scanFrom_laidOut (by rw [String.length_toList, Nat.zero_add])

end Statement

/-! ### Cursors -/

namespace Cursor

variable {s : Statement} {c : Cursor}

/-- Every token that the cursor can show stands in the statement. -/
structure Within (s : Statement) (c : Cursor) : Prop where
  tokens : s.LaidOut 0 c.tokens
  last : s.Covers c.last.span

theorem ofTokens_append_endAt (tokens : List Token) (l : Location) :
    ofTokens (tokens ++ [.endAt l]) = { tokens, last := .endAt l } := by
  simp [ofTokens, Token.endAt, Token.kind, Token.Form.kind]

namespace Within

theorem peek (h : c.Within s) (n : Nat) : s.Covers (c.peek n).span := by
  unfold Cursor.peek
  cases ht : c.tokens[c.pos + n]? with
  | none => exact h.last
  | some t => exact h.tokens.covers (List.mem_of_getElem? ht)

theorem current (h : c.Within s) : s.Covers c.current.span := h.peek 0

theorem moved (h : c.Within s) (pos : Nat) : Within s { c with pos } := ⟨h.tokens, h.last⟩

theorem advance (h : c.Within s) : c.advance.Within s := by
  unfold Cursor.advance
  split
  · exact h
  · exact h.moved _

theorem rest (h : c.Within s) : s.LaidOut 0 c.rest := h.tokens.sublist (List.drop_sublist _ _)

theorem matchWord {words : List String} {found : Option Token} {c' : Cursor} (h : c.Within s)
    (hmatch : c.matchWord words = (found, c')) : (∀ t ∈ found, s.Covers t.span) ∧ c'.Within s := by
  unfold Cursor.matchWord Cursor.matchIf at hmatch
  split at hmatch
  · cases hmatch
    refine ⟨fun t ht => ?_, h.advance⟩
    cases ht
    exact h.current
  · cases hmatch
    exact ⟨by simp, h⟩

/-- Without a closing token one is made up behind the last token, so it stands in the statement too. -/
theorem ofTokens {tokens : List Token} (h : s.LaidOut 0 tokens) (hne : tokens ≠ []) :
    (Cursor.ofTokens tokens).Within s := by
  unfold Cursor.ofTokens
  split
  · rename_i t ht
    have hmem : t ∈ tokens := List.mem_of_getLast? ht
    split
    · exact ⟨h.sublist (List.dropLast_sublist tokens), h.covers hmem⟩
    · refine ⟨h, ?_⟩
      obtain ⟨_, stop, -, -, hstop, -, hend⟩ := h.ends (List.head?_eq_some_head hne) ht
      have hendOf : endOf tokens = s.location stop := by
        unfold endOf
        rw [ht]
        exact hend
      rw [hendOf]
      exact Statement.covers_empty hstop
  · rename_i hnone
    exact absurd (List.getLast?_eq_none_iff.mp hnone) hne

end Within
end Cursor

namespace Statement

variable {s : Statement}

theorem tokens_within {tokens : List Token} (h : s.tokens = .ok tokens) : (Cursor.ofTokens tokens).Within s := by
  obtain ⟨hlaid, hends⟩ := scan_laidOut s
  unfold Statement.tokens at h
  split at h
  · rename_i found last hscan
    cases h
    rw [hscan] at hlaid hends
    rw [hends.complete last rfl, Cursor.ofTokens_append_endAt]
    exact ⟨hlaid, covers_empty (Nat.le_refl _)⟩
  · cases h
  · cases h

end Statement
end SceneScript
