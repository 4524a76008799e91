import SceneScript.Proofs.Openings

/-!
Walks of a cursor. Whatever is asked of it, a cursor goes on over the tokens in order and stops behind the last of
them: what the calls have taken and what is left are together the tokens without the closing one. A match that fails
takes nothing, and at the end the closing token answers every call while the cursor stays.
-/

namespace SceneScript

namespace Cursor
open Token

/-! ### Calls -/

/-- What can be asked of a cursor. -/
inductive Call where
  | peek (n : Nat)
  | advance
  | check (kind : Kind)
  | checkWord (words : List String)
  | matchKind (kinds : List Kind)
  | matchWord (words : List String)
  | matchPhrase (words : List String)
  | rest

inductive Answer where
  | token (t : Token)
  | found (t : Option Token)
  | holds (b : Bool)
  | left (tokens : List Token)

/-- The answer of a match or check that fails. -/
def Answer.Fails (a : Answer) : Prop := a = .found none ∨ a = .holds false

/-- The answer to a call, and the cursor after it. -/
def Call.perform (c : Cursor) : Call → Answer × Cursor
  | .peek n => (.token (c.peek n), c)
  | .advance => (.token c.current, c.advance)
  | .check kind => (.holds (c.current.kind = kind), c)
  | .checkWord words => (.holds (c.current.isWord words), c)
  | .matchKind kinds => (.found (c.matchKind kinds).1, (c.matchKind kinds).2)
  | .matchWord words => (.found (c.matchWord words).1, (c.matchWord words).2)
  | .matchPhrase words => (.holds (c.matchPhrase words).1, (c.matchPhrase words).2)
  | .rest => (.left c.rest, c)

/-- The tokens that a call takes: those it hands over or matches, the closing token apart. -/
def Call.taken (c : Cursor) : Call → List Token
  | .advance => Token.inner [c.current]
  | .matchKind kinds => Token.inner (c.matchKind kinds).1.toList
  | .matchWord words => Token.inner (c.matchWord words).1.toList
  | .matchPhrase words => if (c.matchPhrase words).1 then (List.range words.length).map c.peek else []
  | _ => []

/-- All that calls take one after another, and the cursor after them. -/
def walk (c : Cursor) : List Call → List Token × Cursor
  | [] => ([], c)
  | call :: calls =>
    let (taken, c') := (call.perform c).2.walk calls
    (call.taken c ++ taken, c')

/-- What a closing token answers. -/
def Call.atClose (last : Token) : Call → Answer
  | .peek _ | .advance => .token last
  | .check kind => .holds (kind = .endOfStatement)
  | .checkWord _ => .holds false
  | .matchKind kinds => .found (if kinds.contains .endOfStatement then some last else none)
  | .matchWord _ => .found none
  | .matchPhrase words => .holds words.isEmpty
  | .rest => .left []

/-- The closing token among tokens; without one, it is made up behind the last of them. -/
def closing (tokens : List Token) : Token :=
  (tokens.find? (·.kind = .endOfStatement)).getD (.endAt (endOf tokens))

variable {c : Cursor} {t : Token} {tokens : List Token} {words : List String} {call : Call}

/-- A call that fails takes nothing. -/
theorem taken_of_fails (h : (call.perform c).1.Fails) : call.taken c = [] := by
  rcases h with hnone | hfalse
  · cases call with
    | matchKind kinds => rw [Call.taken, Answer.found.inj hnone]; rfl
    | matchWord words => rw [Call.taken, Answer.found.inj hnone]; rfl
    | _ => cases hnone
  · cases call with
    | matchPhrase words => rw [Call.taken, Answer.holds.inj hfalse]; rfl
    | check => rfl
    | checkWord => rfl
    | _ => cases hfalse

/-! ### Places -/

/-- The cursor behind the next `n` tokens. -/
def past (c : Cursor) (n : Nat) : Cursor := { c with pos := c.pos + n }

/-- The taken tokens stand next at the one cursor, and the other stands just behind them. -/
structure Passes (c : Cursor) (taken : List Token) (c' : Cursor) : Prop where
  ahead : taken <+: c.rest
  eq_past : c' = c.past taken.length

theorem rest_past (c : Cursor) (n : Nat) : (c.past n).rest = c.rest.drop n := List.drop_drop.symm

theorem peek_eq (c : Cursor) (n : Nat) : c.peek n = c.rest[n]?.getD c.last := by
  rw [peek, rest, List.getElem?_drop]

namespace Passes

variable {c c' c'' : Cursor} {taken taken' : List Token}

theorem refl (c : Cursor) : c.Passes [] c := ⟨List.nil_prefix, rfl⟩

theorem append_rest (h : c.Passes taken c') : taken ++ c'.rest = c.rest := by
  obtain ⟨⟨back, hback⟩, rfl⟩ := h
  rw [rest_past, ← hback, List.drop_left]

theorem trans (h : c.Passes taken c') (h' : c'.Passes taken' c'') : c.Passes (taken ++ taken') c'' := by
  refine ⟨?_, ?_⟩
  · rw [← h.append_rest]
    exact (List.prefix_append_right_inj _).mpr h'.ahead
  · rw [h'.eq_past, h.eq_past, past, past, past, Nat.add_assoc, List.length_append]

end Passes

/-- The closing token is kept apart from the others. -/
structure Closed (c : Cursor) : Prop where
  inside : ∀ t ∈ c.tokens, t.kind ≠ .endOfStatement
  last : c.last.kind = .endOfStatement

theorem ofTokens_eq (h : ∀ t ∈ tokens.dropLast, t.kind ≠ .endOfStatement) :
    ofTokens tokens = { tokens := Token.inner tokens, last := closing tokens } := by
  rcases tokens.eq_nil_or_concat' with rfl | ⟨front, t, rfl⟩
  · rfl
  · rw [List.dropLast_concat] at h
    have hfront : Token.inner front = front := List.filter_eq_self.mpr fun u hu => by simpa using h u hu
    have hnone : front.find? (·.kind = .endOfStatement) = none :=
      List.find?_eq_none.mpr fun u hu => by simpa using h u hu
    have hinner : Token.inner (front ++ [t]) = front ++ Token.inner [t] := by
      rw [Token.inner, List.filter_append, ← Token.inner, ← Token.inner, hfront]
    rw [closing, List.find?_append, hnone, Option.none_or, hinner]
    by_cases ht : t.kind = .endOfStatement <;> simp [ofTokens, Token.inner, ht]

theorem closed_ofTokens (h : ∀ t ∈ tokens.dropLast, t.kind ≠ .endOfStatement) : (ofTokens tokens).Closed := by
  rw [ofTokens_eq h]
  refine ⟨fun t ht => by simpa using (List.mem_filter.mp ht).2, ?_⟩
  show (closing tokens).kind = .endOfStatement
  unfold closing
  cases hfound : tokens.find? (·.kind = .endOfStatement) with
  | none => rfl
  | some t => simpa using List.find?_some hfound

namespace Closed

theorem past (h : c.Closed) (n : Nat) : (c.past n).Closed := ⟨h.inside, h.last⟩

theorem of_passes {c' : Cursor} {taken : List Token} (h : c.Closed) (hpasses : c.Passes taken c') : c'.Closed :=
  hpasses.eq_past ▸ h.past taken.length

theorem isWord_last (h : c.Closed) (words : List String) : c.last.isWord words = false :=
  Bool.eq_false_iff.mpr fun hword => by cases (kind_of_isWord hword).symm.trans h.last

/-! ### One call -/

/-- The cursor passes the current token unless that is the closing one. -/
theorem passes_advance (h : c.Closed) : c.Passes (Token.inner [c.current]) c.advance := by
  cases hrest : c.rest with
  | nil =>
    have hbefore : c.Before [] := ⟨hrest, h.last⟩
    have hnone : Token.inner [c.current] = [] := by simp [Token.inner, hbefore.current_nil, h.last]
    rw [hnone, advance, if_pos (hbefore.atEnd_iff.mpr rfl)]
    exact .refl c
  | cons t more =>
    have hbefore : c.Before (t :: more) := ⟨hrest, h.last⟩
    have hmem : t ∈ c.rest := by rw [hrest]; exact List.mem_cons_self
    have hone : Token.inner [c.current] = [t] := by
      simp [Token.inner, hbefore.current_cons, h.inside t (List.mem_of_mem_drop hmem)]
    have hmore : ¬c.atEnd = true := fun hend => List.cons_ne_nil t more (hbefore.atEnd_iff.mp hend)
    rw [hone, advance, if_neg hmore]
    exact ⟨⟨more, hrest.symm⟩, rfl⟩

/-- A match of one token passes what it finds. -/
theorem passes_matchIf (h : c.Closed) (p : Token → Bool) :
    c.Passes (Token.inner (c.matchIf p).1.toList) (c.matchIf p).2 := by
  unfold matchIf
  split
  · exact h.passes_advance
  · exact .refl c

/-- A phrase is looked for among the tokens that are left, since the closing token is no word of it. -/
theorem hasPhrase_eq (h : c.Closed) : c.hasPhrase words = Lead.opens words c.rest := by
  induction words generalizing c with
  | nil => cases hrest : c.rest <;> rfl
  | cons w words ih =>
    have hpeek : ∀ i, (c.past 1).peek i = c.peek (i + 1) := fun i => by
      rw [peek, peek, Cursor.past, Nat.add_assoc, Nat.add_comm 1 i]
    have hnext : c.hasPhrase (w :: words) = (c.current.isWord [w] && (c.past 1).hasPhrase words) := by
      rw [hasPhrase, hasPhrase, List.zipIdx_cons', List.all_cons, List.all_map]
      simp only [Function.comp_def, hpeek]
      rfl
    rw [hnext, ih (h.past 1), rest_past]
    cases hrest : c.rest with
    | nil =>
      have hbefore : c.Before [] := ⟨hrest, h.last⟩
      rw [hbefore.current_nil, h.isWord_last]
      rfl
    | cons t more =>
      have hbefore : c.Before (t :: more) := ⟨hrest, h.last⟩
      rw [hbefore.current_cons]
      rfl

/-- The words of a phrase that is found are the tokens that stand next. -/
theorem map_peek_ahead (h : c.Closed) (hwords : c.hasPhrase words = true) :
    (List.range words.length).map c.peek <+: c.rest := by
  rw [h.hasPhrase_eq] at hwords
  obtain ⟨front, back, hrest, hfront⟩ := Lead.opens_iff.mp hwords
  have hpeek : (List.range words.length).map c.peek = front := by
    refine List.ext_getElem (by simp [hfront.length_eq]) fun i _ hi => ?_
    rw [List.getElem_map, List.getElem_range, peek_eq, hrest, List.getElem?_append_left hi,
      List.getElem?_eq_getElem hi, Option.getD_some]
  rw [hpeek, hrest]
  exact List.prefix_append front back

/-- Every call passes what it takes. -/
theorem passes_perform (h : c.Closed) (call : Call) : c.Passes (call.taken c) (call.perform c).2 := by
  cases call with
  | advance => exact h.passes_advance
  | matchKind kinds => exact h.passes_matchIf _
  | matchWord words => exact h.passes_matchIf _
  | matchPhrase words =>
    by_cases hwords : c.hasPhrase words = true
    · simp only [Call.taken, Call.perform, matchPhrase, hwords, ↓reduceIte]
      exact ⟨h.map_peek_ahead hwords, by rw [List.length_map, List.length_range]; rfl⟩
    · simp only [Call.taken, Call.perform, matchPhrase, hwords, Bool.false_eq_true, ↓reduceIte]
      exact .refl c
  | _ => exact .refl c

/-- With no token left, the closing token answers. -/
theorem perform_atClose (h : c.Closed) (hrest : c.rest = []) (call : Call) :
    call.perform c = (call.atClose c.last, c) := by
  have hbefore : c.Before [] := ⟨hrest, h.last⟩
  have hstays : c.advance = c := by rw [advance, if_pos (hbefore.atEnd_iff.mpr rfl)]
  cases call with
  | peek n => rw [Call.perform, peek_eq, hrest, Call.atClose, List.getElem?_nil, Option.getD_none]
  | advance => rw [Call.perform, hbefore.current_nil, hstays, Call.atClose]
  | check kind =>
    rw [Call.perform, hbefore.current_nil, h.last, Call.atClose]
    simp only [eq_comm]
  | checkWord words => rw [Call.perform, hbefore.current_nil, h.isWord_last, Call.atClose]
  | matchKind kinds =>
    simp only [Call.perform, matchKind, matchIf, hbefore.current_nil, h.last, hstays, Call.atClose]
    split <;> rfl
  | matchWord words =>
    simp only [Call.perform, matchWord, matchIf, hbefore.current_nil, h.isWord_last, Call.atClose]
    rfl
  | matchPhrase words =>
    have hphrase : c.hasPhrase words = words.isEmpty := by
      rw [h.hasPhrase_eq, hrest]
      cases words <;> rfl
    cases words with
    | nil => rfl
    | cons w words =>
      simp only [Call.perform, matchPhrase, hphrase, Call.atClose]
      rfl
  | rest => rw [Call.perform, hrest, Call.atClose]

/-! ### Many calls -/

/-- Calls in a row pass all that they take. -/
theorem passes_walk (h : c.Closed) (calls : List Call) : c.Passes (c.walk calls).1 (c.walk calls).2 := by
  induction calls generalizing c with
  | nil => exact .refl c
  | cons call calls ih =>
    have hpasses := h.passes_perform call
    exact hpasses.trans (ih (h.of_passes hpasses))

end Closed

/-- Over tokens of which at most the last one closes the statement, a cursor loses nothing and never leaves them,
    whatever calls come in whatever order. What they have taken and what is left are the tokens without the closing one,
    in order, and the place is the number of those taken; so it stays within their number and never goes back. A match
    that fails moves nothing. At the end the closing token answers every call, and the cursor stays. -/
theorem walk_ofTokens (tokens : List Token) (hclose : ∀ t ∈ tokens.dropLast, t.kind ≠ .endOfStatement)
    (calls : List Call) :
    let taken := ((ofTokens tokens).walk calls).1
    let c := ((ofTokens tokens).walk calls).2
    taken ++ c.rest = Token.inner tokens ∧ c.pos = taken.length ∧ c.pos ≤ (Token.inner tokens).length ∧
      (∀ more, c.pos ≤ (c.walk more).2.pos) ∧
      (∀ call : Call, (call.perform c).1.Fails → (call.perform c).2 = c) ∧
      (c.pos = (Token.inner tokens).length →
        ∀ call : Call, call.perform c = (call.atClose (closing tokens), c)) := by
  intro taken c
  have hstart : (ofTokens tokens).Closed := closed_ofTokens hclose
  have hwalk : (ofTokens tokens).Passes taken c := hstart.passes_walk calls
  have hclosed : c.Closed := hstart.of_passes hwalk
  have hsplit : taken ++ c.rest = (ofTokens tokens).rest := hwalk.append_rest
  have hc := hwalk.eq_past
  rw [ofTokens_eq hclose] at hsplit hc
  have hsplit : taken ++ c.rest = Token.inner tokens := hsplit
  have hpos : c.pos = taken.length := by rw [hc, past, Nat.zero_add]
  have hlength : taken.length + c.rest.length = (Token.inner tokens).length := by rw [← List.length_append, hsplit]
  refine ⟨hsplit, hpos, by omega, fun more => ?_, fun call hfails => ?_, fun hend call => ?_⟩
  · rw [(hclosed.passes_walk more).eq_past]
    exact Nat.le_add_right _ _
  · rw [(hclosed.passes_perform call).eq_past, taken_of_fails hfails]
    rfl
  · have hnil : c.rest = [] := List.eq_nil_of_length_eq_zero (by omega)
    have hlast : c.last = closing tokens := by rw [hc]; rfl
    rw [hclosed.perform_atClose hnil call, hlast]

/-- A phrase that would reach over the end is refused, a shorter one is passed, and the closing token is matched again
    and again. -/
theorem walk_ofTokens_torso :
    let mark (form : Form) (lexeme : String) : Token := ⟨form, lexeme, .empty ⟨1, 1, 0, none⟩⟩
    let tokens : List Token := [mark (.word "BARE") "Bare", mark (.word "TORSO") "torso", mark .endOfStatement ""]
    let calls : List Call := [.matchPhrase ["BARE", "TORSO", "NOW"], .matchPhrase ["BARE", "TORSO"],
      .matchKind [.endOfStatement], .advance]
    let c := ((ofTokens tokens).walk calls).2
    (∀ t ∈ tokens.dropLast, t.kind ≠ .endOfStatement) ∧ c.pos = 2 ∧
      ((ofTokens tokens).walk calls).1 ++ c.rest = tokens.dropLast ∧
      ∀ call : Call, call.perform c = (call.atClose (mark .endOfStatement ""), c) := by
  intro mark tokens calls c
  have hclose : ∀ t ∈ tokens.dropLast, t.kind ≠ .endOfStatement := by
    intro t ht
    simp only [tokens, List.dropLast, List.mem_cons, List.not_mem_nil, or_false] at ht
    rcases ht with rfl | rfl <;> decide
  have hpos : c.pos = 2 := by decide +kernel
  obtain ⟨hsplit, -, -, -, -, hend⟩ := walk_ofTokens tokens hclose calls
  exact ⟨hclose, hpos, hsplit, hend hpos⟩

end Cursor
end SceneScript
