import SceneScript.Proofs.Books
import SceneScript.Proofs.Respelling
import SceneScript.Proofs.Separation

/-!
Statements by their openings. The phrases that statements begin with have different first words, so a statement has
at most one form; what it states is read off the tokens between its phrase and the closing token.
-/

namespace SceneScript

/-! ### Words as they are spelled -/

/-- The upper case of a word is that of its spelling. -/
theorem Token.Readable.form_of_word {t : Token} (h : t.Readable) (ht : t.kind = .word) :
    t.form = .word (Text.upper t.lexeme) := by
  obtain ⟨c, cs, rest, hlexeme, -, hreads⟩ := h
  rw [hlexeme]
  rw [Token.kind] at ht
  generalize t.form = form at ht hreads ⊢
  generalize hchars : c :: cs = lexeme at hreads ⊢
  cases hreads with
  | word => rfl
  | ledByDigit => rfl
  | @numeral negative whole _ n =>
    cases n <;> cases ht
  | mark =>
    unfold Token.punctuation at ht
    repeat' split at ht
    all_goals cases ht
  | _ => cases ht

/-! ### What is left at a cursor -/

namespace Cursor

variable {c c' : Cursor} {t : Token} {tokens rest : List Token} {words : List String}

/-- The tokens are left at the cursor, and only the end of the statement comes after them. -/
structure Before (c : Cursor) (tokens : List Token) : Prop where
  rest_eq : c.rest = tokens
  last : c.last.kind = .endOfStatement

namespace Before

theorem current_cons (h : c.Before (t :: rest)) : c.current = t := by
  have hget : c.tokens[c.pos]? = some t := by
    rw [← List.head?_drop]
    exact congrArg List.head? h.rest_eq
  rw [current, peek, Nat.add_zero, hget, Option.getD_some]

theorem current_nil (h : c.Before []) : c.current = c.last := by
  have hend : c.tokens.length ≤ c.pos := List.drop_eq_nil_iff.mp h.rest_eq
  rw [current, peek, Nat.add_zero, List.getElem?_eq_none hend, Option.getD_none]

theorem atEnd_iff (h : c.Before tokens) : c.atEnd = true ↔ tokens = [] := by
  rw [← h.rest_eq, Cursor.rest, List.drop_eq_nil_iff, Cursor.atEnd, decide_eq_true_eq]

theorem advance (h : c.Before (t :: rest)) : c.advance.Before rest := by
  have hmore : ¬c.atEnd = true := fun hend => List.cons_ne_nil t rest (h.atEnd_iff.mp hend)
  rw [Cursor.advance, if_neg hmore]
  refine ⟨?_, h.last⟩
  have htail := congrArg List.tail h.rest_eq
  rwa [Cursor.rest, List.tail_drop] at htail

/-- A word at the front is passed. -/
theorem matchWord_cons (h : c.Before (t :: rest)) (ht : t.isWord words = true) :
    c.matchWord words = (some t, c.advance) := by
  rw [matchWord, matchIf, h.current_cons, if_pos ht]

/-- Only a word at the front is passed. -/
theorem matchWord_eq_some (h : c.Before tokens) (hmatch : c.matchWord words = (some t, c')) :
    ∃ rest, tokens = t :: rest ∧ t.isWord words = true ∧ c'.Before rest := by
  unfold matchWord matchIf at hmatch
  split at hmatch
  · rename_i hword
    cases hmatch
    cases tokens with
    | nil =>
      rw [h.current_nil] at hword
      cases (Token.kind_of_isWord hword).symm.trans h.last
    | cons u rest =>
      rw [h.current_cons] at hword ⊢
      exact ⟨rest, rfl, hword, h.advance⟩
  · cases hmatch

end Before
end Cursor

/-- A word that is asked for stands at the front. -/
theorem Command.exists_of_expectWord {rejection : String → Rejection} {source : String} {c : Cursor} {t : Token}
    {tokens : List Token} (hc : c.Before tokens) (h : expectWord rejection source c = .ok t) :
    ∃ rest, tokens = t :: rest ∧ t.kind = .word := by
  unfold expectWord at h
  split at h
  · rename_i hword
    cases h
    cases tokens with
    | nil =>
      rw [hc.current_nil, hc.last] at hword
      cases hword
    | cons u rest =>
      rw [hc.current_cons] at hword ⊢
      exact ⟨rest, rfl, hword⟩
  · cases h

/-! ### Openings -/

theorem Token.IsPhrase.head?_append {words : List String} {front : List Token} (h : IsPhrase words front)
    (hne : words ≠ []) (back : List Token) : (front ++ back).head?.map (·.form) = words.head?.map .word := by
  obtain ⟨word, more, rfl⟩ := List.exists_cons_of_ne_nil hne
  obtain ⟨t, rest, rfl, ht, -⟩ := List.map_eq_cons_iff.mp h
  exact congrArg some ht

namespace Command.Opening

variable {o o' : Opening} {tokens : List Token}

theorem mem_all (o : Opening) : o ∈ all := by cases o <;> decide

theorem phrase_ne_nil (o : Opening) : o.phrase ≠ [] := by cases o <;> exact List.cons_ne_nil _ _

/-- A form is told by its first word. -/
theorem eq_of_head? (h : o.phrase.head? = o'.phrase.head?) : o = o' := by
  cases o <;> cases o' <;> simp [phrase] at h ⊢

theorem eq_of_opens (h : Lead.opens o.phrase tokens = true) (h' : Lead.opens o'.phrase tokens = true) : o = o' := by
  obtain ⟨front, back, rfl, hfront⟩ := Lead.opens_iff.mp h
  obtain ⟨front', back', heq, hfront'⟩ := Lead.opens_iff.mp h'
  have hhead := hfront'.head?_append o'.phrase_ne_nil back'
  rw [← heq, hfront.head?_append o.phrase_ne_nil back] at hhead
  exact eq_of_head? (Option.map_injective (fun _ _ => Token.Form.word.inj) hhead)

theorem of?_eq_some_iff : of? tokens = some o ↔ Lead.opens o.phrase tokens = true := by
  have hopens : ∀ {o : Opening}, of? tokens = some o → Lead.opens o.phrase tokens = true := by
    intro o h
    have hsome := List.find?_some h
    exact hsome
  refine ⟨hopens, fun h => ?_⟩
  cases hfound : of? tokens with
  | none => exact absurd h (List.find?_eq_none.mp hfound o o.mem_all)
  | some o' => rw [eq_of_opens h (hopens hfound)]

end Command.Opening

namespace Statement

open Command (Opening)

variable {s : Statement} {o : Opening} {t : Token} {words : List String} {word : String} {tokens : List Token}

/-- A word behind the words can be seen as one of them. -/
theorem Says.unshift (h : s.Says words (t :: tokens)) (ht : t.form = .word word) : s.Says (words ++ [word]) tokens := by
  obtain ⟨front, last, htokens, hfront⟩ := h
  refine ⟨front ++ [t], last, by rw [htokens, List.append_assoc]; rfl, ?_⟩
  rw [Token.IsPhrase, List.map_append, List.map_append, hfront, List.map_singleton, List.map_singleton, ht]

theorem Says.readable (h : s.Says words tokens) : ∀ t ∈ tokens, t.Readable := by
  obtain ⟨front, last, htokens, -⟩ := h
  obtain ⟨hfound, -⟩ := tokens_eq_ok htokens
  rw [← List.append_assoc] at hfound
  intro t ht
  refine readable_scanFrom s 0 s.text.toList t ?_
  have hmem := List.mem_append_right front ht
  rw [(List.append_inj' hfound rfl).1] at hmem
  exact hmem

/-- A statement with the opening of a form is read in that form, from the tokens behind the opening. -/
theorem Says.read_eq (h : s.Says o.phrase tokens) :
    ∃ c : Cursor, c.Before tokens ∧ s.read = {
      opening := some o
      warnings := (Command.readAfter s.text c o).1
      outcome := (Command.readAfter s.text c o).2.mapError .refused } := by
  obtain ⟨front, last, htokens, hfront⟩ := h
  obtain ⟨found, hfound, -⟩ := scans_of_tokens htokens
  rw [← List.append_assoc] at hfound
  obtain ⟨rfl, hlast⟩ := List.append_inj' hfound rfl
  obtain rfl := List.singleton_inj.mp hlast
  have hopening : Opening.of? (front ++ tokens) = some o :=
    Opening.of?_eq_some_iff.mpr (Lead.opens_iff.mpr ⟨front, tokens, rfl, hfront⟩)
  refine ⟨⟨front ++ tokens, .endAt (s.location s.text.length), o.phrase.length⟩, ⟨?_, rfl⟩, ?_⟩
  · rw [Cursor.rest, ← hfront.length_eq, List.drop_left]
  · unfold Statement.read
    rw [htokens, ← List.append_assoc]
    simp only [Cursor.ofTokens_append_endAt, hopening]

theorem says_of_opening (h : s.read.opening = some o) : ∃ tokens, s.Says o.phrase tokens := by
  unfold Statement.read at h
  split at h
  · cases h
  · rename_i all htokens
    obtain ⟨found, rfl, -⟩ := scans_of_tokens htokens
    simp only [Cursor.ofTokens_append_endAt] at h
    split at h
    · cases h
    · rename_i opening hopening
      obtain rfl : opening = o := Option.some.inj h
      obtain ⟨front, back, rfl, hfront⟩ := Lead.opens_iff.mp (Opening.of?_eq_some_iff.mp hopening)
      exact ⟨back, front, _, by rw [htokens, List.append_assoc], hfront⟩

/-- What a statement states it states in the form of its command, behind the opening. -/
theorem exists_says_of_read {command : Command} (h : s.read.outcome = .ok command) :
    ∃ (c : Cursor) (tokens : List Token), s.Says command.opening.phrase tokens ∧ c.Before tokens ∧
      s.read.warnings = (Command.readAfter s.text c command.opening).1 ∧
      (Command.readAfter s.text c command.opening).2 = .ok command := by
  obtain ⟨tokens, hsaid⟩ := says_of_opening (opening_of_read h)
  obtain ⟨c, hc, hread⟩ := hsaid.read_eq
  rw [hread] at h
  exact ⟨c, tokens, hsaid, hc, congrArg Reading.warnings hread, mapError_eq_ok.mp h⟩

end Statement
end SceneScript
