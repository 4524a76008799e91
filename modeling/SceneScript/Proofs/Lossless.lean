import SceneScript.Proofs.Layout
import SceneScript.Proofs.Lexemes
import SceneScript.Proofs.Outcomes

/-!
Tokens lose nothing of a statement. A scan takes gaps and lexemes off the front of the text, each lexeme with
at least one character; so it comes to an end, and what lies outside of the lexemes are gaps.
-/

namespace SceneScript

namespace Statement

variable {s : Statement}

/-- The characters from an offset on are the lexemes of the tokens, with nothing but gaps between them. -/
inductive Spelled (s : Statement) : Nat → List Char → List Token → Prop
  | nil {offset : Nat} : Spelled s offset [] []
  | gap {offset : Nat} {c : Char} {cs : List Char} {tokens : List Token} :
      Text.isGap c = true → Spelled s (offset + 1) cs tokens → Spelled s offset (c :: cs) tokens
  | token {offset : Nat} {lexeme cs : List Char} {t : Token} {tokens : List Token} :
      lexeme ≠ [] → t.lexeme = String.ofList lexeme → t.kind ≠ .endOfStatement →
      t.span = ⟨s.location offset, s.location (offset + lexeme.length)⟩ →
      Spelled s (offset + lexeme.length) cs tokens → Spelled s offset (lexeme ++ cs) (t :: tokens)

/-- The token is a stretch of the text with at least one character. -/
def Spells (s : Statement) (t : Token) : Prop :=
  t.kind ≠ .endOfStatement ∧ ∃ start stop : Nat, start < stop ∧ stop ≤ s.text.length ∧
    t.span = ⟨s.location start, s.location stop⟩ ∧ t.lexeme = Text.slice s.text start stop

/-- The token covers the character at an offset. -/
def Reaches (t : Token) (i : Nat) : Prop := t.span.start.offset ≤ i ∧ i < t.span.stop.offset

/-- Whatever a scan ends in, its tokens spell the part of the text before that; a complete one spells all. -/
theorem scanFrom_spelled (s : Statement) (offset : Nat) (cs : List Char) :
    ∃ before after, cs = before ++ after ∧ s.Spelled offset before (s.scanFrom offset cs).1 ∧
      ∀ last, (s.scanFrom offset cs).2 = .complete last → after = [] := by
  fun_induction scanFrom s offset cs with
  | case1 => exact ⟨[], [], rfl, .nil, fun _ _ => rfl⟩
  | case2 offset c rest hgap ih =>
    obtain ⟨before, after, rfl, hspelled, hends⟩ := ih
    exact ⟨c :: before, after, rfl, .gap hgap hspelled, hends⟩
  | case3 offset c rest => exact ⟨[], c :: rest, rfl, .nil, fun _ hlast => by cases hlast⟩
  | case4 offset c rest => exact ⟨[], c :: rest, rfl, .nil, fun _ hlast => by cases hlast⟩
  | case5 offset c rest _ piece hpiece stop token tokens ending hscan ih =>
    rw [hscan] at ih
    obtain ⟨before, after, hrest, hspelled, hends⟩ := ih
    refine ⟨piece.lexeme ++ before, after, ?_, ?_, hends⟩
    · rw [List.append_assoc, ← hrest, piece.append_eq]
    · exact .token piece.ne_nil rfl (Token.lexeme_of_scanPiece hpiece).kind_ne rfl hspelled

namespace Spelled

variable {offset : Nat} {cs : List Char} {tokens : List Token}

/-- Each token takes at least one character. -/
theorem length_le (h : s.Spelled offset cs tokens) : tokens.length ≤ cs.length := by
  induction h with
  | nil => exact Nat.le_refl _
  | gap _ _ ih => exact Nat.le_succ_of_le ih
  | token hne _ _ _ _ ih =>
    have hpos := List.length_pos_iff.mpr hne
    rw [List.length_cons, List.length_append]
    omega

theorem spells (front : List Char) {back : List Char} (h : s.Spelled offset cs tokens) (hfront : front.length = offset)
    (htext : s.text.toList = front ++ (cs ++ back)) : ∀ t ∈ tokens, s.Spells t := by
  induction h generalizing front with
  | nil =>
    intro t ht
    cases ht
  | @gap offset c cs tokens _ _ ih =>
    refine ih (front ++ [c]) ?_ ?_
    · rw [List.length_append, hfront, List.length_singleton]
    · rw [htext, List.cons_append, List.append_assoc, List.singleton_append]
  | @token offset lexeme cs t tokens hne hlexeme hkind hspan _ ih =>
    rw [List.append_assoc] at htext
    have hpos := List.length_pos_iff.mpr hne
    have hlength : s.text.length = front.length + (lexeme.length + (cs ++ back).length) := by
      rw [← String.length_toList, htext, List.length_append, List.length_append]
    intro u hu
    rcases List.mem_cons.mp hu with rfl | hu
    · refine ⟨hkind, offset, offset + lexeme.length, by omega, by omega, hspan, ?_⟩
      subst hfront
      have htake : (front ++ (lexeme ++ (cs ++ back))).take (front.length + lexeme.length) = front ++ lexeme := by
        rw [← List.append_assoc, ← List.length_append, List.take_left]
      rw [hlexeme, Text.slice, htext, htake, List.drop_left]
    · refine ih (front ++ lexeme) ?_ ?_ u hu
      · rw [List.length_append, hfront]
      · rw [htext, List.append_assoc]

/-- A character that no token covers is a gap. -/
theorem isGap (h : s.Spelled offset cs tokens) {i : Nat} {c : Char} (hi : cs[i]? = some c)
    (hfree : ∀ t ∈ tokens, ¬Reaches t (offset + i)) : Text.isGap c = true := by
  induction h generalizing i with
  | nil => simp at hi
  | @gap offset d cs tokens hgap _ ih =>
    cases i with
    | zero =>
      cases hi
      exact hgap
    | succ i =>
      refine ih hi fun t ht => ?_
      have hfree := hfree t ht
      rwa [Nat.add_right_comm offset 1 i]
  | @token offset lexeme cs t tokens _ _ _ hspan _ ih =>
    have hstop : lexeme.length ≤ i := by
      refine Nat.le_of_not_lt fun hlt => hfree t List.mem_cons_self ?_
      simp only [Reaches, hspan, location]
      omega
    rw [List.getElem?_append_right hstop] at hi
    refine ih hi fun u hu => ?_
    have hfree := hfree u (List.mem_cons_of_mem t hu)
    have hsum : offset + lexeme.length + (i - lexeme.length) = offset + i := by omega
    rwa [hsum]

end Spelled

namespace LaidOut

variable {offset : Nat} {tokens : List Token}

theorem offset_le (h : s.LaidOut offset tokens) {t : Token} (ht : t ∈ tokens) : offset ≤ t.span.start.offset := by
  induction h with
  | nil => cases ht
  | cons hstart hlt _ hspan _ ih =>
    rcases List.mem_cons.mp ht with rfl | ht
    · simp only [hspan, location]
      omega
    · have := ih ht
      omega

/-- A token ends before the next one begins. -/
theorem pairwise (h : s.LaidOut offset tokens) :
    tokens.Pairwise fun t u => t.span.stop.offset ≤ u.span.start.offset := by
  induction h with
  | nil => exact .nil
  | cons _ _ _ hspan hrest ih =>
    refine .cons (fun u hu => ?_) ih
    rw [hspan]
    exact hrest.offset_le hu

end LaidOut

theorem spells_of_mem_scan {t : Token} (h : t ∈ s.scan.1) : s.Spells t := by
  obtain ⟨before, after, htext, hspelled, -⟩ := scanFrom_spelled s 0 s.text.toList
  exact hspelled.spells [] rfl htext t h

theorem tokens_eq_ok {tokens : List Token} (h : s.tokens = .ok tokens) :
    tokens = s.scan.1 ++ [.endAt (s.location s.text.length)] ∧
      s.scan.2 = .complete (.endAt (s.location s.text.length)) := by
  obtain ⟨-, hends⟩ := scan_laidOut s
  unfold Statement.tokens at h
  split at h
  · rename_i found last hscan
    cases h
    rw [hscan] at hends ⊢
    cases hends.complete last rfl
    exact ⟨rfl, rfl⟩
  · cases h
  · cases h

/-- Tokens lose nothing. Those of a statement end with the one closing token, at the end of the text; the
    others are stretches of the text in order, and what they leave out is spaces and tabs. Every scan comes to
    an end: its tokens take at least one character each, and it closes the statement, or stops in a string
    without end or at a signed dimension that runs into a word. -/
theorem tokens_lossless :
    (∀ (s : Statement) (tokens : List Token), s.tokens = .ok tokens →
      ∃ found, tokens = found ++ [.endAt (s.location s.text.length)] ∧ (∀ t ∈ found, s.Spells t) ∧
        (found.Pairwise fun t u => t.span.stop.offset ≤ u.span.start.offset) ∧
        ∀ i c, s.text.toList[i]? = some c → (∀ t ∈ found, ¬Reaches t i) → c = ' ' ∨ c = '\t') ∧
      ∀ s : Statement, s.scan.1.length ≤ s.text.length ∧ (∀ t ∈ s.scan.1, s.Spells t) ∧
        (s.tokens = .ok (s.scan.1 ++ [.endAt (s.location s.text.length)]) ∨
          (∃ span, s.tokens = .error (.refused ⟨.openString, span, some s.text⟩)) ∨
          ∃ lexeme, s.tokens = .error (.fault (.badInteger lexeme))) := by
  have hspelled : ∀ s : Statement, ∃ before after, s.text.toList = before ++ after ∧
      s.Spelled 0 before s.scan.1 ∧ ∀ last, s.scan.2 = .complete last → after = [] := fun s =>
    scanFrom_spelled s 0 s.text.toList
  have hspells : ∀ (s : Statement), ∀ t ∈ s.scan.1, s.Spells t := by
    intro s
    obtain ⟨before, after, htext, hspelled, -⟩ := hspelled s
    exact hspelled.spells [] rfl htext
  constructor
  · intro s tokens h
    obtain ⟨rfl, hcomplete⟩ := tokens_eq_ok h
    obtain ⟨before, after, htext, hspelled, hends⟩ := hspelled s
    cases hends _ hcomplete
    rw [List.append_nil] at htext
    refine ⟨s.scan.1, rfl, hspells s, (scan_laidOut s).1.pairwise, fun i c hi hfree => ?_⟩
    rw [htext] at hi
    rw [← Nat.zero_add i] at hfree
    have hgap := hspelled.isGap hi hfree
    simpa [Text.isGap] using hgap
  · intro s
    refine ⟨?_, hspells s, ?_⟩
    · obtain ⟨before, after, htext, hspelled, -⟩ := hspelled s
      have hlength := congrArg List.length htext
      rw [String.length_toList, List.length_append] at hlength
      have := hspelled.length_le
      omega
    · cases hscan : s.tokens with
      | ok tokens =>
        obtain ⟨rfl, -⟩ := tokens_eq_ok hscan
        exact Or.inl rfl
      | error failure =>
        unfold Statement.tokens at hscan
        split at hscan
        · cases hscan
        · rename_i span _
          cases hscan
          exact Or.inr (Or.inl ⟨span, rfl⟩)
        · rename_i lexeme _
          cases hscan
          exact Or.inr (Or.inr ⟨_, rfl⟩)

/-- A dimension, a color and a string between gaps, at some place in a file. -/
theorem tokens_lossless_mixed :
    let s : Statement := { line := 3, text := "AT\t-5x10 #abc,'a b' ", column := 5, filename := some "park" }
    ∃ found, s.tokens = .ok (found ++ [.endAt (s.location s.text.length)]) ∧ found.length = 5 ∧
      (∀ t ∈ found, s.Spells t) ∧
        ∀ i c, s.text.toList[i]? = some c → (∀ t ∈ found, ¬Reaches t i) → c = ' ' ∨ c = '\t' := by
  intro s
  have hok : s.tokens.toOption.map List.length = some 6 := by decide +kernel
  obtain ⟨tokens, htokens, hlength⟩ := toOption_map_eq_some.mp hok
  obtain ⟨found, rfl, hspells, -, hgaps⟩ := tokens_lossless.1 s tokens htokens
  have hfound : found.length = 5 := by simpa using hlength
  exact ⟨found, htokens, hfound, hspells, hgaps⟩

end Statement
end SceneScript
