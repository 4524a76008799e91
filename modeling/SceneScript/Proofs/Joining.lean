import SceneScript.Proofs.Lines
import SceneScript.Proofs.Respelling

/-!
Scans of joined texts. A complete scan goes on behind its last character as if it began there, provided that
no lexeme goes on across the seam; and its tokens are the same in any statement but for their places. So the
tokens of a text are put together from those of its parts.
-/

namespace SceneScript

namespace Token
open Text

/-! ### Across a seam -/

theorem isGap_of_isWordChar {c : Char} (h : isWordChar c = true) : isGap c = false :=
  Bool.eq_false_iff.mpr fun hgap => by
    rw [isWordChar_of_isGap hgap] at h
    cases h

theorem Ends.nil : Ends [] := fun _ hc => nomatch hc

theorem meetsWord_append {more : List Char} (hends : Ends more) (rest : List Char) :
    meetsWord (rest ++ more) = meetsWord rest := by
  cases rest with
  | nil => exact hends.meetsWord
  | cons c rest => rfl

theorem Numeral.StopsAt.append {n : Numeral} {rest more : List Char} (h : n.StopsAt rest) (hends : Ends more) :
    n.StopsAt (rest ++ more) := by
  cases rest with
  | nil => exact h.of_ends hends
  | cons c rest =>
    refine ⟨h.formed, h.digit, fun hn => ?_⟩
    rintro ⟨b, d, after, heq, hb, hd⟩
    obtain ⟨rfl, htail⟩ := List.cons.inj heq
    cases rest with
    | nil =>
      -- The digit that a point or a cross would need is the first character behind the seam.
      have hplain := hends.isDigit d (by rw [show more = d :: after from htail]; rfl)
      rw [hd] at hplain
      cases hplain
    | cons e rest =>
      obtain ⟨rfl, -⟩ := List.cons.inj htail
      exact h.integer hn ⟨c, e, rest, rfl, hb, hd⟩

/-- A lexeme stays one when more follows behind what follows it. -/
theorem Lexeme.append {form : Form} {lexeme rest more : List Char} (h : Lexeme form lexeme rest)
    (hends : Ends more) : Lexeme form lexeme (rest ++ more) := by
  have hword := meetsWord_append hends rest
  cases h with
  | string hq hbody => exact .string hq hbody
  | numeral hwhole hstops hmeets =>
    rw [← hword] at hmeets
    exact .numeral hwhole (hstops.append hends) hmeets
  | ledByDigit hwhole hstops hne hmore hrest =>
    have hstops := hstops.append hends
    rw [List.append_assoc] at hstops
    exact .ledByDigit hwhole hstops hne hmore (hword.trans hrest)
  | word hstart hmore hrest => exact .word hstart hmore (hword.trans hrest)
  | color hdigits hrest => exact .color hdigits (hword.trans hrest)
  | hash hmore hrest hcolor => exact .hash hmore (hword.trans hrest) hcolor
  | mark hquote hdigit hstart hhash hsign =>
    refine .mark hquote hdigit hstart hhash fun hc => ?_
    cases rest with
    | nil => exact hends.isDigit
    | cons d rest => exact hsign hc

end Token

namespace Statement
open Token

variable {s : Statement} {offset : Nat} {cs : List Char} {tokens : List Token}

/-! ### Complete scans -/

/-- The token of a lexeme at an offset. -/
def cut (s : Statement) (offset : Nat) (form : Form) (lexeme : List Char) : Token :=
  ⟨form, String.ofList lexeme, s.location offset, s.location (offset + lexeme.length)⟩

/-- The scan of characters from an offset on comes to their end, with these tokens. -/
inductive Scans (s : Statement) : Nat → List Char → List Token → Prop
  | nil {offset : Nat} : Scans s offset [] []
  | gap {offset : Nat} {c : Char} {cs : List Char} {tokens : List Token} : Text.isGap c = true →
      Scans s (offset + 1) cs tokens → Scans s offset (c :: cs) tokens
  | lexeme {offset : Nat} {form : Form} {c : Char} {cs rest : List Char} {tokens : List Token} :
      Text.isGap c = false → Lexeme form (c :: cs) rest → Scans s (offset + (c :: cs).length) rest tokens →
      Scans s offset (c :: cs ++ rest) (s.cut offset form (c :: cs) :: tokens)

theorem Scans.scanFrom_eq (h : s.Scans offset cs tokens) :
    s.scanFrom offset cs = (tokens, .complete (.endAt (s.location (offset + cs.length)))) := by
  induction h with
  | nil => rw [scanFrom, List.length_nil, Nat.add_zero]
  | gap hgap _ ih => rw [scanFrom, if_pos hgap, ih, List.length_cons, Nat.add_right_comm, Nat.add_assoc]
  | lexeme hgap hlexeme _ ih =>
    rw [scanFrom_lexeme s _ hgap hlexeme, ih, List.length_append, Nat.add_assoc]
    rfl

theorem scans_of_complete {last : Token} (h : (s.scanFrom offset cs).2 = .complete last) :
    s.Scans offset cs (s.scanFrom offset cs).1 := by
  fun_induction scanFrom s offset cs with
  | case1 => exact .nil
  | case2 _ _ _ hgap ih => exact .gap hgap (ih h)
  | case3 => cases h
  | case4 => cases h
  | case5 offset c rest hgap piece hpiece stop token tokens ending hscan ih =>
    rw [hscan] at ih
    obtain ⟨d, lexeme, hlexeme⟩ := List.exists_cons_of_ne_nil piece.ne_nil
    have hchars := piece.append_eq
    have hreads := lexeme_of_scanPiece hpiece
    have hrest := ih h
    simp only [stop, token, hlexeme] at hchars hreads hrest ⊢
    obtain ⟨rfl, -⟩ := List.cons.inj hchars
    have hscan := Scans.lexeme (by simpa using hgap) hreads hrest
    rwa [hchars] at hscan

theorem Scans.unique {tokens' : List Token} (h : s.Scans offset cs tokens) (h' : s.Scans offset cs tokens') :
    tokens = tokens' := congrArg Prod.fst (h.scanFrom_eq.symm.trans h'.scanFrom_eq)

theorem Scans.kind_ne (h : s.Scans offset cs tokens) : ∀ t ∈ tokens, t.kind ≠ .endOfStatement := by
  induction h with
  | nil => exact fun _ ht => nomatch ht
  | gap _ _ ih => exact ih
  | lexeme _ hlexeme _ ih =>
    intro t ht
    rcases List.mem_cons.mp ht with rfl | ht
    · exact hlexeme.kind_ne
    · exact ih t ht

/-! ### Putting scans together -/

/-- What is scanned behind the seam adds its tokens. -/
theorem Scans.append {more : List Char} {tokens' : List Token} (h : s.Scans offset cs tokens)
    (hmore : s.Scans (offset + cs.length) more tokens') (hends : Ends more) :
    s.Scans offset (cs ++ more) (tokens ++ tokens') := by
  induction h with
  | nil => exact hmore
  | gap hgap _ ih =>
    refine .gap hgap (ih ?_)
    rwa [List.length_cons, ← Nat.add_assoc, Nat.add_right_comm] at hmore
  | lexeme hgap hlexeme _ ih =>
    rw [List.append_assoc]
    refine .lexeme hgap (hlexeme.append hends) (ih ?_)
    rwa [List.length_append, ← Nat.add_assoc] at hmore

theorem Scans.gaps {gaps : List Char} (hgaps : ∀ c ∈ gaps, Text.isGap c = true)
    (h : s.Scans (offset + gaps.length) cs tokens) : s.Scans offset (gaps ++ cs) tokens := by
  induction gaps generalizing offset with
  | nil => exact h
  | cons c gaps ih =>
    refine .gap (hgaps c List.mem_cons_self) (ih (fun d hd => hgaps d (List.mem_cons_of_mem c hd)) ?_)
    rwa [List.length_cons, ← Nat.add_assoc, Nat.add_right_comm] at h

/-- The token as it stands in another statement, by so many characters later. -/
def place (s : Statement) (shift : Nat) (t : Token) : Token :=
  { t with span := ⟨s.location (shift + t.span.start.offset.toNat), s.location (shift + t.span.stop.offset.toNat)⟩ }

theorem kind_place (s : Statement) (shift : Nat) (t : Token) : (s.place shift t).kind = t.kind := rfl

/-- Characters are cut into the same tokens wherever they stand. -/
theorem Scans.place (h : s.Scans offset cs tokens) (s' : Statement) (shift : Nat) :
    s'.Scans (shift + offset) cs (tokens.map (s'.place shift)) := by
  induction h with
  | nil => exact .nil
  | gap hgap _ ih => exact .gap hgap ih
  | @lexeme offset form c cs rest tokens hgap hlexeme _ ih =>
    have hcut : s'.place shift (s.cut offset form (c :: cs)) = s'.cut (shift + offset) form (c :: cs) := by
      simp only [Statement.place, cut, location, Int.toNat_natCast, Nat.add_assoc]
    rw [List.map_cons, hcut]
    refine .lexeme hgap hlexeme ?_
    rwa [Nat.add_assoc]

/-! ### What the tokens cover -/

theorem Scans.exists_first {c : Char} (h : s.Scans offset (c :: cs) tokens) (hc : Text.isGap c = false) :
    ∃ t, tokens.head? = some t ∧ t.span.start = s.location offset := by
  cases h with
  | gap hgap _ =>
    rw [hc] at hgap
    cases hgap
  | lexeme => exact ⟨_, rfl, rfl⟩

theorem Scans.exists_last (h : s.Scans offset cs tokens) (hne : cs ≠ [])
    (hlast : ∀ c ∈ cs.getLast?, Text.isGap c = false) :
    ∃ t, tokens.getLast? = some t ∧ t.span.stop = s.location (offset + cs.length) := by
  induction h with
  | nil => exact absurd rfl hne
  | @gap offset c cs tokens hgap _ ih =>
    cases cs with
    | nil =>
      rw [hlast c rfl] at hgap
      cases hgap
    | cons d cs =>
      obtain ⟨t, ht, hstop⟩ := ih (List.cons_ne_nil d cs) hlast
      refine ⟨t, ht, ?_⟩
      rw [hstop, List.length_cons, List.length_cons, List.length_cons, Nat.add_right_comm, Nat.add_assoc]
  | @lexeme offset form c cs rest tokens hgap _ hrest ih =>
    cases rest with
    | nil =>
      cases hrest
      exact ⟨_, rfl, by rw [List.append_nil]; rfl⟩
    | cons d rest =>
      rw [List.getLast?_append_of_ne_nil _ (List.cons_ne_nil d rest)] at hlast
      obtain ⟨t, ht, hstop⟩ := ih (List.cons_ne_nil d rest) hlast
      have hlater : tokens ≠ [] := by
        rintro rfl
        cases ht
      refine ⟨t, ?_, ?_⟩
      · rw [← List.singleton_append, List.getLast?_append_of_ne_nil _ hlater, ht]
      · rw [hstop, List.length_append, Nat.add_assoc]

/-- From the first token to the last, a part of a statement between no gaps is covered as it is written. -/
theorem Scans.textOf {front back : List Char} (h : s.Scans front.length cs tokens)
    (htext : s.text.toList = front ++ (cs ++ back)) (hne : cs ≠ [])
    (hbegin : ∀ c ∈ cs.head?, Text.isGap c = false) (hend : ∀ c ∈ cs.getLast?, Text.isGap c = false) :
    Token.textOf s.text tokens = String.ofList cs := by
  obtain ⟨last, hlast, hstop⟩ := h.exists_last hne hend
  obtain ⟨c, cs', rfl⟩ := List.exists_cons_of_ne_nil hne
  obtain ⟨first, hfirst, hstart⟩ := h.exists_first (hbegin c rfl)
  have hsource : s.text.isEmpty = false := by
    refine Bool.eq_false_iff.mpr fun hempty => ?_
    rw [String.isEmpty_iff.mp hempty, String.toList_empty] at htext
    simp at htext
  have htext : s.text = String.ofList (front ++ (c :: cs') ++ back) := by
    rw [List.append_assoc, ← htext, String.ofList_toList]
  have hslice := @Text.slice_append front (c :: cs') back 0 _ (Nat.le_refl _)
  rw [← htext, Nat.add_zero] at hslice
  simp only [Token.textOf, hfirst, hlast, hsource, Bool.false_eq_true, ↓reduceIte, hstart, hstop, location,
    Int.toNat_natCast]
  rw [hslice, Text.slice, String.toList_ofList, List.drop_zero, List.take_length]

/-! ### Words and marks -/

theorem Scans.lone {form : Form} {lexeme : List Char} (hne : lexeme ≠ [])
    (hgap : ∀ c ∈ lexeme.head?, Text.isGap c = false) (h : Lexeme form lexeme []) :
    s.Scans offset lexeme [s.cut offset form lexeme] := by
  obtain ⟨c, cs, rfl⟩ := List.exists_cons_of_ne_nil hne
  have hscan : s.Scans offset (c :: cs ++ []) [s.cut offset form (c :: cs)] := .lexeme (hgap c rfl) h .nil
  rwa [List.append_nil] at hscan

theorem Scans.word {c : Char} {more : List Char} (hstart : Text.isWordStart c = true)
    (hmore : ∀ d ∈ more, Text.isWordChar d = true) :
    s.Scans offset (c :: more) [s.cut offset (.word (Text.upper (String.ofList (c :: more)))) (c :: more)] := by
  refine .lone (List.cons_ne_nil c more) ?_ (.word hstart hmore rfl)
  intro d hd
  cases hd
  exact isGap_of_isWordChar (Text.isWordChar_of_isWordStart hstart)

theorem Scans.word_space (c : Char) (more : List Char) (hstart : Text.isWordStart c = true)
    (hmore : more.all Text.isWordChar = true) (h : s.Scans (offset + (c :: more).length + 1) cs tokens) :
    s.Scans offset (c :: more ++ (' ' :: cs))
      (s.cut offset (.word (Text.upper (String.ofList (c :: more)))) (c :: more) :: tokens) :=
  (Scans.word hstart (List.all_eq_true.mp hmore)).append (.gap (by decide) h) (Breaks.space cs).ends

/-- The marks that a record is written with. -/
def marks : List Char := ['(', ')', ',', ':']

theorem mem_marks {c : Char} : c ∈ marks ↔ c = '(' ∨ c = ')' ∨ c = ',' ∨ c = ':' := by simp [marks]

theorem Scans.mark {c : Char} (hc : c ∈ marks) (h : s.Scans (offset + 1) cs tokens) :
    s.Scans offset (c :: cs) (s.cut offset (punctuation c) [c] :: tokens) := by
  have hplain : ¬(c = '"' ∨ c = '\'') ∧ Text.isDigit c = false ∧ Text.isWordStart c = false ∧ c ≠ '#' ∧ c ≠ '-' ∧
      Text.isGap c = false := by
    rcases mem_marks.mp hc with rfl | rfl | rfl | rfl <;> decide
  obtain ⟨hquote, hdigit, hstart, hhash, hsign, hgap⟩ := hplain
  exact .lexeme hgap (.mark hquote hdigit hstart hhash fun heq => absurd heq hsign) h

theorem ends_mark {c : Char} (hc : c ∈ marks) (cs : List Char) : Ends (c :: cs) := by
  intro d hd
  cases hd
  rcases mem_marks.mp hc with rfl | rfl | rfl | rfl <;> decide

end Statement
end SceneScript
