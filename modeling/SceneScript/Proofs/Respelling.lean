import SceneScript.Proofs.Lossless
import SceneScript.Proofs.Outcomes

/-!
Gaps carry no meaning. A lexeme that is taken in front of anything is taken in front of a gap too; so the
lexemes of a statement, written with single spaces between them, are read as the same tokens.
-/

namespace SceneScript

namespace Token
open Text

theorem Breaks.nil : Breaks [] := fun _ hc => by cases hc

theorem Breaks.space (cs : List Char) : Breaks (' ' :: cs) := by
  intro c hc
  cases hc
  decide

theorem isWordChar_of_isGap {c : Char} (h : isGap c = true) : isWordChar c = false := by
  have hc : c = ' ' ∨ c = '\t' := by simpa [isGap] using h
  rcases hc with rfl | rfl <;> decide

/-- Characters that no lexeme goes on with: neither a word nor a number takes the first of them. -/
def Ends (rest : List Char) : Prop := ∀ c ∈ rest.head?, isWordChar c = false ∧ c ≠ '.'

theorem Breaks.ends {rest : List Char} (h : Breaks rest) : Ends rest := by
  intro c hc
  have hgap := h c hc
  refine ⟨isWordChar_of_isGap hgap, ?_⟩
  rintro rfl
  revert hgap
  decide

section Ends
variable {rest : List Char} (h : Ends rest)
include h

theorem Ends.meetsWord : meetsWord rest = false := meetsWord_eq_false fun c hc => (h c hc).1

theorem Ends.isDigit : ∀ c ∈ rest.head?, isDigit c = false := by
  intro c hc
  refine Bool.eq_false_iff.mpr fun hd => ?_
  have hword := (h c hc).1
  rw [isWordChar_of_isDigit hd] at hword
  cases hword

theorem Ends.not_goesOn : ¬GoesOn rest := by
  rintro ⟨c, d, more, rfl, hc, -⟩
  obtain ⟨hword, hpoint⟩ := h c rfl
  rcases hc with rfl | rfl | rfl
  · exact hpoint rfl
  · revert hword
    decide
  · revert hword
    decide

end Ends

theorem Numeral.StopsAt.of_ends {n : Numeral} {rest rest' : List Char} (h : n.StopsAt rest) (hends : Ends rest') :
    n.StopsAt rest' := ⟨h.formed, hends.isDigit, fun _ => hends.not_goesOn⟩

theorem head?_append_of_ne_nil {more rest rest' : List Char} (hne : more ≠ []) :
    (more ++ rest).head? = (more ++ rest').head? := by
  cases more with
  | nil => exact absurd rfl hne
  | cons c more => rfl

theorem Numeral.StopsAt.of_ends_word {n : Numeral} {more rest rest' : List Char} (h : n.StopsAt (more ++ rest))
    (hne : more ≠ []) (hends : Ends rest') : n.StopsAt (more ++ rest') := by
  refine ⟨h.formed, ?_, fun hn => ?_⟩
  · rw [head?_append_of_ne_nil hne]
    exact h.digit
  · rintro ⟨c, d, after, heq, hc, hd⟩
    cases more with
    | nil => exact hne rfl
    | cons b more =>
      obtain ⟨rfl, htail⟩ := List.cons.inj heq
      cases more with
      | nil =>
        have hrest' : rest' = d :: after := htail
        have hplain := hends.isDigit d (by rw [hrest']; rfl)
        rw [hd] at hplain
        cases hplain
      | cons e more =>
        obtain ⟨rfl, -⟩ := List.cons.inj htail
        exact h.integer hn ⟨b, e, more ++ rest, rfl, hc, hd⟩

/-- A lexeme can be followed by what no lexeme goes on with, whatever follows it elsewhere. -/
theorem Lexeme.of_ends {form : Form} {lexeme rest rest' : List Char} (h : Lexeme form lexeme rest)
    (hends : Ends rest') : Lexeme form lexeme rest' := by
  cases h with
  | string hq hbody => exact .string hq hbody
  | numeral hwhole hstops _ =>
    refine .numeral hwhole (hstops.of_ends hends) fun hword => ?_
    rw [hends.meetsWord] at hword
    cases hword
  | ledByDigit hwhole hstops hne hmore _ =>
    exact .ledByDigit hwhole (hstops.of_ends_word hne hends) hne hmore hends.meetsWord
  | word hstart hmore _ => exact .word hstart hmore hends.meetsWord
  | color hdigits _ => exact .color hdigits hends.meetsWord
  | hash hmore _ hcolor => exact .hash hmore hends.meetsWord hcolor
  | mark hquote hdigit hstart hhash _ => exact .mark hquote hdigit hstart hhash fun _ => hends.isDigit

/-- What a token says apart from its place. -/
def gist (t : Token) : Form × String := (t.form, t.lexeme)

/-- The tokens but for the closing one. -/
def inner (tokens : List Token) : List Token := tokens.filter fun t => t.kind ≠ .endOfStatement

theorem inner_append_endAt {tokens : List Token} (h : ∀ t ∈ tokens, t.kind ≠ .endOfStatement) (l : Location) :
    inner (tokens ++ [.endAt l]) = tokens := by
  have hself : inner tokens = tokens := List.filter_eq_self.mpr fun t ht => by simpa using h t ht
  have hlast : inner [.endAt l] = [] := by simp [inner, endAt, kind, Form.kind]
  calc inner (tokens ++ [.endAt l])
    _ = inner tokens ++ inner [.endAt l] := by unfold inner; exact List.filter_append ..
    _ = tokens := by rw [hself, hlast, List.append_nil]

/-- The token has the form that its lexeme is read in. -/
def Readable (t : Token) : Prop :=
  ∃ c cs rest, t.lexeme = String.ofList (c :: cs) ∧ isGap c = false ∧ Lexeme t.form (c :: cs) rest

theorem Readable.kind_ne {t : Token} (h : Readable t) : t.kind ≠ .endOfStatement := by
  obtain ⟨_, _, _, -, -, hlexeme⟩ := h
  exact hlexeme.kind_ne

/-- Lexemes with a space between each two. -/
def spaced (tokens : List Token) : List Char := [' '].intercalate (tokens.map (·.lexeme.toList))

theorem toList_intercalate_lexeme (tokens : List Token) :
    (" ".intercalate (tokens.map (·.lexeme))).toList = spaced tokens := by
  rw [String.toList_intercalate, List.map_map]
  rfl

end Token

namespace Statement
open Token

variable {s : Statement}

theorem scanFrom_space (offset : Nat) (rest : List Char) :
    s.scanFrom offset (' ' :: rest) = s.scanFrom (offset + 1) rest := by
  rw [scanFrom, if_pos (by decide)]

theorem readable_scanFrom (s : Statement) (offset : Nat) (cs : List Char) :
    ∀ t ∈ (s.scanFrom offset cs).1, Readable t := by
  fun_induction scanFrom s offset cs with
  | case1 => simp
  | case2 _ _ _ _ ih => exact ih
  | case3 => simp
  | case4 => simp
  | case5 offset c rest hgap piece hpiece stop token tokens ending hscan ih =>
    rw [hscan] at ih
    intro t ht
    rcases List.mem_cons.mp ht with rfl | ht
    · obtain ⟨d, lexeme, hlexeme⟩ := List.exists_cons_of_ne_nil piece.ne_nil
      have hfirst := piece.append_eq
      rw [hlexeme] at hfirst
      obtain ⟨rfl, -⟩ := List.cons.inj hfirst
      have hpiece := lexeme_of_scanPiece hpiece
      refine ⟨d, lexeme, piece.rest, ?_, by simpa using hgap, ?_⟩
      · rw [← hlexeme]
      · rwa [← hlexeme]
    · exact ih t ht

/-- Readable tokens are read back from their lexemes with spaces between them. -/
theorem scanFrom_spaced (offset : Nat) {tokens : List Token} (h : ∀ t ∈ tokens, Readable t) :
    (s.scanFrom offset (spaced tokens)).1.map gist = tokens.map gist ∧
      ∃ last, (s.scanFrom offset (spaced tokens)).2 = .complete last := by
  induction tokens generalizing offset with
  | nil =>
    have hnil : s.scanFrom offset [] = ([], .complete (.endAt (s.location offset))) := by rw [scanFrom]
    refine ⟨?_, .endAt (s.location offset), ?_⟩
    · exact congrArg (fun p => p.1.map gist) hnil
    · exact congrArg Prod.snd hnil
  | cons t tokens ih =>
    obtain ⟨c, cs, _, hlexeme, hgap, hreads⟩ := h t List.mem_cons_self
    have hchars : t.lexeme.toList = c :: cs := by rw [hlexeme, String.toList_ofList]
    have hrest := fun offset => ih offset fun u hu => h u (List.mem_cons_of_mem t hu)
    -- What follows the first lexeme is a space and the other lexemes, or nothing.
    have hafter : ∃ rest, spaced (t :: tokens) = c :: (cs ++ rest) ∧ Breaks rest ∧
        ∀ offset, (s.scanFrom offset rest).1.map gist = tokens.map gist ∧
          ∃ last, (s.scanFrom offset rest).2 = .complete last := by
      cases tokens with
      | nil =>
        refine ⟨[], ?_, Breaks.nil, hrest⟩
        simp [spaced, hchars]
      | cons u tokens =>
        refine ⟨' ' :: spaced (u :: tokens), ?_, Breaks.space _, fun offset => ?_⟩
        · simp [spaced, hchars, List.intercalate_cons_cons]
        · rw [scanFrom_space]
          exact hrest (offset + 1)
    obtain ⟨rest, hspaced, hbreaks, hscan⟩ := hafter
    have hfirst := scanFrom_lexeme s offset hgap (hreads.of_ends hbreaks.ends)
    obtain ⟨hgists, hcomplete⟩ := hscan (offset + (c :: cs).length)
    rw [hspaced, ← List.cons_append, hfirst]
    refine ⟨?_, hcomplete⟩
    rw [List.map_cons, List.map_cons, hgists, gist, gist, hlexeme]

theorem tokens_spaced {tokens : List Token} {text : String} (h : ∀ t ∈ tokens, Readable t)
    (htext : text.toList = spaced tokens) (line column : Int) (filename : Option String) :
    ∃ found last, (Statement.mk line text column filename).tokens = .ok (found ++ [last]) ∧
      found.map gist = tokens.map gist ∧ last.gist = (.endOfStatement, "") := by
  obtain ⟨hgists, last, hlast⟩ := scanFrom_spaced (s := ⟨line, text, column, filename⟩) 0 h
  rw [← htext] at hgists hlast
  have hends := (scan_laidOut ⟨line, text, column, filename⟩).2.complete last hlast
  refine ⟨_, last, ?_, hgists, by rw [hends]; rfl⟩
  unfold Statement.tokens
  split
  · rename_i found last' hscan
    rw [scan] at hscan
    rw [hscan] at hlast ⊢
    cases hlast
    rfl
  · rename_i hscan
    rw [scan] at hscan
    rw [hscan] at hlast
    cases hlast
  · rename_i hscan
    rw [scan] at hscan
    rw [hscan] at hlast
    cases hlast

/-- Gaps carry no meaning. The lexemes of a statement, with single spaces between them, are read as the same
    tokens, wherever they stand; and each lexeme by itself is read as its one token. -/
theorem tokens_respelled (s : Statement) (tokens : List Token) (h : s.tokens = .ok tokens)
    (line column : Int) (filename : Option String) :
    (∃ tokens', (Statement.mk line (" ".intercalate ((inner tokens).map (·.lexeme))) column filename).tokens =
        .ok tokens' ∧ tokens'.map gist = tokens.map gist) ∧
      ∀ t ∈ inner tokens, ∃ t' last, (Statement.mk line t.lexeme column filename).tokens = .ok [t', last] ∧
        t'.gist = t.gist ∧ last.gist = (.endOfStatement, "") := by
  obtain ⟨rfl, -⟩ := tokens_eq_ok h
  have hreadable : ∀ t ∈ s.scan.1, Readable t := readable_scanFrom s 0 s.text.toList
  rw [inner_append_endAt fun t ht => (hreadable t ht).kind_ne]
  constructor
  · obtain ⟨found, last, hfound, hgists, hlast⟩ :=
      tokens_spaced hreadable (toList_intercalate_lexeme s.scan.1) line column filename
    refine ⟨_, hfound, ?_⟩
    rw [List.map_append, List.map_append, hgists, List.map_singleton, List.map_singleton, hlast]
    rfl
  · intro t ht
    have htext : t.lexeme.toList = spaced [t] := by simp [spaced]
    have hlone : ∀ u ∈ [t], Readable u := by
      intro u hu
      rw [List.mem_singleton.mp hu]
      exact hreadable t ht
    obtain ⟨found, last, hfound, hgists, hlast⟩ := tokens_spaced hlone htext line column filename
    cases found with
    | nil => cases hgists
    | cons t' more =>
      obtain ⟨hgist, hnil⟩ := List.cons.inj hgists
      obtain rfl : more = [] := List.map_eq_nil_iff.mp hnil
      exact ⟨t', last, hfound, hgist, hlast⟩

/-- A word led by digits, a signed number that runs into a word, and a string with gaps in it. -/
theorem tokens_respelled_led :
    let s : Statement := { line := 1, text := "AT(5x10z,-2.5kg)\t'a  b'" }
    ∃ tokens, s.tokens = .ok tokens ∧
      (inner tokens).map (·.lexeme) = ["AT", "(", "5x10z", ",", "-2.5", "kg", ")", "'a  b'"] ∧
      ∃ tokens', (Statement.mk 2 "AT ( 5x10z , -2.5 kg ) 'a  b'" 7 none).tokens = .ok tokens' ∧
        tokens'.map gist = tokens.map gist := by
  intro s
  have hok : s.tokens.toOption.isSome = true := by decide +kernel
  have hlexemes : s.tokens.toOption.map (fun tokens => (inner tokens).map (·.lexeme)) =
      some ["AT", "(", "5x10z", ",", "-2.5", "kg", ")", "'a  b'"] := by decide +kernel
  obtain ⟨tokens, htokens⟩ := toOption_isSome.mp hok
  rw [htokens] at hlexemes
  have hlexemes : (inner tokens).map (·.lexeme) = ["AT", "(", "5x10z", ",", "-2.5", "kg", ")", "'a  b'"] :=
    Option.some.inj hlexemes
  obtain ⟨⟨tokens', htokens', hgists⟩, -⟩ := tokens_respelled s tokens htokens 2 7 none
  rw [hlexemes] at htokens'
  exact ⟨tokens, htokens, hlexemes, tokens', htokens', hgists⟩

end Statement
end SceneScript
