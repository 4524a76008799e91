import SceneScript.Proofs.Blur.Tokens
import SceneScript.Proofs.Lexemes

/-!
Scans under a blur. The letters of strings are told apart, so a scan sees the blur of the characters
outside strings only: with these blurred it takes the same forms at the same offsets.
-/

namespace SceneScript

/-- The characters with those outside strings under `letter`. A string that is never closed is none: a scan stops
    at its quote. -/
def Token.outsideStrings (letter : Char → Char) : List Char → List Char
  | [] => []
  | c :: cs =>
    if c = '"' || c = '\'' then
      if c ∈ cs then
        c :: (cs.takeWhile (· != c) ++ c :: outsideStrings letter (cs.dropWhile (· != c)).tail)
      else (c :: cs).map letter
    else letter c :: outsideStrings letter cs
termination_by cs => cs.length
decreasing_by
  · have hle := (List.dropWhile_sublist (· != c) (l := cs)).length_le
    simp only [List.length_tail, List.length_cons]
    omega
  · simp

namespace Token
open Text

variable {letter : Char → Char}

theorem outsideStrings_nil : outsideStrings letter [] = [] := by rw [outsideStrings]

theorem outsideStrings_plain {c : Char} {cs : List Char} (hc : ¬IsQuote c) :
    outsideStrings letter (c :: cs) = letter c :: outsideStrings letter cs := by
  have hquote : ¬(decide (c = '"') || decide (c = '\'')) = true := by simpa [IsQuote] using hc
  rw [outsideStrings, if_neg hquote]

theorem outsideStrings_quoted {q : Char} {body rest : List Char} (hq : IsQuote q) (hbody : q ∉ body) :
    outsideStrings letter (q :: (body ++ q :: rest)) = q :: (body ++ q :: outsideStrings letter rest) := by
  have hquote : (decide (q = '"') || decide (q = '\'')) = true := by simpa [IsQuote] using hq
  obtain ⟨htake, hdrop⟩ := cut_at_mark rest hbody
  rw [outsideStrings, if_pos hquote, if_pos (List.mem_append_right body List.mem_cons_self), htake, hdrop,
    List.tail_cons]

theorem outsideStrings_open {q : Char} {rest : List Char} (hq : IsQuote q) (hrest : q ∉ rest) :
    outsideStrings letter (q :: rest) = (q :: rest).map letter := by
  have hquote : (decide (q = '"') || decide (q = '\'')) = true := by simpa [IsQuote] using hq
  rw [outsideStrings, if_pos hquote, if_neg hrest]

theorem outsideStrings_append {cs rest : List Char} (h : ∀ c ∈ cs, ¬IsQuote c) :
    outsideStrings letter (cs ++ rest) = cs.map letter ++ outsideStrings letter rest := by
  induction cs with
  | nil => rfl
  | cons c cs ih =>
    have hrest := ih fun d hd => h d (List.mem_cons_of_mem c hd)
    rw [List.cons_append, outsideStrings_plain (h c List.mem_cons_self), hrest]
    rfl

theorem outsideStrings_append_right (cs : List Char) {after : List Char} (hafter : ∀ c ∈ after, ¬IsQuote c) :
    outsideStrings letter (cs ++ after) = outsideStrings letter cs ++ after.map letter := by
  have hnotMem : ∀ {q : Char}, IsQuote q → q ∉ after := fun hq hmem => hafter _ hmem hq
  fun_induction outsideStrings letter cs with
  | case1 =>
    have hplain : outsideStrings letter (after ++ []) = after.map letter ++ outsideStrings letter [] :=
      outsideStrings_append hafter
    simpa [outsideStrings_nil] using hplain
  | case2 c cs hquote hmem ih =>
    have hc : IsQuote c := by simpa [IsQuote] using hquote
    obtain ⟨body, rest, rfl, hbody⟩ := List.eq_append_cons_of_mem hmem
    obtain ⟨htake, hdrop⟩ := cut_at_mark rest hbody
    rw [hdrop, List.tail_cons] at ih
    have hquoted : outsideStrings letter (c :: (body ++ c :: (rest ++ after))) = _ := outsideStrings_quoted hc hbody
    rw [List.cons_append, List.append_assoc, List.cons_append, hquoted, ih, htake, hdrop, List.tail_cons]
    simp only [List.cons_append, List.append_assoc]
  | case3 c cs hquote hmem =>
    have hc : IsQuote c := by simpa [IsQuote] using hquote
    have hopen : c ∉ cs ++ after := by
      intro h
      rcases List.mem_append.mp h with h | h
      · exact hmem h
      · exact hnotMem hc h
    rw [List.cons_append, outsideStrings_open hc hopen, ← List.cons_append, List.map_append]
  | case4 c cs hquote ih =>
    have hc : ¬IsQuote c := by simpa [IsQuote] using hquote
    rw [List.cons_append, outsideStrings_plain hc, ih, List.cons_append]

end Token

namespace Blur
open Text Token

variable (b : Blur)

/-- The characters as a scan sees them. -/
def outside (cs : List Char) : List Char := outsideStrings b.letter cs

theorem letter_of_isQuote {q : Char} (hq : IsQuote q) : b.letter q = q := by
  rcases hq with rfl | rfl
  · exact b.letter_mark rfl
  · exact b.letter_mark rfl

/-- A scan looks at the next character for its class alone. -/
theorem head?_outside (cs : List Char) : (b.outside cs).head? = cs.head?.map b.letter := by
  cases cs with
  | nil => rw [outside, outsideStrings_nil]; rfl
  | cons c cs =>
    by_cases hc : IsQuote c
    · by_cases hclosed : c ∈ cs
      · obtain ⟨body, rest, rfl, hbody⟩ := List.eq_append_cons_of_mem hclosed
        rw [outside, outsideStrings_quoted hc hbody, List.head?_cons, List.head?_cons, Option.map_some,
          b.letter_of_isQuote hc]
      · rw [outside, outsideStrings_open hc hclosed]
        rfl
    · rw [outside, outsideStrings_plain hc]
      rfl

theorem not_isQuote_letter {c : Char} (h : ¬IsQuote c) : ¬IsQuote (b.letter c) := by
  rintro (hc | hc)
  · exact h (Or.inl ((b.letter_eq_mark rfl c).mp hc))
  · exact h (Or.inr ((b.letter_eq_mark rfl c).mp hc))

/-- The characters of strings are as they would be seen, or told apart from that. -/
theorem map_outside (cs : List Char) : (b.outside cs).map b.letter = cs.map b.letter := by
  have htwice : ∀ cs : List Char, (cs.map b.letter).map b.letter = cs.map b.letter := by
    intro cs
    rw [List.map_map]
    exact List.map_congr_left fun c _ => b.letter_letter c
  unfold outside
  fun_induction outsideStrings b.letter cs with
  | case1 => rfl
  | case2 c cs _ hmem ih =>
    have hparts : cs.takeWhile (· != c) ++ c :: (cs.dropWhile (· != c)).tail = cs := by
      obtain ⟨body, rest, rfl, hbody⟩ := List.eq_append_cons_of_mem hmem
      obtain ⟨htake, hdrop⟩ := cut_at_mark rest hbody
      rw [htake, hdrop, List.tail_cons]
    rw [List.map_cons, List.map_append, List.map_cons, ih, ← List.map_cons, ← List.map_append, hparts, ← List.map_cons]
  | case3 c cs _ _ => exact htwice (c :: cs)
  | case4 c cs _ ih => rw [List.map_cons, List.map_cons, ih, letter_letter]

theorem head_outside {p : Char → Bool} (hp : ∀ c, p (b.letter c) = p c) {cs : List Char}
    (h : ∀ c ∈ cs.head?, p c = false) : ∀ c ∈ (b.outside cs).head?, p c = false := by
  intro c hc
  rw [head?_outside] at hc
  obtain ⟨d, hd, rfl⟩ := Option.map_eq_some_iff.mp hc
  rw [hp]
  exact h d hd

theorem meetsWord_outside (cs : List Char) : meetsWord (b.outside cs) = meetsWord cs := by
  have hhead := b.head?_outside cs
  cases cs with
  | nil => rw [outside, outsideStrings_nil]
  | cons c cs =>
    cases hseen : b.outside (c :: cs) with
    | nil =>
      rw [hseen] at hhead
      cases hhead
    | cons d ds =>
      rw [hseen] at hhead
      cases hhead
      exact b.isWordChar_letter c

theorem goesOn_of_outside {cs : List Char} (h : GoesOn (b.outside cs)) : GoesOn cs := by
  obtain ⟨c, d, rest, heq, hc, hd⟩ := h
  have hmarks : ∀ c : Char, decide (b.letter c = '.' ∨ b.letter c = 'x' ∨ b.letter c = 'X') =
      decide (c = '.' ∨ c = 'x' ∨ c = 'X') :=
    b.letter_invariant (fun c => decide (c = '.' ∨ c = 'x' ∨ c = 'X')) (by decide)
  cases cs with
  | nil =>
    rw [outside, outsideStrings_nil] at heq
    cases heq
  | cons c' cs =>
    have hfirst := b.head?_outside (c' :: cs)
    rw [heq] at hfirst
    have hfirst : c = b.letter c' := Option.some.inj hfirst
    have hc' : c' = '.' ∨ c' = 'x' ∨ c' = 'X' := by
      have hsame := hmarks c'
      rw [← hfirst, decide_eq_true hc] at hsame
      exact of_decide_eq_true hsame.symm
    have hplain : ¬IsQuote c' := by
      rintro (rfl | rfl) <;> simp at hc'
    rw [outside, outsideStrings_plain hplain] at heq
    obtain ⟨-, hrest⟩ := List.cons.inj heq
    have hsecond := b.head?_outside cs
    rw [outside, hrest] at hsecond
    cases cs with
    | nil => cases hsecond
    | cons d' cs =>
      have hsecond : d = b.letter d' := Option.some.inj hsecond
      rw [hsecond, isDigit_letter] at hd
      exact ⟨c', d', cs, rfl, hc', hd⟩

/-! ### Numerals -/

theorem map_digits {cs : List Char} (h : ∀ c ∈ cs, isDigit c = true) : cs.map b.letter = cs :=
  (List.map_congr_left fun c hc => b.letter_of_isDigit (h c hc)).trans (List.map_id cs)

/-- What follows the digits as it is seen: the cross is a letter. -/
def numeral : Numeral → Numeral
  | .crossed cross height => .crossed (b.letter cross) height
  | n => n

theorem chars_numeral {n : Numeral} (h : n.Formed) : (b.numeral n).chars = n.chars.map b.letter := by
  cases n with
  | integer => rfl
  | decimal fraction =>
    have hdigits := b.map_digits (And.right h)
    simp [numeral, Numeral.chars, hdigits, b.letter_mark (d := '.') rfl]
  | crossed cross height =>
    have hdigits := b.map_digits h.2.2
    simp [numeral, Numeral.chars, hdigits]

theorem form_numeral (n : Numeral) (negative : Bool) (whole : List Char) :
    (b.numeral n).form negative whole = n.form negative whole := by cases n <;> rfl

theorem stopsAt_outside {n : Numeral} {rest : List Char} (h : n.StopsAt rest) :
    (b.numeral n).StopsAt (b.outside rest) := by
  refine ⟨?_, b.head_outside b.isDigit_letter h.digit, ?_⟩
  · have hformed := h.formed
    cases n with
    | integer => trivial
    | decimal fraction => exact hformed
    | crossed cross height =>
      refine ⟨?_, hformed.2⟩
      have hcross := b.letter_invariant (fun c => decide (c = 'x' ∨ c = 'X')) (by decide) cross
      rw [decide_eq_true hformed.1] at hcross
      exact of_decide_eq_true hcross
  · intro hn hgoes
    cases n with
    | integer => exact h.integer rfl (b.goesOn_of_outside hgoes)
    | decimal fraction => cases hn
    | crossed cross height => cases hn

/-! ### Lexemes -/

theorem colorDigits_map {cs : List Char} : ColorDigits (cs.map b.letter) ↔ ColorDigits cs := by
  simp [ColorDigits]

theorem map_signOf (negative : Bool) : (signOf negative).map b.letter = signOf negative := by
  have hminus : b.letter '-' = '-' := b.letter_mark rfl
  cases negative <;> simp [signOf, hminus]

theorem upper_map (cs : List Char) : upper (String.ofList (cs.map b.letter)) = upper (String.ofList cs) := by
  rw [← text_ofList, upper_text]

theorem punctuation_letter (c : Char) : punctuation (b.letter c) = punctuation c := by
  simp only [punctuation, b.letter_eq_mark (d := '(') rfl, b.letter_eq_mark (d := ')') rfl,
    b.letter_eq_mark (d := ',') rfl, b.letter_eq_mark (d := ':') rfl]

/-- A lexeme of the blurred characters, in front of the blurred rest. -/
def Seen (form : Form) (lexeme rest : List Char) : Prop :=
  ∃ lexeme', Lexeme form lexeme' (b.outside rest) ∧ b.outside (lexeme ++ rest) = lexeme' ++ b.outside rest ∧
    lexeme'.map b.letter = lexeme.map b.letter

variable {b}

/-- A lexeme without quotes is seen letter by letter. -/
theorem Seen.plain {form : Form} {lexeme rest : List Char} (hplain : ∀ c ∈ lexeme, ¬IsQuote c)
    (h : Lexeme form (lexeme.map b.letter) (b.outside rest)) : b.Seen form lexeme rest := by
  refine ⟨_, h, outsideStrings_append hplain, ?_⟩
  rw [List.map_map]
  exact List.map_congr_left fun c _ => b.letter_letter c

theorem inner_chars {n : Numeral} (h : n.Formed) : ∀ c ∈ n.chars, isWordChar c = true ∨ c = '.' := by
  intro c hc
  cases n with
  | integer => cases hc
  | decimal fraction =>
    rcases List.mem_cons.mp hc with rfl | hc
    · exact Or.inr rfl
    · exact Or.inl (isWordChar_of_isDigit (And.right h c hc))
  | crossed cross height =>
    rcases List.mem_cons.mp hc with rfl | hc
    · rcases h.1 with rfl | rfl <;> exact Or.inl (by decide)
    · exact Or.inl (isWordChar_of_isDigit (h.2.2 c hc))

theorem not_isQuote_numeral {n : Numeral} {whole : List Char} (hwhole : Digits whole) (h : n.Formed) :
    ∀ c ∈ whole ++ n.chars, ¬IsQuote c := by
  intro c hc
  rcases List.mem_append.mp hc with hc | hc
  · exact not_isQuote_of_isWordChar (isWordChar_of_isDigit (hwhole.2 c hc))
  · exact not_isQuote_of_inner (inner_chars h c hc)

theorem isWordChar_map {cs : List Char} (h : ∀ c ∈ cs, isWordChar c = true) :
    ∀ c ∈ cs.map b.letter, isWordChar c = true := by
  intro c hc
  obtain ⟨d, hd, rfl⟩ := List.mem_map.mp hc
  rw [isWordChar_letter]
  exact h d hd

/-- Every lexeme is seen as a lexeme of the same form. -/
theorem seen_of_lexeme {form : Form} {lexeme rest : List Char} (h : Lexeme form lexeme rest) :
    b.Seen form lexeme rest := by
  have hmeets := b.meetsWord_outside rest
  cases h with
  | @string q body _ hq hbody =>
    refine ⟨_, .string hq hbody, ?_, rfl⟩
    have hquoted : b.outside (q :: (body ++ q :: rest)) = q :: (body ++ q :: b.outside rest) :=
      outsideStrings_quoted hq hbody
    simpa [outside] using hquoted
  | @numeral negative whole _ n hwhole hstops hword =>
    have hplain : ∀ c ∈ signOf negative ++ whole ++ n.chars, ¬IsQuote c := by
      intro c hc
      rw [List.append_assoc] at hc
      rcases List.mem_append.mp hc with hc | hc
      · cases negative with
        | false => cases hc
        | true =>
          cases List.mem_singleton.mp hc
          rintro (hc | hc) <;> cases hc
      · exact not_isQuote_numeral hwhole hstops.formed c hc
    refine .plain hplain ?_
    rw [List.map_append, List.map_append, map_signOf, b.map_digits hwhole.2, ← b.chars_numeral hstops.formed,
      ← b.form_numeral n]
    refine .numeral hwhole (b.stopsAt_outside hstops) fun hm => ?_
    obtain ⟨hnegative, hcrossed⟩ := hword (hmeets ▸ hm)
    refine ⟨hnegative, ?_⟩
    rintro ⟨cross, height, heq⟩
    cases n with
    | crossed cross' height' => exact hcrossed ⟨cross', height', rfl⟩
    | _ => cases heq
  | @ledByDigit whole more _ n hwhole hstops hne hmore hrest =>
    have hmorePlain : ∀ c ∈ more, ¬IsQuote c := fun c hc => not_isQuote_of_isWordChar (hmore c hc)
    have hplain : ∀ c ∈ whole ++ n.chars ++ more, ¬IsQuote c := by
      intro c hc
      rcases List.mem_append.mp hc with hc | hc
      · exact not_isQuote_numeral hwhole hstops.formed c hc
      · exact hmorePlain c hc
    -- The numeral stops in front of the word that goes on, so its stop is that of the word as it is seen.
    have hstops' := b.stopsAt_outside hstops
    rw [outside, outsideStrings_append hmorePlain] at hstops'
    refine .plain hplain ?_
    rw [← b.upper_map, List.map_append, List.map_append, b.map_digits hwhole.2, ← b.chars_numeral hstops.formed]
    exact .ledByDigit hwhole hstops' (by simpa using hne) (isWordChar_map hmore) (hmeets.trans hrest)
  | @word c more _ hstart hmore hrest =>
    have hplain : ∀ d ∈ c :: more, ¬IsQuote d := by
      intro d hd
      rcases List.mem_cons.mp hd with rfl | hd
      · exact not_isQuote_of_isWordChar (isWordChar_of_isWordStart hstart)
      · exact not_isQuote_of_isWordChar (hmore d hd)
    refine .plain hplain ?_
    rw [← b.upper_map]
    exact .word ((b.isWordStart_letter c).trans hstart) (isWordChar_map hmore) (hmeets.trans hrest)
  | @color digits _ hdigits hrest =>
    have hplain : ∀ d ∈ '#' :: digits, ¬IsQuote d := by
      intro d hd
      rcases List.mem_cons.mp hd with rfl | hd
      · rintro (hc | hc) <;> cases hc
      · exact not_isQuote_of_isWordChar (isWordChar_of_isHexDigit (hdigits.1 d hd))
    refine .plain hplain ?_
    rw [List.map_cons, b.letter_mark rfl]
    exact .color (b.colorDigits_map.mpr hdigits) (hmeets.trans hrest)
  | @hash more _ hmore hrest hcolor =>
    have hplain : ∀ d ∈ '#' :: more, ¬IsQuote d := by
      intro d hd
      rcases List.mem_cons.mp hd with rfl | hd
      · rintro (hc | hc) <;> cases hc
      · exact not_isQuote_of_isWordChar (hmore d hd)
    refine .plain hplain ?_
    rw [List.map_cons, b.letter_mark rfl]
    exact .hash (isWordChar_map hmore) (hmeets.trans hrest) fun hc => hcolor (b.colorDigits_map.mp hc)
  | @mark c _ hquote hdigit hstart hhash hsign =>
    refine .plain (fun d hd => by rwa [List.mem_singleton.mp hd]) ?_
    rw [List.map_singleton, ← b.punctuation_letter c]
    refine .mark (b.not_isQuote_letter hquote) ((b.isDigit_letter c).trans hdigit)
      ((b.isWordStart_letter c).trans hstart) (fun hc => hhash ((b.letter_eq_mark rfl c).mp hc)) fun hc => ?_
    exact b.head_outside b.isDigit_letter (hsign ((b.letter_eq_mark rfl c).mp hc))

/-! ### Scans -/

variable (b)

/-- How a scan ends as it is seen. What stops it at a dimension is not looked into. -/
def ending : ScanEnd → ScanEnd
  | .complete last => .complete (b.token last)
  | .openString span => .openString (b.span span)
  | .badInteger _ => .badInteger ""

def scan (p : List Token × ScanEnd) : List Token × ScanEnd := (p.1.map b.token, b.ending p.2)

variable {b}

theorem runsOn_outside {cs : List Char} (h : RunsOn cs) : RunsOn (b.outside cs) := by
  obtain ⟨_, rfl, width, cross, height, next, rest, rfl, hwidth, hcross, hheight, hword, hdigit⟩ := h
  have hcrossWord : isWordChar cross = true := by rcases hcross with rfl | rfl <;> decide
  have hplain : ∀ c ∈ '-' :: (width ++ cross :: (height ++ [next])), ¬IsQuote c := by
    intro c hc
    simp only [List.mem_cons, List.mem_append, List.not_mem_nil, or_false] at hc
    rcases hc with rfl | hc | rfl | hc | rfl
    · rintro (hc | hc) <;> cases hc
    · exact not_isQuote_of_isWordChar (isWordChar_of_isDigit (hwidth.2 c hc))
    · exact not_isQuote_of_isWordChar hcrossWord
    · exact not_isQuote_of_isWordChar (isWordChar_of_isDigit (hheight.2 c hc))
    · exact not_isQuote_of_isWordChar hword
  have hseen : b.outside (_ ++ rest) = _ ++ b.outside rest := outsideStrings_append hplain
  have hchars : b.outside ('-' :: (width ++ cross :: (height ++ next :: rest))) =
      '-' :: (width ++ b.letter cross :: (height ++ b.letter next :: b.outside rest)) := by
    simpa [outside, b.map_digits hwidth.2, b.map_digits hheight.2, b.letter_mark (d := '-') rfl] using hseen
  have hcross' : decide (b.letter cross = 'x' ∨ b.letter cross = 'X') = decide (cross = 'x' ∨ cross = 'X') :=
    b.letter_invariant (fun c => decide (c = 'x' ∨ c = 'X')) (by decide) cross
  rw [decide_eq_true hcross] at hcross'
  exact ⟨_, hchars, width, b.letter cross, height, b.letter next, b.outside rest, rfl, hwidth,
    of_decide_eq_true hcross', hheight, (b.isWordChar_letter next).trans hword, (b.isDigit_letter next).trans hdigit⟩

theorem notMem_map_of_isQuote {q : Char} {cs : List Char} (hq : IsQuote q) (h : q ∉ cs) : q ∉ cs.map b.letter := by
  intro hmem
  obtain ⟨c, hc, heq⟩ := List.mem_map.mp hmem
  have hmark : q.isAlpha = false := by rcases hq with rfl | rfl <;> rfl
  rw [(b.letter_eq_mark hmark c).mp heq] at hc
  exact h hc

/-- The blurred characters of a statement are scanned as the characters of one that stands at the same
    places. -/
theorem scanFrom_outside {s s' : Statement} (hplaces : ∀ n, b.place (s.location n) = b.place (s'.location n))
    (offset : Nat) (cs : List Char) :
    b.scan (s.scanFrom offset (b.outside cs)) = b.scan (s'.scanFrom offset cs) := by
  fun_induction Statement.scanFrom s' offset cs with
  | case1 offset =>
    have hend : b.token (.endAt (s.location offset)) = b.token (.endAt (s'.location offset)) := by
      rw [token_endAt, token_endAt, hplaces]
    rw [outside, outsideStrings_nil, Statement.scanFrom]
    simp only [scan, ending, hend, List.map_nil]
  | case2 offset c rest hgap ih =>
    have hgap' : isGap (b.letter c) = true := (b.isGap_letter c).trans hgap
    rw [outside, outsideStrings_plain (not_isQuote_of_isGap hgap), Statement.scanFrom, if_pos hgap']
    exact ih
  | case3 offset c rest hgap herror =>
    rcases scanPiece_error herror with ⟨-, hquote, hrest⟩ | ⟨⟨_, heq⟩, -⟩
    · have hopen := scanPiece_open hquote (b.notMem_map_of_isQuote hquote hrest)
      have hlength : (c :: rest.map b.letter).length = (c :: rest).length := by simp
      rw [outside, outsideStrings_open hquote hrest, List.map_cons, b.letter_of_isQuote hquote, Statement.scanFrom,
        if_neg hgap, hopen]
      simp only [scan, Blur.ending, span, hplaces, hlength]
    · cases heq
  | case4 offset c rest hgap lexeme herror =>
    rcases scanPiece_error herror with ⟨heq, -, -⟩ | ⟨-, hruns⟩
    · cases heq
    · have hruns' := runsOn_outside (b := b) hruns
      obtain ⟨_, hcs, -⟩ := hruns
      obtain ⟨rfl, -⟩ := List.cons.inj hcs
      rw [outside, outsideStrings_plain (by rintro (hc | hc) <;> cases hc)] at hruns' ⊢
      obtain ⟨lexeme', hlexeme'⟩ := scanPiece_runsOn hruns'
      rw [Statement.scanFrom, if_neg (by simpa using hgap), hlexeme']
      rfl
  | case5 offset c rest hgap piece hpiece stop token tokens ending hscan ih =>
    -- The lexeme is seen with its length, so both scans go on at the same offset.
    obtain ⟨lexeme', hlexeme, hseen, hmap⟩ := seen_of_lexeme (b := b) (lexeme_of_scanPiece hpiece)
    have hlength : lexeme'.length = piece.lexeme.length := by
      have hlengths := congrArg List.length hmap
      simpa using hlengths
    obtain ⟨d, more, hfirst⟩ := List.exists_cons_of_ne_nil piece.ne_nil
    have hc : c = d := by
      have happend := piece.append_eq
      rw [hfirst] at happend
      exact (List.cons.inj happend).1.symm
    obtain ⟨c', more', rfl⟩ : ∃ c' more', lexeme' = c' :: more' := List.exists_cons_of_ne_nil fun hnil => by
      rw [hnil, hfirst] at hlength
      cases hlength
    have hgap' : isGap c' = false := by
      rw [hfirst] at hmap
      have hletter := (List.cons.inj hmap).1
      rw [← b.isGap_letter, hletter, b.isGap_letter, ← hc]
      simpa using hgap
    have htext : b.text (String.ofList (c' :: more')) = b.text (String.ofList piece.lexeme) := by
      rw [text_ofList, text_ofList, hmap]
    rw [← piece.append_eq, hseen, s.scanFrom_lexeme offset hgap' hlexeme, hlength]
    have hrest := ih
    rw [hscan] at hrest
    obtain ⟨htokens, hending⟩ := Prod.mk.inj hrest
    simp only [scan, List.map_cons, Prod.mk.injEq, List.cons.injEq]
    refine ⟨⟨?_, htokens⟩, hending⟩
    simp only [Blur.token, htext, span, hplaces, token, stop]

end Blur
end SceneScript
