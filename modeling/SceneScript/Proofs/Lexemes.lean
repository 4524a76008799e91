import SceneScript.Proofs.Scanning

/-!
The lexemes of the language, said without the scanner: what each is made of, and what may not follow it. A
scan takes exactly these, and no lexeme closes a statement.
-/

namespace SceneScript

namespace Text

theorem isWordStart_of_isDigit {c : Char} (h : isDigit c = true) : isWordStart c = false := by
  simp only [isDigit, Bool.and_eq_true, decide_eq_true_eq] at h
  obtain ⟨hge, hle⟩ := h
  rw [Char.le_def, UInt32.le_iff_toNat_le] at hge hle
  have h0 : 48 ≤ c.toNat := hge
  have h9 : c.toNat ≤ 57 := hle
  have hupper : c.isUpper = false := by
    refine decide_eq_false ?_
    rintro ⟨hu, -⟩
    rw [ge_iff_le, UInt32.le_iff_toNat_le] at hu
    have hu : 65 ≤ c.toNat := hu
    omega
  have hlower : c.isLower = false := by
    refine Bool.and_eq_false_iff.mpr (Or.inl (decide_eq_false ?_))
    intro hl
    rw [ge_iff_le, UInt32.le_iff_toNat_le] at hl
    have hl : 97 ≤ c.toNat := hl
    omega
  have halpha : c.isAlpha = false := Bool.or_eq_false_iff.mpr ⟨hupper, hlower⟩
  have hscore : c ≠ '_' := by
    rintro rfl
    exact absurd h9 (by decide)
  have hascii : c.toNat < 0x80 := by omega
  simp [isWordStart, isLetter, hascii, halpha, hscore]

end Text

namespace Token
open Text

/-- A point or a cross with a digit after it, by which a whole number would go on. -/
def GoesOn (cs : List Char) : Prop :=
  ∃ c d rest, cs = c :: d :: rest ∧ (c = '.' ∨ c = 'x' ∨ c = 'X') ∧ isDigit d = true

/-- What follows a whole number has its digits. -/
def Numeral.Formed : Numeral → Prop
  | .integer => True
  | .decimal fraction => Digits fraction
  | .crossed cross height => (cross = 'x' ∨ cross = 'X') ∧ Digits height

/-- The numeral ends where `rest` begins. -/
structure Numeral.StopsAt (n : Numeral) (rest : List Char) : Prop where
  formed : n.Formed
  digit : ∀ c ∈ rest.head?, isDigit c = false
  integer : n = .integer → ¬GoesOn rest

/-- The numeral is a dimension. -/
def Numeral.IsCrossed (n : Numeral) : Prop := ∃ cross height, n = .crossed cross height

/-- The sign of a numeral. -/
def signOf (negative : Bool) : List Char := if negative then ['-'] else []

/-- A color has three or six hexadecimal digits. -/
def ColorDigits (cs : List Char) : Prop := (∀ c ∈ cs, isHexDigit c = true) ∧ (cs.length = 3 ∨ cs.length = 6)

/-- Characters that a gap, or nothing, follows. -/
def Breaks (rest : List Char) : Prop := ∀ c ∈ rest.head?, isGap c = true

/-- A form, a lexeme of the form, and what can follow the lexeme. -/
inductive Lexeme : Form → List Char → List Char → Prop
  | string {q : Char} {body rest : List Char} : IsQuote q → q ∉ body →
      Lexeme (.string (String.ofList body)) (q :: (body ++ [q])) rest
  | numeral {negative : Bool} {whole rest : List Char} {n : Numeral} : Digits whole → n.StopsAt rest →
      (meetsWord rest = true → negative = true ∧ ¬n.IsCrossed) →
      Lexeme (n.form negative whole) (signOf negative ++ whole ++ n.chars) rest
  | ledByDigit {whole more rest : List Char} {n : Numeral} : Digits whole →
      n.StopsAt (more ++ rest) → more ≠ [] → (∀ c ∈ more, isWordChar c = true) → meetsWord rest = false →
      Lexeme (.word (upper (String.ofList (whole ++ n.chars ++ more)))) (whole ++ n.chars ++ more) rest
  | word {c : Char} {more rest : List Char} : isWordStart c = true → (∀ d ∈ more, isWordChar d = true) →
      meetsWord rest = false → Lexeme (.word (upper (String.ofList (c :: more)))) (c :: more) rest
  | color {digits rest : List Char} : ColorDigits digits → meetsWord rest = false →
      Lexeme .hexColor ('#' :: digits) rest
  | hash {more rest : List Char} : (∀ d ∈ more, isWordChar d = true) → meetsWord rest = false →
      ¬ColorDigits more → Lexeme .symbol ('#' :: more) rest
  | mark {c : Char} {rest : List Char} : ¬IsQuote c → isDigit c = false → isWordStart c = false → c ≠ '#' →
      (c = '-' → ∀ d ∈ rest.head?, isDigit d = false) → Lexeme (punctuation c) [c] rest

theorem Lexeme.kind_ne {form : Form} {lexeme rest : List Char} (h : Lexeme form lexeme rest) :
    form.kind ≠ .endOfStatement := by
  cases h with
  | @numeral _ _ _ n _ _ _ => cases n <;> simp [Numeral.form, Form.kind]
  | mark =>
    unfold punctuation
    repeat' split
    all_goals simp [Form.kind]
  | _ => simp [Form.kind]

/-! ### What a scan takes is a lexeme -/

theorem meetsWord_eq_false {rest : List Char} (h : ∀ c ∈ rest.head?, isWordChar c = false) :
    meetsWord rest = false := by
  cases rest with
  | nil => rfl
  | cons c rest => exact h c rfl

theorem isWordChar_of_head {rest : List Char} {c : Char} (h : meetsWord rest = false) (hc : c ∈ rest.head?) :
    isWordChar c = false := by
  cases rest with
  | nil => cases hc
  | cons d rest =>
    cases hc
    exact h

theorem head_dropWhile {p : Char → Bool} {cs : List Char} {c : Char} (h : c ∈ (cs.dropWhile p).head?) :
    p c = false := by
  have hstop := List.head?_dropWhile_not p cs
  rw [h] at hstop
  simpa using hstop

theorem meetsWord_dropWhile (cs : List Char) : meetsWord (cs.dropWhile isWordChar) = false :=
  meetsWord_eq_false fun _ hc => head_dropWhile hc

theorem all_takeWhile (p : Char → Bool) (cs : List Char) : ∀ c ∈ cs.takeWhile p, p c = true :=
  List.all_eq_true.mp List.all_takeWhile

theorem digits_takeWhile {d : Char} (cs : List Char) (hd : isDigit d = true) :
    Digits ((d :: cs).takeWhile isDigit) := ⟨by simp [hd], all_takeWhile isDigit _⟩

theorem stopsAt_numeralTail (cs : List Char) (hcs : ∀ c ∈ cs.head?, isDigit c = false) :
    (numeralTail cs).1.StopsAt (numeralTail cs).2 := by
  cases h : (numeralTail cs).1 with
  | integer =>
    have happend := numeralTail_append cs
    rw [h] at happend
    have hrest : (numeralTail cs).2 = cs := happend
    rw [hrest]
    refine ⟨trivial, hcs, fun _ => ?_⟩
    rintro ⟨c, d, rest, rfl, hc, hd⟩
    rcases hc with rfl | rfl | rfl <;> simp [numeralTail, hd] at h
  | decimal fraction =>
    unfold numeralTail at h ⊢
    split at h
    · rename_i d rest
      split at h
      · rename_i hd
        cases h
        rw [if_pos hd]
        exact ⟨digits_takeWhile rest hd, fun _ hc => head_dropWhile hc, fun hn => by cases hn⟩
      · cases h
    · split at h <;> cases h
    · cases h
  | crossed cross height =>
    obtain ⟨-, hcross, hheight, hstop⟩ := numeralTail_crossed h
    exact ⟨⟨hcross, hheight⟩, hstop, fun hn => by cases hn⟩

theorem Numeral.StopsAt.head {n : Numeral} {rest : List Char} (h : n.StopsAt rest) :
    ∀ c ∈ (n.chars ++ rest).head?, isDigit c = false := by
  cases n with
  | integer => exact h.digit
  | decimal fraction =>
    intro c hc
    cases hc
    decide
  | crossed cross height =>
    intro c hc
    cases hc
    rcases h.formed.1 with rfl | rfl <;> decide

theorem Numeral.StopsAt.numeralTail_eq {n : Numeral} {rest : List Char} (h : n.StopsAt rest) :
    numeralTail (n.chars ++ rest) = (n, rest) := by
  cases n with
  | integer =>
    have hstop : ∀ {c d more}, rest = c :: d :: more → isDigit d = true → c ≠ '.' ∧ c ≠ 'x' ∧ c ≠ 'X' := by
      intro c d more hrest hd
      refine ⟨?_, ?_, ?_⟩
      · rintro rfl
        exact h.integer rfl ⟨_, d, more, hrest, Or.inl rfl, hd⟩
      · rintro rfl
        exact h.integer rfl ⟨_, d, more, hrest, Or.inr (Or.inl rfl), hd⟩
      · rintro rfl
        exact h.integer rfl ⟨_, d, more, hrest, Or.inr (Or.inr rfl), hd⟩
    show numeralTail rest = (.integer, rest)
    unfold numeralTail
    split
    · split
      · rename_i hd
        exact absurd rfl (hstop rfl hd).1
      · rfl
    · rename_i c d more _
      split
      · rename_i hcross
        simp only [Bool.and_eq_true, Bool.or_eq_true, decide_eq_true_eq] at hcross
        obtain ⟨-, hx, hX⟩ := hstop rfl hcross.2
        exact absurd hcross.1 (not_or.mpr ⟨hx, hX⟩)
      · rfl
    · rfl
  | decimal fraction =>
    have hfraction : Digits fraction := h.formed
    obtain ⟨htake, hdrop⟩ := takeWhile_append hfraction.2 h.digit
    obtain ⟨d, fraction, rfl⟩ := List.exists_cons_of_ne_nil hfraction.1
    have hd : isDigit d = true := hfraction.2 d List.mem_cons_self
    show numeralTail ('.' :: (d :: fraction ++ rest)) = _
    rw [List.cons_append] at htake hdrop ⊢
    simp [numeralTail, hd, htake, hdrop]
  | crossed cross height => exact numeralTail_eq_crossed h.formed.1 h.formed.2 h.digit

theorem lexeme_of_scanString {q : Char} {rest : List Char} {p : Piece (q :: rest)} (hq : IsQuote q)
    (h : scanString q rest = .ok p) : Lexeme p.form p.lexeme p.rest := by
  obtain ⟨body, hlexeme, hbody⟩ := scanString_lexeme h
  unfold scanString at h
  split at h
  · cases h
  · rename_i close after _
    cases h
    obtain ⟨-, hchars⟩ := List.cons.inj hlexeme
    obtain ⟨rfl, hclose⟩ := List.append_inj' hchars rfl
    cases hclose
    exact .string hq hbody

theorem lexeme_of_scanNumeral (negative : Bool) {cs : List Char} {d : Char} {hd : isDigit d = true}
    {p : Piece (signOf negative ++ d :: cs)} (h : scanNumeral (signOf negative) d cs hd = .ok p) :
    Lexeme p.form p.lexeme p.rest := by
  have hwhole := digits_takeWhile cs hd
  have hstops := stopsAt_numeralTail ((d :: cs).dropWhile isDigit) fun _ hc => head_dropWhile hc
  simp only [scanNumeral] at h
  split at h
  · rename_i hword
    split at h
    · rename_i hsign
      cases h
      cases negative with
      | true => simp [signOf] at hsign
      | false =>
        have htail := List.takeWhile_append_dropWhile (p := isWordChar)
          (l := (numeralTail ((d :: cs).dropWhile isDigit)).2)
        refine .ledByDigit hwhole ?_ ?_ (all_takeWhile isWordChar _) (meetsWord_dropWhile _)
        · rw [htail]
          exact hstops
        · intro hnil
          cases hrest : (numeralTail ((d :: cs).dropWhile isDigit)).2 with
          | nil => simp [hrest, meetsWord] at hword
          | cons c rest =>
            rw [hrest] at hword hnil
            have hc : isWordChar c = true := hword
            simp [hc] at hnil
    · rename_i hsign
      have hnegative : negative = true := by
        cases negative with
        | true => rfl
        | false => exact absurd rfl hsign
      split at h
      · cases h
      · rename_i hcrossed
        cases h
        subst hnegative
        refine .numeral hwhole hstops fun _ => ⟨rfl, ?_⟩
        rintro ⟨cross, height, hn⟩
        exact hcrossed cross height hn
  · rename_i hword
    cases h
    have hnegative : (!(signOf negative).isEmpty) = negative := by cases negative <;> rfl
    rw [hnegative]
    exact .numeral hwhole hstops fun hmeets => absurd hmeets hword

theorem lexeme_of_scanHash (rest : List Char) :
    Lexeme (scanHash '#' rest).form (scanHash '#' rest).lexeme (scanHash '#' rest).rest := by
  simp only [scanHash]
  split
  · rename_i h
    simp only [Bool.and_eq_true, Bool.or_eq_true, decide_eq_true_eq, Bool.not_eq_eq_eq_not,
      Bool.not_true] at h
    exact .color ⟨all_takeWhile isHexDigit rest, h.1⟩ h.2
  · rename_i h
    refine .hash (all_takeWhile isWordChar rest) (meetsWord_dropWhile rest) fun hcolor => h ?_
    -- All word characters are hexadecimal digits here, so the digits end where the word does.
    have hstop : ∀ c ∈ (rest.dropWhile isWordChar).head?, isHexDigit c = false := fun c hc =>
      Bool.eq_false_iff.mpr fun hhex => by
        have hword := head_dropWhile hc
        rw [isWordChar_of_isHexDigit hhex] at hword
        cases hword
    obtain ⟨htake, hdrop⟩ := takeWhile_append hcolor.1 hstop
    rw [List.takeWhile_append_dropWhile] at htake hdrop
    rw [htake, hdrop, meetsWord_dropWhile]
    simpa using hcolor.2

theorem lexeme_of_scanPiece {c : Char} {rest : List Char} {p : Piece (c :: rest)}
    (h : scanPiece c rest = .ok p) : Lexeme p.form p.lexeme p.rest := by
  unfold scanPiece at h
  split at h
  · rename_i hquote
    exact lexeme_of_scanString (by simpa [IsQuote] using hquote) h
  · rename_i hquote
    have hplain : ¬IsQuote c := by simpa [IsQuote] using hquote
    split at h
    · exact lexeme_of_scanNumeral false h
    · rename_i hdigit
      split at h
      · rename_i hstart
        cases h
        exact .word hstart (all_takeWhile isWordChar rest) (meetsWord_dropWhile rest)
      · rename_i hstart
        split at h
        · rename_i hhash
          subst hhash
          cases h
          exact lexeme_of_scanHash rest
        · rename_i hhash
          have hmark : ∀ {rest : List Char}, (c = '-' → ∀ d ∈ rest.head?, isDigit d = false) →
              Lexeme (punctuation c) [c] rest := fun hsign =>
            .mark hplain (by simpa using hdigit) (by simpa using hstart) hhash hsign
          split at h
          · rename_i d more
            split at h
            · rename_i hsign
              obtain ⟨rfl, _⟩ := hsign
              exact lexeme_of_scanNumeral true h
            · rename_i hsign
              cases h
              refine hmark fun hc e he => ?_
              cases he
              simpa [hc] using hsign
          · cases h
            exact hmark fun _ d hd => by cases hd

/-- A quote that does not come again leaves a string open. -/
theorem scanPiece_open {q : Char} {rest : List Char} (hq : IsQuote q) (hrest : q ∉ rest) :
    scanPiece q rest = .error .openString := by
  have hquote : (decide (q = '"') || decide (q = '\'')) = true := by simpa [IsQuote] using hq
  unfold scanPiece
  rw [if_pos hquote]
  unfold scanString
  split
  · rfl
  · rename_i close after hcons
    have hmem : close ∈ rest := (List.dropWhile_sublist (· != q)).subset (hcons ▸ List.mem_cons_self)
    have hhead : close ∈ (rest.dropWhile (· != q)).head? := by
      rw [hcons]
      rfl
    have hstop := head_dropWhile hhead
    have hclose : close = q := by simpa using hstop
    exact absurd (hclose ▸ hmem) hrest

/-! ### A scan takes every lexeme -/

/-- The scan takes this lexeme off the front of the characters. -/
def Takes (form : Form) (lexeme rest : List Char) {cs : List Char} (x : Except ScanError (Piece cs)) : Prop :=
  ∃ p, x = .ok p ∧ p.form = form ∧ p.lexeme = lexeme ∧ p.rest = rest

/-- Characters are cut before the first occurrence of one. -/
theorem cut_at_mark {q : Char} {body : List Char} (rest : List Char) (hbody : q ∉ body) :
    (body ++ q :: rest).takeWhile (· != q) = body ∧ (body ++ q :: rest).dropWhile (· != q) = q :: rest := by
  have hplain : ∀ c ∈ body, (c != q) = true := fun c hc => by simpa using fun heq : c = q => hbody (heq ▸ hc)
  have hclose : ∀ c ∈ (q :: rest).head?, (c != q) = false := by simp
  exact takeWhile_append hplain hclose

theorem takes_scanString {q : Char} {body rest : List Char} (hbody : q ∉ body) :
    Takes (.string (String.ofList body)) (q :: (body ++ [q])) rest (scanString q (body ++ q :: rest)) := by
  obtain ⟨htake, hdrop⟩ := cut_at_mark rest hbody
  unfold scanString
  split
  · rename_i hnil
    rw [hdrop] at hnil
    cases hnil
  · rename_i close after hcons
    rw [hdrop] at hcons
    cases hcons
    refine ⟨_, rfl, ?_, ?_, rfl⟩
    · simp only [htake]
    · simp only [htake]

theorem takes_scanNumeral (negative : Bool) {d : Char} {cs whole rest : List Char} {n : Numeral}
    (hd : isDigit d = true) (heq : d :: cs = whole ++ (n.chars ++ rest)) (hwhole : Digits whole)
    (hstops : n.StopsAt rest) (hmeets : meetsWord rest = true → negative = true ∧ ¬n.IsCrossed) :
    Takes (n.form negative whole) (signOf negative ++ whole ++ n.chars) rest
      (scanNumeral (signOf negative) d cs hd) := by
  obtain ⟨htake, hdrop⟩ := takeWhile_append hwhole.2 hstops.head
  rw [← heq] at htake hdrop
  have htail : numeralTail ((d :: cs).dropWhile isDigit) = (n, rest) := by rw [hdrop, hstops.numeralTail_eq]
  simp only [scanNumeral, htail, htake]
  cases hword : meetsWord rest with
  | false =>
    have hnegative : (!(signOf negative).isEmpty) = negative := by cases negative <;> rfl
    refine ⟨_, rfl, ?_, rfl, rfl⟩
    simp only [hnegative]
  | true =>
    obtain ⟨rfl, hcrossed⟩ := hmeets hword
    cases n with
    | integer => exact ⟨_, rfl, rfl, rfl, rfl⟩
    | decimal fraction => exact ⟨_, rfl, rfl, rfl, rfl⟩
    | crossed cross height => exact absurd ⟨cross, height, rfl⟩ hcrossed

theorem takes_ledByDigit {d : Char} {cs whole more rest : List Char} {n : Numeral} (hd : isDigit d = true)
    (heq : d :: cs = whole ++ (n.chars ++ (more ++ rest))) (hwhole : Digits whole)
    (hstops : n.StopsAt (more ++ rest)) (hne : more ≠ [])
    (hmore : ∀ c ∈ more, isWordChar c = true) (hrest : meetsWord rest = false) :
    Takes (.word (upper (String.ofList (whole ++ n.chars ++ more)))) (whole ++ n.chars ++ more) rest
      (scanNumeral [] d cs hd) := by
  obtain ⟨htake, hdrop⟩ := takeWhile_append hwhole.2 hstops.head
  rw [← heq] at htake hdrop
  have htail : numeralTail ((d :: cs).dropWhile isDigit) = (n, more ++ rest) := by rw [hdrop, hstops.numeralTail_eq]
  obtain ⟨hword, hafter⟩ := takeWhile_append hmore fun _ => isWordChar_of_head hrest
  have hmeets : meetsWord (more ++ rest) = true := by
    cases more with
    | nil => exact absurd rfl hne
    | cons c more => exact hmore c List.mem_cons_self
  simp only [scanNumeral, htail, htake, hmeets, hword, hafter]
  exact ⟨_, rfl, rfl, rfl, rfl⟩

theorem takes_scanHash_color {digits rest : List Char} (hdigits : ColorDigits digits)
    (hrest : meetsWord rest = false) : Takes .hexColor ('#' :: digits) rest (.ok (scanHash '#' (digits ++ rest))) := by
  obtain ⟨htake, hdrop⟩ := takeWhile_append hdigits.1 fun c hc => Bool.eq_false_iff.mpr fun hhex => by
    have hword := isWordChar_of_head hrest hc
    rw [isWordChar_of_isHexDigit hhex] at hword
    cases hword
  have hlength : (digits.length = 3 ∨ digits.length = 6) := hdigits.2
  refine ⟨_, rfl, ?_⟩
  simp [scanHash, htake, hdrop, hrest, hlength]

theorem takes_scanHash_symbol {more rest : List Char} (hmore : ∀ d ∈ more, isWordChar d = true)
    (hrest : meetsWord rest = false) (hcolor : ¬ColorDigits more) :
    Takes .symbol ('#' :: more) rest (.ok (scanHash '#' (more ++ rest))) := by
  obtain ⟨htake, hdrop⟩ := takeWhile_append hmore fun _ => isWordChar_of_head hrest
  refine ⟨_, rfl, ?_⟩
  have hsymbol : ¬((((more ++ rest).takeWhile isHexDigit).length = 3 ∨
      ((more ++ rest).takeWhile isHexDigit).length = 6) ∧
        meetsWord ((more ++ rest).dropWhile isHexDigit) = false) := by
    rintro ⟨hlength, hmeets⟩
    -- If no word character follows the hexadecimal digits, they are all of the word characters.
    have hhex : ∀ c ∈ (more ++ rest).takeWhile isHexDigit, isWordChar c = true := fun c hc =>
      isWordChar_of_isHexDigit (all_takeWhile isHexDigit _ c hc)
    have hall := takeWhile_append hhex fun _ => isWordChar_of_head hmeets
    rw [List.takeWhile_append_dropWhile, htake] at hall
    rw [← hall.1] at hlength
    refine hcolor ⟨fun c hc => ?_, hlength⟩
    rw [hall.1] at hc
    exact all_takeWhile isHexDigit _ c hc
  have hcondition : ((decide (((more ++ rest).takeWhile isHexDigit).length = 3) ||
      decide (((more ++ rest).takeWhile isHexDigit).length = 6)) &&
        !meetsWord ((more ++ rest).dropWhile isHexDigit)) = false := by
    simpa [Bool.and_eq_false_iff] using hsymbol
  simp only [scanHash, hcondition, htake, hdrop]
  exact ⟨rfl, rfl, rfl⟩

theorem scanPiece_digit {d : Char} {rest : List Char} (hd : isDigit d = true) :
    scanPiece d rest = scanNumeral [] d rest hd := by
  have hquote : ¬((decide (d = '"') || decide (d = '\'')) = true) := by
    simp only [Bool.or_eq_true, decide_eq_true_eq]
    rintro (rfl | rfl) <;> revert hd <;> decide
  unfold scanPiece
  rw [if_neg hquote, dif_pos hd]

theorem scanPiece_sign {d : Char} {more : List Char} (hd : isDigit d = true) :
    scanPiece '-' (d :: more) = scanNumeral ['-'] d more hd := by
  have hdigit : isDigit '-' = false := by decide
  have hstart : isWordStart '-' = false := by decide
  simp [scanPiece, hd, hdigit, hstart]

/-- The scan takes every lexeme where it can be followed by what follows it. -/
theorem Lexeme.takes {form : Form} {lexeme rest cs : List Char} {c : Char} (h : Lexeme form lexeme rest)
    (heq : c :: cs = lexeme ++ rest) : Takes form lexeme rest (scanPiece c cs) := by
  cases h with
  | @string q body _ hq hbody =>
    rw [List.cons_append, List.append_assoc, List.singleton_append] at heq
    obtain ⟨rfl, rfl⟩ := List.cons.inj heq
    have hquote : (decide (c = '"') || decide (c = '\'')) = true := by simpa [IsQuote] using hq
    unfold scanPiece
    rw [if_pos hquote]
    exact takes_scanString hbody
  | @numeral negative whole _ n hwhole hstops hmeets =>
    obtain ⟨d, whole', rfl⟩ := List.exists_cons_of_ne_nil hwhole.1
    have hd : isDigit d = true := hwhole.2 d List.mem_cons_self
    cases negative with
    | false =>
      have hchars : c :: cs = d :: whole' ++ (n.chars ++ rest) := by simpa [signOf] using heq
      obtain ⟨rfl, -⟩ := List.cons.inj hchars
      rw [scanPiece_digit hd]
      exact takes_scanNumeral false hd hchars hwhole hstops hmeets
    | true =>
      have hchars : c :: cs = '-' :: (d :: whole' ++ (n.chars ++ rest)) := by simpa [signOf] using heq
      obtain ⟨rfl, rfl⟩ := List.cons.inj hchars
      have htakes := takes_scanNumeral true hd rfl hwhole hstops hmeets
      rw [List.cons_append, scanPiece_sign hd]
      exact htakes
  | @ledByDigit whole more _ n hwhole hstops hne hmore hrest =>
    obtain ⟨d, whole', rfl⟩ := List.exists_cons_of_ne_nil hwhole.1
    have hd : isDigit d = true := hwhole.2 d List.mem_cons_self
    have hchars : c :: cs = d :: whole' ++ (n.chars ++ (more ++ rest)) := by simpa using heq
    obtain ⟨rfl, -⟩ := List.cons.inj hchars
    rw [scanPiece_digit hd]
    exact takes_ledByDigit hd hchars hwhole hstops hne hmore hrest
  | @word d more _ hstart hmore hrest =>
    obtain ⟨rfl, rfl⟩ := List.cons.inj heq
    obtain ⟨htake, hdrop⟩ := takeWhile_append hmore fun _ => isWordChar_of_head hrest
    have hdigit : isDigit c = false := by
      cases hd : isDigit c with
      | false => rfl
      | true =>
        rw [isWordStart_of_isDigit hd] at hstart
        cases hstart
    have hquote : ¬IsQuote c := not_isQuote_of_isWordChar (isWordChar_of_isWordStart hstart)
    have hscan : scanPiece c (more ++ rest) = .ok (scanWord c (more ++ rest)) := by
      have hquote : ¬((decide (c = '"') || decide (c = '\'')) = true) := by simpa [IsQuote] using hquote
      unfold scanPiece
      rw [if_neg hquote, dif_neg (by simp [hdigit]), if_pos hstart]
    refine ⟨_, hscan, ?_, ?_, hdrop⟩
    · simp only [scanWord, htake]
    · simp only [scanWord, htake]
  | @color digits _ hdigits hrest =>
    obtain ⟨rfl, rfl⟩ := List.cons.inj heq
    exact takes_scanHash_color hdigits hrest
  | @hash more _ hmore hrest hcolor =>
    obtain ⟨rfl, rfl⟩ := List.cons.inj heq
    exact takes_scanHash_symbol hmore hrest hcolor
  | @mark d _ hquote hdigit hstart hhash hsign =>
    obtain ⟨rfl, rfl⟩ := List.cons.inj heq
    have hquote : ¬((decide (c = '"') || decide (c = '\'')) = true) := by simpa [IsQuote] using hquote
    unfold scanPiece
    rw [if_neg hquote, dif_neg (by simp [hdigit]), if_neg (by simp [hstart]), if_neg hhash]
    cases cs with
    | nil => exact ⟨_, rfl, rfl, rfl, rfl⟩
    | cons e more =>
      have hnumeral : ¬(c = '-' ∧ isDigit e = true) := by
        rintro ⟨hc, he⟩
        have hplain := hsign hc e rfl
        rw [he] at hplain
        cases hplain
      simp only [dif_neg hnumeral]
      exact ⟨_, rfl, rfl, rfl, rfl⟩

end Token

open Token

/-- A lexeme at the front is the first token. -/
theorem Statement.scanFrom_lexeme (s : Statement) (offset : Nat) {form : Form} {c : Char} {cs rest : List Char}
    (hgap : Text.isGap c = false) (h : Lexeme form (c :: cs) rest) :
    s.scanFrom offset (c :: cs ++ rest) =
      (⟨form, String.ofList (c :: cs), s.location offset, s.location (offset + (c :: cs).length)⟩ ::
          (s.scanFrom (offset + (c :: cs).length) rest).1,
        (s.scanFrom (offset + (c :: cs).length) rest).2) := by
  obtain ⟨p, hpiece, hform, hlexeme, hrest⟩ := h.takes (List.cons_append ..).symm
  rw [List.cons_append, scanFrom, if_neg (by simp [hgap]), hpiece]
  simp only [hform, hlexeme, hrest]

end SceneScript
