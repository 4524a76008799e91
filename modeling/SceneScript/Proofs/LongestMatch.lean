import SceneScript.Proofs.Joining

/-!
The grammar of tokens as classes of lexemes in an order. Wherever a token begins, the text belongs to the first
class that it can begin with, and the token takes the longest lexeme of that class. Most classes say what may
follow, so that there is one lexeme of them at most; of numerals and symbols there may be shorter ones.
-/

namespace SceneScript

namespace Token
open Text

/-! ### Classes -/

/-- The classes of lexemes. A numeral is a number or a word that is led by digits. -/
inductive LexemeClass where
  | string | dimension | numeral | word | color | hash | mark
  deriving Repr, DecidableEq

/-- The place of a class in the order. -/
def LexemeClass.rank : LexemeClass → Nat
  | string => 0
  | dimension => 1
  | numeral => 2
  | word => 3
  | color => 4
  | hash => 5
  | mark => 6

/-- What follows a lexeme of the class tells where it ends. -/
def LexemeClass.isClosed : LexemeClass → Bool
  | numeral => false
  | hash => false
  | mark => false
  | _ => true

/-- A point with digits, or nothing. -/
def Fraction (cs : List Char) : Prop := cs = [] ∨ ∃ digits, cs = '.' :: digits ∧ Digits digits

/-- The characters with a form of their own; a character by itself is a symbol otherwise. -/
def markForms : List (Char × Form) := [('(', .leftParen), (')', .rightParen), (',', .comma), (':', .colon)]

/-- A lexeme of the class, the form that it is read in, and what can follow it. -/
inductive LexemeClass.Reads : LexemeClass → Form → List Char → List Char → Prop
  | string {q : Char} {body rest : List Char} : IsQuote q → q ∉ body →
      Reads .string (.string (String.ofList body)) (q :: (body ++ [q])) rest
  | dimension {negative : Bool} {width height rest : List Char} {cross : Char} : Digits width →
      (cross = 'x' ∨ cross = 'X') → Digits height → meetsWord rest = false →
      Reads .dimension (.dimension (integerOf negative width) (integerOf false height))
        (signOf negative ++ width ++ cross :: height) rest
  | integer {negative : Bool} {whole rest : List Char} : Digits whole →
      (negative = false → meetsWord rest = false) →
      Reads .numeral (.number (.int (integerOf negative whole))) (signOf negative ++ whole) rest
  | decimal {negative : Bool} {whole fraction rest : List Char} : Digits whole → Digits fraction →
      (negative = false → meetsWord rest = false) →
      Reads .numeral
        (.number (.float
          (Decimal.nearestFloat negative (Decimal.ofDigits (whole ++ fraction)) (-fraction.length))))
        (signOf negative ++ whole ++ '.' :: fraction) rest
  | ledByDigit {whole fraction more rest : List Char} {c : Char} : Digits whole → Fraction fraction →
      isDigit c = false → (∀ d ∈ c :: more, isWordChar d = true) → meetsWord rest = false →
      Reads .numeral (.word (upper (String.ofList (whole ++ fraction ++ c :: more))))
        (whole ++ fraction ++ c :: more) rest
  | word {c : Char} {more rest : List Char} : isWordStart c = true → (∀ d ∈ more, isWordChar d = true) →
      meetsWord rest = false → Reads .word (.word (upper (String.ofList (c :: more)))) (c :: more) rest
  | color {digits rest : List Char} : ColorDigits digits → meetsWord rest = false →
      Reads .color .hexColor ('#' :: digits) rest
  | hash {more rest : List Char} : (∀ d ∈ more, isWordChar d = true) → Reads .hash .symbol ('#' :: more) rest
  | mark {c : Char} {rest : List Char} : Reads .mark ((Assoc.get? markForms c).getD .symbol) [c] rest

/-- The lexeme begins the characters: it is of the first class that they can begin with, and no lexeme of that
    class is longer. -/
def Leads (cs : List Char) (form : Form) (lexeme : List Char) : Prop :=
  ∃ k rest, cs = lexeme ++ rest ∧ LexemeClass.Reads k form lexeme rest ∧
    ∀ {k' form' lexeme' rest'}, cs = lexeme' ++ rest' → LexemeClass.Reads k' form' lexeme' rest' →
      k.rank < k'.rank ∨ (k' = k ∧ lexeme'.length ≤ lexeme.length)

variable {k : LexemeClass} {form form' : Form} {lexeme lexeme' rest rest' : List Char}

/-! ### One lexeme at most -/

theorem Lexeme.ne_nil (h : Lexeme form lexeme rest) : lexeme ≠ [] := by
  cases h with
  | numeral hwhole _ _ => simp [hwhole.1]
  | ledByDigit hwhole _ _ _ _ => simp [hwhole.1]
  | _ => exact List.cons_ne_nil _ _

theorem Lexeme.unique (h : Lexeme form lexeme rest) (h' : Lexeme form' lexeme' rest')
    (heq : lexeme ++ rest = lexeme' ++ rest') : form' = form ∧ lexeme' = lexeme := by
  obtain ⟨c, cs, hlexeme⟩ := List.exists_cons_of_ne_nil h.ne_nil
  have hchars : c :: (cs ++ rest) = lexeme ++ rest := by rw [hlexeme, List.cons_append]
  obtain ⟨p, hp, hform, htaken, -⟩ := h.takes hchars
  obtain ⟨p', hp', hform', htaken', -⟩ := h'.takes (hchars.trans heq)
  rw [hp] at hp'
  cases hp'
  exact ⟨hform'.symm.trans hform, htaken'.symm.trans htaken⟩

theorem isDigit_of_head {c : Char} (h : meetsWord rest = false) (hc : c ∈ rest.head?) : isDigit c = false := by
  refine Bool.eq_false_iff.mpr fun hdigit => ?_
  have hword := isWordChar_of_head h hc
  rw [isWordChar_of_isDigit hdigit] at hword
  cases hword

/-- A lexeme of a closed class is one that a scan takes. -/
theorem LexemeClass.Reads.isLexeme (h : k.Reads form lexeme rest) (hk : k.isClosed = true) :
    Lexeme form lexeme rest := by
  cases h with
  | string hq hbody => exact .string hq hbody
  | dimension hwidth hcross hheight hrest =>
    have hstops : (Numeral.crossed _ _).StopsAt rest :=
      ⟨⟨hcross, hheight⟩, fun _ => isDigit_of_head hrest, fun hn => by cases hn⟩
    exact .numeral hwidth hstops fun hword => absurd (hrest.symm.trans hword) Bool.false_ne_true
  | word hstart hmore hrest => exact .word hstart hmore hrest
  | color hdigits hrest => exact .color hdigits hrest
  | integer => cases hk
  | decimal => cases hk
  | ledByDigit => cases hk
  | hash => cases hk
  | mark => cases hk

/-- The cross takes the digits behind it; what is left of the word decides between a dimension and a word. -/
theorem exists_lexeme_crossed {whole more rest : List Char} {c d : Char} (hwhole : Digits whole)
    (hcross : c = 'x' ∨ c = 'X') (hmore : ∀ b ∈ d :: more, isWordChar b = true) (hd : isDigit d = true)
    (hrest : meetsWord rest = false) : ∃ form, Lexeme form (whole ++ c :: d :: more) rest := by
  have hheight : Digits ((d :: more).takeWhile isDigit) :=
    ⟨by simp [hd], all_takeWhile isDigit (d :: more)⟩
  have hsplit : c :: d :: more = c :: (d :: more).takeWhile isDigit ++ (d :: more).dropWhile isDigit := by
    rw [List.cons_append, List.takeWhile_append_dropWhile]
  cases hleft : (d :: more).dropWhile isDigit with
  | nil =>
    have hstops : (Numeral.crossed c ((d :: more).takeWhile isDigit)).StopsAt rest :=
      ⟨⟨hcross, hheight⟩, fun _ => isDigit_of_head hrest, fun hn => by cases hn⟩
    have hlexeme : Lexeme _ (signOf false ++ whole ++ c :: (d :: more).takeWhile isDigit) rest :=
      .numeral hwhole hstops fun hword => absurd (hrest.symm.trans hword) Bool.false_ne_true
    rw [hleft, List.append_nil] at hsplit
    rw [hsplit]
    exact ⟨_, hlexeme⟩
  | cons e left =>
    have hstops : (Numeral.crossed c ((d :: more).takeWhile isDigit)).StopsAt (e :: left ++ rest) := by
      refine ⟨⟨hcross, hheight⟩, fun b hb => ?_, fun hn => by cases hn⟩
      cases hb
      exact head_dropWhile (by rw [hleft]; rfl)
    have hword : ∀ b ∈ e :: left, isWordChar b = true := fun b hb =>
      hmore b ((List.dropWhile_sublist isDigit).subset (hleft ▸ hb))
    have hlexeme := Lexeme.ledByDigit hwhole hstops (List.cons_ne_nil e left) hword hrest
    rw [hleft] at hsplit
    rw [hsplit, ← List.append_assoc]
    exact ⟨_, hlexeme⟩

/-- A word that is led by digits is taken as a whole, if only as a dimension. -/
theorem LexemeClass.Reads.exists_lexeme {whole fraction more rest : List Char} {c : Char} (hwhole : Digits whole)
    (hfraction : Fraction fraction) (hc : isDigit c = false) (hmore : ∀ d ∈ c :: more, isWordChar d = true)
    (hrest : meetsWord rest = false) : ∃ form, Lexeme form (whole ++ fraction ++ c :: more) rest := by
  have hplain : ∀ d ∈ (c :: more ++ rest).head?, isDigit d = false := by
    intro d hd
    cases hd
    exact hc
  rcases hfraction with rfl | ⟨digits, rfl, hdigits⟩
  · by_cases hgoes : GoesOn (c :: more ++ rest)
    · obtain ⟨_, d, after, heq, hmark, hd⟩ := hgoes
      obtain ⟨rfl, htail⟩ := List.cons.inj heq
      have hcross : c = 'x' ∨ c = 'X' := hmark.resolve_left fun hpoint => by
        have hword := hmore c List.mem_cons_self
        rw [hpoint] at hword
        cases hword
      rw [List.append_nil]
      cases more with
      | nil =>
        obtain rfl : rest = d :: after := htail
        exact absurd (hrest.symm.trans (isWordChar_of_isDigit hd)) Bool.false_ne_true
      | cons e more =>
        obtain ⟨rfl, -⟩ := List.cons.inj htail
        exact exists_lexeme_crossed hwhole hcross (fun b hb => hmore b (List.mem_cons_of_mem c hb)) hd hrest
    · have hlexeme := Lexeme.ledByDigit (n := .integer) hwhole ⟨trivial, hplain, fun _ => hgoes⟩
        (List.cons_ne_nil c more) hmore hrest
      exact ⟨_, hlexeme⟩
  · have hlexeme := Lexeme.ledByDigit (n := .decimal digits) hwhole ⟨hdigits, hplain, fun hn => by cases hn⟩
      (List.cons_ne_nil c more) hmore hrest
    exact ⟨_, hlexeme⟩

/-- What a scan takes of a number and the word behind it is a word that is led by digits. -/
theorem LexemeClass.Reads.of_ledByDigit {whole more rest : List Char} {n : Numeral} (hwhole : Digits whole)
    (hstops : n.StopsAt (more ++ rest)) (hne : more ≠ []) (hmore : ∀ c ∈ more, isWordChar c = true)
    (hrest : meetsWord rest = false) :
    numeral.Reads (.word (upper (String.ofList (whole ++ n.chars ++ more)))) (whole ++ n.chars ++ more) rest := by
  obtain ⟨c, more, rfl⟩ := List.exists_cons_of_ne_nil hne
  have hc : isDigit c = false := hstops.digit c rfl
  cases n with
  | integer => exact .ledByDigit hwhole (Or.inl rfl) hc hmore hrest
  | decimal fraction => exact .ledByDigit hwhole (Or.inr ⟨fraction, rfl, hstops.formed⟩) hc hmore hrest
  | crossed cross height =>
    obtain ⟨hcross, hheight⟩ : (cross = 'x' ∨ cross = 'X') ∧ Digits height := hstops.formed
    have hplain : isDigit cross = false ∧ isWordChar cross = true := by
      rcases hcross with rfl | rfl <;> exact ⟨rfl, rfl⟩
    have hword : ∀ d ∈ cross :: (height ++ c :: more), isWordChar d = true := by
      intro d hd
      rcases List.mem_cons.mp hd with rfl | hd
      · exact hplain.2
      · exact (List.mem_append.mp hd).elim (fun hd => isWordChar_of_isDigit (hheight.2 d hd)) (hmore d)
    have hk := LexemeClass.Reads.ledByDigit hwhole (Or.inl rfl) hplain.1 hword hrest
    rwa [List.append_nil, ← List.cons_append, ← List.append_assoc] at hk

/-! ### Shorter numerals -/

theorem signOf_append_inj {negative negative' : Bool} {whole whole' after after' : List Char} (hwhole : Digits whole)
    (hwhole' : Digits whole') (h : signOf negative ++ (whole ++ after) = signOf negative' ++ (whole' ++ after')) :
    negative' = negative ∧ whole ++ after = whole' ++ after' := by
  obtain ⟨d, ds, rfl⟩ := List.exists_cons_of_ne_nil hwhole.1
  obtain ⟨d', ds', rfl⟩ := List.exists_cons_of_ne_nil hwhole'.1
  have hd := hwhole.2 d List.mem_cons_self
  have hd' := hwhole'.2 d' List.mem_cons_self
  cases negative <;> cases negative'
  · exact ⟨rfl, h⟩
  · obtain ⟨rfl, -⟩ := List.cons.inj h
    exact absurd hd (by decide)
  · obtain ⟨rfl, -⟩ := List.cons.inj h
    exact absurd hd' (by decide)
  · exact ⟨rfl, (List.cons.inj h).2⟩

theorem length_le_takeWhile {p : Char → Bool} {cs : List Char} (rest : List Char) (h : ∀ c ∈ cs, p c = true) :
    cs.length ≤ ((cs ++ rest).takeWhile p).length := by
  rw [List.takeWhile_append_of_pos h, List.length_append]
  exact Nat.le_add_right _ _

section Numerals
variable {negative negative' : Bool} {whole whole' tail after : List Char} {n : Numeral} (hwhole : Digits whole)
  (hstops : n.StopsAt tail) (hwhole' : Digits whole')
include hwhole hstops hwhole'

theorem length_integer_le
    (heq : signOf negative ++ (whole ++ (n.chars ++ tail)) = signOf negative' ++ (whole' ++ after)) :
    (signOf negative' ++ whole').length ≤ (signOf negative ++ whole ++ n.chars).length := by
  obtain ⟨rfl, hrest⟩ := signOf_append_inj hwhole hwhole' heq
  have hle := length_le_takeWhile after hwhole'.2
  rw [← hrest, (takeWhile_append hwhole.2 hstops.head).1] at hle
  simp only [List.length_append]
  omega

theorem length_decimal_le {fraction : List Char} (hfraction : Digits fraction)
    (heq : signOf negative ++ (whole ++ (n.chars ++ tail)) =
      signOf negative' ++ (whole' ++ ('.' :: fraction ++ after))) :
    (signOf negative' ++ whole' ++ '.' :: fraction).length ≤ (signOf negative ++ whole ++ n.chars).length := by
  obtain ⟨rfl, hrest⟩ := signOf_append_inj hwhole hwhole' heq
  obtain ⟨htake, hdrop⟩ := takeWhile_append hwhole.2 hstops.head
  have hpoint : ∀ c ∈ ('.' :: fraction ++ after).head?, isDigit c = false := by
    intro c hc
    cases hc
    rfl
  obtain ⟨htake', hdrop'⟩ := takeWhile_append hwhole'.2 hpoint
  rw [hrest] at htake hdrop
  have hnumeral := hstops.numeralTail_eq
  rw [← hdrop, hdrop'] at hnumeral
  obtain ⟨d, ds, rfl⟩ := List.exists_cons_of_ne_nil hfraction.1
  have hd : isDigit d = true := hfraction.2 d List.mem_cons_self
  have hdecimal : n = .decimal ((d :: (ds ++ after)).takeWhile isDigit) := by
    simpa [numeralTail, hd] using (congrArg Prod.fst hnumeral).symm
  have hle := length_le_takeWhile after hfraction.2
  rw [hdecimal, ← htake, htake']
  rw [List.cons_append] at hle
  simp only [List.length_append, Numeral.chars, List.length_cons] at hle ⊢
  omega

end Numerals

/-! ### The first class -/

theorem LexemeClass.Reads.unique (h' : k.Reads form' lexeme' rest') (hk : k.isClosed = true)
    (h : Lexeme form lexeme rest) (heq : lexeme ++ rest = lexeme' ++ rest') : form' = form ∧ lexeme' = lexeme :=
  h.unique (h'.isLexeme hk) heq

/-- The kinds of tokens of a class. -/
def LexemeClass.kinds : LexemeClass → List Kind
  | string => [.string]
  | dimension => [.dimension]
  | numeral => [.number, .word]
  | word => [.word]
  | color => [.hexColor]
  | hash => [.symbol]
  | mark => [.leftParen, .rightParen, .comma, .colon, .symbol]

theorem punctuation_eq (c : Char) : punctuation c = (Assoc.get? markForms c).getD .symbol := by
  unfold punctuation
  simp only [markForms, Assoc.get?, beq_iff_eq, eq_comm (a := c)]
  repeat' split
  all_goals rfl

theorem LexemeClass.Reads.kind_mem (h : k.Reads form lexeme rest) : form.kind ∈ k.kinds := by
  cases h with
  | mark =>
    rw [← punctuation_eq]
    unfold punctuation
    repeat' split
    all_goals decide
  | _ => simp [kinds, Form.kind]

/-- Characters that a number begins with: a digit, or a sign before one. -/
def BeginsNumeral (cs : List Char) : Prop :=
  ∃ d rest, isDigit d = true ∧ (cs = d :: rest ∨ cs = '-' :: d :: rest)

theorem beginsNumeral_digits (negative : Bool) {whole : List Char} (h : Digits whole) (after : List Char) :
    BeginsNumeral (signOf negative ++ (whole ++ after)) := by
  obtain ⟨d, ds, rfl⟩ := List.exists_cons_of_ne_nil h.1
  refine ⟨d, ds ++ after, h.2 d List.mem_cons_self, ?_⟩
  cases negative
  · exact Or.inl rfl
  · exact Or.inr rfl

theorem LexemeClass.Reads.beginsNumeral (h : numeral.Reads form lexeme rest) : BeginsNumeral (lexeme ++ rest) := by
  cases h with
  | @integer negative whole _ hwhole _ =>
    rw [List.append_assoc]
    exact beginsNumeral_digits negative hwhole rest
  | @decimal negative whole fraction _ hwhole _ _ =>
    rw [List.append_assoc, List.append_assoc]
    exact beginsNumeral_digits negative hwhole _
  | @ledByDigit whole fraction more _ c hwhole _ _ _ _ =>
    rw [List.append_assoc, List.append_assoc]
    exact beginsNumeral_digits false hwhole _

theorem LexemeClass.rank_inj {k k' : LexemeClass} (h : k.rank = k'.rank) : k = k' := by
  cases k <;> cases k' <;> first | rfl | cases h

/-- A closed class shares no kind of token with a later class. -/
theorem LexemeClass.notMem_kinds {k k' : LexemeClass} (hclosed : k.isClosed = true) (h : k.rank < k'.rank)
    {kind : Kind} (hkind : kind ∈ k.kinds) : kind ∉ k'.kinds := by
  revert kind
  cases k with
  | numeral => cases hclosed
  | hash => cases hclosed
  | mark => cases hclosed
  | _ => cases k' <;> first | decide | exact absurd h (by decide)

/-- A lexeme that a scan takes leads if no lexeme of its class is longer and no earlier class that is not closed
    has one. -/
theorem LexemeClass.Reads.leads (hk : k.Reads form lexeme rest) (h : Lexeme form lexeme rest)
    (hnumeral : LexemeClass.numeral.rank < k.rank → ¬BeginsNumeral (lexeme ++ rest))
    (hhash : LexemeClass.hash.rank < k.rank → ∀ cs, lexeme ++ rest ≠ '#' :: cs)
    (hlongest : ∀ {form' lexeme' rest'}, lexeme ++ rest = lexeme' ++ rest' → k.Reads form' lexeme' rest' →
      lexeme'.length ≤ lexeme.length) : Leads (lexeme ++ rest) form lexeme := by
  refine ⟨k, rest, rfl, hk, fun {k' form' lexeme' rest'} heq hk' => ?_⟩
  rcases Nat.lt_trichotomy k.rank k'.rank with hlater | hsame | hearlier
  · exact Or.inl hlater
  · obtain rfl := rank_inj hsame
    exact Or.inr ⟨rfl, hlongest heq hk'⟩
  · exfalso
    cases hclosed : k'.isClosed with
    | true =>
      obtain ⟨rfl, -⟩ := hk'.unique hclosed h heq
      exact notMem_kinds hclosed hearlier hk'.kind_mem hk.kind_mem
    | false =>
      cases hk' with
      | hash _ => exact hhash hearlier _ heq
      | mark => cases k <;> exact absurd hearlier (by decide)
      | string => cases hclosed
      | dimension => cases hclosed
      | word => cases hclosed
      | color => cases hclosed
      | integer hwhole hrest => exact hnumeral hearlier (heq ▸ (Reads.integer hwhole hrest).beginsNumeral)
      | decimal hwhole hfraction hrest =>
        exact hnumeral hearlier (heq ▸ (Reads.decimal hwhole hfraction hrest).beginsNumeral)
      | ledByDigit hwhole hfraction hc hmore hrest =>
        exact hnumeral hearlier (heq ▸ (Reads.ledByDigit hwhole hfraction hc hmore hrest).beginsNumeral)

theorem LexemeClass.Reads.leads_of_isClosed (hk : k.Reads form lexeme rest) (hclosed : k.isClosed = true)
    (hnumeral : LexemeClass.numeral.rank < k.rank → ¬BeginsNumeral (lexeme ++ rest))
    (hhash : LexemeClass.hash.rank < k.rank → ∀ cs, lexeme ++ rest ≠ '#' :: cs) : Leads (lexeme ++ rest) form lexeme :=
  hk.leads (hk.isLexeme hclosed) hnumeral hhash fun heq hk' =>
    Nat.le_of_eq (congrArg List.length (hk'.unique hclosed (hk.isLexeme hclosed) heq).2)

/-! ### Every lexeme leads -/

theorem not_beginsNumeral {c : Char} {cs : List Char} (hc : isDigit c = false)
    (hsign : c = '-' → ∀ d ∈ cs.head?, isDigit d = false) : ¬BeginsNumeral (c :: cs) := by
  rintro ⟨d, after, hd, heq | heq⟩
  · obtain ⟨rfl, -⟩ := List.cons.inj heq
    rw [hc] at hd
    cases hd
  · obtain ⟨rfl, rfl⟩ := List.cons.inj heq
    have hplain := hsign rfl d rfl
    rw [hd] at hplain
    cases hplain

/-- A numeral leads if it takes all that a number takes there. -/
theorem leads_of_numeral {negative : Bool} {whole tail : List Char} {n : Numeral} (hwhole : Digits whole)
    (hstops : n.StopsAt tail) (hk : LexemeClass.numeral.Reads form lexeme rest) (h : Lexeme form lexeme rest)
    (hsplit : lexeme ++ rest = signOf negative ++ (whole ++ (n.chars ++ tail)))
    (hle : (signOf negative ++ whole ++ n.chars).length ≤ lexeme.length) : Leads (lexeme ++ rest) form lexeme := by
  refine hk.leads h (fun hlt => absurd hlt (by decide)) (fun hlt => absurd hlt (by decide)) fun heq hk' => ?_
  have hnumber := hsplit.symm.trans heq
  cases hk' with
  | integer hwhole' _ =>
    rw [List.append_assoc] at hnumber
    exact Nat.le_trans (length_integer_le hwhole hstops hwhole' hnumber) hle
  | decimal hwhole' hfraction _ =>
    rw [List.append_assoc, List.append_assoc] at hnumber
    exact Nat.le_trans (length_decimal_le hwhole hstops hwhole' hfraction hnumber) hle
  | ledByDigit hwhole' hfraction hc hmore hrest =>
    obtain ⟨_, h'⟩ := LexemeClass.Reads.exists_lexeme hwhole' hfraction hc hmore hrest
    exact Nat.le_of_eq (congrArg List.length (h.unique h' heq).2)

/-- What a scan takes is of the first class that the text can begin with, and the longest of that class. -/
theorem Lexeme.leads (h : Lexeme form lexeme rest) : Leads (lexeme ++ rest) form lexeme := by
  have hcases := h
  cases hcases with
  | string hq hbody =>
    exact (LexemeClass.Reads.string hq hbody).leads_of_isClosed rfl (fun hlt => absurd hlt (by decide))
      fun hlt => absurd hlt (by decide)
  | @numeral negative whole _ n hwhole hstops hmeets =>
    have hrest : negative = false → meetsWord rest = false := fun hnegative =>
      Bool.eq_false_iff.mpr fun hword => by
        rw [(hmeets hword).1] at hnegative
        cases hnegative
    have hsplit : signOf negative ++ whole ++ n.chars ++ rest = signOf negative ++ (whole ++ (n.chars ++ rest)) := by
      simp only [List.append_assoc]
    cases n with
    | integer =>
      have hk : LexemeClass.numeral.Reads (Numeral.integer.form negative whole)
          (signOf negative ++ whole ++ Numeral.integer.chars) rest := by
        rw [Numeral.chars, List.append_nil]
        exact .integer hwhole hrest
      exact leads_of_numeral hwhole hstops hk h hsplit (Nat.le_refl _)
    | decimal fraction =>
      exact leads_of_numeral hwhole hstops (.decimal hwhole hstops.formed hrest) h hsplit (Nat.le_refl _)
    | crossed cross height =>
      obtain ⟨hcross, hheight⟩ : (cross = 'x' ∨ cross = 'X') ∧ Digits height := hstops.formed
      have hend : meetsWord rest = false := Bool.eq_false_iff.mpr fun hword => (hmeets hword).2 ⟨cross, height, rfl⟩
      exact (LexemeClass.Reads.dimension hwhole hcross hheight hend).leads_of_isClosed rfl
        (fun hlt => absurd hlt (by decide)) fun hlt => absurd hlt (by decide)
  | @ledByDigit whole more _ n hwhole hstops hne hmore hrest =>
    have hsplit : whole ++ n.chars ++ more ++ rest = signOf false ++ (whole ++ (n.chars ++ (more ++ rest))) := by
      simp only [signOf, List.append_assoc, Bool.false_eq_true, ↓reduceIte, List.nil_append]
    have hle : (signOf false ++ whole ++ n.chars).length ≤ (whole ++ n.chars ++ more).length := by
      simp [signOf]
    exact leads_of_numeral hwhole hstops (.of_ledByDigit hwhole hstops hne hmore hrest) h hsplit hle
  | @word c more _ hstart hmore hrest =>
    refine (LexemeClass.Reads.word hstart hmore hrest).leads_of_isClosed rfl (fun _ => ?_)
      fun hlt => absurd hlt (by decide)
    refine not_beginsNumeral (Bool.eq_false_iff.mpr fun hdigit => ?_) fun hc => ?_
    · rw [isWordStart_of_isDigit hdigit] at hstart
      cases hstart
    · subst hc
      exact absurd hstart (by decide)
  | color hdigits hrest =>
    exact (LexemeClass.Reads.color hdigits hrest).leads_of_isClosed rfl
      (fun _ => not_beginsNumeral (by decide) fun hc => absurd hc (by decide)) fun hlt => absurd hlt (by decide)
  | @hash more _ hmore hrest hcolor =>
    refine (LexemeClass.Reads.hash hmore).leads h
      (fun _ => not_beginsNumeral (by decide) fun hc => absurd hc (by decide)) (fun hlt => absurd hlt (by decide))
      fun {_ _ rest'} heq hk' => ?_
    cases hk' with
    | hash hmore' =>
      have htail : more ++ rest = _ ++ rest' := (List.cons.inj heq).2
      have hle := length_le_takeWhile rest' hmore'
      rw [← htail, (takeWhile_append hmore fun _ => isWordChar_of_head hrest).1] at hle
      exact Nat.succ_le_succ hle
  | @mark c _ hquote hdigit hstart hhash hsign =>
    have hk : LexemeClass.mark.Reads (punctuation c) [c] rest := by
      rw [punctuation_eq]
      exact .mark
    refine hk.leads h (fun _ => not_beginsNumeral hdigit hsign) (fun _ cs heq => hhash (List.cons.inj heq).1)
      fun heq hk' => ?_
    cases hk' with
    | mark => exact Nat.le_refl _

end Token

namespace Statement
open Token

variable {s : Statement} {offset : Nat} {cs : List Char} {tokens : List Token}

theorem Scans.leads (h : s.Scans offset cs tokens) : ∀ t ∈ tokens, ∃ front back, cs = front ++ back ∧
    t.span = ⟨s.location (offset + front.length), s.location (offset + front.length + t.lexeme.length)⟩ ∧
    (∀ c ∈ back.head?, Text.isGap c = false) ∧ Leads back t.form t.lexeme.toList := by
  induction h with
  | nil => exact fun _ ht => nomatch ht
  | @gap offset c cs tokens _ _ ih =>
    intro t ht
    obtain ⟨front, back, rfl, hspan, hstart, hleads⟩ := ih t ht
    refine ⟨c :: front, back, rfl, ?_, hstart, hleads⟩
    rw [hspan, List.length_cons, Nat.add_right_comm, Nat.add_assoc]
  | @lexeme offset form c cs rest tokens hgap hlexeme _ ih =>
    intro t ht
    rcases List.mem_cons.mp ht with rfl | ht
    · refine ⟨[], c :: cs ++ rest, rfl, ?_, fun d hd => ?_, ?_⟩
      · simp only [cut, List.length_nil, Nat.add_zero, String.length_ofList]
      · cases hd
        exact hgap
      · simp only [cut, String.toList_ofList]
        exact hlexeme.leads
    · obtain ⟨front, back, rfl, hspan, hstart, hleads⟩ := ih t ht
      refine ⟨c :: cs ++ front, back, (List.append_assoc ..).symm, ?_, hstart, hleads⟩
      rw [hspan, List.length_append, Nat.add_assoc, Nat.add_assoc, Nat.add_assoc]

/-- Tokens are told by their classes. Each token of a statement begins where no gap is, and there it is the longest
    lexeme of the first class that the rest of the statement can begin with, in the form of that class. -/
theorem tokens_lead (s : Statement) (tokens : List Token) (h : s.tokens = .ok tokens) :
    ∀ t ∈ inner tokens, ∃ offset : Nat,
      t.span = ⟨s.location offset, s.location (offset + t.lexeme.length)⟩ ∧
      (∀ c ∈ (s.text.toList.drop offset).head?, Text.isGap c = false) ∧
      Leads (s.text.toList.drop offset) t.form t.lexeme.toList := by
  obtain ⟨rfl, hcomplete⟩ := tokens_eq_ok h
  have hscans : s.Scans 0 s.text.toList s.scan.1 := scans_of_complete hcomplete
  rw [inner_append_endAt hscans.kind_ne]
  intro t ht
  obtain ⟨front, back, htext, hspan, hstart, hleads⟩ := hscans.leads t ht
  rw [Nat.zero_add] at hspan
  refine ⟨front.length, hspan, ?_⟩
  rw [htext, List.drop_left]
  exact ⟨hstart, hleads⟩

/-- A word led by a dimension, a signed dimension, a point that belongs to no number, and a color that is none. -/
theorem tokens_lead_mixed :
    let s : Statement := { line := 1, text := "5x10z -5x10 -2.5m 1. #abcd", column := 1 }
    ∃ tokens, s.tokens = .ok tokens ∧
      (inner tokens).map (·.lexeme) = ["5x10z", "-5x10", "-2.5", "m", "1", ".", "#abcd"] ∧
      ∀ t ∈ inner tokens, ∃ offset : Nat, Leads (s.text.toList.drop offset) t.form t.lexeme.toList := by
  intro s
  have hlexemes : s.tokens.toOption.map (fun tokens => (inner tokens).map (·.lexeme)) =
      some ["5x10z", "-5x10", "-2.5", "m", "1", ".", "#abcd"] := by decide +kernel
  obtain ⟨tokens, htokens, hinner⟩ := toOption_map_eq_some.mp hlexemes
  refine ⟨tokens, htokens, hinner, fun t ht => ?_⟩
  obtain ⟨offset, -, -, hleads⟩ := tokens_lead s tokens htokens t ht
  exact ⟨offset, hleads⟩

end Statement
end SceneScript
