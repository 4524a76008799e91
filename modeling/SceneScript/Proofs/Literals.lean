import SceneScript.Proofs.Joining
import SceneScript.Proofs.Nesting

/-!
Values as they are written. An integer, a text in double quotes and raw text of two or more tokens are scanned to
tokens of which the value is made again, wherever they stand. Raw text never names a color, since the name of a
color is one word.
-/

namespace SceneScript

open Token

/-! ### Color names are words -/

namespace Text

/-- The characters of color names. -/
def paints (c : Char) : Bool := c.isUpper || c == '_'

theorem toNat_lt_of_paints {c : Char} (h : paints c = true) : c.toNat < 0x80 := by
  rcases Bool.or_eq_true_iff.mp h with h | h
  · obtain ⟨-, hle⟩ := of_decide_eq_true h
    rw [UInt32.le_iff_toNat_le] at hle
    exact Nat.lt_of_le_of_lt hle (by decide)
  · rw [eq_of_beq h]
    decide

theorem lt_of_paints {n : Nat} (h : paints (Char.ofNat n) = true) : n < 0x80 := by
  by_cases hvalid : n.isValidChar
  · rw [Char.ofNat, dif_pos hvalid] at h
    exact toNat_lt_of_paints h
  · rw [Char.ofNat, dif_neg hvalid] at h
    exact absurd h (by decide)

theorem isWordStart_of_toUpper : ∀ n < 0x80, paints (Char.ofNat n).toUpper = true →
    isWordStart (Char.ofNat n) = true := by
  decide +kernel

theorem isLetter_of_expansion : ∀ p ∈ upperExpansions, (∀ n ∈ p.2, paints (Char.ofNat n) = true) →
    inRanges letterRanges p.1 = true := by
  decide +kernel

theorem isLetter_of_row : ∀ r ∈ upperRows, r.1 + r.2.2.2 < 0x80 → ∀ n ≤ r.2.1, r.1 ≤ n →
    inRanges letterRanges n = true := by
  decide +kernel

/-- What is raised to characters of color names begins a word. -/
theorem isWordStart_of_upperChar {c : Char} (h : ∀ d ∈ upperChar c, paints d = true) : isWordStart c = true := by
  unfold upperChar at h
  split at h
  · rename_i hascii
    have hpaints := h c.toUpper (List.mem_singleton_self _)
    rw [← Char.ofNat_toNat c] at hpaints ⊢
    exact isWordStart_of_toUpper c.toNat hascii hpaints
  · rename_i hlarge
    have hletter : inRanges letterRanges c.toNat = true := by
      unfold mapCase at h
      split at h
      · rename_i codes hcodes
        obtain ⟨before, after, htable, -⟩ := List.lookup_eq_some_iff.mp hcodes
        refine isLetter_of_expansion (c.toNat, codes) ?_ fun n hn => h _ (List.mem_map_of_mem hn)
        rw [htable]
        exact List.mem_append_right before List.mem_cons_self
      · have hsmall := lt_of_paints (h _ (List.mem_singleton_self _))
        unfold shiftBy at hsmall
        split at hsmall
        · rename_i first last step shift hrow
          have hrange := List.find?_some hrow
          simp only [Bool.and_eq_true, decide_eq_true_eq] at hrange
          obtain ⟨⟨hfirst, hlast⟩, -⟩ := hrange
          have hreach : (first : Int) + shift < 0x80 := by omega
          exact isLetter_of_row _ (List.mem_of_find?_eq_some hrow) hreach c.toNat hlast hfirst
        · exact absurd hsmall hlarge
    simp [isWordStart, isLetter, hlarge, hletter]

end Text

namespace Color
open Text

theorem paints_of_mem_table : ∀ p ∈ table, p.1.toList ≠ [] ∧ p.1.toList.all paints = true := by
  decide +kernel

theorem isWord_of_ofName? {text literal : String} (h : ofName? text = some literal) :
    ∃ c more, text.toList = c :: more ∧ isWordStart c = true ∧ ∀ d ∈ more, isWordChar d = true := by
  obtain ⟨before, after, htable, -⟩ := List.lookup_eq_some_iff.mp h
  have hmem : (upper text, literal) ∈ table := by
    rw [htable]
    exact List.mem_append_right before List.mem_cons_self
  obtain ⟨hne, hpaints⟩ := paints_of_mem_table _ hmem
  rw [upper, String.toList_ofList] at hne hpaints
  have hpaints := List.all_eq_true.mp hpaints
  have hstarts : ∀ c ∈ text.toList, isWordStart c = true := fun c hc =>
    isWordStart_of_upperChar fun d hd => hpaints d (List.mem_flatMap.mpr ⟨c, hc, hd⟩)
  cases htext : text.toList with
  | nil =>
    rw [htext] at hne
    exact absurd rfl hne
  | cons c more =>
    rw [htext] at hstarts
    refine ⟨c, more, rfl, hstarts c List.mem_cons_self, fun d hd => ?_⟩
    exact isWordChar_of_isWordStart (hstarts d (List.mem_cons_of_mem c hd))

end Color

/-- A text of several tokens names no color. -/
theorem Statement.Scans.ofName?_eq_none {s : Statement} {offset : Nat} {text : String} {tokens : List Token}
    (h : s.Scans offset text.toList tokens) (hseveral : 2 ≤ tokens.length) : Color.ofName? text = none := by
  cases hname : Color.ofName? text with
  | none => rfl
  | some literal =>
    obtain ⟨c, more, htext, hstart, hmore⟩ := Color.isWord_of_ofName? hname
    rw [htext] at h
    rw [h.unique (.word hstart hmore)] at hseveral
    exact absurd hseveral (Nat.not_succ_le_self 1)

theorem Clause.parameterValue_of_several {source : String} {tokens : List Token} (h : 2 ≤ tokens.length) :
    parameterValue source tokens = .text (Color.normalize (Token.textOf source tokens)) := by
  unfold parameterValue
  split
  · exact absurd h (Nat.not_succ_le_self 1)
  · exact absurd h (Nat.not_succ_le_self 1)
  · by_cases hcolor : Color.isColor (Token.textOf source tokens) = true
    · simp only [hcolor, ↓reduceIte]
    · have hname : Color.ofName? (Token.textOf source tokens) = none := by
        rw [Color.isColor, Bool.or_eq_true, not_or] at hcolor
        simpa using hcolor.1
      simp only [hcolor, Bool.false_eq_true, ↓reduceIte, Color.normalize, hname, Option.getD_none]

/-! ### Literals -/

/-- The text as the only statement of a source. -/
def Statement.alone (text : String) : Statement := { line := 1, text }

/-- Two or more tokens from end to end. Their parentheses nest, and outside of these there is no comma. -/
structure IsRaw (text : String) : Prop where
  plain : Text.Plain text.toList
  first : ∀ c ∈ text.toList.head?, Text.isGap c = false
  last : ∀ c ∈ text.toList.getLast?, Text.isGap c = false
  scanned : ∃ tokens, (Statement.alone text).tokens = .ok tokens
  several : 2 ≤ (Statement.alone text).scan.1.length
  nested : nests 0 (Statement.alone text).scan.1 = true
  shielded : shields isComma 0 (Statement.alone text).scan.1 = true

theorem IsRaw.exists_scans {text : String} (h : IsRaw text) :
    ∃ found, (Statement.alone text).Scans 0 text.toList found ∧ 2 ≤ found.length ∧ nests 0 found = true ∧
      shields isComma 0 found = true := by
  obtain ⟨_, hscanned⟩ := h.scanned
  obtain ⟨-, hcomplete⟩ := Statement.tokens_eq_ok hscanned
  exact ⟨_, Statement.scans_of_complete hcomplete, h.several, h.nested, h.shielded⟩

theorem IsRaw.ne_nil {text : String} (h : IsRaw text) : text.toList ≠ [] := by
  obtain ⟨found, hscans, hseveral, -⟩ := h.exists_scans
  intro hnil
  rw [hnil] at hscans
  cases hscans
  exact absurd hseveral (Nat.not_succ_le_zero 1)

/-- A value as it is written in a record: an integer, which may have zeros in front, a text in double quotes, or
    raw text with gaps around it. -/
inductive Literal where
  | integer (negative : Bool) (zeros n : Nat)
  | quoted (text : String)
  | raw (before text after : String)

namespace Literal

def text : Literal → String
  | integer negative zeros n =>
    (if negative then "-" else "") ++ String.ofList (List.replicate zeros '0') ++ toString n
  | quoted text => "\"" ++ text ++ "\""
  | raw before text after => before ++ text ++ after

def value : Literal → Value
  | integer negative _ n => .number (.int (if negative then -n else n))
  | quoted text => .text text
  | raw _ text _ => .text text

def Valid : Literal → Prop
  | integer _ _ _ => True
  | quoted text => '"' ∉ text.toList ∧ Text.Plain text.toList
  | raw before text after => (∀ c ∈ before.toList ++ after.toList, Text.isGap c = true) ∧ IsRaw text

/-- The tokens of a written value at a place of a statement: they belong together, and the value is made of them. -/
structure Reads (v : Literal) (s : Statement) (offset : Nat) (tokens : List Token) : Prop where
  scans : s.Scans offset v.text.toList tokens
  nested : nests 0 tokens = true
  shielded : shields isComma 0 tokens = true
  ne_nil : tokens ≠ []
  value : Clause.parameterValue s.text tokens = v.value

variable {s : Statement} {offset : Nat}

/-! ### Integers -/

theorem ofDigits_zeros (zeros n : Nat) :
    Decimal.ofDigits (List.replicate zeros '0' ++ Nat.toDigits 10 n) = n := by
  have hzeros : Nat.ofDigitChars 10 (List.replicate zeros '0') 0 = 0 := by
    induction zeros with
    | zero => rfl
    | succ zeros ih => rwa [List.replicate_succ, Nat.ofDigitChars_cons]
  have happend := Nat.ofDigitChars_append (b := 10) (l := List.replicate zeros '0') (m := Nat.toDigits 10 n) 0
  rw [hzeros, Nat.ofDigitChars_ten_toDigits] at happend
  exact happend

theorem digits_zeros (zeros n : Nat) : Digits (List.replicate zeros '0' ++ Nat.toDigits 10 n) := by
  refine ⟨List.append_ne_nil_of_right_ne_nil _ Nat.toDigits_ne_nil, fun c hc => ?_⟩
  rcases List.mem_append.mp hc with hc | hc
  · rw [List.eq_of_mem_replicate hc]
    decide
  · exact Nat.isDigit_of_mem_toDigits (by decide) (by decide) hc

theorem toList_integer (negative : Bool) (zeros n : Nat) :
    (integer negative zeros n).text.toList =
      signOf negative ++ (List.replicate zeros '0' ++ Nat.toDigits 10 n) := by
  cases negative <;> simp [text, signOf, Nat.toList_repr]

theorem sign_or_digit_of_mem {negative : Bool} {zeros n : Nat} {c : Char}
    (hc : c ∈ (integer negative zeros n).text.toList) : c = '-' ∨ Text.isDigit c = true := by
  rw [toList_integer] at hc
  rcases List.mem_append.mp hc with hc | hc
  · cases negative with
    | true => exact Or.inl (List.mem_singleton.mp hc)
    | false => cases hc
  · exact Or.inr ((digits_zeros zeros n).2 c hc)

theorem integer_ne_nil (negative : Bool) (zeros n : Nat) : (integer negative zeros n).text.toList ≠ [] := by
  rw [toList_integer]
  exact List.append_ne_nil_of_right_ne_nil _ (digits_zeros zeros n).1

/-- A written integer is scanned to one token of its number. -/
theorem scans_integer (negative : Bool) (zeros n : Nat) :
    s.Scans offset (integer negative zeros n).text.toList
      [s.cut offset (.number (.int (if negative then -n else n))) (integer negative zeros n).text.toList] := by
  have hlexeme : Lexeme (.number (.int (if negative then -n else n))) (integer negative zeros n).text.toList [] := by
    have hstops : Numeral.StopsAt .integer [] := ⟨trivial, Ends.nil.isDigit, fun _ => Ends.nil.not_goesOn⟩
    have hreads : Lexeme (Numeral.integer.form negative (List.replicate zeros '0' ++ Nat.toDigits 10 n))
        (signOf negative ++ (List.replicate zeros '0' ++ Nat.toDigits 10 n) ++ Numeral.integer.chars) [] :=
      .numeral (digits_zeros zeros n) hstops nofun
    rw [Numeral.form, integerOf, ofDigits_zeros, Numeral.chars, List.append_nil] at hreads
    rwa [toList_integer]
  have hgap : ∀ c ∈ (integer negative zeros n).text.toList.head?, Text.isGap c = false := by
    intro c hc
    rcases sign_or_digit_of_mem (List.mem_of_mem_head? hc) with rfl | hdigit
    · decide
    · exact isGap_of_isWordChar (Text.isWordChar_of_isDigit hdigit)
  exact .lone (integer_ne_nil negative zeros n) hgap hlexeme

theorem reads_integer (negative : Bool) (zeros n : Nat) :
    ∃ tokens, (integer negative zeros n).Reads s offset tokens :=
  ⟨_, scans_integer negative zeros n, rfl, rfl, List.cons_ne_nil _ _, rfl⟩

/-! ### Texts -/

theorem reads_quoted {text : String} (h : '"' ∉ text.toList) : ∃ tokens, (quoted text).Reads s offset tokens := by
  have htext : (quoted text).text.toList = '"' :: (text.toList ++ ['"']) := by simp [Literal.text]
  have hlexeme : Lexeme (.string text) (quoted text).text.toList [] := by
    have hreads : Lexeme (.string (String.ofList text.toList)) ('"' :: (text.toList ++ ['"'])) [] :=
      .string (Or.inl rfl) h
    rwa [String.ofList_toList, ← htext] at hreads
  have hgap : ∀ c ∈ (quoted text).text.toList.head?, Text.isGap c = false := by
    intro c hc
    rw [htext] at hc
    cases hc
    decide
  have hne : (quoted text).text.toList ≠ [] := by
    rw [htext]
    exact List.cons_ne_nil _ _
  exact ⟨_, .lone hne hgap hlexeme, rfl, rfl, List.cons_ne_nil _ _, rfl⟩

theorem reads_raw {before text after : String} {front back : List Char}
    (hgaps : ∀ c ∈ before.toList ++ after.toList, Text.isGap c = true) (h : IsRaw text)
    (hsource : s.text.toList = front ++ ((raw before text after).text.toList ++ back)) :
    ∃ tokens, (raw before text after).Reads s front.length tokens := by
  have htext : (raw before text after).text.toList = before.toList ++ (text.toList ++ after.toList) := by
    simp [Literal.text]
  rw [htext] at hsource
  obtain ⟨found, halone, hseveral, hnested, hshielded⟩ := h.exists_scans
  have hname := halone.ofName?_eq_none hseveral
  -- The tokens of the text alone, as they stand behind what is in front of it.
  have hscan := halone.place s (front.length + before.toList.length)
  have hmany : 2 ≤ (found.map (s.place (front.length + before.toList.length))).length := by rwa [List.length_map]
  refine ⟨found.map (s.place (front.length + before.toList.length)), ?_, ?_, ?_, ?_, ?_⟩
  · have hbefore : ∀ c ∈ before.toList, Text.isGap c = true := fun c hc => hgaps c (List.mem_append_left _ hc)
    have hafter : ∀ c ∈ after.toList, Text.isGap c = true := fun c hc => hgaps c (List.mem_append_right _ hc)
    have hends : Ends after.toList := Breaks.ends fun c hc => hafter c (List.mem_of_mem_head? hc)
    have hclosed := hscan.append (Statement.Scans.gaps hafter .nil) (by rwa [List.append_nil])
    rw [List.append_nil, List.append_nil] at hclosed
    rw [htext]
    exact .gaps hbefore hclosed
  · rw [nests_map (Statement.kind_place s _)]
    exact hnested
  · rw [shields_map (Statement.kind_place s _) fun t => rfl]
    exact hshielded
  · intro hnil
    rw [hnil] at hmany
    exact absurd hmany (Nat.not_succ_le_zero 1)
  · rw [Nat.add_zero, ← List.length_append] at hscan
    have hwhole : s.text.toList = (front ++ before.toList) ++ (text.toList ++ (after.toList ++ back)) := by
      simp [hsource]
    have hcovers := hscan.textOf hwhole h.ne_nil h.first h.last
    rw [String.ofList_toList, List.length_append] at hcovers
    rw [Clause.parameterValue_of_several hmany, hcovers, Color.normalize, hname]
    rfl

/-- A written value is read as what it stands for, wherever it stands. -/
theorem Valid.reads {v : Literal} {front back : List Char} (h : v.Valid)
    (hsource : s.text.toList = front ++ (v.text.toList ++ back)) : ∃ tokens, v.Reads s front.length tokens := by
  cases v with
  | integer negative zeros n => exact reads_integer negative zeros n
  | quoted text => exact reads_quoted h.1
  | raw before text after => exact reads_raw h.1 h.2 hsource

/-! ### On one line -/

theorem harmless_of_isWordChar {cs : List Char} (h : ∀ c ∈ cs, Text.isWordChar c = true) : Text.Harmless cs := by
  intro c hc
  have hword := h c hc
  constructor <;>
  · rintro rfl
    revert hword
    decide

theorem harmless_of_isGap {cs : List Char} (h : ∀ c ∈ cs, Text.isGap c = true) : Text.Harmless cs := by
  intro c hc
  have hgap := h c hc
  constructor <;>
  · rintro rfl
    revert hgap
    decide

theorem harmless_integer (negative : Bool) (zeros n : Nat) : Text.Harmless (integer negative zeros n).text.toList := by
  have hsign : Text.Harmless (signOf negative) := by
    cases negative <;> simp [signOf, Text.Harmless]
  rw [toList_integer]
  refine hsign.append (harmless_of_isWordChar fun c hc => ?_)
  exact Text.isWordChar_of_isDigit ((digits_zeros zeros n).2 c hc)

theorem Valid.plain {v : Literal} (h : v.Valid) : Text.Plain v.text.toList := by
  cases v with
  | integer negative zeros n => exact (harmless_integer negative zeros n).plain
  | quoted text =>
    have hquote : Text.Harmless ['"'] := by simp [Text.Harmless]
    have htext : (quoted text).text.toList = ['"'] ++ (text.toList ++ ['"']) := by simp [Literal.text]
    rw [htext]
    exact (h.2.extend hquote).prepend hquote
  | raw before text after =>
    have htext : (raw before text after).text.toList = before.toList ++ (text.toList ++ after.toList) := by
      simp [Literal.text]
    have hbefore := harmless_of_isGap fun c hc => h.1 c (List.mem_append_left after.toList hc)
    have hafter := harmless_of_isGap fun c hc => h.1 c (List.mem_append_right before.toList hc)
    rw [htext]
    exact (h.2.plain.extend hafter).prepend hbefore

end Literal
end SceneScript
