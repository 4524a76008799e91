import SceneScript.Color
import SceneScript.Span
import SceneScript.Text.Blank

/-!
Texts under a blur. A blur does not tell a letter from the lower-case one it is seen as, nor a place from
another of the same offset. No class of characters and neither case of a text tells a text from the
blurred one.
-/

namespace SceneScript

/-- What is not told apart: a letter from the one it is seen as, a place from the one it is seen as. -/
structure Blur where
  letter : Char → Char
  place : Location → Location
  letter_eq : ∀ c, letter c = c ∨ letter c = c.toLower
  offset_place : ∀ l, (place l).offset = l.offset
  place_unknown : place ⟨0, 1, 0, none⟩ = ⟨0, 1, 0, none⟩

namespace Text

/-- The letters that have a lower case among the ASCII characters. -/
def capitals : List Char := "ABCDEFGHIJKLMNOPQRSTUVWXYZ".toList

theorem mem_capitals {c : Char} (h : c.toLower ≠ c) : c ∈ capitals := by
  have hrange : 'A'.val ≤ c.val ∧ c.val ≤ 'Z'.val := by
    refine Decidable.byContradiction fun hout => h ?_
    exact dif_neg hout
  have hlower : 65 ≤ c.toNat := hrange.1
  have hupper : c.toNat ≤ 90 := hrange.2
  have hall : ∀ n < 26, Char.ofNat (65 + n) ∈ capitals := by decide
  have hc := hall (c.toNat - 65) (by omega)
  rw [Nat.add_sub_cancel' hlower, Char.ofNat_toNat] at hc
  exact hc

/-- A letter and its lower case are letters. -/
theorem isAlpha_of_toLower_ne {c : Char} (h : c.toLower ≠ c) : c.isAlpha = true ∧ c.toLower.isAlpha = true := by
  have hall : (capitals.all fun c => c.isAlpha && c.toLower.isAlpha) = true := by decide
  rw [← Bool.and_eq_true]
  exact List.all_eq_true.mp hall c (mem_capitals h)

end Text

namespace Blur
open Text

variable (b : Blur)

/-! ### Characters -/

/-- What gives the same for each capital and its lower case does not see the blur. -/
theorem letter_invariant {α : Type} [DecidableEq α] (f : Char → α)
    (hf : (capitals.all fun c => f c.toLower = f c) = true) (c : Char) : f (b.letter c) = f c := by
  rcases b.letter_eq c with h | h
  · rw [h]
  · rw [h]
    by_cases hc : c.toLower = c
    · rw [hc]
    · simpa using List.all_eq_true.mp hf c (mem_capitals hc)

theorem letter_letter (c : Char) : b.letter (b.letter c) = b.letter c := by
  have hlower : (b.letter c).toLower = c.toLower := b.letter_invariant Char.toLower (by decide) c
  rcases b.letter_eq c with h | h
  · rw [h, h]
  · rcases b.letter_eq (b.letter c) with h' | h'
    · exact h'
    · rw [h', hlower, h]

/-- A character that is no letter is seen as it is. -/
theorem letter_mark {d : Char} (hd : d.isAlpha = false) : b.letter d = d := by
  rcases b.letter_eq d with h | h
  · exact h
  · refine Decidable.byContradiction fun hne => ?_
    rw [h] at hne
    obtain ⟨halpha, -⟩ := isAlpha_of_toLower_ne hne
    rw [hd] at halpha
    cases halpha

theorem letter_eq_mark {d : Char} (hd : d.isAlpha = false) (c : Char) : b.letter c = d ↔ c = d := by
  constructor
  · intro h
    rcases b.letter_eq c with hc | hc
    · rw [← hc, h]
    · refine Decidable.byContradiction fun hne => ?_
      have hlower : c.toLower ≠ c := by
        rw [← hc, h]
        exact Ne.symm hne
      obtain ⟨-, halpha⟩ := isAlpha_of_toLower_ne hlower
      rw [← hc, h, hd] at halpha
      cases halpha
  · rintro rfl
    exact b.letter_mark hd

@[simp] theorem isBlank_letter (c : Char) : isBlank (b.letter c) = isBlank c :=
  b.letter_invariant isBlank (by decide) c

@[simp] theorem isGap_letter (c : Char) : isGap (b.letter c) = isGap c := b.letter_invariant isGap (by decide) c

@[simp] theorem isDigit_letter (c : Char) : isDigit (b.letter c) = isDigit c :=
  b.letter_invariant isDigit (by decide) c

@[simp] theorem isHexDigit_letter (c : Char) : isHexDigit (b.letter c) = isHexDigit c :=
  b.letter_invariant isHexDigit (by decide) c

@[simp] theorem isWordChar_letter (c : Char) : isWordChar (b.letter c) = isWordChar c :=
  b.letter_invariant isWordChar (by decide) c

@[simp] theorem isWordStart_letter (c : Char) : isWordStart (b.letter c) = isWordStart c :=
  b.letter_invariant isWordStart (by decide) c

theorem letter_of_isDigit {c : Char} (h : isDigit c = true) : b.letter c = c := by
  rcases b.letter_eq c with hc | hc
  · exact hc
  · rw [hc]
    refine Decidable.byContradiction fun hne => ?_
    have hall : (capitals.all fun c => !isDigit c) = true := by decide
    have hdigit := List.all_eq_true.mp hall c (mem_capitals hne)
    rw [h] at hdigit
    cases hdigit

/-! ### Case -/

theorem upperChar_letter (c : Char) : upperChar (b.letter c) = upperChar c :=
  b.letter_invariant upperChar (by decide) c

theorem lowerChar_letter (c : Char) : lowerChar (b.letter c) = lowerChar c :=
  b.letter_invariant lowerChar (by decide) c

theorem meetsCased_letter (cs : List Char) : meetsCased (cs.map b.letter) = meetsCased cs := by
  have hignored : ∀ c : Char, inRanges caseIgnorableRanges (b.letter c).toNat = inRanges caseIgnorableRanges c.toNat :=
    b.letter_invariant (fun c => inRanges caseIgnorableRanges c.toNat) (by decide)
  have hcased : ∀ c : Char, inRanges casedRanges (b.letter c).toNat = inRanges casedRanges c.toNat :=
    b.letter_invariant (fun c => inRanges casedRanges c.toNat) (by decide)
  unfold meetsCased
  induction cs with
  | nil => rfl
  | cons c cs ih =>
    by_cases hc : inRanges caseIgnorableRanges c.toNat = true
    · simpa [List.dropWhile_cons, hignored, hc] using ih
    · simp [hignored, hcased, hc]

theorem lowerFrom_letter (before cs : List Char) :
    lowerFrom (before.map b.letter) (cs.map b.letter) = lowerFrom before cs := by
  induction cs generalizing before with
  | nil => rfl
  | cons c cs ih =>
    have hsigma : b.letter c = 'Σ' ↔ c = 'Σ' := b.letter_eq_mark rfl c
    have hrest := ih (c :: before)
    rw [List.map_cons] at hrest ⊢
    simp only [lowerFrom, hsigma, meetsCased_letter, lowerChar_letter, hrest]

/-! ### Texts -/

/-- The text with its letters as they are seen. -/
def text (s : String) : String := s.map b.letter

@[simp] theorem toList_text (s : String) : (b.text s).toList = s.toList.map b.letter := String.toList_map

theorem text_ofList (cs : List Char) : b.text (String.ofList cs) = String.ofList (cs.map b.letter) := by
  rw [← String.toList_inj, toList_text, String.toList_ofList, String.toList_ofList]

theorem text_text (s : String) : b.text (b.text s) = b.text s := by
  rw [← String.toList_inj, toList_text, toList_text, List.map_map]
  exact List.map_congr_left fun c _ => b.letter_letter c

theorem text_append (s t : String) : b.text (s ++ t) = b.text s ++ b.text t := by
  rw [← String.toList_inj]
  simp

/-- A text in lower case is seen as it is. -/
theorem text_eq_self {s : String} (h : ∀ c ∈ s.toList, c.toLower = c) : b.text s = s := by
  have hself : ∀ c ∈ s.toList, b.letter c = c := by
    intro c hc
    rcases b.letter_eq c with heq | heq
    · exact heq
    · rw [heq, h c hc]
  rw [← String.toList_inj, toList_text]
  exact (List.map_congr_left hself).trans (List.map_id _)

/-- A text quoted between words in lower case is seen as it is seen by itself. -/
theorem text_quoted (front back : String) (hfront : ∀ c ∈ front.toList, c.toLower = c)
    (hback : ∀ c ∈ back.toList, c.toLower = c) (s : String) :
    b.text (front ++ s ++ back) = front ++ b.text s ++ back := by
  rw [text_append, text_append, b.text_eq_self hfront, b.text_eq_self hback]

@[simp] theorem length_text (s : String) : (b.text s).length = s.length := by
  rw [← String.length_toList, toList_text, List.length_map, String.length_toList]

theorem text_intercalate (glue : String) (ss : List String) :
    b.text (glue.intercalate ss) = (b.text glue).intercalate (ss.map b.text) := by
  rw [← String.toList_inj, toList_text, String.toList_intercalate, String.toList_intercalate, toList_text]
  induction ss with
  | nil => rfl
  | cons s ss ih =>
    cases ss with
    | nil => simp
    | cons t ss =>
      simp only [List.map_cons, List.intercalate_cons_cons, List.map_append, toList_text] at ih ⊢
      rw [ih]

@[simp] theorem isEmpty_text (s : String) : (b.text s).isEmpty = s.isEmpty := by
  rw [Bool.eq_iff_iff, String.isEmpty_iff, String.isEmpty_iff, ← String.toList_inj, ← String.toList_inj, toList_text]
  simp

theorem slice_text (s : String) (start stop : Nat) : slice (b.text s) start stop = b.text (slice s start stop) := by
  rw [slice, slice, text_ofList, toList_text, ← List.map_take, ← List.map_drop]

@[simp] theorem upper_text (s : String) : upper (b.text s) = upper s := by
  have hchars : ∀ cs : List Char, (cs.map b.letter).flatMap upperChar = cs.flatMap upperChar := by
    intro cs
    rw [List.flatMap_map, funext b.upperChar_letter]
  rw [upper, upper, toList_text, hchars]

@[simp] theorem lower_text (s : String) : lower (b.text s) = lower s := by
  have hchars := b.lowerFrom_letter [] s.toList
  rw [lower, lower, toList_text]
  exact congrArg String.ofList hchars

theorem dropBlanks_letter (cs : List Char) : dropBlanks (cs.map b.letter) = (dropBlanks cs).map b.letter := by
  rw [dropBlanks, dropBlanks, List.dropWhile_map]
  exact congrArg (fun p => List.map b.letter (List.dropWhile p cs)) (funext b.isBlank_letter)

theorem trimChars_letter (cs : List Char) : trimChars (cs.map b.letter) = (trimChars cs).map b.letter := by
  rw [trimChars, trimChars, dropBlanks_letter, ← List.map_reverse, dropBlanks_letter, List.map_reverse]

theorem trim_text (s : String) : trim (b.text s) = b.text (trim s) := by
  rw [trim, trim, toList_text, trimChars_letter, text_ofList]

/-! ### Colors -/

theorem isHex_text (s : String) : Color.isHex (b.text s) = Color.isHex s := by
  unfold Color.isHex
  rw [toList_text]
  cases s.toList with
  | nil => rfl
  | cons c digits =>
    have hmark : b.letter c = '#' ↔ c = '#' := b.letter_eq_mark rfl c
    by_cases hc : c = '#'
    · subst hc
      have hdigits : (digits.map b.letter).all isHexDigit = digits.all isHexDigit := by
        rw [List.all_map]
        exact congrArg (digits.all ·) (funext b.isHexDigit_letter)
      simp [b.letter_mark (d := '#') rfl, hdigits]
    · have hc' : b.letter c ≠ '#' := fun h => hc (hmark.mp h)
      simp only [List.map_cons]
      split
      · rename_i heq
        exact absurd (List.cons.inj heq).1 hc'
      · split
        · rename_i heq
          exact absurd (List.cons.inj heq).1 hc
        · rfl

@[simp] theorem isColor_text (s : String) : Color.isColor (b.text s) = Color.isColor s := by
  rw [Color.isColor, Color.isColor, isHex_text, Color.ofName?, Color.ofName?, upper_text]

/-- A color name gives its literal, in whatever case; any other text stays as it is written. -/
theorem text_normalize (s : String) : b.text (Color.normalize (b.text s)) = b.text (Color.normalize s) := by
  unfold Color.normalize Color.ofName?
  rw [upper_text]
  cases Color.table.lookup (upper s) with
  | none => exact b.text_text s
  | some literal => rfl

end Blur
end SceneScript
