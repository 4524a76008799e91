import SceneScript.Text.Blank
import SceneScript.Text.Case
import Mathlib.Data.List.Basic

/-!
Upper case is final. The tables of case are checked once, range against range: no character that another one is raised
to is raised further, and none is a blank. So a text in upper case is its own upper case, and the blanks in it are those
of the text it was made from.
-/

namespace SceneScript.Text

/-! ### Stretches of code points -/

/-- Code points from the first to the last, in steps. -/
structure Stretch where
  first : Nat
  last : Nat
  step : Nat

namespace Stretch

/-- The code point is on the stretch. -/
def Holds (s : Stretch) (n : Nat) : Prop := s.first ≤ n ∧ n ≤ s.last ∧ (n - s.first) % s.step = 0

/-- No code point from `a` to `b` is on the stretch; if `even`, none at an even distance from `a`. -/
def avoids (a b : Nat) (even : Bool) (s : Stretch) : Bool :=
  Nat.blt b s.first || Nat.blt s.last a || even && Nat.beq s.step 2 && Nat.beq ((a + s.first) % 2) 1

theorem not_holds_of_avoids {a b n : Nat} {even : Bool} {s : Stretch} (h : s.avoids a b even = true) (ha : a ≤ n)
    (hb : n ≤ b) (heven : even = true → (n - a) % 2 = 0) : ¬s.Holds n := by
  rintro ⟨hfirst, hlast, hstep⟩
  simp only [avoids, Bool.or_eq_true, Bool.and_eq_true, Nat.blt_eq, Nat.beq_eq] at h
  rcases h with (h | h) | ⟨⟨htrue, htwo⟩, hodd⟩
  · omega
  · omega
  · have hdistance := heven htrue
    rw [htwo] at hstep
    omega

end Stretch

/-- What has another upper case, one or several characters. -/
def unraised : List Stretch :=
  upperRows.map (fun r => ⟨r.1, r.2.1, r.2.2.1⟩) ++ upperExpansions.map fun p => ⟨p.1, p.1, 1⟩

def blankRanges : List (Nat × Nat) :=
  [(0x09, 0x0D), (0x1C, 0x20), (0x85, 0x85), (0xA0, 0xA0), (0x1680, 0x1680), (0x2000, 0x200A), (0x2028, 0x2029),
    (0x202F, 0x202F), (0x205F, 0x205F), (0x3000, 0x3000)]

def blanks : List Stretch := blankRanges.map fun r => ⟨r.1, r.2, 1⟩

theorem exists_of_inRanges {ranges : List (Nat × Nat)} {n : Nat} (h : inRanges ranges n = true) :
    ∃ r ∈ ranges, r.1 ≤ n ∧ n ≤ r.2 := by
  induction ranges with
  | nil => cases h
  | cons r ranges ih =>
    rw [inRanges] at h
    split at h
    · cases h
    · rename_i hfirst
      rcases Bool.or_eq_true_iff.mp h with hlast | hrest
      · exact ⟨r, List.mem_cons_self, Nat.le_of_not_lt hfirst, of_decide_eq_true hlast⟩
      · obtain ⟨r', hr', hholds⟩ := ih hrest
        exact ⟨r', List.mem_cons_of_mem r hr', hholds⟩

theorem exists_of_isBlank {c : Char} (h : isBlank c = true) : ∃ s ∈ blanks, s.Holds c.toNat := by
  have h : inRanges blankRanges c.toNat = true := h
  obtain ⟨r, hr, hfirst, hlast⟩ := exists_of_inRanges h
  exact ⟨⟨r.1, r.2, 1⟩, List.mem_map.mpr ⟨r, hr, rfl⟩, hfirst, hlast, Nat.mod_one _⟩

theorem upperChar_eq_self {c : Char} (hlarge : 0x80 ≤ c.toNat) (h : ∀ s ∈ unraised, ¬s.Holds c.toNat) :
    upperChar c = [c] := by
  have hexpansion : upperExpansions.lookup c.toNat = none := by
    refine List.lookup_eq_none_iff.mpr fun p hp => ?_
    have hmem : ⟨p.1, p.1, 1⟩ ∈ unraised := List.mem_append_right _ (List.mem_map.mpr ⟨p, hp, rfl⟩)
    have hne : c.toNat ≠ p.1 := fun heq => h _ hmem ⟨Nat.le_of_eq heq.symm, Nat.le_of_eq heq, Nat.mod_one _⟩
    simpa using hne
  have hrow : ∀ r ∈ upperRows, ¬(r.1 ≤ c.toNat && c.toNat ≤ r.2.1 && (c.toNat - r.1) % r.2.2.1 == 0) = true := by
    intro r hr hholds
    have hmem : ⟨r.1, r.2.1, r.2.2.1⟩ ∈ unraised := List.mem_append_left _ (List.mem_map.mpr ⟨r, hr, rfl⟩)
    simp only [Bool.and_eq_true, decide_eq_true_eq, beq_iff_eq] at hholds
    exact h _ hmem ⟨hholds.1.1, hholds.1.2, hholds.2⟩
  rw [upperChar, if_neg (Nat.not_lt.mpr hlarge), mapCase, hexpansion]
  simp only [shiftBy]
  rw [List.find?_eq_none.mpr hrow]
  simp only [Char.ofNat_toNat]

/-! ### What characters are raised to -/

/-- The upper case of the character is itself, and it is no blank. -/
def IsRaised (c : Char) : Prop := upperChar c = [c] ∧ isBlank c = false

/-- The code points from `a` to `b` are characters that are not in question: none of them has another upper case and
    none is a blank. If `even`, that is said of those at an even distance from `a`. -/
def raisedFrom (a b : Nat) (even : Bool) : Bool :=
  (Nat.blt b 0xD800 || Nat.blt 0xDFFF a && Nat.blt b 0x110000) &&
    (Nat.ble 0x80 a || Nat.beq a b && (Char.ofNat a).toUpper == Char.ofNat a) &&
      (unraised ++ blanks).all (Stretch.avoids a b even)

theorem isRaised_of_raisedFrom {a b n : Nat} {even : Bool} (h : raisedFrom a b even = true) (ha : a ≤ n) (hb : n ≤ b)
    (heven : even = true → (n - a) % 2 = 0) : IsRaised (Char.ofNat n) := by
  simp only [raisedFrom, Bool.and_eq_true, Bool.or_eq_true, Nat.blt_eq, Nat.ble_eq, Nat.beq_eq, beq_iff_eq] at h
  obtain ⟨⟨hvalid, hascii⟩, havoids⟩ := h
  have hvalid : n.isValidChar := by
    rcases hvalid with hsmall | ⟨hlarge, hsmall⟩
    · exact Or.inl (by omega)
    · exact Or.inr ⟨by omega, by omega⟩
  have hn : (Char.ofNat n).toNat = n := by
    rw [Char.ofNat, dif_pos hvalid]
    rfl
  have hclear : ∀ s ∈ unraised ++ blanks, ¬s.Holds (Char.ofNat n).toNat := by
    intro s hs
    rw [hn]
    exact Stretch.not_holds_of_avoids (List.all_eq_true.mp havoids s hs) ha hb heven
  constructor
  · by_cases hlarge : 0x80 ≤ n
    · exact upperChar_eq_self (by rwa [hn]) fun s hs => hclear s (List.mem_append_left _ hs)
    · have hself : (Char.ofNat n).toUpper = Char.ofNat n := by
        rcases hascii with hascii | ⟨rfl, hself⟩
        · omega
        · rwa [Nat.le_antisymm hb ha]
      rw [upperChar, if_pos (by omega), hself]
  · refine Bool.eq_false_iff.mpr fun hblank => ?_
    obtain ⟨s, hs, hholds⟩ := exists_of_isBlank hblank
    exact hclear s (List.mem_append_right _ hs) hholds

theorem raisedFrom_rows : (upperRows.all fun r =>
    (0 ≤ r.1 + r.2.2.2 && (Nat.beq r.2.2.1 1 || Nat.beq r.2.2.1 2)) &&
      raisedFrom (r.1 + r.2.2.2).toNat (r.2.1 + r.2.2.2).toNat (Nat.beq r.2.2.1 2 || Nat.beq r.1 r.2.1)) = true := by
  decide +kernel

theorem raisedFrom_codes : (upperExpansions.all fun p => p.2.all fun n => raisedFrom n n true) = true := by
  decide +kernel

theorem upperChar_ascii : ∀ n < 0x80, upperChar (Char.ofNat n) = [Char.ofNat n] ∨
    (upperChar (Char.ofNat n).toUpper = [(Char.ofNat n).toUpper] ∧ isBlank (Char.ofNat n).toUpper = false) := by
  decide +kernel

/-- A character is in upper case, or what it is raised to is. -/
theorem upperChar_cases (c : Char) : upperChar c = [c] ∨ ∀ d ∈ upperChar c, IsRaised d := by
  by_cases hascii : c.toNat < 0x80
  · have hcases := upperChar_ascii c.toNat hascii
    rw [Char.ofNat_toNat] at hcases
    refine hcases.imp_right fun hraised d hd => ?_
    rw [upperChar, if_pos hascii] at hd
    rwa [List.mem_singleton.mp hd]
  · have hlarge : upperChar c = mapCase upperExpansions upperRows c := if_neg hascii
    rw [hlarge]
    unfold mapCase
    cases hcodes : upperExpansions.lookup c.toNat with
    | some codes =>
      refine Or.inr fun d hd => ?_
      obtain ⟨n, hn, rfl⟩ := List.mem_map.mp hd
      obtain ⟨before, after, htable, -⟩ := List.lookup_eq_some_iff.mp hcodes
      have hmem : (c.toNat, codes) ∈ upperExpansions := by
        rw [htable]
        exact List.mem_append_right before List.mem_cons_self
      have hcheck := List.all_eq_true.mp (List.all_eq_true.mp raisedFrom_codes _ hmem) n hn
      exact isRaised_of_raisedFrom hcheck (Nat.le_refl n) (Nat.le_refl n) fun _ => by simp
    | none =>
      dsimp only
      unfold shiftBy
      split
      · rename_i first last step shift hrow
        refine Or.inr fun d hd => ?_
        rw [List.mem_singleton.mp hd]
        have hrange := List.find?_some hrow
        have hcheck := List.all_eq_true.mp raisedFrom_rows _ (List.mem_of_find?_eq_some hrow)
        simp only [Bool.and_eq_true, Bool.or_eq_true, decide_eq_true_eq, beq_iff_eq, Nat.beq_eq] at hrange hcheck
        obtain ⟨⟨hfirst, hlast⟩, hstep⟩ := hrange
        obtain ⟨⟨hnonneg, hsteps⟩, hraised⟩ := hcheck
        refine isRaised_of_raisedFrom hraised (by omega) (by omega) fun heven => ?_
        simp only [Bool.or_eq_true, Nat.beq_eq] at heven
        rcases heven with rfl | rfl
        · omega
        · have hsame : c.toNat = first := by omega
          rw [hsame, Nat.sub_self]
      · exact Or.inl (by rw [Char.ofNat_toNat])

theorem fixed_of_mem_upperChar {c d : Char} (h : d ∈ upperChar c) : upperChar d = [d] ∧ (isBlank d = true → d = c) := by
  rcases upperChar_cases c with hself | hraised
  · rw [hself] at h
    rw [List.mem_singleton.mp h]
    exact ⟨hself, fun _ => rfl⟩
  · obtain ⟨hfixed, hblank⟩ := hraised d h
    exact ⟨hfixed, fun htrue => absurd htrue (by simp [hblank])⟩

theorem avoids_blanks :
    (blanks.all fun s => Nat.blt s.last 0x80 || unraised.all (Stretch.avoids s.first s.last false)) = true := by
  decide +kernel

/-- Blanks have no case. -/
theorem upperChar_of_isBlank {c : Char} (h : isBlank c = true) : upperChar c = [c] := by
  by_cases hascii : c.toNat < 0x80
  · have hall : ∀ n < 0x80, isBlank (Char.ofNat n) = true → upperChar (Char.ofNat n) = [Char.ofNat n] := by
      decide +kernel
    rw [← Char.ofNat_toNat c] at h ⊢
    exact hall c.toNat hascii h
  · obtain ⟨s, hs, hfirst, hlast, -⟩ := exists_of_isBlank h
    have hcheck := List.all_eq_true.mp avoids_blanks s hs
    rw [Bool.or_eq_true, Nat.blt_eq] at hcheck
    rcases hcheck with hsmall | havoids
    · omega
    · refine upperChar_eq_self (Nat.le_of_not_lt hascii) fun t ht => ?_
      exact Stretch.not_holds_of_avoids (List.all_eq_true.mp havoids t ht) hfirst hlast nofun

/-- What a blank is raised to is that blank, and what any other character is raised to is no blank. -/
theorem isBlank_of_mem_upperChar {c d : Char} (h : d ∈ upperChar c) : isBlank d = isBlank c := by
  cases hc : isBlank c with
  | true =>
    rw [upperChar_of_isBlank hc] at h
    rw [List.mem_singleton.mp h, hc]
  | false =>
    refine Bool.eq_false_iff.mpr fun hblank => ?_
    rw [(fixed_of_mem_upperChar h).2 hblank, hc] at hblank
    cases hblank

theorem upperChar_ne_nil (c : Char) : upperChar c ≠ [] := by
  by_cases hascii : c.toNat < 0x80
  · rw [upperChar, if_pos hascii]
    exact List.cons_ne_nil _ _
  · rw [upperChar, if_neg hascii, mapCase]
    cases hcodes : upperExpansions.lookup c.toNat with
    | none => exact List.cons_ne_nil _ _
    | some codes =>
      obtain ⟨before, after, htable, -⟩ := List.lookup_eq_some_iff.mp hcodes
      have hmem : (c.toNat, codes) ∈ upperExpansions := by
        rw [htable]
        exact List.mem_append_right before List.mem_cons_self
      have hall : (upperExpansions.all fun p => !p.2.isEmpty) = true := by decide +kernel
      simpa using List.all_eq_true.mp hall _ hmem

theorem not_isBlank_of_isWordChar {c : Char} (h : isWordChar c = true) : isBlank c = false := by
  refine Bool.eq_false_iff.mpr fun hblank => ?_
  have hall : (blanks.all fun s => (List.range' s.first (s.last + 1 - s.first)).all fun n =>
      !isWordChar (Char.ofNat n)) = true := by
    decide +kernel
  obtain ⟨s, hs, hfirst, hlast, -⟩ := exists_of_isBlank hblank
  have hmem : c.toNat ∈ List.range' s.first (s.last + 1 - s.first) := List.mem_range'_1.mpr ⟨hfirst, by omega⟩
  have hword := List.all_eq_true.mp (List.all_eq_true.mp hall s hs) c.toNat hmem
  rw [Char.ofNat_toNat, h] at hword
  cases hword

/-! ### Texts -/

variable {s : String}

@[simp] theorem toList_upper_eq (s : String) : (upper s).toList = s.toList.flatMap upperChar := String.toList_ofList

theorem upper_append (s t : String) : upper (s ++ t) = upper s ++ upper t := by
  rw [upper, upper, upper, String.toList_append, List.flatMap_append, String.ofList_append]

theorem upper_upper (s : String) : upper (upper s) = upper s := by
  have hfixed : ∀ d ∈ s.toList.flatMap upperChar, upperChar d = [d] := by
    intro d hd
    obtain ⟨c, -, hd⟩ := List.mem_flatMap.mp hd
    exact (fixed_of_mem_upperChar hd).1
  rw [upper, upper, String.toList_ofList, List.flatMap_congr hfixed, List.flatMap_singleton']

/-- Upper case makes no blanks. -/
theorem isBlank_of_mem_upper (h : ∀ c ∈ s.toList, isBlank c = false) : ∀ d ∈ (upper s).toList, isBlank d = false := by
  intro d hd
  rw [toList_upper_eq] at hd
  obtain ⟨c, hc, hd⟩ := List.mem_flatMap.mp hd
  rw [isBlank_of_mem_upperChar hd, h c hc]

theorem upper_of_blanks (h : ∀ c ∈ s.toList, isBlank c = true) : upper s = s := by
  have hself : ∀ c ∈ s.toList, upperChar c = [c] := fun c hc => upperChar_of_isBlank (h c hc)
  rw [upper, List.flatMap_congr hself, List.flatMap_singleton', String.ofList_toList]

end SceneScript.Text
