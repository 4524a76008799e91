import SceneScript.Token.Scan

/-!
How far a scan gets. Quotes and minus signs stand only at the front of a lexeme, apart from those inside
strings; so a scan stops at a signed dimension that runs into a word exactly if one stands outside of
all strings of the text.
-/

namespace SceneScript

namespace Text

theorem isWordChar_of_isAlphanum {c : Char} (hle : c ≤ 'z') (h : c.isAlphanum = true) : isWordChar c = true := by
  have hascii : c.toNat < 0x80 := by
    simp only [Char.le_def, UInt32.le_iff_toNat_le] at hle
    exact Nat.lt_of_le_of_lt hle (by decide)
  simp [isWordChar, hascii, h]

theorem isWordChar_of_isAlpha {c : Char} (hle : c ≤ 'z') (h : c.isAlpha = true) : isWordChar c = true :=
  isWordChar_of_isAlphanum hle (Bool.or_eq_true_iff.mpr (Or.inl h))

theorem isWordChar_of_isDigit {c : Char} (h : isDigit c = true) : isWordChar c = true := by
  have hdigit : c.isDigit = true := h
  simp only [isDigit, Bool.and_eq_true, decide_eq_true_eq] at h
  exact isWordChar_of_isAlphanum (Char.le_trans h.2 (by decide)) (Bool.or_eq_true_iff.mpr (Or.inr hdigit))

theorem isWordChar_of_isHexDigit {c : Char} (h : isHexDigit c = true) : isWordChar c = true := by
  simp only [isHexDigit, Bool.or_eq_true, Bool.and_eq_true, decide_eq_true_eq] at h
  rcases h with (h | ⟨hge, hle⟩) | ⟨hge, hle⟩
  · exact isWordChar_of_isDigit h
  · have hz : c ≤ 'z' := Char.le_trans hle (by decide)
    have hlower : c.isLower = true := Bool.and_eq_true_iff.mpr ⟨decide_eq_true hge, decide_eq_true hz⟩
    exact isWordChar_of_isAlpha hz (Bool.or_eq_true_iff.mpr (Or.inr hlower))
  · have hz : c ≤ 'Z' := Char.le_trans hle (by decide)
    have hupper : c.isUpper = true := decide_eq_true ⟨hge, hz⟩
    exact isWordChar_of_isAlpha (Char.le_trans hz (by decide)) (Bool.or_eq_true_iff.mpr (Or.inl hupper))

theorem isWordChar_of_mem_takeWhile {p : Char → Bool} (hp : ∀ {c}, p c = true → isWordChar c = true)
    {cs : List Char} {c : Char} (h : c ∈ cs.takeWhile p) : isWordChar c = true :=
  hp (List.all_eq_true.mp List.all_takeWhile c h)

end Text

namespace Token
open Text

/-- The characters that open a string. -/
def IsQuote (c : Char) : Prop := c = '"' ∨ c = '\''

/-- One or more digits. -/
def Digits (cs : List Char) : Prop := cs ≠ [] ∧ ∀ c ∈ cs, isDigit c = true

/-- A dimension and right after it a word character: `5x10z`. -/
def Joined (cs : List Char) : Prop :=
  ∃ width cross height next rest, cs = width ++ cross :: (height ++ next :: rest) ∧
    Digits width ∧ (cross = 'x' ∨ cross = 'X') ∧ Digits height ∧
    isWordChar next = true ∧ isDigit next = false

/-- A signed dimension that runs into a word: `-5x10z`. -/
def RunsOn (cs : List Char) : Prop := ∃ rest, cs = '-' :: rest ∧ Joined rest

/-- Characters in which every string that is opened is closed. -/
inductive Closed : List Char → Prop
  | nil : Closed []
  | plain {c : Char} {cs : List Char} : ¬IsQuote c → Closed cs → Closed (c :: cs)
  | quoted {q : Char} {body cs : List Char} :
      IsQuote q → q ∉ body → Closed cs → Closed (q :: (body ++ q :: cs))

/-- What one lexeme is made of: a string, or characters without a quote of which only the first can be a
    sign. -/
inductive Shape : List Char → Prop
  | quoted {q : Char} {body : List Char} : IsQuote q → q ∉ body → Shape (q :: (body ++ [q]))
  | plain {c : Char} {more : List Char} :
      ¬IsQuote c → (∀ d ∈ more, isWordChar d = true ∨ d = '.') → Shape (c :: more)

/-! ### Numerals -/

/-- Where a run of characters of a class ends is told by the next character. -/
theorem takeWhile_append {p : Char → Bool} {cs rest : List Char} (h : ∀ c ∈ cs, p c = true)
    (hrest : ∀ c ∈ rest.head?, p c = false) :
    (cs ++ rest).takeWhile p = cs ∧ (cs ++ rest).dropWhile p = rest := by
  rw [List.takeWhile_append_of_pos h, List.dropWhile_append_of_pos h]
  cases rest with
  | nil => simp
  | cons c rest =>
    have hc : p c = false := hrest c rfl
    simp [hc]

/-- The first occurrence of a character is unique. -/
theorem append_cons_inj {q : Char} {cs cs' rest rest' : List Char} (hcs : q ∉ cs) (hcs' : q ∉ cs')
    (h : cs ++ q :: rest = cs' ++ q :: rest') : cs = cs' := by
  have htake : ∀ {ds more : List Char}, q ∉ ds → (ds ++ q :: more).takeWhile (· != q) = ds := by
    intro ds more hds
    refine (takeWhile_append (fun d hd => ?_) (by simp)).1
    simpa using fun heq : d = q => hds (heq ▸ hd)
  rw [← htake hcs, h, htake hcs']

theorem numeralTail_crossed {cs height : List Char} {cross : Char}
    (h : (numeralTail cs).1 = .crossed cross height) :
    cs = cross :: (height ++ (numeralTail cs).2) ∧ (cross = 'x' ∨ cross = 'X') ∧ Digits height ∧
      ∀ c ∈ (numeralTail cs).2.head?, isDigit c = false := by
  refine ⟨?_, ?_⟩
  · have happend := numeralTail_append cs
    rw [h] at happend
    exact happend.symm
  · unfold numeralTail at h ⊢
    split at h
    · split at h <;> cases h
    · rename_i c d more _
      split at h
      · rename_i hcross
        cases h
        rw [if_pos hcross]
        simp only [Bool.and_eq_true, Bool.or_eq_true, decide_eq_true_eq] at hcross
        refine ⟨hcross.1, ⟨by simp [hcross.2], List.all_eq_true.mp List.all_takeWhile⟩, fun c hc => ?_⟩
        have hstop := List.head?_dropWhile_not isDigit (d :: more)
        rw [hc] at hstop
        simpa using hstop
      · cases h
    · cases h

theorem numeralTail_eq_crossed {rest height : List Char} {cross : Char} (hcross : cross = 'x' ∨ cross = 'X')
    (hheight : Digits height) (hrest : ∀ c ∈ rest.head?, isDigit c = false) :
    numeralTail (cross :: (height ++ rest)) = (.crossed cross height, rest) := by
  obtain ⟨htake, hdrop⟩ := takeWhile_append hheight.2 hrest
  cases height with
  | nil => exact absurd rfl hheight.1
  | cons d height =>
    have hd : isDigit d = true := hheight.2 d List.mem_cons_self
    rw [List.cons_append] at htake hdrop ⊢
    rcases hcross with rfl | rfl <;> simp [numeralTail, hd, htake, hdrop]

theorem Numeral.chars_shape {cs : List Char} {c : Char} (h : c ∈ (numeralTail cs).1.chars) :
    isWordChar c = true ∨ c = '.' := by
  unfold numeralTail at h
  split at h
  · split at h
    · rcases List.mem_cons.mp h with rfl | h
      · exact Or.inr rfl
      · exact Or.inl (isWordChar_of_mem_takeWhile isWordChar_of_isDigit h)
    · cases h
  · split at h
    · rename_i hcross
      simp only [Bool.and_eq_true, Bool.or_eq_true, decide_eq_true_eq] at hcross
      rcases List.mem_cons.mp h with rfl | h
      · rcases hcross.1 with rfl | rfl <;> exact Or.inl (by decide)
      · exact Or.inl (isWordChar_of_mem_takeWhile isWordChar_of_isDigit h)
    · cases h
  · cases h

theorem scanNumeral_lexeme {sign cs : List Char} {d : Char} {hd : isDigit d = true} {p : Piece (sign ++ d :: cs)}
    (h : scanNumeral sign d cs hd = .ok p) :
    ∃ more, p.lexeme = sign ++ d :: more ∧ ∀ c ∈ more, isWordChar c = true ∨ c = '.' := by
  have hwhole : (d :: cs).takeWhile isDigit = d :: cs.takeWhile isDigit := by simp [hd]
  have hdigits : ∀ c ∈ cs.takeWhile isDigit, isWordChar c = true ∨ c = '.' := fun c hc =>
    Or.inl (isWordChar_of_mem_takeWhile isWordChar_of_isDigit hc)
  have hhead : ∀ c ∈ cs.takeWhile isDigit ++ (numeralTail ((d :: cs).dropWhile isDigit)).1.chars,
      isWordChar c = true ∨ c = '.' := by
    intro c hc
    rcases List.mem_append.mp hc with hc | hc
    · exact hdigits c hc
    · exact Numeral.chars_shape hc
  simp only [scanNumeral] at h
  split at h
  · split at h
    · cases h
      refine ⟨_, by simp only [hwhole, List.append_assoc, List.cons_append]; rfl, fun c hc => ?_⟩
      rw [← List.append_assoc] at hc
      rcases List.mem_append.mp hc with hc | hc
      · exact hhead c hc
      · exact Or.inl (isWordChar_of_mem_takeWhile id hc)
    · split at h
      · cases h
      · cases h
        exact ⟨_, by simp only [hwhole, List.append_assoc, List.cons_append], hhead⟩
  · cases h
    exact ⟨_, by simp only [hwhole, List.append_assoc, List.cons_append], hhead⟩

theorem scanNumeral_error {sign cs : List Char} {d : Char} {hd : isDigit d = true} {e : ScanError}
    (h : scanNumeral sign d cs hd = .error e) :
    (∃ lexeme, e = .badInteger lexeme) ∧ sign ≠ [] ∧ Joined (d :: cs) := by
  simp only [scanNumeral] at h
  split at h
  · rename_i hword
    split at h
    · cases h
    · rename_i hsign
      split at h
      · rename_i cross height hcrossed
        cases h
        obtain ⟨htail, hcross, hheight, hstop⟩ := numeralTail_crossed hcrossed
        refine ⟨⟨_, rfl⟩, by simpa using hsign, (d :: cs).takeWhile isDigit, cross, height, ?_⟩
        cases hrest : (numeralTail ((d :: cs).dropWhile isDigit)).2 with
        | nil => simp [hrest, meetsWord] at hword
        | cons next rest =>
          rw [hrest] at hword hstop htail
          refine ⟨next, rest, ?_, ⟨by simp [hd], List.all_eq_true.mp List.all_takeWhile⟩, hcross, hheight,
            hword, hstop next rfl⟩
          rw [← htail, List.takeWhile_append_dropWhile]
      · cases h
  · cases h

theorem scanNumeral_joined (sign : Char) {d : Char} {cs : List Char} (hd : isDigit d = true)
    (h : Joined (d :: cs)) :
    ∃ lexeme, scanNumeral [sign] d cs hd = .error (.badInteger lexeme) := by
  obtain ⟨width, cross, height, next, rest, heq, hwidth, hcross, hheight, hword, hnext⟩ := h
  have hstop : ∀ c ∈ (cross :: (height ++ next :: rest)).head?, isDigit c = false := by
    intro c hc
    cases hc
    rcases hcross with rfl | rfl <;> decide
  have htail : numeralTail ((d :: cs).dropWhile isDigit) = (.crossed cross height, next :: rest) := by
    rw [heq, (takeWhile_append hwidth.2 hstop).2]
    refine numeralTail_eq_crossed hcross hheight fun c hc => ?_
    cases hc
    exact hnext
  simp only [scanNumeral, htail, meetsWord, hword]
  exact ⟨_, rfl⟩

/-! ### Strings -/

theorem scanString_lexeme {quote : Char} {rest : List Char} {p : Piece (quote :: rest)}
    (h : scanString quote rest = .ok p) :
    ∃ body, p.lexeme = quote :: (body ++ [quote]) ∧ quote ∉ body := by
  unfold scanString at h
  split at h
  · cases h
  · rename_i close after hclose
    cases h
    have hquote : close = quote := by
      have hstop := List.head?_dropWhile_not (· != quote) rest
      rw [hclose] at hstop
      simpa using hstop
    refine ⟨rest.takeWhile (· != quote), by simp only [hquote], fun hmem => ?_⟩
    have hne := List.all_eq_true.mp List.all_takeWhile quote hmem
    simp at hne

theorem scanString_error {quote : Char} {rest : List Char} {e : ScanError}
    (h : scanString quote rest = .error e) : e = .openString ∧ quote ∉ rest := by
  unfold scanString at h
  split at h
  · rename_i hnone
    cases h
    have hall : rest.takeWhile (· != quote) ++ rest.dropWhile (· != quote) = rest :=
      List.takeWhile_append_dropWhile
    rw [hnone, List.append_nil] at hall
    refine ⟨rfl, fun hmem => ?_⟩
    rw [← hall] at hmem
    have hne := List.all_eq_true.mp List.all_takeWhile quote hmem
    simp at hne
  · cases h

/-! ### Lexemes -/

theorem shape_of_word {c : Char} {more : List Char} (hc : ¬IsQuote c)
    (h : ∀ d ∈ more, isWordChar d = true) : Shape (c :: more) :=
  .plain hc fun d hd => Or.inl (h d hd)

theorem not_isQuote_of_isGap {c : Char} (h : isGap c = true) : ¬IsQuote c := by
  rintro (rfl | rfl) <;> revert h <;> decide

theorem not_isQuote_of_isWordChar {c : Char} (h : isWordChar c = true) : ¬IsQuote c := by
  rintro (rfl | rfl) <;> revert h <;> decide

theorem scanPiece_shape {c : Char} {rest : List Char} {p : Piece (c :: rest)} (h : scanPiece c rest = .ok p) :
    Shape p.lexeme := by
  unfold scanPiece at h
  split at h
  · rename_i hquote
    obtain ⟨body, heq, hbody⟩ := scanString_lexeme h
    rw [heq]
    exact .quoted (by simpa [IsQuote] using hquote) hbody
  · rename_i hquote
    have hplain : ¬IsQuote c := by simpa [IsQuote] using hquote
    split at h
    · obtain ⟨more, heq, hmore⟩ := scanNumeral_lexeme h
      rw [heq]
      exact .plain hplain hmore
    · split at h
      · cases h
        exact shape_of_word hplain fun d hd => isWordChar_of_mem_takeWhile id hd
      · split at h
        · cases h
          simp only [scanHash]
          split
          · exact shape_of_word hplain fun d hd => isWordChar_of_mem_takeWhile isWordChar_of_isHexDigit hd
          · exact shape_of_word hplain fun d hd => isWordChar_of_mem_takeWhile id hd
        · split at h
          · split at h
            · rename_i d more _ hsign
              obtain ⟨more, heq, hmore⟩ := scanNumeral_lexeme h
              rw [heq]
              refine .plain hplain fun c hc => ?_
              rcases List.mem_cons.mp hc with rfl | hc
              · exact Or.inl (isWordChar_of_isDigit hsign.2)
              · exact hmore c hc
            · cases h
              exact .plain hplain (by simp)
          · cases h
            exact .plain hplain (by simp)

theorem scanPiece_error {c : Char} {rest : List Char} {e : ScanError} (h : scanPiece c rest = .error e) :
    (e = .openString ∧ IsQuote c ∧ c ∉ rest) ∨ ((∃ lexeme, e = .badInteger lexeme) ∧ RunsOn (c :: rest)) := by
  unfold scanPiece at h
  split at h
  · rename_i hquote
    obtain ⟨rfl, hrest⟩ := scanString_error h
    exact Or.inl ⟨rfl, by simpa [IsQuote] using hquote, hrest⟩
  · split at h
    · exact absurd rfl (scanNumeral_error h).2.1
    · split at h
      · cases h
      · split at h
        · cases h
        · split at h
          · split at h
            · rename_i hsign
              obtain ⟨hbad, -, hjoined⟩ := scanNumeral_error h
              exact Or.inr ⟨hbad, _, by rw [hsign.1], hjoined⟩
            · cases h
          · cases h

/-- A signed dimension that runs into a word stops the scan. -/
theorem scanPiece_runsOn {c : Char} {rest : List Char} (h : RunsOn (c :: rest)) :
    ∃ lexeme, scanPiece c rest = .error (.badInteger lexeme) := by
  obtain ⟨_, heq, hjoined⟩ := h
  cases heq
  have hstart : ∃ d more, rest = d :: more ∧ isDigit d = true := by
    obtain ⟨width, _, _, _, _, rfl, hwidth, -⟩ := hjoined
    cases width with
    | nil => exact absurd rfl hwidth.1
    | cons d width => exact ⟨d, _, rfl, hwidth.2 d List.mem_cons_self⟩
  obtain ⟨d, more, rfl, hd⟩ := hstart
  obtain ⟨lexeme, hlexeme⟩ := scanNumeral_joined '-' hd hjoined
  refine ⟨lexeme, ?_⟩
  have hdigit : isDigit '-' = false := by decide
  have hstart : isWordStart '-' = false := by decide
  simpa [scanPiece, hd, hdigit, hstart] using hlexeme

/-! ### Closed text -/

theorem Closed.append {cs ds : List Char} (h : Closed cs) (hd : Closed ds) : Closed (cs ++ ds) := by
  induction h with
  | nil => exact hd
  | plain hc _ ih => exact .plain hc ih
  | quoted hq hbody _ ih =>
    rw [List.cons_append, List.append_assoc, List.cons_append]
    exact .quoted hq hbody ih

theorem closed_of_forall {cs : List Char} (h : ∀ c ∈ cs, ¬IsQuote c) : Closed cs := by
  induction cs with
  | nil => exact .nil
  | cons c cs ih =>
    exact .plain (h c List.mem_cons_self) (ih fun d hd => h d (List.mem_cons_of_mem c hd))

theorem not_isQuote_of_inner {c : Char} (h : isWordChar c = true ∨ c = '.') : ¬IsQuote c := by
  rcases h with h | rfl
  · exact not_isQuote_of_isWordChar h
  · rintro (h | h) <;> cases h

theorem Shape.closed {lexeme : List Char} (h : Shape lexeme) : Closed lexeme := by
  cases h with
  | quoted hq hbody => exact .quoted hq hbody .nil
  | plain hc hmore => exact .plain hc (closed_of_forall fun d hd => not_isQuote_of_inner (hmore d hd))

theorem Closed.tail {c : Char} {cs : List Char} (h : Closed (c :: cs)) (hc : ¬IsQuote c) : Closed cs := by
  cases h with
  | plain _ h => exact h
  | quoted hq _ _ => exact absurd hq hc

theorem inner_within {more rest before after : List Char} (hmore : ∀ d ∈ more, isWordChar d = true ∨ d = '.')
    (hbefore : Closed before) (heq : more ++ rest = before ++ '-' :: after) :
    ∃ between, before = more ++ between ∧ Closed between := by
  induction more generalizing before with
  | nil => exact ⟨before, rfl, hbefore⟩
  | cons d more ih =>
    have hd := hmore d List.mem_cons_self
    cases before with
    | nil =>
      cases heq
      exact absurd hd (by decide)
    | cons b before =>
      rw [List.cons_append, List.cons_append] at heq
      obtain ⟨rfl, hrest⟩ := List.cons.inj heq
      have htail := hbefore.tail (not_isQuote_of_inner hd)
      obtain ⟨between, rfl, hbetween⟩ := ih (fun e he => hmore e (List.mem_cons_of_mem d he)) htail hrest
      exact ⟨between, rfl, hbetween⟩

/-- A lexeme at the front of closed text before a sign ends before that sign. -/
theorem Shape.within {lexeme rest before after : List Char} (h : Shape lexeme) (hne : before ≠ [])
    (hbefore : Closed before) (heq : lexeme ++ rest = before ++ '-' :: after) :
    ∃ between, before = lexeme ++ between ∧ Closed between := by
  cases h with
  | @plain c more hc hmore =>
    cases before with
    | nil => exact absurd rfl hne
    | cons b before =>
      rw [List.cons_append, List.cons_append] at heq
      obtain ⟨rfl, hrest⟩ := List.cons.inj heq
      obtain ⟨between, rfl, hbetween⟩ := inner_within hmore (hbefore.tail hc) hrest
      exact ⟨between, rfl, hbetween⟩
  | @quoted q body hq hbody =>
    cases hbefore with
    | nil => exact absurd rfl hne
    | plain hc _ =>
      rw [List.cons_append, List.cons_append] at heq
      obtain ⟨rfl, -⟩ := List.cons.inj heq
      exact absurd hq hc
    | @quoted q' body' cs _ hbody' hcs =>
      -- Both strings end at the first closing quote, so they are the same.
      rw [List.cons_append, List.cons_append, List.append_assoc, List.append_assoc, List.singleton_append,
        List.cons_append] at heq
      obtain ⟨rfl, hrest⟩ := List.cons.inj heq
      cases append_cons_inj hbody hbody' hrest
      exact ⟨cs, by simp, hcs⟩

end Token

namespace Statement
open Token

theorem scanFrom_badInteger {s : Statement} {offset : Nat} {cs : List Char} {lexeme : String}
    (h : (s.scanFrom offset cs).2 = .badInteger lexeme) :
    ∃ before after, cs = before ++ after ∧ Closed before ∧ RunsOn after := by
  fun_induction scanFrom s offset cs with
  | case1 => cases h
  | case2 offset c rest hgap ih =>
    obtain ⟨before, after, rfl, hbefore, hafter⟩ := ih h
    exact ⟨c :: before, after, rfl, .plain (not_isQuote_of_isGap hgap) hbefore, hafter⟩
  | case3 => cases h
  | case4 offset c rest hgap lexeme' herror =>
    rcases scanPiece_error herror with ⟨hopen, -, -⟩ | ⟨-, hruns⟩
    · cases hopen
    · exact ⟨[], c :: rest, rfl, .nil, hruns⟩
  | case5 offset c rest hgap piece hpiece stop token tokens ending htail ih =>
    rw [htail] at ih
    obtain ⟨before, after, hrest, hbefore, hafter⟩ := ih h
    refine ⟨piece.lexeme ++ before, after, ?_, (scanPiece_shape hpiece).closed.append hbefore, hafter⟩
    rw [List.append_assoc, ← hrest, piece.append_eq]

theorem scanFrom_runsOn {s : Statement} {offset : Nat} {cs before after : List Char}
    (heq : cs = before ++ after) (hbefore : Closed before) (hafter : RunsOn after) :
    ∃ lexeme, (s.scanFrom offset cs).2 = .badInteger lexeme := by
  obtain ⟨rest', rfl, hjoined⟩ := hafter
  fun_induction scanFrom s offset cs generalizing before with
  | case1 => simp at heq
  | case2 offset c rest hgap ih =>
    cases before with
    | nil =>
      cases heq
      exact absurd hgap (by decide)
    | cons b before =>
      cases heq
      exact ih (hbefore.tail (not_isQuote_of_isGap hgap)) rfl
  | case3 offset c rest hgap herror =>
    -- A closed string has its closing quote, so the scan does not end in it.
    rcases scanPiece_error herror with ⟨-, hquote, hopen⟩ | ⟨⟨_, hbad⟩, -⟩
    · cases hbefore with
      | nil =>
        cases heq
        exact absurd hquote (by rintro (h | h) <;> cases h)
      | plain hc _ =>
        cases heq
        exact absurd hquote hc
      | quoted _ _ _ =>
        cases heq
        simp at hopen
    · cases hbad
  | case4 => exact ⟨_, rfl⟩
  | case5 offset c rest hgap piece hpiece stop token tokens ending htail =>
    rename_i ih
    rw [htail] at ih
    have hne : before ≠ [] := by
      rintro rfl
      have hruns : RunsOn (c :: rest) := ⟨rest', heq, hjoined⟩
      obtain ⟨_, herror⟩ := scanPiece_runsOn hruns
      rw [herror] at hpiece
      cases hpiece
    rw [← piece.append_eq] at heq
    obtain ⟨between, rfl, hbetween⟩ := (scanPiece_shape hpiece).within hne hbefore heq
    rw [List.append_assoc] at heq
    exact ih hbetween (List.append_cancel_left heq)

/-- A scan stops at a signed dimension that runs into a word exactly if there is one outside of strings. -/
theorem scan_badInteger_iff {s : Statement} :
    (∃ lexeme, s.scan.2 = .badInteger lexeme) ↔
      ∃ before after, s.text.toList = before ++ after ∧ Closed before ∧ RunsOn after := by
  constructor
  · rintro ⟨lexeme, h⟩
    exact scanFrom_badInteger h
  · rintro ⟨before, after, heq, hbefore, hafter⟩
    exact scanFrom_runsOn heq hbefore hafter

end Statement
end SceneScript
