import Mathlib.Data.List.Basic
import Mathlib.Data.List.TakeWhile
import SceneScript.Statement

/-!
Statements on their lines. Every statement is cut out of one physical line, from its column on; the lines of
the statements of a source text come in increasing order.
-/

namespace SceneScript

namespace Text

theorem exists_dropBlanks (cs : List Char) :
    ∃ blanks, cs = blanks ++ dropBlanks cs ∧ ∀ c ∈ blanks, isBlank c = true :=
  ⟨cs.takeWhile isBlank, List.takeWhile_append_dropWhile.symm, List.all_eq_true.mp List.all_takeWhile⟩

/-- What is trimmed off stands at the ends. -/
theorem exists_trimChars (cs : List Char) :
    ∃ blanks after, cs = blanks ++ trimChars cs ++ after ∧ dropBlanks cs = trimChars cs ++ after ∧
      (∀ c ∈ blanks, isBlank c = true) ∧ ∀ c ∈ after, isBlank c = true := by
  obtain ⟨blanks, hcs, hblanks⟩ := exists_dropBlanks cs
  obtain ⟨after, hreverse, hafter⟩ := exists_dropBlanks (dropBlanks cs).reverse
  have hdropped : dropBlanks cs = trimChars cs ++ after.reverse := by
    rw [← List.reverse_reverse (dropBlanks cs), hreverse, List.reverse_append]
    rfl
  refine ⟨blanks, after.reverse, by rw [List.append_assoc, ← hdropped]; exact hcs, hdropped, hblanks, ?_⟩
  intro c hc
  exact hafter c (List.mem_reverse.mp hc)

section Blanks
variable {blanks : List Char} (h : ∀ c ∈ blanks, isBlank c = true)
include h

theorem dropBlanks_blanks_append (cs : List Char) : dropBlanks (blanks ++ cs) = dropBlanks cs :=
  List.dropWhile_append_of_pos h

theorem trimChars_blanks_append (cs : List Char) : trimChars (blanks ++ cs) = trimChars cs := by
  rw [trimChars, trimChars, dropBlanks_blanks_append h]

theorem trimChars_append_blanks (cs : List Char) : trimChars (cs ++ blanks) = trimChars cs := by
  have hreverse : ∀ c ∈ blanks.reverse, isBlank c = true := fun c hc => h c (List.mem_reverse.mp hc)
  have hall : dropBlanks blanks = [] := List.dropWhile_eq_nil_iff.mpr h
  unfold trimChars
  by_cases hcs : dropBlanks cs = []
  · have hnone : dropBlanks (cs ++ blanks) = [] := by
      rw [dropBlanks, List.dropWhile_append]
      exact (if_pos (List.isEmpty_iff.mpr hcs)).trans hall
    rw [hnone, hcs]
  · have hsome : dropBlanks (cs ++ blanks) = dropBlanks cs ++ blanks := by
      rw [dropBlanks, List.dropWhile_append]
      exact if_neg (mt List.isEmpty_iff.mp hcs)
    rw [hsome, List.reverse_append, dropBlanks_blanks_append hreverse]

end Blanks

theorem trimChars_of_ends {cs : List Char} (hfirst : ∀ c ∈ cs.head?, isBlank c = false)
    (hlast : ∀ c ∈ cs.getLast?, isBlank c = false) : trimChars cs = cs := by
  have hself : ∀ {cs : List Char}, (∀ c ∈ cs.head?, isBlank c = false) → dropBlanks cs = cs := by
    intro cs h
    cases cs with
    | nil => rfl
    | cons c cs => exact List.dropWhile_cons_of_neg (by simp [h c rfl])
  rw [← List.head?_reverse] at hlast
  rw [trimChars, hself hfirst, hself hlast, List.reverse_reverse]

/-! ### Plain characters -/

/-- Characters of one line, without a comment. -/
def Plain (cs : List Char) : Prop := '\n' ∉ cs ∧ ¬['/', '/'] <:+: cs

instance (cs : List Char) : Decidable (Plain cs) := inferInstanceAs (Decidable (_ ∧ _))

theorem pair_infix_cons {a b c : Char} {cs : List Char} :
    [a, b] <:+: c :: cs ↔ (a = c ∧ b ∈ cs.head?) ∨ [a, b] <:+: cs := by
  rw [List.infix_cons_iff, List.cons_prefix_cons]
  refine or_congr_left (and_congr_right fun _ => ?_)
  cases cs with
  | nil => simp
  | cons d cs => simp [List.cons_prefix_cons, eq_comm]

theorem Plain.append {cs more : List Char} (h : Plain cs) (hmore : Plain more)
    (hseam : '/' ∉ cs.getLast? ∨ '/' ∉ more.head?) : Plain (cs ++ more) := by
  refine ⟨fun hmem => (List.mem_append.mp hmem).elim h.1 hmore.1, fun hinfix => ?_⟩
  obtain ⟨-, h⟩ := h
  induction cs with
  | nil => exact hmore.2 hinfix
  | cons c cs ih =>
    obtain ⟨hpair, htail⟩ := not_or.mp (mt pair_infix_cons.mpr h)
    rw [List.cons_append, pair_infix_cons] at hinfix
    cases cs with
    | nil =>
      rcases hinfix with ⟨rfl, hhead⟩ | hinfix
      · exact hseam.elim (fun hlast => hlast rfl) fun hfirst => hfirst hhead
      · exact hmore.2 hinfix
    | cons d cs => exact hinfix.elim hpair fun hinfix => ih hseam hinfix htail

/-- Characters that no line ends at and no comment begins with. -/
def Harmless (cs : List Char) : Prop := ∀ c ∈ cs, c ≠ '\n' ∧ c ≠ '/'

instance (cs : List Char) : Decidable (Harmless cs) := List.decidableBAll (fun c => c ≠ '\n' ∧ c ≠ '/') cs

theorem Harmless.append {cs more : List Char} (h : Harmless cs) (hmore : Harmless more) : Harmless (cs ++ more) := by
  intro c hc
  exact (List.mem_append.mp hc).elim (h c) (hmore c)

theorem Harmless.plain {cs : List Char} (h : Harmless cs) : Plain cs :=
  ⟨fun hline => (h _ hline).1 rfl, fun hpair => (h _ (List.IsInfix.subset hpair List.mem_cons_self)).2 rfl⟩

theorem Plain.prepend {front cs : List Char} (h : Plain cs) (hfront : Harmless front) : Plain (front ++ cs) :=
  hfront.plain.append h (Or.inl fun hlast => (hfront _ (List.mem_of_getLast? hlast)).2 rfl)

theorem Plain.extend {cs back : List Char} (h : Plain cs) (hback : Harmless back) : Plain (cs ++ back) :=
  h.append hback.plain (Or.inr fun hfirst => (hback _ (List.mem_of_mem_head? hfirst)).2 rfl)

/-! ### Slices -/

/-- A slice of a part is a slice of the whole. -/
theorem slice_append {before text after : List Char} {start stop : Nat} (hstop : stop ≤ text.length) :
    slice (String.ofList (before ++ text ++ after)) (before.length + start) (before.length + stop) =
      slice (String.ofList text) start stop := by
  unfold slice
  rw [String.toList_ofList, String.toList_ofList, List.take_append_of_le_length (by rw [List.length_append]; omega),
    List.take_length_add_append, List.drop_length_add_append]

end Text

namespace Statement

theorem isPrefix_dropReturn (line : List Char) : dropReturn line <+: line := by
  unfold dropReturn
  split
  · exact List.dropLast_prefix line
  · exact List.prefix_rfl

theorem isPrefix_beforeComment (line : List Char) : beforeComment line <+: line := by
  fun_induction beforeComment line with
  | case1 => exact List.prefix_rfl
  | case2 c => exact List.prefix_rfl
  | case3 c d rest => exact List.nil_prefix
  | case4 c d rest _ ih => exact (List.prefix_cons_inj c).mpr ih

/-- At most a return is dropped, which is a blank. -/
theorem exists_dropReturn (line : List Char) :
    ∃ blanks, line = dropReturn line ++ blanks ∧ ∀ c ∈ blanks, Text.isBlank c = true := by
  unfold dropReturn
  split
  · rename_i hlast
    refine ⟨['\r'], (List.dropLast_append_getLast? _ hlast).symm, ?_⟩
    rintro c hc
    rw [List.mem_singleton.mp hc]
    rfl
  · exact ⟨[], (List.append_nil line).symm, fun _ hc => nomatch hc⟩

/-! ### Comments -/

theorem beforeComment_plain_append {front : List Char} (h : ∀ c ∈ front, c ≠ '/') (line : List Char) :
    beforeComment (front ++ line) = front ++ beforeComment line := by
  induction front with
  | nil => rfl
  | cons c front ih =>
    have hc : c ≠ '/' := h c List.mem_cons_self
    have hrest := ih fun d hd => h d (List.mem_cons_of_mem c hd)
    rw [List.cons_append, List.cons_append, ← hrest]
    cases front ++ line with
    | nil => rfl
    | cons d rest => rw [beforeComment, if_neg (by simp [hc])]

/-- What holds no slash goes into the comment before it, or stands behind the code. -/
theorem beforeComment_append_plain (line : List Char) {back : List Char} (h : ∀ c ∈ back, c ≠ '/') :
    beforeComment (line ++ back) = beforeComment line ++ back ∨ beforeComment (line ++ back) = beforeComment line := by
  have hself : beforeComment back = back := by
    have hnil := beforeComment_plain_append h []
    rwa [List.append_nil, beforeComment, List.append_nil] at hnil
  fun_induction beforeComment line with
  | case1 => exact Or.inl hself
  | case2 c =>
    left
    cases back with
    | nil => rfl
    | cons d rest =>
      have hd : d ≠ '/' := h d List.mem_cons_self
      rw [List.cons_append, List.nil_append, beforeComment, if_neg (by simp [hd]), hself]
  | case3 c d rest hmark =>
    right
    rw [List.cons_append, List.cons_append, beforeComment, if_pos hmark]
  | case4 c d rest hmark ih =>
    rw [List.cons_append, List.cons_append, beforeComment, if_neg hmark]
    exact ih.imp (congrArg (c :: ·)) (congrArg (c :: ·))

theorem beforeComment_append_comment {line : List Char} (h : line.getLast? ≠ some '/') (note : List Char) :
    beforeComment (line ++ (['/', '/'] ++ note)) = beforeComment line := by
  fun_induction beforeComment line with
  | case1 => rfl
  | case2 c =>
    have hc : c ≠ '/' := fun heq => h (by rw [heq]; rfl)
    change beforeComment (c :: '/' :: '/' :: note) = [c]
    rw [beforeComment, if_neg (by simp [hc]), beforeComment, if_pos (by decide)]
  | case3 c d rest hmark =>
    rw [List.cons_append, List.cons_append, beforeComment, if_pos hmark]
  | case4 c d rest hmark ih =>
    rw [List.getLast?_cons_cons] at h
    rw [List.cons_append, List.cons_append, beforeComment, if_neg hmark]
    exact congrArg (c :: ·) (ih h)

theorem beforeComment_of_plain {line : List Char} (h : Text.Plain line) : beforeComment line = line := by
  obtain ⟨-, h⟩ := h
  fun_induction beforeComment line with
  | case1 => rfl
  | case2 c => rfl
  | case3 c d rest hmark =>
    simp only [Bool.and_eq_true, decide_eq_true_eq] at hmark
    obtain ⟨rfl, rfl⟩ := hmark
    exact absurd (List.infix_append [] ['/', '/'] rest) h
  | case4 c d rest _ ih => rw [ih fun hinfix => h (List.infix_cons hinfix)]

/-- A line that nothing is cut off from is its statement. -/
theorem ofLine?_plain {line : List Char} (filename : Option String) (n : Nat) (hne : line ≠ [])
    (hplain : Text.Plain line) (hfirst : ∀ c ∈ line.head?, Text.isBlank c = false)
    (hlast : ∀ c ∈ line.getLast?, Text.isBlank c = false) :
    ofLine? filename n line = some ⟨n, String.ofList line, 1, filename⟩ := by
  have hreturn : dropReturn line = line := by
    refine if_neg fun hreturn => ?_
    have hblank := hlast _ hreturn
    revert hblank
    decide
  obtain ⟨c, rest, rfl⟩ := List.exists_cons_of_ne_nil hne
  have hdropped : Text.dropBlanks (c :: rest) = c :: rest := List.dropWhile_cons_of_neg (by simp [hfirst c rfl])
  simp only [ofLine?, hreturn, beforeComment_of_plain hplain, Text.trimChars_of_ends hfirst hlast, hdropped,
    List.isEmpty_cons, Bool.false_eq_true, ↓reduceIte, Nat.sub_self, Int.natCast_zero, Int.zero_add]

/-- The statement stands on the line from its column on. -/
def StandsOn (s : Statement) (line : List Char) : Prop :=
  ∃ before after, line = before ++ s.text.toList ++ after ∧ s.column = before.length + 1

/-- A statement is what stands between the blanks at the ends of a line's code. -/
theorem ofLine?_cut {filename : Option String} {n : Nat} {line : List Char} {s : Statement}
    (h : ofLine? filename n line = some s) :
    s.line = n ∧ s.filename = filename ∧ s.text.toList = Text.trimChars (beforeComment (dropReturn line)) ∧
      s.text.toList ≠ [] ∧ s.StandsOn (beforeComment (dropReturn line)) := by
  simp only [ofLine?] at h
  split at h
  · cases h
  · rename_i hne
    cases h
    obtain ⟨blanks, after, hcode, hdropped, -, -⟩ := Text.exists_trimChars (beforeComment (dropReturn line))
    rw [String.toList_ofList]
    refine ⟨rfl, rfl, rfl, mt List.isEmpty_iff.mpr hne, blanks, after, ?_, ?_⟩
    · rw [String.toList_ofList, ← hcode]
    · have hlength := congrArg List.length hcode
      rw [hdropped]
      simp only [List.length_append] at hlength ⊢
      omega

theorem StandsOn.of_prefix {s : Statement} {code line : List Char} (h : s.StandsOn code) (hfront : code <+: line) :
    s.StandsOn line := by
  obtain ⟨before, after, rfl, hcolumn⟩ := h
  obtain ⟨rest, rfl⟩ := hfront
  exact ⟨before, after ++ rest, List.append_assoc _ after rest, hcolumn⟩

/-- A stretch of a statement is the same characters on its line. -/
theorem StandsOn.slice_eq {s : Statement} {line : List Char} (h : s.StandsOn line) {start stop : Nat}
    (hstop : stop ≤ s.text.length) :
    Text.slice (String.ofList line) ((s.location start).column - 1).toNat ((s.location stop).column - 1).toNat =
      Text.slice s.text start stop := by
  obtain ⟨before, after, rfl, hcolumn⟩ := h
  have hplace : ∀ offset : Nat, ((s.location offset).column - 1).toNat = before.length + offset := fun offset => by
    simp only [location, hcolumn]
    omega
  rw [hplace, hplace, Text.slice_append (by rwa [String.length_toList]), String.ofList_toList]

theorem ofLine?_eq_some {filename : Option String} {n : Nat} {line : List Char} {s : Statement}
    (h : ofLine? filename n line = some s) : s.line = n ∧ s.filename = filename ∧ s.StandsOn line := by
  obtain ⟨hline, hfilename, -, -, hstands⟩ := ofLine?_cut h
  exact ⟨hline, hfilename, hstands.of_prefix ((isPrefix_beforeComment _).trans (isPrefix_dropReturn line))⟩

/-- Every statement stands on one of the lines, and its line is the number of that line. -/
theorem exists_line_of_mem_ofLines {filename : Option String} {n : Nat} {lines : List (List Char)} {s : Statement}
    (h : s ∈ ofLines filename n lines) :
    ∃ i line, lines[i]? = some line ∧ s.line = (n + i : Nat) ∧ s.filename = filename ∧ s.StandsOn line := by
  induction lines generalizing n with
  | nil => cases h
  | cons first rest ih =>
    rcases List.mem_append.mp h with h | h
    · obtain ⟨hline, hfilename, hstands⟩ := ofLine?_eq_some (Option.mem_toList.mp h)
      exact ⟨0, first, rfl, hline, hfilename, hstands⟩
    · obtain ⟨i, line, hget, hline, hfilename, hstands⟩ := ih h
      exact ⟨i + 1, line, hget, by rw [hline]; congr 1; omega, hfilename, hstands⟩

theorem ofLines_append (filename : Option String) (n : Nat) (lines more : List (List Char)) :
    ofLines filename n (lines ++ more) = ofLines filename n lines ++ ofLines filename (n + lines.length) more := by
  induction lines generalizing n with
  | nil => rfl
  | cons line lines ih =>
    have hnumber : n + (line :: lines).length = n + 1 + lines.length := by
      rw [List.length_cons]
      omega
    rw [List.cons_append, ofLines, ofLines, ih, List.append_assoc, hnumber]

/-- The statement of a line says the same on any other line. -/
theorem ofLine?_renumber {filename : Option String} {line : List Char} {n : Nat} {s : Statement}
    (h : ofLine? filename n line = some s) (m : Nat) :
    ofLine? filename m line = some { s with line := m } := by
  simp only [ofLine?] at h ⊢
  split at h
  · cases h
  · rename_i hne
    cases h
    rw [if_neg hne]

theorem pairwise_ofLines (filename : Option String) (n : Nat) (lines : List (List Char)) :
    (ofLines filename n lines).Pairwise fun s t => s.line < t.line := by
  induction lines generalizing n with
  | nil => exact .nil
  | cons first rest ih =>
    unfold ofLines
    rw [List.pairwise_append]
    refine ⟨?_, ih (n + 1), fun s hs t ht => ?_⟩
    · cases ofLine? filename n first with
      | none => exact .nil
      | some s => exact List.pairwise_singleton _ s
    · obtain ⟨hline, -⟩ := ofLine?_eq_some (Option.mem_toList.mp hs)
      obtain ⟨i, -, -, hline', -⟩ := exists_line_of_mem_ofLines ht
      rw [hline, hline']
      omega

end Statement
end SceneScript
