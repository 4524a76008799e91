import Mathlib.Data.List.ReduceOption
import SceneScript.Proofs.Isolation
import SceneScript.Proofs.Lines

/-!
Physical lines. A source text is cut at line feeds and nowhere else. What stands on a line before its first
comment mark, without the blanks at its ends, is the statement of the line, and the column names the place
where it stands. So a text put together from two has the statements of both, the later ones further down.
-/

namespace SceneScript

namespace Text

/-! ### Lines of a text -/

/-- The lines of a text: the pieces between its line feeds. -/
structure LinesOf (cs : List Char) (lines : List (List Char)) : Prop where
  ne_nil : lines ≠ []
  unbroken : ∀ line ∈ lines, '\n' ∉ line
  joined : ['\n'].intercalate lines = cs

theorem linesOf_iff {cs : List Char} {lines : List (List Char)} : LinesOf cs lines ↔ splitAt '\n' cs = lines := by
  constructor
  · rintro ⟨hne, hunbroken, rfl⟩
    exact splitAt_intercalate hne hunbroken
  · rintro rfl
    refine ⟨splitAt_ne_nil '\n' cs, fun line => not_mem_of_mem_splitAt, ?_⟩
    rw [splitAt_eq_splitOn, List.intercalate_splitOn]

theorem splitAt_append_cons (mark : Char) (cs more : List Char) :
    splitAt mark (cs ++ mark :: more) = splitAt mark cs ++ splitAt mark more := by
  simp only [splitAt_eq_splitOn, List.splitOn_eq_splitOnP]
  exact List.splitOnP_append_cons cs more (beq_self_eq_true mark)

theorem length_splitAt (mark : Char) (cs : List Char) : (splitAt mark cs).length = cs.count mark + 1 := by
  induction cs with
  | nil => rfl
  | cons c rest ih =>
    rw [splitAt_eq_splitOn] at ih ⊢
    rw [List.splitOn_cons_eq_if_modifyHead, List.count_cons]
    split
    · rw [List.length_cons, ih]
    · rw [List.length_modifyHead, ih, Nat.add_zero]

/-! ### Stripped texts -/

/-- `text` is `cs` without the blanks at its ends. -/
structure Strips (cs text : List Char) : Prop where
  ends : ∃ before after, cs = before ++ text ++ after ∧ (∀ c ∈ before, isBlank c = true) ∧
    ∀ c ∈ after, isBlank c = true
  first : ∀ c ∈ text.head?, isBlank c = false
  last : ∀ c ∈ text.getLast?, isBlank c = false

theorem head_dropBlanks (cs : List Char) : ∀ c ∈ (dropBlanks cs).head?, isBlank c = false := by
  intro c hc
  have hhead := List.head?_dropWhile_not isBlank cs
  rwa [show (cs.dropWhile isBlank).head? = some c from hc] at hhead

theorem strips_trimChars (cs : List Char) : Strips cs (trimChars cs) := by
  obtain ⟨before, after, hcs, hdropped, hbefore, hafter⟩ := exists_trimChars cs
  refine ⟨⟨before, after, hcs, hbefore, hafter⟩, fun c hc => ?_, fun c hc => ?_⟩
  · refine head_dropBlanks cs c ?_
    rw [hdropped]
    exact List.mem_head?_append_of_mem_head? hc
  · rw [trimChars, List.getLast?_reverse] at hc
    exact head_dropBlanks _ c hc

/-- Nothing is left of a text of blanks only. -/
theorem Strips.ne_nil_iff {cs text : List Char} (h : Strips cs text) : text ≠ [] ↔ ∃ c ∈ cs, isBlank c = false := by
  obtain ⟨⟨before, after, rfl, hbefore, hafter⟩, hfirst, -⟩ := h
  constructor
  · intro hne
    obtain ⟨c, rest, rfl⟩ := List.exists_cons_of_ne_nil hne
    exact ⟨c, by simp, hfirst c rfl⟩
  · rintro ⟨c, hc, hblank⟩ rfl
    rw [List.append_nil] at hc
    have hblank' : isBlank c = true := (List.mem_append.mp hc).elim (hbefore c) (hafter c)
    rw [hblank] at hblank'
    cases hblank'

end Text

namespace Statement
variable {filename : Option String} {line code : List Char} {s : Statement}

/-! ### What stands on a line -/

/-- `bare` is the line without the one return that may end it. -/
def Bare (line bare : List Char) : Prop :=
  line = bare ++ ['\r'] ∨ line = bare ∧ bare.getLast? ≠ some '\r'

theorem bare_dropReturn (line : List Char) : Bare line (dropReturn line) := by
  unfold dropReturn
  split
  · rename_i hreturn
    exact Or.inl (List.dropLast_append_getLast? _ hreturn).symm
  · rename_i hreturn
    exact Or.inr ⟨rfl, hreturn⟩

/-- `code` is the part of the line before its first comment mark, or all of it if it has none. -/
structure Uncommented (line code : List Char) : Prop where
  ends : code = line ∨ code ++ ['/', '/'] <+: line
  first : ∀ front, front ++ ['/', '/'] <+: line → code <+: front

theorem Uncommented.isPrefix (h : Uncommented line code) : code <+: line := by
  rcases h.ends with rfl | hmark
  · exact List.prefix_rfl
  · exact (List.prefix_append code _).trans hmark

theorem Uncommented.not_infix (h : Uncommented line code) : ¬['/', '/'] <:+: code := by
  rintro ⟨front, back, rfl⟩
  have hfront := h.first front ((List.prefix_append _ back).trans h.isPrefix)
  have hlength := hfront.length_le
  simp only [List.length_append, List.length_cons, List.length_nil] at hlength
  omega

theorem uncommented_beforeComment (line : List Char) : Uncommented line (beforeComment line) := by
  fun_induction beforeComment line with
  | case1 =>
    refine ⟨Or.inl rfl, fun front hfront => ?_⟩
    have hlength := hfront.length_le
    simp at hlength
  | case2 c =>
    refine ⟨Or.inl rfl, fun front hfront => ?_⟩
    have hlength := hfront.length_le
    simp at hlength
  | case3 c d rest hmark =>
    simp only [Bool.and_eq_true, decide_eq_true_eq] at hmark
    obtain ⟨rfl, rfl⟩ := hmark
    exact ⟨Or.inr (List.prefix_append ['/', '/'] rest), fun front _ => List.nil_prefix⟩
  | case4 c d rest hmark ih =>
    refine ⟨ih.ends.imp (congrArg (c :: ·)) (List.prefix_cons_inj c).mpr, fun front hfront => ?_⟩
    cases front with
    | nil =>
      simp only [List.nil_append, List.cons_prefix_cons] at hfront
      obtain ⟨rfl, rfl, -⟩ := hfront
      exact absurd rfl hmark
    | cons e front =>
      obtain ⟨rfl, hrest⟩ := List.cons_prefix_cons.mp hfront
      exact (List.prefix_cons_inj e).mpr (ih.first front hrest)

/-- The column and the length of the statement cut its text out of the line. -/
def CutFrom (s : Statement) (line : List Char) : Prop :=
  1 ≤ s.column ∧ Text.slice (String.ofList line) (s.column - 1).toNat ((s.column - 1).toNat + s.text.length) = s.text

theorem StandsOn.cutFrom (h : s.StandsOn line) : s.CutFrom line := by
  have hslice : Text.slice (String.ofList line) ((s.location 0).column - 1).toNat
      ((s.location s.text.length).column - 1).toNat = Text.slice s.text 0 s.text.length := h.slice_eq (Nat.le_refl _)
  obtain ⟨before, -, -, hcolumn⟩ := h
  have hstop : (s.column - 1).toNat + s.text.length = (s.column + s.text.length - 1).toNat := by omega
  refine ⟨by omega, ?_⟩
  rw [hstop]
  simp only [location, Int.natCast_zero, Int.add_zero] at hslice
  rw [hslice, Text.slice, ← String.length_toList, List.take_length, List.drop_zero, String.ofList_toList]

/-- The statement cut out of a line that has `bare` before its return and `code` before its comment. -/
structure Segment (filename : Option String) (number : Nat) (bare code : List Char) (s : Statement) : Prop where
  line : s.line = number
  filename : s.filename = filename
  strips : Text.Strips code s.text.toList
  nonempty : s.text ≠ ""
  uncommented : ¬['/', '/'] <:+: s.text.toList
  cut : s.CutFrom bare

theorem ofLine?_segment {n : Nat} (h : ofLine? filename n line = some s) :
    s.Segment filename n (dropReturn line) (beforeComment (dropReturn line)) := by
  obtain ⟨hline, hfilename, htext, hne, hstands⟩ := ofLine?_cut h
  have hcode := uncommented_beforeComment (dropReturn line)
  have hstrips := Text.strips_trimChars (beforeComment (dropReturn line))
  rw [← htext] at hstrips
  refine ⟨hline, hfilename, hstrips, ?_, fun hmark => ?_, (hstands.of_prefix hcode.isPrefix).cutFrom⟩
  · rintro hempty
    exact hne (by rw [hempty]; rfl)
  · obtain ⟨before, after, hcut, -⟩ := hstrips.ends
    exact hcode.not_infix (hmark.trans ⟨before, after, hcut.symm⟩)

/-- What a line gives: one statement if anything but blanks stands before its comment, and else none. -/
def Gives (filename : Option String) (number : Nat) (line : List Char) (found : Option Statement) : Prop :=
  ∃ bare code, Bare line bare ∧ Uncommented bare code ∧ (found.isSome ↔ ∃ c ∈ code, Text.isBlank c = false) ∧
    ∀ s ∈ found, s.Segment filename number bare code

theorem gives_ofLine? (filename : Option String) (n : Nat) (line : List Char) :
    Gives filename n line (ofLine? filename n line) := by
  refine ⟨dropReturn line, beforeComment (dropReturn line), bare_dropReturn line, uncommented_beforeComment _, ?_,
    fun s => ofLine?_segment⟩
  rw [← (Text.strips_trimChars _).ne_nil_iff, Option.isSome_iff_exists]
  constructor
  · rintro ⟨s, hs⟩
    obtain ⟨-, -, htext, hne, -⟩ := ofLine?_cut hs
    exact htext ▸ hne
  · intro hne
    exact ⟨_, if_neg (mt List.isEmpty_iff.mp hne)⟩

/-! ### Numbered lines -/

theorem ofLines_eq_reduceOption (filename : Option String) (n : Nat) (lines : List (List Char)) :
    ofLines filename n lines = (lines.mapIdx fun i line => ofLine? filename (n + i) line).reduceOption := by
  induction lines generalizing n with
  | nil => rfl
  | cons line rest ih =>
    have hnumbers : (fun i line => ofLine? filename (n + (i + 1)) line) =
        fun i line => ofLine? filename (n + 1 + i) line := by
      funext i line
      rw [Nat.add_right_comm n 1 i, Nat.add_assoc]
    rw [ofLines, ih, List.mapIdx_cons, Nat.add_zero, hnumbers]
    cases ofLine? filename n line <;> rfl

/-- The statement as many lines further down. -/
def below (count : Nat) (s : Statement) : Statement := { s with line := s.line + count }

theorem ofLine?_add (filename : Option String) (count n : Nat) (line : List Char) :
    ofLine? filename (count + n) line = (ofLine? filename n line).map (below count) := by
  unfold ofLine?
  by_cases hempty : (Text.trimChars (beforeComment (dropReturn line))).isEmpty = true
  · rw [if_pos hempty, if_pos hempty, Option.map_none]
  · rw [if_neg hempty, if_neg hempty, Option.map_some, below, Nat.add_comm, Int.natCast_add]

theorem ofLines_add (filename : Option String) (count n : Nat) (lines : List (List Char)) :
    ofLines filename (count + n) lines = (ofLines filename n lines).map (below count) := by
  induction lines generalizing n with
  | nil => rfl
  | cons line rest ih =>
    have hline : (ofLine? filename (count + n) line).toList = (ofLine? filename n line).toList.map (below count) := by
      rw [ofLine?_add]
      cases ofLine? filename n line <;> rfl
    rw [ofLines, ofLines, List.map_append, hline, Nat.add_assoc, ih (n + 1)]

/-- A source text is cut at line feeds and nowhere else, and each line has at most one statement: one exactly
    if a character that is no blank stands before its first comment mark. The statement knows the number of its
    line, is what stands there without the blanks at its ends, and is cut out of the line by its column and
    length. Behind another text and a line feed, the statements are the same on lines further down. -/
theorem ofSource_segments (filename : Option String) :
    (∀ source : String, ∃ lines found, Text.LinesOf source.toList lines ∧
        ofSource source filename = List.reduceOption found ∧ found.length = lines.length ∧
        ∀ (i : Nat) line o, lines[i]? = some line → found[i]? = some o → Gives filename (i + 1) line o) ∧
      ∀ a b : String, ofSource (a ++ "\n" ++ b) filename =
        ofSource a filename ++ (ofSource b filename).map (below (1 + a.toList.count '\n')) := by
  constructor
  · intro source
    refine ⟨Text.splitAt '\n' source.toList, _, Text.linesOf_iff.mpr rfl, ofLines_eq_reduceOption filename 1 _,
      List.length_mapIdx, fun i line o hline ho => ?_⟩
    rw [List.getElem?_mapIdx, hline, Option.map_some, Nat.add_comm] at ho
    exact Option.some_inj.mp ho ▸ gives_ofLine? filename (i + 1) line
  · intro a b
    have hsplit : Text.splitAt '\n' (a ++ "\n" ++ b).toList =
        Text.splitAt '\n' a.toList ++ Text.splitAt '\n' b.toList := by
      rw [String.toList_append, String.toList_append, List.append_assoc]
      exact Text.splitAt_append_cons '\n' a.toList b.toList
    unfold ofSource
    rw [hsplit, ofLines_append, Text.length_splitAt, ← ofLines_add, ← Nat.add_assoc]

/-- A form feed ends no line, and one slash makes no comment. -/
example : ofSource "A\x0cB\r\n / // C\n// D\n\tE" none =
    [⟨1, "A\x0cB", 1, none⟩, ⟨2, "/", 2, none⟩, ⟨4, "E", 2, none⟩] := by
  rfl

end Statement
end SceneScript
