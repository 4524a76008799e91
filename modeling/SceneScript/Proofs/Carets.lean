import SceneScript.Proofs.Messages
import SceneScript.Proofs.PhysicalLines
import SceneScript.Proofs.Quotation

/-!
Carets under a quotation. A rendered diagnostic quotes its statement behind a gutter with the line number, and
underlines a stretch of it on the next line, behind a margin of fixed width. The gutter is as wide as the margin
up to four digits and grows from there on, so the carets stand under what they mark on the first 9999 lines.
-/

namespace SceneScript

/-! ### Lines of a rendering -/

namespace Text

theorem Unbroken.count_eq_zero {s : String} (h : Unbroken s) : s.toList.count '\n' = 0 := List.count_eq_zero.mpr h

theorem splitAt_intercalate_cons {mark : Char} {first : List Char} {lines : List (List Char)} (hne : lines ≠ [])
    (h : ∀ line ∈ lines, mark ∉ line) :
    splitAt mark ([mark].intercalate (first :: lines)) = splitAt mark first ++ lines := by
  obtain ⟨second, rest, rfl⟩ := List.exists_cons_of_ne_nil hne
  rw [List.intercalate_cons_cons, List.append_assoc, List.singleton_append, splitAt_append_cons,
    splitAt_intercalate hne h]

theorem length_padLeft (width : Nat) (text : String) : (padLeft width text).length = max width text.length := by
  rw [padLeft, String.length_append, String.length_ofList, List.length_replicate]
  omega

theorem unbroken_padLeft {width : Nat} {text : String} (h : Unbroken text) : Unbroken (padLeft width text) :=
  .behind (fun hmem => absurd (List.eq_of_mem_replicate hmem) (by decide)) h

theorem length_toString_le_four {n : Nat} : (toString n).length ≤ 4 ↔ n < 10000 := by
  have hdigits : (Nat.toDigits 10 n).length ≤ 4 ↔ n < 10 ^ 4 := Nat.length_toDigits_le_iff (by decide) (by decide)
  rw [show toString n = String.ofList (Nat.toDigits 10 n) from rfl, String.length_ofList]
  exact hdigits

end Text

open Text

namespace Diagnostic

variable {d : Diagnostic} {text : String}

/-- Place, severity, code and message. -/
def heading (d : Diagnostic) : String :=
  d.span.start.text ++ ": " ++ d.severity.name ++ "[" ++ d.code ++ "]: " ++ d.message

/-- What stands in front of the quoted statement. -/
def gutter (line : Int) : String := padLeft 4 (toString line) ++ " | "

/-- What stands in front of the carets. -/
def margin (start : Nat) : String := "     | " ++ String.ofList (List.replicate start ' ')

theorem length_margin (start : Nat) : (margin start).length = 7 + start := by
  have hspaces : (String.ofList (List.replicate start ' ')).length = start := by
    rw [String.length_ofList, List.length_replicate]
  have hfront : "     | ".length = 7 := by decide
  rw [margin, String.length_append, hspaces, hfront]

theorem notMem_margin (start : Nat) : '^' ∉ (margin start).toList := by
  have hspaces : '^' ∉ (String.ofList (List.replicate start ' ')).toList := by
    rw [String.toList_ofList]
    exact fun hmem => absurd (List.eq_of_mem_replicate hmem) (by decide)
  rw [margin, String.toList_append, List.mem_append, not_or]
  exact ⟨by decide, hspaces⟩

/-- The gutter is as wide as the margin of the carets exactly if the line number takes four digits. -/
theorem length_gutter_eq_iff (n : Nat) : (gutter n).length = 7 ↔ n < 10000 := by
  have hwidth : (gutter n).length = max 4 (toString n).length + 3 := by
    rw [gutter, String.length_append, length_padLeft]
    rfl
  rw [hwidth, ← length_toString_le_four]
  omega

theorem underline_eq {start stop : Nat} {a b : Location} (ha : a.offset = start) (hb : b.offset = stop) :
    "     | " ++ underline ⟨a, b⟩ =
      margin start ++ String.ofList (List.replicate (max 1 (stop - start)) '^') := by
  have hstart : (start : Int).toNat = start := Int.toNat_natCast start
  have hwidth : (max 1 ((stop : Int) - start)).toNat = max 1 (stop - start) := by omega
  have hunderline : underline ⟨a, b⟩ = String.ofList (List.replicate a.offset.toNat ' ') ++
      String.ofList (List.replicate (max 1 (b.offset - a.offset)).toNat '^') := String.ofList_append
  rw [hunderline, ha, hb, hstart, hwidth]
  exact String.append_assoc.symm

/-- A diagnostic with a quotation is rendered as its heading, the quotation, the carets and the hints. -/
theorem splitAt_render (hd : d.Unbroken) (htext : Text.Unbroken text) (hquoted : d.sourceLine = some text)
    (hline : Text.Unbroken (toString d.line)) :
    splitAt '\n' d.render.toList = splitAt '\n' d.heading.toList ++
      ((gutter d.line).toList ++ text.toList) :: ("     | " ++ underline d.span).toList ::
        d.hints.map fun hint => ("     = " ++ hint).toList := by
  have hunderline : '\n' ∉ (underline d.span).toList := by
    rw [underline, String.toList_ofList]
    intro hmem
    rcases List.mem_append.mp hmem with hmem | hmem <;>
    exact absurd (List.eq_of_mem_replicate hmem) (by decide)
  have hbelow : ∀ line ∈ ((gutter d.line).toList ++ text.toList) :: ("     | " ++ underline d.span).toList ::
      d.hints.map fun hint => ("     = " ++ hint).toList, '\n' ∉ line := by
    refine List.forall_mem_cons.mpr ⟨?_, List.forall_mem_cons.mpr ⟨?_, ?_⟩⟩
    · rw [← String.toList_append]
      exact unbroken_append.mpr ⟨unbroken_append.mpr ⟨unbroken_padLeft hline, by decide⟩, htext⟩
    · exact Unbroken.behind (by decide) hunderline
    · rintro line hmem
      obtain ⟨hint, hhint, rfl⟩ := List.mem_map.mp hmem
      exact Unbroken.behind (by decide) (hd.hints hint hhint)
  have hrender : d.render.toList = ['\n'].intercalate (d.heading.toList ::
      ((gutter d.line).toList ++ text.toList) :: ("     | " ++ underline d.span).toList ::
        d.hints.map fun hint => ("     = " ++ hint).toList) := by
    simp only [render, heading, excerpt, hquoted, gutter, String.toList_intercalate, List.map_cons, List.map_map,
      List.cons_append, List.nil_append, ← String.toList_append]
    rfl
  rw [hrender, splitAt_intercalate_cons (List.cons_ne_nil _ _) hbelow]

theorem count_heading {s : Statement} {offset column : Nat} (hd : d.Unbroken)
    (hstart : d.span.start = s.location offset) (hline : Text.Unbroken (toString s.line))
    (hcolumn : s.column = column) :
    d.heading.toList.count '\n' = (s.filename.getD "").toList.count '\n' := by
  have hcolumn : Text.Unbroken (toString (s.column + offset)) := by
    rw [hcolumn]
    exact unbroken_toString (column + offset)
  have hseverity : Text.Unbroken d.severity.name := by cases d.severity <;> decide
  have hfile : (Location.filePart (s.location offset)).toList.count '\n' = (s.filename.getD "").toList.count '\n' := by
    unfold Location.filePart Statement.location
    cases s.filename with
    | none => rfl
    | some name =>
      simp only [Option.getD_some]
      split
      · rename_i hempty
        rw [String.isEmpty_iff.mp hempty]
      · rw [String.toList_append, List.count_append]
        rfl
  have hcounts : ∀ text : String, Text.Unbroken text → text.toList.count '\n' = 0 := fun _ => Unbroken.count_eq_zero
  simp only [heading, hstart, Location.text, String.toList_append, List.count_append, hfile, hcounts _ hd.code,
    hcounts _ hd.message, hcounts _ hseverity]
  simp only [Statement.location, hcounts _ hline, hcounts _ hcolumn]
  rfl

end Diagnostic

/-! ### The diagnostics of a parse -/

section Parses
variable {v : Vocabulary} {strict : Bool} {source : String} {filename : Option String} {r : Result}

/-- Each rendered diagnostic of a parse quotes a statement of the source on its second line, behind a gutter, and
    has on its third line a run of carets, as long as the stretch that it marks, or one for an empty stretch.
    The run begins in the column of that stretch if and only if the line of the statement has a number of at most
    four digits. (Line feeds in the file name come before both lines.) -/
theorem carets_of_readSource (h : readSource v strict source filename = .ok r) :
    ∀ d ∈ r.diagnostics, ∃ s ∈ Statement.ofSource source filename, ∃ start stop : Nat,
      d.sourceLine = some s.text ∧ d.span = ⟨s.location start, s.location stop⟩ ∧ start ≤ stop ∧
        stop ≤ s.text.length ∧
        let lines := splitAt '\n' d.render.toList
        let second := 1 + (filename.getD "").toList.count '\n'
        let gutter := Diagnostic.gutter s.line
        ∃ margin : List Char, lines[second]? = some (gutter.toList ++ s.text.toList) ∧
          lines[second + 1]? = some (margin ++ List.replicate (max 1 (stop - start)) '^') ∧ '^' ∉ margin ∧
          (margin.length = gutter.length + start ↔ s.line < 10000) := by
  intro d hd
  obtain ⟨s, hs, hpoints⟩ := pointsInto_of_readSource h d hd
  obtain ⟨start, stop, hle, hstop, hspan⟩ := hpoints.span
  obtain ⟨i, line, -, hline, hfilename, before, -, -, hcolumn⟩ := Statement.exists_line_of_mem_ofLines hs
  have hunbroken := unbroken_of_readSource h d hd
  have hnumber : Text.Unbroken (toString s.line) := by
    rw [hline]
    exact unbroken_toString (1 + i)
  have hlines := Diagnostic.splitAt_render hunbroken (Statement.unbroken_of_mem_ofSource hs) hpoints.sourceLine
    (by rwa [hpoints.line_eq])
  have hheading : (splitAt '\n' d.heading.toList).length = 1 + (filename.getD "").toList.count '\n' := by
    have hcount := Diagnostic.count_heading hunbroken (show d.span.start = s.location start by rw [hspan]) hnumber
      (show s.column = (before.length + 1 : Nat) from hcolumn)
    rw [length_splitAt, hcount, hfilename, Nat.add_comm]
  have hcarets := Diagnostic.underline_eq (a := s.location start) (b := s.location stop) rfl rfl
  refine ⟨s, hs, start, stop, hpoints.sourceLine, hspan, hle, hstop, (Diagnostic.margin start).toList, ?_, ?_,
    Diagnostic.notMem_margin start, ?_⟩
  · rw [hlines, ← hheading, List.getElem?_append_right (Nat.le_refl _), Nat.sub_self, hpoints.line_eq]
    rfl
  · rw [hlines, ← hheading, List.getElem?_append_right (Nat.le_add_right _ 1), Nat.add_sub_cancel_left, hspan, hcarets,
      String.toList_append, String.toList_ofList]
    rfl
  · have hwidth := Diagnostic.length_gutter_eq_iff (1 + i)
    rw [String.length_toList, Diagnostic.length_margin, hline]
    omega

/-- An indented statement with an unknown place in it, and one that ends too early. -/
theorem carets_of_readSource_indented :
    let source := "  DRAW MAN AT NOWHERE // unknown\r\n\tDRAW TREE AT"
    ∃ r, readSource .bundled false source none = .ok r ∧ r.diagnostics.length = 2 ∧
      ∀ d ∈ r.diagnostics, ∃ s ∈ Statement.ofSource source none, ∃ start stop : Nat,
        d.span = ⟨s.location start, s.location stop⟩ ∧
          ∃ margin : List Char,
            (splitAt '\n' d.render.toList)[2]? = some (margin ++ List.replicate (max 1 (stop - start)) '^') ∧
              (margin.length = (Diagnostic.gutter s.line).length + start ↔ s.line < 10000) := by
  intro source
  have hparse : (readSource .bundled false source none).toOption.map (·.diagnostics.length) = some 2 := by
    decide +kernel
  obtain ⟨r, hr, hlength⟩ := toOption_map_eq_some.mp hparse
  refine ⟨r, hr, hlength, fun d hd => ?_⟩
  obtain ⟨s, hs, start, stop, -, hspan, -, -, margin, -, hcarets, -, haligned⟩ := carets_of_readSource hr d hd
  exact ⟨s, hs, start, stop, hspan, margin, hcarets, haligned⟩

end Parses
end SceneScript
