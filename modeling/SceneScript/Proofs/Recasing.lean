import SceneScript.Proofs.Blur.Parses
import SceneScript.Proofs.Lines

/-!
Recasing. Two texts that differ in nothing but the case of ASCII letters outside strings state the same
scene, up to the case of the texts in it, as long as they spell the references of updates alike.
-/

namespace SceneScript

namespace Blur
open Text Token

variable (b : Blur)

/-! ### Lines -/

theorem beforeComment_letter (cs : List Char) :
    Statement.beforeComment (cs.map b.letter) = (Statement.beforeComment cs).map b.letter := by
  have hslash : ∀ c : Char, b.letter c = '/' ↔ c = '/' := b.letter_eq_mark rfl
  fun_induction Statement.beforeComment cs with
  | case1 => rfl
  | case2 c => rfl
  | case3 c d rest hmark =>
    have hmark' : (decide (b.letter c = '/') && decide (b.letter d = '/')) = true := by simpa [hslash] using hmark
    rw [List.map_cons, List.map_cons, Statement.beforeComment, if_pos hmark']
    rfl
  | case4 c d rest hmark ih =>
    have hmark' : ¬(decide (b.letter c = '/') && decide (b.letter d = '/')) = true := by simpa [hslash] using hmark
    rw [List.map_cons] at ih
    rw [List.map_cons, List.map_cons, Statement.beforeComment, if_neg hmark', ih]
    rfl

theorem dropReturn_letter (cs : List Char) :
    Statement.dropReturn (cs.map b.letter) = (Statement.dropReturn cs).map b.letter := by
  have hreturn : (cs.map b.letter).getLast? = some '\r' ↔ cs.getLast? = some '\r' := by
    rw [List.getLast?_map, Option.map_eq_some_iff]
    constructor
    · rintro ⟨c, hc, heq⟩
      rwa [(b.letter_eq_mark rfl c).mp heq] at hc
    · intro h
      exact ⟨'\r', h, b.letter_mark rfl⟩
  unfold Statement.dropReturn
  by_cases h : cs.getLast? = some '\r'
  · rw [if_pos h, if_pos (hreturn.mpr h), List.map_dropLast]
  · rw [if_neg h, if_neg (mt hreturn.mp h)]

/-- A line as it is seen. Only the strings before its comment are told apart. -/
def line (cs : List Char) : List Char :=
  let code := Statement.beforeComment (Statement.dropReturn cs)
  b.outside code ++ (cs.drop code.length).map b.letter

theorem map_line (cs : List Char) : (b.line cs).map b.letter = cs.map b.letter := by
  obtain ⟨rest, hrest⟩ :=
    (Statement.isPrefix_beforeComment (Statement.dropReturn cs)).trans (Statement.isPrefix_dropReturn cs)
  have hleft : ∀ code : List Char, code ++ rest = cs → cs.drop code.length = rest := by
    rintro code rfl
    exact List.drop_left
  have htwice : (rest.map b.letter).map b.letter = rest.map b.letter := by
    rw [List.map_map]
    exact List.map_congr_left fun c _ => b.letter_letter c
  rw [line, hleft _ hrest, List.map_append, map_outside, htwice, ← List.map_append, hrest]

variable {b}

section Lines
variable {cs cs' : List Char}

theorem map_code (h : b.line cs = b.line cs') :
    (Statement.beforeComment (Statement.dropReturn cs)).map b.letter =
      (Statement.beforeComment (Statement.dropReturn cs')).map b.letter := by
  rw [← beforeComment_letter, ← beforeComment_letter, ← dropReturn_letter, ← dropReturn_letter, ← map_line, h, map_line]

theorem length_outside (cs : List Char) : (b.outside cs).length = cs.length := by
  have hlengths := congrArg List.length (b.map_outside cs)
  rwa [List.length_map, List.length_map] at hlengths

theorem outside_code (h : b.line cs = b.line cs') :
    b.outside (Statement.beforeComment (Statement.dropReturn cs)) =
      b.outside (Statement.beforeComment (Statement.dropReturn cs')) := by
  have hlengths := congrArg List.length (map_code h)
  rw [List.length_map, List.length_map] at hlengths
  refine (List.append_inj h ?_).1
  rw [length_outside, length_outside, hlengths]

/-- Trimming does not look at the case of letters. -/
theorem outside_trimChars (hmap : cs.map b.letter = cs'.map b.letter) (h : b.outside cs = b.outside cs') :
    b.outside (trimChars cs) = b.outside (trimChars cs') := by
  have hplain : ∀ {blanks : List Char}, (∀ c ∈ blanks, isBlank c = true) → ∀ c ∈ blanks, ¬IsQuote c := by
    rintro blanks hblanks c hc (rfl | rfl) <;> exact absurd (hblanks _ hc) (by decide)
  have hseen : ∀ cs : List Char, ∃ before after, b.outside cs = before ++ b.outside (trimChars cs) ++ after ∧
      before.length = cs.length - (dropBlanks cs).length := by
    intro cs
    obtain ⟨blanks, after, hcs, hdropped, hblanks, hafter⟩ := exists_trimChars cs
    refine ⟨blanks.map b.letter, after.map b.letter, ?_, ?_⟩
    · calc b.outside cs
        _ = b.outside (blanks ++ trimChars cs ++ after) := by rw [← hcs]
        _ = b.outside (blanks ++ trimChars cs) ++ after.map b.letter := outsideStrings_append_right _ (hplain hafter)
        _ = blanks.map b.letter ++ b.outside (trimChars cs) ++ after.map b.letter :=
          congrArg (· ++ after.map b.letter) (outsideStrings_append (hplain hblanks))
    · have hlengths := congrArg List.length hcs
      rw [List.append_assoc, ← hdropped, List.length_append] at hlengths
      rw [List.length_map]
      omega
  have hdrops : (dropBlanks cs).map b.letter = (dropBlanks cs').map b.letter := by
    rw [← dropBlanks_letter, hmap, dropBlanks_letter]
  have htrims : (trimChars cs).map b.letter = (trimChars cs').map b.letter := by
    rw [← trimChars_letter, hmap, trimChars_letter]
  have hlength := congrArg List.length hmap
  have hdropLength := congrArg List.length hdrops
  have htrimLength := congrArg List.length htrims
  simp only [List.length_map] at hlength hdropLength htrimLength
  obtain ⟨before, after, heq, hbefore⟩ := hseen cs
  obtain ⟨before', after', heq', hbefore'⟩ := hseen cs'
  rw [heq, heq', List.append_assoc, List.append_assoc] at h
  obtain ⟨-, hrest⟩ := List.append_inj h (by rw [hbefore, hbefore', hlength, hdropLength])
  exact (List.append_inj hrest (by rw [length_outside, length_outside, htrimLength])).1

/-- Lines that are not told apart have no statement, or statements that are not told apart. -/
theorem ofLine?_line (h : b.line cs = b.line cs') (filename : Option String) (n : Nat) :
    List.Forall₂ b.Matches (Statement.ofLine? filename n cs).toList (Statement.ofLine? filename n cs').toList := by
  have hmap := map_code h
  have houtside := outside_trimChars hmap (outside_code h)
  have htrims : (trimChars (Statement.beforeComment (Statement.dropReturn cs))).length =
      (trimChars (Statement.beforeComment (Statement.dropReturn cs'))).length := by
    rw [← length_outside (b := b), houtside, length_outside]
  have hdrops : (dropBlanks (Statement.beforeComment (Statement.dropReturn cs))).length =
      (dropBlanks (Statement.beforeComment (Statement.dropReturn cs'))).length := by
    rw [← List.length_map (f := b.letter), ← dropBlanks_letter, hmap, dropBlanks_letter, List.length_map]
  have hlength : (Statement.beforeComment (Statement.dropReturn cs)).length =
      (Statement.beforeComment (Statement.dropReturn cs')).length := by
    rw [← List.length_map (f := b.letter), hmap, List.length_map]
  simp only [Statement.ofLine?, List.isEmpty_iff_length_eq_zero, htrims]
  split
  · exact .nil
  · refine .cons ⟨?_, fun offset => ?_⟩ .nil
    · simp only [String.toList_ofList]
      exact houtside
    · simp only [Statement.location, hlength, hdrops]

theorem ofLines_line {lines lines' : List (List Char)} (h : lines.map b.line = lines'.map b.line)
    (filename : Option String) (n : Nat) :
    List.Forall₂ b.Matches (Statement.ofLines filename n lines) (Statement.ofLines filename n lines') := by
  induction lines generalizing n lines' with
  | nil =>
    rw [List.map_eq_nil_iff.mp h.symm]
    exact .nil
  | cons cs lines ih =>
    obtain ⟨cs', lines', rfl, hfirst, hrest⟩ := List.map_eq_cons_iff.mp h.symm
    exact List.rel_append (ofLine?_line hfirst.symm filename n) (ih hrest.symm (n + 1))

end Lines

/-! ### Case -/

/-- What tells all places apart, but no capital from its lower case. -/
def caseless : Blur where
  letter := Char.toLower
  place := id
  letter_eq _ := Or.inr rfl
  offset_place _ := rfl
  place_unknown := rfl

end Blur

open Blur

/-- The texts differ in nothing but the case of ASCII letters outside strings. -/
def SameButCase (source source' : String) : Prop :=
  (Text.splitAt '\n' source.toList).map caseless.line = (Text.splitAt '\n' source'.toList).map caseless.line

/-- Statements that match in turn and whose references are spelled alike in turn. -/
theorem matches_and_references {b : Blur} {statements statements' : List Statement}
    (hmatches : List.Forall₂ b.Matches statements statements')
    (hreferences : statements.map Statement.reference? = statements'.map Statement.reference?) :
    List.Forall₂ (fun s s' => b.Matches s s' ∧ s.reference? = s'.reference?) statements statements' := by
  induction hmatches with
  | nil => exact .nil
  | cons hfirst _ ih =>
    obtain ⟨hreference, hrest⟩ := List.cons.inj hreferences
    exact .cons ⟨hfirst, hreference⟩ (ih hrest)

/-- Case carries no meaning outside strings. A text that differs from another in case alone, and spells the
    references of its updates alike, is parsed if the other is, with the same outcome: the diagnostics are of the
    same kinds at the same places, and the entities differ at most in the case of their texts. -/
theorem readSource_recased {v : Vocabulary} {strict : Bool} {source source' : String} {filename : Option String}
    {r : Result} (hcase : SameButCase source source')
    (hreferences : (Statement.ofSource source filename).map Statement.reference? =
      (Statement.ofSource source' filename).map Statement.reference?)
    (h : readSource v strict source filename = .ok r) :
    ∃ r', readSource v strict source' filename = .ok r' ∧ r.success = r'.success ∧
      r.diagnostics.map (fun d => (d.code, d.severity, d.span)) =
        r'.diagnostics.map (fun d => (d.code, d.severity, d.span)) ∧
      r.extensions = r'.extensions ∧ r.scene.environment = r'.scene.environment ∧
      r.scene.metadata = r'.scene.metadata ∧
      r.scene.entities.map caseless.entity = r'.scene.entities.map caseless.entity := by
  have hmatches := ofLines_line hcase filename 1
  obtain ⟨r', hr', halike⟩ := readSource_alike (matches_and_references hmatches hreferences) h
  have hkinds : ∀ ds : List Diagnostic, ds.map (fun d => (d.code, d.severity, d.span)) =
      (ds.map caseless.diagnostic).map fun d => (d.code, d.severity, d.span) := by
    intro ds
    rw [List.map_map]
    rfl
  refine ⟨r', hr', halike.success, ?_, halike.extensions, halike.environment, halike.metadata, halike.entities⟩
  rw [hkinds r.diagnostics, hkinds r'.diagnostics, halike.diagnostics]

/-- A drawing with a string beside what is not there, before a comment, and an update of it. -/
theorem readSource_recased_mixed :
    ∃ r r', readSource {} false "DRAW Man WITH Skin 'Ab' NEAR Tree // Note\nUPDATE man WITH Skin Pale" none = .ok r ∧
      readSource {} false "draw MAN with SKIN 'Ab' near TREE // NOTE\nUpdate man with skin PALE" none = .ok r' ∧
      r.success = r'.success ∧ r.scene.entities.map caseless.entity = r'.scene.entities.map caseless.entity := by
  have hcase : SameButCase "DRAW Man WITH Skin 'Ab' NEAR Tree // Note\nUPDATE man WITH Skin Pale"
      "draw MAN with SKIN 'Ab' near TREE // NOTE\nUpdate man with skin PALE" := by
    unfold SameButCase
    decide +kernel
  have hparsed : (readSource {} false "DRAW Man WITH Skin 'Ab' NEAR Tree // Note\nUPDATE man WITH Skin Pale"
      none).toOption.isSome = true := by decide +kernel
  obtain ⟨r, hr⟩ := toOption_isSome.mp hparsed
  obtain ⟨r', hr', hsuccess, -, -, -, -, hentities⟩ := readSource_recased hcase (by decide +kernel) hr
  exact ⟨r, r', hr, hr', hsuccess, hentities⟩

end SceneScript
