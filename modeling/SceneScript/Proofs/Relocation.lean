import SceneScript.Proofs.Blur.Places
import SceneScript.Proofs.Lines

/-!
Relocation. What a line says depends neither on its indentation nor on a comment or a return at its end, and
what a text says not on the lines between; texts that say the same are parsed alike, and their reports differ
in lines and columns alone.
-/

namespace SceneScript

namespace Statement
open Text

/-! ### What lines say -/

/-- The text of the statement on a line, if there is one. -/
def saidOn? (line : List Char) : Option String :=
  let text := trimChars (beforeComment line)
  if text.isEmpty then none else some (String.ofList text)

theorem trimChars_beforeComment_append {blanks : List Char} (line : List Char) (h : ∀ c ∈ blanks, isBlank c = true) :
    trimChars (beforeComment (line ++ blanks)) = trimChars (beforeComment line) := by
  have hplain : ∀ c ∈ blanks, c ≠ '/' := by
    rintro c hc rfl
    exact absurd (h '/' hc) (by decide)
  rcases beforeComment_append_plain line hplain with heq | heq
  · rw [heq, trimChars_append_blanks h]
  · rw [heq]

theorem text_ofLine? (filename : Option String) (n : Nat) (line : List Char) :
    (ofLine? filename n line).map (·.text) = saidOn? line := by
  have hreturn : trimChars (beforeComment (dropReturn line)) = trimChars (beforeComment line) := by
    obtain ⟨blanks, hline, hblanks⟩ := exists_dropReturn line
    conv_rhs => rw [hline, trimChars_beforeComment_append _ hblanks]
  simp only [ofLine?, saidOn?, hreturn]
  split <;> rfl

theorem texts_ofLines (filename : Option String) (n : Nat) (lines : List (List Char)) :
    (ofLines filename n lines).map (·.text) = lines.filterMap saidOn? := by
  induction lines generalizing n with
  | nil => rfl
  | cons line lines ih =>
    rw [ofLines, List.map_append, ih, ← Option.toList_map, text_ofLine?, List.filterMap_cons]
    cases saidOn? line <;> rfl

/-- A line says the same behind more blanks, before more of them, and before a comment. -/
theorem saidOn?_layout {indent blanks comment line : List Char} (hindent : ∀ c ∈ indent, isBlank c = true)
    (hblanks : ∀ c ∈ blanks, isBlank c = true) (hcomment : comment = [] ∨ ['/', '/'] <+: comment)
    (hline : line.getLast? ≠ some '/') : saidOn? (indent ++ line ++ blanks ++ comment) = saidOn? line := by
  have hplain : ∀ c ∈ indent, c ≠ '/' := by
    rintro c hc rfl
    exact absurd (hindent '/' hc) (by decide)
  have htail : ∀ front : List Char, front.getLast? ≠ some '/' →
      trimChars (beforeComment (front ++ blanks ++ comment)) = trimChars (beforeComment front) := by
    intro front hfront
    rcases hcomment with rfl | ⟨note, rfl⟩
    · rw [List.append_nil, trimChars_beforeComment_append _ hblanks]
    · rw [beforeComment_append_comment, trimChars_beforeComment_append _ hblanks]
      rw [List.getLast?_append]
      cases hlast : blanks.getLast? with
      | none => exact hfront
      | some c =>
        rintro ⟨⟩
        exact absurd (hblanks '/' (List.mem_of_getLast? hlast)) (by decide)
  have hcode : trimChars (beforeComment (indent ++ line ++ blanks ++ comment)) = trimChars (beforeComment line) := by
    rw [List.append_assoc, List.append_assoc, beforeComment_plain_append hplain, trimChars_blanks_append hindent,
      ← List.append_assoc, htail line hline]
  rw [saidOn?, saidOn?, hcode]

end Statement

/-! ### Reports -/

/-- The diagnostics differ in lines and columns alone. -/
structure Diagnostic.SameButPlace (d d' : Diagnostic) : Prop where
  code : d.code = d'.code
  severity : d.severity = d'.severity
  message : d.message = d'.message
  sourceLine : d.sourceLine = d'.sourceLine
  hints : d.hints = d'.hints
  start : d.span.start.offset = d'.span.start.offset
  stop : d.span.stop.offset = d'.span.stop.offset
  startFile : d.span.start.filename = d'.span.start.filename
  stopFile : d.span.stop.filename = d'.span.stop.filename

/-- The results differ in the lines and columns of their reports alone. -/
structure Result.SameButPlaces (r r' : Result) : Prop where
  success : r.success = r'.success
  scene : r.scene = r'.scene
  extensions : r.extensions = r'.extensions
  diagnostics : List.Forall₂ Diagnostic.SameButPlace r.diagnostics r'.diagnostics

namespace Blur

theorem sameButPlace_onAnyLine {d d' : Diagnostic} (h : onAnyLine.diagnostic d = onAnyLine.diagnostic d') :
    d.SameButPlace d' := by
  rw [diagnostic_of_letters rfl, diagnostic_of_letters rfl] at h
  obtain ⟨hcode, hseverity, hmessage, hspan, hline, hhints⟩ := Diagnostic.mk.inj h
  obtain ⟨hstart, hstop⟩ := Span.mk.inj hspan
  obtain ⟨-, -, hstartOffset, hstartFile⟩ := Location.mk.inj hstart
  obtain ⟨-, -, hstopOffset, hstopFile⟩ := Location.mk.inj hstop
  exact ⟨hcode, hseverity, hmessage, hline, hhints, hstartOffset, hstopOffset, hstartFile, hstopFile⟩

theorem ResultsAlike.onAnyLine {r r' : Result} (h : Blur.onAnyLine.ResultsAlike r r') : r.SameButPlaces r' := by
  have hdiagnostics := List.forall₂_eq_eq_eq.symm ▸ h.diagnostics
  rw [List.forall₂_map_left_iff, List.forall₂_map_right_iff] at hdiagnostics
  exact ⟨h.success, h.scene_of_letters rfl, h.extensions, hdiagnostics.imp fun _ _ => sameButPlace_onAnyLine⟩

end Blur

/-! ### Parses -/

theorem readSource_ok_of_texts {v : Vocabulary} {strict : Bool} {source source' : String} {filename : Option String}
    {r : Result}
    (htexts : (Statement.ofSource source filename).map (·.text) = (Statement.ofSource source' filename).map (·.text))
    (h : readSource v strict source filename = .ok r) :
    ∃ r', readSource v strict source' filename = .ok r' ∧ r.SameButPlaces r' := by
  have hfile : ∀ {source : String}, ∀ s ∈ Statement.ofSource source filename, s.filename = filename := by
    intro source s hs
    obtain ⟨_, _, _, _, hfilename, _⟩ := Statement.exists_line_of_mem_ofLines hs
    exact hfilename
  have hmatches : List.Forall₂ (fun s s' => Blur.onAnyLine.Matches s s' ∧ s.reference? = s'.reference?)
      (Statement.ofSource source filename) (Statement.ofSource source' filename) := by
    have hpairs := List.forall₂_eq_eq_eq.symm ▸ htexts
    rw [List.forall₂_map_left_iff, List.forall₂_map_right_iff] at hpairs
    refine List.forall₂_iff_zip.mpr ⟨hpairs.length_eq, fun {s s'} hzip => ?_⟩
    have htext : s.text = s'.text := (List.forall₂_iff_zip.mp hpairs).2 hzip
    obtain ⟨hs, hs'⟩ := List.of_mem_zip hzip
    refine Blur.matches_of_letters rfl htext fun n => ?_
    have hplace : ∀ s : Statement, Blur.onAnyLine.place (s.location n) = ⟨0, 1, n, s.filename⟩ := fun _ => rfl
    rw [hplace, hplace, hfile s hs, hfile s' hs']
  obtain ⟨r', hr', halike⟩ := Blur.readSource_alike hmatches h
  exact ⟨r', hr', halike.onAnyLine⟩

/-- Where statements stand carries no meaning. Of two texts that say the same, either both are parsed, and the
    results differ in the lines and columns of their reports alone, or neither is. -/
theorem readSource_relocated {v : Vocabulary} {strict : Bool} {source source' : String} {filename : Option String}
    (htexts : (Statement.ofSource source filename).map (·.text) = (Statement.ofSource source' filename).map (·.text)) :
    (∃ r r', readSource v strict source filename = .ok r ∧ readSource v strict source' filename = .ok r' ∧
      r.SameButPlaces r') ∨
    ∃ f f', readSource v strict source filename = .error f ∧ readSource v strict source' filename = .error f' := by
  cases hread : readSource v strict source filename with
  | ok r =>
    obtain ⟨r', hr', hsame⟩ := readSource_ok_of_texts htexts hread
    exact Or.inl ⟨r, r', rfl, hr', hsame⟩
  | error f =>
    cases hread' : readSource v strict source' filename with
    | error f' => exact Or.inr ⟨f, f', rfl, rfl⟩
    | ok r' =>
      obtain ⟨r, hr, -⟩ := readSource_ok_of_texts htexts.symm hread'
      rw [hread] at hr
      cases hr

/-- A drawing beside what is not there, bare, and then between comments, indented and with returns. -/
theorem readSource_relocated_indented :
    ∃ r r', readSource {} false "DRAW MAN NEAR TREE\nUPDATE DOG WITH SIZE big" none = .ok r ∧
      readSource {} false "// A man\r\n\r\n  DRAW MAN NEAR TREE // alone\r\n\tUPDATE DOG WITH SIZE big\r\n" none = .ok r' ∧
      r.SameButPlaces r' := by
  have htexts : (Statement.ofSource "DRAW MAN NEAR TREE\nUPDATE DOG WITH SIZE big" none).map (·.text) =
      (Statement.ofSource "// A man\r\n\r\n  DRAW MAN NEAR TREE // alone\r\n\tUPDATE DOG WITH SIZE big\r\n" none).map
        (·.text) := by decide +kernel
  have hparsed : (readSource {} false "DRAW MAN NEAR TREE\nUPDATE DOG WITH SIZE big" none).toOption.isSome = true := by
    decide +kernel
  obtain ⟨r, hr⟩ := toOption_isSome.mp hparsed
  rcases readSource_relocated htexts with hread | ⟨f, f', hf, -⟩
  · exact hread
  · rw [hr] at hf
    cases hf

end SceneScript
