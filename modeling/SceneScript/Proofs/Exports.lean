import SceneScript.Proofs.Options

/-!
The export options of a scene. Only the last export that is not refused counts, and its options can be used: its
format and quality are known ones, its density is positive, and it has both sides of a size or none. A side need not be
positive, for a dimension of any sign and any digits states a size.
-/

namespace SceneScript

/-! ### Sizes as they are spelled -/

namespace Token
open Text

variable {lexeme rest whole digits : List Char} {width height : Int}

/-- The spelling of a size with sides that are not empty: it has no sign, and a digit other than zero on each side of
    the cross. -/
def Spacious (lexeme : List Char) : Prop :=
  ∃ width cross height, lexeme = width ++ cross :: height ∧ Digits width ∧ (cross = 'x' ∨ cross = 'X') ∧
    Digits height ∧ (∃ d ∈ width, d ≠ '0') ∧ ∃ d ∈ height, d ≠ '0'

theorem foldl_digits_eq_zero (hdigits : ∀ d ∈ digits, isDigit d = true) (n : Nat) :
    digits.foldl (fun n d => 10 * n + (d.toNat - '0'.toNat)) n = 0 ↔ n = 0 ∧ ∀ d ∈ digits, d = '0' := by
  induction digits generalizing n with
  | nil => simp
  | cons d digits ih =>
    have hd := hdigits d List.mem_cons_self
    simp only [isDigit, Bool.and_eq_true, decide_eq_true_eq, Char.le_def, UInt32.le_iff_toNat_le] at hd
    have hzero : d.toNat - '0'.toNat = 0 ↔ d = '0' := by
      have hge : '0'.toNat ≤ d.toNat := hd.1
      rw [Nat.sub_eq_zero_iff_le, ← Char.toNat_inj]
      exact ⟨fun hle => Nat.le_antisymm hle hge, Nat.le_of_eq⟩
    have hten : 10 * n = 0 ↔ n = 0 := by omega
    rw [List.foldl_cons, ih fun e he => hdigits e (List.mem_cons_of_mem d he), List.forall_mem_cons, ← hzero,
      Nat.add_eq_zero_iff, hten, and_assoc]

theorem ofDigits_pos_iff (hdigits : Digits digits) : 0 < Decimal.ofDigits digits ↔ ∃ d ∈ digits, d ≠ '0' := by
  rw [Nat.pos_iff_ne_zero, Decimal.ofDigits, ne_eq, foldl_digits_eq_zero hdigits.2]
  simp

theorem integerOf_pos_iff (negative : Bool) (hdigits : Digits digits) :
    0 < integerOf negative digits ↔ negative = false ∧ ∃ d ∈ digits, d ≠ '0' := by
  rw [← ofDigits_pos_iff hdigits]
  cases negative with
  | false => simp [integerOf]
  | true =>
    simp only [integerOf, ↓reduceIte, Bool.true_eq_false, false_and, iff_false]
    omega

/-- How a dimension is spelled. -/
theorem Lexeme.dimension (h : Lexeme (.dimension width height) lexeme rest) :
    ∃ negative first cross second, lexeme = signOf negative ++ first ++ cross :: second ∧ Digits first ∧
      (cross = 'x' ∨ cross = 'X') ∧ Digits second ∧ width = integerOf negative first ∧
      height = integerOf false second := by
  generalize hform : Form.dimension width height = form at h
  cases h with
  | @numeral negative first rest n hfirst hstops _ =>
    cases n with
    | crossed cross second =>
      cases hform
      exact ⟨negative, first, cross, second, rfl, hfirst, hstops.formed.1, hstops.formed.2, rfl, rfl⟩
    | integer => cases hform
    | decimal fraction => cases hform
  | mark =>
    unfold punctuation at hform
    repeat' split at hform
    all_goals cases hform
  | _ => cases hform

/-- The sides of a dimension are positive if it is spelled so. -/
theorem Lexeme.spacious_iff (h : Lexeme (.dimension width height) lexeme rest) :
    0 < width ∧ 0 < height ↔ Spacious lexeme := by
  obtain ⟨negative, first, cross, second, rfl, hfirst, hcross, hsecond, rfl, rfl⟩ := h.dimension
  rw [integerOf_pos_iff negative hfirst, integerOf_pos_iff false hsecond]
  constructor
  · rintro ⟨⟨rfl, hw⟩, -, hh⟩
    exact ⟨first, cross, second, rfl, hfirst, hcross, hsecond, hw, hh⟩
  · rintro ⟨width, cross', height, heq, hwidth, hcross', hheight, hw, hh⟩
    have hstop : ∀ {cross : Char} (rest : List Char), cross = 'x' ∨ cross = 'X' →
        ∀ c ∈ (cross :: rest).head?, isDigit c = false := by
      rintro cross rest (rfl | rfl) c hc <;> cases hc <;> decide
    cases negative with
    | true =>
      -- A side begins with a digit, and a sign is none.
      obtain ⟨d, more, rfl⟩ := List.exists_cons_of_ne_nil hwidth.1
      obtain ⟨rfl, -⟩ := List.cons.inj heq
      exact absurd (hwidth.2 '-' List.mem_cons_self) (by decide)
    | false =>
      obtain ⟨htake, hdrop⟩ := takeWhile_append hwidth.2 (hstop height hcross')
      obtain ⟨htake', hdrop'⟩ := takeWhile_append hfirst.2 (hstop second hcross)
      have heq : first ++ cross :: second = width ++ cross' :: height := heq
      rw [heq] at htake' hdrop'
      obtain rfl : width = first := htake.symm.trans htake'
      obtain ⟨-, rfl⟩ := List.cons.inj (hdrop.symm.trans hdrop')
      exact ⟨⟨rfl, hw⟩, rfl, hh⟩

end Token

namespace Command.Export

variable {tokens rest left : List Token} {part : Part} {parts : List Part} {settings : List Setting} {format : String}

/-! ### Where settings come from -/

theorem dropColon_suffix (tokens : List Token) : (dropColon tokens).2 <:+ tokens := by
  cases tokens with
  | nil => exact List.suffix_refl []
  | cons t rest =>
    rw [dropColon]
    split
    · exact List.suffix_cons t rest
    · exact List.suffix_refl _

theorem dropValue_suffix (hasColon : Bool) (tokens : List Token) : dropValue hasColon tokens <:+ tokens := by
  rw [dropValue]
  split
  · exact List.suffix_refl tokens
  · exact List.drop_suffix 1 tokens

/-- One of the tokens states the setting under an option word. -/
def StatedIn (tokens : List Token) (x : Setting) : Prop :=
  ∃ word ∈ optionWords, ∃ value ∈ tokens, States word value.form x

theorem StatedIn.mono {x : Setting} (h : StatedIn left x) (hsub : left ⊆ tokens) : StatedIn tokens x := by
  obtain ⟨word, hword, value, hvalue, hx⟩ := h
  exact ⟨word, hword, value, hsub hvalue, hx⟩

theorem Round.suffix (h : Round tokens part left) : left <:+ tokens := by
  cases h with
  | joiner => exact List.suffix_cons _ _
  | @option key value _ _ rest _ _ _ hvalue _ =>
    have hrest := dropColon_suffix rest
    rw [hvalue] at hrest
    exact ((List.suffix_cons value left).trans hrest).trans (List.suffix_cons key rest)
  | @unknown key rest =>
    exact ((dropValue_suffix _ _).trans (dropColon_suffix rest)).trans (List.suffix_cons key rest)

theorem Round.statedIn (h : Round tokens part left) : ∀ x ∈ part.setting?, StatedIn tokens x := by
  intro x hx
  cases h with
  | joiner => cases hx
  | @option key value word _ rest _ _ hword hvalue hstates =>
    cases hx
    have hrest := dropColon_suffix rest
    rw [hvalue] at hrest
    exact ⟨word, hword, value, List.mem_cons_of_mem key (hrest.subset List.mem_cons_self), hstates⟩
  | unknown => cases hx

/-- What rounds set is stated by the tokens. -/
theorem Rounds.statedIn (h : Rounds tokens parts left) : ∀ x ∈ parts.filterMap Part.setting?, StatedIn tokens x := by
  induction h with
  | nil => simp
  | @cons tokens rest left part parts hround _ ih =>
    intro x hx
    rw [List.mem_filterMap] at hx
    obtain ⟨p, hp, hx⟩ := hx
    rcases List.mem_cons.mp hp with rfl | hp
    · exact hround.statedIn x hx
    · exact (ih x (List.mem_filterMap.mpr ⟨p, hp, hx⟩)).mono hround.suffix.subset

/-! ### Options that can be used -/

/-- The options name a format and a quality that there are, both sides of a size or none, and a positive density if
    any. -/
structure Usable (o : ExportOptions) : Prop where
  format : o.format ∈ ["png", "jpeg", "webp", "svg", "pdf", "gif"]
  quality : (∃ level ∈ ["low", "medium", "high", "ultra"], o.quality = some (.level level)) ∨
    ∃ n : Int, o.quality = some (.amount (.int n))
  size : (o.width = none ∧ o.height = none) ∨ ∃ width height, o.width = some width ∧ o.height = some height
  density : ∀ n ∈ o.density, 0 < n

theorem lower_format : ∀ format ∈ formats, Text.lower format ∈ ["png", "jpeg", "webp", "svg", "pdf", "gif"] := by
  decide

theorem lower_level : ∀ level ∈ qualityLevels, Text.lower level ∈ ["low", "medium", "high", "ultra"] := by
  decide

/-- The last setting of a kind is stated by one of the tokens. -/
theorem exists_of_getLast? {α : Type} {kind : Setting → Option α} {a : α} (h : ∀ x ∈ settings, StatedIn tokens x)
    (hlast : (settings.filterMap kind).getLast? = some a) :
    ∃ word, ∃ value ∈ tokens, ∃ x, States word value.form x ∧ kind x = some a := by
  obtain ⟨x, hx, hkind⟩ := List.mem_filterMap.mp (List.mem_of_getLast? hlast)
  obtain ⟨word, -, value, hvalue, hstates⟩ := h x hx
  exact ⟨word, value, hvalue, x, hstates, hkind⟩

theorem usable_optionsOf (hformat : format ∈ formats) (h : ∀ x ∈ settings, StatedIn tokens x) :
    Usable (optionsOf format settings) where
  format := lower_format format hformat
  quality := by
    cases hlast : (settings.filterMap Setting.quality?).getLast? with
    | none => exact Or.inl ⟨"medium", by decide, by simp [optionsOf, hlast]⟩
    | some q =>
      have hquality : (optionsOf format settings).quality = some q := by simp [optionsOf, hlast]
      rw [hquality]
      obtain ⟨word, value, -, x, hstates, hq⟩ := exists_of_getLast? h hlast
      generalize value.form = form at hstates
      cases hstates with
      | level hname =>
        cases hq
        exact Or.inl ⟨_, lower_level _ hname, rfl⟩
      | amount n =>
        cases hq
        exact Or.inr ⟨n, rfl⟩
      | _ => cases hq
  size := by
    cases hlast : (settings.filterMap Setting.size?).getLast? with
    | none => exact Or.inl (by simp [optionsOf, hlast])
    | some size => exact Or.inr ⟨size.1, size.2, by simp [optionsOf, hlast]⟩
  density := by
    intro n hn
    obtain ⟨word, value, -, x, hstates, hdensity⟩ := exists_of_getLast? h hn
    generalize value.form = form at hstates
    cases hstates with
    | density hpos =>
      cases hdensity
      exact hpos
    | _ => cases hdensity

/-- A recorded size is stated by one of the tokens. -/
theorem exists_of_size {width height : Int} (h : ∀ x ∈ settings, StatedIn tokens x)
    (hwidth : (optionsOf format settings).width = some width)
    (hheight : (optionsOf format settings).height = some height) :
    ∃ value ∈ tokens, States "RESOLUTION" value.form (.size width height) := by
  obtain ⟨size, hlast, rfl⟩ := Option.map_eq_some_iff.mp hwidth
  obtain ⟨size', hlast', rfl⟩ := Option.map_eq_some_iff.mp hheight
  obtain rfl : size = size' := Option.some.inj (hlast.symm.trans hlast')
  obtain ⟨word, value, hvalue, x, hstates, hsize⟩ := exists_of_getLast? h hlast
  refine ⟨value, hvalue, ?_⟩
  generalize value.form = form at hstates ⊢
  cases hstates with
  | dimension =>
    cases hsize
    exact .dimension _ _
  | preset hname =>
    cases hsize
    exact .preset hname
  | _ => cases hsize

/-- A size is positive if it is that of a preset or a dimension that is spelled so. -/
theorem States.positive_iff {word : String} {value : Token} {width height : Int}
    (h : States word value.form (.size width height)) (hvalue : value.Readable) :
    0 < width ∧ 0 < height ↔ (value.kind = .dimension → Token.Spacious value.lexeme.toList) := by
  obtain ⟨c, cs, rest, hlexeme, -, hreads⟩ := hvalue
  rw [hlexeme, String.toList_ofList, Token.kind]
  generalize value.form = form at h hreads
  cases h with
  | dimension =>
    rw [hreads.spacious_iff]
    exact ⟨fun hs _ => hs, fun hs => hs rfl⟩
  | @preset name _ _ hname =>
    have hall : ∀ p ∈ resolutions, 0 < p.2.1 ∧ 0 < p.2.2 := by decide
    obtain ⟨before, after, hmem, -⟩ := List.lookup_eq_some_iff.mp hname
    have hpositive : 0 < width ∧ 0 < height := by
      refine hall (name, width, height) ?_
      rw [hmem]
      exact List.mem_append_right before List.mem_cons_self
    refine iff_of_true hpositive fun hkind => ?_
    cases hkind

end Command.Export

/-! ### The last export -/

open Command.Export

/-- The options that a statement records, if it is an export that is not refused. -/
def Statement.exported? (s : Statement) : Option ExportOptions :=
  match s.read.outcome with
  | .ok (.exportAs options) => some options
  | _ => none

theorem Statement.exported?_eq_some {s : Statement} {options : ExportOptions} :
    s.exported? = some options ↔ s.read.outcome = .ok (.exportAs options) := by
  rw [exported?]
  split
  · rename_i options' houtcome
    rw [houtcome]
    simp
  · rename_i hnot
    exact iff_of_false nofun (hnot options)

theorem Statement.isSome_exported? (s : Statement) :
    s.exported?.isSome = (s.read.opening == some .exportAs && s.refusal?.isNone) := by
  unfold exported? refusal?
  cases h : s.read.outcome with
  | ok command =>
    rw [opening_of_read h]
    cases command <;> rfl
  | error failure =>
    cases failure with
    | refused r => simp
    | fault f => simp [opening_of_fault h]

namespace Context

variable {c c' : Context} {s : Statement} {statements : List Statement}

theorem exportOptions_carryOut {command : Command} (h : c.carryOut s command = .ok c') :
    (∃ options, command = .exportAs options ∧ c'.scene.metadata.exportOptions = some options) ∨
      (∀ options, command ≠ .exportAs options) ∧
        c'.scene.metadata.exportOptions = c.scene.metadata.exportOptions := by
  cases command with
  | load name =>
    cases h
    obtain ⟨_, _, heq, -⟩ := load_eq (c := c) s.text name
    rw [heq]
    exact Or.inr ⟨nofun, rfl⟩
  | environment name =>
    cases h
    exact Or.inr ⟨nofun, rfl⟩
  | draw keyword clauses placed =>
    obtain ⟨_, _, -, -, -, rfl⟩ := draw_eq_ok h
    exact Or.inr ⟨nofun, rfl⟩
  | update reference clauses =>
    rcases update_eq_ok h with ⟨-, rfl⟩ | ⟨_, _, -, -, rfl⟩ <;> exact Or.inr ⟨nofun, rfl⟩
  | exportAs options =>
    cases h
    exact Or.inl ⟨options, rfl, rfl⟩

/-- An export that is not refused replaces the options; every other statement keeps them. -/
theorem exportOptions_step (h : c.step s = .ok c') :
    c'.scene.metadata.exportOptions = s.exported?.or c.scene.metadata.exportOptions := by
  obtain ⟨⟨d, o⟩, hd, rfl⟩ := step_eq_ok.mp h
  rcases attempt_cases hd with ⟨command, hcommand, hcarried, rfl⟩ | ⟨r, hr, rfl, rfl⟩
  · rcases exportOptions_carryOut hcarried with ⟨options, rfl, hoptions⟩ | ⟨hnot, hkept⟩
    · rw [Statement.exported?_eq_some.mpr hcommand]
      exact hoptions
    · have hnone : s.exported? = none := by
        refine Option.eq_none_iff_forall_ne_some.mpr fun options hoptions => hnot options ?_
        exact Except.ok.inj (hcommand.symm.trans (Statement.exported?_eq_some.mp hoptions))
      rw [hnone]
      exact hkept
  · have hnone : s.exported? = none := by
      rw [Statement.exported?, hr]
    rw [hnone]
    rfl

theorem exportOptions_run (h : c.run statements = .ok c') : c'.scene.metadata.exportOptions =
    (statements.filterMap Statement.exported?).getLast?.or c.scene.metadata.exportOptions := by
  induction statements generalizing c with
  | nil =>
    cases h
    rfl
  | cons s statements ih =>
    obtain ⟨d, hd, h⟩ := bind_eq_ok.mp h
    rw [ih h, exportOptions_step hd]
    cases hs : s.exported? with
    | none => rw [List.filterMap_cons_none hs, Option.none_or]
    | some options =>
      rw [List.filterMap_cons_some hs, List.getLast?_cons]
      cases (statements.filterMap Statement.exported?).getLast? <;> rfl

/-- The options that any statements leave are those of the last export among them that is not refused, and can be used
    but for the sides of a size: these are positive unless the dimension that states them has a sign or nothing but
    zeros on a side. -/
theorem export_of_run {vocabulary : Vocabulary} {strict : Bool}
    (h : Context.run { vocabulary, strict } statements = .ok c) :
    c.scene.metadata.exportOptions = (statements.filterMap Statement.exported?).getLast? ∧
      (∀ s : Statement, s.exported?.isSome = (s.read.opening == some .exportAs && s.refusal?.isNone)) ∧
      ∀ options, c.scene.metadata.exportOptions = some options →
        Usable options ∧
          ∃ s ∈ statements, s.exported? = some options ∧
            ∃ format ∈ formats, ∃ tokens parts, s.Says ["EXPORT", "AS", format] tokens ∧ Rounds tokens parts [] ∧
              options = optionsOf format (parts.filterMap Part.setting?) ∧
              ∀ width height, options.width = some width → options.height = some height →
                ∃ value ∈ tokens, States "RESOLUTION" value.form (.size width height) ∧
                  (0 < width ∧ 0 < height ↔ (value.kind = .dimension → Token.Spacious value.lexeme.toList)) := by
  have hlast := exportOptions_run h
  rw [Option.or_none] at hlast
  refine ⟨hlast, Statement.isSome_exported?, fun options hoptions => ?_⟩
  rw [hlast] at hoptions
  obtain ⟨s, hs, hexported⟩ := List.mem_filterMap.mp (List.mem_of_getLast? hoptions)
  obtain ⟨format, hformat, tokens, parts, hsaid, hrounds, heq⟩ :=
    Statement.exists_rounds_of_export (Statement.exported?_eq_some.mp hexported)
  have hstated := hrounds.statedIn
  refine ⟨heq ▸ usable_optionsOf hformat hstated, s, hs, hexported, format, hformat, tokens, parts, hsaid, hrounds, heq,
    fun width height hwidth hheight => ?_⟩
  rw [heq] at hwidth hheight
  obtain ⟨value, hvalue, hstates⟩ := exists_of_size hstated hwidth hheight
  exact ⟨value, hvalue, hstates, hstates.positive_iff (hsaid.readable value hvalue)⟩

/-- A picture of no size: the last of three exports is refused, and the one before it counts. -/
theorem export_of_run_empty :
    let statements := Statement.ofSource "EXPORT AS GIF\nEXPORT AS PNG RESOLUTION: 0x0\nEXPORT AS BMP" none
    ∃ c, Context.run { vocabulary := .bundled } statements = .ok c ∧
      ∃ options, c.scene.metadata.exportOptions = some options ∧ Usable options ∧
        options.width = some 0 ∧ options.height = some 0 := by
  intro statements
  have hrun : (Context.run { vocabulary := .bundled } statements).toOption.isSome = true := by decide +kernel
  have hexports : ((statements.filterMap Statement.exported?).getLast?.map
      fun options => (options.width, options.height)) = some (some 0, some 0) := by decide +kernel
  obtain ⟨c, hc⟩ := toOption_isSome.mp hrun
  obtain ⟨hlast, -, husable⟩ := export_of_run hc
  obtain ⟨options, hoptions, hsize⟩ := Option.map_eq_some_iff.mp hexports
  obtain ⟨hwidth, hheight⟩ := Prod.mk.inj hsize
  have hset := hlast.trans hoptions
  exact ⟨c, hc, options, hset, (husable options hset).1, hwidth, hheight⟩

end Context
end SceneScript
