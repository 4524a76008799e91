import SceneScript.Proofs.Matching
import SceneScript.Proofs.Records

/-!
Colors written as literals. What the table of colors takes for a literal is what a statement is cut to as one: the
tokens of that kind are those whose spelling is a number sign with three or six hexadecimal digits, and a text is a
literal exactly if it is one such token. No name of a color is a literal, so clauses keep a literal as it is written,
as the color of an item and as the value of a parameter alike.
-/

namespace SceneScript

/-! ### Literals -/

namespace Color
open Token

theorem isHex_iff {text : String} : isHex text = true ↔ ∃ digits, text.toList = '#' :: digits ∧ ColorDigits digits := by
  unfold isHex
  split
  · rename_i digits htext
    simp [htext, ColorDigits, and_comm]
  · rename_i hother
    refine iff_of_false nofun ?_
    rintro ⟨digits, htext, -⟩
    exact hother digits htext

/-- A literal is no name. -/
theorem normalize_of_isHex {text : String} (h : isHex text = true) : normalize text = text := by
  obtain ⟨digits, htext, -⟩ := isHex_iff.mp h
  cases hname : ofName? text with
  | none => rw [normalize, hname, Option.getD_none]
  | some literal =>
    obtain ⟨c, more, hword, hstart, -⟩ := isWord_of_ofName? hname
    rw [htext] at hword
    cases hword
    exact absurd hstart (by decide)

end Color

namespace Token
open Text

/-- Of all lexemes only colors begin with a number sign that the digits of a color follow. -/
theorem Lexeme.form_of_colorDigits {form : Form} {digits rest : List Char} (h : Lexeme form ('#' :: digits) rest)
    (hdigits : ColorDigits digits) : form = .hexColor := by
  generalize hchars : '#' :: digits = lexeme at h
  cases h with
  | string hquote =>
    obtain ⟨rfl, -⟩ := List.cons.inj hchars
    rcases hquote with heq | heq <;> exact absurd heq (by decide)
  | @numeral negative whole _ n hwhole =>
    obtain ⟨d, more, rfl⟩ := List.exists_cons_of_ne_nil hwhole.1
    cases negative with
    | false =>
      obtain ⟨rfl, -⟩ := List.cons.inj hchars
      exact absurd (hwhole.2 '#' List.mem_cons_self) (by decide)
    | true => exact absurd (List.cons.inj hchars).1 (by decide)
  | ledByDigit hwhole =>
    obtain ⟨d, more, rfl⟩ := List.exists_cons_of_ne_nil hwhole.1
    obtain ⟨rfl, -⟩ := List.cons.inj hchars
    exact absurd (hwhole.2 '#' List.mem_cons_self) (by decide)
  | word hstart =>
    obtain ⟨rfl, -⟩ := List.cons.inj hchars
    exact absurd hstart (by decide)
  | color => rfl
  | hash _ _ hcolor =>
    obtain ⟨-, rfl⟩ := List.cons.inj hchars
    exact absurd hdigits hcolor
  | mark _ _ _ hhash =>
    obtain ⟨rfl, -⟩ := List.cons.inj hchars
    exact absurd rfl hhash

theorem Lexeme.colorDigits_of_kind {form : Form} {lexeme rest : List Char} (h : Lexeme form lexeme rest)
    (hkind : form.kind = .hexColor) : ∃ digits, lexeme = '#' :: digits ∧ ColorDigits digits := by
  cases h with
  | color hdigits => exact ⟨_, rfl, hdigits⟩
  | @numeral _ _ _ n => cases n <;> cases hkind
  | mark =>
    unfold punctuation at hkind
    repeat' split at hkind
    all_goals cases hkind
  | _ => cases hkind

variable {t : Token}

theorem form_of_hexColor (h : t.kind = .hexColor) : t.form = .hexColor := by
  obtain ⟨form, lexeme, span⟩ := t
  cases form with
  | hexColor => rfl
  | _ => cases h

/-- A token is a color exactly if its spelling is a literal. -/
theorem Readable.hexColor_iff (h : t.Readable) : t.kind = .hexColor ↔ Color.isHex t.lexeme = true := by
  obtain ⟨form, lexeme, span⟩ := t
  obtain ⟨c, cs, rest, rfl, -, hreads⟩ := h
  rw [Color.isHex_iff, String.toList_ofList]
  refine ⟨hreads.colorDigits_of_kind, ?_⟩
  rintro ⟨digits, hchars, hdigits⟩
  rw [hchars] at hreads
  exact congrArg Form.kind (hreads.form_of_colorDigits hdigits)

end Token

namespace Statement
open Token

variable {s : Statement} {t : Token} {source : String}

/-- A statement that is a literal is cut to that one token. -/
theorem tokens_of_isHex (h : Color.isHex s.text = true) :
    s.tokens = .ok [⟨.hexColor, s.text, s.span⟩, .endAt (s.location s.text.length)] := by
  obtain ⟨digits, htext, hdigits⟩ := Color.isHex_iff.mp h
  have hscan : s.Scans 0 ('#' :: digits ++ []) [s.cut 0 .hexColor ('#' :: digits)] :=
    .lexeme (by decide) (.color hdigits rfl) .nil
  rw [List.append_nil, ← htext] at hscan
  rw [hscan.tokens_eq, cut, String.ofList_toList, String.length_toList, Nat.zero_add]
  rfl

theorem Spells.textOf (h : s.Spells t) (hsource : source = s.text ∨ source = "") :
    Token.textOf source [t] = t.lexeme := by
  obtain ⟨-, start, stop, hlt, hstop, hspan, hlexeme⟩ := h
  have hcovers : Token.textOf source [t] =
      if source.isEmpty then t.lexeme else Text.slice source start stop := by
    simp [Token.textOf, hspan, location]
  rw [hcovers]
  rcases hsource with rfl | rfl
  · rw [if_neg fun hempty => ?_, hlexeme]
    rw [String.isEmpty_iff.mp hempty, String.length_empty] at hstop
    omega
  · rfl

end Statement

/-! ### Clauses -/

/-- The text is the value of a field in a record. -/
def Attributes.Stores (attributes : Attributes) (group key text : String) : Prop :=
  ∃ fields, Assoc.get? attributes group = some (.record fields) ∧ Assoc.get? fields key = some (.text text)

theorem Attributes.stores_setField (attributes : Attributes) (group key text : String) :
    (attributes.setField group key (.text text)).Stores group key text :=
  ⟨_, Assoc.get?_set_self attributes group _, Assoc.get?_set_self _ key _⟩

namespace Clause
open Token

/-- A clause `name(..., key: value, ...)` with no further parameter under the key. -/
inductive Parameterizes (source : String) (name key : Token) (value : List Token) : List Token → Prop
  | intro {paren colon : Token} {rest inner : List Token} {before after : List (List Token)} :
      name.kind = .word → paren.kind = .leftParen → takeClosed 0 rest = some inner →
      splitGroups isComma inner = before ++ (key :: colon :: value) :: after →
      key.kind = .word → colon.kind = .colon →
      Text.lower key.lexeme ∉ Assoc.keys (after.filterMap (parameter? source)) →
      Parameterizes source name key value (name :: paren :: rest)

variable {source group : String} {t name key item : Token} {clause value : List Token}

theorem kind_of_groupOf? (h : groupOf? item = some group) : item.kind = .word := by
  unfold groupOf? at h
  split at h
  · rename_i hword
    exact kind_of_isWord hword
  · obtain ⟨hword, -⟩ := Option.ite_none_right_eq_some.mp h
    exact kind_of_isWord hword

theorem applyTo_of_assignment? {a : Assignment} (h : assignment? source clause = .ok (some a))
    (attributes : Attributes) : applyTo source attributes clause = .ok (a.apply attributes) := by
  rw [applyTo, h]
  rfl

/-- The last parameter under a key says what is stored there. -/
theorem Parameterizes.stores {text : String} (h : Parameterizes source name key value clause) (hne : value ≠ [])
    (hvalue : parameterValue source value = .text text) (attributes : Attributes) :
    ∃ attributes', applyTo source attributes clause = .ok attributes' ∧
      attributes'.Stores (Text.lower name.lexeme) (Text.lower key.lexeme) text := by
  obtain ⟨hname, hparen, htaken, hgroups, hkey, hcolon, hlast⟩ := h
  rename_i paren colon rest inner before after
  have hinner : inner ≠ [] := by
    -- Without tokens there is one group, an empty one.
    rintro rfl
    have hmem : key :: colon :: value ∈ splitGroups isComma [] := by
      rw [hgroups]
      exact List.mem_append_right before List.mem_cons_self
    cases List.mem_singleton.mp hmem
  refine ⟨_, applyTo_of_assignment? (assignment?_of_takeClosed hname hparen htaken hinner) attributes, _,
    Assoc.get?_set_self .., ?_⟩
  rw [hgroups, List.filterMap_append, List.filterMap_cons_some (parameter?_of_key hkey hcolon hne), hvalue]
  exact Assoc.get?_ofPairs_of_last _ _ hlast

/-- In front of an item of clothing or appearance, a literal is the color of the item. -/
theorem stores_of_hexColor (ht : t.kind = .hexColor) (hhex : Color.isHex t.lexeme = true)
    (hgroup : groupOf? item = some group) (rest : List Token) (attributes : Attributes) :
    ∃ attributes', applyTo source attributes (t :: item :: rest) = .ok attributes' ∧
      attributes'.Stores group (Text.lower item.wordText) t.lexeme := by
  have hsize : t.isWord ["SIZE"] = false := isWord_of_kind (by simp [ht]) _
  have hcolor : mayColor t item = true := by rw [mayColor, form_of_hexColor ht]
  have hitem : item.kind = .word := kind_of_groupOf? hgroup
  have hset : assignment? source (t :: item :: rest) = _ := assignment?_color hsize hcolor hitem hgroup rest
  rw [Color.normalize_of_isHex hhex] at hset
  exact ⟨_, applyTo_of_assignment? hset attributes, attributes.stores_setField ..⟩

theorem parameterValue_of_hexColor (ht : t.kind = .hexColor) (hhex : Color.isHex t.lexeme = true)
    (htext : Token.textOf source [t] = t.lexeme) : parameterValue source [t] = .text t.lexeme := by
  have hcolor : Color.isColor t.lexeme = true := by rw [Color.isColor, hhex, Bool.or_true]
  obtain ⟨form, lexeme, span⟩ := t
  obtain rfl : form = .hexColor := form_of_hexColor ht
  have hwritten : ∀ written, Token.textOf source [⟨.hexColor, lexeme, span⟩] = written →
      parameterValue source [⟨.hexColor, lexeme, span⟩] =
        .text (if Color.isColor written then Color.normalize written else written) := by
    rintro _ rfl
    rfl
  rw [hwritten lexeme htext, if_pos hcolor, Color.normalize_of_isHex hhex]

end Clause

/-- Two ways to tell a literal agree. A text is a literal exactly if the statement of that text is cut to one token of
    the kind, spelled like the text, and the closing token; and in any statement the tokens of the kind are those with a
    literal for their spelling. Such a token is stored as it is spelled: as the color of an item of clothing or
    appearance, and as the value of a parameter, where the last one under a key counts. -/
theorem Color.isHex_agrees (s : Statement) :
    (isHex s.text = true ↔ ∃ t last, s.tokens = .ok [t, last] ∧ t.kind = .hexColor ∧ t.lexeme = s.text ∧
      last.kind = .endOfStatement) ∧
    ∀ t ∈ s.scan.1, (t.kind = .hexColor ↔ isHex t.lexeme = true) ∧
      (t.kind = .hexColor →
        (∀ (source : String) (attributes : Attributes) (item : Token) (rest : List Token) (group : String),
          Clause.groupOf? item = some group →
          ∃ attributes', Clause.applyTo source attributes (t :: item :: rest) = .ok attributes' ∧
            attributes'.Stores group (Text.lower item.wordText) t.lexeme) ∧
        ∀ source, source = s.text ∨ source = "" →
          (∀ key colon : Token, key.kind = .word → colon.kind = .colon →
            Clause.parameter? source [key, colon, t] = some (Text.lower key.lexeme, .text t.lexeme)) ∧
          ∀ (attributes : Attributes) (name key : Token) (clause : List Token),
            Clause.Parameterizes source name key [t] clause →
            ∃ attributes', Clause.applyTo source attributes clause = .ok attributes' ∧
              attributes'.Stores (Text.lower name.lexeme) (Text.lower key.lexeme) t.lexeme) := by
  have htold : ∀ t ∈ s.scan.1, t.kind = .hexColor ↔ isHex t.lexeme = true := fun t ht =>
    (Statement.readable_scanFrom s 0 s.text.toList t ht).hexColor_iff
  refine ⟨⟨fun h => ⟨_, _, Statement.tokens_of_isHex h, rfl, rfl, rfl⟩, ?_⟩, fun t ht => ⟨htold t ht, fun hkind => ?_⟩⟩
  · rintro ⟨t, last, htokens, hkind, hlexeme, -⟩
    obtain ⟨hfound, -⟩ := Statement.tokens_eq_ok htokens
    rw [← hlexeme]
    rcases List.mem_append.mp (hfound ▸ List.mem_cons_self) with ht | ht
    · exact (htold t ht).mp hkind
    · rw [List.mem_singleton.mp ht] at hkind
      cases hkind
  · have hhex : isHex t.lexeme = true := (htold t ht).mp hkind
    refine ⟨fun source attributes item rest group hgroup =>
      Clause.stores_of_hexColor hkind hhex hgroup rest attributes, fun source hsource => ?_⟩
    have htext : Token.textOf source [t] = t.lexeme := (Statement.spells_of_mem_scan ht).textOf hsource
    have hvalue := Clause.parameterValue_of_hexColor hkind hhex htext
    refine ⟨fun key colon hkey hcolon => ?_, fun attributes name key clause hclause =>
      hclause.stores (List.cons_ne_nil _ _) hvalue attributes⟩
    rw [Clause.parameter?_of_key hkey hcolon (List.cons_ne_nil _ _), hvalue]

/-- Hair of a literal color. -/
theorem Color.isHex_agrees_hair :
    let s : Statement := { line := 1, text := "HAIR(COLOR: #aB3)" }
    ∃ t ∈ s.scan.1, t.kind = .hexColor ∧ t.lexeme = "#aB3" ∧
      ∃ attributes', Clause.applyTo s.text [] s.scan.1 = .ok attributes' ∧
        attributes'.Stores "hair" "color" t.lexeme := by
  intro s
  have hscan : s.scan.1.map (fun t => (t.kind, t.lexeme)) = [(.word, "HAIR"), (.leftParen, "("), (.word, "COLOR"),
      (.colon, ":"), (.hexColor, "#aB3"), (.rightParen, ")")] := by decide +kernel
  obtain ⟨name, _, hclause, hname, hscan⟩ := List.map_eq_cons_iff.mp hscan
  obtain ⟨paren, _, rfl, hparen, hscan⟩ := List.map_eq_cons_iff.mp hscan
  obtain ⟨key, _, rfl, hkey, hscan⟩ := List.map_eq_cons_iff.mp hscan
  obtain ⟨colon, _, rfl, hcolon, hscan⟩ := List.map_eq_cons_iff.mp hscan
  obtain ⟨t, _, rfl, ht, hscan⟩ := List.map_eq_cons_iff.mp hscan
  obtain ⟨close, _, rfl, hclose, hscan⟩ := List.map_eq_cons_iff.mp hscan
  obtain rfl := List.map_eq_nil_iff.mp hscan
  simp only [Prod.mk.injEq] at hname hparen hkey hcolon ht hclose
  have htaken : Clause.takeClosed 0 [key, colon, t, close] = some [key, colon, t] := by
    simp [Clause.takeClosed, hkey.1, hcolon.1, ht.1, hclose.1]
  have hgroups : Token.splitGroups Token.isComma [key, colon, t] = [] ++ [key, colon, t] :: [] := by
    simp [Token.splitGroups, Token.splitGroupsFrom, Token.depthAfter, Token.isComma, hkey.1, hcolon.1, ht.1]
  have hparameter : Clause.Parameterizes s.text name key [t] s.scan.1 := by
    rw [hclause]
    exact .intro hname.1 hparen.1 htaken hgroups hkey.1 hcolon.1 List.not_mem_nil
  have hmem : t ∈ s.scan.1 := by simp [hclause]
  obtain ⟨attributes', happly, hstores⟩ :=
    (((isHex_agrees s).2 t hmem).2 ht.1).2 s.text (Or.inl rfl) |>.2 [] name key s.scan.1 hparameter
  have hlower : Text.lower "HAIR" = "hair" ∧ Text.lower "COLOR" = "color" := by decide +kernel
  rw [hname.2, hkey.2, hlower.1, hlower.2] at hstores
  exact ⟨t, hmem, ht.1, ht.2, attributes', happly, hstores⟩

end SceneScript
