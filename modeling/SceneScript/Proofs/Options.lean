import Mathlib.Data.List.Induction
import SceneScript.Proofs.Exchange
import SceneScript.Proofs.Openings

/-!
The options of an export. They are read in rounds, each of which passes a joiner, an option with its value, or an
unknown key with what may be its value. Rounds do not split items: whatever joiners, options and unknown keys an export
is made of, it records its options and nothing else, of each kind the last.
-/

namespace SceneScript
namespace Command.Export

/-! ### Settings -/

/-- What an option sets. -/
inductive Setting where
  | size (width height : Int)
  | quality (q : Quality)
  | density (n : Int)

namespace Setting

def size? : Setting → Option (Int × Int)
  | size width height => some (width, height)
  | _ => none

def quality? : Setting → Option Quality
  | quality q => some q
  | _ => none

def density? : Setting → Option Int
  | density n => some n
  | _ => none

def applyTo (options : ExportOptions) : Setting → ExportOptions
  | size width height => { options with width := some width, height := some height }
  | quality q => { options with quality := some q }
  | density n => { options with density := some n }

end Setting

/-- The options that a format and settings come to: of several settings of one kind the last counts. -/
def optionsOf (format : String) (settings : List Setting) : ExportOptions where
  format := Text.lower format
  quality := (settings.filterMap Setting.quality?).getLast?.or (some (.level "medium"))
  width := (settings.filterMap Setting.size?).getLast?.map Prod.fst
  height := (settings.filterMap Setting.size?).getLast?.map Prod.snd
  density := (settings.filterMap Setting.density?).getLast?

theorem optionsOf_concat (format : String) (settings : List Setting) (x : Setting) :
    optionsOf format (settings ++ [x]) = x.applyTo (optionsOf format settings) := by
  cases x <;>
    simp [optionsOf, Setting.applyTo, List.filterMap_append, Setting.size?, Setting.quality?, Setting.density?]

theorem foldl_applyTo (format : String) (settings : List Setting) :
    settings.foldl Setting.applyTo { format := Text.lower format } = optionsOf format settings := by
  induction settings using List.reverseRecOn with
  | nil => rfl
  | append_singleton settings x ih => rw [List.foldl_concat, ih, optionsOf_concat]

/-- The value states the setting under the option word. -/
inductive States : String → Token.Form → Setting → Prop
  | dimension (width height : Int) : States "RESOLUTION" (.dimension width height) (.size width height)
  | preset {name : String} {width height : Int} :
      resolutions.lookup name = some (width, height) → States "RESOLUTION" (.word name) (.size width height)
  | level {name : String} : name ∈ qualityLevels → States "QUALITY" (.word name) (.quality (.level (Text.lower name)))
  | amount (n : Int) : States "QUALITY" (.number (.int n)) (.quality (.amount (.int n)))
  | density {n : Int} : 0 < n → States "DPI" (.number (.int n)) (.density n)

section
variable {f : Frame} {options : ExportOptions} {value : Token} {word : String}

theorem setOption_of_states {x : Setting} (h : States word value.form x) :
    setOption f word value options = .ok (x.applyTo options) := by
  generalize hform : value.form = form at h
  cases h with
  | dimension width height => simp [setOption, resolution?, hform, Setting.applyTo]
  | preset hname => simp [setOption, resolution?, hform, hname, Setting.applyTo]
  | level hname => simp [setOption, quality?, hform, hname, Setting.applyTo]
  | amount n => simp [setOption, quality?, hform, Setting.applyTo]
  | density hn => simp [setOption, density?, hform, hn, Setting.applyTo]

theorem states_of_setOption {options' : ExportOptions} (hword : word ∈ optionWords)
    (h : setOption f word value options = .ok options') : ∃ x, States word value.form x := by
  unfold setOption at h
  split at h
  · rename_i hresolution
    subst hresolution
    cases hform : value.form with
    | dimension width height => exact ⟨_, .dimension width height⟩
    | word name =>
      cases hname : resolutions.lookup name with
      | some size => exact ⟨_, .preset hname⟩
      | none => simp [resolution?, hform, hname, Frame.refuse] at h
    | _ => simp [resolution?, hform, Frame.refuse] at h
  · split at h
    · rename_i hquality
      subst hquality
      cases hform : value.form with
      | word name =>
        by_cases hname : name ∈ qualityLevels
        · exact ⟨_, .level hname⟩
        · simp [quality?, hform, hname, Frame.refuse] at h
      | number n =>
        cases n with
        | int n => exact ⟨_, .amount n⟩
        | float n => simp [quality?, hform, Frame.refuse] at h
      | _ => simp [quality?, hform, Frame.refuse] at h
    · rename_i hresolution hquality
      obtain rfl : word = "DPI" := by simpa [optionWords, hresolution, hquality] using hword
      cases hform : value.form with
      | number n =>
        cases n with
        | int n =>
          by_cases hn : 0 < n
          · exact ⟨_, .density hn⟩
          · simp [density?, hform, hn, Frame.refuse] at h
        | float n => simp [density?, hform, Frame.refuse] at h
      | _ => simp [density?, hform, Frame.refuse] at h

theorem States.kind_ne {x : Setting} (h : States word value.form x) :
    value.kind ≠ .colon ∧ value.kind ≠ .endOfStatement := by
  rw [Token.kind]
  generalize value.form = form at h ⊢
  cases h <;> constructor <;> intro hkind <;> cases hkind

end

/-! ### Rounds -/

/-- What one round passes: a joiner, an option, or a key that names no option. -/
inductive Part where
  | joiner
  | option (x : Setting)
  | unknown (key : Token)

namespace Part

def setting? : Part → Option Setting
  | option x => some x
  | _ => none

def key? : Part → Option Token
  | unknown key => some key
  | _ => none

end Part

/-- The warning about a key that names no option. -/
def warning (source : String) (key : Token) : Diagnostic :=
  (Warning.unknownOption key.lexeme).diagnostic key.span (some source)

def IsJoiner (t : Token) : Prop := t.isWord joiners = true ∨ t.kind = .comma

def IsUnknown (t : Token) : Prop := t.kind = .word ∧ t.isWord (joiners ++ optionWords) = false

/-- One round takes the part off the front of the tokens and leaves those behind. -/
inductive Round : List Token → Part → List Token → Prop
  | joiner {t : Token} {rest : List Token} : IsJoiner t → Round (t :: rest) .joiner rest
  | option {key value : Token} {word : String} {x : Setting} {rest left : List Token} :
      key.form = .word word → word ∈ optionWords → (dropColon rest).2 = value :: left → States word value.form x →
        Round (key :: rest) (.option x) left
  | unknown {key : Token} {rest : List Token} : IsUnknown key →
      Round (key :: rest) (.unknown key) (dropValue (dropColon rest).1 (dropColon rest).2)

/-- Rounds in a row take these parts off the front of the tokens. -/
inductive Rounds : List Token → List Part → List Token → Prop
  | nil {tokens : List Token} : Rounds tokens [] tokens
  | cons {tokens rest left : List Token} {part : Part} {parts : List Part} :
      Round tokens part rest → Rounds rest parts left → Rounds tokens (part :: parts) left

/-- No round can be made, though tokens are left. -/
def Stuck (tokens : List Token) : Prop := tokens ≠ [] ∧ ∀ part left, ¬Round tokens part left

section
variable {f : Frame} {options : ExportOptions} {tokens left : List Token} {key : Token} {word : String} {part : Part}
  {parts : List Part}

theorem isJoiner_iff {t : Token} : (t.isWord joiners || decide (t.kind = .comma)) = true ↔ IsJoiner t := by
  rw [Bool.or_eq_true_iff, decide_eq_true_eq, IsJoiner]

/-- A word is a key that names no option if it is neither a joiner nor an option word. -/
theorem isUnknown_iff (hkind : key.kind = .word) : IsUnknown key ↔ ¬IsJoiner key ∧ ¬key.isWord optionWords = true := by
  simp [IsUnknown, IsJoiner, hkind, Token.isWord, Token.form_of_kind_word hkind]

theorem not_isJoiner_of_option (hkey : key.form = .word word) (hword : word ∈ optionWords) : ¬IsJoiner key := by
  have hall : ∀ word ∈ optionWords, word ∉ joiners := by decide
  rintro (hjoiner | hcomma)
  · obtain ⟨w, hw, hform⟩ := Token.isWord_iff.mp hjoiner
    cases hkey.symm.trans hform
    exact hall word hword hw
  · cases (Token.kind_of_form_word hkey).symm.trans hcomma

/-- Every round passes a token at least. -/
theorem Round.length_lt (h : Round tokens part left) : left.length < tokens.length := by
  cases h with
  | joiner => exact Nat.lt_succ_self _
  | @option _ _ _ _ rest _ _ _ hvalue _ =>
    have hcolon := dropColon_length_le rest
    rw [hvalue, List.length_cons] at hcolon
    exact Nat.lt_succ_of_le (Nat.le_of_succ_le hcolon)
  | @unknown _ rest => exact Nat.lt_succ_of_le ((dropValue_length_le _ _).trans (dropColon_length_le rest))

theorem Rounds.length_le (h : Rounds tokens parts left) : parts.length + left.length ≤ tokens.length := by
  induction h with
  | nil => exact Nat.le_of_eq (Nat.zero_add _)
  | cons hround _ ih =>
    have hlt := hround.length_lt
    rw [List.length_cons]
    omega

/-- A round sets what its part states, and warns about a key that it does not know. -/
theorem readOptions_of_round (h : Round tokens part left) (options : ExportOptions) :
    readOptions f options tokens =
      (part.key?.toList.map (warning f.source) ++
          (readOptions f (part.setting?.toList.foldl Setting.applyTo options) left).1,
        (readOptions f (part.setting?.toList.foldl Setting.applyTo options) left).2) := by
  cases h with
  | joiner hjoiner =>
    rw [Blur.readOptions_cons, if_pos (isJoiner_iff.mpr hjoiner)]
    rfl
  | @option key value word rest _ x hkey hword hvalue hstates =>
    have hjoiner := not_isJoiner_of_option hkey hword
    have hfront : f.front (value :: left) = value := rfl
    rw [Blur.readOptions_cons, if_neg (mt isJoiner_iff.mp hjoiner),
      if_neg (not_not_intro (Token.kind_of_form_word hkey)), if_pos (Token.isWord_iff.mpr ⟨word, hword, hkey⟩),
      Token.wordText_of_form hkey, hvalue, hfront, setOption_of_states hstates]
    rfl
  | @unknown key rest hunknown =>
    have hkind := hunknown.1
    obtain ⟨hjoiner, hoption⟩ := (isUnknown_iff hkind).mp hunknown
    rw [Blur.readOptions_cons, if_neg (mt isJoiner_iff.mp hjoiner), if_neg (not_not_intro hkind), if_neg hoption]
    rfl

theorem readOptions_of_rounds (h : Rounds tokens parts left) (options : ExportOptions) :
    readOptions f options tokens =
      ((parts.filterMap Part.key?).map (warning f.source) ++
          (readOptions f ((parts.filterMap Part.setting?).foldl Setting.applyTo options) left).1,
        (readOptions f ((parts.filterMap Part.setting?).foldl Setting.applyTo options) left).2) := by
  induction h generalizing options with
  | nil => rfl
  | @cons _ _ _ part parts hround _ ih =>
    rw [readOptions_of_round hround, ih]
    cases part <;> rfl

/-- Where no round can be made the export is refused. -/
theorem readOptions_of_stuck (h : Stuck tokens) (hlast : f.last.kind = .endOfStatement) (options : ExportOptions) :
    ∃ r, readOptions f options tokens = ([], .error r) := by
  obtain ⟨hne, hstuck⟩ := h
  obtain ⟨t, rest, rfl⟩ := List.exists_cons_of_ne_nil hne
  rw [Blur.readOptions_cons]
  split
  · rename_i hjoiner
    exact absurd (Round.joiner (isJoiner_iff.mp hjoiner)) (hstuck _ _)
  · rename_i hjoiner
    split
    · exact ⟨_, rfl⟩
    · rename_i hword
      have hkind := Decidable.not_not.mp hword
      split
      · rename_i hoption
        split
        · exact ⟨_, rfl⟩
        · rename_i options' hset
          -- The option has a value, for the closing token is none.
          exfalso
          obtain ⟨word, hword, hkey⟩ := Token.isWord_iff.mp hoption
          rw [Token.wordText_of_form hkey] at hset
          obtain ⟨x, hx⟩ := states_of_setOption hword hset
          cases hvalue : (dropColon rest).2 with
          | nil =>
            rw [hvalue] at hx
            exact hx.kind_ne.2 hlast
          | cons value left =>
            rw [hvalue] at hx
            exact hstuck _ _ (.option hkey hword hvalue hx)
      · rename_i hoption
        have hunknown : IsUnknown t := (isUnknown_iff hkind).mpr ⟨mt isJoiner_iff.mpr hjoiner, hoption⟩
        exact absurd (Round.unknown hunknown) (hstuck _ _)

/-- Rounds come to the end of the tokens or to a place where no further one can be made. -/
theorem exists_rounds (tokens : List Token) : ∃ parts left, Rounds tokens parts left ∧ (left = [] ∨ Stuck left) := by
  induction hn : tokens.length using Nat.strongRecOn generalizing tokens with
  | _ n ih =>
    by_cases hnil : tokens = []
    · exact ⟨[], tokens, .nil, Or.inl hnil⟩
    · by_cases hround : ∃ part rest, Round tokens part rest
      · obtain ⟨part, rest, hround⟩ := hround
        obtain ⟨parts, left, hrounds, hend⟩ := ih rest.length (hn ▸ hround.length_lt) rest rfl
        exact ⟨part :: parts, left, .cons hround hrounds, hend⟩
      · exact ⟨[], tokens, .nil, Or.inr ⟨hnil, fun part rest h => hround ⟨part, rest, h⟩⟩⟩

/-- The options are read if rounds come to the end, and then they are what the rounds set. -/
theorem readOptions_eq_ok_iff {options' : ExportOptions} (hlast : f.last.kind = .endOfStatement) :
    (readOptions f options tokens).2 = .ok options' ↔
      ∃ parts, Rounds tokens parts [] ∧ options' = (parts.filterMap Part.setting?).foldl Setting.applyTo options := by
  constructor
  · intro h
    obtain ⟨parts, left, hrounds, hend⟩ := exists_rounds tokens
    rw [readOptions_of_rounds hrounds] at h
    rcases hend with rfl | hstuck
    · rw [readOptions] at h
      exact ⟨parts, hrounds, (Except.ok.inj h).symm⟩
    · obtain ⟨r, hr⟩ := readOptions_of_stuck (f := f) hstuck hlast
        ((parts.filterMap Part.setting?).foldl Setting.applyTo options)
      rw [hr] at h
      cases h
  · rintro ⟨parts, hrounds, rfl⟩
    rw [readOptions_of_rounds hrounds, readOptions]

end

/-! ### Items -/

/-- The tokens are one item of an export, and this is what it is for. -/
inductive IsItem : Part → List Token → Prop
  | joiner {t : Token} : IsJoiner t → IsItem .joiner [t]
  | option {key value : Token} {word : String} {x : Setting} :
      key.form = .word word → word ∈ optionWords → States word value.form x → IsItem (.option x) [key, value]
  | optionColon {key colon value : Token} {word : String} {x : Setting} :
      key.form = .word word → word ∈ optionWords → colon.form = .colon → States word value.form x →
        IsItem (.option x) [key, colon, value]
  | flag {key : Token} : IsUnknown key → IsItem (.unknown key) [key]
  | valued {key colon value : Token} : IsUnknown key → colon.form = .colon → IsItem (.unknown key) [key, colon, value]

structure Item where
  part : Part
  tokens : List Token
  isItem : IsItem part tokens

variable {t key : Token} {tokens tokens' rest : List Token} {part : Part} {word : String} {items : List Item}

/-- The item is not an unknown key. -/
def Item.isKnown (i : Item) : Bool := i.part.key?.isNone

theorem dropColon_of_not (h : ∀ t ∈ tokens.head?, t.kind ≠ .colon) : dropColon tokens = (false, tokens) := by
  cases tokens with
  | nil => rfl
  | cons t rest => rw [dropColon, if_neg (h t rfl)]

theorem dropColon_of_colon (h : t.form = .colon) : dropColon (t :: rest) = (true, rest) :=
  if_pos (congrArg Token.Form.kind h)

theorem startsOption_of_word (ht : t.form = .word word) (hword : word ∈ joiners ++ optionWords) :
    startsOption (t :: rest) = true := by
  have hopens : t.isWord (joiners ++ optionWords) = true := Token.isWord_iff.mpr ⟨word, hword, ht⟩
  simp [startsOption, hopens]

theorem IsJoiner.startsOption (h : IsJoiner t) : Export.startsOption (t :: rest) = true := by
  rcases h with hjoiner | hcomma
  · obtain ⟨word, hword, ht⟩ := Token.isWord_iff.mp hjoiner
    exact startsOption_of_word ht (List.mem_append_left _ hword)
  · simp [Export.startsOption, hcomma]

theorem IsJoiner.kind_ne (h : IsJoiner t) : t.kind ≠ .colon := by
  rcases h with hjoiner | hcomma
  · rw [Token.kind_of_isWord hjoiner]
    nofun
  · rw [hcomma]
    nofun

/-- No item begins with a colon. -/
theorem kind_ne_of_items (items : List Item) : ∀ t ∈ (items.flatMap (·.tokens)).head?, t.kind ≠ .colon := by
  intro t ht
  have hword : ∀ {key : Token}, key.kind = .word → key.kind ≠ .colon := fun h => by rw [h]; nofun
  cases items with
  | nil => cases ht
  | cons i items =>
    obtain ⟨part, tokens, hi⟩ := i
    cases hi <;> cases ht
    · exact IsJoiner.kind_ne ‹_›
    · exact hword (Token.kind_of_form_word ‹_›)
    · exact hword (Token.kind_of_form_word ‹_›)
    · exact hword (And.left ‹_›)
    · exact hword (And.left ‹_›)

/-- Behind a key, only a key without a colon can be taken for its value. -/
theorem startsOption_items (items : List Item) : startsOption (items.flatMap (·.tokens)) = true ∨
    ∃ i more key, items = i :: more ∧ i.tokens = [key] ∧ i.part = .unknown key := by
  cases items with
  | nil => exact Or.inl rfl
  | cons i items =>
    obtain ⟨part, tokens, hi⟩ := i
    cases hi with
    | joiner ht => exact Or.inl ht.startsOption
    | option hkey hword _ => exact Or.inl (startsOption_of_word hkey (List.mem_append_right _ hword))
    | optionColon hkey hword _ _ => exact Or.inl (startsOption_of_word hkey (List.mem_append_right _ hword))
    | flag _ => exact Or.inr ⟨_, items, _, rfl, rfl, rfl⟩
    | @valued key colon value hkey hcolon =>
      have hkind : colon.kind = .colon := congrArg Token.Form.kind hcolon
      exact Or.inl (by simp [startsOption, hkey.1, hkind])

/-- Rounds over items come to the end, set what the options state, and warn about unknown keys alone. -/
theorem exists_rounds_of_items (items : List Item) :
    ∃ parts, Rounds (items.flatMap (·.tokens)) parts [] ∧
      parts.filterMap Part.setting? = items.filterMap (·.part.setting?) ∧
      (parts.filterMap Part.key?).Sublist (items.filterMap (·.part.key?)) := by
  induction hn : items.length using Nat.strongRecOn generalizing items with
  | _ n ih =>
    cases items with
    | nil => exact ⟨[], .nil, rfl, .slnil⟩
    | cons i items =>
      obtain ⟨parts, hrounds, hsettings, hkeys⟩ := ih items.length (hn ▸ Nat.lt_succ_self _) items rfl
      obtain ⟨part, tokens, hi⟩ := i
      cases hi with
      | joiner ht => exact ⟨.joiner :: parts, .cons (.joiner ht) hrounds, hsettings, hkeys⟩
      | @option key value word x hkey hword hx =>
        have hvalue : (dropColon (value :: items.flatMap (·.tokens))).2 = value :: items.flatMap (·.tokens) :=
          congrArg Prod.snd (dropColon_of_not fun t ht => by cases ht; exact hx.kind_ne.1)
        exact ⟨.option x :: parts, .cons (.option hkey hword hvalue hx) hrounds, congrArg (x :: ·) hsettings, hkeys⟩
      | @optionColon key colon value word x hkey hword hcolon hx =>
        have hvalue : (dropColon (colon :: value :: items.flatMap (·.tokens))).2 = value :: items.flatMap (·.tokens) :=
          congrArg Prod.snd (dropColon_of_colon hcolon)
        exact ⟨.option x :: parts, .cons (.option hkey hword hvalue hx) hrounds, congrArg (x :: ·) hsettings, hkeys⟩
      | @flag key hkey =>
        have hround : Round (key :: items.flatMap (·.tokens)) _ _ := .unknown hkey
        rw [dropColon_of_not (kind_ne_of_items items)] at hround
        by_cases hstarts : startsOption (items.flatMap (·.tokens)) = true
        · rw [dropValue, if_pos (by rw [hstarts]; rfl)] at hround
          exact ⟨.unknown key :: parts, .cons hround hrounds, hsettings, hkeys.cons_cons key⟩
        · -- The next item is an unknown key too, and it is taken for the value of this one.
          obtain ⟨⟨part, tokens, hi⟩, more, key', rfl, htokens, hpart⟩ :=
            (startsOption_items items).resolve_left hstarts
          obtain rfl : tokens = [key'] := htokens
          obtain rfl : part = .unknown key' := hpart
          have hlt : more.length < n := by
            rw [← hn, List.length_cons, List.length_cons]
            omega
          obtain ⟨parts, hrounds, hsettings, hkeys⟩ := ih more.length hlt more rfl
          rw [dropValue, if_neg (by simpa using hstarts)] at hround
          exact ⟨.unknown key :: parts, .cons hround hrounds, hsettings, (hkeys.cons key').cons_cons key⟩
      | @valued key colon value hkey hcolon =>
        have hround : Round (key :: colon :: value :: items.flatMap (·.tokens)) _ _ := .unknown hkey
        rw [dropColon_of_colon hcolon] at hround
        exact ⟨.unknown key :: parts, .cons hround hrounds, hsettings, hkeys.cons_cons key⟩

/-! ### Items of the same forms -/

theorem IsItem.of_forms (h : IsItem part tokens) (hpart : part.key? = none)
    (hforms : tokens'.map (·.form) = tokens.map (·.form)) : IsItem part tokens' := by
  cases h with
  | joiner ht =>
    obtain ⟨t', rest, rfl, ht', hrest⟩ := List.map_eq_cons_iff.mp hforms
    obtain rfl := List.map_eq_nil_iff.mp hrest
    refine .joiner ?_
    rwa [IsJoiner, Token.isWord, Token.kind, ht']
  | option hkey hword hx =>
    obtain ⟨key', rest, rfl, hkey', hrest⟩ := List.map_eq_cons_iff.mp hforms
    obtain ⟨value', rest, rfl, hvalue', hrest⟩ := List.map_eq_cons_iff.mp hrest
    obtain rfl := List.map_eq_nil_iff.mp hrest
    exact .option (hkey'.trans hkey) hword (hvalue' ▸ hx)
  | optionColon hkey hword hcolon hx =>
    obtain ⟨key', rest, rfl, hkey', hrest⟩ := List.map_eq_cons_iff.mp hforms
    obtain ⟨colon', rest, rfl, hcolon', hrest⟩ := List.map_eq_cons_iff.mp hrest
    obtain ⟨value', rest, rfl, hvalue', hrest⟩ := List.map_eq_cons_iff.mp hrest
    obtain rfl := List.map_eq_nil_iff.mp hrest
    exact .optionColon (hkey'.trans hkey) hword (hcolon'.trans hcolon) (hvalue' ▸ hx)
  | flag _ => cases hpart
  | valued _ _ => cases hpart

theorem exists_items_of_forms (hknown : ∀ i ∈ items, i.isKnown = true)
    (hforms : tokens.map (·.form) = (items.flatMap (·.tokens)).map (·.form)) :
    ∃ items' : List Item, items'.flatMap (·.tokens) = tokens ∧ items'.map (·.part) = items.map (·.part) := by
  induction items generalizing tokens with
  | nil =>
    obtain rfl := List.map_eq_nil_iff.mp hforms
    exact ⟨[], rfl, rfl⟩
  | cons i items ih =>
    rw [List.flatMap_cons, List.map_append] at hforms
    obtain ⟨front, back, rfl, hfront, hback⟩ := List.map_eq_append_iff.mp hforms
    obtain ⟨items', rfl, hparts⟩ := ih (fun j hj => hknown j (List.mem_cons_of_mem i hj)) hback
    have hi : i.part.key? = none := Option.isNone_iff_eq_none.mp (hknown i List.mem_cons_self)
    exact ⟨⟨i.part, front, i.isItem.of_forms hi hfront⟩ :: items', rfl, congrArg (i.part :: ·) hparts⟩

theorem filterMap_part {α : Type} {items' : List Item} (h : items'.map (·.part) = items.map (·.part))
    (f : Part → Option α) : items'.filterMap (f ·.part) = items.filterMap (f ·.part) := by
  have hmap := congrArg (List.filterMap f) h
  rwa [List.filterMap_map, List.filterMap_map] at hmap

theorem settings_known (items : List Item) :
    (items.filter Item.isKnown).filterMap (·.part.setting?) = items.filterMap (·.part.setting?) := by
  rw [List.filterMap_filter]
  refine List.filterMap_congr fun i _ => ?_
  rw [Item.isKnown]
  cases i.part <;> rfl

theorem keys_known (items : List Item) : (items.filter Item.isKnown).filterMap (·.part.key?) = [] := by
  rw [List.filterMap_eq_nil_iff]
  exact fun i hi => Option.isNone_iff_eq_none.mp (List.mem_filter.mp hi).2

end Command.Export

/-! ### Exports -/

section
open Command Command.Export

variable {s : Statement} {format : String} {tokens : List Token} {parts : List Part}

theorem Command.Export.read_of_before {source : String} {c : Cursor} {as kind : Token} (has : as.form = .word "AS")
    (hkind : kind.form = .word format) (hformat : format ∈ formats) (hc : c.Before (as :: kind :: tokens)) :
    Export.read source c =
      ((readOptions ⟨source, c.last⟩ { format := Text.lower format } tokens).1,
        (readOptions ⟨source, c.last⟩ { format := Text.lower format } tokens).2.map .exportAs) := by
  have has' : as.isWord ["AS"] = true := Token.isWord_singleton.mpr has
  have hkind' : kind.isWord formats = true := Token.isWord_iff.mpr ⟨format, hformat, hkind⟩
  unfold Export.read
  simp only [hc.matchWord_cons has', hc.advance.matchWord_cons hkind', hc.advance.advance.rest_eq,
    Token.wordText_of_form hkind]

/-- An export whose options are read in rounds sets what these state, and warns about the keys that they do not know. -/
theorem Statement.Says.read_export (h : s.Says ["EXPORT", "AS", format] tokens) (hformat : format ∈ formats)
    (hrounds : Rounds tokens parts []) : s.read = {
      opening := some .exportAs
      warnings := (parts.filterMap Part.key?).map (warning s.text)
      outcome := .ok (.exportAs (optionsOf format (parts.filterMap Part.setting?))) } := by
  obtain ⟨kind, hkind, h⟩ := h.shift ["EXPORT", "AS"]
  obtain ⟨as, has, h⟩ := h.shift ["EXPORT"]
  obtain ⟨c, hc, hread⟩ := h.read_eq (o := .exportAs)
  rw [hread, Command.readAfter, Export.read_of_before has hkind hformat hc, readOptions_of_rounds hrounds, readOptions,
    foldl_applyTo, List.append_nil]
  rfl

theorem Command.Export.exists_format {source : String} {c : Cursor} {command : Command} (hc : c.Before tokens)
    (h : (Export.read source c).2 = .ok command) : ∃ as kind rest format, tokens = as :: kind :: rest ∧
      as.form = .word "AS" ∧ kind.form = .word format ∧ format ∈ formats := by
  unfold Export.read at h
  split at h
  · cases h
  · rename_i as c₁ has
    obtain ⟨tokens, rfl, has', hc₁⟩ := hc.matchWord_eq_some has
    split at h
    · cases h
    · rename_i kind c₂ hkind
      obtain ⟨rest, rfl, hkind', -⟩ := hc₁.matchWord_eq_some hkind
      obtain ⟨format, hformat, hform⟩ := Token.isWord_iff.mp hkind'
      exact ⟨as, kind, rest, format, rfl, Token.isWord_singleton.mp has', hform, hformat⟩

/-- A statement that states export options is an export whose options are read in rounds. -/
theorem Statement.exists_rounds_of_export {options : ExportOptions} (h : s.read.outcome = .ok (.exportAs options)) :
    ∃ format ∈ formats, ∃ tokens parts, s.Says ["EXPORT", "AS", format] tokens ∧ Rounds tokens parts [] ∧
      options = optionsOf format (parts.filterMap Part.setting?) := by
  obtain ⟨c, tokens, hsaid, hc, -, hread⟩ := Statement.exists_says_of_read h
  obtain ⟨as, kind, rest, format, rfl, has, hkind, hformat⟩ := Command.Export.exists_format hc hread
  have hread : (Export.read s.text c).2 = .ok (.exportAs options) := hread
  rw [Export.read_of_before has hkind hformat hc] at hread
  obtain ⟨options', hoptions, heq⟩ := map_eq_ok.mp hread
  obtain rfl := Command.exportAs.inj heq
  obtain ⟨parts, hrounds, hset⟩ := (readOptions_eq_ok_iff hc.last).mp hoptions
  rw [foldl_applyTo] at hset
  exact ⟨format, hformat, rest, parts, (hsaid.unshift has).unshift hkind, hrounds, hset⟩

namespace Context

variable {c : Context}

/-- An export sets the options that it states, and does nothing else. -/
theorem attempt_export {options : ExportOptions} (h : s.read.outcome = .ok (.exportAs options)) :
    ∃ c', c.attempt s = .ok (c', none) ∧ Agree (c.setExport options) c' ∧
      c'.diagnostics = c.diagnostics ++ s.read.warnings := by
  refine ⟨(c.begin s s.read).setExport options, ?_, rfl, rfl⟩
  rw [attempt_eq, h]
  rfl

/-- The options of an export are read in rounds, each of which passes a token at least, up to the end or to what is no
    option. Of whatever items an export is made, it succeeds, warns about unknown keys at most, and records what it
    records without them: its format and, of each kind, the last option. -/
theorem exports_past_unknown {s' : Statement} {items : List Item} {tokens' : List Token} (hformat : format ∈ formats)
    (h : s.Says ["EXPORT", "AS", format] (items.flatMap (·.tokens))) (h' : s'.Says ["EXPORT", "AS", format] tokens')
    (hforms : tokens'.map (·.form) = ((items.filter Item.isKnown).flatMap (·.tokens)).map (·.form)) :
    (∀ tokens part left, Round tokens part left → left.length < tokens.length) ∧
      (∀ (f : Frame) (options : ExportOptions) (tokens : List Token), f.last.kind = .endOfStatement →
        ∃ parts left, Rounds tokens parts left ∧ parts.length + left.length ≤ tokens.length ∧
          (readOptions f options tokens).1 = (parts.filterMap Part.key?).map (warning f.source) ∧
          (left = [] ∧ (readOptions f options tokens).2 =
              .ok ((parts.filterMap Part.setting?).foldl Setting.applyTo options) ∨
            Stuck left ∧ ∃ r, (readOptions f options tokens).2 = .error r)) ∧
      ∃ ws : List Diagnostic, (∀ w ∈ ws, w.IsWarning "W104") ∧
        ws.Sublist ((items.filterMap (·.part.key?)).map (warning s.text)) ∧
        ∀ c : Context, ∃ c₁ c₂, c.attempt s = .ok (c₁, none) ∧ c.attempt s' = .ok (c₂, none) ∧
          Agree (c.setExport (optionsOf format (items.filterMap (·.part.setting?)))) c₁ ∧
          Agree (c.setExport (optionsOf format (items.filterMap (·.part.setting?)))) c₂ ∧
          c₁.diagnostics = c.diagnostics ++ ws ∧ c₂.diagnostics = c.diagnostics := by
  refine ⟨fun _ _ _ => Round.length_lt, fun f options tokens hlast => ?_, ?_⟩
  · obtain ⟨parts, left, hrounds, hend⟩ := exists_rounds tokens
    refine ⟨parts, left, hrounds, hrounds.length_le, ?_⟩
    rw [readOptions_of_rounds hrounds]
    rcases hend with rfl | hstuck
    · rw [readOptions, List.append_nil]
      exact ⟨rfl, Or.inl ⟨rfl, rfl⟩⟩
    · obtain ⟨r, hr⟩ := readOptions_of_stuck (f := f) hstuck hlast
        ((parts.filterMap Part.setting?).foldl Setting.applyTo options)
      rw [hr, List.append_nil]
      exact ⟨rfl, Or.inr ⟨hstuck, r, rfl⟩⟩
  · obtain ⟨parts, hrounds, hsettings, hkeys⟩ := exists_rounds_of_items items
    have hread := h.read_export hformat hrounds
    -- The other export is made of the known items, at other places.
    have hknown : ∀ i ∈ items.filter Item.isKnown, i.isKnown = true := fun i hi => (List.mem_filter.mp hi).2
    obtain ⟨items', rfl, hparts⟩ := exists_items_of_forms hknown hforms
    obtain ⟨parts', hrounds', hsettings', hkeys'⟩ := exists_rounds_of_items items'
    have hread' := h'.read_export hformat hrounds'
    have hsame : items'.filterMap (·.part.setting?) = items.filterMap (·.part.setting?) :=
      (filterMap_part hparts Part.setting?).trans (settings_known items)
    have hnone : items'.filterMap (·.part.key?) = [] := (filterMap_part hparts Part.key?).trans (keys_known items)
    rw [hnone] at hkeys'
    rw [hsettings] at hread
    rw [hsettings', hsame, List.sublist_nil.mp hkeys'] at hread'
    refine ⟨(parts.filterMap Part.key?).map (warning s.text), fun w hw => ?_, hkeys.map _, fun c => ?_⟩
    · obtain ⟨key, -, rfl⟩ := List.mem_map.mp hw
      exact Warning.isWarning (.unknownOption key.lexeme) key.span (some s.text)
    · obtain ⟨c₁, hc₁, hagree₁, hadded₁⟩ := attempt_export (c := c) (congrArg Reading.outcome hread)
      obtain ⟨c₂, hc₂, hagree₂, hadded₂⟩ := attempt_export (c := c) (congrArg Reading.outcome hread')
      refine ⟨c₁, c₂, hc₁, hc₂, hagree₁, hagree₂, ?_, ?_⟩
      · rw [hadded₁, hread]
      · rw [hadded₂, hread', List.map_nil, List.append_nil]

/-- A flag before a comma and a key with a value stand around the density of a picture. -/
theorem exports_past_unknown_glow :
    let s : Statement := { line := 1, text := "EXPORT AS PNG GLOW, DPI: 300 BLUR: 2" }
    let s' : Statement := { line := 1, text := "EXPORT AS PNG, DPI: 300" }
    ∃ c₁ c₂, Context.attempt { vocabulary := .bundled } s = .ok (c₁, none) ∧
      Context.attempt { vocabulary := .bundled } s' = .ok (c₂, none) ∧
      c₁.scene.metadata.exportOptions = some { format := "png", density := some 300 } ∧
      c₂.scene.metadata.exportOptions = some { format := "png", density := some 300 } := by
  let front (s : Statement) : List Token := [s.cut 0 (.word "EXPORT") "EXPORT".toList,
    s.cut 7 (.word "AS") "AS".toList, s.cut 10 (.word "PNG") "PNG".toList]
  let known (s : Statement) (offset : Nat) : List Token := [s.cut offset .comma ",".toList,
    s.cut (offset + 2) (.word "DPI") "DPI".toList, s.cut (offset + 5) .colon ":".toList,
    s.cut (offset + 7) (.number 300) "300".toList]
  have htokens : let s : Statement := { line := 1, text := "EXPORT AS PNG GLOW, DPI: 300 BLUR: 2" }
      s.tokens = .ok (front s ++ ((s.cut 14 (.word "GLOW") "GLOW".toList :: (known s 18 ++
        [s.cut 29 (.word "BLUR") "BLUR".toList, s.cut 33 .colon ":".toList, s.cut 35 (.number 2) "2".toList])) ++
          [.endAt (s.location 36)])) := by
    with_unfolding_all rfl
  have htokens' : let s : Statement := { line := 1, text := "EXPORT AS PNG, DPI: 300" }
      s.tokens = .ok (front s ++ (known s 13 ++ [.endAt (s.location 23)])) := by
    with_unfolding_all rfl
  intro s s'
  let items : List Item := [
    ⟨.unknown (s.cut 14 (.word "GLOW") "GLOW".toList), _, .flag ⟨rfl, by decide⟩⟩,
    ⟨.joiner, [s.cut 18 .comma ",".toList], .joiner (Or.inr rfl)⟩,
    ⟨.option (.density 300),
      [s.cut 20 (.word "DPI") "DPI".toList, s.cut 23 .colon ":".toList, s.cut 25 (.number 300) "300".toList],
      .optionColon rfl (by decide) rfl (.density (by decide))⟩,
    ⟨.unknown (s.cut 29 (.word "BLUR") "BLUR".toList),
      [s.cut 29 (.word "BLUR") "BLUR".toList, s.cut 33 .colon ":".toList, s.cut 35 (.number 2) "2".toList],
      .valued ⟨rfl, by decide⟩ rfl⟩]
  obtain ⟨-, -, ws, -, -, hexports⟩ := @exports_past_unknown s "PNG" s' items (known s' 13) (by decide)
    ⟨_, _, htokens, rfl⟩ ⟨_, _, htokens', rfl⟩ rfl
  obtain ⟨c₁, c₂, hc₁, hc₂, hagree₁, hagree₂, -, -⟩ := hexports { vocabulary := .bundled }
  have hoptions : optionsOf "PNG" (items.filterMap (·.part.setting?)) = { format := "png", density := some 300 } := by
    have hlower : Text.lower "PNG" = "png" := by decide
    rw [optionsOf, hlower]
    rfl
  rw [hoptions] at hagree₁ hagree₂
  exact ⟨c₁, c₂, hc₁, hc₂, congrArg (·.metadata.exportOptions) hagree₁.scene.symm,
    congrArg (·.metadata.exportOptions) hagree₂.scene.symm⟩

end Context
end
end SceneScript
