import SceneScript.Proofs.Defaults
import SceneScript.Proofs.Drawing
import SceneScript.Proofs.Literals

/-!
Records end to end. The fields of a record are scanned to groups of tokens between commas, the parentheses around
them shield whatever is written in them, and the clause with them sets one attribute. So a drawing with a record
gives an entity with just the keys and values that are written.
-/

namespace SceneScript

open Token

/-! ### Records as they are written -/

/-- A word of ASCII letters, digits and underscores. -/
def isIdentifier (s : String) : Bool :=
  match s.toList with
  | [] => false
  | c :: more => (c.isAlpha || c == '_') && more.all fun d => d.isAlphanum || d == '_'

/-- The fields of a record as they are written. -/
abbrev Fields := List (String × Literal)

namespace Fields

def field (f : String × Literal) : String := f.1 ++ ": " ++ f.2.text

/-- `KEY: value, KEY: value` -/
def text (fields : Fields) : String := ", ".intercalate (fields.map field)

/-- What the fields stand for. -/
def record (fields : Fields) : List (String × Value) := fields.map fun f => (Text.lower f.1, f.2.value)

/-- There are fields, under distinct identifiers in any case, and their values are well written. -/
structure Valid (fields : Fields) : Prop where
  ne_nil : fields ≠ []
  keys : ∀ f ∈ fields, isIdentifier f.1 = true
  values : ∀ f ∈ fields, f.2.Valid
  distinct : (fields.map fun f => Text.lower f.1).Nodup

end Fields

/-- A drawing of a man with a record. -/
def recordSource (name : String) (fields : Fields) : String := "DRAW MAN WITH " ++ name ++ "(" ++ fields.text ++ ")"

/-- The words that end a clause where they stand. -/
def clauseEnds : List String := ["AND", "AT", "BEHIND", "ABOVE", "BELOW", "NEAR"]

/-! ### Scanning fields -/

theorem toNat_lt_of_isAlphanum {c : Char} (h : c.isAlphanum = true) : c.toNat < 0x80 := by
  have hbound : ∀ d : Char, d.toNat < 0x80 → c.val ≤ d.val → c.toNat < 0x80 := fun d hd hle =>
    Nat.lt_of_le_of_lt (UInt32.le_iff_toNat_le.mp hle) hd
  rcases Bool.or_eq_true_iff.mp h with halpha | hdigit
  · rcases Bool.or_eq_true_iff.mp halpha with hupper | hlower
    · exact hbound 'Z' (by decide) (of_decide_eq_true hupper).2
    · exact hbound 'z' (by decide) (of_decide_eq_true (Bool.and_eq_true_iff.mp hlower).2)
  · exact hbound '9' (by decide) (of_decide_eq_true (Bool.and_eq_true_iff.mp hdigit).2)

theorem exists_of_isIdentifier {name : String} (h : isIdentifier name = true) :
    ∃ c more, name.toList = c :: more ∧ Text.isWordStart c = true ∧ ∀ d ∈ more, Text.isWordChar d = true := by
  unfold isIdentifier at h
  split at h
  · cases h
  · rename_i c more hname
    obtain ⟨hfirst, hmore⟩ := Bool.and_eq_true_iff.mp h
    refine ⟨c, more, hname, ?_, fun d hd => ?_⟩
    · rcases Bool.or_eq_true_iff.mp hfirst with hc | hc
      · have hascii := toNat_lt_of_isAlphanum (Bool.or_eq_true_iff.mpr (Or.inl hc))
        simp [Text.isWordStart, Text.isLetter, hascii, hc]
      · rw [eq_of_beq hc]
        decide
    · rcases Bool.or_eq_true_iff.mp (List.all_eq_true.mp hmore d hd) with hd | hd
      · have hascii := toNat_lt_of_isAlphanum hd
        simp [Text.isWordChar, hascii, hd]
      · rw [eq_of_beq hd]
        decide

variable {s : Statement}

theorem scans_identifier {name : String} {offset : Nat} (h : isIdentifier name = true) :
    s.Scans offset name.toList [s.cut offset (.word (Text.upper name)) name.toList] := by
  obtain ⟨c, more, hname, hstart, hmore⟩ := exists_of_isIdentifier h
  have hscan : s.Scans offset (c :: more) _ := .word hstart hmore
  rwa [← hname, String.ofList_toList] at hscan

theorem Clause.parameter?_of_key {source : String} {key colon : Token} {tokens : List Token} (hkey : key.kind = .word)
    (hcolon : colon.kind = .colon) (hne : tokens ≠ []) :
    parameter? source (key :: colon :: tokens) = some (Text.lower key.lexeme, parameterValue source tokens) := by
  obtain ⟨t, rest, rfl⟩ := List.exists_cons_of_ne_nil hne
  simp [parameter?, hkey, hcolon]

theorem reads_field {f : String × Literal} {front back : List Char} (hkey : isIdentifier f.1 = true)
    (hvalue : f.2.Valid) (hsource : s.text.toList = front ++ ((Fields.field f).toList ++ back)) :
    ∃ tokens, s.Scans front.length (Fields.field f).toList tokens ∧ nests 0 tokens = true ∧
      shields isComma 0 tokens = true ∧ tokens ≠ [] ∧
      Clause.parameter? s.text tokens = some (Text.lower f.1, f.2.value) := by
  have htext : (Fields.field f).toList = f.1.toList ++ (':' :: ' ' :: f.2.text.toList) := by simp [Fields.field]
  have hwhole : s.text.toList = (front ++ (f.1.toList ++ [':', ' '])) ++ (f.2.text.toList ++ back) := by
    simp [hsource, htext]
  obtain ⟨tokens, hreads⟩ := hvalue.reads hwhole
  have hoffset : (front ++ (f.1.toList ++ [':', ' '])).length = front.length + f.1.toList.length + 1 + 1 := by
    simp
    omega
  rw [hoffset] at hreads
  have hcolon : s.Scans (front.length + f.1.toList.length) (':' :: ' ' :: f.2.text.toList)
      (s.cut _ .colon [':'] :: tokens) := .mark (by decide) (.gap (by decide) hreads.scans)
  have hscan := (scans_identifier hkey).append hcolon (Statement.ends_mark (by decide) _)
  rw [← htext] at hscan
  have hword : (s.cut front.length (.word (Text.upper f.1)) f.1.toList).kind = .word := rfl
  have hmark : (s.cut (front.length + f.1.toList.length) .colon [':']).kind = .colon := rfl
  refine ⟨_, hscan, ?_, ?_, List.cons_ne_nil _ _, ?_⟩
  · exact nests_cons_plain (fun _ => rfl) (nests_cons_plain (fun _ => rfl) hreads.nested)
  · exact shields_cons_plain (fun _ => rfl) rfl (shields_cons_plain (fun _ => rfl) rfl hreads.shielded)
  · rw [List.singleton_append, Clause.parameter?_of_key hword hmark hreads.ne_nil, hreads.value, Statement.cut,
      String.ofList_toList]

theorem toList_text_cons (f g : String × Literal) (fields : Fields) :
    (Fields.text (f :: g :: fields)).toList =
      (Fields.field f).toList ++ (',' :: ' ' :: (Fields.text (g :: fields)).toList) := by
  simp [Fields.text, String.toList_intercalate]

/-- Fields are scanned to tokens that nest, and the groups between their commas are the fields again. -/
theorem reads_fields {fields : Fields} (hne : fields ≠ []) (hkeys : ∀ f ∈ fields, isIdentifier f.1 = true)
    (hvalues : ∀ f ∈ fields, f.2.Valid) {front back : List Char}
    (hsource : s.text.toList = front ++ (fields.text.toList ++ back)) :
    ∃ tokens, s.Scans front.length fields.text.toList tokens ∧ nests 0 tokens = true ∧ tokens ≠ [] ∧
      (splitGroups isComma tokens).filterMap (Clause.parameter? s.text) = fields.record := by
  induction fields generalizing front with
  | nil => exact absurd rfl hne
  | cons f fields ih =>
    have hkey := hkeys f List.mem_cons_self
    have hvalue := hvalues f List.mem_cons_self
    cases fields with
    | nil =>
      have htext : Fields.text [f] = Fields.field f := by simp [Fields.text]
      rw [htext] at hsource ⊢
      obtain ⟨tokens, hscan, hnested, hshielded, htokens, hparameter⟩ := reads_field hkey hvalue hsource
      refine ⟨tokens, hscan, hnested, htokens, ?_⟩
      rw [splitGroups, splitGroupsFrom_of_shields hshielded, List.filterMap_cons_some hparameter]
      rfl
    | cons g fields =>
      rw [toList_text_cons] at hsource ⊢
      have hhead : s.text.toList =
          front ++ ((Fields.field f).toList ++ (',' :: ' ' :: (Fields.text (g :: fields)).toList ++ back)) := by
        simp [hsource]
      have htail : s.text.toList =
          (front ++ ((Fields.field f).toList ++ [',', ' '])) ++ ((Fields.text (g :: fields)).toList ++ back) := by
        simp [hsource]
      obtain ⟨tokens, hscan, hnested, hshielded, -, hparameter⟩ := reads_field hkey hvalue hhead
      obtain ⟨tokens', hscan', hnested', -, hparameters⟩ := ih (List.cons_ne_nil g fields)
        (fun f hf => hkeys f (List.mem_cons_of_mem _ hf)) (fun f hf => hvalues f (List.mem_cons_of_mem _ hf)) htail
      have hoffset : (front ++ ((Fields.field f).toList ++ [',', ' '])).length =
          front.length + (Fields.field f).toList.length + 1 + 1 := by
        simp
        omega
      rw [hoffset] at hscan'
      have hcomma : s.Scans (front.length + (Fields.field f).toList.length)
          (',' :: ' ' :: (Fields.text (g :: fields)).toList) (s.cut _ .comma [','] :: tokens') :=
        .mark (by decide) (.gap (by decide) hscan')
      refine ⟨_, hscan.append hcomma (Statement.ends_mark (by decide) _), ?_, ?_, ?_⟩
      · exact nests_append hnested (nests_cons_plain (fun _ => rfl) hnested')
      · exact List.append_ne_nil_of_right_ne_nil _ (List.cons_ne_nil _ _)
      · rw [splitGroups_append_cons hnested hshielded rfl rfl, List.filterMap_cons_some hparameter, hparameters]
        rfl

/-! ### The clause -/

theorem isWord_of_kind {t : Token} (h : t.kind ≠ .word) (words : List String) : t.isWord words = false :=
  Bool.eq_false_iff.mpr fun hword => h (kind_of_isWord hword)

theorem Lead.of?_of_kind {t : Token} {rest : List Token} (h : t.kind ≠ .word) : of? (t :: rest) = none := by
  refine Option.eq_none_iff_forall_ne_some.mpr fun l hl => h ?_
  obtain ⟨u, hu, w, -, hform⟩ := head?_of_opens (of?_eq_some_iff.mp hl)
  cases hu
  exact kind_of_form_word hform

/-- Behind a word that is no lead by itself, a mark is no lead either. -/
theorem Lead.of?_of_lone {t u : Token} {word : String} {rest : List Token} (ht : t.form = .word word)
    (hword : word ∉ clauseEnds) (hu : u.kind ≠ .word) : of? (t :: u :: rest) = none := by
  refine Option.eq_none_iff_forall_ne_some.mpr fun l hl => hword ?_
  have hopens := of?_eq_some_iff.mp hl
  obtain ⟨first, words, hphrase⟩ := l.exists_phrase
  rw [hphrase, opens, Bool.and_eq_true, isWord_singleton, ht, Form.word.injEq] at hopens
  obtain ⟨rfl, hmore⟩ := hopens
  cases words with
  | nil =>
    have hall : ∀ l ∈ all, l.phrase.tail = [] → ∀ word ∈ l.phrase, word ∈ clauseEnds := by decide
    exact hall l l.mem_all (by rw [hphrase]; rfl) word (by simp [hphrase])
  | cons second words =>
    rw [opens, isWord_of_kind hu] at hmore
    cases hmore

/-- A name with parameters in parentheses sets a record, whatever follows the closing one. -/
theorem Clause.assignment?_of_takeClosed {source : String} {name paren : Token} {rest inner : List Token}
    (hname : name.kind = .word) (hparen : paren.kind = .leftParen) (htaken : takeClosed 0 rest = some inner)
    (hne : inner ≠ []) :
    assignment? source (name :: paren :: rest) =
      .ok (some (.attribute (Text.lower name.lexeme)
        (.record (Assoc.ofPairs ((splitGroups isComma inner).filterMap (parameter? source)))))) := by
  have hword := isWord_of_kind (t := paren) (by simp [hparen])
  have hage : age source (name :: paren :: rest) = .ok none := by
    obtain ⟨form, lexeme, span⟩ := paren
    obtain rfl : form = .leftParen := form_of_kind_mark hparen (Or.inl rfl)
    rfl
  have hsize : size source (name :: paren :: rest) = .ok none := by simp [size, hparen]
  have hcolor : colorItem source (name :: paren :: rest) = .ok none := by simp [colorItem, groupOf?, hword]
  have hemotion : emotion source (name :: paren :: rest) = .ok none := by simp [emotion, pair?, hword]
  have hrecord : parameterized source (name :: paren :: rest) = .ok (some (.attribute
      (Text.lower name.lexeme)
      (.record (Assoc.ofPairs ((splitGroups isComma inner).filterMap (parameter? source)))))) := by
    obtain ⟨t, more, rfl⟩ := List.exists_cons_of_ne_nil hne
    simp only [parameterized, hname, hparen, htaken, decide_true, Bool.and_self, ↓reduceIte]
  simp only [assignment?, rules, firstMatch, hage, hsize, hcolor, hemotion, hrecord]

theorem Clause.assignment?_of_record {source : String} {name paren close : Token} {inner : List Token}
    (hname : name.kind = .word) (hparen : paren.form = .leftParen) (hclose : close.kind = .rightParen)
    (hnested : nests 0 inner = true) (hne : inner ≠ []) :
    assignment? source (name :: paren :: (inner ++ [close])) =
      .ok (some (.attribute (Text.lower name.lexeme)
        (.record (Assoc.ofPairs ((splitGroups isComma inner).filterMap (parameter? source)))))) := by
  have hlast : takeClosed 0 [close] = some [] := by simp [takeClosed, hclose]
  have htaken : takeClosed 0 (inner ++ [close]) = some inner := by
    rw [takeClosed_append hnested, hlast, Option.map_some, List.append_nil]
  exact assignment?_of_takeClosed hname (congrArg Form.kind hparen) htaken hne

/-- An attribute section that is one record sets one attribute. -/
theorem Attributes.read_record (source : String) {name paren close : Token} {inner : List Token}
    (hname : name.kind = .word) (hand : isAnd name = false) (hparen : paren.form = .leftParen)
    (hclose : close.kind = .rightParen) (hnested : nests 0 inner = true) (hne : inner ≠ [])
    (hinner : ∀ t ∈ inner, t.kind ≠ .endOfStatement) :
    Attributes.read source (name :: paren :: (inner ++ [close])) =
      .ok [(Text.lower name.lexeme,
        .record (Assoc.ofPairs ((splitGroups isComma inner).filterMap (Clause.parameter? source))))] := by
  have hkind : paren.kind = .leftParen := congrArg Form.kind hparen
  have hshields : shields isAnd 0 (name :: paren :: (inner ++ [close])) = true := by
    have hlast : shields isAnd 1 [close] = true := by
      rw [shields_cons]
      exact ⟨fun _ => isWord_of_kind (by simp [hclose]) _, rfl⟩
    refine shields_cons_plain (depthAfter_of_word hname) hand ?_
    have hopened : depthAfter 0 paren = 1 := by rw [depthAfter, hkind]
    rw [shields_cons, hopened]
    exact ⟨fun hzero => absurd hzero Nat.one_ne_zero, shields_of_nests hnested hlast⟩
  have hclauses : Clause.ofTokens (name :: paren :: (inner ++ [close])) = [name :: paren :: (inner ++ [close])] := by
    have hfilter : (name :: paren :: (inner ++ [close])).filter (·.kind ≠ .endOfStatement) =
        name :: paren :: (inner ++ [close]) := by
      refine List.filter_eq_self.mpr fun t ht => ?_
      rcases List.mem_cons.mp ht with rfl | ht
      · simp [hname]
      · rcases List.mem_cons.mp ht with rfl | ht
        · simp [hkind]
        · rcases List.mem_append.mp ht with ht | ht
          · simp [hinner t ht]
          · rw [List.mem_singleton.mp ht]
            simp [hclose]
    rw [Clause.ofTokens, hfilter, splitGroups, splitGroupsFrom_of_shields hshields]
    rfl
  rw [Attributes.read, Attributes.readInto, hclauses, List.foldlM_cons, Clause.applyTo,
    Clause.assignment?_of_record hname hparen hclose hnested hne]
  rfl

/-- No position is found behind a record. -/
theorem findLead_of_record {first name paren close : Token} {word : String} {inner : List Token}
    (hfirst : first.form = .word "WITH") (hname : name.form = .word word) (hword : word ∉ clauseEnds)
    (hparen : paren.form = .leftParen) (hclose : close.kind = .rightParen) (hnested : nests 0 inner = true) :
    findLead (first :: name :: paren :: (inner ++ [close])) = none := by
  have hkind : paren.kind = .leftParen := congrArg Form.kind hparen
  have hopened : depthAfter 0 paren = 1 := by rw [depthAfter, hkind]
  have hlast : findLeadFrom 1 [close] = none :=
    findLeadFrom_cons_none (Lead.of?_of_kind (by simp [hclose])) rfl
  rw [findLead]
  refine findLeadFrom_cons_none (Lead.of?_of_avoids hfirst (by decide)) ?_
  rw [depthAfter_of_word (congrArg Form.kind hfirst)]
  refine findLeadFrom_cons_none (Lead.of?_of_lone hname hword (by simp [hkind])) ?_
  rw [depthAfter_of_word (congrArg Form.kind hname)]
  refine findLeadFrom_cons_none (Lead.of?_of_kind (by simp [hkind])) ?_
  rw [hopened]
  exact findLeadFrom_of_nests hnested hlast

/-! ### The drawing -/

theorem toList_recordSource (name : String) (fields : Fields) :
    (recordSource name fields).toList =
      ['D', 'R', 'A', 'W'] ++ (' ' :: (['M', 'A', 'N'] ++ (' ' :: (['W', 'I', 'T', 'H'] ++
        (' ' :: (name.toList ++ ('(' :: (fields.text.toList ++ [')'])))))))) := by
  have hsource : recordSource name fields = "DRAW MAN WITH " ++ name ++ "(" ++ fields.text ++ ")" := rfl
  rw [hsource]
  simp

/-- The tokens of a drawing with a record: three words, the name, and the fields in parentheses. -/
theorem scans_recordSource {name : String} {fields : Fields} (hname : isIdentifier name = true)
    (hfields : fields.Valid) (hs : s.text = recordSource name fields) :
    ∃ draw man joiner paren close inner,
      s.Scans 0 s.text.toList
        (draw :: man :: joiner :: s.cut 14 (.word (Text.upper name)) name.toList :: paren :: (inner ++ [close])) ∧
      draw.form = .word "DRAW" ∧ man.form = .word "MAN" ∧ joiner.form = .word "WITH" ∧
      paren.form = .leftParen ∧ close.kind = .rightParen ∧ nests 0 inner = true ∧ inner ≠ [] ∧
      (∀ t ∈ inner, t.kind ≠ .endOfStatement) ∧
      (splitGroups isComma inner).filterMap (Clause.parameter? s.text) = fields.record := by
  have hsource := toList_recordSource name fields
  rw [← hs] at hsource
  have hfront : s.text.toList =
      ("DRAW MAN WITH ".toList ++ (name.toList ++ ['('])) ++ (fields.text.toList ++ [')']) := by
    rw [hsource]
    simp
  have hoffset : ("DRAW MAN WITH ".toList ++ (name.toList ++ ['('])).length = 14 + name.toList.length + 1 := by
    simp
    omega
  obtain ⟨inner, hscan, hnested, hne, hparameters⟩ := reads_fields hfields.ne_nil hfields.keys hfields.values hfront
  rw [hoffset] at hscan
  have hclosed : s.Scans (14 + name.toList.length + 1) (fields.text.toList ++ [')'])
      (inner ++ [s.cut _ .rightParen [')']]) :=
    hscan.append (.mark (by decide) .nil) (Statement.ends_mark (by decide) _)
  have hopened : s.Scans (14 + name.toList.length) ('(' :: (fields.text.toList ++ [')']))
      (s.cut _ .leftParen ['('] :: _) := .mark (by decide) hclosed
  have hnamed := (scans_identifier hname).append hopened (Statement.ends_mark (by decide) _)
  have hjoined : s.Scans 9 _ _ := hnamed.word_space 'W' ['I', 'T', 'H'] (by decide) (by decide)
  have hdrawn : s.Scans 5 _ _ := hjoined.word_space 'M' ['A', 'N'] (by decide) (by decide)
  have hwhole : s.Scans 0 _ _ := hdrawn.word_space 'D' ['R', 'A', 'W'] (by decide) (by decide)
  rw [← hsource] at hwhole
  exact ⟨_, _, _, _, _, inner, hwhole, congrArg Form.word (by decide), congrArg Form.word (by decide),
    congrArg Form.word (by decide), rfl, rfl, hnested, hne, hscan.kind_ne, hparameters⟩

theorem harmless_of_isIdentifier {name : String} (h : isIdentifier name = true) : Text.Harmless name.toList := by
  obtain ⟨c, more, hname, hstart, hmore⟩ := exists_of_isIdentifier h
  refine Literal.harmless_of_isWordChar fun d hd => ?_
  rw [hname] at hd
  rcases List.mem_cons.mp hd with rfl | hd
  · exact Text.isWordChar_of_isWordStart hstart
  · exact hmore d hd

theorem plain_field {f : String × Literal} (hkey : isIdentifier f.1 = true) (hvalue : f.2.Valid) :
    Text.Plain (Fields.field f).toList := by
  have htext : (Fields.field f).toList = f.1.toList ++ ([':', ' '] ++ f.2.text.toList) := by simp [Fields.field]
  have hcolon : Text.Harmless [':', ' '] := by simp [Text.Harmless]
  rw [htext]
  exact (hvalue.plain.prepend hcolon).prepend (harmless_of_isIdentifier hkey)

theorem plain_fields {fields : Fields} (hkeys : ∀ f ∈ fields, isIdentifier f.1 = true)
    (hvalues : ∀ f ∈ fields, f.2.Valid) : Text.Plain fields.text.toList := by
  induction fields with
  | nil => exact ⟨nofun, by decide⟩
  | cons f fields ih =>
    have hfield := plain_field (hkeys f List.mem_cons_self) (hvalues f List.mem_cons_self)
    cases fields with
    | nil => simpa [Fields.text] using hfield
    | cons g fields =>
      have hcomma : Text.Harmless [',', ' '] := by simp [Text.Harmless]
      have hrest := ih (fun f hf => hkeys f (List.mem_cons_of_mem _ hf))
        fun f hf => hvalues f (List.mem_cons_of_mem _ hf)
      rw [toList_text_cons]
      exact hfield.append (hrest.prepend hcomma) (Or.inr (by simp))

theorem ofSource_recordSource {name : String} {fields : Fields} (filename : Option String)
    (hname : isIdentifier name = true) (hfields : fields.Valid) :
    Statement.ofSource (recordSource name fields) filename = [⟨1, recordSource name fields, 1, filename⟩] := by
  have hsource := toList_recordSource name fields
  have hopening : Text.Harmless "DRAW MAN WITH ".toList := by simp [Text.Harmless]
  have hparens : Text.Harmless ['('] ∧ Text.Harmless [')'] := by simp [Text.Harmless]
  have hplain := ((plain_fields hfields.keys hfields.values).extend hparens.2).prepend
    (hopening.append ((harmless_of_isIdentifier hname).append hparens.1))
  have hchars : (recordSource name fields).toList =
      "DRAW MAN WITH ".toList ++ (name.toList ++ ['(']) ++ (fields.text.toList ++ [')']) := by
    rw [hsource]
    simp
  rw [← hchars] at hplain
  refine Statement.ofSource_plain filename ?_ hplain ?_ ?_
  · rw [hsource]
    exact List.cons_ne_nil _ _
  · rw [hsource]
    intro c hc
    cases hc
    decide
  · rw [hchars, ← List.append_assoc, List.getLast?_concat]
    intro c hc
    cases hc
    decide

theorem subtype_of_man (strict : Bool) : (Vocabulary.bundled.typeOf "MAN" [] strict).subtype = "adult_male" := by
  cases strict <;> decide +kernel

/-- Records survive end to end. Whatever the values of its fields hold, a drawing with a record gives one entity,
    with the record as it is written under its name and the defaults for the rest. -/
theorem readSource_record (strict : Bool) (filename : Option String) (name : String) (fields : Fields)
    (hname : isIdentifier name = true) (hfree : Text.upper name ∉ clauseEnds) (hfields : fields.Valid) :
    ∃ r e defaults, readSource .bundled strict (recordSource name fields) filename = .ok r ∧ r.success = true ∧
      r.diagnostics = [] ∧ r.scene.entities = [e] ∧ e.subtype = "adult_male" ∧
      Vocabulary.bundled.attributesFor "adult_male" = .ok defaults ∧
      Assoc.get? e.attributes (Text.lower name) = some (.record fields.record) ∧
      ∀ key, key ≠ Text.lower name → Assoc.get? e.attributes key = Assoc.get? defaults key := by
  let s : Statement := ⟨1, recordSource name fields, 1, filename⟩
  obtain ⟨draw, man, joiner, paren, close, inner, hscan, hdraw, hman, hjoiner, hparen, hclose, hnested, hne, hinner,
    hparameters⟩ := scans_recordSource (s := s) hname hfields rfl
  have hlead : findLead (joiner :: s.cut 14 (.word (Text.upper name)) name.toList :: paren :: (inner ++ [close])) =
      none :=
    findLead_of_record hjoiner rfl hfree hparen hclose hnested
  have hread := hscan.read_draw hdraw hman (by decide) (by decide) hlead
  have hand : isAnd (s.cut 14 (.word (Text.upper name)) name.toList) = false := by
    have hne : Text.upper name ≠ "AND" := fun heq => hfree (by simp [clauseEnds, heq])
    simpa [isAnd, isWord, Statement.cut] using hne
  have hstated := Attributes.read_record s.text rfl hand hparen hclose hnested hne hinner
  have hkeys : (Assoc.keys fields.record).Nodup := by
    have hdistinct := hfields.distinct
    rwa [Assoc.keys, Fields.record, List.map_map]
  have hlexeme : (s.cut 14 (.word (Text.upper name)) name.toList).lexeme = name := String.ofList_toList
  rw [hparameters, Assoc.ofPairs_of_nodup hkeys, hlexeme] at hstated
  have hsection : Command.attributeTokens (joiner :: s.cut 14 (.word (Text.upper name)) name.toList :: paren ::
      (inner ++ [close])) = s.cut 14 (.word (Text.upper name)) name.toList :: paren :: (inner ++ [close]) := by
    have hwith : joiner.isWord ["WITH"] = true := by simp [isWord, hjoiner]
    rw [Command.attributeTokens, if_pos hwith]
  rw [hsection] at hread
  obtain ⟨defaults, hdefaults⟩ := Vocabulary.attributesFor_of_usable Vocabulary.usable_bundled "adult_male"
  rw [← subtype_of_man strict] at hdefaults
  obtain ⟨r, hr, hdiagnostics, hentities⟩ := readSource_draw (ofSource_recordSource filename hname hfields) hread
    hdefaults hstated rfl
  rw [subtype_of_man] at hdefaults
  have hsuccess : r.success = true := by
    rw [Result.success, hdiagnostics]
    rfl
  exact ⟨r, _, defaults, hr, hsuccess, hdiagnostics, hentities, subtype_of_man strict, hdefaults,
    Assoc.get?_set_self defaults _ _, fun key hkey => Assoc.get?_set_of_ne hkey.symm⟩

/-- Leads, separators, parentheses, a color and keywords in values, with gaps around one of them. -/
theorem readSource_record_mixed :
    let fields : Fields := [("AND", .integer true 2 7), ("b_2", .quoted "RED, AT (1"),
      ("Near", .raw " " "NEXT  TO (a, 'b)') AND RED" "\t")]
    recordSource "Without" fields =
        "DRAW MAN WITH Without(AND: -007, b_2: \"RED, AT (1\", Near:  NEXT  TO (a, 'b)') AND RED\t)" ∧
      isIdentifier "Without" = true ∧ Text.upper "Without" ∉ clauseEnds ∧ fields.Valid ∧
      ∃ r e, readSource .bundled true (recordSource "Without" fields) none = .ok r ∧ r.scene.entities = [e] ∧
        Assoc.get? e.attributes "without" = some (.record [("and", .number (.int (-7))), ("b_2", .text "RED, AT (1"),
          ("near", .text "NEXT  TO (a, 'b)') AND RED")]) := by
  intro fields
  have hends : "NEXT  TO (a, 'b)') AND RED".toList.head? = some 'N' ∧
      "NEXT  TO (a, 'b)') AND RED".toList.getLast? = some 'D' := by
    decide +kernel
  have hraw : IsRaw "NEXT  TO (a, 'b)') AND RED" := {
    plain := by decide +kernel
    first := by
      rw [hends.1]
      rintro _ ⟨⟩
      decide
    last := by
      rw [hends.2]
      rintro _ ⟨⟩
      decide
    scanned := toOption_isSome.mp (by decide +kernel)
    several := by decide +kernel
    nested := by decide +kernel
    shielded := by decide +kernel }
  have hvalues : ∀ f ∈ fields, f.2.Valid := by
    refine List.forall_mem_cons.mpr ⟨trivial, List.forall_mem_cons.mpr ⟨?_, List.forall_mem_cons.mpr ⟨?_, nofun⟩⟩⟩
    · exact ⟨by decide +kernel, by decide +kernel⟩
    · exact ⟨List.all_eq_true.mp (by decide +kernel), hraw⟩
  have hfields : fields.Valid := ⟨List.cons_ne_nil _ _, by decide +kernel, hvalues, by decide +kernel⟩
  have hname : isIdentifier "Without" = true := by decide +kernel
  have hfree : Text.upper "Without" ∉ clauseEnds := by decide +kernel
  obtain ⟨r, e, _, hr, -, -, he, -, -, hrecord, -⟩ := readSource_record true none "Without" fields hname hfree hfields
  refine ⟨by decide +kernel, hname, hfree, hfields, r, e, hr, he, ?_⟩
  have hlower : Text.lower "Without" = "without" := by decide +kernel
  have hkeys : Text.lower "AND" = "and" ∧ Text.lower "b_2" = "b_2" ∧ Text.lower "Near" = "near" := by decide +kernel
  obtain ⟨hand, hb, hnear⟩ := hkeys
  rw [hlower] at hrecord
  simpa [fields, Fields.record, Literal.value, hand, hb, hnear] using hrecord

/-- Words end clauses in any case, so they name no record in lower case either. -/
theorem recordSource_and_lost :
    let fields : Fields := [("A", .integer false 0 1)]
    isIdentifier "and" = true ∧ "and" ∉ clauseEnds ∧ fields.Valid ∧
      ∃ r e, readSource .bundled false (recordSource "and" fields) none = .ok r ∧ r.scene.entities = [e] ∧
        Assoc.get? e.attributes (Text.lower "and") = none := by
  intro fields
  have hfields : fields.Valid :=
    ⟨List.cons_ne_nil _ _, by decide +kernel, List.forall_mem_cons.mpr ⟨trivial, nofun⟩, by decide +kernel⟩
  have hlost : (readSource .bundled false (recordSource "and" fields) none).toOption.map (fun r =>
      r.scene.entities.map fun e => (Assoc.get? e.attributes (Text.lower "and")).isNone) = some [true] := by
    decide +kernel
  obtain ⟨r, hr, hentities⟩ := toOption_map_eq_some.mp hlost
  obtain ⟨e, he, hnone⟩ := List.map_eq_singleton_iff.mp hentities
  exact ⟨by decide, by decide, hfields, r, e, hr, he, Option.isNone_iff_eq_none.mp hnone⟩

end SceneScript
