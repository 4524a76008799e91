import SceneScript.Attribute.Clause
import SceneScript.Proofs.Blur.Tokens
import SceneScript.Proofs.Outcomes

/-!
Attribute clauses under a blur. A clause of blurred tokens sets the same keys; the values are told apart no
more than the tokens are. A color name gives a literal with capitals, so this is said of the blurred
results on both sides.
-/

namespace SceneScript

namespace Assoc

variable {κ α β : Type} [BEq κ]

theorem set_map (f : α → β) (m : List (κ × α)) (k : κ) (v : α) :
    set (m.map fun p => (p.1, f p.2)) k (f v) = (set m k v).map fun p => (p.1, f p.2) := by
  induction m with
  | nil => rfl
  | cons p m ih =>
    simp only [List.map_cons, set]
    split
    · rfl
    · rw [ih]
      rfl

theorem get?_map (f : α → β) (m : List (κ × α)) (k : κ) :
    get? (m.map fun p => (p.1, f p.2)) k = (get? m k).map f := by
  induction m with
  | nil => rfl
  | cons p m ih =>
    simp only [List.map_cons, get?]
    split
    · rfl
    · exact ih

theorem merge_map (f : α → β) (m updates : List (κ × α)) :
    merge (m.map fun p => (p.1, f p.2)) (updates.map fun p => (p.1, f p.2)) =
      (merge m updates).map fun p => (p.1, f p.2) := by
  induction updates generalizing m with
  | nil => rfl
  | cons p updates ih =>
    have hset := set_map f m p.1 p.2
    simp only [merge, List.map_cons, List.foldl_cons] at ih ⊢
    rw [hset, ih]

end Assoc

namespace Blur

variable (b : Blur)

/-! ### Values -/

def scalar : Scalar → Scalar
  | .text s => .text (b.text s)
  | s => s

mutual
/-- The value with its texts as they are seen. Keys are in lower case already. -/
def value : Value → Value
  | .scalar s => .scalar (b.scalar s)
  | .record fields => .record (attributes fields)

def attributes : Attributes → Attributes
  | [] => []
  | (k, v) :: rest => (k, value v) :: attributes rest
end

theorem attributes_eq_map (fields : Attributes) :
    b.attributes fields = fields.map fun p => (p.1, b.value p.2) := by
  induction fields with
  | nil => rw [attributes]; rfl
  | cons p fields ih => rw [attributes, ih]; rfl

theorem attributes_set (fields : Attributes) (key : String) (v : Value) :
    b.attributes (Assoc.set fields key v) = Assoc.set (b.attributes fields) key (b.value v) := by
  rw [attributes_eq_map, attributes_eq_map, Assoc.set_map]

theorem attributes_merge (fields updates : Attributes) :
    b.attributes (Assoc.merge fields updates) = Assoc.merge (b.attributes fields) (b.attributes updates) := by
  rw [attributes_eq_map, attributes_eq_map, attributes_eq_map, Assoc.merge_map]

theorem attributes_setField (fields : Attributes) (group key : String) (v : Value) :
    b.attributes (fields.setField group key v) = (b.attributes fields).setField group key (b.value v) := by
  have hfields : ∀ v : Value, b.attributes v.fields = (b.value v).fields := by
    intro v
    cases v with
    | scalar s => simp [Value.fields, value, attributes]
    | record fields => simp [Value.fields, value]
  have hgroup : b.attributes (((Assoc.get? fields group).map Value.fields).getD []) =
      ((Assoc.get? (b.attributes fields) group).map Value.fields).getD [] := by
    rw [b.attributes_eq_map fields, Assoc.get?_map]
    cases Assoc.get? fields group with
    | none => simp [attributes]
    | some v => exact hfields v
  unfold Attributes.setField
  rw [attributes_set, value, attributes_set, hgroup]

/-! ### Rules -/

def assignment : Clause.Assignment → Clause.Assignment
  | .attribute key v => .attribute key (b.value v)
  | .field group key v => .field group key (b.value v)

theorem attributes_apply (fields : Attributes) (a : Clause.Assignment) :
    b.attributes (a.apply fields) = (b.assignment a).apply (b.attributes fields) := by
  cases a with
  | «attribute» key v => exact b.attributes_set fields key v
  | field group key v => exact b.attributes_setField fields group key v

/-- What the rule sets is told apart no more than its tokens are. -/
def Respects (rule : Clause.Rule) : Prop :=
  ∀ source tokens, (rule (b.text source) (tokens.map b.token)).map (Option.map b.assignment) =
    (rule source tokens).map (Option.map b.assignment)

theorem kind_of_clausePair? {first second : List String} {tokens : List Token} {t : Token}
    (h : Clause.pair? first second tokens = some t) : t.kind = .word := by
  unfold Clause.pair? at h
  split at h
  · split at h
    · rename_i hwords
      cases h
      rw [Bool.and_eq_true] at hwords
      exact Token.kind_of_isWord hwords.1
    · cases h
  · cases h

/-- A rule that sets something by the word of a pair. -/
theorem respects_pair (first second : List String) (set : Token → Clause.Assignment)
    (h : ∀ t, t.kind = .word → b.assignment (set (b.token t)) = b.assignment (set t)) :
    b.Respects fun _ tokens => .ok ((Clause.pair? first second tokens).map set) := by
  intro source tokens
  simp only [Clause.pair?_map b.form_token]
  cases hpair : Clause.pair? first second tokens with
  | none => rfl
  | some t => exact congrArg (fun a => Except.ok (some a)) (h t (kind_of_clausePair? hpair))

theorem lowerWord_token {t : Token} (h : t.kind = .word) : Clause.lowerWord (b.token t) = Clause.lowerWord t := by
  rw [Clause.lowerWord, Clause.lowerWord, Token.wordText_map b.form_token h]

theorem respects_emotion : b.Respects Clause.emotion :=
  b.respects_pair _ _ _ fun t ht => by rw [b.lowerWord_token ht]

theorem respects_height : b.Respects Clause.height :=
  b.respects_pair _ _ _ fun t ht => by rw [b.lowerWord_token ht]

theorem respects_hairstyle : b.Respects Clause.hairstyle :=
  b.respects_pair _ _ _ fun t ht => by rw [b.lowerWord_token ht]

theorem respects_skin : b.Respects Clause.skin :=
  b.respects_pair _ _ _ fun t ht => by rw [b.lowerWord_token ht]

theorem respects_bareTorso : b.Respects Clause.bareTorso := b.respects_pair _ _ _ fun _ _ => rfl

theorem respects_age : b.Respects Clause.age := by
  intro source tokens
  match tokens with
  | [] => rfl
  | [_] => rfl
  | a :: ⟨form, _, _⟩ :: rest =>
    cases form with
    | number n =>
      have hword := b.isWord_token a ["AGE"]
      simp only [List.map_cons, token, Clause.age] at hword ⊢
      rw [hword]
    | _ => rfl

theorem respects_size : b.Respects Clause.size := by
  intro source tokens
  match tokens with
  | [] => rfl
  | [_] => rfl
  | a :: t :: rest => simp only [List.map_cons, Clause.size, isWord_token, kind_token, lexeme_token, lower_text]

theorem respects_outfit : b.Respects Clause.outfit := by
  intro source tokens
  cases tokens with
  | nil => rfl
  | cons t rest =>
    simp only [List.map_cons, Clause.outfit, isWord_token]
    split
    · rename_i hword
      rw [Token.wordText_map b.form_token (Token.kind_of_isWord hword)]
    · rfl

theorem respects_feature : b.Respects Clause.feature := by
  intro source tokens
  cases tokens with
  | nil => rfl
  | cons t rest =>
    simp only [List.map_cons, Clause.feature, isWord_token]
    split
    · rename_i hword
      rw [Token.wordText_map b.form_token (Token.kind_of_isWord hword)]
    · rfl

theorem respects_negation : b.Respects Clause.negation := by
  intro source tokens
  match tokens with
  | [] => rfl
  | [_] => rfl
  | no :: item :: rest =>
    simp only [List.map_cons, Clause.negation, isWord_token, kind_token]
    split
    · rename_i hwords
      rw [Bool.and_eq_true, decide_eq_true_eq] at hwords
      rw [Token.wordText_map b.form_token hwords.2]
    · rfl

theorem respects_colorItem : b.Respects Clause.colorItem := by
  intro source tokens
  match tokens with
  | [] => rfl
  | [_] => rfl
  | color :: item :: rest =>
    have hgroup : Clause.groupOf? (b.token item) = Clause.groupOf? item := by
      simp only [Clause.groupOf?, isWord_token]
    have hmay : Clause.mayColor (b.token color) (b.token item) = Clause.mayColor color item := by
      simp only [Clause.mayColor, form_token, isWord_token]
    simp only [List.map_cons, Clause.colorItem, hgroup, hmay, lexeme_token]
    split
    · cases hitem : Clause.groupOf? item with
      | none => rfl
      | some group =>
        have hword : item.kind = .word := by
          unfold Clause.groupOf? at hitem
          split at hitem
          · exact Token.kind_of_isWord ‹_›
          · split at hitem
            · exact Token.kind_of_isWord ‹_›
            · cases hitem
        have hcolor : b.value (.text (Color.normalize (b.text color.lexeme))) =
            b.value (.text (Color.normalize color.lexeme)) := by
          simp only [Value.text, value, scalar, text_normalize]
        simp only [Option.map_some, Except.map, assignment, Token.wordText_map b.form_token hword, hcolor]
    · rfl

/-! ### Parameters -/

theorem parameterValue_map (source : String) (tokens : List Token) :
    b.value (Clause.parameterValue (b.text source) (tokens.map b.token)) =
      b.value (Clause.parameterValue source tokens) := by
  have hwritten : ∀ tokens : List Token,
      b.value (.text (if Color.isColor (Token.textOf (b.text source) (tokens.map b.token)) then
          Color.normalize (Token.textOf (b.text source) (tokens.map b.token))
        else Token.textOf (b.text source) (tokens.map b.token))) =
      b.value (.text (if Color.isColor (Token.textOf source tokens) then Color.normalize (Token.textOf source tokens)
        else Token.textOf source tokens)) := by
    intro tokens
    rw [textOf_map, isColor_text]
    split
    · simp only [Value.text, value, scalar, text_normalize]
    · simp only [Value.text, value, scalar, text_text]
  match tokens with
  | [] => exact hwritten []
  | [⟨form, lexeme, span⟩] =>
    cases form with
    | number n => rfl
    | string s => rfl
    | _ => exact hwritten [⟨_, lexeme, span⟩]
  | ⟨form, _, _⟩ :: u :: rest => cases form <;> exact hwritten (_ :: u :: rest)

theorem parameter?_map (source : String) (tokens : List Token) :
    (Clause.parameter? (b.text source) (tokens.map b.token)).map (fun p => (p.1, b.value p.2)) =
      (Clause.parameter? source tokens).map (fun p => (p.1, b.value p.2)) := by
  match tokens with
  | [] => rfl
  | [_] => rfl
  | [_, _] => rfl
  | key :: colon :: t :: rest =>
    have hvalue := b.parameterValue_map source (t :: rest)
    simp only [List.map_cons, Clause.parameter?, kind_token, lexeme_token, lower_text] at hvalue ⊢
    split
    · simp only [Option.map_some, hvalue]
    · rfl

theorem attributes_parameters (source : String) (tokens : List Token) :
    b.attributes (Assoc.ofPairs ((Token.splitGroups Token.isComma (tokens.map b.token)).filterMap
        (Clause.parameter? (b.text source)))) =
      b.attributes (Assoc.ofPairs ((Token.splitGroups Token.isComma tokens).filterMap (Clause.parameter? source))) := by
  have hcomma : ∀ t, Token.isComma (b.token t) = Token.isComma t := by
    intro t
    simp only [Token.isComma, kind_token]
  have hgroups := Token.splitGroupsFrom_map b.form_token hcomma 0 tokens
  have hparameters : ∀ groups : List (List Token),
      b.attributes ((groups.map (List.map b.token)).filterMap (Clause.parameter? (b.text source))) =
        b.attributes (groups.filterMap (Clause.parameter? source)) := by
    intro groups
    rw [attributes_eq_map, attributes_eq_map, List.map_filterMap, List.map_filterMap, List.filterMap_map]
    exact congrArg (groups.filterMap ·) (funext (b.parameter?_map source))
  have hpairs : ∀ pairs : Attributes, b.attributes (Assoc.ofPairs pairs) = Assoc.ofPairs (b.attributes pairs) := by
    intro pairs
    rw [Assoc.ofPairs, attributes_merge, attributes]
    rfl
  rw [hpairs, hpairs, Token.splitGroups, hgroups, hparameters, Token.splitGroups]

theorem respects_parameterized : b.Respects Clause.parameterized := by
  intro source tokens
  match tokens with
  | [] => rfl
  | [_] => rfl
  | name :: paren :: rest =>
    simp only [List.map_cons, Clause.parameterized, kind_token, Clause.takeClosed_map b.form_token, lexeme_token, lower_text]
    split
    · cases Clause.takeClosed 0 rest with
      | none => rfl
      | some inner =>
        cases inner with
        | nil => rfl
        | cons t inner =>
          have hrecord := b.attributes_parameters source (t :: inner)
          rw [List.map_cons] at hrecord
          simp only [Option.map_some, List.map_cons, Except.map, assignment, value, hrecord]
    · rfl

/-! ### Sections -/

theorem respects_firstMatch {rules : List Clause.Rule} (h : ∀ rule ∈ rules, b.Respects rule) :
    b.Respects (Clause.firstMatch rules) := by
  intro source tokens
  induction rules with
  | nil => rfl
  | cons rule rules ih =>
    have hrule := h rule List.mem_cons_self source tokens
    have hrules := ih fun r hr => h r (List.mem_cons_of_mem rule hr)
    simp only [Clause.firstMatch]
    cases hseen : rule (b.text source) (tokens.map b.token) with
    | error f =>
      rw [hseen] at hrule
      cases hplain : rule source tokens with
      | error f' => rwa [hplain] at hrule
      | ok found =>
        rw [hplain] at hrule
        cases hrule
    | ok found =>
      rw [hseen] at hrule
      cases hplain : rule source tokens with
      | error f' =>
        rw [hplain] at hrule
        cases hrule
      | ok found' =>
        rw [hplain] at hrule
        cases found with
        | none =>
          cases found' with
          | none => exact hrules
          | some a => cases hrule
        | some a =>
          cases found' with
          | none => cases hrule
          | some a' => exact hrule

theorem respects_assignment? : b.Respects Clause.assignment? := by
  refine b.respects_firstMatch fun rule hrule => ?_
  simp only [Clause.rules, List.mem_cons, List.not_mem_nil, or_false] at hrule
  rcases hrule with rfl | rfl | rfl | rfl | rfl | rfl | rfl | rfl | rfl | rfl | rfl | rfl
  · exact b.respects_age
  · exact b.respects_size
  · exact b.respects_colorItem
  · exact b.respects_emotion
  · exact b.respects_parameterized
  · exact b.respects_outfit
  · exact b.respects_height
  · exact b.respects_hairstyle
  · exact b.respects_feature
  · exact b.respects_skin
  · exact b.respects_negation
  · exact b.respects_bareTorso

theorem applyTo_blur (source : String) {fields fields' : Attributes} (h : b.attributes fields' = b.attributes fields)
    (clause : List Token) :
    (Clause.applyTo (b.text source) fields' (clause.map b.token)).map b.attributes =
      (Clause.applyTo source fields clause).map b.attributes := by
  have happlied : ∀ (source : String) (fields : Attributes) (clause : List Token),
      (Clause.applyTo source fields clause).map b.attributes =
        ((Clause.assignment? source clause).map (Option.map b.assignment)).map fun found =>
          (found.map (·.apply (b.attributes fields))).getD (b.attributes fields) := by
    intro source fields clause
    unfold Clause.applyTo
    cases Clause.assignment? source clause with
    | error f => rfl
    | ok found =>
      cases found with
      | none => rfl
      | some a => exact congrArg Except.ok (b.attributes_apply fields a)
  rw [happlied, happlied, b.respects_assignment? source clause, h]

theorem foldlM_applyTo_blur (source : String) (clauses : List (List Token)) {fields fields' : Attributes}
    (h : b.attributes fields' = b.attributes fields) :
    ((clauses.map (List.map b.token)).foldlM (Clause.applyTo (b.text source)) fields').map b.attributes =
      (clauses.foldlM (Clause.applyTo source) fields).map b.attributes := by
  induction clauses generalizing fields fields' with
  | nil => exact congrArg Except.ok h
  | cons clause clauses ih =>
    have hclause := b.applyTo_blur source h clause
    rw [List.map_cons, List.foldlM_cons, List.foldlM_cons]
    cases hseen : Clause.applyTo (b.text source) fields' (clause.map b.token) with
    | error f =>
      rw [hseen] at hclause
      cases hplain : Clause.applyTo source fields clause with
      | error f' =>
        rw [hplain] at hclause
        cases hclause
        rfl
      | ok fields₁ =>
        rw [hplain] at hclause
        cases hclause
    | ok fields₁ =>
      rw [hseen] at hclause
      cases hplain : Clause.applyTo source fields clause with
      | error f' =>
        rw [hplain] at hclause
        cases hclause
      | ok fields₂ =>
        rw [hplain] at hclause
        exact ih (Except.ok.inj hclause)

/-- An attribute section read from blurred tokens sets attributes that are not told apart. -/
theorem read_blur (source : String) (tokens : List Token) :
    (Attributes.read (b.text source) (tokens.map b.token)).map b.attributes =
      (Attributes.read source tokens).map b.attributes := by
  unfold Attributes.read Attributes.readInto
  rw [Clause.ofTokens_map b.form_token]
  exact b.foldlM_applyTo_blur source _ rfl

end Blur
end SceneScript
