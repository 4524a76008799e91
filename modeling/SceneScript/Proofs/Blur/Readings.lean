import SceneScript.Proofs.Blur.Scans

/-!
Readings under a blur. Statements that a blur does not tell apart are read alike: in the same form, with
warnings, and a command or a refusal, that it does not tell apart.
-/

namespace SceneScript
namespace Blur

variable (b : Blur)

/-! ### Outcomes -/

theorem outcome_bind {α β γ δ : Type} {f : α → β} {g : γ → δ} {x : Except Refusal α} {k : α → Except Refusal γ}
    {k' : β → Except Refusal δ} (h : ∀ a, x = .ok a → k' (f a) = b.outcome g (k a)) :
    (b.outcome f x >>= k') = b.outcome g (x >>= k) := by
  cases x with
  | error r => rfl
  | ok a => exact h a rfl

theorem outcome_map {α β γ δ : Type} {f : α → β} {g : γ → δ} {h : α → γ} {h' : β → δ} (x : Except Refusal α)
    (hh : ∀ a, h' (f a) = g (h a)) : (b.outcome f x).map h' = b.outcome g (x.map h) := by
  cases x with
  | error r => rfl
  | ok a => exact congrArg Except.ok (hh a)

/-! ### Commands -/

/-- The command with its tokens and its position as they are seen. -/
def command : Command → Command
  | .load name => .load (b.token name)
  | .environment name => .environment (b.token name)
  | .draw keyword clauses placed => .draw keyword (clauses.map b.token) (b.placed placed)
  | .update reference clauses => .update (b.token reference) (clauses.map b.token)
  | .exportAs options => .exportAs options

variable (source : String) (c : Cursor)

theorem expectWord_cursor (rejection : String → Rejection)
    (h : ∀ found, b.rejection (rejection found) = rejection (b.text found)) :
    Command.expectWord rejection (b.text source) (b.cursor c) =
      b.outcome b.token (Command.expectWord rejection source c) := by
  unfold Command.expectWord
  rw [current_cursor, kind_token, describe_token]
  by_cases hword : c.current.kind = .word
  · rw [if_pos hword, if_pos hword]
    rfl
  · rw [if_neg hword, if_neg hword, ← h]
    rfl

theorem kind_of_expectWord {rejection : String → Rejection} {t : Token}
    (h : Command.expectWord rejection source c = .ok t) : t.kind = .word := by
  unfold Command.expectWord at h
  split at h
  · rename_i hword
    cases h
    exact hword
  · cases h

theorem startsClause_map (tokens : List Token) :
    Command.startsClause (tokens.map b.token) = Command.startsClause tokens := by
  unfold Command.startsClause
  rw [Lead.of?_map b.form_token]
  cases tokens with
  | nil => rfl
  | cons t tokens => simp

theorem entityKeyword_cursor :
    Command.entityKeyword (b.text source) (b.cursor c) =
      b.outcome (fun p => (p.1, p.2.map b.token)) (Command.entityKeyword source c) := by
  unfold Command.entityKeyword
  rw [b.expectWord_cursor source c _ fun _ => rfl]
  refine b.outcome_bind fun first hfirst => ?_
  have hword := Token.wordText_map b.form_token (kind_of_expectWord source c hfirst)
  simp only [rest_cursor, advance_cursor, startsClause_map, hword]
  cases Command.startsClause c.rest with
  | true => rfl
  | false =>
    cases hrest : c.advance.rest with
    | nil => rfl
    | cons kind more =>
      simp only [List.map_cons, kind_token]
      cases hkind : decide (first.wordText = "ANIMAL") && decide (kind.kind = .word) &&
        !Command.startsClause (kind :: more) with
      | true =>
        simp only [Bool.and_eq_true, decide_eq_true_eq] at hkind
        simp [Token.wordText_map b.form_token hkind.1.2, outcome, pure, Except.pure]
      | false => simp [outcome, pure, Except.pure]

theorem attributeTokens_map (tokens : List Token) :
    Command.attributeTokens (tokens.map b.token) = (Command.attributeTokens tokens).map b.token := by
  cases tokens with
  | nil => rfl
  | cons t rest =>
    simp only [List.map_cons, Command.attributeTokens, isWord_token]
    cases t.isWord ["WITH"] with
    | true => rfl
    | false => cases t.isWord ["WITHOUT"] <;> rfl

theorem readDraw_cursor :
    Command.readDraw (b.text source) (b.cursor c) = b.outcome b.command (Command.readDraw source c) := by
  unfold Command.readDraw
  rw [entityKeyword_cursor]
  refine b.outcome_bind fun ⟨keyword, rest⟩ _ => ?_
  simp only [Token.findLead_map b.form_token]
  cases Token.findLead rest with
  | none =>
    simp only [attributeTokens_map]
    rfl
  | some n =>
    simp only [← List.map_drop, ← List.map_take, readPosition_map, attributeTokens_map]
    exact b.outcome_bind fun placed _ => rfl

theorem readUpdate_cursor :
    Command.readUpdate (b.text source) (b.cursor c) = b.outcome b.command (Command.readUpdate source c) := by
  unfold Command.readUpdate
  rw [b.expectWord_cursor source c _ fun _ => rfl]
  refine b.outcome_bind fun reference _ => ?_
  simp only [advance_cursor, matchWord_cursor]
  cases c.advance.matchWord ["WITH"] with
  | mk joiner c' =>
    cases joiner with
    | none =>
      simp only [Option.map_none, current_cursor, describe_token]
      rfl
    | some joiner =>
      simp only [Option.map_some, atEnd_cursor, rest_cursor]
      cases c'.atEnd <;> rfl

/-! ### Export options -/

section Export
open Command.Export

variable (last : Token) (tokens : List Token)

theorem refuse_token {α β : Type} {f : α → β} (rejection : String → Rejection)
    (h : ∀ found, b.rejection (rejection found) = rejection (b.text found)) (t : Token) :
    Frame.refuse ⟨b.text source, b.token last⟩ rejection (b.token t) =
      b.outcome f (Frame.refuse ⟨source, last⟩ rejection t) := by
  simp only [Frame.refuse, describe_token, outcome, refusal, h]
  rfl

theorem setOption_token (word : String) (value : Token) (options : ExportOptions) :
    setOption ⟨b.text source, b.token last⟩ word (b.token value) options =
      b.outcome id (setOption ⟨source, last⟩ word value options) := by
  have hresolution : resolution? (b.token value) = resolution? value := rfl
  have hquality : quality? (b.token value) = quality? value := rfl
  have hdensity : density? (b.token value) = density? value := rfl
  unfold setOption
  rw [hresolution, hquality, hdensity]
  split
  · cases resolution? value with
    | none => exact b.refuse_token source last _ (fun _ => rfl) value
    | some size => rfl
  · split
    · cases quality? value with
      | none => exact b.refuse_token source last _ (fun _ => rfl) value
      | some q => rfl
    · cases density? value with
      | none => exact b.refuse_token source last _ (fun _ => rfl) value
      | some n => rfl

theorem startsOption_map : startsOption (tokens.map b.token) = startsOption tokens := by
  cases tokens with
  | nil => rfl
  | cons t rest => cases rest <;> simp [startsOption]

theorem dropColon_map : dropColon (tokens.map b.token) = ((dropColon tokens).1, (dropColon tokens).2.map b.token) := by
  cases tokens with
  | nil => rfl
  | cons t rest =>
    simp only [List.map_cons, dropColon, kind_token]
    by_cases hcolon : t.kind = .colon
    · rw [if_pos hcolon, if_pos hcolon]
    · rw [if_neg hcolon, if_neg hcolon]
      rfl

theorem dropValue_map (hasColon : Bool) :
    dropValue hasColon (tokens.map b.token) = (dropValue hasColon tokens).map b.token := by
  unfold dropValue
  rw [startsOption_map]
  split
  · rfl
  · exact List.map_drop.symm

theorem front_map :
    Frame.front ⟨b.text source, b.token last⟩ (tokens.map b.token) = b.token (Frame.front ⟨source, last⟩ tokens) := by
  cases tokens <;> rfl

/-- One round of reading options, with the colon out of the way. -/
theorem readOptions_cons (f : Frame) (options : ExportOptions) (t : Token) (rest : List Token) :
    readOptions f options (t :: rest) =
      if t.isWord joiners || t.kind = .comma then readOptions f options rest
      else if t.kind ≠ .word then ([], f.refuse .exportUnexpected t)
      else if t.isWord optionWords then
        match setOption f t.wordText (f.front (dropColon rest).2) options with
        | .error r => ([], .error r)
        | .ok options => readOptions f options ((dropColon rest).2.drop 1)
      else
        ((Warning.unknownOption t.lexeme).diagnostic t.span (some f.source) ::
            (readOptions f options (dropValue (dropColon rest).1 (dropColon rest).2)).1,
          (readOptions f options (dropValue (dropColon rest).1 (dropColon rest).2)).2) := by
  exact readOptions.eq_2 f options t rest

theorem readOptions_map (options : ExportOptions) :
    readOptions ⟨b.text source, b.token last⟩ options (tokens.map b.token) =
      ((readOptions ⟨source, last⟩ options tokens).1.map b.diagnostic,
        b.outcome id (readOptions ⟨source, last⟩ options tokens).2) := by
  have hjoins : ∀ t, ((b.token t).isWord joiners || decide ((b.token t).kind = .comma)) =
      (t.isWord joiners || decide (t.kind = .comma)) := fun t => by rw [isWord_token, kind_token]
  fun_induction readOptions ⟨source, last⟩ options tokens with
  | case1 options =>
    rw [List.map_nil, readOptions]
    rfl
  | case2 options t rest hjoiner ih =>
    rw [List.map_cons, readOptions_cons, hjoins, if_pos hjoiner]
    exact ih
  | case3 options t rest hjoiner hword =>
    have hrefuse := b.refuse_token (f := @id ExportOptions) source last .exportUnexpected (fun _ => rfl) t
    rw [List.map_cons, readOptions_cons, hjoins, if_neg hjoiner, kind_token, if_pos hword, hrefuse]
    rfl
  | case4 options t rest hjoiner hword hasColon rest' hcolon _ hoption r hset =>
    have hkind := Decidable.not_not.mp hword
    rw [List.map_cons, readOptions_cons, hjoins, if_neg hjoiner, kind_token, if_neg hword, isWord_token,
      if_pos hoption, dropColon_map, hcolon, front_map, Token.wordText_map b.form_token hkind, setOption_token, hset]
    rfl
  | case5 options t rest hjoiner hword hasColon rest' hcolon _ hoption options' hset ih =>
    have hkind := Decidable.not_not.mp hword
    rw [List.map_cons, readOptions_cons, hjoins, if_neg hjoiner, kind_token, if_neg hword, isWord_token,
      if_pos hoption, dropColon_map, hcolon, front_map, Token.wordText_map b.form_token hkind, setOption_token, hset,
      ← List.map_drop]
    exact ih
  | case6 options t rest hjoiner hword hasColon rest' hcolon _ hoption _ warning warnings result hread ih =>
    rw [List.map_cons, readOptions_cons, hjoins, if_neg hjoiner, kind_token, if_neg hword, isWord_token,
      if_neg hoption, dropColon_map, hcolon, dropValue_map, ih, hread]
    simp only [List.map_cons, warning, diagnostic_unknownOption, lexeme_token, span_token]

theorem isWord_of_matchWord {c c' : Cursor} {words : List String} {t : Token} (h : c.matchWord words = (some t, c')) :
    t.isWord words = true := by
  unfold Cursor.matchWord Cursor.matchIf at h
  split at h
  · rename_i hword
    cases h
    exact hword
  · cases h

theorem readExport_cursor :
    Command.Export.read (b.text source) (b.cursor c) =
      ((Command.Export.read source c).1.map b.diagnostic, b.outcome b.command (Command.Export.read source c).2) := by
  have hlast : (b.cursor c).last = b.token c.last := rfl
  unfold Command.Export.read
  rw [matchWord_cursor, hlast]
  cases c.matchWord ["AS"] with
  | mk as c₁ =>
    cases as with
    | none =>
      have hrefuse := b.refuse_token (f := b.command) source c.last .exportWithoutAs (fun _ => rfl) c₁.current
      simp only [Option.map_none, current_cursor, hrefuse]
      rfl
    | some as =>
      simp only [Option.map_some, matchWord_cursor]
      cases hformat : c₁.matchWord formats with
      | mk format c₂ =>
        cases format with
        | none =>
          have hrefuse := b.refuse_token (f := b.command) source c.last .exportWithoutFormat (fun _ => rfl) c₂.current
          simp only [Option.map_none, current_cursor, hrefuse]
          rfl
        | some format =>
          have hword := Token.wordText_map b.form_token (Token.kind_of_isWord (isWord_of_matchWord hformat))
          simp only [Option.map_some, hword, rest_cursor, readOptions_map]
          exact congrArg (Prod.mk _) (b.outcome_map _ fun _ => rfl)

end Export

theorem readAfter_cursor (opening : Command.Opening) :
    Command.readAfter (b.text source) (b.cursor c) opening =
      ((Command.readAfter source c opening).1.map b.diagnostic,
        b.outcome b.command (Command.readAfter source c opening).2) := by
  cases opening with
  | load =>
    have hname := b.expectWord_cursor source c .loadWithoutName fun _ => rfl
    simp only [Command.readAfter, hname]
    exact congrArg (Prod.mk _) (b.outcome_map _ fun _ => rfl)
  | environment =>
    have hname := b.expectWord_cursor source c .environmentWithoutName fun _ => rfl
    simp only [Command.readAfter, hname]
    exact congrArg (Prod.mk _) (b.outcome_map _ fun _ => rfl)
  | draw => exact congrArg (Prod.mk _) (b.readDraw_cursor source c)
  | update => exact congrArg (Prod.mk _) (b.readUpdate_cursor source c)
  | exportAs => exact b.readExport_cursor source c

/-! ### Statements -/

/-- What stands against a statement as it is seen. A fault is not looked into. -/
def failure : Failure → Failure
  | .refused r => .refused (b.refusal r)
  | .fault _ => .fault default

def reading (r : Reading) : Reading where
  opening := r.opening
  warnings := r.warnings.map b.diagnostic
  outcome := (r.outcome.map b.command).mapError b.failure

/-- The reading of a text from its tokens. -/
def readTokens (text : String) (span : Span) : Except Failure (List Token) → Reading
  | .error failure => { outcome := .error failure }
  | .ok tokens =>
    let c := Cursor.ofTokens tokens
    match Command.Opening.of? c.tokens with
    | none => { outcome := .error (.refused ⟨.unknownStatement text, span, some text⟩) }
    | some opening =>
      let (warnings, result) := Command.readAfter text { c with pos := opening.phrase.length } opening
      { opening, warnings, outcome := result.mapError .refused }

theorem read_eq_readTokens (s : Statement) : s.read = readTokens s.text s.span s.tokens := by
  unfold Statement.read readTokens
  cases s.tokens <;> rfl

def tokens (x : Except Failure (List Token)) : Except Failure (List Token) :=
  (x.map (List.map b.token)).mapError b.failure

theorem opening_map (tokens : List Token) :
    Command.Opening.of? (tokens.map b.token) = Command.Opening.of? tokens := by
  simp only [Command.Opening.of?, Lead.opens_map b.form_token]

theorem readTokens_blur (text : String) (span : Span) (x : Except Failure (List Token)) :
    readTokens (b.text text) (b.span span) (b.tokens x) = b.reading (readTokens text span x) := by
  cases x with
  | error failure => rfl
  | ok tokens =>
    have hopening : Command.Opening.of? (b.cursor (Cursor.ofTokens tokens)).tokens =
        Command.Opening.of? (Cursor.ofTokens tokens).tokens := b.opening_map _
    have htokens : b.tokens (.ok tokens) = .ok (tokens.map b.token) := rfl
    simp only [htokens, readTokens, ofTokens_map, hopening]
    cases Command.Opening.of? (Cursor.ofTokens tokens).tokens with
    | none => rfl
    | some opening =>
      have hafter := b.readAfter_cursor text { Cursor.ofTokens tokens with pos := opening.phrase.length } opening
      have hcursor : b.cursor { Cursor.ofTokens tokens with pos := opening.phrase.length } =
          { b.cursor (Cursor.ofTokens tokens) with pos := opening.phrase.length } := rfl
      rw [hcursor] at hafter
      simp only [hafter, reading]
      cases (Command.readAfter text { Cursor.ofTokens tokens with pos := opening.phrase.length } opening).2 <;> rfl

/-- The blur does not tell the statements apart: neither their characters outside strings nor their places. -/
structure Matches (s s' : Statement) : Prop where
  outside : b.outside s.text.toList = b.outside s'.text.toList
  place : ∀ n, b.place (s.location n) = b.place (s'.location n)

variable {b}

namespace Matches
variable {s s' : Statement}

theorem text (h : b.Matches s s') : b.text s.text = b.text s'.text := by
  rw [← String.toList_inj, toList_text, toList_text, ← map_outside, h.outside, map_outside]

theorem span (h : b.Matches s s') : b.span s.span = b.span s'.span := by
  have hlength : s.text.length = s'.text.length := by
    rw [← b.length_text s.text, h.text, length_text]
  simp only [Blur.span, Statement.span, h.place, hlength]

theorem scan (h : b.Matches s s') : b.scan s.scan = b.scan s'.scan := by
  have hs : b.scan (s.scanFrom 0 (b.outside s.text.toList)) = b.scan s.scan :=
    scanFrom_outside (fun _ => rfl) 0 s.text.toList
  have hs' := scanFrom_outside h.place 0 s'.text.toList
  calc b.scan s.scan
    _ = b.scan (s.scanFrom 0 (b.outside s.text.toList)) := hs.symm
    _ = b.scan (s.scanFrom 0 (b.outside s'.text.toList)) := by rw [h.outside]
    _ = b.scan s'.scan := hs'

theorem tokens (h : b.Matches s s') : b.tokens s.tokens = b.tokens s'.tokens := by
  have hscan := h.scan
  have htext := h.text
  unfold Statement.tokens
  rcases hs : s.scan with ⟨found, ending⟩
  rcases hs' : s'.scan with ⟨found', ending'⟩
  rw [hs, hs'] at hscan
  obtain ⟨hfound, hending⟩ := Prod.mk.inj hscan
  cases ending with
  | complete last =>
    cases ending' with
    | complete last' =>
      have hlast : b.token last = b.token last' := ScanEnd.complete.inj hending
      have happend : (found ++ [last]).map b.token = (found' ++ [last']).map b.token := by
        simpa [hlast] using hfound
      exact congrArg Except.ok happend
    | _ => cases hending
  | openString span =>
    cases ending' with
    | openString span' =>
      have hspan : b.span span = b.span span' := ScanEnd.openString.inj hending
      have hrefused : b.refusal ⟨.openString, span, some s.text⟩ = b.refusal ⟨.openString, span', some s'.text⟩ := by
        simp only [refusal, hspan, Option.map_some, htext]
      exact congrArg (fun r => Except.error (Failure.refused r)) hrefused
    | _ => cases hending
  | badInteger lexeme =>
    cases ending' with
    | badInteger lexeme' => rfl
    | _ => cases hending

/-- Statements that are not told apart are read alike. -/
theorem reading (h : b.Matches s s') : b.reading s.read = b.reading s'.read := by
  rw [read_eq_readTokens, read_eq_readTokens, ← readTokens_blur, ← readTokens_blur, h.text, h.span, h.tokens]

end Matches
end Blur
end SceneScript
