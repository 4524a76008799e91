import SceneScript.Proofs.Accounting
import SceneScript.Proofs.Books
import SceneScript.Proofs.Isolation
import SceneScript.Proofs.Lossless

/-!
Messages take one line. What a message says beside its own words is taken from one statement: the spelling of a
token, a stretch of the text, or the lower case of a name. A statement is cut out of one physical line, and no
letter has a line feed for its lower case; so no message of a parse holds a line feed.
-/

namespace SceneScript

/-! ### Texts of one line -/

namespace Text

/-- The text does not go on on another line. -/
def Unbroken (s : String) : Prop := '\n' ∉ s.toList

instance (s : String) : Decidable (Unbroken s) := inferInstanceAs (Decidable (¬_))

@[simp] theorem unbroken_append {a b : String} : Unbroken (a ++ b) ↔ Unbroken a ∧ Unbroken b := by
  simp [Unbroken]

theorem unbroken_ofList {cs : List Char} (h : '\n' ∉ cs) : Unbroken (String.ofList cs) := by
  rwa [Unbroken, String.toList_ofList]

/-- The text stays on its line behind fixed words. -/
theorem Unbroken.behind {front : List Char} {s : String} (hfront : '\n' ∉ front) (h : Unbroken s) :
    Unbroken (String.ofList front ++ s) := unbroken_append.mpr ⟨unbroken_ofList hfront, h⟩

/-- The text stays on its line between fixed words. -/
theorem Unbroken.between {front back : List Char} {s : String} (hfront : '\n' ∉ front) (hback : '\n' ∉ back)
    (h : Unbroken s) : Unbroken (String.ofList front ++ s ++ String.ofList back) :=
  unbroken_append.mpr ⟨.behind hfront h, unbroken_ofList hback⟩

theorem Unbroken.slice {s : String} (h : Unbroken s) (start stop : Nat) : Unbroken (slice s start stop) := by
  intro hmem
  rw [Text.slice, String.toList_ofList] at hmem
  exact h (List.mem_of_mem_take (List.mem_of_mem_drop hmem))

@[simp] theorem unbroken_toString (n : Nat) : Unbroken (toString n) := by
  intro hmem
  rw [show toString n = String.ofList (Nat.toDigits 10 n) from rfl, String.toList_ofList] at hmem
  exact absurd (Nat.isDigit_of_mem_toDigits (by decide) (by decide) hmem) (by decide)

theorem eq_of_ofNat_eq_lineFeed {n : Nat} (h : Char.ofNat n = '\n') : n = '\n'.toNat := by
  by_cases hvalid : n.isValidChar
  · rw [← h, Char.ofNat, dif_pos hvalid]
    rfl
  · rw [Char.ofNat, dif_neg hvalid] at h
    exact absurd h (by decide)

/-- No other character has a line feed for its lower case. -/
theorem eq_lineFeed_of_mem_lowerChar {c : Char} (h : '\n' ∈ lowerChar c) : c = '\n' := by
  unfold lowerChar at h
  split at h
  · rename_i hascii
    have hall : ∀ n < 0x80, (Char.ofNat n).toLower = '\n' → Char.ofNat n = '\n' := by decide +kernel
    rw [← Char.ofNat_toNat c] at h ⊢
    exact hall c.toNat hascii (List.mem_singleton.mp h).symm
  · rename_i hlarge
    exfalso
    unfold mapCase at h
    split at h
    · rename_i codes hcodes
      obtain ⟨before, after, htable, -⟩ := List.lookup_eq_some_iff.mp hcodes
      have hall : ∀ p ∈ lowerExpansions, '\n' ∉ p.2.map Char.ofNat := by decide
      exact hall (c.toNat, codes) (by rw [htable]; exact List.mem_append_right before List.mem_cons_self) h
    · have hshift := eq_of_ofNat_eq_lineFeed (List.mem_singleton.mp h).symm
      have hfeed : '\n'.toNat < 0x80 := by decide
      unfold shiftBy at hshift
      split at hshift
      · rename_i first last step shift hrow
        have hall : ∀ r ∈ lowerRows, (0x40 : Int) < r.1 + r.2.2.2 := by decide +kernel
        have hreach := hall _ (List.mem_of_find?_eq_some hrow)
        have hrange := List.find?_some hrow
        simp only [Bool.and_eq_true, decide_eq_true_eq] at hrange hreach
        have hten : '\n'.toNat = 10 := rfl
        omega
      · omega

theorem Unbroken.lower {s : String} (h : Unbroken s) : Unbroken (lower s) := by
  have hfrom : ∀ {before cs : List Char}, '\n' ∈ lowerFrom before cs → '\n' ∈ cs := by
    intro before cs hmem
    induction cs generalizing before with
    | nil => exact hmem
    | cons c rest ih =>
      rw [lowerFrom] at hmem
      rcases List.mem_append.mp hmem with hc | hrest
      · split at hc
        · split at hc <;> exact absurd hc (by decide)
        · rw [eq_lineFeed_of_mem_lowerChar hc]
          exact List.mem_cons_self
      · exact List.mem_cons_of_mem c (ih hrest)
  intro hmem
  rw [Text.lower, String.toList_ofList] at hmem
  exact h (hfrom hmem)

end Text

open Text

/-! ### What messages are made of -/

/-- The texts that the cause holds. -/
def Rejection.texts : Rejection → List String
  | .openString | .updateWithoutAttributes | .positionWithoutPlace => []
  | .unknownStatement text | .drawWithoutEntity text | .loadWithoutName text | .environmentWithoutName text
  | .updateWithoutEntity text | .updateWithoutWith text | .exportWithoutAs text | .exportWithoutFormat text
  | .exportUnexpected text | .exportResolution text | .exportQuality text | .exportDensity text | .noPosition text
  | .positionWithoutTarget text => [text]

theorem Rejection.unbroken_message {cause : Rejection} (h : ∀ text ∈ cause.texts, Unbroken text) :
    Unbroken cause.message := by
  cases cause with
  | unknownStatement text => exact .behind (by decide) ((h text List.mem_cons_self).slice 0 50)
  | openString | updateWithoutAttributes | positionWithoutPlace => exact unbroken_ofList (by decide)
  | noPosition lexeme => exact .between (by decide) (by decide) (h lexeme List.mem_cons_self)
  | _ text => exact .behind (by decide) (h text List.mem_cons_self)

/-- The texts that the warning holds. -/
def Warning.texts : Warning → List String
  | .unresolvedTarget entity target => [entity, target]
  | .unknownExtension text | .noSuchEntity text | .unknownOption text | .unknownPosition text => [text]

theorem Warning.unbroken_message {w : Warning} (h : ∀ text ∈ w.texts, Unbroken text) : Unbroken w.message := by
  cases w with
  | unresolvedTarget entity target =>
    obtain ⟨hentity, htarget, -⟩ := List.forall_mem_cons.mp h |>.imp_right List.forall_mem_cons.mp
    exact unbroken_append.mpr ⟨.between (by decide) (by decide) htarget, hentity⟩
  | noSuchEntity reference => exact .between (by decide) (by decide) (h reference List.mem_cons_self)
  | _ name => exact .between (by decide) (by decide) (h name List.mem_cons_self)

/-- All of the diagnostic beside the statement that it quotes takes one line each. -/
structure Diagnostic.Unbroken (d : Diagnostic) : Prop where
  code : Text.Unbroken d.code
  message : Text.Unbroken d.message
  hints : ∀ hint ∈ d.hints, Text.Unbroken hint

theorem Refusal.unbroken_diagnostic {r : Refusal} (h : ∀ text ∈ r.cause.texts, Unbroken text) :
    r.diagnostic.Unbroken := by
  have hcode : Unbroken r.cause.code := by
    unfold Rejection.code
    split <;> exact unbroken_ofList (by decide)
  have hhints : ∀ hint ∈ r.cause.hints, Unbroken hint := by
    unfold Rejection.hints
    split <;> decide +kernel
  exact ⟨hcode, Rejection.unbroken_message h, hhints⟩

theorem Warning.unbroken_diagnostic {w : Warning} (h : ∀ text ∈ w.texts, Unbroken text) (span : Span)
    (sourceLine : Option String) : (w.diagnostic span sourceLine).Unbroken := by
  have hcode : Unbroken w.code := by
    unfold Warning.code
    split <;> exact unbroken_ofList (by decide)
  have hhints : ∀ hint ∈ w.hints, Unbroken hint := by
    unfold Warning.hints
    split <;> decide +kernel
  exact ⟨hcode, Warning.unbroken_message h, hhints⟩

/-! ### Tokens -/

/-- The spelling of the token stays on one line. -/
def Token.Unbroken (t : Token) : Prop := Text.Unbroken t.lexeme

theorem Token.Unbroken.describe {t : Token} (h : t.Unbroken) : Text.Unbroken t.describe := by
  unfold Token.describe
  split
  · decide
  · exact Text.Unbroken.between (by decide) (by decide) h

/-- Every token that the cursor can show is spelled on one line. -/
structure Cursor.Unbroken (c : Cursor) : Prop where
  tokens : ∀ t ∈ c.tokens, t.Unbroken
  last : c.last.Unbroken

namespace Cursor.Unbroken

variable {c : Cursor}

theorem current (h : c.Unbroken) : c.current.Unbroken := by
  unfold Cursor.current Cursor.peek
  cases ht : c.tokens[c.pos + 0]? with
  | none => exact h.last
  | some t => exact h.tokens t (List.mem_of_getElem? ht)

theorem advance (h : c.Unbroken) : c.advance.Unbroken := by
  unfold Cursor.advance
  split
  · exact h
  · exact ⟨h.tokens, h.last⟩

theorem rest (h : c.Unbroken) : ∀ t ∈ c.rest, t.Unbroken := fun t ht => h.tokens t (List.mem_of_mem_drop ht)

theorem matchWord {words : List String} {found : Option Token} {c' : Cursor} (h : c.Unbroken)
    (hmatch : c.matchWord words = (found, c')) : c'.Unbroken := by
  unfold Cursor.matchWord Cursor.matchIf at hmatch
  split at hmatch
  · cases hmatch
    exact h.advance
  · cases hmatch
    exact h

theorem ofTokens {tokens : List Token} (h : ∀ t ∈ tokens, t.Unbroken) : (Cursor.ofTokens tokens).Unbroken := by
  have hmade : ∀ l : Location, (Token.endAt l).Unbroken := fun _ => (by decide : Text.Unbroken "")
  unfold Cursor.ofTokens
  split
  · rename_i t ht
    split
    · exact ⟨fun u hu => h u (List.dropLast_subset tokens hu), h t (List.mem_of_getLast? ht)⟩
    · exact ⟨h, hmade _⟩
  · exact ⟨h, hmade _⟩

end Cursor.Unbroken

theorem Token.unbroken_textOf {source : String} {tokens : List Token} (hsource : Text.Unbroken source)
    (h : ∀ t ∈ tokens, t.Unbroken) : Text.Unbroken (Token.textOf source tokens) := by
  have hjoined : ∀ {tokens : List Token}, (∀ t ∈ tokens, t.Unbroken) →
      Text.Unbroken (" ".intercalate (tokens.map (·.lexeme))) := by
    intro tokens h
    induction tokens with
    | nil => decide
    | cons t rest ih =>
      obtain ⟨ht, hrest⟩ := List.forall_mem_cons.mp h
      cases rest with
      | nil =>
        rw [List.map_singleton, String.intercalate_singleton]
        exact ht
      | cons u more =>
        rw [List.map_cons, List.map_cons, String.intercalate_cons_cons]
        exact unbroken_append.mpr ⟨unbroken_append.mpr ⟨ht, by decide⟩, ih hrest⟩
  unfold Token.textOf
  split
  · split
    · exact hjoined h
    · exact hsource.slice _ _
  · decide

/-! ### Results of reading -/

/-- Reading comes to a result that satisfies `p`, or to a refusal whose texts take one line each. -/
def Answers {α : Type} (x : Except Refusal α) (p : α → Prop) : Prop :=
  match x with
  | .ok a => p a
  | .error r => ∀ text ∈ r.cause.texts, Unbroken text

namespace Answers

variable {α β : Type} {p : α → Prop} {q : β → Prop}

theorem bind {x : Except Refusal α} {f : α → Except Refusal β} (h : Answers x p) (hf : ∀ a, p a → Answers (f a) q) :
    Answers (x >>= f) q := by
  cases x with
  | error r => exact h
  | ok a => exact hf a h

theorem map {x : Except Refusal α} {f : α → β} (h : Answers x p) (hf : ∀ a, p a → q (f a)) :
    Answers (x.map f) q := by
  cases x with
  | error r => exact h
  | ok a => exact hf a h

end Answers

/-! ### Positions -/

namespace Position

/-- The texts of a position and of the warning about its clause take one line each. -/
structure Placed.Unbroken (placed : Placed) : Prop where
  target : ∀ target ∈ placed.position.relativeTo, Text.Unbroken target
  warning : ∀ w ∈ placed.warning, w.Unbroken

variable {source : String} {tokens : List Token}

theorem mem_of_splitDistance {t : Token} (h : t ∈ (splitDistance tokens).1) : t ∈ tokens := by
  unfold splitDistance at h
  split at h
  · rename_i n lexeme span second first before hreverse
    split at h
    · have hbefore : t ∈ tokens.reverse := by
        rw [hreverse]
        exact List.mem_cons_of_mem _ (List.mem_cons_of_mem _ (List.mem_cons_of_mem _ (List.mem_reverse.mp h)))
      exact List.mem_reverse.mp hbefore
    · exact h
  · exact h

theorem ofLead_answers (hsource : Text.Unbroken source) (h : ∀ t ∈ tokens, t.Unbroken) (lead : Lead) (span : Span) :
    Answers (ofLead source lead span tokens) (·.Unbroken) := by
  cases lead with
  | «at» =>
    simp only [ofLead]
    split
    · intro _ htext
      cases htext
    · split
      · rename_i p hp
        exact ⟨by simp [(isAbsolute_of_place? hp).relativeTo], by simp⟩
      · refine ⟨by simp, fun w hw => ?_⟩
        cases hw
        exact Warning.unbroken_diagnostic (w := .unknownPosition _)
          (List.forall_mem_singleton.mpr (Token.unbroken_textOf hsource h)) _ _
  | relation r =>
    simp only [ofLead]
    split
    · refine List.forall_mem_singleton.mpr ?_
      cases r <;> decide
    · refine ⟨fun target htarget => ?_, by simp⟩
      cases htarget
      exact Token.unbroken_textOf hsource fun t ht => h t (mem_of_splitDistance ht)

theorem ofTokens_answers (hsource : Text.Unbroken source) (h : ∀ t ∈ tokens, t.Unbroken) :
    Answers (ofTokens source tokens) (·.Unbroken) := by
  have hcursor := Cursor.Unbroken.ofTokens h
  simp only [ofTokens]
  split
  · exact List.forall_mem_singleton.mpr hcursor.current
  · exact ofLead_answers hsource (fun t ht => hcursor.tokens t (List.mem_of_mem_drop ht)) _ _

end Position

/-! ### Commands -/

namespace Command

/-- The texts of the command that messages repeat take one line each. -/
def Unbroken : Command → Prop
  | .load name => name.Unbroken
  | .environment _ => True
  | .draw _ _ placed => placed.Unbroken
  | .update reference _ => reference.Unbroken
  | .exportAs _ => True

variable {source : String} {c : Cursor}

theorem expectWord_answers {rejection : String → Rejection} (h : c.Unbroken)
    (hrejection : ∀ found, (rejection found).texts = [found]) :
    Answers (expectWord rejection source c) (·.Unbroken) := by
  unfold expectWord
  split
  · exact h.current
  · intro text htext
    rw [hrejection] at htext
    rw [List.mem_singleton.mp htext]
    exact h.current.describe

theorem entityKeyword_answers (h : c.Unbroken) :
    Answers (entityKeyword source c) fun p => ∀ t ∈ p.2, t.Unbroken := by
  refine (expectWord_answers h fun _ => rfl).bind fun first _ => ?_
  split
  · exact h.rest
  · have hrest := h.advance.rest
    simp only
    split
    · rename_i kind more hmore
      split
      · exact fun t ht => hrest t (by rw [hmore]; exact List.mem_cons_of_mem kind ht)
      · exact hrest
    · exact hrest

theorem readDraw_answers (hsource : Text.Unbroken source) (h : c.Unbroken) :
    Answers (readDraw source c) (·.Unbroken) := by
  refine (entityKeyword_answers h).bind fun p hrest => ?_
  obtain ⟨keyword, rest⟩ := p
  simp only
  split
  · exact ⟨by simp, by simp⟩
  · rename_i n _
    exact (Position.ofTokens_answers hsource fun t ht => hrest t (List.mem_of_mem_drop ht)).bind
      fun _ hplaced => hplaced

theorem readUpdate_answers (h : c.Unbroken) : Answers (readUpdate source c) (·.Unbroken) := by
  refine (expectWord_answers h fun _ => rfl).bind fun reference hreference => ?_
  split
  · rename_i after hnone
    exact List.forall_mem_singleton.mpr (h.advance.matchWord hnone).current.describe
  · split
    · exact fun _ htext => nomatch htext
    · exact hreference

namespace Export

variable {f : Frame}

theorem refuse_answers {α : Type} {p : α → Prop} {rejection : String → Rejection} {t : Token} (ht : t.Unbroken)
    (hrejection : ∀ found, (rejection found).texts = [found]) : Answers (f.refuse rejection t) p := by
  intro text htext
  rw [hrejection] at htext
  rw [List.mem_singleton.mp htext]
  exact ht.describe

theorem setOption_answers {value : Token} (hvalue : value.Unbroken) (word : String) (options : ExportOptions) :
    Answers (setOption f word value options) fun _ => True := by
  unfold setOption
  split
  · split
    · trivial
    · exact refuse_answers hvalue fun _ => rfl
  · split
    · split
      · trivial
      · exact refuse_answers hvalue fun _ => rfl
    · split
      · trivial
      · exact refuse_answers hvalue fun _ => rfl

theorem front_unbroken {tokens : List Token} (hlast : f.last.Unbroken) (h : ∀ t ∈ tokens, t.Unbroken) :
    (f.front tokens).Unbroken := by
  unfold Frame.front
  cases tokens with
  | nil => exact hlast
  | cons t rest => exact h t List.mem_cons_self

theorem mem_of_dropColon {hasColon : Bool} {t : Token} {rest rest' : List Token}
    (hdrop : dropColon rest = (hasColon, rest')) (ht : t ∈ rest') : t ∈ rest := by
  unfold dropColon at hdrop
  split at hdrop
  · cases hdrop
    exact ht
  · split at hdrop
    · cases hdrop
      exact List.mem_cons_of_mem _ ht
    · cases hdrop
      exact ht

theorem mem_of_dropValue {hasColon : Bool} {t : Token} {tokens : List Token} (ht : t ∈ dropValue hasColon tokens) :
    t ∈ tokens := by
  unfold dropValue at ht
  split at ht
  · exact ht
  · exact List.mem_of_mem_drop ht

theorem readOptions_answers {options : ExportOptions} {tokens : List Token} (hlast : f.last.Unbroken)
    (h : ∀ t ∈ tokens, t.Unbroken) :
    (∀ w ∈ (readOptions f options tokens).1, w.Unbroken) ∧
      Answers (readOptions f options tokens).2 fun _ => True := by
  fun_induction readOptions f options tokens with
  | case1 => exact ⟨by simp, trivial⟩
  | case2 options t rest _ ih => exact ih fun u hu => h u (List.mem_cons_of_mem t hu)
  | case3 options t rest => exact ⟨by simp, refuse_answers (h t List.mem_cons_self) fun _ => rfl⟩
  | case4 options t rest _ _ hasColon rest' hdrop _ _ r hset =>
    have hrest' : ∀ u ∈ rest', u.Unbroken := fun u hu => h u (List.mem_cons_of_mem t (mem_of_dropColon hdrop hu))
    have hanswers := setOption_answers (f := f) (front_unbroken hlast hrest') t.wordText options
    rw [hset] at hanswers
    exact ⟨by simp, hanswers⟩
  | case5 options t rest _ _ hasColon rest' hdrop _ _ options' _ ih =>
    exact ih fun u hu => h u (List.mem_cons_of_mem t (mem_of_dropColon hdrop (List.mem_of_mem_drop hu)))
  | case6 options t rest _ _ hasColon rest' hdrop _ _ _ warning warnings result hread ih =>
    rw [hread] at ih
    obtain ⟨hwarnings, hresult⟩ := ih fun u hu =>
      h u (List.mem_cons_of_mem t (mem_of_dropColon hdrop (mem_of_dropValue hu)))
    refine ⟨fun w hw => ?_, hresult⟩
    rcases List.mem_cons.mp hw with rfl | hw
    · exact Warning.unbroken_diagnostic (w := .unknownOption _)
        (List.forall_mem_singleton.mpr (h t List.mem_cons_self)) _ _
    · exact hwarnings w hw

theorem read_answers (h : c.Unbroken) :
    (∀ w ∈ (read source c).1, w.Unbroken) ∧ Answers (read source c).2 (·.Unbroken) := by
  unfold read
  split
  · rename_i after hnone
    exact ⟨by simp, refuse_answers (h.matchWord hnone).current fun _ => rfl⟩
  · rename_i as after hsome
    have hafter := h.matchWord hsome
    split
    · rename_i last hnone
      exact ⟨by simp, refuse_answers (hafter.matchWord hnone).current fun _ => rfl⟩
    · rename_i format last hformat
      obtain ⟨hwarnings, hresult⟩ := readOptions_answers (f := ⟨source, c.last⟩) h.last (hafter.matchWord hformat).rest
      exact ⟨hwarnings, hresult.map fun _ _ => trivial⟩

end Export

theorem readAfter_answers (hsource : Text.Unbroken source) (h : c.Unbroken) (opening : Opening) :
    (∀ w ∈ (readAfter source c opening).1, w.Unbroken) ∧
      Answers (readAfter source c opening).2 (·.Unbroken) := by
  cases opening with
  | load => exact ⟨by simp [readAfter], (expectWord_answers h fun _ => rfl).map fun _ hname => hname⟩
  | environment => exact ⟨by simp [readAfter], (expectWord_answers h fun _ => rfl).map fun _ _ => trivial⟩
  | draw => exact ⟨by simp [readAfter], readDraw_answers hsource h⟩
  | update => exact ⟨by simp [readAfter], readUpdate_answers h⟩
  | exportAs => exact Export.read_answers h

end Command

/-! ### Statements -/

namespace Statement

variable {s : Statement}

theorem unbroken_of_mem_ofSource {source : String} {filename : Option String} (h : s ∈ ofSource source filename) :
    Text.Unbroken s.text := by
  obtain ⟨i, line, hline, -, -, before, after, rfl, -⟩ := exists_line_of_mem_ofLines h
  have hunbroken := not_mem_of_mem_splitAt (List.mem_of_getElem? hline)
  exact fun hmem => hunbroken (List.mem_append_left after (List.mem_append_right before hmem))

theorem unbroken_of_mem_scan (h : Text.Unbroken s.text) : ∀ t ∈ s.scan.1, t.Unbroken := by
  intro t ht
  obtain ⟨-, start, stop, -, -, -, hlexeme⟩ := spells_of_mem_scan ht
  rw [Token.Unbroken, hlexeme]
  exact h.slice start stop

/-- The texts that come of reading a statement of one line take one line each. -/
theorem read_unbroken (h : Text.Unbroken s.text) :
    (∀ w ∈ s.read.warnings, w.Unbroken) ∧
      (∀ r, s.read.outcome = .error (.refused r) → r.diagnostic.Unbroken) ∧
      ∀ command, s.read.outcome = .ok command → command.Unbroken := by
  unfold read
  split
  · rename_i failure hfailure
    refine ⟨by simp, fun r hr => ?_, by simp⟩
    cases hr
    unfold Statement.tokens at hfailure
    split at hfailure
    · cases hfailure
    · cases hfailure
      exact Refusal.unbroken_diagnostic fun _ htext => nomatch htext
    · cases hfailure
  · rename_i tokens htokens
    obtain ⟨rfl, -⟩ := tokens_eq_ok htokens
    have hcursor : (Cursor.ofTokens (s.scan.1 ++ [.endAt (s.location s.text.length)])).Unbroken := by
      rw [Cursor.ofTokens_append_endAt]
      exact ⟨unbroken_of_mem_scan h, (by decide : Text.Unbroken "")⟩
    simp only
    split
    · refine ⟨by simp, fun r hr => ?_, by simp⟩
      cases hr
      exact Refusal.unbroken_diagnostic (List.forall_mem_singleton.mpr h)
    · rename_i opening _
      have hmoved : Cursor.Unbroken
          { Cursor.ofTokens (s.scan.1 ++ [.endAt (s.location s.text.length)]) with pos := opening.phrase.length } :=
        ⟨hcursor.tokens, hcursor.last⟩
      obtain ⟨hwarnings, hresult⟩ := Command.readAfter_answers h hmoved opening
      refine ⟨hwarnings, fun r hr => ?_, fun command hcommand => ?_⟩
      · obtain ⟨r', hr', heq⟩ := mapError_eq_error.mp hr
        cases heq
        rw [hr'] at hresult
        exact Refusal.unbroken_diagnostic hresult
      · rw [mapError_eq_ok.mp hcommand] at hresult
        exact hresult

end Statement

/-! ### Runs -/

/-- The texts of the entity that messages repeat take one line each. -/
def Entity.Unbroken (e : Entity) : Prop :=
  Text.Unbroken e.id ∧ ∀ target ∈ e.position.relativeTo, Text.Unbroken target

namespace Context

variable {c c' : Context} {s : Statement}

/-- The diagnostics so far take one line each, and so will those about the entities. -/
structure Unbroken (c : Context) : Prop where
  diagnostics : ∀ d ∈ c.diagnostics, d.Unbroken
  entities : ∀ e ∈ c.scene.entities, e.Unbroken

namespace Unbroken

theorem warn {d : Diagnostic} (h : c.Unbroken) (hd : d.Unbroken) : (c.warn d).Unbroken :=
  ⟨List.forall_mem_append.mpr ⟨h.diagnostics, List.forall_mem_singleton.mpr hd⟩, h.entities⟩

theorem load {name : Token} (h : c.Unbroken) (hname : name.Unbroken) (source : String) :
    (c.load source name).Unbroken := by
  have hloaded : (c.loadExtension (Text.lower name.lexeme)).Unbroken := by
    unfold loadExtension
    split
    · exact h
    · exact ⟨h.diagnostics, h.entities⟩
  simp only [Context.load]
  split
  · exact hloaded
  · exact hloaded.warn (Warning.unbroken_diagnostic (w := .unknownExtension _)
      (List.forall_mem_singleton.mpr (Text.Unbroken.lower hname)) _ _)

theorem draw {keyword : String} {clauses : List Token} {placed : Position.Placed} (h : c.Unbroken)
    (hplaced : placed.Unbroken) (hdrawn : c.draw s keyword clauses placed = .ok c') : c'.Unbroken := by
  obtain ⟨_, _, -, -, -, rfl⟩ := draw_eq_ok hdrawn
  have hid : Text.Unbroken c.nextId := .behind (by decide) (unbroken_toString _)
  refine ⟨List.forall_mem_append.mpr ⟨h.diagnostics, fun w hw => ?_⟩,
    List.forall_mem_append.mpr ⟨h.entities, List.forall_mem_singleton.mpr ⟨hid, hplaced.target⟩⟩⟩
  exact hplaced.warning w (Option.mem_toList.mp hw)

theorem update {reference : Token} {clauses : List Token} (h : c.Unbroken) (hreference : reference.Unbroken)
    (hupdated : c.update s reference clauses = .ok c') : c'.Unbroken := by
  rcases update_eq_ok hupdated with ⟨-, rfl⟩ | ⟨_, stated, -, -, rfl⟩
  · exact h.warn (Warning.unbroken_diagnostic (w := .noSuchEntity _) (List.forall_mem_singleton.mpr hreference) _ _)
  · refine ⟨h.diagnostics, fun e he => ?_⟩
    have houtline := List.mem_map_of_mem (f := Entity.outline) he
    rw [Scene.map_outline_updateFirst (f := fun e => Assoc.merge e.attributes stated)] at houtline
    obtain ⟨e₀, he₀, heq⟩ := List.mem_map.mp houtline
    have hid := congrArg Entity.id heq
    have hposition := congrArg Entity.position heq
    obtain ⟨hid₀, htarget₀⟩ := h.entities e₀ he₀
    exact ⟨hid ▸ hid₀, hposition ▸ htarget₀⟩

theorem carryOut {command : Command} (h : c.Unbroken) (hcommand : command.Unbroken)
    (hcarried : c.carryOut s command = .ok c') : c'.Unbroken := by
  cases command with
  | load name =>
    cases hcarried
    exact h.load hcommand s.text
  | environment name =>
    cases hcarried
    exact ⟨h.diagnostics, h.entities⟩
  | draw keyword clauses placed => exact h.draw hcommand hcarried
  | update reference clauses => exact h.update hcommand hcarried
  | exportAs options =>
    cases hcarried
    exact ⟨h.diagnostics, h.entities⟩

theorem step (h : c.Unbroken) (hs : Text.Unbroken s.text) (hstep : c.step s = .ok c') : c'.Unbroken := by
  obtain ⟨⟨d, o⟩, hd, rfl⟩ := step_eq_ok.mp hstep
  obtain ⟨hwarnings, hrefused, hread⟩ := Statement.read_unbroken hs
  have hbegun : (c.begin s s.read).Unbroken :=
    ⟨List.forall_mem_append.mpr ⟨h.diagnostics, hwarnings⟩, h.entities⟩
  rcases attempt_cases hd with ⟨command, hcommand, hcarried, rfl⟩ | ⟨r, hr, rfl, rfl⟩
  · exact hbegun.carryOut (hread command hcommand) hcarried
  · have hnoted : ((c.begin s s.read).note (.statementRefused s.line r.diagnostic.message)).Unbroken :=
      ⟨hbegun.diagnostics, hbegun.entities⟩
    exact hnoted.warn (hrefused r hr)

theorem run {statements : List Statement} (h : c.Unbroken) (hs : ∀ s ∈ statements, Text.Unbroken s.text)
    (hrun : c.run statements = .ok c') : c'.Unbroken := by
  induction statements generalizing c with
  | nil =>
    cases hrun
    exact h
  | cons s statements ih =>
    obtain ⟨d, hd, hrun⟩ := bind_eq_ok.mp hrun
    obtain ⟨hfirst, hrest⟩ := List.forall_mem_cons.mp hs
    exact ih (h.step hfirst hd) hrest hrun

theorem lost (h : c.Unbroken) : ∀ d ∈ c.lost, d.Unbroken := by
  intro d hd
  obtain ⟨e, he, rfl⟩ := List.mem_map.mp hd
  obtain ⟨hid, htarget⟩ := h.entities e (List.mem_filter.mp he).1
  have hname : Text.Unbroken (e.position.relativeTo.getD "None") := by
    cases hto : e.position.relativeTo with
    | none => decide
    | some target => exact htarget target hto
  have hwarning : ∀ span sourceLine,
      ((Warning.unresolvedTarget e.id (e.position.relativeTo.getD "None")).diagnostic span sourceLine).Unbroken :=
    Warning.unbroken_diagnostic (List.forall_mem_cons.mpr ⟨hid, List.forall_mem_singleton.mpr hname⟩)
  unfold Resolution.unresolved
  split <;> exact hwarning _ _

end Unbroken

end Context

/-- What every diagnostic of a parse says takes one line, and so does each of its hints. -/
theorem unbroken_of_readSource {v : Vocabulary} {strict : Bool} {source : String} {filename : Option String}
    {r : Result} (h : readSource v strict source filename = .ok r) : ∀ d ∈ r.diagnostics, d.Unbroken := by
  obtain ⟨c, hc, -, hdiagnostics⟩ := diagnostics_readSource h
  have hstart : Context.Unbroken { vocabulary := v, strict } := ⟨by simp, by simp⟩
  have hrun := hstart.run (fun s hs => Statement.unbroken_of_mem_ofSource hs) hc
  rw [hdiagnostics]
  refine List.forall_mem_append.mpr ⟨hrun.diagnostics, ?_⟩
  split
  · exact hrun.lost
  · simp

end SceneScript
