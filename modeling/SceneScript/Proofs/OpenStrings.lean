import SceneScript.Proofs.Drawing

/-!
Strings without an end. No lexeme depends on what stands behind the quote of a later string; so a scan of the
whole text passes the text before a quote as a scan of that part alone does. It ends there exactly if the quote
does not come again, and that happens at one offset at most.
-/

namespace SceneScript

namespace Token

theorem meetsWord_of_append {rest more : List Char} (h : meetsWord rest = true) : meetsWord (rest ++ more) = true := by
  cases rest with
  | nil => cases h
  | cons c rest => exact h

theorem meetsWord_append_eq_false {rest more : List Char} (h : meetsWord (rest ++ more) = false) :
    meetsWord rest = false := by
  refine Bool.eq_false_iff.mpr fun hword => ?_
  rw [meetsWord_of_append hword] at h
  cases h

theorem Numeral.StopsAt.of_append {n : Numeral} {rest more : List Char} (h : n.StopsAt (rest ++ more)) :
    n.StopsAt rest := by
  refine ⟨h.formed, fun c hc => h.digit c ?_, fun hn => ?_⟩
  · cases rest with
    | nil => cases hc
    | cons d rest => exact hc
  · rintro ⟨c, d, after, rfl, hc, hd⟩
    exact h.integer hn ⟨c, d, after ++ more, rfl, hc, hd⟩

/-- A lexeme stays one when the text is cut off somewhere behind it. -/
theorem Lexeme.of_append {form : Form} {lexeme rest more : List Char} (h : Lexeme form lexeme (rest ++ more)) :
    Lexeme form lexeme rest := by
  cases h with
  | string hq hbody => exact .string hq hbody
  | numeral hwhole hstops hmeets => exact .numeral hwhole hstops.of_append fun hword => hmeets (meetsWord_of_append hword)
  | ledByDigit hwhole hstops hne hmore hrest =>
    rw [← List.append_assoc] at hstops
    exact .ledByDigit hwhole hstops.of_append hne hmore (meetsWord_append_eq_false hrest)
  | word hstart hmore hrest => exact .word hstart hmore (meetsWord_append_eq_false hrest)
  | color hdigits hrest => exact .color hdigits (meetsWord_append_eq_false hrest)
  | hash hmore hrest hcolor => exact .hash hmore (meetsWord_append_eq_false hrest) hcolor
  | mark hquote hdigit hstart hhash hsign =>
    refine .mark hquote hdigit hstart hhash fun hc d hd => hsign hc d ?_
    cases rest with
    | nil => cases hd
    | cons e rest => exact hd

theorem isGap_of_isQuote {q : Char} (h : IsQuote q) : Text.isGap q = false := by
  rcases h with rfl | rfl <;> decide

/-- No lexeme goes on with a quote. -/
theorem ends_quote {q : Char} (h : IsQuote q) (cs : List Char) : Ends (q :: cs) := by
  intro c hc
  cases hc
  rcases h with rfl | rfl <;> decide

end Token

namespace Statement
open Token

variable {s : Statement} {offset : Nat} {cs : List Char}

/-- A scan goes on behind a part that it comes to the end of. -/
theorem Scans.scanFrom_append {tokens : List Token} {more : List Char} (h : s.Scans offset cs tokens)
    (hends : Ends more) :
    s.scanFrom offset (cs ++ more) = (tokens ++ (s.scanFrom (offset + cs.length) more).1,
      (s.scanFrom (offset + cs.length) more).2) := by
  induction h with
  | nil => rfl
  | @gap offset c cs tokens hgap _ ih =>
    rw [List.cons_append, scanFrom, if_pos hgap, ih, List.length_cons, Nat.add_right_comm, Nat.add_assoc]
  | @lexeme offset form c cs rest tokens hgap hlexeme _ ih =>
    rw [List.append_assoc, scanFrom_lexeme s _ hgap (hlexeme.append hends), ih, List.length_append, Nat.add_assoc]
    rfl

/-- The scan stops in a string: what comes before its quote is scanned to the end, and the quote is the last of
    its kind. -/
theorem scanFrom_openString {span : Span} (h : (s.scanFrom offset cs).2 = .openString span) :
    ∃ before q after tokens, cs = before ++ q :: after ∧ s.Scans offset before tokens ∧ IsQuote q ∧ q ∉ after ∧
      span = ⟨s.location (offset + before.length), s.location (offset + cs.length)⟩ := by
  fun_induction scanFrom s offset cs with
  | case1 => cases h
  | case2 offset c rest hgap ih =>
    obtain ⟨before, q, after, tokens, rfl, hscans, hquote, hlast, hspan⟩ := ih h
    refine ⟨c :: before, q, after, tokens, rfl, .gap hgap hscans, hquote, hlast, ?_⟩
    rw [hspan, List.length_cons, List.length_cons, Nat.add_right_comm, Nat.add_assoc, Nat.add_right_comm offset,
      Nat.add_assoc]
  | case3 offset c rest _ herror =>
    cases h
    rcases scanPiece_error herror with ⟨-, hquote, hlast⟩ | ⟨⟨_, hbad⟩, -⟩
    · exact ⟨[], c, rest, [], rfl, .nil, hquote, hlast, rfl⟩
    · cases hbad
  | case4 => cases h
  | case5 offset c rest hgap piece hpiece stop token tokens ending hscan ih =>
    rw [hscan] at ih
    obtain ⟨before, q, after, tokens, hrest, hscans, hquote, hlast, hspan⟩ := ih h
    obtain ⟨d, lexeme, hlexeme⟩ := List.exists_cons_of_ne_nil piece.ne_nil
    have hchars := piece.append_eq
    have hreads := lexeme_of_scanPiece hpiece
    simp only [stop, hlexeme, hrest] at hchars hreads hscans hspan
    obtain ⟨rfl, -⟩ := List.cons.inj hchars
    refine ⟨d :: lexeme ++ before, q, after, _, ?_, .lexeme (by simpa using hgap) hreads.of_append hscans, hquote,
      hlast, ?_⟩
    · rw [List.append_assoc, hchars]
    · rw [hspan, ← hchars]
      simp only [List.length_append, Nat.add_assoc]

theorem scanFrom_open {q : Char} {after : List Char} (hquote : IsQuote q) (hlast : q ∉ after) :
    s.scanFrom offset (q :: after) =
      ([], .openString ⟨s.location offset, s.location (offset + (q :: after).length)⟩) := by
  rw [scanFrom, if_neg (by simp [isGap_of_isQuote hquote]), scanPiece_open hquote hlast]

theorem tokens_eq_refused {r : Refusal} :
    s.tokens = .error (.refused r) ↔ ∃ span, s.scan.2 = .openString span ∧ r = ⟨.openString, span, some s.text⟩ := by
  unfold Statement.tokens
  constructor
  · intro h
    split at h
    · cases h
    · rename_i span hscan
      cases h
      exact ⟨span, by rw [hscan], rfl⟩
    · cases h
  · rintro ⟨span, hscan, rfl⟩
    split
    · rename_i hcomplete
      rw [hcomplete] at hscan
      cases hscan
    · rename_i hopen
      rw [hopen] at hscan
      cases hscan
      rfl
    · rename_i hbad
      rw [hbad] at hscan
      cases hscan

/-- The part of the statement before an offset. -/
def upTo (s : Statement) (offset : Nat) : Statement := { s with text := String.ofList (s.text.toList.take offset) }

/-- At the offset stands a quote that does not come again, and the part before it has all its tokens. -/
structure OpensAt (s : Statement) (offset : Nat) : Prop where
  tokens : ∃ tokens, (s.upTo offset).tokens = .ok tokens
  quote : ∃ q, s.text.toList[offset]? = some q ∧ IsQuote q ∧ q ∉ s.text.toList.drop (offset + 1)

theorem OpensAt.scan_eq (h : s.OpensAt offset) :
    s.scan.2 = .openString ⟨s.location offset, s.location s.text.length⟩ := by
  obtain ⟨⟨tokens, htokens⟩, q, hq, hquote, hlast⟩ := h
  obtain ⟨hlt, hget⟩ := List.getElem?_eq_some_iff.mp hq
  have hsplit : s.text.toList = s.text.toList.take offset ++ q :: s.text.toList.drop (offset + 1) := by
    rw [← hget, List.getElem_cons_drop, List.take_append_drop]
  have hlength : (s.text.toList.take offset).length = offset := by
    rw [List.length_take]
    omega
  obtain ⟨-, hcomplete⟩ := tokens_eq_ok htokens
  have hbefore := (scans_of_complete hcomplete).place s 0
  rw [upTo, String.toList_ofList, Nat.add_zero] at hbefore
  have hscan := hbefore.scanFrom_append (ends_quote hquote (s.text.toList.drop (offset + 1)))
  rw [hlength, Nat.zero_add, scanFrom_open hquote hlast, ← hsplit] at hscan
  have hend : offset + (q :: s.text.toList.drop (offset + 1)).length = s.text.length := by
    rw [← String.length_toList, List.length_cons, List.length_drop]
    omega
  rw [Statement.scan, hscan, hend]

theorem exists_opensAt {span : Span} (h : s.scan.2 = .openString span) : ∃ offset, s.OpensAt offset := by
  obtain ⟨before, q, after, tokens, htext, hscans, hquote, hlast, -⟩ := scanFrom_openString h
  have htake : s.text.toList.take before.length = before := by rw [htext, List.take_left]
  have hpart : (s.upTo before.length).text.toList = before := by rw [upTo, String.toList_ofList, htake]
  have hplaced : (s.upTo before.length).Scans 0 (s.upTo before.length).text.toList
      (tokens.map ((s.upTo before.length).place 0)) := by
    rw [hpart]
    exact hscans.place (s.upTo before.length) 0
  refine ⟨before.length, ⟨_, hplaced.tokens_eq⟩, q, ?_, hquote, ?_⟩
  · rw [htext, List.getElem?_append_right (Nat.le_refl _), Nat.sub_self, List.getElem?_cons_zero]
  · rw [htext, List.drop_append, List.drop_eq_nil_of_le (Nat.le_succ _), Nat.add_sub_cancel_left]
    exact hlast

/-- A statement is refused by the scan exactly if somewhere a quote stands that does not come again, and the part
    before it has all its tokens. The refusal then marks the text from that quote on, and there is only one such
    quote. -/
theorem tokens_refused_iff (s : Statement) :
    ((∃ r, s.tokens = .error (.refused r)) ↔ ∃ offset, s.OpensAt offset) ∧
      ∀ offset, s.OpensAt offset →
        s.tokens = .error (.refused
          ⟨.openString, ⟨s.location offset, s.location s.text.length⟩, some s.text⟩) ∧
        ∀ offset', s.OpensAt offset' → offset' = offset := by
  refine ⟨⟨?_, ?_⟩, fun offset h => ⟨tokens_eq_refused.mpr ⟨_, h.scan_eq, rfl⟩, fun offset' h' => ?_⟩⟩
  · rintro ⟨r, hr⟩
    obtain ⟨span, hscan, -⟩ := tokens_eq_refused.mp hr
    exact exists_opensAt hscan
  · rintro ⟨offset, h⟩
    exact ⟨_, tokens_eq_refused.mpr ⟨_, h.scan_eq, rfl⟩⟩
  · have hspan := h'.scan_eq
    rw [h.scan_eq] at hspan
    simp only [ScanEnd.openString.injEq, Span.mk.injEq, location, Location.mk.injEq] at hspan
    omega

/-- A double quote inside a string and an apostrophe behind an open quote mislead nothing. -/
theorem tokens_refused_mixed :
    let s : Statement := { line := 2, text := "NAME 'a\"b' \"it's", column := 3 }
    s.OpensAt 11 ∧
      s.tokens = .error (.refused ⟨.openString, ⟨s.location 11, s.location s.text.length⟩, some s.text⟩) := by
  intro s
  have hopens : s.OpensAt 11 := ⟨toOption_isSome.mp (by decide +kernel), '"', by decide, Or.inl rfl, by decide⟩
  exact ⟨hopens, ((tokens_refused_iff s).2 11 hopens).1⟩

end Statement
end SceneScript
