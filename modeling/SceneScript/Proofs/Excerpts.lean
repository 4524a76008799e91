import SceneScript.Proofs.Literals
import SceneScript.Proofs.OpenStrings

/-!
Excerpts of a statement. Tokens that follow one another stand in a stretch of the text that neither begins nor ends
with a gap and that is cut into these tokens by itself; that stretch is the text they cover. A stretch that stands
in two statements has the same tokens in both, but for their places.
-/

namespace SceneScript

namespace Token
open Text

/-- The last character of a lexeme is no gap, if the first is none. -/
theorem Shape.last {lexeme : List Char} (h : Shape lexeme) (hfirst : ∀ c ∈ lexeme.head?, isGap c = false) :
    ∀ c ∈ lexeme.getLast?, isGap c = false := by
  cases h with
  | @quoted q body hq _ =>
    intro c hc
    rw [← List.cons_append, List.getLast?_concat] at hc
    cases hc
    exact isGap_of_isQuote hq
  | @plain c more _ hmore =>
    intro d hd
    rcases List.mem_cons.mp (List.mem_of_getLast? hd) with rfl | hd
    · exact hfirst d rfl
    · rcases hmore d hd with hword | rfl
      · exact isGap_of_isWordChar hword
      · decide

theorem Lexeme.last {form : Form} {c : Char} {cs rest : List Char} (h : Lexeme form (c :: cs) rest)
    (hgap : isGap c = false) : ∀ d ∈ (c :: cs).getLast?, isGap d = false := by
  obtain ⟨p, hscan, -, hlexeme, -⟩ := h.takes rfl
  have hshape := scanPiece_shape hscan
  rw [hlexeme] at hshape
  refine hshape.last fun d hd => ?_
  cases hd
  exact hgap

end Token

namespace Statement
open Token

variable {s s' : Statement} {offset : Nat} {cs text : List Char} {tokens tokens' : List Token}

/-! ### Taking scans apart -/

theorem Scans.eq_nil (h : s.Scans offset cs tokens) (hcs : cs = []) : tokens = [] := by
  cases h with
  | nil => rfl
  | gap => cases hcs
  | lexeme => cases hcs

/-- Between two tokens a scan can be taken apart. -/
theorem Scans.split (h : s.Scans offset cs (tokens ++ tokens')) :
    ∃ front back, cs = front ++ back ∧ s.Scans offset front tokens ∧ s.Scans (offset + front.length) back tokens' := by
  generalize hall : tokens ++ tokens' = all at h
  induction h generalizing tokens with
  | nil =>
    obtain ⟨rfl, rfl⟩ := List.append_eq_nil_iff.mp hall
    exact ⟨[], [], rfl, .nil, .nil⟩
  | @gap offset c cs all hgap hrest ih =>
    obtain ⟨front, back, rfl, hfront, hback⟩ := ih hall
    refine ⟨c :: front, back, rfl, .gap hgap hfront, ?_⟩
    rwa [List.length_cons, ← Nat.add_assoc, Nat.add_right_comm]
  | @lexeme offset form c cs rest all hgap hlexeme hrest ih =>
    cases tokens with
    | nil =>
      cases hall
      exact ⟨[], _, rfl, .nil, .lexeme hgap hlexeme hrest⟩
    | cons t tokens =>
      obtain ⟨rfl, hmore⟩ := List.cons.inj hall
      obtain ⟨front, back, rfl, hfront, hback⟩ := ih hmore
      refine ⟨c :: cs ++ front, back, (List.append_assoc ..).symm, .lexeme hgap hlexeme.of_append hfront, ?_⟩
      rwa [List.length_append, ← Nat.add_assoc]

theorem Scans.trim_front (h : s.Scans offset cs tokens) :
    ∃ gaps core, cs = gaps ++ core ∧ s.Scans (offset + gaps.length) core tokens ∧
      ∀ c ∈ core.head?, Text.isGap c = false := by
  induction h with
  | nil => exact ⟨[], [], rfl, .nil, nofun⟩
  | @gap offset c cs tokens _ _ ih =>
    obtain ⟨gaps, core, rfl, hcore, hfirst⟩ := ih
    refine ⟨c :: gaps, core, rfl, ?_, hfirst⟩
    rwa [List.length_cons, ← Nat.add_assoc, Nat.add_right_comm]
  | lexeme hgap hlexeme hrest =>
    refine ⟨[], _, rfl, .lexeme hgap hlexeme hrest, fun d hd => ?_⟩
    cases hd
    exact hgap

theorem Scans.trim_back (h : s.Scans offset cs tokens) :
    ∃ core gaps, cs = core ++ gaps ∧ s.Scans offset core tokens ∧ ∀ c ∈ core.getLast?, Text.isGap c = false := by
  induction h with
  | nil => exact ⟨[], [], rfl, .nil, nofun⟩
  | @gap offset c cs tokens hgap _ ih =>
    obtain ⟨core, gaps, rfl, hcore, hlast⟩ := ih
    cases core with
    | nil =>
      cases hcore.eq_nil rfl
      exact ⟨[], c :: gaps, rfl, .nil, nofun⟩
    | cons d core => exact ⟨c :: d :: core, gaps, rfl, .gap hgap hcore, hlast⟩
  | @lexeme offset form c cs rest tokens hgap hlexeme _ ih =>
    obtain ⟨core, gaps, rfl, hcore, hlast⟩ := ih
    refine ⟨c :: cs ++ core, gaps, (List.append_assoc ..).symm, .lexeme hgap hlexeme.of_append hcore, ?_⟩
    cases core with
    | nil =>
      rw [List.append_nil]
      exact hlexeme.last hgap
    | cons d core => rwa [List.getLast?_append_of_ne_nil _ (List.cons_ne_nil d core)]

/-- Characters that are cut into tokens are so in any statement and at any offset. -/
theorem Scans.elsewhere (h : s.Scans offset cs tokens) (s' : Statement) (offset' : Nat) :
    ∃ tokens', s'.Scans offset' cs tokens' := by
  induction h generalizing offset' with
  | nil => exact ⟨[], .nil⟩
  | gap hgap _ ih =>
    obtain ⟨tokens', h'⟩ := ih (offset' + 1)
    exact ⟨tokens', .gap hgap h'⟩
  | lexeme hgap hlexeme _ ih =>
    obtain ⟨tokens', h'⟩ := ih _
    exact ⟨_, .lexeme hgap hlexeme h'⟩

/-! ### Excerpts -/

/-- The tokens stand in the statement as this text, with no gap at either end of it. -/
structure Excerpt (s : Statement) (offset : Nat) (text : List Char) (tokens : List Token) : Prop where
  stands : ∃ front back, s.text.toList = front ++ (text ++ back) ∧ front.length = offset
  scans : s.Scans offset text tokens
  first : ∀ c ∈ text.head?, Text.isGap c = false
  last : ∀ c ∈ text.getLast?, Text.isGap c = false

/-- The tokens of a statement scan its text. -/
theorem scans_of_tokens (h : s.tokens = .ok tokens) :
    ∃ found, tokens = found ++ [.endAt (s.location s.text.length)] ∧ s.Scans 0 s.text.toList found := by
  obtain ⟨rfl, hcomplete⟩ := tokens_eq_ok h
  exact ⟨s.scan.1, rfl, scans_of_complete hcomplete⟩

/-- Behind tokens none of which closes the statement, the closing one is still to come. -/
theorem ne_nil_of_tokens {before after : List Token} (h : s.tokens = .ok (before ++ (tokens ++ after)))
    (hne : tokens ≠ []) (hkind : ∀ t ∈ tokens, t.kind ≠ .endOfStatement) : after ≠ [] := by
  rintro rfl
  obtain ⟨found, hfound, -⟩ := scans_of_tokens h
  have hlast := congrArg List.getLast? hfound
  rw [List.append_nil, List.getLast?_append_of_ne_nil _ hne, List.getLast?_concat] at hlast
  exact hkind _ (List.mem_of_getLast? hlast) rfl

/-- Any tokens that follow one another, the closing one apart, are an excerpt. -/
theorem exists_excerpt {before after : List Token} (h : s.tokens = .ok (before ++ (tokens ++ after)))
    (hafter : after ≠ []) : ∃ offset text, s.Excerpt offset text tokens := by
  obtain ⟨found, hfound, hscans⟩ := scans_of_tokens h
  obtain ⟨more, last, rfl⟩ : ∃ more last, after = more ++ [last] :=
    ⟨_, _, (List.dropLast_concat_getLast hafter).symm⟩
  obtain rfl : before ++ (tokens ++ more) = found := by
    have hall : before ++ (tokens ++ more) ++ [last] = found ++ [.endAt (s.location s.text.length)] := by
      rw [← hfound, List.append_assoc, List.append_assoc]
    exact (List.append_inj' hall rfl).1
  obtain ⟨front, rest, htext, -, hrest⟩ := hscans.split
  obtain ⟨cs, back, rfl, hcs, -⟩ := hrest.split
  obtain ⟨gaps, core, rfl, hcore, hfirst⟩ := hcs.trim_front
  obtain ⟨text, gaps', rfl, hscans', hlast⟩ := hcore.trim_back
  refine ⟨_, text, ⟨front ++ gaps, gaps' ++ back, ?_, ?_⟩, hscans', fun c hc => hfirst c ?_, hlast⟩
  · rw [htext]
    simp only [List.append_assoc]
  · rw [List.length_append, Nat.zero_add]
  · rw [List.head?_append, hc]
    rfl

namespace Excerpt

theorem ne_nil (h : s.Excerpt offset text tokens) (hne : tokens ≠ []) : text ≠ [] :=
  fun htext => hne (h.scans.eq_nil htext)

theorem isEmpty_source (h : s.Excerpt offset text tokens) (hne : text ≠ []) : s.text.isEmpty = false := by
  obtain ⟨front, back, hstands, -⟩ := h.stands
  refine Bool.eq_false_iff.mpr fun hempty => hne ?_
  rw [String.isEmpty_iff.mp hempty, String.toList_empty, eq_comm, List.append_eq_nil_iff,
    List.append_eq_nil_iff] at hstands
  exact hstands.2.1

theorem textOf (h : s.Excerpt offset text tokens) : Token.textOf s.text tokens = String.ofList text := by
  by_cases htext : text = []
  · rw [h.scans.eq_nil htext, htext]
    rfl
  · obtain ⟨front, back, hstands, rfl⟩ := h.stands
    exact h.scans.textOf hstands htext h.first h.last

/-- The tokens are those of the text alone in another place. -/
theorem exists_alone (h : s.Excerpt offset text tokens) :
    ∃ base, (alone (.ofList text)).Scans 0 text base ∧ tokens = base.map (s.place offset) := by
  obtain ⟨base, hbase⟩ := h.scans.elsewhere (alone (.ofList text)) 0
  exact ⟨base, hbase, h.scans.unique (hbase.place s offset)⟩

/-- Parts of an excerpt cover what they cover of the text alone. -/
theorem textOf_place {base part : List Token} (h : s.Excerpt offset text tokens)
    (hbase : (alone (.ofList text)).Scans 0 text base) (hpart : part.Sublist base) :
    Token.textOf s.text (part.map (s.place offset)) = Token.textOf (.ofList text) part := by
  have htoList : (alone (.ofList text)).text.toList = text := String.toList_ofList
  have hlaid : (alone (.ofList text)).LaidOut 0 part := by
    have hscan : (alone (.ofList text)).scan.1 = base := by rw [scan, htoList, hbase.scanFrom_eq]
    rw [← hscan] at hpart
    exact (scan_laidOut _).1.sublist hpart
  by_cases hne : part = []
  · rw [hne]
    rfl
  · have hfirst := List.head?_eq_some_head hne
    have hlast := List.getLast?_eq_some_getLast hne
    obtain ⟨start, stop, -, hlt, hstop, hbegin, hend⟩ := hlaid.ends hfirst hlast
    have hlength : stop ≤ text.length := by rwa [← String.length_toList, htoList] at hstop
    have htext : text ≠ [] := fun hnil => hne (List.eq_nil_of_sublist_nil (hbase.eq_nil hnil ▸ hpart))
    have halone : (String.ofList text).isEmpty = false := by
      simpa [Bool.eq_false_iff, String.isEmpty_iff] using htext
    obtain ⟨front, back, hstands, rfl⟩ := h.stands
    have hwhole : s.text = String.ofList (front ++ text ++ back) := by
      rw [List.append_assoc, ← hstands, String.ofList_toList]
    simp only [Token.textOf, List.head?_map, List.getLast?_map, hfirst, hlast, Option.map_some, h.isEmpty_source htext,
      halone, Bool.false_eq_true, ↓reduceIte, place, hbegin, hend, location, Int.toNat_natCast]
    rw [hwhole]
    exact Text.slice_append hlength

end Excerpt

end Statement
end SceneScript
