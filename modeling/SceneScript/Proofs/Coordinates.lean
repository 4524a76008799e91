import Mathlib.Algebra.Notation.Prod
import SceneScript.Proofs.Defaults
import SceneScript.Proofs.Drawing
import SceneScript.Proofs.Exchange
import SceneScript.Proofs.Literals
import SceneScript.Proofs.PositionGrammar
import SceneScript.Proofs.Targets

/-!
Coordinates from end to end. An integer is printed, scanned, read as a coordinate and settled without loss: what is
drawn at a pair of printed integers stands there, or in the middle of the grid cell of this row and column, and what
is drawn in a relation to it stands off by the fixed offset of the relation.
-/

namespace SceneScript

open Token

/-! ### Words and integers -/

namespace Statement

variable {s : Statement} {offset : Nat} {cs : List Char} {tokens : List Token} {words : List String}

/-- Words as they are written before something else, each with a space behind it. -/
def spaced (words : List String) : List Char := words.flatMap fun w => w.toList ++ [' ']

/-- The text is scanned to a word, which is the text itself. -/
def isPlainWord (word : String) : Bool :=
  word.toList.head?.any Text.isWordStart && word.toList.all Text.isWordChar && Text.upper word == word

theorem exists_of_isPlainWord {word : String} (h : isPlainWord word = true) :
    ∃ c more, word.toList = c :: more ∧ Text.isWordStart c = true ∧ more.all Text.isWordChar = true ∧
      Text.upper (String.ofList (c :: more)) = word := by
  simp only [isPlainWord, Bool.and_eq_true, beq_iff_eq] at h
  obtain ⟨⟨hstart, hall⟩, hupper⟩ := h
  cases hword : word.toList with
  | nil =>
    rw [hword] at hstart
    cases hstart
  | cons c more =>
    rw [hword] at hstart hall
    refine ⟨c, more, rfl, hstart, (Bool.and_eq_true_iff.mp hall).2, ?_⟩
    rw [← hword, String.ofList_toList, hupper]

theorem Scans.plainWord (s : Statement) (offset : Nat) {word : String} (h : isPlainWord word = true) :
    ∃ t, s.Scans offset word.toList [t] := by
  obtain ⟨c, more, hword, hstart, hmore, -⟩ := exists_of_isPlainWord h
  rw [hword]
  exact ⟨_, .word hstart (List.all_eq_true.mp hmore)⟩

theorem Scans.spaced (hplain : ∀ w ∈ words, isPlainWord w = true)
    (h : s.Scans (offset + (spaced words).length) cs tokens) :
    ∃ phrase, s.Scans offset (Statement.spaced words ++ cs) (phrase ++ tokens) ∧ IsPhrase words phrase := by
  induction words generalizing offset with
  | nil => exact ⟨[], h, rfl⟩
  | cons w words ih =>
    obtain ⟨c, more, hword, hstart, hmore, hupper⟩ := exists_of_isPlainWord (hplain w List.mem_cons_self)
    have hfront : Statement.spaced (w :: words) = c :: more ++ ' ' :: Statement.spaced words := by
      simp [Statement.spaced, hword]
    have hplace : offset + (Statement.spaced (w :: words)).length =
        offset + (c :: more).length + 1 + (Statement.spaced words).length := by
      rw [hfront, List.length_append, List.length_cons (a := ' ')]
      omega
    rw [hplace] at h
    obtain ⟨phrase, hscans, hphrase⟩ := ih (fun w' hw' => hplain w' (List.mem_cons_of_mem w hw')) h
    have hwhole := Scans.word_space c more hstart hmore hscans
    refine ⟨_ :: phrase, by rw [hfront, List.append_assoc]; exact hwhole, ?_⟩
    rw [IsPhrase, List.map_cons, List.map_cons, hphrase, Statement.cut, hupper]

/-- An integer is printed as its sign and size. -/
theorem text_integer (n : Int) : (Literal.integer (decide (n < 0)) 0 n.natAbs).text = toString n := by
  cases n with
  | ofNat n =>
    have hsign : decide (Int.ofNat n < 0) = false := by simp
    rw [hsign]
    exact String.empty_append
  | negSucc n =>
    have hsign : decide (Int.negSucc n < 0) = true := by simp
    rw [hsign]
    rfl

theorem not_isBlank_of_mem_int {n : Int} {c : Char} (hc : c ∈ (toString n).toList) : Text.isBlank c = false := by
  rw [← text_integer] at hc
  rcases Literal.sign_or_digit_of_mem hc with rfl | hdigit
  · decide
  · exact not_isBlank_of_isDigit hdigit

theorem harmless_int (n : Int) : Text.Harmless (toString n).toList := by
  rw [← text_integer]
  exact Literal.harmless_integer _ 0 n.natAbs

theorem int_ne_nil (n : Int) : (toString n).toList ≠ [] := by
  rw [← text_integer]
  exact Literal.integer_ne_nil _ 0 n.natAbs

/-- A printed integer is scanned to one token, and may be followed by whatever cannot go on with it. -/
theorem Scans.int (s : Statement) (offset : Nat) (n : Int) :
    ∃ t, s.Scans offset (toString n).toList [t] ∧ t.form = .number (.int n) := by
  have hscan : s.Scans offset _ [_] := Literal.scans_integer (decide (n < 0)) 0 n.natAbs
  have hvalue : (if decide (n < 0) then -(n.natAbs : Int) else n.natAbs) = n := by
    by_cases hn : n < 0
    · rw [decide_eq_true hn, if_pos rfl]
      omega
    · rw [decide_eq_false hn, if_neg Bool.false_ne_true]
      omega
  rw [text_integer, hvalue] at hscan
  exact ⟨_, hscan, rfl⟩

end Statement

/-! ### Places -/

namespace Position

/-- How a pair of coordinates is written behind `AT`: alone, behind `POSITION`, or behind `GRID` as a row and a
    column. -/
inductive Manner where
  | alone | position | grid
  deriving Repr, DecidableEq

namespace Manner

/-- What is written before the pair. -/
def opening : Manner → String
  | alone => "AT "
  | position => "AT POSITION "
  | grid => "AT GRID "

/-- The words between `AT` and the pair. -/
def words : Manner → List String
  | alone => []
  | position => ["POSITION"]
  | grid => ["GRID"]

/-- The point that the pair states: itself, or the middle of its grid cell. -/
def point : Manner → Int → Int → Int × Int × Int
  | grid, row, column => (150 * column + 100, 150 * row + 100, 0)
  | _, x, y => (x, y, 0)

end Manner

/-- The absolute position at a point. -/
def ofPoint (p : Int × Int × Int) : Position := absolute (.int p.1) (.int p.2.1) (.int p.2.2)

theorem isResolved_ofPoint (p : Int × Int × Int) : (ofPoint p).isResolved = true := rfl

/-- A pair of integers as it is written, in parentheses or without. -/
def pairText (enclosed : Bool) (x y : Int) : String :=
  if enclosed then "(" ++ toString x ++ ", " ++ toString y ++ ")" else toString x ++ ", " ++ toString y

variable {s : Statement} {offset : Nat} {enclosed : Bool} {x y : Int} {m : Manner} {front pair : List Token}

/-- Two printed integers with a comma between them, before what closes them. -/
theorem scans_coordinates (s : Statement) (offset : Nat) (x y : Int) {close : List Char} {closing : List Token}
    (hends : Ends close)
    (hclose : s.Scans (offset + (toString x).toList.length + 1 + 1 + (toString y).toList.length) close closing) :
    ∃ first comma second,
      s.Scans offset ((toString x).toList ++ ',' :: ' ' :: ((toString y).toList ++ close))
        (first :: comma :: second :: closing) ∧
      first.form = .number (.int x) ∧ comma.form = .comma ∧ second.form = .number (.int y) := by
  obtain ⟨first, hx, hfirst⟩ := Statement.Scans.int s offset x
  obtain ⟨second, hy, hsecond⟩ := Statement.Scans.int s (offset + (toString x).toList.length + 1 + 1) y
  have hspace := Statement.Scans.gap (c := ' ') (by decide) (hy.append hclose hends)
  have hbehind := Statement.Scans.mark (c := ',') (by decide) hspace
  exact ⟨first, _, second, hx.append hbehind (Statement.ends_mark (by decide) _), hfirst, rfl, hsecond⟩

theorem scans_pair (s : Statement) (offset : Nat) (enclosed : Bool) (x y : Int) :
    ∃ tokens, s.Scans offset (pairText enclosed x y).toList tokens ∧ IsPair (.int x) (.int y) tokens := by
  cases enclosed with
  | false =>
    obtain ⟨first, comma, second, hscan, hfirst, hcomma, hsecond⟩ :=
      scans_coordinates s offset x y Ends.nil .nil
    have htext : (pairText false x y).toList = (toString x).toList ++ ',' :: ' ' :: ((toString y).toList ++ []) := by
      simp [pairText]
    rw [← htext] at hscan
    exact ⟨_, hscan, Or.inl (by simp [hfirst, hcomma, hsecond])⟩
  | true =>
    obtain ⟨first, comma, second, hscan, hfirst, hcomma, hsecond⟩ :=
      scans_coordinates s (offset + 1) x y (Statement.ends_mark (by decide) []) (.mark (c := ')') (by decide) .nil)
    have htext : (pairText true x y).toList =
        '(' :: ((toString x).toList ++ ',' :: ' ' :: ((toString y).toList ++ [')'])) := by simp [pairText]
    have hwhole := Statement.Scans.mark (c := '(') (by decide) hscan
    rw [← htext] at hwhole
    exact ⟨_, hwhole, Or.inr (by simp [hfirst, hcomma, hsecond, Statement.cut, punctuation])⟩

theorem states_pair (hfront : IsPhrase m.words front) (hpair : IsPair (.int x) (.int y) pair) :
    States (front ++ pair) (ofPoint (m.point x y)) := by
  cases m with
  | alone =>
    cases List.map_eq_nil_iff.mp hfront
    exact .pair hpair
  | position =>
    obtain ⟨t, more, rfl, ht, hmore⟩ := List.map_eq_cons_iff.mp hfront
    cases List.map_eq_nil_iff.mp hmore
    exact .position ht hpair
  | grid =>
    obtain ⟨t, more, rfl, ht, hmore⟩ := List.map_eq_cons_iff.mp hfront
    cases List.map_eq_nil_iff.mp hmore
    have hstates := States.grid ht hpair
    rw [Number.scale_int, Number.scale_int, Number.shift_int, Number.shift_int, Int.mul_comm y,
      Int.mul_comm x] at hstates
    exact hstates

end Position

/-! ### The statements -/

/-- A tree at a written pair of integers. -/
def treeText (m : Position.Manner) (enclosed : Bool) (x y : Int) : String :=
  "DRAW TREE " ++ m.opening ++ Position.pairText enclosed x y

/-- A ball in a relation to a tree, possibly with a distance. -/
def ballText (r : Relation) (distance : Option Int) : String :=
  "DRAW BALL " ++ " ".intercalate r.phrase ++ " TREE" ++
    (distance.map fun n => " WITH DISTANCE " ++ toString n).getD ""

namespace Statement

variable {s : Statement} {m : Position.Manner} {enclosed : Bool} {x y : Int} {r : Relation} {distance : Option Int}

theorem toList_treeText (m : Position.Manner) (enclosed : Bool) (x y : Int) : (treeText m enclosed x y).toList =
    spaced (["DRAW", "TREE", "AT"] ++ m.words) ++ (Position.pairText enclosed x y).toList := by
  have hopening : ("DRAW TREE " ++ m.opening).toList = spaced (["DRAW", "TREE", "AT"] ++ m.words) := by
    cases m <;> decide
  rw [treeText, String.toList_append, hopening]

/-- A drawing of a word with a lead and its target behind it is read as the lead and the target are. -/
theorem Scans.read_lead (lead : Lead) {keyword : String} {phrase target : List Token} {placed : Position.Placed}
    (h : s.Scans 0 s.text.toList (phrase ++ target)) (hphrase : IsPhrase (["DRAW", keyword] ++ lead.phrase) phrase)
    (hkeyword : keyword ∉ ["ANIMAL", "WITH", "WITHOUT"]) (havoids : Lead.avoids keyword = true)
    (hplaced : ∀ span, Position.ofLead s.text lead span target = .ok placed) :
    s.read = { opening := some .draw, outcome := .ok (.draw keyword [] placed) } := by
  obtain ⟨draw, _, rfl, hdraw, hphrase⟩ := List.map_eq_cons_iff.mp hphrase
  obtain ⟨word, leadPhrase, rfl, hword, hphrase⟩ := List.map_eq_cons_iff.mp hphrase
  have htarget : ∀ t ∈ target, t.kind ≠ .endOfStatement := fun t ht => h.kind_ne t (List.mem_append_right _ ht)
  have hnone : ∀ t ∈ (none : Option Token), t.kind = .endOfStatement := by simp
  obtain ⟨span, hread⟩ := Position.ofTokens_lead s.text hphrase htarget hnone
  rw [Option.toList_none, List.append_nil, hplaced] at hread
  exact h.read_placed hdraw hword hkeyword havoids ⟨lead, leadPhrase, target, rfl, hphrase⟩ hread

theorem read_treeText (htext : s.text = treeText m enclosed x y) :
    s.read = { opening := some .draw, outcome := .ok (.draw "TREE" [] { position := .ofPoint (m.point x y) }) } := by
  have hplain : ∀ w ∈ ["DRAW", "TREE", "AT"] ++ m.words, isPlainWord w = true := by cases m <;> decide
  obtain ⟨pair, hpair, hcoordinates⟩ :=
    Position.scans_pair s (0 + (spaced (["DRAW", "TREE", "AT"] ++ m.words)).length) enclosed x y
  obtain ⟨phrase, hscan, hphrase⟩ := hpair.spaced hplain
  obtain ⟨front, words, rfl, hfront, hwords⟩ := List.map_eq_append_iff.mp (hphrase.trans List.map_append)
  rw [← toList_treeText, ← htext, List.append_assoc] at hscan
  refine hscan.read_lead .at hfront (by decide) (by decide) fun span => ?_
  exact Position.ofLead_at_of_states (Position.states_pair hwords hcoordinates)

/-- What follows the target of the ball. -/
def distanceChars (distance : Option Int) : List Char :=
  (distance.map fun n => ' ' :: (spaced ["WITH", "DISTANCE"] ++ (toString n).toList)).getD []

theorem toList_ballText (r : Relation) (distance : Option Int) : (ballText r distance).toList =
    spaced (["DRAW", "BALL"] ++ r.phrase) ++ ("TREE".toList ++ distanceChars distance) := by
  have hfront : ("DRAW BALL " ++ " ".intercalate r.phrase ++ " TREE").toList =
      spaced (["DRAW", "BALL"] ++ r.phrase) ++ "TREE".toList := by cases r <;> decide
  have hback : ((distance.map fun n => " WITH DISTANCE " ++ toString n).getD "").toList = distanceChars distance := by
    cases distance with
    | none => rfl
    | some n =>
      have hwords : " WITH DISTANCE ".toList = ' ' :: spaced ["WITH", "DISTANCE"] := by decide
      rw [Option.map_some, Option.getD_some, String.toList_append, hwords]
      rfl
  rw [ballText, String.toList_append, hfront, hback, List.append_assoc]

/-- A distance is scanned to a suffix that the target is taken off from. -/
theorem scans_distance (s : Statement) (offset : Nat) (distance : Option Int) (target : Token) :
    ∃ suffix, s.Scans offset (distanceChars distance) suffix ∧ Ends (distanceChars distance) ∧
      Position.splitDistance (target :: suffix) = ([target], distance.map .int) := by
  cases distance with
  | none =>
    refine ⟨[], .nil, Ends.nil, Position.splitDistance_of_not fun before suffix n heq hn => ?_⟩
    have htarget := congrArg List.length heq
    have hsuffix := congrArg List.length hn
    simp only [List.length_append, List.length_map, List.length_cons, List.length_nil] at htarget hsuffix
    omega
  | some n =>
    have hplain : ∀ w ∈ ["WITH", "DISTANCE"], isPlainWord w = true := by decide
    obtain ⟨t, hn, ht⟩ := Scans.int s (offset + 1 + (spaced ["WITH", "DISTANCE"]).length) n
    obtain ⟨phrase, hscan, hphrase⟩ := hn.spaced hplain
    refine ⟨phrase ++ [t], .gap (by decide) hscan, (Breaks.space _).ends, ?_⟩
    have hdistance : Position.IsDistance (.int n) (phrase ++ [t]) := by
      rw [Position.IsDistance, List.map_append, hphrase, List.map_singleton, ht]
      rfl
    exact Position.splitDistance_append [target] hdistance

theorem read_ballText (htext : s.text = ballText r distance) :
    s.read = {
      opening := some .draw
      outcome := .ok (.draw "BALL" [] { position := .pending r "TREE" (distance.map .int) }) } := by
  have hplain : ∀ w ∈ ["DRAW", "BALL"] ++ r.phrase, isPlainWord w = true := by cases r <;> decide
  have hchars := toList_ballText r distance
  rw [← htext] at hchars
  have htree : isPlainWord "TREE" = true := by decide
  obtain ⟨target, htarget⟩ := Scans.plainWord s (spaced (["DRAW", "BALL"] ++ r.phrase)).length htree
  -- The word behind the relation is the target, as it is written.
  have hwritten : Token.textOf s.text [target] = "TREE" := by
    have hfirst : ∀ c ∈ "TREE".toList.head?, Text.isGap c = false := by rintro _ ⟨⟩; decide
    have hlast : ∀ c ∈ "TREE".toList.getLast?, Text.isGap c = false := by rintro _ ⟨⟩; decide
    rw [htarget.textOf hchars (by decide) hfirst hlast, String.ofList_toList]
  obtain ⟨suffix, hsuffix, hends, hsplit⟩ :=
    scans_distance s ((spaced (["DRAW", "BALL"] ++ r.phrase)).length + "TREE".toList.length) distance target
  have hbehind := htarget.append hsuffix hends
  rw [← Nat.zero_add (spaced (["DRAW", "BALL"] ++ r.phrase)).length] at hbehind
  obtain ⟨phrase, hscan, hphrase⟩ := hbehind.spaced hplain
  rw [← hchars] at hscan
  refine hscan.read_lead (.relation r) hphrase (by decide) (by decide) fun span => ?_
  simp only [Position.ofLead, List.singleton_append, hsplit, hwritten]
  rfl

/-! ### Their lines -/

/-- The text is what its line says. -/
structure IsLine (text : String) : Prop where
  ne_nil : text.toList ≠ []
  plain : Text.Plain text.toList
  first : ∀ c ∈ text.toList.head?, Text.isBlank c = false
  last : ∀ c ∈ text.toList.getLast?, Text.isBlank c = false

theorem IsLine.ofLine?_eq {text : String} (h : IsLine text) (filename : Option String) (n : Nat) :
    ofLine? filename n text.toList = some ⟨n, text, 1, filename⟩ := by
  rw [ofLine?_plain filename n h.ne_nil h.plain h.first h.last, String.ofList_toList]

theorem ofSource_two {first second : String} (hfirst : IsLine first) (hsecond : IsLine second)
    (filename : Option String) :
    ofSource (first ++ "\n" ++ second) filename = [⟨1, first, 1, filename⟩, ⟨2, second, 1, filename⟩] := by
  have hlines : Text.splitAt '\n' (first ++ "\n" ++ second).toList = [first.toList, second.toList] := by
    have hmarks : ∀ line ∈ [first.toList, second.toList], '\n' ∉ line := by
      simp [hfirst.plain.1, hsecond.plain.1]
    have hsplit := Text.splitAt_intercalate (List.cons_ne_nil _ _) hmarks
    have hjoined : (first ++ "\n" ++ second).toList = ['\n'].intercalate [first.toList, second.toList] := by
      simp [List.intercalate]
    rw [hjoined, hsplit]
  rw [ofSource, hlines, ofLines, ofLines, hfirst.ofLine?_eq, hsecond.ofLine?_eq]
  rfl

/-- Words and then anything harmless that does not end blank. -/
theorem isLine_of_spaced {text word : String} {words : List String} {cs : List Char}
    (htext : text.toList = spaced (word :: words) ++ cs) (hplain : ∀ w ∈ word :: words, isPlainWord w = true)
    (hne : cs ≠ []) (hharmless : Text.Harmless cs) (hlast : ∀ c ∈ cs.getLast?, Text.isBlank c = false) :
    IsLine text := by
  have hspaced : Text.Harmless (spaced (word :: words)) := by
    intro c hc
    obtain ⟨w, hw, hc⟩ := List.mem_flatMap.mp hc
    rcases List.mem_append.mp hc with hc | hc
    · have hword := hplain w hw
      simp only [isPlainWord, Bool.and_eq_true] at hword
      exact Literal.harmless_of_isWordChar (List.all_eq_true.mp hword.1.2) c hc
    · rw [List.mem_singleton.mp hc]
      decide
  obtain ⟨c, more, hword, hstart, -, -⟩ := exists_of_isPlainWord (hplain word List.mem_cons_self)
  have hfront : text.toList = c :: (more ++ [' '] ++ spaced words ++ cs) := by
    rw [htext, spaced, List.flatMap_cons, hword]
    simp [spaced]
  refine ⟨?_, ?_, fun d hd => ?_, ?_⟩
  · rw [hfront]
    exact List.cons_ne_nil _ _
  · rw [htext]
    exact (hspaced.append hharmless).plain
  · rw [hfront] at hd
    cases hd
    exact Text.not_isBlank_of_isWordChar (Text.isWordChar_of_isWordStart hstart)
  · rw [htext, List.getLast?_append_of_ne_nil _ hne]
    exact hlast

theorem last_int {front : List Char} {n : Int} :
    ∀ c ∈ (front ++ (toString n).toList).getLast?, Text.isBlank c = false := by
  intro c hc
  rw [List.getLast?_append_of_ne_nil _ (int_ne_nil n)] at hc
  exact not_isBlank_of_mem_int (List.mem_of_getLast? hc)

theorem isLine_treeText (m : Position.Manner) (enclosed : Bool) (x y : Int) : IsLine (treeText m enclosed x y) := by
  have hplain : ∀ w ∈ ["DRAW", "TREE", "AT"] ++ m.words, isPlainWord w = true := by cases m <;> decide
  have hcomma : Text.Harmless [',', ' '] := by decide
  have hpair := ((harmless_int x).append hcomma).append (harmless_int y)
  have htext := toList_treeText m enclosed x y
  cases enclosed with
  | false =>
    have hchars : (Position.pairText false x y).toList = (toString x).toList ++ [',', ' '] ++ (toString y).toList := by
      simp [Position.pairText]
    rw [hchars] at htext
    exact isLine_of_spaced htext hplain (List.append_ne_nil_of_right_ne_nil _ (int_ne_nil y)) hpair last_int
  | true =>
    have hchars : (Position.pairText true x y).toList =
        ['('] ++ ((toString x).toList ++ [',', ' '] ++ (toString y).toList) ++ [')'] := by
      simp [Position.pairText]
    have hopen : Text.Harmless ['('] := by decide
    have hclose : Text.Harmless [')'] := by decide
    rw [hchars] at htext
    refine isLine_of_spaced htext hplain (by simp) ((hopen.append hpair).append hclose) fun c hc => ?_
    rw [List.getLast?_concat] at hc
    cases hc
    decide

theorem isLine_ballText (r : Relation) (distance : Option Int) : IsLine (ballText r distance) := by
  have hplain : ∀ w ∈ ["DRAW", "BALL"] ++ r.phrase, isPlainWord w = true := by cases r <;> decide
  have htree : Text.Harmless "TREE".toList := by decide
  have htext := toList_ballText r distance
  cases distance with
  | none =>
    rw [distanceChars, Option.map_none, Option.getD_none, List.append_nil] at htext
    refine isLine_of_spaced htext hplain (by decide) htree fun c hc => ?_
    cases hc
    decide
  | some n =>
    have hwords : Text.Harmless (' ' :: spaced ["WITH", "DISTANCE"]) := by decide
    have hchars : distanceChars (some n) = ' ' :: spaced ["WITH", "DISTANCE"] ++ (toString n).toList := rfl
    rw [hchars, ← List.append_assoc "TREE".toList] at htext
    exact isLine_of_spaced htext hplain (List.append_ne_nil_of_right_ne_nil _ (int_ne_nil n))
      ((htree.append hwords).append (harmless_int n)) last_int

end Statement

/-! ### The scenes -/

namespace Context

variable {c : Context} {s : Statement} {keyword : String} {placed : Position.Placed}

/-- A drawing without an attribute section adds an entity at its position. -/
theorem step_drawing (hc : c.Sound) (hv : c.vocabulary.usable = true)
    (hread : s.read = { opening := some .draw, outcome := .ok (.draw keyword [] placed) }) :
    ∃ c' e, c.step s = .ok c' ∧ c'.scene.entities = c.scene.entities ++ [e] ∧ e.id = c.nextId ∧
      e.keyword = Text.upper keyword ∧ e.position = placed.position ∧
      c'.diagnostics = c.diagnostics ++ placed.warning.toList ∧ c'.drawn = c.drawn + 1 := by
  obtain ⟨defaults, hdefaults⟩ := Vocabulary.attributesFor_of_usable hv (c.typeOf keyword).subtype
  have hfrozen : (c.begin s s.read).scene.frozen = false := hc.unfrozen
  obtain ⟨c', hc'⟩ : ∃ c', (c.begin s s.read).draw s keyword [] placed = .ok c' := by
    have hstated : Attributes.read s.text [] = .ok [] := rfl
    have htype : (c.begin s s.read).vocabulary.attributesFor ((c.begin s s.read).typeOf keyword).subtype =
        .ok defaults := hdefaults
    rw [draw_eq, htype, hstated, hfrozen]
    exact ⟨_, rfl⟩
  have hstep : c.step s = .ok c' := by
    refine step_eq_ok.mpr ⟨(c', none), ?_, rfl⟩
    rw [attempt_eq]
    rw [hread] at hc' ⊢
    exact congrArg (Except.map (·, none)) hc'
  obtain ⟨_, _, -, -, -, rfl⟩ := draw_eq_ok hc'
  refine ⟨_, _, hstep, rfl, rfl, Vocabulary.keyword_typeOf .., rfl, ?_, rfl⟩
  have hbegun : (c.begin s s.read).diagnostics = c.diagnostics := by
    rw [hread]
    exact List.append_nil _
  rw [hbegun]

end Context

/-- The word for a tree names the first entity, if that is a tree. -/
theorem NameTable.find?_tree {e e' : Entity} (hid : e.id = "entity_1") (hid' : e'.id = "entity_2")
    (hkeyword : e.keyword = "TREE") : (NameTable.ofEntities [e, e']).find? "TREE" = some 0 := by
  have hname : Text.upper (Text.trim "TREE") = "TREE" := by decide
  have hids : Text.upper "entity_1" ≠ "TREE" ∧ Text.upper "entity_2" ≠ "TREE" := by decide
  have haliases : Assoc.get? NameTable.aliases "TREE" = none := by decide
  have htree : Text.upper "TREE" = "TREE" := by decide
  have hmeant : NameTable.meant? [e, e'] "TREE" = some 0 := by
    simp [NameTable.meant?, hid, hid', hids, haliases, hkeyword, htree, List.findIdx?_cons]
  rw [NameTable.find?_eq, hname, NameTable.get?_eq_meant?, hmeant]
  rfl

section Scenes
variable {v : Vocabulary} {strict : Bool} {source : String} {filename : Option String}

theorem success_of_nil {r : Result} (h : r.diagnostics = []) : r.success = true := by
  rw [success_eq_true, h]
  rfl

/-- A run without reports is parsed with success to its settled scene. -/
theorem exists_settled {c : Context}
    (hrun : Context.run { vocabulary := v, strict } (Statement.ofSource source filename) = .ok c)
    (hdiagnostics : c.diagnostics = []) :
    ∃ (r : Result) (settled : Resolution), readSource v strict source filename = .ok r ∧ r.success = true ∧
      r.diagnostics = settled.warnings ∧ r.scene.entities = settled.entities ∧
      Resolution.SettledTo (.ofEntities c.scene.entities) c.sources c.scene.entities c.scene.entities.length
        settled := by
  obtain ⟨r, hr⟩ := exists_readSource_iff.mpr ⟨c, hrun⟩
  obtain ⟨c', hrun', hcases⟩ := readSource_cases hr
  obtain rfl : c = c' := Except.ok.inj (hrun.symm.trans hrun')
  rcases hcases with ⟨hfailed, rfl⟩ | ⟨hsuccess, settled, rfl, hsettled⟩
  · rw [success_of_nil hdiagnostics] at hfailed
    cases hfailed
  · refine ⟨_, settled, hr, hsuccess, ?_, rfl, hsettled⟩
    rw [Result.ofContext, Context.settleBy, hdiagnostics, List.nil_append]

variable {m : Position.Manner} {enclosed : Bool} {x y : Int}

theorem step_treeText (hv : v.usable = true) (strict : Bool) (filename : Option String) (enclosed : Bool) : ∃ c e,
    Context.step { vocabulary := v, strict } ⟨1, treeText m enclosed x y, 1, filename⟩ = .ok c ∧
      c.scene.entities = [e] ∧ e.id = "entity_1" ∧ e.keyword = "TREE" ∧ e.position = .ofPoint (m.point x y) ∧
      c.diagnostics = [] ∧ c.drawn = 1 := by
  let start : Context := { vocabulary := v, strict }
  have hsound : start.Sound := Context.Reachable.start.sound
  obtain ⟨c, e, hstep, hentities, hid, hkeyword, hposition, hdiagnostics, hdrawn⟩ :=
    Context.step_drawing hsound hv (Statement.read_treeText (s := ⟨1, treeText m enclosed x y, 1, filename⟩) rfl)
  have hone : start.nextId = "entity_1" := by
    have hid : "entity_" ++ toString (0 + 1) = "entity_1" := by decide
    exact hid
  have htree : Text.upper "TREE" = "TREE" := by decide
  exact ⟨c, e, hstep, hentities, hid.trans hone, hkeyword.trans htree, hposition, hdiagnostics, hdrawn⟩

/-- An entity in a relation to a tree at a point ends up at the point and the offset of the relation. -/
theorem Resolution.SettledTo.beside_tree {e e' : Entity} {p : Int × Int × Int} {rel : Relation}
    {distance : Option Number} {sources : List (String × Statement)} {settled : Resolution}
    (h : SettledTo (.ofEntities [e, e']) sources [e, e'] 2 settled) (hid : e.id = "entity_1")
    (hid' : e'.id = "entity_2") (hkeyword : e.keyword = "TREE") (hposition : e.position = .ofPoint p)
    (hposition' : e'.position = .pending rel "TREE" distance) :
    settled.warnings = [] ∧ settled.entities = [e, { e' with position := .ofPoint (p + rel.offset) }] := by
  have hresolved : e.position.isResolved = true := by rw [hposition, Position.isResolved_ofPoint]
  have hpending : e'.position.isResolved = false := by rw [hposition']; rfl
  have htarget : targetOf? (.ofEntities [e, e']) e' = some 0 := by
    rw [targetOf?, hposition']
    exact NameTable.find?_tree hid hid' hkeyword
  have hfirst := (h.settles 0 e (by decide) rfl).resolved hresolved
  obtain ⟨r, target, hrelation, hread, hsecond⟩ := (h.settles 1 e' (by decide) rfl).found hpending 0 htarget
  obtain rfl : rel = r := by
    rw [hposition'] at hrelation
    exact Option.some.inj hrelation
  obtain rfl : e = target := Option.some.inj (hfirst.symm.trans hread)
  have hmoved : offsetFrom e.position rel e' = { e' with position := .ofPoint (p + rel.offset) } := by
    rw [offsetFrom, hposition, hposition']
    rfl
  rw [hmoved] at hsecond
  refine ⟨?_, List.ext_getElem? fun i => ?_⟩
  · rw [h.warnings]
    simp [isLost, hresolved, htarget]
  · rcases i with _ | _ | i
    · exact hfirst
    · exact hsecond
    · exact h.rest (i + 2) (by omega)

theorem readSource_treeText (hv : v.usable = true) (strict : Bool) (filename : Option String)
    (m : Position.Manner) (enclosed : Bool) (x y : Int) :
    ∃ r e, readSource v strict (treeText m enclosed x y) filename = .ok r ∧ r.success = true ∧ r.diagnostics = [] ∧
      r.scene.entities = [e] ∧ e.keyword = "TREE" ∧ e.position = .ofPoint (m.point x y) := by
  have htree := Statement.isLine_treeText m enclosed x y
  obtain ⟨c, e, hstep, hentities, -, hkeyword, hposition, hdiagnostics, -⟩ :=
    step_treeText (m := m) (x := x) (y := y) hv strict filename enclosed
  have hrun : Context.run { vocabulary := v, strict } (Statement.ofSource (treeText m enclosed x y) filename) =
      .ok c := by
    rw [Statement.ofSource_plain filename htree.ne_nil htree.plain htree.first htree.last]
    exact bind_eq_ok.mpr ⟨c, hstep, rfl⟩
  have hresolve : c.resolve = .ok (c, 0) := by
    refine Context.resolve_of_resolved fun e' he' => ?_
    rw [hentities, List.mem_singleton] at he'
    rw [he', hposition, Position.isResolved_ofPoint]
  have hsuccess : (Result.ofContext c).success = true := success_of_nil hdiagnostics
  exact ⟨.ofContext c, e, readSource_eq_ok.mpr ⟨c, _, hrun, hresolve, rfl⟩, hsuccess, hdiagnostics, hentities, hkeyword,
    hposition⟩

theorem readSource_ballText (hv : v.usable = true) (strict : Bool) (filename : Option String)
    (m : Position.Manner) (enclosed : Bool) (x y : Int) (rel : Relation) (distance : Option Int) :
    ∃ r e e', readSource v strict (treeText m enclosed x y ++ "\n" ++ ballText rel distance) filename = .ok r ∧
      r.success = true ∧ r.diagnostics = [] ∧ r.scene.entities = [e, e'] ∧
      e.keyword = "TREE" ∧ e.position = .ofPoint (m.point x y) ∧
      e'.keyword = "BALL" ∧ e'.position = .ofPoint (m.point x y + rel.offset) := by
  have htree := Statement.isLine_treeText m enclosed x y
  obtain ⟨c, e, hstep, hentities, hid, hkeyword, hposition, hdiagnostics, hdrawn⟩ :=
    step_treeText (m := m) (x := x) (y := y) hv strict filename enclosed
  have hsound : c.Sound := (Context.Reachable.start.step hstep).sound
  have hv' : c.vocabulary.usable = true := by rw [Context.step_vocabulary hstep, hv]
  obtain ⟨d, e', hstep', hentities', hid', hkeyword', hposition', hdiagnostics', -⟩ :=
    Context.step_drawing hsound hv' (Statement.read_ballText (s := ⟨2, ballText rel distance, 1, filename⟩) rfl)
  have hrun : Context.run { vocabulary := v, strict }
      (Statement.ofSource (treeText m enclosed x y ++ "\n" ++ ballText rel distance) filename) = .ok d := by
    rw [Statement.ofSource_two htree (Statement.isLine_ballText rel distance)]
    exact bind_eq_ok.mpr ⟨c, hstep, bind_eq_ok.mpr ⟨d, hstep', rfl⟩⟩
  have hsilent : d.diagnostics = [] := by
    rw [hdiagnostics', hdiagnostics]
    rfl
  have htwo : c.nextId = "entity_2" := by
    rw [Context.nextId, hdrawn]
    decide
  obtain ⟨r, settled, hread, hsuccess, hreports, hscene, hsettled⟩ := exists_settled hrun hsilent
  rw [hentities', hentities] at hsettled
  obtain ⟨hwarnings, hplaced⟩ := hsettled.beside_tree hid (hid'.trans htwo) hkeyword hposition hposition'
  have hball : Text.upper "BALL" = "BALL" := by decide
  exact ⟨r, e, _, hread, hsuccess, hreports.trans hwarnings, hscene.trans hplaced, hkeyword, hposition,
    hkeyword'.trans hball, rfl⟩

/-- Integer coordinates survive from end to end. A tree drawn at two integers, in any of the written forms, is the one
    entity of the scene and stands at their point, or in the middle of their grid cell, and nothing is reported. A ball
    drawn after it in any relation to it, at any stated distance or none, stands at this point and the fixed offset of
    the relation. -/
theorem readSource_coordinates (v : Vocabulary) (hv : v.usable = true) (strict : Bool) (filename : Option String)
    (m : Position.Manner) (enclosed : Bool) (x y : Int) :
    (∃ r e, readSource v strict (treeText m enclosed x y) filename = .ok r ∧ r.success = true ∧
        r.diagnostics = [] ∧ r.scene.entities = [e] ∧ e.keyword = "TREE" ∧ e.position = .ofPoint (m.point x y)) ∧
      ∀ (rel : Relation) (distance : Option Int), ∃ r e e',
        readSource v strict (treeText m enclosed x y ++ "\n" ++ ballText rel distance) filename = .ok r ∧
          r.success = true ∧ r.diagnostics = [] ∧ r.scene.entities = [e, e'] ∧
          e.keyword = "TREE" ∧ e.position = .ofPoint (m.point x y) ∧
          e'.keyword = "BALL" ∧ e'.position = .ofPoint (m.point x y + rel.offset) := by
  constructor
  · exact readSource_treeText hv strict filename m enclosed x y
  · intro rel distance
    exact readSource_ballText hv strict filename m enclosed x y rel distance

/-- A ball in front of a tree in a grid cell far to the left. -/
theorem readSource_coordinates_cell :
    Vocabulary.bundled.usable = true ∧ ∃ r e e',
      readSource .bundled false
          "DRAW TREE AT GRID (2, -12345678901234567890)\nDRAW BALL IN FRONT OF TREE WITH DISTANCE -7" none = .ok r ∧
        r.success = true ∧ r.diagnostics = [] ∧ r.scene.entities = [e, e'] ∧ e.keyword = "TREE" ∧
        e.position = .ofPoint (-1851851835185185183400, 400, 0) ∧ e'.keyword = "BALL" ∧
        e'.position = .ofPoint (-1851851835185185183400, 500, 30) := by
  have hread := (readSource_coordinates .bundled Vocabulary.usable_bundled false none .grid true 2
    (-12345678901234567890)).2 .inFrontOf (some (-7))
  have hsource : treeText .grid true 2 (-12345678901234567890) ++ "\n" ++ ballText .inFrontOf (some (-7)) =
      "DRAW TREE AT GRID (2, -12345678901234567890)\nDRAW BALL IN FRONT OF TREE WITH DISTANCE -7" := by decide +kernel
  rw [hsource] at hread
  exact ⟨Vocabulary.usable_bundled, hread⟩

end Scenes

end SceneScript
