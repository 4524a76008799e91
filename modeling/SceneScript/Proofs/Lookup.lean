import SceneScript.Proofs.Lexemes
import SceneScript.Proofs.Naming
import SceneScript.Proofs.UpperCase

/-!
What names mean. They are entered in three rounds, and the first entry of a name stays: so a name means the first entity
of an id, else of an alias, else of a keyword or a subtype. A text means its name in upper case, or else that name with
an underscore for each run of blanks.
-/

namespace SceneScript

/-! ### The table of names -/

namespace Assoc

variable {α : Type}

theorem get?_map_pair (names : List String) (a : α) (name : String) :
    get? (names.map (·, a)) name = if names.contains name then some a else none := by
  induction names with
  | nil => rfl
  | cons first names ih =>
    rw [List.map_cons, get?, List.contains_cons, ih]
    by_cases hname : first = name
    · simp [hname]
    · simp [hname, Ne.symm hname]

/-- Among the names of all elements, each beside the place, a name stands for the first element that has it. -/
theorem get?_zipIdx (names : α → List String) (l : List α) (n : Nat) (name : String) :
    get? ((l.zipIdx n).flatMap fun p => (names p.1).map (·, p.2)) name =
      (l.findIdx? fun a => (names a).contains name).map (· + n) := by
  induction l generalizing n with
  | nil => rfl
  | cons a l ih =>
    rw [List.zipIdx_cons, List.flatMap_cons, get?_append, get?_map_pair, ih, List.findIdx?_cons]
    split
    · rw [Option.some_or, Option.map_some, Nat.zero_add]
    · rw [Option.none_or, Option.map_map]
      refine congrArg (fun f => Option.map f _) (funext fun i => ?_)
      rw [Function.comp_apply, Nat.add_assoc, Nat.add_comm 1 n]

/-- With distinct words only the pair of the word itself counts. -/
theorem get?_filterMap {words : List (String × String)} (h : (keys words).Nodup) (f : String → Option α)
    (word : String) :
    get? (words.filterMap fun p => (f p.2).map (p.1, ·)) word = (get? words word).bind f := by
  induction words with
  | nil => rfl
  | cons p words ih =>
    obtain ⟨hnew, hrest⟩ := List.nodup_cons.mp h
    have hrest := ih hrest
    rw [List.filterMap_cons, get?]
    by_cases hp : p.1 = word
    · subst hp
      rw [if_pos (beq_self_eq_true p.1), Option.bind_some]
      cases f p.2 with
      | none =>
        rw [Option.map_none, hrest, get?_of_notMem hnew]
        rfl
      | some a =>
        rw [Option.map_some, get?, if_pos (beq_self_eq_true p.1)]
    · rw [if_neg (by simpa using hp), ← hrest]
      cases f p.2 with
      | none => rfl
      | some a => rw [Option.map_some, get?, if_neg (by simpa using hp)]

end Assoc

namespace NameTable

/-- What a name means: the first entity of that id; else, for an alias, the first entity of its subtype; else the
    first entity of that keyword or that subtype. -/
def meant? (entities : List Entity) (name : String) : Option Nat :=
  (entities.findIdx? fun e => Text.upper e.id = name).or
    (((Assoc.get? aliases name).bind fun subtype => entities.findIdx? fun e => e.subtype = subtype).or
      (entities.findIdx? fun e => (e.keyword ≠ "" ∧ Text.upper e.keyword = name) ∨ Text.upper e.subtype = name))

theorem get?_idNames (entities : List Entity) (name : String) :
    Assoc.get? (idNames entities) name = entities.findIdx? fun e => Text.upper e.id = name := by
  have hnames : idNames entities = entities.zipIdx.flatMap fun p => [Text.upper p.1.id].map (·, p.2) :=
    List.map_eq_flatMap
  have hfound := Assoc.get?_zipIdx (fun e : Entity => [Text.upper e.id]) entities 0 name
  rw [← hnames] at hfound
  simpa [eq_comm] using hfound

theorem get?_aliasNames (entities : List Entity) (name : String) : Assoc.get? (aliasNames entities) name =
    (Assoc.get? aliases name).bind fun subtype => entities.findIdx? fun e => e.subtype = subtype := by
  have hwords : (Assoc.keys aliases).Nodup := by decide
  exact Assoc.get?_filterMap hwords (fun subtype => entities.findIdx? fun e => e.subtype = subtype) name

theorem get?_kindNames (entities : List Entity) (name : String) : Assoc.get? (kindNames entities) name =
    entities.findIdx? fun e => (e.keyword ≠ "" ∧ Text.upper e.keyword = name) ∨ Text.upper e.subtype = name := by
  have hnames : kindNames entities = entities.zipIdx.flatMap fun p =>
      ((if p.1.keyword.isEmpty then [] else [Text.upper p.1.keyword]) ++ [Text.upper p.1.subtype]).map (·, p.2) := by
    refine List.flatMap_congr fun p _ => ?_
    rw [List.map_append, apply_ite (List.map _)]
    rfl
  have hfound := Assoc.get?_zipIdx (fun e : Entity =>
    (if e.keyword.isEmpty then [] else [Text.upper e.keyword]) ++ [Text.upper e.subtype]) entities 0 name
  have hsame : (fun e : Entity => ((if e.keyword.isEmpty then [] else [Text.upper e.keyword]) ++
      [Text.upper e.subtype]).contains name) =
        fun e => decide ((e.keyword ≠ "" ∧ Text.upper e.keyword = name) ∨ Text.upper e.subtype = name) := by
    funext e
    by_cases he : e.keyword = ""
    · simp [he, @eq_comm _ name]
    · simp [he, @eq_comm _ name]
  rw [← hnames, hsame] at hfound
  simpa using hfound

theorem get?_eq_meant? (entities : List Entity) (name : String) :
    Assoc.get? (ofEntities entities) name = meant? entities name := by
  rw [get?_ofEntities, get?_idNames, get?_aliasNames, get?_kindNames, meant?]

end NameTable

/-! ### Underscores for blanks -/

namespace Text

/-- The characters with an underscore for each run of blanks. -/
def underscored : List Char → List Char
  | [] => []
  | c :: cs =>
    if isBlank c then if cs.head?.any isBlank then underscored cs else '_' :: underscored cs
    else c :: underscored cs

theorem wordsOf_cons_blank {c : Char} (h : isBlank c = true) (cs : List Char) : wordsOf (c :: cs) = wordsOf cs := by
  conv_lhs => unfold wordsOf
  exact if_pos h

theorem wordsOf_cons_cons {c d : Char} {cs word : List Char} {words : List (List Char)} (h : isBlank c = false)
    (hwords : wordsOf (d :: cs) = word :: words) :
    wordsOf (c :: d :: cs) = if isBlank d then [c] :: word :: words else (c :: word) :: words := by
  unfold wordsOf
  rw [if_neg (by simp [h]), hwords]

theorem wordsOf_ne_nil {cs : List Char} (hne : cs ≠ []) (hlast : ∀ c ∈ cs.getLast?, isBlank c = false) :
    wordsOf cs ≠ [] := by
  induction cs with
  | nil => exact absurd rfl hne
  | cons c cs ih =>
    cases cs with
    | nil => simp [wordsOf, hlast c rfl]
    | cons d cs =>
      have hrest := ih (List.cons_ne_nil d cs) hlast
      cases hc : isBlank c with
      | true => rwa [wordsOf_cons_blank hc]
      | false =>
        obtain ⟨word, words, heq⟩ := List.exists_cons_of_ne_nil hrest
        rw [wordsOf_cons_cons hc heq]
        split <;> exact List.cons_ne_nil _ _

/-- Where the last character is no blank, the words are joined by underscores, with one in front for blanks there. -/
theorem underscored_eq {cs : List Char} (hlast : ∀ c ∈ cs.getLast?, isBlank c = false) : underscored cs =
    (if cs.head?.any isBlank then ['_'] else []) ++ ['_'].intercalate (wordsOf cs) := by
  induction cs with
  | nil => rfl
  | cons c cs ih =>
    cases cs with
    | nil => simp [underscored, wordsOf, hlast c rfl]
    | cons d cs =>
      have hrest := ih hlast
      rw [underscored, hrest]
      cases hc : isBlank c with
      | true =>
        rw [wordsOf_cons_blank hc]
        cases hd : isBlank d <;> simp [hc, hd]
      | false =>
        obtain ⟨word, words, heq⟩ := List.exists_cons_of_ne_nil (wordsOf_ne_nil (List.cons_ne_nil d cs) hlast)
        rw [wordsOf_cons_cons hc heq, heq]
        cases hd : isBlank d with
        | true => simp [hc, hd]
        | false => cases words <;> simp [hc, hd]

theorem underscored_append {front : List Char} (h : ∀ c ∈ front, isBlank c = false) (cs : List Char) :
    underscored (front ++ cs) = front ++ underscored cs := by
  induction front with
  | nil => rfl
  | cons c front ih =>
    rw [List.cons_append, underscored, if_neg (by simp [h c List.mem_cons_self]),
      ih fun d hd => h d (List.mem_cons_of_mem c hd)]
    rfl

theorem underscored_eq_self {cs : List Char} (h : ∀ c ∈ cs, isBlank c = false) : underscored cs = cs := by
  have hself := underscored_append h []
  rwa [List.append_nil, underscored, List.append_nil] at hself

/-- Blanks before what is no blank become one underscore. -/
theorem underscored_blanks_append {blanks cs : List Char} (hne : blanks ≠ [])
    (hblanks : ∀ c ∈ blanks, isBlank c = true) (hcs : ∀ c ∈ cs.head?, isBlank c = false) :
    underscored (blanks ++ cs) = '_' :: underscored cs := by
  induction blanks with
  | nil => exact absurd rfl hne
  | cons c blanks ih =>
    have hc : isBlank c = true := hblanks c List.mem_cons_self
    cases blanks with
    | nil =>
      have hhead : cs.head?.any isBlank = false := by
        cases cs with
        | nil => rfl
        | cons d cs => exact hcs d rfl
      rw [List.singleton_append, underscored, if_pos hc, hhead]
      rfl
    | cons d blanks =>
      have hd : isBlank d = true := hblanks d (List.mem_cons_of_mem c List.mem_cons_self)
      rw [List.cons_append, underscored, if_pos hc, if_pos (by simp [hd])]
      exact ih (List.cons_ne_nil d blanks) fun e he => hblanks e (List.mem_cons_of_mem c he)

/-- Two words with blanks between them become one with an underscore there. -/
theorem underscored_words {front word : String} {blanks : List Char} (hfront : ∀ c ∈ front.toList, isBlank c = false)
    (hne : blanks ≠ []) (hblanks : ∀ c ∈ blanks, isBlank c = true) (hword : ∀ c ∈ word.toList, isBlank c = false) :
    String.ofList (underscored (front ++ String.ofList blanks ++ word).toList) = front ++ "_" ++ word := by
  have hhead : ∀ c ∈ word.toList.head?, isBlank c = false := fun c hc => hword c (List.mem_of_mem_head? hc)
  rw [← String.toList_inj, String.toList_ofList, String.toList_append, String.toList_append, String.toList_ofList,
    List.append_assoc, underscored_append hfront, underscored_blanks_append hne hblanks hhead,
    underscored_eq_self hword, String.toList_append, String.toList_append, List.append_assoc]
  rfl

theorem trim_of_ends {s : String} (hfirst : ∀ c ∈ s.toList.head?, isBlank c = false)
    (hlast : ∀ c ∈ s.toList.getLast?, isBlank c = false) : trim s = s := by
  rw [trim, trimChars_of_ends hfirst hlast, String.ofList_toList]

theorem head?_trimChars (cs : List Char) : ∀ c ∈ (trimChars cs).head?, isBlank c = false := by
  obtain ⟨-, after, -, hdropped, -, -⟩ := exists_trimChars cs
  intro c hc
  refine @Token.head_dropWhile isBlank cs c ?_
  rw [← dropBlanks, hdropped]
  exact List.mem_head?_append_of_mem_head? hc

theorem getLast?_trimChars (cs : List Char) : ∀ c ∈ (trimChars cs).getLast?, isBlank c = false := by
  intro c hc
  rw [trimChars, List.getLast?_reverse] at hc
  exact Token.head_dropWhile hc

theorem head?_flatMap_upperChar {cs : List Char} (h : ∀ c ∈ cs.head?, isBlank c = false) :
    ∀ c ∈ (cs.flatMap upperChar).head?, isBlank c = false := by
  cases cs with
  | nil => exact fun _ hc => nomatch hc
  | cons c cs =>
    intro d hd
    rw [List.flatMap_cons, List.head?_append_of_ne_nil _ (upperChar_ne_nil c)] at hd
    rw [isBlank_of_mem_upperChar (List.mem_of_mem_head? hd), h c rfl]

theorem getLast?_flatMap_upperChar {cs : List Char} (h : ∀ c ∈ cs.getLast?, isBlank c = false) :
    ∀ c ∈ (cs.flatMap upperChar).getLast?, isBlank c = false := by
  rcases List.eq_nil_or_concat' cs with rfl | ⟨front, c, rfl⟩
  · exact fun _ hc => nomatch hc
  · intro d hd
    rw [List.flatMap_append, List.flatMap_singleton, List.getLast?_append_of_ne_nil _ (upperChar_ne_nil c)] at hd
    rw [isBlank_of_mem_upperChar (List.mem_of_getLast? hd), h c (by simp)]

/-- In a trimmed text in upper case the words are joined by underscores where the blanks are. -/
theorem joinWords_upper_trim (s : String) :
    joinWords "_" (upper (trim s)) = String.ofList (underscored (upper (trim s)).toList) := by
  have htrim : (upper (trim s)).toList = (trimChars s.toList).flatMap upperChar := by
    rw [toList_upper_eq, trim, String.toList_ofList]
  have hhead := head?_flatMap_upperChar (head?_trimChars s.toList)
  have hlast := getLast?_flatMap_upperChar (getLast?_trimChars s.toList)
  rw [joinWords, htrim, underscored_eq hlast]
  have hnone : ((trimChars s.toList).flatMap upperChar).head?.any isBlank = false := by
    simpa [Option.any_eq_false] using hhead
  rw [hnone, ← String.toList_inj, String.toList_intercalate, List.map_map]
  simp [Function.comp_def]

end Text

/-- A text is sought in upper case without the blanks at its ends, and then with underscores for the other blanks. -/
theorem NameTable.find?_eq (table : NameTable) (target : String) :
    table.find? target = (Assoc.get? table (Text.upper (Text.trim target))).or
      (Assoc.get? table (String.ofList (Text.underscored (Text.upper (Text.trim target)).toList))) := by
  rw [← Text.joinWords_upper_trim, find?, candidates, List.findSome?_cons, List.findSome?_singleton]
  cases Assoc.get? table (Text.upper (Text.trim target)) <;> rfl

end SceneScript
