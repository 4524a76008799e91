import SceneScript.File.Tree
import SceneScript.Proofs.Isolation

/-!
What a directory holds. A name without slashes is one part of a path, and the directory that a path leads to holds
a node of the name exactly if the path with this part after it leads somewhere. So listing a directory and asking
for what stands in it agree.
-/

namespace SceneScript

/-! ### Names -/

namespace Path

/-- A text that can be one part of a path, and leads on from a directory. -/
structure IsName (name : String) : Prop where
  slash : '/' ∉ name.toList
  ne_empty : name ≠ ""
  ne_dot : name ≠ "."
  ne_dots : name ≠ ".."

instance (name : String) : Decidable (IsName name) :=
  decidable_of_iff ('/' ∉ name.toList ∧ name ≠ "" ∧ name ≠ "." ∧ name ≠ "..")
    ⟨fun ⟨h₁, h₂, h₃, h₄⟩ => ⟨h₁, h₂, h₃, h₄⟩, fun ⟨h₁, h₂, h₃, h₄⟩ => ⟨h₁, h₂, h₃, h₄⟩⟩

/-- The path of one part. -/
def ofName (name : String) : Path := { parts := [name] }

theorem ofString_eq_ofName {name : String} (h : IsName name) : ofString name = ofName name := by
  have hpieces : Text.splitAt '/' name.toList = [name.toList] := by
    have hlone : ∀ piece ∈ [name.toList], '/' ∉ piece := List.forall_mem_singleton.mpr h.slash
    have hsplit := Text.splitAt_intercalate (List.cons_ne_nil _ _) hlone
    rwa [List.intercalate_singleton] at hsplit
  have hanchor : name.startsWith "/" = false := by
    refine Bool.eq_false_iff.mpr fun hstarts => h.slash ?_
    have hfront := String.startsWith_string_iff.mp hstarts
    exact List.IsPrefix.subset hfront List.mem_cons_self
  simp only [ofString, hpieces, hanchor, List.map_singleton, String.ofList_toList, ofName]
  simp [h.ne_empty, h.ne_dot]

/-- A name with an ending of four letters loses it, unless there is nothing before. -/
theorem stemOf_append {stem ending : String} (hending : ending.toList.head? = some '.')
    (hlength : 1 < ending.length) (hdot : '.' ∉ ending.toList.tail) :
    stemOf (stem ++ ending) = if stem = "" then ending else stem := by
  obtain ⟨rest, hrest⟩ := List.head?_eq_some_iff.mp hending
  rw [hrest, List.tail_cons] at hdot
  have hchars : (stem ++ ending).toList = stem.toList ++ '.' :: rest := by rw [String.toList_append, hrest]
  have htake : (stem ++ ending).toList.reverse.takeWhile (· ≠ '.') = rest.reverse := by
    have hall : ∀ c ∈ rest.reverse, decide (c ≠ '.') = true := fun c hc =>
      decide_eq_true fun hc' => hdot (hc' ▸ List.mem_reverse.mp hc)
    rw [hchars, List.reverse_append, List.reverse_cons, List.append_assoc, List.takeWhile_append_of_pos hall]
    simp
  have hcount : (stem ++ ending).toList.length = stem.toList.length + (rest.length + 1) := by
    rw [hchars, List.length_append, List.length_cons]
  have hsome : rest ≠ [] := by
    intro hnil
    rw [← String.length_toList, hrest, hnil] at hlength
    exact absurd hlength (by decide)
  have hstem :
      (stem ++ ending).toList.take ((stem ++ ending).toList.length - rest.reverse.length - 1) = stem.toList := by
    rw [hcount, List.length_reverse, hchars]
    have hplace : stem.toList.length + (rest.length + 1) - rest.length - 1 = stem.toList.length := by omega
    rw [hplace, List.take_left]
  simp only [stemOf, htake, hstem]
  by_cases hempty : stem = ""
  · subst hempty
    simp
  · have hwhole : rest.reverse.length ≠ (stem ++ ending).toList.length := by
      rw [hcount, List.length_reverse]
      omega
    have hchars : stem.toList ≠ [] := by simpa using hempty
    have hnot : ¬(rest.reverse.isEmpty || decide (rest.reverse.length = (stem ++ ending).toList.length) ||
        stem.toList.isEmpty) = true := by
      simp only [Bool.or_eq_true, List.isEmpty_iff, List.reverse_eq_nil_iff, decide_eq_true_eq, hsome, hwhole, hchars,
        or_self, not_false_eq_true]
    rw [if_neg hempty, if_neg hnot, String.ofList_toList]

end Path

/-! ### Directories -/

namespace FileTree

variable {t : FileTree} {path whole : Path} {name : String}

/-- The parts of all paths are names, also those of the current directory, which is listed in the one above. -/
structure WellFormed (t : FileTree) : Prop where
  names : ∀ node ∈ t.nodes, ∀ part ∈ node.1.parts, Path.IsName part
  current : ∀ part ∈ t.cwd.parts, Path.IsName part
  listed : t.cwd.parts = [] ∨ (t.nodes.lookup t.cwd).isSome

theorem node?_join (h : t.WellFormed) (whole : Path) (name : String) :
    t.node? (whole.join (.ofName name)) = none ↔ t.nodes.lookup (whole.join (.ofName name)) = none := by
  have hparts : (whole.join (.ofName name)).parts.isEmpty = false := by
    simp [Path.join, Path.ofName]
  unfold node?
  rw [hparts]
  by_cases hcurrent : whole.join (.ofName name) = t.cwd
  · have hsome : (t.nodes.lookup t.cwd).isSome := h.listed.resolve_left fun hnil => by
      rw [hcurrent, hnil] at hparts
      exact absurd hparts (by decide)
    rw [hcurrent]
    simp [Option.isSome_iff_ne_none.mp hsome]
  · simp [hcurrent]

/-- The nodes in a directory are those one part further. -/
theorem mem_children (hwhole : t.locate? path = some whole) :
    name ∈ t.children path ↔ ∃ node, (whole.join (.ofName name), node) ∈ t.nodes := by
  have hfurther : ∀ q : Path, q.parts.length = whole.parts.length + 1 ∧ q.parent? = some whole ∧ q.name = name ↔
      q = whole.join (.ofName name) := by
    rintro ⟨anchor, parts⟩
    constructor
    · rintro ⟨hlength, hparent, hname⟩
      have hne : parts ≠ [] := fun hnil => by simp [hnil] at hlength
      simp only [Path.parent?, List.isEmpty_eq_false_iff.mpr hne, Bool.false_and, Bool.false_eq_true, ↓reduceIte,
        Option.some.injEq] at hparent
      obtain ⟨rfl⟩ := hparent
      simp only [Path.name, List.getLast?_eq_some_getLast hne, Option.getD_some] at hname
      simp only [Path.join, Path.ofName, Path.mk.injEq, true_and]
      rw [← hname, List.dropLast_concat_getLast hne]
    · rintro heq
      cases heq
      simp [Path.parent?, Path.name, Path.ofName]
  unfold children
  rw [hwhole]
  simp only [List.mem_map, List.mem_filter, Bool.and_eq_true, decide_eq_true_eq]
  constructor
  · rintro ⟨⟨q, node⟩, ⟨hmem, hlength, hparent⟩, hname⟩
    obtain rfl := (hfurther q).mp ⟨hlength, hparent, hname⟩
    exact ⟨node, hmem⟩
  · rintro ⟨node, hmem⟩
    obtain ⟨hlength, hparent, hname⟩ := (hfurther _).mpr rfl
    exact ⟨(_, node), ⟨hmem, hlength, hparent⟩, hname⟩

theorem isName_of_mem_children (h : t.WellFormed) (hmem : name ∈ t.children path) : Path.IsName name := by
  cases hwhole : t.locate? path with
  | none => simp [children, hwhole] at hmem
  | some whole =>
    obtain ⟨node, hnode⟩ := (mem_children hwhole).mp hmem
    exact h.names _ hnode name (by simp [Path.join, Path.ofName])

/-! ### One part further -/

theorem follow_append (place : Path) (parts more : List String) :
    t.follow place (parts ++ more) = (t.follow place parts).bind fun above => t.follow above more := by
  induction parts generalizing place with
  | nil =>
    rw [List.nil_append, follow]
    cases hnode : t.node? place with
    | some node => rfl
    | none => cases more <;> simp [follow, hnode]
  | cons part rest ih =>
    rw [List.cons_append, follow, follow]
    split
    · rfl
    · split
      · cases place.parent? with
        | none => rfl
        | some above => exact ih above
      · exact ih _

theorem follow_name (hname : Path.IsName name) (hdirectory : t.node? whole = some .directory) :
    t.follow whole [name] =
      if (t.node? (whole.join (.ofName name))).isSome then some (whole.join (.ofName name)) else none := by
  rw [follow, if_neg (by simp [hdirectory]), if_neg hname.ne_dots, follow]
  rfl

theorem normalize_join (p : Path) (hname : Path.IsName name) :
    (p.join (.ofName name)).normalize = p.normalize.join (.ofName name) := by
  have hstep : ∀ q : Path, q.step name = q.join (.ofName name) := fun q => by
    simp [Path.step, Path.join, Path.ofName, hname.ne_dots]
  simp only [Path.normalize, Path.join, Path.ofName, List.foldl_append, List.foldl_cons, List.foldl_nil]
  exact hstep _

theorem normalize_of_names {p : Path} (h : ∀ part ∈ p.parts, Path.IsName part) : p.normalize = p := by
  have hfold : ∀ (parts : List String) (q : Path), (∀ part ∈ parts, Path.IsName part) →
      parts.foldl Path.step q = { q with parts := q.parts ++ parts } := by
    intro parts
    induction parts with
    | nil => simp
    | cons part rest ih =>
      intro q hparts
      obtain ⟨hpart, hrest⟩ := List.forall_mem_cons.mp hparts
      rw [List.foldl_cons, ih _ hrest]
      simp [Path.step, hpart.ne_dots]
  exact hfold p.parts { p with parts := [] } h

/-- From outside, one part leads into the current directory only by leading to it. -/
theorem join_eq_current {p : Path}
    (houtside : ¬(p.anchor = t.cwd.anchor && t.cwd.parts.isPrefixOf p.parts) = true)
    (hinside : (p.anchor = t.cwd.anchor && t.cwd.parts.isPrefixOf (p.parts ++ [name])) = true) :
    p.join (.ofName name) = t.cwd := by
  simp only [Bool.and_eq_true, decide_eq_true_eq, List.isPrefixOf_iff_prefix] at houtside hinside
  obtain ⟨hroot, hprefix⟩ := hinside
  rcases List.prefix_concat_iff.mp hprefix with heq | hprefix
  · rw [Path.mk.injEq]
    exact ⟨hroot, heq.symm⟩
  · exact absurd ⟨hroot, hprefix⟩ houtside

/-- A path leads one part further exactly if there is a node of this name where it leads to. -/
theorem locate?_join (h : t.WellFormed) (hname : Path.IsName name) (hwhole : t.locate? path = some whole)
    (hdirectory : t.node? whole = some .directory) :
    t.locate? (path.join (.ofName name)) =
      if (t.node? (whole.join (.ofName name))).isSome then some (whole.join (.ofName name)) else none := by
  have hjoin : t.cwd.join (path.join (.ofName name)) = (t.cwd.join path).join (.ofName name) := by
    obtain ⟨anchor, parts⟩ := path
    cases anchor <;> simp [Path.join, Path.ofName]
  unfold locate? at hwhole ⊢
  simp only [hjoin] at hwhole ⊢
  generalize t.cwd.join path = p at hwhole ⊢
  have hparts : (p.join (.ofName name)).parts = p.parts ++ [name] := rfl
  have hanchor : (p.join (.ofName name)).anchor = p.anchor := rfl
  rw [hparts, hanchor]
  by_cases hinside : (p.anchor = t.cwd.anchor && t.cwd.parts.isPrefixOf p.parts) = true
  · simp only [Bool.and_eq_true, decide_eq_true_eq, List.isPrefixOf_iff_prefix] at hinside
    obtain ⟨hroot, rest, hrest⟩ := hinside
    have hfurther : (p.anchor = t.cwd.anchor && t.cwd.parts.isPrefixOf (p.parts ++ [name])) = true := by
      simp only [Bool.and_eq_true, decide_eq_true_eq, List.isPrefixOf_iff_prefix]
      exact ⟨hroot, rest ++ [name], by rw [← hrest, List.append_assoc]⟩
    rw [if_pos (by simp [hroot, ← hrest])] at hwhole
    rw [if_pos hfurther, ← hrest, List.append_assoc, List.drop_left, follow_append]
    rw [← hrest, List.drop_left] at hwhole
    rw [hwhole]
    exact follow_name hname hdirectory
  · rw [if_neg hinside] at hwhole
    obtain ⟨-, hnormal⟩ := Option.ite_none_right_eq_some.mp hwhole
    cases hnormal
    by_cases hfurther : (p.anchor = t.cwd.anchor && t.cwd.parts.isPrefixOf (p.parts ++ [name])) = true
    · have hcurrent : p.join (.ofName name) = t.cwd := join_eq_current hinside hfurther
      have hnormal : p.normalize = p := normalize_of_names fun part hpart =>
        h.current part (by rw [← hcurrent]; exact List.mem_append_left [name] hpart)
      have hdrop : (p.parts ++ [name]).drop t.cwd.parts.length = [] := by
        rw [← hcurrent]
        exact List.drop_length
      rw [if_pos hfurther, hdrop, hnormal, hcurrent]
      rfl
    · rw [if_neg hfurther, normalize_join p hname]

/-- What a directory lists is there, and nothing else is. -/
theorem contains_join_iff (h : t.WellFormed) (hname : Path.IsName name) (hpath : t.isDirectory path = true) :
    t.contains (path.join (.ofName name)) = true ↔ name ∈ t.children path := by
  obtain ⟨whole, hwhole, hdirectory⟩ := Option.bind_eq_some_iff.mp (of_decide_eq_true hpath)
  have hlisted : name ∈ t.children path ↔ t.nodes.lookup (whole.join (.ofName name)) ≠ none := by
    rw [mem_children hwhole, ← Option.isSome_iff_ne_none, List.lookup_isSome_iff]
    constructor
    · rintro ⟨node, hnode⟩
      exact ⟨_, hnode, beq_self_eq_true _⟩
    · rintro ⟨⟨q, node⟩, hnode, hq⟩
      exact ⟨node, by rwa [eq_of_beq hq]⟩
  rw [hlisted, ne_eq, ← node?_join h, contains, locate?_join h hname hwhole hdirectory]
  cases t.node? (whole.join (.ofName name)) <;> simp

end FileTree

end SceneScript
