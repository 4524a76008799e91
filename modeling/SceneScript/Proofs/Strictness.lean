import SceneScript.Proofs.Parses

/-!
Strictness. A strict lookup searches the first of the catalogs that a lenient one searches, so the two find the
same unless the strict one finds nothing. A strict parse that misses nothing a lenient lookup would find in its
place is the lenient parse.
-/

namespace SceneScript

/-! ### Lookups -/

/-- What is looked up in the catalogs: a keyword in upper case, or the name of an environment. -/
inductive Lookup where
  | entity (keyword : String)
  | environment (name : String)
  deriving Repr, DecidableEq

namespace Lookup

/-- The lookup finds nothing with the extensions loaded by then. -/
def misses (v : Vocabulary) (loaded : List String) (strict : Bool) : Lookup → Bool
  | .entity keyword => (v.entity? keyword loaded strict).isNone
  | .environment name => (v.environment? name loaded strict).isNone

/-- A strict lookup finds something if a lenient one does. -/
def Unhidden (v : Vocabulary) (loaded : List String) (l : Lookup) : Prop :=
  l.misses v loaded true = true → l.misses v loaded false = true

/-- The lookup of a keyword in any case. Animals are not looked up. -/
def ofKeyword? (keyword : String) : Option Lookup :=
  match Vocabulary.animalKind? (Text.upper keyword) with
  | some _ => none
  | none => some (.entity (Text.upper keyword))

end Lookup

def Command.lookup? : Command → Option Lookup
  | .environment name => some (.environment (Text.lower name.lexeme))
  | .draw keyword _ _ => Lookup.ofKeyword? keyword
  | .update reference _ => Lookup.ofKeyword? reference.wordText
  | .load _ | .exportAs _ => none

def Statement.lookup? (s : Statement) : Option Lookup := s.read.outcome.toOption.bind Command.lookup?

/-- The lookups of a run in order, each with the extensions loaded by then. -/
def Context.lookups (c : Context) : List Statement → List (Lookup × List String)
  | [] => []
  | s :: statements =>
    (s.lookup?.map (·, c.extensions)).toList ++
      match c.step s with
      | .ok d => d.lookups statements
      | .error _ => []

/-! ### Catalogs -/

namespace Vocabulary

variable {v : Vocabulary} {loaded : List String}

theorem findSome?_append_of_missed {α β : Type} {f : α → Option β} {first others : List α}
    (h : (first.findSome? f).isNone = true → ((first ++ others).findSome? f).isNone = true) :
    (first ++ others).findSome? f = first.findSome? f := by
  cases hfound : first.findSome? f with
  | none =>
    rw [hfound] at h
    exact Option.isNone_iff_eq_none.mp (h rfl)
  | some b => rw [List.findSome?_append, hfound, Option.some_or]

theorem entity?_lenient {keyword : String} (h : (Lookup.entity keyword).Unhidden v loaded) :
    v.entity? keyword loaded false = v.entity? keyword loaded true := by
  have hmissed : (v.entity? keyword loaded true).isNone = true → (v.entity? keyword loaded false).isNone = true := h
  have hstrict : v.entity? keyword loaded true =
      (v.core ++ v.active loaded).findSome? fun c => Assoc.get? c.entities (Text.upper keyword) := by
    rw [entity?, inactive, if_pos rfl, List.append_nil]
  rw [hstrict] at hmissed ⊢
  exact findSome?_append_of_missed hmissed

theorem environment?_lenient {name : String} (h : (Lookup.environment name).Unhidden v loaded) :
    v.environment? name loaded false = v.environment? name loaded true := by
  have hmissed : (v.environment? name loaded true).isNone = true → (v.environment? name loaded false).isNone = true :=
    h
  have hstrict : v.environment? name loaded true =
      (v.active loaded ++ v.core).findSome? fun c => Assoc.get? c.environments (Text.lower name) := by
    rw [environment?, inactive, if_pos rfl, List.append_nil]
  rw [hstrict] at hmissed ⊢
  exact findSome?_append_of_missed hmissed

theorem typeOf_lenient {keyword : String} (h : ∀ l ∈ Lookup.ofKeyword? keyword, l.Unhidden v loaded) :
    v.typeOf keyword loaded false = v.typeOf keyword loaded true := by
  unfold typeOf
  unfold Lookup.ofKeyword? at h
  cases hkind : animalKind? (Text.upper keyword) with
  | some kind => simp only [hkind]
  | none =>
    rw [hkind] at h
    simp only [hkind, entity?_lenient (h _ rfl)]

end Vocabulary

/-! ### Runs -/

namespace Context

variable {c c' : Context} {s : Statement}

/-- The context in lenient mode. -/
def lenient (c : Context) : Context := { c with strict := false }

theorem vocabulary_lenient : c.lenient.vocabulary = c.vocabulary := rfl

theorem scene_lenient : c.lenient.scene = c.scene := rfl

theorem typeOf_lenient (hc : c.strict = true) {keyword : String}
    (h : ∀ l ∈ Lookup.ofKeyword? keyword, l.Unhidden c.vocabulary c.extensions) :
    c.lenient.typeOf keyword = c.typeOf keyword := by
  rw [typeOf, typeOf, hc]
  exact Vocabulary.typeOf_lenient h

theorem load_lenient (source : String) (name : Token) : c.lenient.load source name = (c.load source name).lenient := by
  have hloaded : ∀ extension, c.lenient.loadExtension extension = (c.loadExtension extension).lenient := by
    intro extension
    unfold loadExtension
    split <;> split <;> first | rfl | contradiction
  simp only [load, hloaded]
  split <;> split <;> first | rfl | contradiction

theorem setEnvironment_lenient (hc : c.strict = true) {name : Token}
    (h : (Lookup.environment (Text.lower name.lexeme)).Unhidden c.vocabulary c.extensions) :
    c.lenient.setEnvironment name = (c.setEnvironment name).lenient := by
  have hfound := Vocabulary.environment?_lenient h
  rw [← hc] at hfound
  unfold setEnvironment
  simp only [lenient, hfound]

theorem draw_lenient {keyword : String} {clauses : List Token} {placed : Position.Placed}
    (htype : c.lenient.typeOf keyword = c.typeOf keyword) :
    c.lenient.draw s keyword clauses placed = (c.draw s keyword clauses placed).map lenient := by
  simp only [draw, htype, vocabulary_lenient, scene_lenient, Scene.add]
  cases c.vocabulary.attributesFor (c.typeOf keyword).subtype with
  | error fault => rfl
  | ok defaults =>
    cases Attributes.read s.text clauses with
    | error fault => rfl
    | ok stated => cases c.scene.frozen <;> rfl

theorem update_lenient {reference : Token} {clauses : List Token}
    (htype : c.lenient.typeOf reference.wordText = c.typeOf reference.wordText) :
    c.lenient.update s reference clauses = (c.update s reference clauses).map lenient := by
  have hrefers : c.lenient.refersTo reference = c.refersTo reference := by
    funext e
    simp only [refersTo, htype]
  simp only [update, hrefers, scene_lenient]
  cases c.scene.entities.find? (c.refersTo reference) with
  | none => rfl
  | some e => cases Attributes.read s.text clauses <;> rfl

theorem carryOut_lenient (hc : c.strict = true) {command : Command}
    (h : ∀ l ∈ command.lookup?, l.Unhidden c.vocabulary c.extensions) :
    c.lenient.carryOut s command = (c.carryOut s command).map lenient := by
  cases command with
  | load name => exact congrArg Except.ok (load_lenient s.text name)
  | environment name => exact congrArg Except.ok (setEnvironment_lenient hc (h _ rfl))
  | draw keyword clauses placed => exact draw_lenient (typeOf_lenient hc h)
  | update reference clauses => exact update_lenient (typeOf_lenient hc h)
  | exportAs options => rfl

theorem step_lenient (hc : c.strict = true) (h : ∀ l ∈ s.lookup?, l.Unhidden c.vocabulary c.extensions) :
    c.lenient.step s = (c.step s).map lenient := by
  have hbegin : c.lenient.begin s s.read = (c.begin s s.read).lenient := rfl
  simp only [step, attempt_eq]
  cases houtcome : s.read.outcome with
  | ok command =>
    have hlookup : s.lookup? = command.lookup? := by
      rw [Statement.lookup?, houtcome]
      rfl
    rw [hlookup] at h
    have hcarried : (c.begin s s.read).lenient.carryOut s command =
        ((c.begin s s.read).carryOut s command).map lenient :=
      carryOut_lenient (c := c.begin s s.read) hc h
    simp only [hbegin, hcarried]
    cases (c.begin s s.read).carryOut s command <;> rfl
  | error failure => cases failure <;> rfl

/-- The mode does not matter to a run whose lookups are none of them hidden. -/
theorem run_lenient (hc : c.strict = true) {statements : List Statement}
    (h : ∀ p ∈ c.lookups statements, p.1.Unhidden c.vocabulary p.2) :
    c.lenient.run statements = (c.run statements).map lenient := by
  induction statements generalizing c with
  | nil => rfl
  | cons s statements ih =>
    have hfirst : ∀ l ∈ s.lookup?, l.Unhidden c.vocabulary c.extensions := by
      intro l hl
      refine h (l, c.extensions) (List.mem_append_left _ ?_)
      rw [Option.mem_toList, hl]
      rfl
    rw [run_cons, run_cons, step_lenient hc hfirst]
    cases hstep : c.step s with
    | error fault => rfl
    | ok d =>
      obtain ⟨hvocabulary, hstrict⟩ := step_kept hstep
      have hlater : ∀ p ∈ d.lookups statements, p.1.Unhidden d.vocabulary p.2 := by
        intro p hp
        rw [hvocabulary]
        refine h p (List.mem_append_right _ ?_)
        rw [hstep]
        exact hp
      exact ih (hstrict.trans hc) hlater

theorem resolve_lenient (c : Context) : c.lenient.resolve = c.resolve.map fun p => (p.1.lenient, p.2) := by
  have hdiagnostics : c.lenient.diagnostics = c.diagnostics := rfl
  have hsources : c.lenient.sources = c.sources := rfl
  unfold resolve
  rw [hdiagnostics, hsources, scene_lenient]
  cases Diagnostic.anyError c.diagnostics with
  | true => rfl
  | false =>
    obtain ⟨r, fault⟩ := Resolution.ofEntities c.scene.entities c.sources
    cases fault <;> rfl

end Context

/-! ### Parses -/

/-- Strict mode only hides extensions that are not loaded. If every lookup of the strict parse that finds nothing
    would find nothing in lenient mode too, at the same extensions, both modes end alike: with the same result, or
    with the same fault. -/
theorem readSource_strict {v : Vocabulary} {source : String} {filename : Option String}
    (h : ∀ p ∈ Context.lookups { vocabulary := v, strict := true } (Statement.ofSource source filename),
      p.1.misses v p.2 true = true → p.1.misses v p.2 false = true) :
    readSource v true source filename = readSource v false source filename := by
  have hrun := Context.run_lenient (c := { vocabulary := v, strict := true }) rfl h
  have hstart : ({ vocabulary := v, strict := false } : Context) =
      ({ vocabulary := v, strict := true } : Context).lenient := rfl
  rw [readSource, readSource, hstart, hrun]
  cases ({ vocabulary := v, strict := true } : Context).run (Statement.ofSource source filename) with
  | error fault => rfl
  | ok c =>
    simp only [Except.map, bind, Except.bind, Context.resolve_lenient]
    cases c.resolve <;> rfl

/-- A teacher in a loaded extension, an animal, and a keyword that no catalog has. -/
theorem readSource_strict_loaded :
    readSource .bundled true "LOAD EXTENSION educational\nDRAW TEACHER\nDRAW ANIMAL DOG\nUPDATE DRAGON WITH SIZE 2" none =
      readSource .bundled false "LOAD EXTENSION educational\nDRAW TEACHER\nDRAW ANIMAL DOG\nUPDATE DRAGON WITH SIZE 2"
        none :=
  readSource_strict (by decide +kernel)

end SceneScript
