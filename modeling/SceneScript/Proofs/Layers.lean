import Mathlib.Data.List.Induction
import SceneScript.Proofs.Books
import SceneScript.Proofs.Keys

/-!
Layers of environments. The preset of an environment lies on those added before it: of the backgrounds the last that
is not empty counts, and of the lights under a key the last. A run leaves a scene in the default environment under
the presets that its statements set.
-/

namespace SceneScript

/-! ### Layers -/

/-- What a preset sets under a key of the lighting. -/
def EnvironmentDefinition.light? (preset : EnvironmentDefinition) (k : Key) : Option Data :=
  Assoc.get? (Assoc.ofPairs preset.lighting) k

namespace Environment

/-- An environment under presets, each on top of those before it. -/
def layered (presets : List EnvironmentDefinition) (e : Environment) : Environment :=
  presets.foldl Context.applyPreset e

variable (presets : List EnvironmentDefinition) (e : Environment)

/-- The last background that is not empty counts. -/
theorem background_layered :
    (e.layered presets).background =
      ((presets.reverse.map (·.background)).find? (!·.isEmpty)).getD e.background := by
  induction presets using List.reverseRecOn with
  | nil => rfl
  | append_singleton presets preset ih =>
    rw [layered, List.foldl_append, List.reverse_append, List.reverse_singleton, List.singleton_append, List.map_cons]
    have hlast : (Context.applyPreset (e.layered presets) preset).background =
      if preset.background.isEmpty then (e.layered presets).background else preset.background := rfl
    cases hempty : preset.background.isEmpty with
    | true =>
      rw [List.find?_cons_of_neg (by simp [hempty]), ← ih]
      exact hlast.trans (if_pos hempty)
    | false =>
      rw [List.find?_cons_of_pos (by simp [hempty])]
      exact hlast.trans (if_neg (by simp [hempty]))

/-- Of the lights under a key the last counts. -/
theorem light_layered {k : Key} (hk : k.isFloat = false) :
    Assoc.get? (e.layered presets).lighting k =
      (presets.reverse.findSome? (·.light? k)).or (Assoc.get? e.lighting k) := by
  induction presets using List.reverseRecOn with
  | nil => rfl
  | append_singleton presets preset ih =>
    rw [layered, List.foldl_append, List.reverse_append, List.reverse_singleton, List.singleton_append]
    have hlast : Assoc.get? (Context.applyPreset (e.layered presets) preset).lighting k =
        (preset.light? k).or (Assoc.get? (e.layered presets).lighting k) :=
      Assoc.get?_merge_of_exact (Key.exact_of_isFloat hk) _ _
    refine hlast.trans ?_
    rw [ih, List.findSome?_cons]
    cases preset.light? k <;> rfl

/-- What type an environment has below presets does not show in anything but its type. -/
theorem layered_type (type : String) : { e with type }.layered presets = { e.layered presets with type } := by
  induction presets generalizing e with
  | nil => rfl
  | cons preset presets ih => exact ih (Context.applyPreset e preset)

end Environment

/-- Two environments that lie under the same last preset, the one on earlier presets and the other on none. -/
structure Environment.SameOnTop (earlier : List EnvironmentDefinition) (last : EnvironmentDefinition)
    (e e' : Environment) : Prop where
  type : e.type = e'.type
  background : last.background.isEmpty = false → e.background = e'.background
  backgroundBelow : last.background.isEmpty = true →
    e.background =
        ((earlier.reverse.map (·.background)).find? (!·.isEmpty)).getD ({} : Environment).background ∧
      e'.background = ({} : Environment).background
  light : ∀ k : Key, k.isFloat = false → last.light? k ≠ none →
    Assoc.get? e.lighting k = Assoc.get? e'.lighting k
  lightBelow : ∀ k : Key, k.isFloat = false → last.light? k = none →
    Assoc.get? e.lighting k =
        (earlier.reverse.findSome? (·.light? k)).or (Assoc.get? ({} : Environment).lighting k) ∧
      Assoc.get? e'.lighting k = Assoc.get? ({} : Environment).lighting k
  lighting : e.lighting = Assoc.merge (({} : Environment).layered earlier).lighting last.lighting ∧
    e'.lighting = Assoc.merge ({} : Environment).lighting last.lighting

theorem Environment.sameOnTop_layered (earlier : List EnvironmentDefinition) (last : EnvironmentDefinition)
    (type : String) :
    SameOnTop earlier last { ({} : Environment).layered (earlier ++ [last]) with type }
      { ({} : Environment).layered [last] with type } := by
  have hfront : ({} : Environment).layered (earlier ++ [last]) =
      Context.applyPreset (({} : Environment).layered earlier) last := List.foldl_append
  have hreverse : (earlier ++ [last]).reverse = last :: earlier.reverse := by simp
  refine ⟨rfl, fun hsome => ?_, fun hnone => ?_, fun k hk hlight => ?_, fun k hk hlight => ?_, ?_, rfl⟩
  · simp only [background_layered, hreverse, List.reverse_singleton, List.map_cons, List.find?_cons, hsome,
      Bool.not_false]
  · simp only [background_layered, hreverse, List.reverse_singleton, List.map_cons, List.find?_cons, hnone,
      Bool.not_true]
    exact ⟨trivial, rfl⟩
  · obtain ⟨d, hd⟩ := Option.ne_none_iff_exists'.mp hlight
    simp only [light_layered _ _ hk, hreverse, List.reverse_singleton, List.findSome?_cons, hd]
  · simp only [light_layered _ _ hk, hreverse, List.reverse_singleton, List.findSome?_cons, hlight]
    exact ⟨trivial, rfl⟩
  · rw [hfront]
    rfl

/-! ### What statements set -/

namespace Statement

variable {s : Statement}

/-- The statement has the form that adds an environment. -/
def addsEnvironment (s : Statement) : Bool := s.read.opening == some .environment

/-- The extensions loaded after a statement. -/
def loads (loaded : List String) (s : Statement) : List String :=
  match s.read.outcome with
  | .ok (.load name) =>
    let extension := Text.lower name.lexeme
    if loaded.contains extension then loaded else loaded ++ [extension]
  | _ => loaded

/-- The preset that a statement sets the environment to. -/
def preset? (v : Vocabulary) (strict : Bool) (loaded : List String) (s : Statement) : Option EnvironmentDefinition :=
  match s.read.outcome with
  | .ok (.environment name) => v.environment? (Text.lower name.lexeme) loaded strict
  | _ => none

/-- The presets that statements set the environment to, in order, each found with the extensions loaded before. -/
def presets (v : Vocabulary) (strict : Bool) (loaded : List String) : List Statement → List EnvironmentDefinition
  | [] => []
  | s :: rest => (s.preset? v strict loaded).toList ++ presets v strict (s.loads loaded) rest

theorem outcome_of_addsEnvironment {command : Command} (hcommand : s.read.outcome = .ok command) :
    s.addsEnvironment = true ↔ ∃ name, command = .environment name := by
  rw [addsEnvironment, opening_of_read hcommand]
  cases command <;> simp [Command.opening]

theorem preset?_eq_some {v : Vocabulary} {strict : Bool} {loaded : List String} {preset : EnvironmentDefinition}
    (h : s.preset? v strict loaded = some preset) :
    ∃ name, s.read.outcome = .ok (.environment name) ∧
      v.environment? (Text.lower name.lexeme) loaded strict = some preset := by
  unfold preset? at h
  split at h
  · rename_i name houtcome
    exact ⟨name, houtcome, h⟩
  · cases h

end Statement

namespace Context

variable {c c' d : Context} {s : Statement} {statements : List Statement}

theorem load_extensions (source : String) (name : Token) :
    (c.load source name).extensions =
      if c.extensions.contains (Text.lower name.lexeme) then c.extensions
      else c.extensions ++ [Text.lower name.lexeme] := by
  have hloaded : (c.load source name).extensions = (c.loadExtension (Text.lower name.lexeme)).extensions := by
    unfold load
    dsimp only
    split <;> rfl
  rw [hloaded, loadExtension]
  split <;> rfl

theorem setEnvironment_layered (c : Context) (name : Token) :
    (c.setEnvironment name).scene.environment =
      { c.scene.environment.layered
          (c.vocabulary.environment? (Text.lower name.lexeme) c.extensions c.strict).toList with
        type := Text.lower name.lexeme } := by
  unfold setEnvironment
  dsimp only
  cases c.vocabulary.environment? (Text.lower name.lexeme) c.extensions c.strict <;> rfl

/-- What a statement does to the loaded extensions and to the environment. -/
theorem step_environment (h : c.step s = .ok c') :
    c'.extensions = s.loads c.extensions ∧ ∃ type, c'.scene.environment =
      { c.scene.environment.layered (s.preset? c.vocabulary c.strict c.extensions).toList with type } := by
  obtain ⟨⟨d, o⟩, hd, rfl⟩ := step_eq_ok.mp h
  rcases attempt_cases hd with ⟨command, hcommand, hcarried, rfl⟩ | ⟨r, hr, rfl, rfl⟩
  · cases command with
    | load name =>
      cases hcarried
      obtain ⟨_, _, heq, -⟩ := load_eq (c := c.begin s s.read) s.text name
      simp only [Statement.loads, Statement.preset?, hcommand]
      refine ⟨load_extensions s.text name, c.scene.environment.type, ?_⟩
      simp only [report, heq]
      rfl
    | environment name =>
      cases hcarried
      simp only [Statement.loads, Statement.preset?, hcommand]
      exact ⟨rfl, Text.lower name.lexeme, setEnvironment_layered (c.begin s s.read) name⟩
    | draw keyword clauses placed =>
      obtain ⟨_, _, -, -, -, rfl⟩ := draw_eq_ok hcarried
      simp only [Statement.loads, Statement.preset?, hcommand]
      exact ⟨rfl, c.scene.environment.type, rfl⟩
    | update reference clauses =>
      simp only [Statement.loads, Statement.preset?, hcommand]
      rcases update_eq_ok hcarried with ⟨-, rfl⟩ | ⟨_, _, -, -, rfl⟩ <;>
        exact ⟨rfl, c.scene.environment.type, rfl⟩
    | exportAs options =>
      cases hcarried
      simp only [Statement.loads, Statement.preset?, hcommand]
      exact ⟨rfl, c.scene.environment.type, rfl⟩
  · simp only [Statement.loads, Statement.preset?, hr]
    exact ⟨rfl, c.scene.environment.type, rfl⟩

theorem run_extensions (h : c.run statements = .ok c') :
    c'.extensions = statements.foldl Statement.loads c.extensions := by
  induction statements generalizing c with
  | nil =>
    cases h
    rfl
  | cons s statements ih =>
    obtain ⟨d, hd, h⟩ := bind_eq_ok.mp h
    rw [ih h, (step_environment hd).1, List.foldl_cons]

theorem run_kept (h : c.run statements = .ok c') : c'.vocabulary = c.vocabulary ∧ c'.strict = c.strict := by
  induction statements generalizing c with
  | nil =>
    cases h
    exact ⟨rfl, rfl⟩
  | cons s statements ih =>
    obtain ⟨d, hd, h⟩ := bind_eq_ok.mp h
    obtain ⟨hvocabulary, hstrict⟩ := step_kept hd
    rw [(ih h).1, (ih h).2]
    exact ⟨hvocabulary, hstrict⟩

/-- A run leaves an environment under the presets that its statements set, whatever its type. -/
theorem run_environment (h : c.run statements = .ok c') :
    ∃ type, c'.scene.environment =
      { c.scene.environment.layered (Statement.presets c.vocabulary c.strict c.extensions statements) with type } := by
  induction statements generalizing c with
  | nil =>
    cases h
    exact ⟨c'.scene.environment.type, rfl⟩
  | cons s statements ih =>
    obtain ⟨d, hd, h⟩ := bind_eq_ok.mp h
    obtain ⟨hextensions, type, henvironment⟩ := step_environment hd
    obtain ⟨hvocabulary, hstrict⟩ := step_kept hd
    obtain ⟨type', henvironment'⟩ := ih h
    refine ⟨type', ?_⟩
    rw [henvironment', henvironment, Environment.layered_type, hextensions, hvocabulary, hstrict, Statement.presets]
    simp only [Environment.layered, List.foldl_append]

end Context
end SceneScript
