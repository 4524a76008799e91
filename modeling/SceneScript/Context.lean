import SceneScript.Context.Handlers
import SceneScript.Resolution

/-!
Going through statements. What stands against one is reported, and the next is handled in the context that
its handler has left.
-/

namespace SceneScript

namespace Context

/-- The context with the diagnostic of a refused statement. -/
def refuse (c : Context) (s : Statement) (r : Refusal) : Context :=
  (c.note (.statementRefused s.line r.diagnostic.message)).warn r.diagnostic

/-- What stands against a refused statement is told beside the context that its handler has left. -/
def ofHandled : EStateM.Result Failure Context Unit → Except Fault (Context × Option Refusal)
  | .ok () c => .ok (c, none)
  | .error (.refused r) c => .ok (c, some r)
  | .error (.fault f) _ => .error f

/-- Handles a statement. -/
def attempt (c : Context) (s : Statement) : Except Fault (Context × Option Refusal) :=
  ofHandled ((Handler.statement s).run c)

/-- Adds the diagnostic of a refusal, if there is one. -/
def report (s : Statement) : Context × Option Refusal → Context
  | (c, none) => c
  | (c, some r) => c.refuse s r

/-- The context after a statement that is carried out or refused. -/
def step (c : Context) (s : Statement) : Except Fault Context := (c.attempt s).map (report s)

/-- The context after statements in order. -/
def run (c : Context) (statements : List Statement) : Except Fault Context := statements.foldlM step c

/-- Settles the positions of the scene; does nothing if any statement was refused. -/
def resolve (c : Context) : Except Fault (Context × Nat) :=
  if Diagnostic.anyError c.diagnostics then .ok (c, 0)
  else
    match Resolution.ofEntities c.scene.entities c.sources with
    | (_, some f) => .error f
    | (r, none) =>
      .ok ({ c with
        scene.entities := r.entities
        diagnostics := c.diagnostics ++ r.warnings
        events := c.events ++ r.events }, r.found)

end Context

/-- The outcome of reading a source text, with the extensions that it loaded. -/
structure Result where
  scene : Scene
  diagnostics : List Diagnostic
  extensions : List String := []
  events : List Event := []
  deriving Inhabited

namespace Result

def success (r : Result) : Bool := !Diagnostic.anyError r.diagnostics

def ofContext (c : Context) : Result := ⟨c.scene.freeze, c.diagnostics, c.extensions, c.events⟩

end Result

/-- Reads a source text with a vocabulary: all statements in order, then the positions, which stay
    pending if any statement was refused. -/
def readSource (vocabulary : Vocabulary) (strict : Bool) (source : String) (filename : Option String) :
    Except Fault Result := do
  let c ← ({ vocabulary, strict : Context }).run (Statement.ofSource source filename)
  let (c, _) ← c.resolve
  return .ofContext c

end SceneScript
