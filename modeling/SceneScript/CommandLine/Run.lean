import SceneScript.CommandLine.Request
import SceneScript.Context
import SceneScript.Library

/-!
Carrying out what a command line asks for: what is printed, which files are written, and how the run
ends.
-/

namespace SceneScript.CommandLine

/-- What a run has done. -/
structure Outcome where
  exitCode : Nat := 0
  out : String := ""
  err : String := ""
  files : FileTree
  deriving Inhabited

namespace Outcome

/-- Prints a line. -/
def print (o : Outcome) (line : String) : Outcome := { o with out := o.out ++ line ++ "\n" }

/-- Prints a line to the error output. -/
def warn (o : Outcome) (line : String) : Outcome := { o with err := o.err ++ line ++ "\n" }

/-- Ends a run that could not do what it was asked for. -/
def fail (o : Outcome) (message : String) : Outcome :=
  { o.warn ("Error: " ++ message) with exitCode := 1 }

/-- Notes events if the run is verbose. -/
def note (o : Outcome) (verbose : Bool) (events : List Event) : Outcome :=
  if verbose then events.foldl (fun o e => o.warn e.text) o else o

end Outcome

/-- Why a run breaks off without an outcome. -/
inductive Breakdown where
  | file (e : FileError)
  | load (e : LoadError)
  | fault (f : Fault)
  /-- A value of this kind cannot be written as JSON. -/
  | unwritable (kind : String)
  deriving Inhabited

def Breakdown.message : Breakdown → String
  | file e => e.message
  | load e => e.message
  | fault f => f.message
  | unwritable kind => "Object of type " ++ kind ++ " is not JSON serializable"

/-- The place of a run: the files, where catalogs are looked for and how they are read, and whether events
    are noted. -/
structure Session where
  files : FileTree
  searchPath : SearchPath
  yaml : Yaml.Reader
  verbose : Bool := false
  deriving Inhabited

namespace Session

def start (s : Session) : Outcome := { files := s.files }

/-- Loads the vocabulary and goes on with it. An error that is reported ends the run with the message. -/
def withVocabulary (s : Session) (message : LoadError → String)
    (next : Outcome → Vocabulary → Except Breakdown Outcome) : Except Breakdown Outcome :=
  let (_, events, loaded) := ({ searchPath := s.searchPath : Library }).load s.yaml s.files
  let o := s.start.note s.verbose events
  match loaded with
  | .ok v => next o v
  | .error e => if e.isReported then .ok (o.fail (message e)) else .error (.load e)

/-- Reads a source file and goes on with the result. -/
def withResult (s : Session) (file : Path) (strict : Bool)
    (next : Outcome → Result → Except Breakdown Outcome) : Except Breakdown Outcome :=
  if !s.files.contains file then .ok (s.start.fail ("File not found: " ++ file.text))
  else do
    let source ← (s.files.read file).mapError .file
    s.withVocabulary (·.diagnostic.message) fun o v => do
      let result ← (readSource v strict source (some file.text)).mapError .fault
      next (o.note s.verbose result.events) result

/-- The exit code that tells whether a source text was read without errors. -/
def exitCode (r : Result) : Nat := if r.success then 0 else 1

/-! ### Actions -/

def check (s : Session) (file : Path) : Except Breakdown Outcome :=
  s.withResult file false fun o r =>
    let o := if r.diagnostics.isEmpty then o else o.print (Diagnostic.report r.diagnostics)
    let o := { o with exitCode := exitCode r }
    .ok <|
      if r.success then
        o.print ("OK: " ++ file.name ++ " - " ++ toString r.scene.entities.length ++ " entit(y/ies), no errors")
      else o

/-- The scene and the diagnostics as JSON. -/
def payload (r : Result) : Json :=
  .object [("success", .bool r.success), ("scene", r.scene.toJson),
    ("diagnostics", .array (r.diagnostics.map (·.toJson)))]

/-- Prints a text, or writes it to the file that is given for it. -/
def emit (o : Outcome) (text : String) (output : Option Path) (force : Bool) : Except Breakdown Outcome :=
  match output with
  | none => .ok (o.print text)
  | some path =>
    if o.files.contains path && !force then
      .ok (o.fail (path.text ++ " exists (use --force to overwrite)"))
    else do
      let files ← (o.files.write path (text ++ "\n")).mapError .file
      return { o with files }.print ("Wrote " ++ path.text)

def parse (s : Session) (file : Path) (strict : Bool) (output : Option Path) (force : Bool) :
    Except Breakdown Outcome :=
  s.withResult file strict fun o r =>
    let o := if r.diagnostics.isEmpty then o else o.warn (Diagnostic.report r.diagnostics)
    match r.scene.environment.unwritable? with
    | some kind => .error (.unwritable kind)
    | none => emit { o with exitCode := exitCode r } (payload r).render output force

/-- A line of a listing: a name, what it stands for, and where it is from. -/
def listing (name meaning : String) (extension : Option String) : String :=
  "  " ++ Text.padRight 22 name ++ " " ++ meaning ++ "  [" ++ extension.getD coreName ++ "]"

/-- The color of a background as listings show it. -/
def colorText (e : EnvironmentDefinition) : String := ((e.background.field? "color").map Data.toText).getD ""

/-- The lines that list the definitions of all catalogs or of one. -/
def listings (v : Vocabulary) (catalog : Option String) : List String :=
  let entities := v.entityTypes catalog
  let environments := v.environments catalog
  ("Entities (" ++ toString entities.length ++ "):") ::
    entities.map (fun e => listing e.keyword (e.category ++ "/" ++ e.subtype) e.extension) ++
  ("Environments (" ++ toString environments.length ++ "):") ::
    environments.map fun e => listing e.name (colorText e) e.extension

def vocabulary (s : Session) (extension : Option String) : Except Breakdown Outcome :=
  s.withVocabulary (·.message) fun o v =>
    let wanted := extension.filter (· ≠ "")
    if wanted.any fun name => !v.extensionNames.contains (Text.lower name) then
      .ok (o.fail ("unknown extension '" ++ wanted.getD "" ++ "'"))
    else
      let lines := listings v extension
      let names := "Extensions: " ++ ", ".intercalate (Text.sorted v.extensionNames)
      .ok ((if wanted.isNone then lines ++ [names] else lines).foldl Outcome.print o)

/-- Carries out a request. -/
def run (s : Session) : Request → Except Breakdown Outcome
  | .check file => s.check file
  | .parse file strict output force => s.parse file strict output force
  | .vocabulary extension => s.vocabulary extension

end Session

end SceneScript.CommandLine
