import SceneScript.CommandLine.Word
import SceneScript.File.Path

/-!
What a command line asks for: an action, after switches that concern all of them.
-/

namespace SceneScript.CommandLine

inductive Request where
  /-- Report what is wrong with a source file. -/
  | check (file : Path)
  /-- Print the scene of a source file or write it to another file. -/
  | parse (file : Path) (strict : Bool) (output : Option Path) (force : Bool)
  /-- List the keywords and environments of all catalogs or of one extension. -/
  | vocabulary (extension : Option String)
  deriving Repr, DecidableEq, Inhabited

structure Invocation where
  verbose : Bool := false
  request : Request
  deriving Repr, DecidableEq, Inhabited

/-- Why a command line asks for nothing that can be run. -/
inductive Halt where
  | help
  | misuse
  deriving Repr, DecidableEq, Inhabited

def Halt.exitCode : Halt → Nat
  | help => 0
  | misuse => 2

inductive Action where
  | check
  | parse
  | vocabulary
  deriving Repr, DecidableEq, Inhabited

/-! ### Grammar -/

def helpSwitch : Switches := [("-h", .help), ("--help", .help)]

/-- The switches before the action. -/
def mainSwitches : Switches := helpSwitch ++ [("-v", .verbose), ("--verbose", .verbose)]

namespace Action

def ofName? : String → Option Action
  | "check" => some check
  | "parse" => some parse
  | "vocab" => some vocabulary
  | _ => none

/-- The switches after the action. -/
def switches : Action → Switches
  | check => helpSwitch
  | parse =>
    helpSwitch ++ [("-o", .output), ("--output", .output), ("-f", .force), ("--force", .force),
      ("--strict-extensions", .strictExtensions)]
  | vocabulary => helpSwitch ++ [("--extension", .extension)]

def takesFile : Action → Bool
  | vocabulary => false
  | _ => true

end Action

/-! ### Reading -/

/-- What words state: switches in order, and a file. Words beyond are in excess. -/
structure Stated where
  given : List (Switch × Option String) := []
  file : Option String := none
  excess : Bool := false
  deriving Repr, DecidableEq, Inhabited

namespace Stated

def has (s : Stated) (w : Switch) : Bool := s.given.any (·.1 = w)

/-- The last value of a switch. -/
def value? (s : Stated) (w : Switch) : Option String := (s.given.reverse.lookup w).join

/-- Adds the switches of a word. Help is given as soon as the word is read. -/
def take (s : Stated) (c : Cluster) : Except Halt Stated :=
  if c.given.any (·.1 = .help) then .error .help
  else .ok { s with given := s.given ++ c.given, excess := s.excess || c.excess }

/-- Adds an argument: the file if one is wanted and none is stated yet. -/
def argue (s : Stated) (takesFile : Bool) (text : String) : Stated :=
  if takesFile && s.file.isNone then { s with file := some text } else { s with excess := true }

/-- Reads words. A separator belongs to the argument beside it. -/
def readWords (known : Switches) (takesFile : Bool) (s : Stated) : List Word → Except Halt Stated
  | [] => .ok s
  | .argument text :: .separator :: rest => readWords known takesFile (s.argue takesFile text) rest
  | .separator :: .argument text :: rest => readWords known takesFile (s.argue takesFile text) rest
  | .argument text :: rest => readWords known takesFile (s.argue takesFile text) rest
  | .separator :: rest | .unknown :: rest => readWords known takesFile { s with excess := true } rest
  | .switch w isLong attached :: rest =>
    let cluster := match attached with
      | none => some (Cluster.single w)
      | some a => Cluster.attached? known w isLong a.afterSign a.text
    match cluster with
    | none => .error .misuse
    | some c =>
      match c.pending, rest with
      | none, rest => do readWords known takesFile (← s.take c) rest
      | some w, .argument text :: rest => do
        readWords known takesFile (← s.take { c with given := c.given ++ [(w, some text)] }) rest
      | some _, _ => .error .misuse

end Stated

namespace Action

/-- The request that switches and a file make. An empty output file is none. -/
def request? (a : Action) (s : Stated) : Option Request :=
  match a, s.file with
  | check, some file => some (.check (Path.ofString file))
  | parse, some file =>
    let output := (s.value? .output).filter (· ≠ "")
    some (.parse (Path.ofString file) (s.has .strictExtensions) (output.map Path.ofString) (s.has .force))
  | vocabulary, _ => some (.vocabulary (s.value? .extension))
  | _, none => none

/-- Reads the words after an action. -/
def read (a : Action) (words : List String) : Except Halt Request :=
  match Word.ofStrings? a.switches words with
  | none => .error .misuse
  | some words => do
    let s ← Stated.readWords a.switches a.takesFile {} words
    match a.request? s with
    | some request => if s.excess then .error .misuse else .ok request
    | none => .error .misuse

end Action

namespace Invocation

/-- Reads the words up to the action and hands it the others. -/
def readFrom (s : Stated) : List String → Except Halt Invocation
  | [] => .error .misuse
  | text :: rest =>
    match Word.ofString? mainSwitches text with
    | some (.argument name) =>
      match Action.ofName? name with
      | none => .error .misuse
      | some action => do
        let request ← action.read rest
        if s.excess then .error .misuse else .ok { verbose := s.has .verbose, request }
    | some .unknown => readFrom { s with excess := true } rest
    | some word => do readFrom (← Stated.readWords mainSwitches false s [word]) rest
    | none => .error .misuse

/-- Reads a command line. No word of it, up to a separator, may be ambiguous among the switches before
    the action. -/
def ofWords (words : List String) : Except Halt Invocation :=
  if (Word.ofStrings? mainSwitches words).isNone then .error .misuse else readFrom {} words

end Invocation

end SceneScript.CommandLine
