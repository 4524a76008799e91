import SceneScript.CommandLine.Run
import SceneScript.CommandLine.Yaml.Document

/-!
The program: looks at the files that a command line concerns, runs it on them, and writes what the run
has written.
-/

namespace SceneScript.CommandLine

def usage : String :=
  "usage: [-v] check FILE\n" ++
  "       [-v] parse FILE [-o FILE] [-f] [--strict-extensions]\n" ++
  "       [-v] vocab [--extension NAME]\n"

namespace Files

/-- A path and the directories that lead to it. -/
def trail (p : Path) : List Path :=
  (List.range (p.parts.length + 1)).map fun n => { p with parts := p.parts.take n }

/-- Adds what stands at a path. -/
def look (t : FileTree) (p : Path) : IO FileTree := do
  let place := (← IO.currentDir) / p.text
  if ← place.isDir then return t.add p .directory
  else if ← place.pathExists then return t.add p (.file (← IO.FS.readFile place))
  else return t

/-- Adds what stands on the way to a path. -/
def follow (t : FileTree) (p : Path) : IO FileTree := (trail p).foldlM look t

/-- Adds a directory and the catalog files in it. -/
def lookInto (t : FileTree) (p : Path) : IO FileTree := do
  let place := (← IO.currentDir) / p.text
  let t ← follow t p
  if ← place.isDir then
    let names := (← place.readDir).toList.map (·.fileName)
    (names.filter (·.endsWith Catalog.fileEnding)).foldlM (fun t name => look t (p.join { parts := [name] })) t
  else return t

/-- The files that an action names. -/
def named : Request → List Path
  | .check file => [file]
  | .parse file _ output _ => file :: output.toList
  | .vocabulary _ => []

/-- The files that a request concerns: those it names, and the catalogs on the search path. -/
def concerned (searchPath : SearchPath) (r : Request) : IO FileTree := do
  let cwd := Path.ofString (← IO.currentDir).toString
  let directories := ((searchPath.named cwd).toOption.getD []) ++ [searchPath.configured]
  directories.foldlM lookInto (← (named r).foldlM follow { cwd })

/-- Writes the files that a run has changed. -/
def write (before after : FileTree) : IO Unit :=
  after.nodes.forM fun (path, node) => do
    match node with
    | .file text => if before.node? path ≠ some node then IO.FS.writeFile path.text text
    | .directory => pure ()

end Files

/-- The search path of the user. -/
def searchPath : IO SearchPath := do
  return { directories := ← IO.getEnv "SIGL_VOCABULARY_DATA"
           home := Path.ofString ((← IO.getEnv "HOME").getD "/")
           bundled := { anchor := some "<bundled>" } }

/-- Runs a command line and answers its exit code. -/
def perform (words : List String) : IO Nat := do
  match Invocation.ofWords words with
  | .error .help =>
    IO.print usage
    return Halt.help.exitCode
  | .error halt =>
    IO.eprint usage
    return halt.exitCode
  | .ok i =>
    let searchPath ← searchPath
    let files ← Files.concerned searchPath i.request
    match ({ files, searchPath, yaml := Yaml.read, verbose := i.verbose : Session }).run i.request with
    | .error b =>
      IO.eprintln b.message
      return 1
    | .ok o =>
      Files.write files o.files
      IO.eprint o.err
      IO.print o.out
      return o.exitCode

end SceneScript.CommandLine

def main (words : List String) : IO UInt32 := do
  return (← SceneScript.CommandLine.perform words).toUInt32
