import SceneScript.Catalog
import SceneScript.Diagnostic
import SceneScript.File.Tree
import SceneScript.Yaml

/-!
Why catalogs cannot be loaded, and the diagnostic that a parse without a vocabulary ends with.
-/

namespace SceneScript

inductive LoadError where
  /-- The search path names the home directory of a user whose home is not known. -/
  | homeUnknown
  | file (e : FileError)
  /-- A catalog was asked for by its path, and nothing is there. -/
  | customMissing (path : Path)
  | notFound (name : String) (searched : List Path)
  | coreMissing (searched : List Path)
  /-- The text of a file is not read. -/
  | yaml (f : Yaml.Failure)
  | noMapping (path : Path)
  | wrongVersion (version : Data) (path : Path)
  | noDefinitions (path : Path)
  | catalog (e : CatalogError)
  deriving Inhabited

namespace LoadError

/-- Paths as a message lists them. -/
def listed (paths : List Path) : String :=
  "[" ++ ", ".intercalate (paths.map fun p => Text.Quoted.encode p.text) ++ "]"

def message : LoadError → String
  | homeUnknown => "Could not determine home directory."
  | file e => e.message
  | customMissing path => "Custom catalog not found: " ++ path.text
  | notFound name searched =>
    "No catalog found for '" ++ name ++ "'.\nSearched directories: " ++ listed searched
  | coreMissing searched =>
    "No '" ++ coreName ++ "' catalog found. Searched directories: " ++ listed searched
  | yaml f => f.message
  | noMapping path => "Invalid catalog format in " ++ path.text ++ ": expected dict at root"
  | wrongVersion version path =>
    "Unsupported schema version '" ++ version.toText ++ "' in " ++ path.text ++ ". Expected version 1.x"
  | noDefinitions path => "Catalog " ++ path.text ++ " has neither 'entities' nor 'environments'"
  | catalog e => e.message

/-- The error is reported as a diagnostic. The others end the program: an unknown home directory, a reader
    that breaks down, and data of a wrong shape inside a catalog. -/
def isReported : LoadError → Bool
  | homeUnknown | yaml (.breakdown _) => false
  | catalog .notAMapping | catalog .noSubtype | catalog .notPairs => false
  | _ => true

/-- The diagnostic of an error that is reported. It stands before the first line of a source text. -/
def diagnostic (e : LoadError) : Diagnostic where
  code := "F001"
  severity := .error
  message := "cannot load vocabulary: " ++ e.message
  span := Span.ofLine 0 "" none

end LoadError

end SceneScript
