import SceneScript.Main
import SceneScript.Proofs.Outcomes
import SceneScript.Proofs.Readings
import SceneScript.Proofs.Layout
import SceneScript.Proofs.Pointing
import SceneScript.Proofs.Catalogs
import SceneScript.Proofs.Steps
import SceneScript.Proofs.Errors
import SceneScript.Proofs.Parses
import SceneScript.Proofs.Isolation
import SceneScript.Proofs.Defaults
import SceneScript.Proofs.Scanning
import SceneScript.Proofs.Totality
import SceneScript.Proofs.Books
import SceneScript.Proofs.Lines
import SceneScript.Proofs.Accounting
import SceneScript.Proofs.Placement
import SceneScript.Proofs.Quotation
import SceneScript.Proofs.Lexemes
import SceneScript.Proofs.Lossless
import SceneScript.Proofs.Respelling
import SceneScript.Proofs.Blur.Texts
import SceneScript.Proofs.Blur.Tokens
import SceneScript.Proofs.Blur.Scans
import SceneScript.Proofs.Blur.Readings
import SceneScript.Proofs.Blur.Values
import SceneScript.Proofs.Blur.Runs
import SceneScript.Proofs.Blur.Parses
import SceneScript.Proofs.Recasing
import SceneScript.Proofs.Exchange
import SceneScript.Proofs.Relocation
import SceneScript.Proofs.Strictness
import SceneScript.Proofs.Defects
import SceneScript.Proofs.Loading
import SceneScript.Proofs.Joining
import SceneScript.Proofs.Nesting
import SceneScript.Proofs.Literals
import SceneScript.Proofs.Drawing
import SceneScript.Proofs.Records
import SceneScript.Proofs.Freezing
import SceneScript.Proofs.OpenStrings
import SceneScript.Proofs.LongestMatch
import SceneScript.Proofs.PhysicalLines
import SceneScript.Proofs.Forms
import SceneScript.Proofs.Phrases
import SceneScript.Proofs.Excerpts
import SceneScript.Proofs.PositionGrammar
import SceneScript.Proofs.Sections
import SceneScript.Proofs.Carrying
import SceneScript.Proofs.Separation
import SceneScript.Proofs.Splitting
import SceneScript.Proofs.Matching
import SceneScript.Proofs.Reordering
import SceneScript.Proofs.Openings
import SceneScript.Proofs.Options
import SceneScript.Proofs.Exports
import SceneScript.Proofs.Updates
import SceneScript.Proofs.Naming
import SceneScript.Proofs.UpperCase
import SceneScript.Proofs.Lookup
import SceneScript.Proofs.Targets
import SceneScript.Proofs.Assembly
import SceneScript.Proofs.Precedence
import SceneScript.Proofs.CorePlace
import SceneScript.Proofs.PlainData
import SceneScript.Proofs.DefaultRecords
import SceneScript.Proofs.Messages
import SceneScript.Proofs.Carets
import SceneScript.Proofs.Directories
import SceneScript.Proofs.Keys
import SceneScript.Proofs.Shelves
import SceneScript.Proofs.Layers
import SceneScript.Proofs.Environments
import SceneScript.Proofs.Coordinates
import SceneScript.Proofs.Walks
import SceneScript.Proofs.HexColors
