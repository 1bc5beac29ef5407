import Tangle.Main
import Tangle.Text.UpperCase
import Tangle.Proofs.Attached
import Tangle.Proofs.Sketch
import Tangle.Proofs.Connected
import Tangle.Proofs.Outlined
import Tangle.Proofs.Reducible
import Tangle.Proofs.CallerPaths
import Tangle.Proofs.Shape
import Tangle.Proofs.Weight
import Tangle.Proofs.Balance
import Tangle.Proofs.McCabe
import Tangle.Proofs.Visited
import Tangle.Proofs.Labels
import Tangle.Proofs.Constructs
import Tangle.Proofs.Ownership
import Tangle.Proofs.Callers
import Tangle.Proofs.FileOrder
import Tangle.Proofs.Chart
import Tangle.Proofs.NestedFunctions
import Tangle.Proofs.Nesting
import Tangle.Proofs.Paths
import Tangle.Proofs.Discovery
import Tangle.Proofs.GraphNames
import Tangle.Proofs.Storage
import Tangle.Proofs.Actions
import Tangle.Proofs.GraphFiles
import Tangle.Proofs.Batch
import Tangle.Proofs.Gate
import Tangle.Proofs.CallerDepth
import Tangle.Proofs.Repeats
import Tangle.Proofs.Settings
import Tangle.Proofs.SettingsFiles
import Tangle.Proofs.Page
import Tangle.Proofs.CallerLines
import Tangle.Proofs.Columns
import Tangle.Proofs.FunctionLines
import Tangle.Proofs.TextBytes
import Tangle.Proofs.Positions
import Tangle.Proofs.JsonOrder
import Tangle.Proofs.JsonNumbers
import Tangle.Proofs.JsonParts
import Tangle.Proofs.JsonText
import Tangle.Proofs.NamePatterns
import Tangle.Proofs.PreOrder
import Tangle.Proofs.ReadText
