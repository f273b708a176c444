import LootScript.Main
import LootScript.Proofs.OrderedMap
import LootScript.Proofs.Script.Overlay
import LootScript.Proofs.Script.Walk
import LootScript.Proofs.Failure
import LootScript.Proofs.Script.Judgement
import LootScript.Proofs.Script.Lineage
import LootScript.Proofs.Script.Compilation
import LootScript.Proofs.Script.Combination
import LootScript.Proofs.Script.Inheritance
import LootScript.Proofs.Drop.RoundTrip
import LootScript.Proofs.Script.RoundTrip
import LootScript.Proofs.Script.Precedence
import LootScript.Proofs.Script.Reordering
import LootScript.Proofs.Script.SingleFile
import LootScript.Proofs.Extension.Chain
import LootScript.Proofs.CommandLine.Outcome
import LootScript.Proofs.Script.Dependence
import LootScript.Proofs.Likeness.Basic
import LootScript.Proofs.Likeness.Drop
import LootScript.Proofs.Likeness.Script
import LootScript.Proofs.Likeness.Compilation
import LootScript.Proofs.Script.Payload
import LootScript.Proofs.Script.Respelling
import LootScript.Proofs.Json.Rounding
import LootScript.Proofs.Json.Scanning
import LootScript.Proofs.Json.Numeral
import LootScript.Proofs.Json.Distinct
import LootScript.Proofs.Json.RoundTrip
import LootScript.Proofs.Script.Distinct
import LootScript.Proofs.CommandLine.Again
import LootScript.Proofs.Wording.Reported
import LootScript.Proofs.Log.Row
import LootScript.Proofs.Settings.Cells
import LootScript.Proofs.Extension.Loading
import LootScript.Proofs.FileTree.Enumeration
import LootScript.Proofs.Script.Directory
import LootScript.Proofs.CommandLine.Listing
import LootScript.Proofs.Script.Grammar
import LootScript.Proofs.Drop.Rules
import LootScript.Proofs.Drop.Rereading
import LootScript.Proofs.Script.Order
import LootScript.Proofs.Script.Removal
import LootScript.Proofs.Script.Restatement
import LootScript.Proofs.Extension.Registry
import LootScript.Proofs.Pack
import LootScript.Proofs.Script.Absorption
