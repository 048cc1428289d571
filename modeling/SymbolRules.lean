import SymbolRules.FileTree
import SymbolRules.Main
import SymbolRules.Outcome.Reader
import SymbolRules.Registry
import SymbolRules.RuleSet.Dump
import SymbolRules.Proofs.Text.CharBytes
import SymbolRules.Proofs.Text.Decoding
import SymbolRules.Proofs.Rule.Fits
import SymbolRules.Proofs.Segment
import SymbolRules.Proofs.RuleSet.Compiled
import SymbolRules.Proofs.RuleSet.Selection
import SymbolRules.Proofs.Rule.Covering
import SymbolRules.Proofs.Environment
import SymbolRules.Proofs.RuleSet.Containment
import SymbolRules.Proofs.Registry.FirstWins
import SymbolRules.Proofs.RuleSet.NormalForm
import SymbolRules.Proofs.Text.Repair
import SymbolRules.Proofs.Rule.Repaired
import SymbolRules.Proofs.RuleSet.RawSymbols
import SymbolRules.Proofs.RuleSet.Union
import SymbolRules.Proofs.Text.Lines
import SymbolRules.Proofs.Command.Inputs
import SymbolRules.Proofs.Command.Verdict
import SymbolRules.Proofs.Command.StandardInput
import SymbolRules.Proofs.RuleSet.Separators
import SymbolRules.Proofs.Source
import SymbolRules.Proofs.RuleSet.RuleFile
import SymbolRules.Proofs.Json.Lexing
import SymbolRules.Proofs.Json.ReadBack
import SymbolRules.Proofs.Outcome.ReadBack
import SymbolRules.Proofs.Command.Report
import SymbolRules.Proofs.RuleSet.Dump
import SymbolRules.Proofs.Rule.Characters
import SymbolRules.Proofs.Rule.Lengths
import SymbolRules.Proofs.Command.DebugOptions
import SymbolRules.Proofs.Command.Events
import SymbolRules.Proofs.Command.LogFilter
import SymbolRules.Proofs.Command.WrittenCandidates
import SymbolRules.Proofs.RuleSet.FirstHit
import SymbolRules.Proofs.RuleSet.Pass
import SymbolRules.Proofs.RuleSet.SavedRules
import SymbolRules.Proofs.Segment.Scan
import SymbolRules.Proofs.Rule.Positions
import SymbolRules.Proofs.Registry.Reports
