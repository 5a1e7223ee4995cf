import SymbolOutline.CommandLine.Run
import SymbolOutline.Files.Tree
import SymbolOutline.Main
import SymbolOutline.Outline.Levels
import SymbolOutline.Proofs.Outline.Order
import SymbolOutline.Proofs.Symbol.NormalForm
import SymbolOutline.Symbol.Survivors
import SymbolOutline.Proofs.Outline.Provenance
import SymbolOutline.Proofs.Outline.Truncated
import SymbolOutline.Proofs.Outline.Sorted
import SymbolOutline.Proofs.Json.Layout
import SymbolOutline.Proofs.Json.Reader
import SymbolOutline.Proofs.Outline.Hidden
import SymbolOutline.Proofs.Json.Depth
import SymbolOutline.Proofs.Response.Levels
import SymbolOutline.Proofs.CommandLine.Formats
import SymbolOutline.Proofs.Outline.Reordered
import SymbolOutline.Proofs.Json.TooDeep
import SymbolOutline.Proofs.Response.Nested
import SymbolOutline.Proofs.Outline.Text
import SymbolOutline.Proofs.Settings.Load
import SymbolOutline.Proofs.CommandLine.Run
import SymbolOutline.Proofs.Toml.Scalar
import SymbolOutline.Proofs.Toml.Line
import SymbolOutline.Proofs.Toml.Document
import SymbolOutline.Proofs.Settings.Toml
import SymbolOutline.Proofs.CommandLine.Switches
import SymbolOutline.Proofs.CommandLine.Overrides
import SymbolOutline.Proofs.Outline.Lines
import SymbolOutline.Proofs.Outline.Log
import SymbolOutline.Proofs.Outline.Unambiguous
import SymbolOutline.Proofs.Settings.RoundTrip
import SymbolOutline.Proofs.Outline.Depths
import SymbolOutline.Proofs.CommandLine.Indent
import SymbolOutline.Proofs.Outline.Leading
import SymbolOutline.Proofs.CommandLine.Input
import SymbolOutline.Proofs.Outline.Stacks
import SymbolOutline.Proofs.Response.Shapes
import SymbolOutline.Proofs.Symbol.Marked
