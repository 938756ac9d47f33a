import FleetDrift.CommandLine.Options
import FleetDrift.CommandLine.Run
import FleetDrift.CommandLine.Surroundings
import FleetDrift.Comparison
import FleetDrift.Credential
import FleetDrift.Digest.Sha256
import FleetDrift.Entry.Basic
import FleetDrift.Entry.Lenient
import FleetDrift.Field
import FleetDrift.Grouping
import FleetDrift.Identity
import FleetDrift.Inventory.Backend
import FleetDrift.Inventory.Collection
import FleetDrift.Inventory.Export
import FleetDrift.Inventory.Fetch
import FleetDrift.Inventory.Inbound
import FleetDrift.Inventory.PanelRow
import FleetDrift.Inventory.Scan
import FleetDrift.Json.Fault
import FleetDrift.Json.Printer
import FleetDrift.Json.Reader
import FleetDrift.Json.Record
import FleetDrift.Json.Value
import FleetDrift.Main
import FleetDrift.Number.Binary64
import FleetDrift.Number.Decimal
import FleetDrift.Number.Notation
import FleetDrift.Number.Range
import FleetDrift.Number.Shortest
import FleetDrift.Panel.Address
import FleetDrift.Panel.Cell
import FleetDrift.Panel.Database
import FleetDrift.Panel.Expression
import FleetDrift.Panel.File
import FleetDrift.Panel.Log
import FleetDrift.Panel.Record
import FleetDrift.Panel.Schema
import FleetDrift.Panel.Token
import FleetDrift.Plan.Basic
import FleetDrift.Plan.Encoding
import FleetDrift.Render.Escape
import FleetDrift.Render.Ink
import FleetDrift.Render.Markup
import FleetDrift.Render.Page
import FleetDrift.Render.Style
import FleetDrift.Render.Table
import FleetDrift.Render.Terminal
import FleetDrift.Report.Basic
import FleetDrift.Report.Encoding
import FleetDrift.Report.Files
import FleetDrift.Score
import FleetDrift.Settings.Basic
import FleetDrift.Settings.Tree
import FleetDrift.Snapshot
import FleetDrift.Storage.Disk
import FleetDrift.Storage.FileTree
import FleetDrift.Storage.OpenPanel
import FleetDrift.Storage.Path
import FleetDrift.Text.Blank
import FleetDrift.Text.CaseTable
import FleetDrift.Text.Hex
import FleetDrift.Text.Joining
import FleetDrift.Text.Lowercase
import FleetDrift.Text.PrintableTable
import FleetDrift.Text.Quoted
import FleetDrift.Text.Ranges
import FleetDrift.Text.Utf16
import FleetDrift.Text.Utf8
import FleetDrift.Text.Width
import FleetDrift.Text.WidthTable
import FleetDrift.Toml.Document
import FleetDrift.Toml.Lexical
import FleetDrift.Toml.Literal
import FleetDrift.Toml.Value
import FleetDrift.Proofs.ArgumentLists
import FleetDrift.Proofs.Classes
import FleetDrift.Proofs.Copies
import FleetDrift.Proofs.Disagreement
import FleetDrift.Proofs.Ranking
import FleetDrift.Proofs.ReportContents
import FleetDrift.Proofs.ReportGroups
import FleetDrift.Proofs.Blanks
import FleetDrift.Proofs.Planning
import FleetDrift.Proofs.PlanApplication
import FleetDrift.Proofs.PlanSource
import FleetDrift.Proofs.PlanTargets
import FleetDrift.Proofs.SharedGroups
import FleetDrift.Proofs.Lowercase
import FleetDrift.Proofs.Lookup
import FleetDrift.Proofs.Addresses
import FleetDrift.Proofs.ExplicitSource
import FleetDrift.Proofs.TargetKeys
import FleetDrift.Proofs.WrittenCredentials
import FleetDrift.Proofs.Rounding
import FleetDrift.Proofs.ShortestDecimal
import FleetDrift.Proofs.NumberText
import FleetDrift.Proofs.JsonText
import FleetDrift.Proofs.CanonicalText
import FleetDrift.Proofs.Correspondence
import FleetDrift.Proofs.WellFormedReading
import FleetDrift.Proofs.MatchingFingerprints
import FleetDrift.Proofs.MatchingReports
import FleetDrift.Proofs.ZeroSums
import FleetDrift.Proofs.CompletionOrder
import FleetDrift.Proofs.Attribution
import FleetDrift.Proofs.Rearrangement
import FleetDrift.Proofs.PrintedNumbers
import FleetDrift.Proofs.PrintedValues
import FleetDrift.Proofs.PrintedRecords
import FleetDrift.Proofs.SavedSnapshots
import FleetDrift.Proofs.Identifiers
import FleetDrift.Proofs.GrowingScans
import FleetDrift.Proofs.SeparateClients
import FleetDrift.Proofs.ReportOrder
import FleetDrift.Proofs.ProtocolFamilies
import FleetDrift.Proofs.PlanFrame
import FleetDrift.Proofs.ComparisonContents
import FleetDrift.Proofs.CellOrder
import FleetDrift.Proofs.PanelRows
import FleetDrift.Proofs.BackendAgreement
import FleetDrift.Proofs.ReplacedSettings
import FleetDrift.Proofs.SettingsTexts
import FleetDrift.Proofs.StableRanking
import FleetDrift.Proofs.TiedScores
import FleetDrift.Proofs.EmailAgreement
import FleetDrift.Proofs.ForgedOrigins
import FleetDrift.Proofs.RejectedClients
import FleetDrift.Proofs.LenientDecoding
import FleetDrift.Proofs.WholeNumbers
import FleetDrift.Proofs.InboundIds
import FleetDrift.Proofs.FetchTimings
import FleetDrift.Proofs.PrintedDifferences
import FleetDrift.Proofs.MarkupReading
import FleetDrift.Proofs.PageDocument
import FleetDrift.Proofs.PageTexts
import FleetDrift.Proofs.ReadOnlySteps
import FleetDrift.Proofs.TreeGrowth
import FleetDrift.Proofs.RunPaths
import FleetDrift.Proofs.SavedFiles
import FleetDrift.Proofs.FreshDirectories
import FleetDrift.Proofs.PanelCompanions
import FleetDrift.Proofs.ScannedPanels
import FleetDrift.Proofs.RunEffects
