import TestImpact.Analysis.Diff
import TestImpact.Analysis.Repository
import TestImpact.Artifact.Analysis
import TestImpact.Artifact.Healing
import TestImpact.Artifact.Store
import TestImpact.Artifact.Target
import TestImpact.Change
import TestImpact.CommandLine.Arguments
import TestImpact.CommandLine.Help
import TestImpact.CommandLine.Program
import TestImpact.CommandLine.Verbosity
import TestImpact.Config.Basic
import TestImpact.Config.Layers
import TestImpact.Config.SettingsFile
import TestImpact.Diff.Hunk
import TestImpact.Diff.HunkHeader
import TestImpact.Diff.LineChanges
import TestImpact.Diff.Pairing
import TestImpact.Diff.Script.Compact
import TestImpact.Diff.Script.Edit
import TestImpact.Diff.Script.Shortest
import TestImpact.Diff.Section
import TestImpact.Diff.Unified
import TestImpact.FileChange
import TestImpact.FileFilter
import TestImpact.Glob
import TestImpact.Healing.Batch
import TestImpact.Healing.Element
import TestImpact.Healing.Endpoint
import TestImpact.Healing.Error
import TestImpact.Healing.Ledger
import TestImpact.Healing.Locator
import TestImpact.History.Git
import TestImpact.Http.Transport
import TestImpact.HttpMethod
import TestImpact.Impact.Endpoint
import TestImpact.Impact.Tags
import TestImpact.Json.Decode
import TestImpact.Json.Reader
import TestImpact.Json.Value
import TestImpact.Json.Writer
import TestImpact.Language
import TestImpact.LineSet
import TestImpact.Main
import TestImpact.Number.Binary64
import TestImpact.Number.Fraction
import TestImpact.Number.Shortest
import TestImpact.Path
import TestImpact.Pool
import TestImpact.Proofs.Pairing
import TestImpact.Proofs.Pool
import TestImpact.Proofs.Scan
import TestImpact.Rule
import TestImpact.Source.Attribution
import TestImpact.Source.Declaration
import TestImpact.Source.Grammar
import TestImpact.Storage.FileSystem
import TestImpact.Storage.FileTree
import TestImpact.Syntax.Node
import TestImpact.Target.Generate
import TestImpact.Target.Index
import TestImpact.Target.Selector
import TestImpact.Target.TestTarget
import TestImpact.Text.Blank
import TestImpact.Text.Bytes
import TestImpact.Text.CaseTable
import TestImpact.Text.DecimalDigit
import TestImpact.Text.LetterCase
import TestImpact.Text.Lines
import TestImpact.Text.Numeral
import TestImpact.Text.Printable
import TestImpact.Text.Quoted
import TestImpact.Text.Search
import TestImpact.Timestamp
import TestImpact.Toml.Document
import TestImpact.Toml.Text
import TestImpact.Url.Address
import TestImpact.Url.Basic
import TestImpact.Url.Error
import TestImpact.Url.Host
import TestImpact.Url.Percent
import TestImpact.Url.Reader
import TestImpact.Proofs.Attribution
import TestImpact.Proofs.LiveTargets
import TestImpact.Proofs.UnifiedDiff
import TestImpact.Proofs.UntouchedDeclarations
import TestImpact.Proofs.EditScript
import TestImpact.Proofs.HunkHeader
import TestImpact.Proofs.Tidy
import TestImpact.Proofs.RenderedDiff
import TestImpact.Proofs.FurthestPoint
import TestImpact.Proofs.MiddlePoint
import TestImpact.Proofs.ShortestScript
import TestImpact.Proofs.DiffSections
import TestImpact.Proofs.Tiers
import TestImpact.Proofs.LedgerStats
import TestImpact.Proofs.BatchAgreement
import TestImpact.Proofs.EndpointIndex
import TestImpact.Proofs.PoolSchedule
import TestImpact.Proofs.RenderedSections
import TestImpact.Proofs.SavedArtifacts
import TestImpact.Healing.Handles
import TestImpact.Proofs.LedgerHistory
import TestImpact.Proofs.RepositoryAnalysis
import TestImpact.Proofs.FallbackAnalysis
import TestImpact.Proofs.RequestAddress
import TestImpact.Proofs.GreedyPairing
import TestImpact.Proofs.PositionalScan
import TestImpact.Proofs.SectionBlocks
import TestImpact.Proofs.LineArithmetic
import TestImpact.Proofs.RecordedNumbers
import TestImpact.Proofs.RenamedFiles
import TestImpact.Proofs.ChangeSeverity
import TestImpact.Proofs.ClassMembers
import TestImpact.Proofs.DeclarationRanges
import TestImpact.Proofs.RuleTables
import TestImpact.Proofs.EndpointExhaustion
import TestImpact.Proofs.EndpointTiers
import TestImpact.Proofs.MethodChecks
import TestImpact.Proofs.TargetIds
import TestImpact.Proofs.ArtifactCounts
import TestImpact.Proofs.PageRoutes
import TestImpact.Proofs.FailingLayers
import TestImpact.Proofs.DefaultBranch
