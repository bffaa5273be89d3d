import SuitCode.BatchCoherence
import SuitCode.BatchOrder
import SuitCode.SymbolTargets
import SuitCode.FileTargetSpelling
import SuitCode.LspRequests
import SuitCode.SessionManagerAgreement
import SuitCode.CoordinatorInstances
import SuitCode.TranscriptIsolation
import SuitCode.SourceRoots
import SuitCode.NpmCoverage
import SuitCode.TestConservation
import SuitCode.BuildTiers
import SuitCode.UnfinishedCalls
import SuitCode.SessionEvidence
import SuitCode.ClaudeAgreement
import SuitCode.CursorAgreement
import SuitCode.FileUris
import SuitCode.CoordinatorPayloads
import SuitCode.LspFraming
import SuitCode.EntityDeltas
import SuitCode.GoDependencies
import SuitCode.NameLookups
import SuitCode.RepositoryRoots
import SuitCode.TokenEstimates
import SuitCode.TruthCoverage
import SuitCode.BatchTargets
import SuitCode.KindFilters
import SuitCode.SessionCorrelation
import SuitCode.HiddenReferences
import SuitCode.PythonRelatedTests
import SuitCode.MarkdownSections
import SuitCode.StaticLocations
import SuitCode.BatchReports
import SuitCode.SymbolQueries
import SuitCode.WarmupRequests
import SuitCode.RecordedLogs
import SuitCode.DependencyQueries
