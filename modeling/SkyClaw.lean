import SkyClaw.LeaseCancellation
import SkyClaw.LeaseFencing
import SkyClaw.JournalAtomicity
import SkyClaw.StagedCommits
import SkyClaw.OrphanReconciler
import SkyClaw.EgressPolicy
import SkyClaw.HitlDecisions
import SkyClaw.ModlistEdits
import SkyClaw.FomodResolution
import SkyClaw.ProtectionJournalStore
import SkyClaw.IniFidelity
import SkyClaw.ArtifactEffectivity
import SkyClaw.RollbackGenerations
import SkyClaw.VdfText
import SkyClaw.MutationPermits
import SkyClaw.GoldenLockExclusion
import SkyClaw.GamePathFidelity
import SkyClaw.FinalizationProgress
import SkyClaw.RootLockExclusion
import SkyClaw.TokenBreaker
import SkyClaw.XeditRoundTrip
import SkyClaw.PatchPlans
import SkyClaw.DeadLetters
import SkyClaw.ConfigSecrets
import SkyClaw.ToolPairing
import SkyClaw.ToolIdempotency
import SkyClaw.ImportSchedules
import SkyClaw.VfsSessionTruth
import SkyClaw.WorkerFence
import SkyClaw.BrokerFenceRuns
import SkyClaw.HitlTokenBindings
import SkyClaw.UndoOrder
import SkyClaw.SnapshotRollback
import SkyClaw.TransactionExit
import SkyClaw.SnapshotRestore
import SkyClaw.SnapshotEviction
import SkyClaw.BatchCommit
import SkyClaw.TelegramSender
import SkyClaw.TelegramLimits
import SkyClaw.LoopGuardrail
import SkyClaw.SealedBatches
import SkyClaw.FomodPreview
import SkyClaw.LiteralPatterns
import SkyClaw.XeditErrors
import SkyClaw.XeditScriptScan
import SkyClaw.XeditErrorMarks
import SkyClaw.PluginStates
import SkyClaw.FrozenState
import SkyClaw.FrozenStateCas
import SkyClaw.CanonicalPaths
import SkyClaw.Effects
import SkyClaw.IndependentCopy
import SkyClaw.IndependentCopySteps
import SkyClaw.IndependentCopyExactness
import SkyClaw.LiteralRemoval
import SkyClaw.PromptSanitizer
import SkyClaw.HandlerIndex
import SkyClaw.ContextTrimming
import SkyClaw.LittleEndian
import SkyClaw.PluginHeader
import SkyClaw.PluginSensors
import SkyClaw.PluginLimits
import SkyClaw.OverlayExactness
import SkyClaw.ManagedTransactions
import SkyClaw.HeadlessSettings
import SkyClaw.ByteCursors
import SkyClaw.NifReader
import SkyClaw.NifExactness
import SkyClaw.PathStores
import SkyClaw.FomodInstall
import SkyClaw.FomodAllOrNothing
import SkyClaw.PartialWrites
import SkyClaw.TornWrites
import SkyClaw.ProfileFingerprint
import SkyClaw.FingerprintExactness
import SkyClaw.FirstByKey
import SkyClaw.PluginSources
import SkyClaw.Utf8Fields
import SkyClaw.PluginReaders
import SkyClaw.OrderedDicts
import SkyClaw.RecordDumps
import SkyClaw.DumpExactness
import SkyClaw.DumpDifferences
