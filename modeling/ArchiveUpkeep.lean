import ArchiveUpkeep.Config.Load
import ArchiveUpkeep.Logging.LogFile
import ArchiveUpkeep.Simulation.Rehearsal
import ArchiveUpkeep.Simulation.Scenario
import ArchiveUpkeep.Worker.Holders
import ArchiveUpkeep.Worker.Run
import ArchiveUpkeep.Proofs.DistinctKeys
import ArchiveUpkeep.Proofs.ReportedExecutions
import ArchiveUpkeep.Proofs.SlotTenure
import ArchiveUpkeep.Proofs.ExecutionAccounting
import ArchiveUpkeep.Proofs.MergeScope
import ArchiveUpkeep.Proofs.RetentionTargets
import ArchiveUpkeep.Proofs.ProposedTasks
import ArchiveUpkeep.Proofs.SelectionFailures
import ArchiveUpkeep.Proofs.CleanupSafety
import ArchiveUpkeep.Proofs.ServiceOrder
import ArchiveUpkeep.Proofs.InterruptedApply
import ArchiveUpkeep.Proofs.GreedyIntake
import ArchiveUpkeep.Proofs.WrittenValues
import ArchiveUpkeep.Proofs.SectionReading
import ArchiveUpkeep.Proofs.MalformedValues
import ArchiveUpkeep.Proofs.AgreeingControllers
import ArchiveUpkeep.Proofs.Isolation
import ArchiveUpkeep.Proofs.RetentionPromise
import ArchiveUpkeep.Proofs.PriorityOrder
import ArchiveUpkeep.Proofs.SectionRefusal
import ArchiveUpkeep.Proofs.TickAccounting
import ArchiveUpkeep.Proofs.DocumentMeaning
import ArchiveUpkeep.Proofs.ValidConfigurations
import ArchiveUpkeep.Proofs.CanonicalValues
import ArchiveUpkeep.Proofs.WrittenConfigurations
import ArchiveUpkeep.Proofs.AgeTests
import ArchiveUpkeep.Proofs.DocumentOrder
import ArchiveUpkeep.Proofs.TextOrder
import ArchiveUpkeep.Proofs.ReplicationChoice
import ArchiveUpkeep.Proofs.MergeRelaxation
import ArchiveUpkeep.Proofs.YoungDiffs
import ArchiveUpkeep.Proofs.MergeTiling
import ArchiveUpkeep.Proofs.FirstFailure
import ArchiveUpkeep.Proofs.AllOrNothing
import ArchiveUpkeep.Proofs.FreshApplies
import ArchiveUpkeep.Proofs.AdvancingTargets
import ArchiveUpkeep.Proofs.SpelledMeasures
import ArchiveUpkeep.Proofs.LoopMoves
import ArchiveUpkeep.Proofs.ClockedRuns
import ArchiveUpkeep.Proofs.SpelledCompressions
import ArchiveUpkeep.Proofs.ChainNotation
import ArchiveUpkeep.Proofs.CanonicalCompressions
import ArchiveUpkeep.Proofs.ConfigurationFiles
