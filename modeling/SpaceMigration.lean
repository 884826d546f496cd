import SpaceMigration.Audit.Script
import SpaceMigration.CommandLine.Directory
import SpaceMigration.CommandLine.Program
import SpaceMigration.Config
import SpaceMigration.Job.Observation
import SpaceMigration.Job.Run
import SpaceMigration.Main
import SpaceMigration.Proofs.AnswerFaults
import SpaceMigration.Proofs.AnsweredSpaces
import SpaceMigration.Proofs.AuditOnce
import SpaceMigration.Proofs.AuditRowStates
import SpaceMigration.Proofs.AuditedRun
import SpaceMigration.Proofs.Cancellation
import SpaceMigration.Proofs.CaseBlindLookup
import SpaceMigration.Proofs.ChecklistText
import SpaceMigration.Proofs.ContentText
import SpaceMigration.Proofs.Deliveries
import SpaceMigration.Proofs.EnabledFamilies
import SpaceMigration.Proofs.ExtensionLists
import SpaceMigration.Proofs.FailureIsolation
import SpaceMigration.Proofs.Interruption
import SpaceMigration.Proofs.LateCalls
import SpaceMigration.Proofs.LaunchHistory
import SpaceMigration.Proofs.LoggedCalls
import SpaceMigration.Proofs.MacroCalls
import SpaceMigration.Proofs.MetadataHistory
import SpaceMigration.Proofs.OfferedAnswers
import SpaceMigration.Proofs.ProcessingOrder
import SpaceMigration.Proofs.Reconciliation
import SpaceMigration.Proofs.RecordingEvidence
import SpaceMigration.Proofs.Recovery
import SpaceMigration.Proofs.Redelivery
import SpaceMigration.Proofs.Registrations
import SpaceMigration.Proofs.RenamedParameters
import SpaceMigration.Proofs.ReplacedSpaces
import SpaceMigration.Proofs.RunRoot
import SpaceMigration.Proofs.SavedDocuments
import SpaceMigration.Proofs.SavedRecords
import SpaceMigration.Proofs.SavedReferences
import SpaceMigration.Proofs.SnapshotText
import SpaceMigration.Proofs.TaskLines
import SpaceMigration.Signal
import SpaceMigration.Store.Audit
import SpaceMigration.Store.Documents
