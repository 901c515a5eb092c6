import MarketSnapshot.Instrument.Revision
import MarketSnapshot.Pipeline.Session
import MarketSnapshot.Proofs.Publishing
import MarketSnapshot.Settings.Basic
import MarketSnapshot.Snapshot.Channel
import MarketSnapshot.Proofs.RefusedRegistration
import MarketSnapshot.Proofs.Interleaving
import MarketSnapshot.Proofs.JournalRuns
import MarketSnapshot.Proofs.Backups
import MarketSnapshot.Proofs.RecordDelivery
import MarketSnapshot.Proofs.InstantText
import MarketSnapshot.Proofs.TickTally
import MarketSnapshot.Proofs.SessionRuns
import MarketSnapshot.Proofs.Thresholds
import MarketSnapshot.Proofs.FailedRequests
import MarketSnapshot.Proofs.InstantReader
import MarketSnapshot.Proofs.TimeOrder
import MarketSnapshot.Proofs.TimedText
import MarketSnapshot.Proofs.Rereading
import MarketSnapshot.Proofs.AttributeClash
import MarketSnapshot.Proofs.GivenChoices
import MarketSnapshot.Proofs.SettingsChosen
import MarketSnapshot.Proofs.SchemaDocuments
import MarketSnapshot.Proofs.AuditTrail
