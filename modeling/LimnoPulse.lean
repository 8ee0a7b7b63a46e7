import LimnoPulse.Alerts.ScheduleIndex
import LimnoPulse.Alerts.Revision
import LimnoPulse.Notifications.ProviderCalls
import LimnoPulse.Notifications.GateFence
import LimnoPulse.Notifications.CrashRecovery
import LimnoPulse.Alerts.StateJson
import LimnoPulse.Alerts.OutboxPairing
import LimnoPulse.Alerts.ActiveIndex
import LimnoPulse.Alerts.Replacement
import LimnoPulse.Ingestion.MarkJoin
import LimnoPulse.Ingestion.QuarantineLifecycle
import LimnoPulse.Ingestion.AdmissionAgreement
import LimnoPulse.Provisioning.IdempotentCreate
import LimnoPulse.Notifications.FeedbackOnce
import LimnoPulse.Ingestion.QuarantineIdentity
import LimnoPulse.Alerts.Confirmation
import LimnoPulse.Ingestion.QuarantinePaging
import LimnoPulse.Alerts.FluxLiteral
import LimnoPulse.Ingestion.SequenceBatching
import LimnoPulse.Alerts.Slots
import LimnoPulse.Notifications.Priority
