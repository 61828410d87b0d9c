import RecordRules.Action.Basic
import RecordRules.Action.Config
import RecordRules.Action.Definition
import RecordRules.Action.Kind
import RecordRules.Action.Result
import RecordRules.Condition.Basic
import RecordRules.Condition.Evaluate
import RecordRules.Database.Migration
import RecordRules.Database.Pool
import RecordRules.Delay.Basic
import RecordRules.Delay.Queue
import RecordRules.Domain.Composition
import RecordRules.Domain.CompositionTable
import RecordRules.Domain.Direction
import RecordRules.Domain.DirectionTable
import RecordRules.Domain.Mapping
import RecordRules.Domain.MappingTable
import RecordRules.Domain.Name
import RecordRules.Domain.Punycode
import RecordRules.Engine.Basic
import RecordRules.Engine.Execution
import RecordRules.Engine.Session
import RecordRules.Environment
import RecordRules.Error
import RecordRules.FollowUp
import RecordRules.Host.Basic
import RecordRules.Host.Fault
import RecordRules.Host.Run
import RecordRules.Jobs.Cron
import RecordRules.Jobs.DelayedBatch
import RecordRules.Jobs.Reconcile
import RecordRules.Jobs.ScheduledTick
import RecordRules.Jobs.Scheduler
import RecordRules.Json.Basic
import RecordRules.Json.Decode
import RecordRules.Json.DecodeError
import RecordRules.Json.Printer
import RecordRules.Json.ReadError
import RecordRules.Json.Reader
import RecordRules.Links
import RecordRules.LogEntry
import RecordRules.Mail.Body
import RecordRules.Mail.Header
import RecordRules.Mail.Mailbox
import RecordRules.Mail.Message
import RecordRules.Mail.Reply
import RecordRules.Mail.Server
import RecordRules.Mail.Session
import RecordRules.Message.Email
import RecordRules.Message.Notification
import RecordRules.Message.Outbox
import RecordRules.Message.WebhookRequest
import RecordRules.Number.Binary64
import RecordRules.Number.Decimal
import RecordRules.Number.Digits
import RecordRules.Number.Power
import RecordRules.Number.Shortest
import RecordRules.Proofs.AbreastRuns
import RecordRules.Proofs.ActionEffects
import RecordRules.Proofs.ActionOutcomes
import RecordRules.Proofs.AgreeingRuns
import RecordRules.Proofs.AlikeResults
import RecordRules.Proofs.AuditTrail
import RecordRules.Proofs.CalendarDays
import RecordRules.Proofs.CalmRuns
import RecordRules.Proofs.Cancellation
import RecordRules.Proofs.CanonicalLiterals
import RecordRules.Proofs.ChangeDetection
import RecordRules.Proofs.ChannelLists
import RecordRules.Proofs.CharacterRuns
import RecordRules.Proofs.ComparedTexts
import RecordRules.Proofs.CronReconciliation
import RecordRules.Proofs.CutRuns
import RecordRules.Proofs.DecimalValues
import RecordRules.Proofs.DelayedBatches
import RecordRules.Proofs.DelayedRuns
import RecordRules.Proofs.DottedPaths
import RecordRules.Proofs.Evaluations
import RecordRules.Proofs.FieldNames
import RecordRules.Proofs.HostEffects
import RecordRules.Proofs.IdentifierTexts
import RecordRules.Proofs.InstantOrder
import RecordRules.Proofs.InvalidActions
import RecordRules.Proofs.JoinedRows
import RecordRules.Proofs.LeaseExclusivity
import RecordRules.Proofs.ListLiterals
import RecordRules.Proofs.LiteralWrites
import RecordRules.Proofs.LogFailures
import RecordRules.Proofs.MasterSwitch
import RecordRules.Proofs.OperatorAlgebra
import RecordRules.Proofs.PaddedNumbers
import RecordRules.Proofs.Placeholders
import RecordRules.Proofs.Places
import RecordRules.Proofs.PrunedRuns
import RecordRules.Proofs.QueueContents
import RecordRules.Proofs.QuotedTexts
import RecordRules.Proofs.ReadOnlyFields
import RecordRules.Proofs.RecordWrites
import RecordRules.Proofs.Redelivery
import RecordRules.Proofs.RefusedReconciliations
import RecordRules.Proofs.RelatedRecords
import RecordRules.Proofs.RelativeDueDates
import RecordRules.Proofs.ResolvedValues
import RecordRules.Proofs.RestoredRecords
import RecordRules.Proofs.Run
import RecordRules.Proofs.SavedWrites
import RecordRules.Proofs.ScheduledTicks
import RecordRules.Proofs.Selection
import RecordRules.Proofs.SessionSteps
import RecordRules.Proofs.SingleEffects
import RecordRules.Proofs.Snapshots
import RecordRules.Proofs.StableSort
import RecordRules.Proofs.StoredTimestamps
import RecordRules.Proofs.StructureDecoding
import RecordRules.Proofs.TimestampTexts
import RecordRules.Proofs.TraceOrder
import RecordRules.Proofs.WebhookDeliveries
import RecordRules.Proofs.WorkflowStorage
import RecordRules.Proofs.WrittenFields
import RecordRules.Record.Basic
import RecordRules.Record.Kind
import RecordRules.Record.Literal
import RecordRules.Record.Snapshot
import RecordRules.Record.Write
import RecordRules.Settings
import RecordRules.Sql.Connection
import RecordRules.Sql.Delayed
import RecordRules.Sql.Records
import RecordRules.Sql.Workflows
import RecordRules.Status
import RecordRules.Store.RecordStore
import RecordRules.Store.WorkflowStore
import RecordRules.Template
import RecordRules.Text.Alphanumeric
import RecordRules.Text.Ascii
import RecordRules.Text.Base64
import RecordRules.Text.Blank
import RecordRules.Text.CaseTable
import RecordRules.Text.Digit
import RecordRules.Text.Lowercase
import RecordRules.Text.Percent
import RecordRules.Text.Printable
import RecordRules.Text.Quoted
import RecordRules.Text.Ranges
import RecordRules.Text.Split
import RecordRules.Text.Utf8
import RecordRules.Time.Calendar
import RecordRules.Time.DueDate
import RecordRules.Time.Instant
import RecordRules.Time.Scan
import RecordRules.Time.Timestamp
import RecordRules.Trigger
import RecordRules.User
import RecordRules.Uuid
import RecordRules.Web.Delivery
import RecordRules.Web.HostAddress
import RecordRules.Web.Server
import RecordRules.Web.StatusCode
import RecordRules.Web.Url
import RecordRules.Workflow.Basic
