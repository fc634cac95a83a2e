import GeoHazard.Library.Transition
import GeoHazard.Library.Dict
import GeoHazard.Library.ReadCommitted
import GeoHazard.Library.CommitOrder
import GeoHazard.Library.TwoSessions
import GeoHazard.Library.Table
import GeoHazard.Library.BatchUpsert
import GeoHazard.Library.Keyset
import GeoHazard.Library.SkipLoop
import GeoHazard.Library.GroupBy
import GeoHazard.Library.Partition
import GeoHazard.Library.RetryLease
import GeoHazard.Library.Json
import GeoHazard.Library.JsonText
import GeoHazard.Library.JsonLimits
import GeoHazard.Library.JsonOrder
import GeoHazard.Library.Utf8Cut
import GeoHazard.Core.Attribution
import GeoHazard.Core.Datetime
import GeoHazard.Core.PyFloat
import GeoHazard.Core.Text
import GeoHazard.Core.OutboxEvent
import GeoHazard.Core.OutboxWorker
import GeoHazard.Core.OutboxRuns
import GeoHazard.Core.JobWorker
import GeoHazard.Core.JobRuns
import GeoHazard.Hazards.Schema
import GeoHazard.Hazards.Services
import GeoHazard.Hazards.HazardEventRepo
import GeoHazard.Hazards.SourceSyncStateRepo
import GeoHazard.Hazards.SyncAemet
import GeoHazard.Hazards.SyncEffis
import GeoHazard.Hazards.SyncIgn
import GeoHazard.Hazards.UpsertSpec
import GeoHazard.Hazards.UpsertColumns
import GeoHazard.Hazards.RowChange
import GeoHazard.Hazards.SyncRuns
import GeoHazard.Hazards.ReferenceEnv
import GeoHazard.Hazards.AemetLifecycle
import GeoHazard.Hazards.Closings
import GeoHazard.Hazards.BatchSelection
import GeoHazard.Hazards.NoChangePoll
import GeoHazard.Hazards.BulletinOrder
import GeoHazard.Hazards.UpsertContent
import GeoHazard.Hazards.ContentHash
import GeoHazard.Hazards.EffisLifecycle
import GeoHazard.Hazards.SyncJobs
import GeoHazard.Hazards.WkbGeojson
import GeoHazard.Hazards.ListEvents
import GeoHazard.Hazards.ServedEvents
import GeoHazard.Hazards.KeysetWalk
import GeoHazard.Hazards.CursorErrors
import GeoHazard.Hazards.ExportGeoparquet
import GeoHazard.Hazards.SnapshotRuns
import GeoHazard.Hazards.SnapshotFiles
import GeoHazard.Hazards.SnapshotOrder
import GeoHazard.Hazards.Parsers
import GeoHazard.Hazards.StoredVertices
import GeoHazard.Hazards.AemetBulletin
import GeoHazard.Hazards.GeorssFeed
import GeoHazard.Hazards.EffisWalk
import GeoHazard.Hazards.EffisFeatures
import GeoHazard.Hazards.EffisBatch
import GeoHazard.Analytics.Zones
import GeoHazard.Analytics.WarningDays
import GeoHazard.Analytics.ZoneEndpoints
import GeoHazard.Analytics.ZoneTotals
import GeoHazard.Notifications.Schema
import GeoHazard.Notifications.Episodes
import GeoHazard.Notifications.Matching
import GeoHazard.Notifications.EpisodeRepo
import GeoHazard.Notifications.MatchBatch
import GeoHazard.Notifications.GroupSpec
import GeoHazard.Notifications.Ratchet
import GeoHazard.Notifications.MatchSpec
import GeoHazard.Notifications.DeliveryRepo
import GeoHazard.Notifications.SubscriptionAdmin
import GeoHazard.Notifications.MatchRuns
import GeoHazard.Notifications.ReferenceGis
import GeoHazard.Notifications.EpisodeRatchet
import GeoHazard.Notifications.MatchFrame
import GeoHazard.Notifications.Deliver
import GeoHazard.Notifications.DeliverSpec
import GeoHazard.Notifications.DeliverRuns
import GeoHazard.Notifications.DeliveryLifeCycle
import GeoHazard.Notifications.Sessions
import GeoHazard.Notifications.SessionSpec
import GeoHazard.Notifications.SessionSerial
import GeoHazard.Notifications.PauseRace
import GeoHazard.Notifications.Matchers
import GeoHazard.Notifications.MatcherFrame
import GeoHazard.Notifications.MatcherRenaming
import GeoHazard.Notifications.MatcherStages
import GeoHazard.Notifications.MatcherProgress
import GeoHazard.Notifications.MatcherSettled
import GeoHazard.Notifications.MatcherSerial
import GeoHazard.Notifications.ClosedEvents
import GeoHazard.Notifications.HttpChannel
import GeoHazard.Notifications.DeliverOutcomes
import GeoHazard.Notifications.RetryState
import GeoHazard.Notifications.SendBudget
import GeoHazard.Notifications.PurgeRetention
import GeoHazard.Notifications.NotifiedSeverity
import GeoHazard.Notifications.Rendering
import GeoHazard.Notifications.NtfyFooter
import GeoHazard.Notifications.SentTexts
import GeoHazard.Notifications.RecordTrace
import GeoHazard.Notifications.RecordPositions
import GeoHazard.Notifications.OperatorTrace
import GeoHazard.Notifications.PurgeRaces
import GeoHazard.Notifications.OperatorSerial
import GeoHazard.Notifications.OperatorRaces
import GeoHazard.Notifications.OperatorDeadlock
import GeoHazard.Notifications.OperatorCommands
import GeoHazard.Library.OrderBy
import GeoHazard.Library.Backfill
import GeoHazard.Library.Backlog
import GeoHazard.Core.JobPasses
import GeoHazard.Hazards.SourceHealth
import GeoHazard.Hazards.Provinces
import GeoHazard.Hazards.ProvinceBackfill
import GeoHazard.Hazards.PointWindows
import GeoHazard.Hazards.ClusterEvents
import GeoHazard.Notifications.SubscriptionRepo
import GeoHazard.Notifications.RowLinks
import GeoHazard.Notifications.SubscriptionRows
import GeoHazard.Notifications.DeliveryOrigin
import GeoHazard.Notifications.WeeklyStats
import GeoHazard.Notifications.ToldMatches
import GeoHazard.Core.OutboxCalls
import GeoHazard.Core.OutboxTrace
import GeoHazard.Notifications.MatchCoverage
import GeoHazard.Notifications.Pipeline
import GeoHazard.Notifications.PipelineRuns
import GeoHazard.Core.HttpGet
import GeoHazard.Hazards.AemetCaps
import GeoHazard.Hazards.AemetPolls
