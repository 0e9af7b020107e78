import Optimizely.CircuitBreakerAccounting
import Optimizely.CircuitBreakerHalfOpen
import Optimizely.CircuitBreakerRecovery
import Optimizely.TouchpointSequence
import Optimizely.DuplicateScore
import Optimizely.SessionCleanup
import Optimizely.SessionInterleaving
import Optimizely.CacheInvalidation
import Optimizely.WorkflowTriggers
import Optimizely.WorkflowFailure
import Optimizely.WorkflowAnalytics
import Optimizely.ABTestingAssignment
import Optimizely.ABTestingStop
import Optimizely.ExperimentIndexes
import Optimizely.ExposureAttribution
import Optimizely.WebhookSignature
import Optimizely.EndpointStatistics
import Optimizely.EventTriggers
import Optimizely.TrafficAllocation
import Optimizely.ResultsFreshness
import Optimizely.RetryQueues
import Optimizely.ErrorResolution
import Optimizely.RecoveryOrder
import Optimizely.EventDelivery
import Optimizely.EventRegistry
import Optimizely.SessionSharing
import Optimizely.WebhookRateLimit
import Optimizely.WebhookAccounting
import Optimizely.DeliveryAttempts
import Optimizely.WebhookDeletion
import Optimizely.TrackerInit
import Optimizely.RoomBookkeeping
import Optimizely.OAuthAuthorization
import Optimizely.OAuthTokens
import Optimizely.SyncStatistics
import Optimizely.SyncCancellation
import Optimizely.AuditDurability
import Optimizely.StorageHistory
import Optimizely.StorageClear
import Optimizely.SessionFingerprint
import Optimizely.CrossTabSync
import Optimizely.SessionTimeout
import Optimizely.SocketIsolation
import Optimizely.SocketReconnection
import Optimizely.SocketHeartbeat
import Optimizely.SocketQueue
import Optimizely.ConsentConsistency
import Optimizely.ConsentErasure
import Optimizely.ConsentGate
import Optimizely.BatchDelivery
import Optimizely.JourneyUpdates
import Optimizely.JourneyIsolation
import Optimizely.PersonalizationCounters
import Optimizely.NotificationQueue
import Optimizely.NotificationLimits
import Optimizely.FieldSimilarity
import Optimizely.EmailSequences
import Optimizely.ChartCache
import Optimizely.ColdCache
import Optimizely.RecentEvents
import Optimizely.EngagementIndex
import Optimizely.CampaignRevenue
import Optimizely.AudienceMatch
import Optimizely.FieldMappings
import Optimizely.StringHash
import Optimizely.PersonalizationRates
import Optimizely.ChartData
import Optimizely.OutcomeTracking
import Optimizely.WorkflowPersistence
