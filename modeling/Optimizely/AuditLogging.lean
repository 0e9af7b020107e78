import Optimizely.IsoDate
import Optimizely.Json

/-!
# Audit logging

Audit records are queued when they are logged. Every five seconds a batch of them is moved into the
map, and the records of the last thirty days are saved as one JSON text that Redis keeps for an
hour. A shutdown moves one more batch and saves once more.
-/

namespace AuditLogging

open JsonRecord

def truthy : JsData → Bool
  | .undefined | .null => false
  | .boolean b => b
  | .number x => x ≠ .finite 0 ∧ x ≠ .nan
  | .string s => s ≠ ""
  | .date _ | .array _ | .object _ => true

def field (record : Fields) (key : String) : JsData := (record.get? key).getD .undefined

/-- `event.key || fallback`. -/
def fieldOr (event : Fields) (key : String) (fallback : JsData) : JsData :=
  if truthy (field event key) then field event key else fallback

def recordId (record : Fields) : String :=
  match record.get? "id" with
  | some (.string id) => id
  | _ => ""

def timestampOf (record : Fields) : Option Int :=
  match record.get? "timestamp" with
  | some (.date ms) => some ms
  | _ => none

def retentionPolicyOf (record : Fields) : String :=
  match record.get? "retentionPolicy" with
  | some (.string policy) => policy
  | _ => ""

def getRetentionPolicyId : JsData → String
  | .string "sync" => "sync_operations"
  | .string "webhook" => "webhook_events"
  | .string "error" => "error_events"
  | .string "authentication" => "authentication_events"
  | .string "authorization" => "authentication_events"
  | .string "data_access" => "data_access_events"
  | .string "configuration" => "sync_operations"
  | .string "system" => "error_events"
  | _ => "error_events"

/-- The fields that the checksum covers, besides the timestamp. -/
def checksumKeys : List String :=
  ["category", "action", "entityType", "entityId", "serviceId", "source", "target", "changes",
    "metadata"]

/-- `digest` is the SHA-256 hash of a JSON text. Without a date as timestamp it is an error. -/
def generateChecksum (digest : Json → String) (record : Fields) : Option String :=
  (timestampOf record).bind fun ms =>
    (Json.stringify (.object (("timestamp", .string (toISOString ms)) ::
      checksumKeys.map fun key => (key, field record key)))).map digest

def systemSource : JsData :=
  .object [("type", .string "system"), ("id", .string "universal-audit-service"),
    ("name", .string "Universal Audit Logging Service")]

/-- The record of `logAuditEvent` before its checksum. -/
def unsignedRecord (event : Fields) (id : String) (now : Int) : Fields where
  entries :=
    [("id", .string id),
      ("timestamp", .date now),
      ("category", fieldOr event "category" (.string "system")),
      ("action", fieldOr event "action" (.string "unknown")),
      ("entityType", field event "entityType"),
      ("entityId", field event "entityId"),
      ("userId", field event "userId"),
      ("sessionId", field event "sessionId"),
      ("serviceId", fieldOr event "serviceId" (.string "unknown")),
      ("operationId", field event "operationId"),
      ("source", fieldOr event "source" systemSource),
      ("target", field event "target"),
      ("changes", fieldOr event "changes" (.array [])),
      ("metadata", fieldOr event "metadata" (.object [])),
      ("severity", fieldOr event "severity" (.string "info")),
      ("status", fieldOr event "status" (.string "success")),
      ("duration", field event "duration"),
      ("checksum", .string ""),
      ("retentionPolicy",
        .string (getRetentionPolicyId (fieldOr event "category" (.string "system")))),
      ("complianceFlags", fieldOr event "complianceFlags" (.array []))]
  nodup := by simp

def newRecord (digest : Json → String) (event : Fields) (id : String) (now : Int) : Fields :=
  let record := unsignedRecord event id now
  record.set "checksum" (.string ((generateChecksum digest record).getD ""))

structure RetentionPolicy where
  retentionDays : Rat
  autoCleanup : Bool
  deriving DecidableEq

/-- Who awaits a save: the interval or a cleanup, or the two parts of `shutdown`. -/
inductive Saver where
  | background
  | draining
  | saving
  deriving DecidableEq

/-- How far `shutdown` has come. When it is `drained` the last save is still to come, and it has
resolved at a time. -/
inductive Stage where
  | running
  | draining
  | drained
  | saving
  | resolved (time : Int)
  | rejected
  deriving DecidableEq

/-- `redis` is the key `audit:records` with its expiry, and `commands` are the saves on their way to
it. `logged` is a history: the records logged before `shutdown`. -/
structure Service where
  now : Int
  auditRecords : OrderedMap String Fields
  processingQueue : List Fields
  retentionPolicies : OrderedMap String RetentionPolicy
  commands : List (List Record × Saver)
  redis : Option (List Record × Int)
  stage : Stage
  logged : List Fields

namespace Service

def day : Int := 86400000

def age (s : Service) (record : Fields) : Int := s.now - (timestampOf record).getD 0

/-- `daysDiff <= 30`. -/
def isRecent (s : Service) (record : Fields) : Bool := s.age record ≤ 30 * day

def recentRecords (s : Service) : List Record :=
  (s.auditRecords.values.filter s.isRecent).map stringify

/-- Up to its await. -/
def persistData (s : Service) (saver : Saver) : Service :=
  { s with commands := s.commands ++ [(s.recentRecords, saver)] }

def batchSize : Nat := 100

/-- The part of `processBatch` before the save. -/
def moveBatch (s : Service) : Service :=
  { s with
    auditRecords := (s.processingQueue.take batchSize).foldl
      (fun records record => records.set (recordId record) record) s.auditRecords
    processingQueue := s.processingQueue.drop batchSize }

def processBatch (s : Service) (saver : Saver) : Service :=
  if s.processingQueue.length = 0 then s else s.moveBatch.persistData saver

def isExpired (s : Service) (record : Fields) : Bool :=
  (s.retentionPolicies.get? (retentionPolicyOf record)).any fun policy =>
    policy.retentionDays * (day : Rat) < (s.age record : Rat)

def isCleanedUp (s : Service) (record : Fields) : Bool :=
  (s.retentionPolicies.get? (retentionPolicyOf record)).any fun policy =>
    policy.autoCleanup && policy.retentionDays * (day : Rat) < (s.age record : Rat)

def performCleanup (s : Service) : Service :=
  let left := s.auditRecords.filter fun _ record => !s.isCleanedUp record
  if left.entries.length < s.auditRecords.entries.length then
    { s with auditRecords := left }.persistData .background
  else s

def logAuditEvent (digest : Json → String) (s : Service) (event : Fields) (id : String) :
    Service :=
  let record := newRecord digest event id s.now
  { s with
    processingQueue := s.processingQueue ++ [record]
    logged := if s.stage = .running then s.logged ++ [record] else s.logged }

/-- Ids are generated from the time and random digits. -/
def isFresh (s : Service) (id : String) : Bool :=
  id ∉ s.auditRecords.keys && s.processingQueue.all fun record => recordId record ≠ id

/-- An empty queue is not saved. -/
def shutdown (s : Service) : Service :=
  let stopped := s.processBatch .draining
  { stopped with stage := if s.processingQueue.length = 0 then .drained else .draining }

/-- The awaiting call goes on or throws. -/
def answered (s : Service) (saver : Saver) (acknowledged : Bool) : Stage :=
  match saver with
  | .background => s.stage
  | .draining => if acknowledged then .drained else .rejected
  | .saving => if acknowledged then .resolved s.now else .rejected

/-- The JSON found under `audit:records`. -/
def persisted (s : Service) : Option (List Record) :=
  s.redis.bind fun (records, expires) => if s.now < expires then some records else none

end Service

inductive Label where
  | advance (ms : Nat)
  | logAuditEvent (event : Fields) (id : String)
  | processBatch
  | performCleanup
  | shutdown
  /-- `shutdown` goes on to its last save. -/
  | resume
  /-- Redis executes the oldest save, or it is lost. One that is acknowledged has been executed. -/
  | execute (applied acknowledged : Bool)

/-- The expiry of `audit:records`, 3600 seconds. -/
def ttl : Int := 3600000

/-- The intervals run until `shutdown` is called. -/
def step (digest : Json → String) (s : Service) : Label → Option Service
  | .advance ms => some { s with now := s.now + ms }
  | .logAuditEvent event id =>
    if s.isFresh id then some (s.logAuditEvent digest event id) else none
  | .processBatch => if s.stage = .running then some (s.processBatch .background) else none
  | .performCleanup => if s.stage = .running then some s.performCleanup else none
  | .shutdown => if s.stage = .running then some s.shutdown else none
  | .resume =>
    if s.stage = .drained then some { s.persistData .saving with stage := .saving } else none
  | .execute applied acknowledged =>
    match s.commands with
    | [] => none
    | (records, saver) :: commands =>
      if acknowledged && !applied then none
      else some { s with
        commands := commands
        redis := if applied then some (records, s.now + ttl) else s.redis
        stage := s.answered saver acknowledged }

/-- A service that has loaded its records and policies. -/
structure Initialized (s : Service) : Prop where
  auditRecords : ∀ id record, s.auditRecords.get? id = some record →
    record.get? "id" = some (.string id)
  processingQueue : s.processingQueue = []
  commands : ∀ command ∈ s.commands, command.2 = .background
  stage : s.stage = .running
  logged : s.logged = []

/-- `new Date(value)`; an invalid date is left undefined. -/
def newDate : JsData → JsData
  | .string text => (IsoDate.parse text).elim .undefined .date
  | _ => .undefined

/-- `{...record, timestamp: new Date(record.timestamp)}`. -/
def loadRecord (record : Record) : Fields :=
  (parse record).set "timestamp" (newDate (field (parse record) "timestamp"))

def loadConfiguration (records : List Record) : OrderedMap String Fields :=
  records.foldl (fun loaded record => loaded.set (recordId (parse record)) (loadRecord record))
    .empty

end AuditLogging
