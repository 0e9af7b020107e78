import Mathlib.Data.List.Sort
import Mathlib.Data.Rat.Defs
import Optimizely.OrderedMap

/-!
# The sync engine

Jobs, their executions and `performSync`, with external calls on records that may throw.
`performSync` is given twice: as the source writes it, and from one await to the next, as it runs
beside cancellations, updates and deletions. The two agree.
-/

namespace SyncEngine

open List Option

inductive Direction where
  | bidirectional
  | sourceToTarget
  | targetToSource
  deriving DecidableEq

inductive SyncMode where
  | full
  | incremental
  | delta
  deriving DecidableEq

inductive JobStatus where
  | idle
  | running
  | completed
  | failed
  | paused
  deriving DecidableEq

inductive ExecutionStatus where
  | running
  | completed
  | failed
  | cancelled
  deriving DecidableEq

structure Mapping where
  sourceSystem : String
  targetSystem : String
  entityType : String
  priority : Rat
  deriving DecidableEq

/-- `writer` is a history: the execution that wrote the status last, if one did. -/
structure Job where
  sourceSystem : String
  targetSystem : String
  entityTypes : List String
  syncMode : SyncMode
  direction : Direction
  status : JobStatus
  writer : Option Nat
  deriving DecidableEq

structure Statistics where
  totalRecords : Nat
  processedRecords : Nat
  successfulRecords : Nat
  failedRecords : Nat
  skippedRecords : Nat
  conflictRecords : Nat
  deriving DecidableEq

structure SyncError where
  entityId : String
  entityType : String
  errorCode : String
  errorMessage : String
  deriving DecidableEq

structure Execution where
  jobId : String
  status : ExecutionStatus
  direction : Direction
  syncMode : SyncMode
  statistics : Statistics
  errors : List SyncError
  conflicts : List String
  deriving DecidableEq

structure Entity (Data : Type) where
  id : String
  data : Data
  deriving DecidableEq

variable {Data : Type}

namespace Execution

def skipped (e : Execution) : Execution :=
  { e with statistics.skippedRecords := e.statistics.skippedRecords + 1 }

def conflicted (e : Execution) (conflicts : List String) : Execution :=
  { e with
    statistics.conflictRecords := e.statistics.conflictRecords + 1
    conflicts := e.conflicts ++ conflicts }

def synced (e : Execution) : Execution :=
  { e with
    statistics.successfulRecords := e.statistics.successfulRecords + 1
    statistics.processedRecords := e.statistics.processedRecords + 1 }

/-- The catch block around a record. -/
def failedRecord (e : Execution) (entityId entityType message : String) : Execution :=
  { e with
    statistics.failedRecords := e.statistics.failedRecords + 1
    errors := e.errors ++ [⟨entityId, entityType, "SYNC_FAILED", message⟩] }

def fetched (e : Execution) (records : Nat) : Execution :=
  { e with statistics.totalRecords := e.statistics.totalRecords + records }

/-- The execution that `executeSyncJob` starts with. -/
def started (jobId : String) (direction : Direction) (syncMode : SyncMode) :
    Execution where
  jobId := jobId
  status := .running
  direction := direction
  syncMode := syncMode
  statistics := ⟨0, 0, 0, 0, 0, 0⟩
  errors := []
  conflicts := []

end Execution

/-- The outcomes of the calls for one record, where they are made. -/
structure Outcomes (Data : Type) where
  detectChanges : Except String Bool
  transformData : Mapping → Except String Data
  detectConflicts : Data → Except String (List String)
  syncToTargetSystem : Data → Except String Unit
  syncFromTargetToSource : Except String Unit

/-- The body of the loop over the records. -/
def syncRecord (e : Execution) (entityType : String) (mapping : Mapping) (record : Entity Data)
    (outcomes : Outcomes Data) : Execution :=
  match outcomes.detectChanges with
  | .error message => e.failedRecord record.id entityType message
  | .ok hasChanges =>
    if !hasChanges && e.syncMode = .incremental then e.skipped
    else
      match outcomes.transformData mapping with
      | .error message => e.failedRecord record.id entityType message
      | .ok data =>
        match outcomes.detectConflicts data with
        | .error message => e.failedRecord record.id entityType message
        | .ok conflicts =>
          if 0 < conflicts.length then e.conflicted conflicts
          else
            match outcomes.syncToTargetSystem data with
            | .error message => e.failedRecord record.id entityType message
            | .ok () =>
              if e.synced.direction = .bidirectional then
                match outcomes.syncFromTargetToSource with
                | .error message => e.synced.failedRecord record.id entityType message
                | .ok () => e.synced
              else e.synced

def syncRecords (e : Execution) (entityType : String) (mapping : Mapping)
    (records : List (Entity Data × Outcomes Data)) : Execution :=
  records.foldl (fun e record => syncRecord e entityType mapping record.1 record.2) e

/-- Filters that are empty texts do not filter. -/
def getSyncMappings (syncMappings : List Mapping) (sourceSystem targetSystem : String) :
    List Mapping :=
  (syncMappings.filter fun mapping =>
    (sourceSystem = "" || mapping.sourceSystem = sourceSystem) &&
      (targetSystem = "" || mapping.targetSystem = targetSystem)).insertionSort
    fun a b => b.priority ≤ a.priority

/-- The loop over the entity types. A fetch is given with each type, for the types that have a
mapping. -/
def syncTypes (mappings : List Mapping) (e : Execution) :
    List (String × List (Entity Data × Outcomes Data)) → Execution
  | [] => e
  | (entityType, records) :: types =>
    match mappings.filter (·.entityType = entityType) with
    | [] => syncTypes mappings e types
    | mapping :: _ =>
      syncTypes mappings (syncRecords (e.fetched records.length) entityType mapping records) types

/-- `fetches` are the records that the n-th entity type's fetch returns. -/
def performSync (syncMappings : List Mapping) (e : Execution) (job : Job)
    (fetches : Nat → List (Entity Data × Outcomes Data)) : Execution :=
  syncTypes (getSyncMappings syncMappings job.sourceSystem job.targetSystem) e
    (job.entityTypes.zipIdx.map fun entry => (entry.1, fetches entry.2))

/-- The loops of `performSync` while a record is processed. -/
structure Loop (Data : Type) where
  mappings : List Mapping
  entityType : String
  mapping : Mapping
  record : Entity Data
  records : List (Entity Data)
  types : List String
  deriving DecidableEq

/-- The call that `performSync` awaits. -/
inductive Progress (Data : Type) where
  | fetching (mappings : List Mapping) (entityType : String) (mapping : Mapping)
      (types : List String)
  | detecting (loop : Loop Data)
  | transforming (loop : Loop Data)
  | detectingConflicts (loop : Loop Data) (data : Data)
  | writing (loop : Loop Data) (data : Data)
  | writingBack (loop : Loop Data)
  | returned
  | thrown (message : String)
  deriving DecidableEq

inductive Outcome (Data : Type) where
  | fetched (records : List (Entity Data))
  | changes (hasChanges : Bool)
  | transformed (data : Data)
  | conflicts (ids : List String)
  | written
  | writtenBack
  | thrown (message : String)
  deriving DecidableEq

def nextType (mappings : List Mapping) : List String → Progress Data
  | [] => .returned
  | entityType :: types =>
    match mappings.filter (·.entityType = entityType) with
    | [] => nextType mappings types
    | mapping :: _ => .fetching mappings entityType mapping types

def nextRecord (mappings : List Mapping) (entityType : String) (mapping : Mapping)
    (types : List String) : List (Entity Data) → Progress Data
  | [] => nextType mappings types
  | record :: records => .detecting ⟨mappings, entityType, mapping, record, records, types⟩

def Loop.next (loop : Loop Data) : Progress Data :=
  nextRecord loop.mappings loop.entityType loop.mapping loop.types loop.records

/-- A call throws inside the try block of the record. -/
def Loop.catch (loop : Loop Data) (e : Execution) (message : String) : Execution × Progress Data :=
  (e.failedRecord loop.record.id loop.entityType message, loop.next)

def advance (e : Execution) : Progress Data → Outcome Data → Option (Execution × Progress Data)
  | .fetching mappings entityType mapping types, .fetched records =>
    some (e.fetched records.length, nextRecord mappings entityType mapping types records)
  | .fetching _ _ _ _, .thrown message => some (e, .thrown message)
  | .detecting loop, .changes hasChanges =>
    if !hasChanges && e.syncMode = .incremental then some (e.skipped, loop.next)
    else some (e, .transforming loop)
  | .detecting loop, .thrown message => some (loop.catch e message)
  | .transforming loop, .transformed data => some (e, .detectingConflicts loop data)
  | .transforming loop, .thrown message => some (loop.catch e message)
  | .detectingConflicts loop data, .conflicts ids =>
    if 0 < ids.length then some (e.conflicted ids, loop.next) else some (e, .writing loop data)
  | .detectingConflicts loop _, .thrown message => some (loop.catch e message)
  | .writing loop _, .written =>
    if e.synced.direction = .bidirectional then some (e.synced, .writingBack loop)
    else some (e.synced, loop.next)
  | .writing loop _, .thrown message => some (loop.catch e message)
  | .writingBack loop, .writtenBack => some (e, loop.next)
  | .writingBack loop, .thrown message => some (loop.catch e message)
  | _, _ => none

def advances (e : Execution) (progress : Progress Data) :
    List (Outcome Data) → Option (Execution × Progress Data)
  | [] => some (e, progress)
  | outcome :: outcomes => (advance e progress outcome).bind fun (e, progress) =>
      advances e progress outcomes

def ofExcept {A : Type} (result : Except String A) (outcome : A → Outcome Data) : Outcome Data :=
  match result with
  | .error message => .thrown message
  | .ok value => outcome value

/-- The outcomes of the calls that are made for a record, in their order. -/
def Outcomes.script (outcomes : Outcomes Data) (syncMode : SyncMode) (direction : Direction)
    (mapping : Mapping) : List (Outcome Data) :=
  ofExcept outcomes.detectChanges .changes ::
    match outcomes.detectChanges with
    | .error _ => []
    | .ok hasChanges =>
      if !hasChanges && syncMode = .incremental then []
      else ofExcept (outcomes.transformData mapping) .transformed ::
        match outcomes.transformData mapping with
        | .error _ => []
        | .ok data => ofExcept (outcomes.detectConflicts data) .conflicts ::
          match outcomes.detectConflicts data with
          | .error _ => []
          | .ok conflicts =>
            if 0 < conflicts.length then []
            else ofExcept (outcomes.syncToTargetSystem data) (fun _ => .written) ::
              match outcomes.syncToTargetSystem data with
              | .error _ => []
              | .ok () =>
                if direction = .bidirectional then
                  [ofExcept outcomes.syncFromTargetToSource fun _ => .writtenBack]
                else []

variable (e : Execution) (mappings : List Mapping) (entityType : String) (mapping : Mapping)

lemma advances_append (p : Progress Data)
    (first rest : List (Outcome Data)) : advances e p (first ++ rest) =
      (advances e p first).bind fun w => advances w.1 w.2 rest := by
  induction first generalizing e p with
  | nil => rfl
  | cons o first ih =>
    rw [cons_append, advances, advances]
    cases advance e p o with
    | none => rfl
    | some w => exact ih w.1 w.2

lemma advances_record (l : Loop Data) (os : Outcomes Data) :
    advances e (.detecting l) (os.script e.syncMode e.direction l.mapping) =
      some (syncRecord e l.entityType l.mapping l.record os, l.next) := by
  rw [Outcomes.script, syncRecord, advances]
  cases os.detectChanges with
  | error m => rfl
  | ok hasChanges =>
    simp only [ofExcept, advance]
    split
    · rfl
    · cases os.transformData l.mapping with
      | error m => rfl
      | ok d =>
        simp only [advance, bind_some, advances]
        cases os.detectConflicts d with
        | error m => rfl
        | ok conflicts =>
          dsimp only
          split
          · rfl
          · simp only [bind_some, advances]
            cases os.syncToTargetSystem d with
            | error m => rfl
            | ok done =>
              have hs : e.synced.direction = e.direction := rfl
              simp only [advance, hs]
              split
              · cases os.syncFromTargetToSource <;> rfl
              · rfl

lemma options_syncRecord (r : Entity Data) (os : Outcomes Data) :
    (syncRecord e entityType mapping r os).syncMode = e.syncMode ∧
      (syncRecord e entityType mapping r os).direction = e.direction := by
  unfold syncRecord
  repeat' split
  all_goals exact ⟨rfl, rfl⟩

lemma options_syncRecords (xs : List (Entity Data × Outcomes Data)) :
    (syncRecords e entityType mapping xs).syncMode = e.syncMode ∧
      (syncRecords e entityType mapping xs).direction = e.direction := by
  induction xs generalizing e with
  | nil => exact ⟨rfl, rfl⟩
  | cons r xs ih =>
    obtain ⟨hm, d⟩ := options_syncRecord e entityType mapping r.1 r.2
    obtain ⟨hm', hdr'⟩ := ih (syncRecord e entityType mapping r.1 r.2)
    exact ⟨hm'.trans hm, hdr'.trans d⟩

def recordsScript (syncMode : SyncMode) (direction : Direction) (mapping : Mapping)
    (records : List (Entity Data × Outcomes Data)) : List (Outcome Data) :=
  records.flatMap fun record => record.2.script syncMode direction mapping

def typesScript (syncMode : SyncMode) (direction : Direction) (mappings : List Mapping) :
    List (String × List (Entity Data × Outcomes Data)) → List (Outcome Data)
  | [] => []
  | (entityType, records) :: types =>
    match mappings.filter (·.entityType = entityType) with
    | [] => typesScript syncMode direction mappings types
    | mapping :: _ =>
      .fetched (records.map Prod.fst) :: recordsScript syncMode direction mapping records ++
        typesScript syncMode direction mappings types

lemma advances_records (ts : List String) (xs : List (Entity Data × Outcomes Data)) :
    advances e (nextRecord mappings entityType mapping ts (xs.map Prod.fst))
        (recordsScript e.syncMode e.direction mapping xs) =
      some (syncRecords e entityType mapping xs, nextType mappings ts) := by
  induction xs generalizing e with
  | nil => rfl
  | cons r xs ih =>
    have first := advances_record e ⟨mappings, entityType, mapping, r.1, xs.map Prod.fst, ts⟩ r.2
    obtain ⟨hm, d⟩ := options_syncRecord e entityType mapping r.1 r.2
    have hrs := ih (syncRecord e entityType mapping r.1 r.2)
    rw [hm, d] at hrs
    rw [recordsScript, flatMap_cons, advances_append, map_cons, nextRecord, first]
    exact hrs

lemma advances_types (ts : List (String × List (Entity Data × Outcomes Data))) :
    advances e (nextType mappings (ts.map Prod.fst))
        (typesScript e.syncMode e.direction mappings ts) =
      some (syncTypes mappings e ts, .returned) := by
  induction ts generalizing e with
  | nil => rfl
  | cons t ts ih =>
    obtain ⟨entityType, xs⟩ := t
    rw [typesScript, syncTypes, map_cons, nextType]
    cases mappings.filter (·.entityType = entityType) with
    | nil => exact ih e
    | cons mapping others =>
      have hp : advances (e.fetched xs.length)
          (nextRecord mappings entityType mapping (ts.map Prod.fst) (xs.map Prod.fst))
          (recordsScript e.syncMode e.direction mapping xs) = _ :=
        advances_records (e.fetched xs.length) mappings entityType mapping _ xs
      obtain ⟨hm, d⟩ := options_syncRecords (e.fetched xs.length) entityType mapping xs
      have hrs := ih (syncRecords (e.fetched xs.length) entityType mapping xs)
      rw [hm, d] at hrs
      simp only [cons_append, advances, advance, length_map, bind_some]
      rw [advances_append, hp]
      exact hrs

/-- Where its calls have the given outcomes, `performSync` returns with what the function gives. -/
theorem advances_performSync (ss : List Mapping) (e : Execution) (job : Job)
    (fs : Nat → List (Entity Data × Outcomes Data)) :
    advances e (nextType (getSyncMappings ss job.sourceSystem job.targetSystem) job.entityTypes)
        (typesScript e.syncMode e.direction
          (getSyncMappings ss job.sourceSystem job.targetSystem)
          (job.entityTypes.zipIdx.map fun en => (en.1, fs en.2))) =
      some (performSync ss e job fs, .returned) := by
  have ht := advances_types e (getSyncMappings ss job.sourceSystem job.targetSystem)
    (job.entityTypes.zipIdx.map fun en => (en.1, fs en.2))
  have hn : (job.entityTypes.zipIdx.map fun en => (en.1, fs en.2)).map Prod.fst =
      job.entityTypes := by
    rw [List.map_map]
    exact zipIdx_map_fst _ _
  rw [hn] at ht
  exact ht

/-- Where `executeSyncJob` awaits. `saving` says that a save is awaited: where the job is gone,
`updateSyncJob` returns without one. -/
inductive Stage (Data : Type) where
  | starting
  | syncing (progress : Progress Data)
  | finishing (saving : Bool)
  | failing (saving : Bool)
  | settled
  deriving DecidableEq

/-- A call of `executeSyncJob` that has begun an execution. -/
structure SyncRun (Data : Type) where
  execution : Execution
  job : Job
  stage : Stage Data
  deriving DecidableEq

/-- Executions are known by their position among the runs. `deletions` are the jobs whose deletion
awaits `cancelExecution`. The last two fields are histories: the cancelled executions, and for each
record written to a target system the execution and its status then. -/
structure Service (Data : Type) where
  syncJobs : OrderedMap String Job
  syncMappings : List Mapping
  runs : List (SyncRun Data)
  activeExecutions : List Nat
  deletions : List String
  cancelled : List Nat
  writes : List (Nat × ExecutionStatus)

structure JobUpdates where
  sourceSystem : Option String
  targetSystem : Option String
  entityTypes : Option (List String)
  syncMode : Option SyncMode
  direction : Option Direction
  status : Option JobStatus
  deriving DecidableEq

structure ExecuteOptions where
  syncMode : Option SyncMode
  direction : Option Direction
  deriving DecidableEq

/-- `{...job, ...updates}`. -/
def Job.updated (job : Job) (updates : JobUpdates) (writer : Option Nat) : Job where
  sourceSystem := updates.sourceSystem.getD job.sourceSystem
  targetSystem := updates.targetSystem.getD job.targetSystem
  entityTypes := updates.entityTypes.getD job.entityTypes
  syncMode := updates.syncMode.getD job.syncMode
  direction := updates.direction.getD job.direction
  status := updates.status.getD job.status
  writer := if updates.status.isSome then writer else job.writer

def JobUpdates.ofStatus (status : JobStatus) : JobUpdates where
  sourceSystem := none
  targetSystem := none
  entityTypes := none
  syncMode := none
  direction := none
  status := some status

namespace Service

/-- Up to its await. -/
def updateSyncJob (s : Service Data) (jobId : String) (updates : JobUpdates)
    (writer : Option Nat) : Service Data :=
  { s with
    syncJobs := match s.syncJobs.get? jobId with
      | none => s.syncJobs
      | some job => s.syncJobs.set jobId (job.updated updates writer) }

def executeSyncJob (s : Service Data) (jobId : String) (options : ExecuteOptions) :
    Service Data :=
  match s.syncJobs.get? jobId with
  | none => s
  | some job =>
    if job.status = .running then s
    else
      let index := s.runs.length
      let execution := Execution.started jobId (options.direction.getD job.direction)
        (options.syncMode.getD job.syncMode)
      { s.updateSyncJob jobId (.ofStatus .running) (some index) with
        runs := s.runs ++ [⟨execution, job, .starting⟩]
        activeExecutions := s.activeExecutions ++ [index] }

/-- An execution that is not active, or not running, is left alone. -/
def cancelExecution (s : Service Data) (index : Nat) : Service Data :=
  match s.runs[index]? with
  | none => s
  | some run =>
    if index ∈ s.activeExecutions ∧ run.execution.status = .running then
      { s with
        runs := s.runs.set index { run with execution.status := .cancelled }
        activeExecutions := s.activeExecutions.erase index
        cancelled := s.cancelled ++ [index] }
    else s

/-- The execution of a job that `deleteSyncJob` cancels. -/
def activeExecution (s : Service Data) (jobId : String) : Option Nat :=
  s.activeExecutions.find? fun index =>
    (s.runs[index]?).any fun run =>
      run.execution.jobId = jobId && run.execution.status = .running

/-- Without an execution to cancel the job is deleted at once. -/
def deleteSyncJob (s : Service Data) (jobId : String) : Service Data :=
  match s.syncJobs.get? jobId with
  | none => s
  | some _ =>
    match s.activeExecution jobId with
    | none => { s with syncJobs := s.syncJobs.erase jobId }
    | some index => { s.cancelExecution index with deletions := s.deletions ++ [jobId] }

/-- The job's status is written and saved, and the run awaits that. -/
def settle (s : Service Data) (index : Nat) (run : SyncRun Data) (status : ExecutionStatus)
    (jobStatus : JobStatus) (stage : Bool → Stage Data) : Service Data :=
  let saving := (s.syncJobs.get? run.execution.jobId).isSome
  { s.updateSyncJob run.execution.jobId (.ofStatus jobStatus) (some index) with
    runs := s.runs.set index
      { run with execution.status := status, stage := stage saving } }

def failed (s : Service Data) (index : Nat) (run : SyncRun Data) (message : String) :
    Service Data :=
  s.settle index { run with execution.errors :=
    run.execution.errors ++ [⟨"", "", "EXECUTION_FAILED", message⟩] } .failed .failed .failing

/-- The finally block. -/
def finished (s : Service Data) (index : Nat) (run : SyncRun Data) : Service Data :=
  { s with
    runs := s.runs.set index { run with stage := .settled }
    activeExecutions := s.activeExecutions.erase index }

/-- A save that a run awaits has succeeded, or was rejected. The first one is awaited outside of
the try block. -/
def saved (s : Service Data) (index : Nat) (run : SyncRun Data) (ok : Bool) :
    Option (Service Data) :=
  match run.stage with
  | .starting =>
    let mappings := getSyncMappings s.syncMappings run.job.sourceSystem run.job.targetSystem
    let stage := if ok then .syncing (nextType mappings run.job.entityTypes) else .settled
    some { s with runs := s.runs.set index { run with stage := stage } }
  | .finishing saving =>
    if ok then some (s.finished index run)
    else if saving then some (s.failed index run "save rejected") else none
  | .failing saving => if ok || saving then some (s.finished index run) else none
  | _ => none

def isWriting : Progress Data → Bool
  | .writing _ _ => true
  | _ => false

def progressed (s : Service Data) (index : Nat) (run : SyncRun Data) (outcome : Outcome Data) :
    Option (Service Data) :=
  match run.stage with
  | .syncing progress =>
    (advance run.execution progress outcome).map fun went =>
      { s with
        runs := s.runs.set index { run with execution := went.1, stage := .syncing went.2 }
        writes := s.writes ++
          if isWriting went.2 then [(index, run.execution.status)] else [] }
  | _ => none

/-- `performSync` has ended, and `executeSyncJob` goes on. -/
def performed (s : Service Data) (index : Nat) (run : SyncRun Data) : Option (Service Data) :=
  match run.stage with
  | .syncing .returned => some (s.settle index run .completed .completed .finishing)
  | .syncing (.thrown message) => some (s.failed index run message)
  | _ => none

end Service

inductive Label (Data : Type) where
  | createSyncJob (jobId : String) (job : Job)
  | updateSyncJob (jobId : String) (updates : JobUpdates)
  | deleteSyncJob (jobId : String)
  | deletionGoesOn (jobId : String)
  | createSyncMapping (mapping : Mapping)
  | executeSyncJob (jobId : String) (options : ExecuteOptions)
  | cancelExecution (index : Nat)
  | saved (index : Nat) (ok : Bool)
  | progressed (index : Nat) (outcome : Outcome Data)
  | performed (index : Nat)

/-- Saves that nothing follows are not awaited here. -/
def step (s : Service Data) : Label Data → Option (Service Data)
  | .createSyncJob jobId job =>
    some { s with syncJobs := s.syncJobs.set jobId { job with writer := none } }
  | .updateSyncJob jobId updates => some (s.updateSyncJob jobId updates none)
  | .deleteSyncJob jobId => some (s.deleteSyncJob jobId)
  | .deletionGoesOn jobId =>
    if jobId ∈ s.deletions then
      some { s with
        syncJobs := s.syncJobs.erase jobId
        deletions := s.deletions.erase jobId }
    else none
  | .createSyncMapping mapping => some { s with syncMappings := s.syncMappings ++ [mapping] }
  | .executeSyncJob jobId options => some (s.executeSyncJob jobId options)
  | .cancelExecution index => some (s.cancelExecution index)
  | .saved index ok => (s.runs[index]?).bind fun run => s.saved index run ok
  | .progressed index outcome => (s.runs[index]?).bind fun run => s.progressed index run outcome
  | .performed index => (s.runs[index]?).bind fun run => s.performed index run

/-- A service that has loaded its jobs and mappings. -/
structure Loaded (s : Service Data) : Prop where
  runs : s.runs = []
  activeExecutions : s.activeExecutions = []
  deletions : s.deletions = []
  cancelled : s.cancelled = []
  writes : s.writes = []

end SyncEngine
