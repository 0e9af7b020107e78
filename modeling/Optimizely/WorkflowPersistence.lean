import Optimizely.Json
import Optimizely.WorkflowEngine

/-!
# Persisted executions

`persistExecution` writes an execution as JSON and `loadExecutions` takes what it parses for one.
The start time of a loaded execution is a text, without `getTime`: whatever ends it throws after the
status and the end time were set, and before anything is persisted. Here an execution is the object
that the code works on. Completing goes on with the analytics of the workflow, which change no
execution.
-/

namespace WorkflowPersistence

open List Option OrderedMap JsonRecord

open WorkflowEngine (ExecutionStatus Thrown)

def statusText : ExecutionStatus → String
  | .pending => "pending"
  | .running => "running"
  | .completed => "completed"
  | .failed => "failed"
  | .cancelled => "cancelled"

/-- `execution.status === 'running' || execution.status === 'pending'`. -/
def isActive (fields : Fields) : Bool :=
  match fields.get? "status" with
  | some (.string status) => status = "running" || status = "pending"
  | _ => false

/-- `execution.startTime.getTime()`. -/
def startTime (fields : Fields) : Except Thrown Int :=
  match fields.get? "startTime" with
  | some (.date ms) => .ok ms
  | none | some .undefined =>
    .error (.error "Cannot read properties of undefined (reading 'getTime')")
  | some .null => .error (.error "Cannot read properties of null (reading 'getTime')")
  | some _ => .error (.error "execution.startTime.getTime is not a function")

/-- The assignments of status, end time and duration, up to the one that throws. -/
def finish (status : ExecutionStatus) (now : Int) (fields : Fields) : Fields × Except Thrown Unit :=
  let marked := (fields.set "status" (.string (statusText status))).set "endTime" (.date now)
  match startTime marked with
  | .error thrown => (marked, .error thrown)
  | .ok start => (marked.set "duration" (.number (.finite (now - start : Int))), .ok ())

structure Engine where
  executions : OrderedMap String Fields
  /-- What Redis holds, by the id of the execution. -/
  records : OrderedMap String Record
  /-- The timers that are set. -/
  scheduledJobs : List String
  /-- The engine and its event bus have their listeners. -/
  listening : Bool

namespace Engine

def persistExecution (engine : Engine) (executionId : String) : Engine :=
  match engine.executions.get? executionId with
  | none => engine
  | some fields =>
    { engine with records := engine.records.set executionId (stringify fields) }

def loadExecutions (records : OrderedMap String Record) : Engine where
  executions := records.filterMapValues fun record => some (parse record)
  records := records
  scheduledJobs := []
  listening := true

/-- Completing, failing and cancelling up to the write that each of them awaits; `last` is what
is assigned after the duration. -/
def endExecution (engine : Engine) (executionId : String) (status : ExecutionStatus) (now : Int)
    (last : Fields → Fields) (fields : Fields) : Engine × Except Thrown Unit :=
  match finish status now fields with
  | (marked, .error thrown) =>
    ({ engine with executions := engine.executions.set executionId marked }, .error thrown)
  | (finished, .ok _) =>
    let ended := { engine with executions := engine.executions.set executionId (last finished) }
    (ended.persistExecution executionId, .ok ())

def completeExecution (engine : Engine) (executionId : String) (now : Int) :
    Engine × Except Thrown Unit :=
  match engine.executions.get? executionId with
  | none => (engine, .ok ())
  | some fields => engine.endExecution executionId .completed now id fields

def failExecution (engine : Engine) (executionId error : String) (now : Int) :
    Engine × Except Thrown Unit :=
  match engine.executions.get? executionId with
  | none => (engine, .ok ())
  | some fields =>
    engine.endExecution executionId .failed now (·.set "error" (.string error)) fields

def cancelExecution (engine : Engine) (executionId : String) (now : Int) :
    Engine × Except Thrown Unit :=
  match engine.executions.get? executionId with
  | none => (engine, .error (.error ("Execution " ++ executionId ++ " not found")))
  | some fields =>
    if isActive fields then engine.endExecution executionId .cancelled now id fields
    else (engine, .ok ())

/-- The loop of `shutdown` over the executions; the first one that throws ends it. -/
def cancelAll (now : Int) : List String → Engine → Engine × Except Thrown Unit
  | [], engine => (engine, .ok ())
  | executionId :: rest, engine =>
    if (engine.executions.get? executionId).any isActive then
      match engine.cancelExecution executionId now with
      | (engine, .error thrown) => (engine, .error thrown)
      | (engine, .ok _) => cancelAll now rest engine
    else cancelAll now rest engine

def shutdown (engine : Engine) (now : Int) : Engine × Except Thrown Unit :=
  let stopped := { engine with scheduledJobs := [] }
  match cancelAll now stopped.executions.keys stopped with
  | (engine, .error thrown) => (engine, .error thrown)
  | (engine, .ok _) => ({ engine with listening := false }, .ok ())

end Engine

/-- The execution is persisted and a new engine loads it. -/
def reload (engine : Engine) (executionId : String) : Engine :=
  .loadExecutions (engine.persistExecution executionId).records

inductive Call where
  | cancel
  | complete
  | fail (error : String)
  | shutdown

def perform (now : Int) (executionId : String) :
    Call → Engine → Engine × Except Thrown Unit
  | .cancel, engine => engine.cancelExecution executionId now
  | .complete, engine => engine.completeExecution executionId now
  | .fail error, engine => engine.failExecution executionId error now
  | .shutdown, engine => engine.shutdown now

def fieldOf (engine : Engine) (executionId key : String) : Option JsData :=
  (engine.executions.get? executionId).bind (·.get? key)

/-- A call on the loaded execution returns and does what it does on the original one. -/
structure SameEffect (executionId : String) (original loaded : Engine × Except Thrown Unit) :
    Prop where
  returns : loaded.2 = .ok ()
  status : fieldOf loaded.1 executionId "status" = fieldOf original.1 executionId "status"
  endTime : fieldOf loaded.1 executionId "endTime" = fieldOf original.1 executionId "endTime"
  duration : fieldOf loaded.1 executionId "duration" = fieldOf original.1 executionId "duration"
  record : loaded.1.records.get? executionId = original.1.records.get? executionId

variable {fields : Fields}

lemma status_of_isActive (hac : isActive fields = true) :
    fields.get? "status" = some (.string "running") ∨
      fields.get? "status" = some (.string "pending") := by
  unfold isActive at hac
  split at hac
  · rename_i st hf
    rw [hf]
    simpa using hac
  · cases hac

lemma isActive_parse_stringify
    (hac : isActive fields = true) : isActive (parse (stringify fields)) = true := by
  rcases status_of_isActive hac with st | st <;>
    simp [isActive, get?_parse, get?_stringify, st, Json.stringify, Json.parse]

/-- `getTime` cannot be called on the start time. -/
def Dateless (fields : Fields) : Prop := ∃ thrown, startTime fields = .error thrown

lemma dateless_parse (r : Record) : Dateless (parse r) := by
  unfold Dateless startTime
  rw [get?_parse]
  cases r.get? "startTime" with
  | none => exact ⟨_, rfl⟩
  | some j => cases j <;> exact ⟨_, rfl⟩

lemma startTime_marked (fields : Fields) (st : ExecutionStatus) (now : Int) :
    startTime ((fields.set "status" (.string (statusText st))).set "endTime" (.date now)) =
      startTime fields := by
  have hs : ((fields.set "status" (.string (statusText st))).set "endTime"
      (.date now)).get? "startTime" = fields.get? "startTime" := by
    rw [get?_set, get?_set, if_neg (by decide), if_neg (by decide)]
  simp only [startTime, hs]

section

variable {s : Engine} {id : String} (now : Int) {fields : Fields}

/-- Nothing that ends an execution gets past its start time. -/
lemma endExecution_of_dateless (hdt : Dateless fields)
    (st : ExecutionStatus) (l : Fields → Fields) : ∃ t,
    (s.endExecution id st now l fields).2 = .error t ∧
      (s.endExecution id st now l fields).1.records = s.records := by
  obtain ⟨t, hfa⟩ := hdt
  exact ⟨t, by simp [Engine.endExecution, finish, startTime_marked, hfa]⟩

lemma cancelExecution_of_dateless (hf : s.executions.get? id = some fields) (hdt : Dateless fields)
    (hac : isActive fields = true) : ∃ t, (s.cancelExecution id now).2 = .error t ∧
      (s.cancelExecution id now).1.records = s.records := by
  simp only [Engine.cancelExecution, hf, hac, if_true]
  exact endExecution_of_dateless now hdt _ _

lemma cancelAll_of_dateless (hdt : ∀ id' fs, s.executions.get? id' = some fs → Dateless fs)
    {ids : List String} (mem : id ∈ ids) (hac : (s.executions.get? id).any isActive = true) : ∃ th,
    (Engine.cancelAll now ids s).2 = .error th ∧
      (Engine.cancelAll now ids s).1.records = s.records := by
  induction ids with
  | nil => cases mem
  | cons id' ids ih =>
    rw [Engine.cancelAll]
    by_cases first : (s.executions.get? id').any isActive = true
    · obtain ⟨fs, hf, ha⟩ := (any_eq_true _ _).mp first
      obtain ⟨th, hfa, hr⟩ := cancelExecution_of_dateless now hf (hdt id' fs hf) ha
      rw [if_pos first]
      refine ⟨th, ?_⟩
      generalize s.cancelExecution id' now = r at hfa hr ⊢
      obtain ⟨t, o⟩ := r
      dsimp only at hfa hr
      rw [hfa]
      exact ⟨rfl, hr⟩
    · rw [if_neg first]
      refine ih ?_
      rcases mem_cons.mp mem with rfl | rs
      · exact absurd hac first
      · exact rs

lemma get?_reload (hf : s.executions.get? id = some fields) :
    (reload s id).executions.get? id = some (parse (stringify fields)) ∧
      (reload s id).records.get? id = some (stringify fields) := by
  simp [reload, Engine.loadExecutions, Engine.persistExecution, hf, get?_filterMapValues, get?_set]

lemma dateless_reload {id' : String}
    (hf : (reload s id).executions.get? id' = some fields) : Dateless fields := by
  simp only [reload, Engine.loadExecutions, get?_filterMapValues] at hf
  obtain ⟨r, -, hp⟩ := bind_eq_some_iff.mp hf
  cases hp
  exact dateless_parse r

/-- Every call on a loaded execution that has to end it throws and persists nothing. -/
lemma perform_reload (hf : s.executions.get? id = some fields)
    (hac : isActive fields = true) (c : Call) : ∃ th,
    (perform now id c (reload s id)).2 = .error th ∧
      (perform now id c (reload s id)).1.records = (reload s id).records := by
  have hl := (get?_reload hf).1
  have hdt := dateless_parse (stringify fields)
  have ha' := isActive_parse_stringify hac
  cases c with
  | cancel => exact cancelExecution_of_dateless now hl hdt ha'
  | complete =>
    simp only [perform, Engine.completeExecution, hl]
    exact endExecution_of_dateless now hdt _ _
  | fail error =>
    simp only [perform, Engine.failExecution, hl]
    exact endExecution_of_dateless now hdt _ _
  | shutdown =>
    have hs : ∀ id' fields, ({ reload s id with
        scheduledJobs := [] } : Engine).executions.get? id' = some fields → Dateless fields :=
      fun _ _ hf => dateless_reload hf
    have ha'' : ((reload s id).executions.get? id).any isActive = true := by
      rw [hl]
      exact ha'
    obtain ⟨th, hfa, hr⟩ := cancelAll_of_dateless now hs (mem_keys_of_get? hl) ha''
    refine ⟨th, ?_⟩
    simp only [perform, Engine.shutdown]
    generalize Engine.cancelAll now _ _ = r at hfa hr ⊢
    obtain ⟨t, o⟩ := r
    dsimp only at hfa hr
    rw [hfa]
    exact ⟨rfl, hr⟩

end

/-- The object is an execution of the engine, whose start time is a `Date`. -/
structure Represents (fields : Fields) (execution : WorkflowEngine.WorkflowExecution) : Prop where
  status : fields.get? "status" = some (.string (statusText execution.status))
  startTime : fields.get? "startTime" = some (.date execution.startTime)
  endTime : fields.get? "endTime" = execution.endTime.map .date
  duration : fields.get? "duration" =
    execution.duration.map fun duration => .number (.finite duration)

/-- On the object, ending an execution does what it does in the engine. -/
lemma finish_of_represents {e : WorkflowEngine.WorkflowExecution}
    (hr : Represents fields e) (st : ExecutionStatus) (now : Int) :
    ∃ hf, finish st now fields = (hf, .ok ()) ∧ Represents hf (e.finish st now) := by
  have hs : startTime fields = .ok e.startTime := by
    simp only [startTime, hr.startTime]
  simp only [finish, startTime_marked, hs]
  refine ⟨_, rfl, ?_⟩
  constructor <;> simp [get?_set, hr.startTime, WorkflowEngine.WorkflowExecution.finish]

def Dated (engine : Engine) : Prop :=
  ∀ id fields, engine.executions.get? id = some fields → ∃ execution, Represents fields execution

section

variable {s : Engine} {id : String} (now : Int)

def Recorded (engine : Engine) (executionId : String) (status : ExecutionStatus) : Prop :=
  fieldOf engine executionId "status" = some (.string (statusText status)) ∧
    (engine.records.get? executionId).bind (·.get? "status") =
      some (.string (statusText status))

/-- Only the execution that is ended and its record change. -/
structure Ends (executionId : String) (status : ExecutionStatus) (before after : Engine) :
    Prop where
  dated : Dated after
  recorded : Recorded after executionId status
  executions : ∀ other, other ≠ executionId →
    after.executions.get? other = before.executions.get? other
  records : ∀ other, other ≠ executionId → after.records.get? other = before.records.get? other

variable {fs fl : Fields}

lemma endExecution_of_dated (hdt : Dated s)
    (hf : s.executions.get? id = some fs) (st : ExecutionStatus) {l : Fields → Fields}
    (hke : ∀ fs e, Represents fs e → Represents (l fs) e) :
    ∃ t, s.endExecution id st now l fs = (t, .ok ()) ∧ Ends id st s t := by
  obtain ⟨e, hr⟩ := hdt id fs hf
  obtain ⟨hfn, hfs, hr'⟩ := finish_of_represents hr st now
  have he := hke _ _ hr'
  have hs' : (l hfn).get? "status" = some (.string (statusText st)) := he.status
  simp only [Engine.endExecution, hfs]
  refine ⟨_, rfl, ?_, ?_, ?_, ?_⟩
  · intro id' hst hp
    simp only [Engine.persistExecution, get?_set, if_true] at hp
    split at hp
    · cases hp
      exact ⟨_, he⟩
    · exact hdt id' hst hp
  · constructor
    · simpa [fieldOf, Engine.persistExecution, get?_set] using hs'
    · simp [Engine.persistExecution, get?_set, get?_stringify, hs', Json.stringify]
  · intro x ne
    simp [Engine.persistExecution, get?_set, Ne.symm ne]
  · intro x ne
    simp [Engine.persistExecution, get?_set, Ne.symm ne]

lemma cancelExecution_of_dated (hdt : Dated s)
    (hf : s.executions.get? id = some fl) (hac : isActive fl = true) :
    ∃ t, s.cancelExecution id now = (t, .ok ()) ∧ Ends id .cancelled s t := by
  simp only [Engine.cancelExecution, hf, hac, if_true]
  exact endExecution_of_dated now hdt hf .cancelled fun _ _ hr => hr

lemma cancelAll_of_dated (ids : List String) (hdt : Dated s) :
    ∃ t, Engine.cancelAll now ids s = (t, .ok ()) ∧ ∀ id, Recorded s id .cancelled ∨
          (id ∈ ids ∧ (s.executions.get? id).any isActive = true) → Recorded t id .cancelled := by
  induction ids generalizing s with
  | nil =>
    refine ⟨s, rfl, ?_⟩
    rintro id (hrc | ⟨⟨⟩, -⟩)
    exact hrc
  | cons first ids ih =>
    rw [Engine.cancelAll]
    by_cases hac : (s.executions.get? first).any isActive = true
    · obtain ⟨fl, hf, ha⟩ := (any_eq_true _ _).mp hac
      obtain ⟨middle, hc, he⟩ := cancelExecution_of_dated now hdt hf ha
      obtain ⟨t, r, hrc⟩ := ih he.dated
      rw [if_pos hac, hc]
      refine ⟨t, r, fun id b => hrc id ?_⟩
      by_cases hs : id = first
      · exact .inl (hs ▸ he.recorded)
      · have hk := he.executions id hs
        rcases b with b | ⟨mem, had⟩
        · left
          rwa [Recorded, fieldOf, hk, he.records id hs]
        · right
          rw [hk]
          exact ⟨(mem_cons.mp mem).resolve_left hs, had⟩
    · obtain ⟨t, r, hrc⟩ := ih hdt
      rw [if_neg hac]
      refine ⟨t, r, fun id b => hrc id (b.imp_right ?_)⟩
      rintro ⟨mem, had⟩
      refine ⟨(mem_cons.mp mem).resolve_left ?_, had⟩
      rintro rfl
      exact hac had

/-- Every call on an execution that was never written ends it, and writes it. -/
lemma perform_of_dated (dated : Dated s)
    (hf : s.executions.get? id = some fl) (hac : isActive fl = true)
    (c : Call) : ∃ t status, perform now id c s = (t, .ok ()) ∧
        status.isActive = false ∧ Recorded t id status := by
  cases c with
  | cancel =>
    obtain ⟨t, cancels, ends⟩ := cancelExecution_of_dated now dated hf hac
    exact ⟨t, .cancelled, cancels, rfl, ends.recorded⟩
  | complete =>
    obtain ⟨t, completes, ends⟩ :=
      endExecution_of_dated now dated hf .completed fun _ _ hrep => hrep
    refine ⟨t, .completed, ?_, rfl, ends.recorded⟩
    rw [perform, Engine.completeExecution, hf]
    exact completes
  | fail error =>
    obtain ⟨t, hfa, ends⟩ := endExecution_of_dated now dated hf .failed fun fl e hrep =>
        (⟨by simp [get?_set, hrep.status], by simp [get?_set, hrep.startTime],
          by simp [get?_set, hrep.endTime], by simp [get?_set, hrep.duration]⟩ :
          Represents (fl.set "error" (.string error)) e)
    refine ⟨t, .failed, ?_, rfl, ends.recorded⟩
    rw [perform, Engine.failExecution, hf]
    exact hfa
  | shutdown =>
    have stopped : Dated { s with scheduledJobs := [] } := dated
    obtain ⟨t, cancels, hrc⟩ := cancelAll_of_dated now s.executions.keys stopped
    have active' : (s.executions.get? id).any isActive = true := by
      rw [hf]
      exact hac
    refine ⟨{ t with listening := false }, .cancelled, ?_, rfl, ?_⟩
    · simp only [perform, Engine.shutdown, cancels]
    · exact hrc id (.inr ⟨mem_keys_of_get? hf, active'⟩)

end

/-- Whatever a pending or running execution holds: after the round trip every call that has to end
it throws and leaves the record as it was. If the original was never written itself, the call on it
returns and writes. -/
theorem no_call_survives_reload (now : Int) {engine : Engine}
    {executionId : String} {fields : Fields}
    (found : engine.executions.get? executionId = some fields) (active : isActive fields = true)
    (call : Call) : let original := perform now executionId call engine
    let loaded := perform now executionId call (reload engine executionId)
    ¬ SameEffect executionId original loaded ∧ (∃ thrown, loaded.2 = .error thrown) ∧
      loaded.1.records.get? executionId = some (stringify fields) ∧
      (Dated engine → original.2 = .ok () ∧
        original.1.records.get? executionId ≠ loaded.1.records.get? executionId) := by
  obtain ⟨thrown, ts, rs⟩ := perform_reload now found active call
  have hk : (perform now executionId call (reload engine executionId)).1.records.get?
      executionId = some (stringify fields) := by
    rw [rs, (get?_reload found).2]
  refine ⟨?_, ⟨thrown, ts⟩, hk, ?_⟩
  · intro hs
    have hrt := hs.returns
    rw [ts] at hrt
    cases hrt
  · intro hdt
    obtain ⟨after, ss, hp, he, -, hr⟩ := perform_of_dated now hdt found active call
    rw [hp, hk]
    refine ⟨rfl, fun hs => ?_⟩
    dsimp only at hs
    rw [hs, bind_some, get?_stringify] at hr
    cases ss with
    | pending | running => cases he
    | completed | failed | cancelled =>
      rcases status_of_isActive active with ss | ss <;> simp [ss, Json.stringify, statusText] at hr

/-- An execution as `executeWorkflow` creates it at time zero. -/
def created : Fields :=
  [("workflowId", JsData.string "billing"), ("triggerId", .string "manual"),
    ("status", .string "pending"), ("currentStepId", .string "charge"), ("context", .object []),
    ("startTime", .date 0), ("logs", .array []), ("retryCount", .number (.finite 0))].foldl
    (fun fields field => fields.set field.1 field.2) .empty

def accepting : Engine := ⟨OrderedMap.empty.set "e1" created, .empty, [], true⟩

theorem reloaded_completion_throws :
    accepting.executions.get? "e1" = some created ∧ isActive created = true ∧
    ¬ SameEffect "e1" (perform 5 "e1" .complete accepting)
      (perform 5 "e1" .complete (reload accepting "e1")) :=
  ⟨rfl, rfl, (no_call_survives_reload 5 rfl rfl .complete).1⟩

/-- The original is cancelled with a duration of five milliseconds and written. Cancelling the
loaded one throws: it has no duration, and the record still says pending. -/
theorem reloaded_cancel_throws : (perform 5 "e1" .cancel accepting).2 = .ok () ∧
    fieldOf (perform 5 "e1" .cancel accepting).1 "e1" "duration" = some (.number (.finite 5)) ∧
    (perform 5 "e1" .cancel (reload accepting "e1")).2 =
      .error (.error "execution.startTime.getTime is not a function") ∧
    fieldOf (perform 5 "e1" .cancel (reload accepting "e1")).1 "e1" "status" =
      some (.string "cancelled") ∧
    fieldOf (perform 5 "e1" .cancel (reload accepting "e1")).1 "e1" "duration" = none ∧
    (((perform 5 "e1" .cancel (reload accepting "e1")).1.records.get? "e1").bind
      (·.get? "status")) = some (.string "pending") ∧
    ¬ SameEffect "e1" (perform 5 "e1" .cancel accepting)
      (perform 5 "e1" .cancel (reload accepting "e1")) := by
  refine ⟨rfl, rfl, rfl, rfl, rfl, rfl, fun hs => ?_⟩
  cases hs.returns

end WorkflowPersistence
