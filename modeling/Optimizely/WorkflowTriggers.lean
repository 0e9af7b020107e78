import Mathlib.Data.Nat.Digits.Lemmas
import Optimizely.JsValue
import Optimizely.OrderedMap
import Optimizely.TransitionRuns

/-!
# Registration of workflow triggers

`createWorkflow`, `updateWorkflow` and `deleteWorkflow` with the timers and listeners that they
install. Calls do not overlap, and their writes succeed. A timer is found again by its key; a
listener is never removed from the event bus.
-/

namespace WorkflowTriggers

open TransitionRuns List OrderedMap

inductive TriggerType where
  | event
  | schedule
  | webhook
  | manual
  | condition
  deriving DecidableEq

structure TriggerConfig where
  eventType : Option String := none
  schedule : Option String := none
  webhookUrl : Option String := none
  deriving DecidableEq

structure WorkflowTrigger where
  id : String
  type : TriggerType
  config : TriggerConfig
  isActive : Bool
  deriving DecidableEq

structure Workflow where
  triggers : List WorkflowTrigger
  deriving DecidableEq

/-- An interval timer and the execution it starts. -/
structure Job where
  workflowId : String
  triggerId : String
  interval : Nat
  deriving DecidableEq

/-- A listener on the event bus and the execution it starts. -/
structure Listener where
  eventType : String
  workflowId : String
  triggerId : String
  deriving DecidableEq

structure WebhookRegistration where
  workflowId : String
  triggerId : String
  url : Option String
  deriving DecidableEq

structure Engine where
  workflows : OrderedMap String Workflow
  scheduledJobs : OrderedMap String Job
  listeners : List Listener
  webhooks : List WebhookRegistration

def initial : Engine :=
  { workflows := .empty, scheduledJobs := .empty, listeners := [], webhooks := [] }

/-- The number that the first digits of a text spell, 1 if there are none. -/
def firstNumber (text : List Char) : Nat :=
  let digits := (text.dropWhile fun c => !c.isDigit).takeWhile Char.isDigit
  if digits = [] then 1 else Nat.ofDigits 10 (digits.reverse.map fun c => c.toNat - '0'.toNat)

/-- The interval of a schedule in milliseconds. -/
def parseSchedule (schedule : String) : Nat :=
  if "minute".toList <:+: schedule.toList then firstNumber schedule.toList * 60 * 1000
  else if "hour".toList <:+: schedule.toList then firstNumber schedule.toList * 60 * 60 * 1000
  else 0

example : parseSchedule "every 15 minutes" = 900000 := by decide +kernel

example : parseSchedule "hourly" = 3600000 := by decide +kernel

def jobKey (workflowId triggerId : String) : String := workflowId ++ ":" ++ triggerId

def cancelWorkflowTriggers (engine : Engine) (id : String) (workflow : Workflow) : Engine :=
  { engine with
    scheduledJobs := workflow.triggers.foldl
      (fun jobs trigger => jobs.erase (jobKey id trigger.id)) engine.scheduledJobs }

def setupScheduleTrigger (engine : Engine) (id : String) (trigger : WorkflowTrigger) : Engine :=
  match truthyText trigger.config.schedule with
  | none => engine
  | some schedule =>
    if 0 < parseSchedule schedule then
      { engine with
        scheduledJobs := engine.scheduledJobs.set (jobKey id trigger.id)
          ⟨id, trigger.id, parseSchedule schedule⟩ }
    else engine

def setupEventTrigger (engine : Engine) (id : String) (trigger : WorkflowTrigger) : Engine :=
  match truthyText trigger.config.eventType with
  | none => engine
  | some eventType =>
    { engine with listeners := engine.listeners ++ [⟨eventType, id, trigger.id⟩] }

def setupWebhookTrigger (engine : Engine) (id : String) (trigger : WorkflowTrigger) : Engine :=
  { engine with webhooks := engine.webhooks ++ [⟨id, trigger.id, trigger.config.webhookUrl⟩] }

def setupTrigger (id : String) (engine : Engine) (trigger : WorkflowTrigger) : Engine :=
  if !trigger.isActive then engine
  else
    match trigger.type with
    | .schedule => setupScheduleTrigger engine id trigger
    | .event => setupEventTrigger engine id trigger
    | .webhook => setupWebhookTrigger engine id trigger
    | _ => engine

def setupWorkflowTriggers (engine : Engine) (id : String) (workflow : Workflow) : Engine :=
  workflow.triggers.foldl (setupTrigger id) (cancelWorkflowTriggers engine id workflow)

/-- What `Math.random().toString(36).substr(2, 9)` gives. -/
structure RandomDigits where
  digits : List Char
  base36 : ∀ c ∈ digits, c.isDigit ∨ c.isLower

def workflowId (now : Nat) (random : RandomDigits) : String :=
  "workflow_" ++ toString now ++ "_" ++ String.ofList random.digits

/-- Storing a workflow and setting up its triggers, as a create and an update do. -/
def storeWorkflow (engine : Engine) (id : String) (workflow : Workflow) : Engine :=
  setupWorkflowTriggers { engine with workflows := engine.workflows.set id workflow } id workflow

def createWorkflow (engine : Engine) (now : Nat) (random : RandomDigits)
    (workflow : Workflow) : Engine :=
  storeWorkflow engine (workflowId now random) workflow

/-- The triggers are replaced if the updates give any. -/
def updateWorkflow (engine : Engine) (id : String) (updates : Option (List WorkflowTrigger)) :
    Except String Engine :=
  match engine.workflows.get? id with
  | none => .error ("Workflow " ++ id ++ " not found")
  | some workflow => .ok (storeWorkflow engine id ⟨updates.getD workflow.triggers⟩)

def deleteWorkflow (engine : Engine) (id : String) : Except String Engine :=
  match engine.workflows.get? id with
  | none => .error ("Workflow " ++ id ++ " not found")
  | some workflow =>
    let cancelled := cancelWorkflowTriggers engine id workflow
    .ok { cancelled with workflows := cancelled.workflows.erase id }

inductive Label where
  | createWorkflow (now : Nat) (random : RandomDigits) (workflow : Workflow)
  | updateWorkflow (id : String) (updates : Option (List WorkflowTrigger))
  | deleteWorkflow (id : String)

/-- A call that throws does not complete. -/
def step (engine : Engine) : Label → Option Engine
  | .createWorkflow now random workflow => some (createWorkflow engine now random workflow)
  | .updateWorkflow id updates => (updateWorkflow engine id updates).toOption
  | .deleteWorkflow id => (deleteWorkflow engine id).toOption

/-- An active schedule trigger with a positive interval. -/
def isScheduled (trigger : WorkflowTrigger) : Bool :=
  trigger.isActive && trigger.type = .schedule &&
    ((truthyText trigger.config.schedule).map parseSchedule).any (0 < ·)

/-- The listener of an active event trigger with an event type. -/
def listenerOf (id : String) (trigger : WorkflowTrigger) : Option Listener :=
  if trigger.isActive && trigger.type = .event then
    (truthyText trigger.config.eventType).map fun eventType => ⟨eventType, id, trigger.id⟩
  else none

def listenersOf (id : String) (workflow : Workflow) : List Listener :=
  workflow.triggers.filterMap (listenerOf id)

def expectedListeners (workflows : OrderedMap String Workflow) : Multiset Listener :=
  (workflows.entries.map fun entry => (listenersOf entry.1 entry.2 : Multiset Listener)).sum

/-- There is a job for exactly the scheduled triggers of stored workflows, and exactly one
listener for each of their listening triggers. -/
structure Registered (engine : Engine) : Prop where
  jobs : ∀ key, key ∈ engine.scheduledJobs.keys ↔ ∃ id workflow trigger,
    engine.workflows.get? id = some workflow ∧ trigger ∈ workflow.triggers ∧
      isScheduled trigger ∧ key = jobKey id trigger.id
  listeners : (engine.listeners : Multiset Listener) = expectedListeners engine.workflows

/-- The triggers that replace those of a stored workflow leave nothing behind: it has no listener,
and the ids of its scheduled triggers are among the new ones. -/
def LeavesNothing (id : String) (stored : Workflow) (triggers : List WorkflowTrigger) : Prop :=
  listenersOf id stored = [] ∧
    ∀ trigger ∈ stored.triggers, isScheduled trigger → trigger.id ∈ triggers.map (·.id)

deriving instance Decidable for LeavesNothing

def Careful (engine : Engine) (label : Label) : Prop :=
  match label with
  | .createWorkflow now random workflow =>
    ∀ stored ∈ engine.workflows.get? (workflowId now random),
      LeavesNothing (workflowId now random) stored workflow.triggers
  | .updateWorkflow id updates =>
    ∀ stored ∈ engine.workflows.get? id,
      LeavesNothing id stored (updates.getD stored.triggers)
  | .deleteWorkflow id => ∀ stored ∈ engine.workflows.get? id, listenersOf id stored = []

instance (engine : Engine) (label : Label) : Decidable (Careful engine label) := by
  unfold Careful
  split <;> infer_instance

/-- Workflow ids hold no colon, so that a job key splits at its first one. -/
def NoColon (id : String) : Prop := ':' ∉ id.toList

variable {id : String} {s engine' : Engine} {w : Workflow} {l : Label}

lemma jobKey_injective {id' tid triggerId' : String} (hp : NoColon id)
    (hp' : NoColon id') (hs : jobKey id tid = jobKey id' triggerId') :
    id = id' ∧ tid = triggerId' := by
  have hu : ∀ (a b : List Char), ':' ∉ a →
      (a ++ ':' :: b).takeWhile (fun c => decide (c ≠ ':')) = a := by
    intro a b hab
    rw [takeWhile_append_of_pos]
    · simp
    · intro c mem
      have ne : c ≠ ':' := fun h => hab (h ▸ mem)
      simpa using ne
  have hc : id.toList ++ ':' :: tid.toList = id'.toList ++ ':' :: triggerId'.toList := by
    have := congrArg String.toList hs
    simpa [jobKey, String.toList_append] using this
  have ids : id.toList = id'.toList := by
    rw [← hu _ tid.toList hp, hc, hu _ _ hp']
  have ht : tid.toList = triggerId'.toList := by
    rw [ids] at hc
    exact cons_injective (append_cancel_left hc)
  exact ⟨String.toList_injective ids, String.toList_injective ht⟩

lemma noColon_workflowId (now : Nat) (r : RandomDigits) : NoColon (workflowId now r) := by
  intro mem
  simp only [workflowId, String.toList_append, String.toList_ofList, mem_append,
    Nat.toString_eq_ofList_toDigits] at mem
  rcases mem with ((st | hdg) | s) | hdr
  · exact absurd st (by decide)
  · exact absurd (Nat.isDigit_of_mem_toDigits (by decide) (by decide) hdg) (by decide)
  · exact absurd s (by decide)
  · rcases r.base36 ':' hdr with hdg | hl
    · exact absurd hdg (by decide)
    · exact absurd hl (by decide)

lemma mem_cancelled (j : OrderedMap String Job) (id : String)
    (ts : List WorkflowTrigger) (k : String) :
    k ∈ (ts.foldl (fun j tg => j.erase (jobKey id tg.id)) j).keys ↔
      k ∈ j.keys ∧ ∀ tg ∈ ts, k ≠ jobKey id tg.id := by
  induction ts generalizing j with
  | nil => simp
  | cons tg ts ih =>
    rw [foldl_cons, ih, mem_keys_erase, forall_mem_cons, and_assoc]

lemma setupTrigger_spec (id : String) (s : Engine) (tg : WorkflowTrigger) :
    (setupTrigger id s tg).workflows = s.workflows ∧
      (∀ k, k ∈ (setupTrigger id s tg).scheduledJobs.keys ↔
        k ∈ s.scheduledJobs.keys ∨ isScheduled tg ∧ k = jobKey id tg.id) ∧
      (setupTrigger id s tg).listeners = s.listeners ++ (listenerOf id tg).toList := by
  obtain ⟨triggerId, t, c, i⟩ := tg
  cases i with
  | false => simp [setupTrigger, isScheduled, listenerOf]
  | true =>
    cases t with
    | schedule =>
      simp only [setupTrigger, setupScheduleTrigger, isScheduled, listenerOf]
      cases truthyText c.schedule with
      | none => simp
      | some schedule =>
        by_cases hp : 0 < parseSchedule schedule <;> simp [hp, mem_keys_set, or_comm]
    | event =>
      simp only [setupTrigger, setupEventTrigger, isScheduled, listenerOf]
      cases truthyText c.eventType <;> simp
    | webhook => simp [setupTrigger, setupWebhookTrigger, isScheduled, listenerOf]
    | manual | condition => simp [setupTrigger, isScheduled, listenerOf]

section

variable (id : String) (ts : List WorkflowTrigger) (s : Engine)

lemma setupTriggers_workflows : (ts.foldl (setupTrigger id) s).workflows = s.workflows := by
  induction ts generalizing s with
  | nil => rfl
  | cons tg ts ih => rw [foldl_cons, ih, (setupTrigger_spec id s tg).1]

lemma mem_jobs_setupTriggers (k : String) :
    k ∈ (ts.foldl (setupTrigger id) s).scheduledJobs.keys ↔ k ∈ s.scheduledJobs.keys ∨
        ∃ tg ∈ ts, isScheduled tg ∧ k = jobKey id tg.id := by
  induction ts generalizing s with
  | nil => simp
  | cons tg ts ih =>
    rw [foldl_cons, ih, (setupTrigger_spec id s tg).2.1, exists_mem_cons_iff, or_assoc]

lemma listeners_setupTriggers : (ts.foldl (setupTrigger id) s).listeners =
      s.listeners ++ ts.filterMap (listenerOf id) := by
  induction ts generalizing s with
  | nil => simp
  | cons tg ts ih =>
    rw [foldl_cons, ih, (setupTrigger_spec id s tg).2.2, append_assoc]
    cases h : listenerOf id tg <;> simp [h]

end

section

variable (s : Engine) (id : String) (w : Workflow)

lemma storeWorkflow_workflows : (storeWorkflow s id w).workflows = s.workflows.set id w :=
  setupTriggers_workflows id w.triggers _

lemma mem_jobs_storeWorkflow (k : String) :
    k ∈ (storeWorkflow s id w).scheduledJobs.keys ↔ (k ∈ s.scheduledJobs.keys ∧
        ∀ tg ∈ w.triggers, k ≠ jobKey id tg.id) ∨
        ∃ tg ∈ w.triggers, isScheduled tg ∧ k = jobKey id tg.id := by
  rw [storeWorkflow, setupWorkflowTriggers, mem_jobs_setupTriggers, cancelWorkflowTriggers,
    mem_cancelled]

lemma listeners_storeWorkflow :
    (storeWorkflow s id w).listeners = s.listeners ++ listenersOf id w :=
  listeners_setupTriggers id w.triggers _

end

/-- A registered engine whose workflow ids hold no colon. -/
structure Sound (engine : Engine) : Prop where
  registered : Registered engine
  plain : ∀ id ∈ engine.workflows.keys, NoColon id

lemma listeners_store (hrg : Registered s) (id : String) (w : Workflow) :
    ((storeWorkflow s id w).listeners : Multiset Listener) =
        expectedListeners (storeWorkflow s id w).workflows ↔
      ∀ st ∈ s.workflows.get? id, listenersOf id st = [] := by
  have hs := sum_map_set (fun e : String × Workflow => (listenersOf e.1 e.2 : Multiset Listener))
    s.workflows id w
  rw [listeners_storeWorkflow, storeWorkflow_workflows, ← Multiset.coe_add, hrg.listeners]
  simp only [expectedListeners] at hs ⊢
  rw [← hs, add_eq_left]
  cases s.workflows.get? id with
  | none | some _ => simp

section

variable (sn : Sound s)
include sn

lemma jobs_of_leavesNothing (hp : NoColon id)
    (hcv : ∀ st ∈ s.workflows.get? id, ∀ tg ∈ st.triggers,
      isScheduled tg → tg.id ∈ w.triggers.map (·.id)) (k : String) :
    k ∈ (storeWorkflow s id w).scheduledJobs.keys ↔ ∃ id' w' tg,
      (s.workflows.set id w).get? id' = some w' ∧
        tg ∈ w'.triggers ∧ isScheduled tg ∧ k = jobKey id' tg.id := by
  rw [mem_jobs_storeWorkflow]
  constructor
  · rintro (⟨old, hu⟩ | ⟨tg, mem, hsc, rfl⟩)
    · obtain ⟨id', st, tg, hf, mem, hsc, rfl⟩ := (sn.registered.jobs k).mp old
      have x : id ≠ id' := by
        rintro rfl
        obtain ⟨t', mem', hs⟩ := mem_map.mp (hcv st hf tg mem hsc)
        exact hu t' mem' (by rw [hs])
      refine ⟨id', st, tg, ?_, mem, hsc, rfl⟩
      rw [get?_set, if_neg x, hf]
    · refine ⟨id, w, tg, ?_, mem, hsc, rfl⟩
      rw [get?_set, if_pos rfl]
  · rintro ⟨id', w', tg, hf, mem, hsc, rfl⟩
    rw [get?_set] at hf
    by_cases hs : id = id'
    · subst hs
      rw [if_pos rfl] at hf
      cases hf
      exact .inr ⟨tg, mem, hsc, rfl⟩
    · rw [if_neg hs] at hf
      refine .inl ⟨(sn.registered.jobs _).mpr ⟨id', w', tg, hf, mem, hsc, rfl⟩, ?_⟩
      intro t' _ ks
      have hp' := sn.plain id' (mem_keys_of_get? hf)
      exact hs (jobKey_injective hp' hp ks).1.symm

/-- A scheduled trigger whose id is given up leaves its job behind. -/
lemma covered_of_jobs (hrg : Registered (storeWorkflow s id w)) :
    ∀ st ∈ s.workflows.get? id, ∀ tg ∈ st.triggers,
      isScheduled tg → tg.id ∈ w.triggers.map (·.id) := by
  intro st hf tg mem hsc
  by_contra given_up
  have hp := sn.plain id (mem_keys_of_get? hf)
  have job : jobKey id tg.id ∈ (storeWorkflow s id w).scheduledJobs.keys := by
    rw [mem_jobs_storeWorkflow]
    refine .inl ⟨(sn.registered.jobs _).mpr ⟨id, st, tg, hf, mem, hsc, rfl⟩, ?_⟩
    intro t' mem' ks
    obtain ⟨-, hs⟩ := jobKey_injective hp hp ks
    exact given_up (hs ▸ mem_map_of_mem mem')
  obtain ⟨id', workflow', t', hf', mem', -, ks⟩ := (hrg.jobs _).mp job
  rw [storeWorkflow_workflows, get?_set] at hf'
  by_cases hs : id = id'
  · subst hs
    rw [if_pos rfl] at hf'
    cases hf'
    obtain ⟨-, ids⟩ := jobKey_injective hp hp ks
    exact given_up (ids ▸ mem_map_of_mem mem')
  · rw [if_neg hs] at hf'
    have hp' := sn.plain id' (mem_keys_of_get? hf')
    exact hs (jobKey_injective hp hp' ks).1

lemma registered_store_iff (hp : NoColon id) (w : Workflow) : Registered (storeWorkflow s id w) ↔
      ∀ st ∈ s.workflows.get? id, LeavesNothing id st w.triggers := by
  have hls := listeners_store sn.registered id w
  constructor
  · intro hrg st hf
    exact ⟨hls.mp hrg.listeners st hf, covered_of_jobs sn hrg st hf⟩
  · intro hl
    refine ⟨?_, hls.mpr fun st hf => (hl st hf).1⟩
    rw [storeWorkflow_workflows]
    exact jobs_of_leavesNothing sn hp fun st hf => (hl st hf).2

lemma registered_delete_iff (hf : s.workflows.get? id = some w) :
    Registered { cancelWorkflowTriggers s id w with
        workflows := s.workflows.erase id } ↔ listenersOf id w = [] := by
  have hs := sum_map_erase (fun e : String × Workflow => (listenersOf e.1 e.2 : Multiset Listener))
    s.workflows id
  have hl : (s.listeners : Multiset Listener) =
      expectedListeners (s.workflows.erase id) ↔ listenersOf id w = [] := by
    rw [sn.registered.listeners, expectedListeners, ← hs, hf]
    simp [expectedListeners]
  constructor
  · intro hrg
    exact hl.mp hrg.listeners
  · intro hsi
    refine ⟨?_, hl.mpr hsi⟩
    intro k
    have hp := sn.plain id (mem_keys_of_get? hf)
    rw [cancelWorkflowTriggers, mem_cancelled, sn.registered.jobs]
    constructor
    · rintro ⟨⟨id', st, tg, hf', mem, hsc, rfl⟩, hu⟩
      have x : id ≠ id' := by
        rintro rfl
        rw [hf] at hf'
        cases hf'
        exact hu tg mem rfl
      refine ⟨id', st, tg, ?_, mem, hsc, rfl⟩
      rw [get?_erase, if_neg x, hf']
    · rintro ⟨id', st, tg, hf', mem, hsc, rfl⟩
      rw [get?_erase] at hf'
      by_cases hsm : id = id'
      · rw [if_pos hsm] at hf'
        cases hf'
      · rw [if_neg hsm] at hf'
        refine ⟨⟨id', st, tg, hf', mem, hsc, rfl⟩, ?_⟩
        intro trigger' _ ks
        have hp' := sn.plain id' (mem_keys_of_get? hf')
        exact hsm (jobKey_injective hp' hp ks).1.symm

/-- A call that completes stores a workflow under an id without a colon, or deletes one. -/
lemma step_cases (h : step s l = some engine') :
    (∃ id w, NoColon id ∧ engine' = storeWorkflow s id w ∧ (Careful s l ↔
        ∀ st ∈ s.workflows.get? id, LeavesNothing id st w.triggers)) ∨
    ∃ id w, s.workflows.get? id = some w ∧ engine' = { cancelWorkflowTriggers s id w with
        workflows := s.workflows.erase id } ∧
      (Careful s l ↔ listenersOf id w = []) := by
  cases l with
  | createWorkflow now r w =>
    cases h
    exact .inl ⟨_, w, noColon_workflowId now r, rfl, Iff.rfl⟩
  | updateWorkflow id us =>
    simp only [step, updateWorkflow] at h
    cases hf : s.workflows.get? id with
    | none => simp [hf, Except.toOption] at h
    | some w =>
      simp only [hf, Except.toOption, Option.some.injEq] at h
      refine .inl ⟨id, ⟨us.getD w.triggers⟩, sn.plain id (mem_keys_of_get? hf), h.symm, ?_⟩
      simp [Careful, hf]
  | deleteWorkflow id =>
    simp only [step, deleteWorkflow] at h
    cases hf : s.workflows.get? id with
    | none => simp [hf, Except.toOption] at h
    | some w =>
      simp only [hf, Except.toOption, Option.some.injEq] at h
      refine .inr ⟨id, w, hf, h.symm, ?_⟩
      simp [Careful, hf]

lemma step_registered_iff (h : step s l = some engine') : Registered engine' ↔ Careful s l := by
  rcases step_cases sn h with ⟨id, w, plain, rfl, hca⟩ | ⟨id, w, hf, rfl, hca⟩
  · rw [hca]
    exact registered_store_iff sn plain w
  · rw [hca]
    exact registered_delete_iff sn hf

lemma step_sound (hca : Careful s l) (h : step s l = some engine') : Sound engine' := by
  refine ⟨(step_registered_iff sn h).mpr hca, ?_⟩
  intro id mem
  rcases step_cases sn h with ⟨id', w, hp, rfl, -⟩ | ⟨id', w, -, rfl, -⟩
  · rw [storeWorkflow_workflows, mem_keys_set] at mem
    rcases mem with rfl | old
    · exact hp
    · exact sn.plain id old
  · exact sn.plain id ((mem_keys_erase _ _ _).mp mem).1

end

lemma sound_initial : Sound initial := by
  refine ⟨⟨?_, rfl⟩, ?_⟩
  · intro k
    constructor
    · rintro ⟨⟩
    · rintro ⟨_, _, _, ⟨⟩, _⟩
  · rintro _ ⟨⟩

/-- Careful calls keep the registration, and no other call does. -/
theorem registered_iff_careful {labels : List Label} {engine : Engine}
    (run : Run step Careful initial labels engine) :
    Registered engine ∧ ∀ label engine', step engine label = some engine' →
      (Registered engine' ↔ Careful engine label) := by
  have hs := run.invariant Sound (fun _ _ _ hs hc h => step_sound hs hc h) sound_initial
  exact ⟨hs.registered, fun label engine' h => step_registered_iff hs h⟩

def drawnDigits : RandomDigits := ⟨['x', '7'], by simp⟩

/-- A report workflow is moved from hours to minutes and starts to listen for leads. -/
def rescheduledReport : List Label :=
  [.createWorkflow 5 drawnDigits ⟨[⟨"timer", .schedule, { schedule := "2 hours" }, true⟩]⟩,
   .updateWorkflow "workflow_5_x7" (some [⟨"timer", .schedule, { schedule := "30 minutes" }, true⟩,
     ⟨"lead", .event, { eventType := "lead:created" }, true⟩])]

theorem rescheduledReport_registered :
    ∃ engine, Run step Careful initial rescheduledReport engine ∧ Registered engine ∧
      engine.scheduledJobs.entries =
        [("workflow_5_x7:timer", ⟨"workflow_5_x7", "timer", 1800000⟩)] ∧
      engine.listeners = [⟨"lead:created", "workflow_5_x7", "lead"⟩] := by
  exact exists_run_of_seen _ (by decide +kernel) fun _ run s => ⟨(registered_iff_careful run).1, s⟩

/-- A workflow that listens for leads is created and deleted. -/
def deletedListener : List Label :=
  [.createWorkflow 5 drawnDigits ⟨[⟨"lead", .event, { eventType := "lead:created" }, true⟩]⟩,
   .deleteWorkflow "workflow_5_x7"]

theorem deletedListener_stays_registered :
    ∃ engine, Run step Always initial deletedListener engine ∧ ¬ Registered engine := by
  refine exists_run_of_seen (fun engine => engine.workflows.entries = [] ∧
    engine.listeners = [⟨"lead:created", "workflow_5_x7", "lead"⟩]) (by decide +kernel)
    fun engine _ s hr => ?_
  have he := hr.listeners
  rw [s.2, expectedListeners, s.1] at he
  simp at he

end WorkflowTriggers
