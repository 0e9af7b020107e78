import Optimizely.WorkflowEngine
import Optimizely.WorkflowTriggers

/-!
# Executions that an event starts

`handlePlatformEvent` selects the workflows with an active trigger for the type and the platform of
the event, but names the first for its type. Nothing happens between the awaited calls, and their
writes succeed.
-/

namespace EventTriggers

open List WorkflowEngine

structure Trigger extends WorkflowTriggers.WorkflowTrigger where
  platform : Option String

structure Workflow extends WorkflowEngine.Workflow where
  triggers : List Trigger

structure EventBusMessage where
  type : String
  source : String
  data : JsValue
  platform : Option String

variable (workflows : OrderedMap String Workflow) (draw : String → String × Int)
  (event : EventBusMessage)

def isFor (trigger : Trigger) : Bool :=
  trigger.type = .event ∧ trigger.config.eventType = some event.type

def fires (trigger : Trigger) : Bool :=
  trigger.isActive && isFor event trigger &&
    (truthyText trigger.platform = none || trigger.platform = event.platform)

def triggeredWorkflows : List (String × Workflow) :=
  workflows.entries.filter fun w => w.2.isActive && w.2.triggers.any (fires event)

/-- An id and a time are drawn for each execution. -/
def executeWorkflow (workflowId triggerId : String) (context : Context)
    (platform : Option String) : Except String WorkflowExecution :=
  match workflows.get? workflowId with
  | none => .error s!"Workflow {workflowId} not found"
  | some workflow =>
    if workflow.isActive then
      .ok (Engine.newExecution (draw workflowId).1 workflowId triggerId workflow.toWorkflow context
        platform (draw workflowId).2)
    else .error s!"Workflow {workflowId} is not active"

def eventContext : Context
  | "trigger" => .string "event"
  | "eventData" => event.data
  | "eventSource" => .string event.source
  | "platform" => event.platform.elim .undefined .string
  | _ => .undefined

/-- One turn of the loop. -/
def startWorkflow (started : List WorkflowExecution) (w : String × Workflow) :
    Except String (List WorkflowExecution) :=
  match w.2.triggers.find? (isFor event) with
  | some trigger => (executeWorkflow workflows draw w.1 trigger.id (eventContext event)
      event.platform).map (started ++ [·])
  | none => .ok started

def handlePlatformEvent : Except String (List WorkflowExecution) :=
  (triggeredWorkflows workflows event).foldlM (startWorkflow workflows draw event) []

/-- One execution for each of the workflows, with the id of a trigger that fires. -/
structure Starts (started : List WorkflowExecution) : Prop where
  once : started.map (·.workflowId) = (triggeredWorkflows workflows event).map (·.1)
  fires : ∀ execution ∈ started, ∃ workflow, workflows.get? execution.workflowId = some workflow ∧
    ∃ trigger ∈ workflow.triggers, fires event trigger ∧ trigger.id = execution.triggerId

variable {workflows draw event}

lemma of_triggered {w : String × Workflow} (mem : w ∈ triggeredWorkflows workflows event) :
    workflows.get? w.1 = some w.2 ∧ w.2.isActive ∧
      ∃ t, w.2.triggers.find? (isFor event) = some t := by
  obtain ⟨s, hs⟩ := mem_filter.mp mem
  obtain ⟨ha, some⟩ := Bool.and_eq_true_iff.mp hs
  obtain ⟨t, ht, hf⟩ := any_eq_true.mp some
  refine ⟨OrderedMap.get?_of_mem s, ha, Option.isSome_iff_exists.mp ?_⟩
  simp only [fires, Bool.and_eq_true] at hf
  exact find?_isSome.mpr ⟨t, ht, hf.1.2⟩

variable (draw event) in
def startOf (w : String × Workflow) : Option WorkflowExecution :=
  (w.2.triggers.find? (isFor event)).map fun t => Engine.newExecution (draw w.1).1 w.1 t.id
    w.2.toWorkflow (eventContext event) event.platform (draw w.1).2

lemma started_eq {ws : List (String × Workflow)} (s : List WorkflowExecution)
    (mem : ∀ w ∈ ws, w ∈ triggeredWorkflows workflows event) :
    ws.foldlM (startWorkflow workflows draw event) s =
      .ok (s ++ ws.filterMap (startOf draw event)) := by
  induction ws generalizing s with
  | nil => simp [pure, Except.pure]
  | cons w ws ih =>
    obtain ⟨first, r⟩ := forall_mem_cons.mp mem
    obtain ⟨st, ha, t, hf⟩ := of_triggered first
    simp [startWorkflow, hf, executeWorkflow, st, ha, startOf, Except.map, bind,
      Except.bind, ih _ r]

/-- The executions are as they should be just when in each workflow the first trigger for the type
has the id of one that is active and for the platform. -/
theorem starts_iff : (∃ started, handlePlatformEvent workflows draw event = .ok started ∧
      Starts workflows event started) ↔
    ∀ w ∈ triggeredWorkflows workflows event, ∀ t, w.2.triggers.find? (isFor event) = some t →
      ∃ t' ∈ w.2.triggers, fires event t' ∧ t'.id = t.id := by
  rw [handlePlatformEvent, started_eq [] fun _ => id]
  constructor
  · rintro ⟨_, ⟨⟩, h⟩ w mem t hf
    obtain ⟨w', s, h⟩ := h.fires _ (mem_filterMap.mpr ⟨w, mem, by rw [startOf, hf]; rfl⟩)
    cases (of_triggered mem).1.symm.trans s
    exact h
  · intro h
    refine ⟨_, rfl, ?_, ?_⟩
    · rw [nil_append, map_filterMap, ← filterMap_eq_map]
      apply filterMap_congr
      intro w mem
      obtain ⟨-, -, t, hf⟩ := of_triggered mem
      rw [startOf, hf]
      rfl
    · intro x hx
      obtain ⟨w, mem, hx⟩ := mem_filterMap.mp hx
      obtain ⟨t, hf, rfl⟩ := Option.map_eq_some_iff.mp hx
      exact ⟨w.2, (of_triggered mem).1, h w mem t hf⟩

def orderWorkflow : Workflow where
  steps := []
  startStepId := ""
  isActive := true
  analytics := ⟨0, 0, 0, none⟩
  triggers := [⟨⟨"old", .event, { eventType := some "order" }, false⟩, none⟩,
    ⟨⟨"new", .event, { eventType := some "order" }, true⟩, none⟩]

def order : EventBusMessage := ⟨"order", "shop", .undefined, none⟩

def stored : OrderedMap String Workflow := OrderedMap.empty.set "w" orderWorkflow

theorem inactive_trigger_named :
    (handlePlatformEvent stored (fun _ => ("e", 0)) order).map (·.map (·.triggerId)) =
      .ok ["old"] ∧
    ¬ ∃ started, handlePlatformEvent stored (fun _ => ("e", 0)) order = .ok started ∧
      Starts stored order started := by
  refine ⟨rfl, ?_⟩
  rintro ⟨_, ⟨⟩, h⟩
  obtain ⟨w, ⟨⟩, h⟩ := h.fires _ mem_cons_self
  revert h
  decide

end EventTriggers
