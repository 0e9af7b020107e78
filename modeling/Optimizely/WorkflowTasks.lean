import Optimizely.TaskLists
import Optimizely.WorkflowStatus

/-!
# Which execution a piece of work concerns

Whatever the statuses are, a task works on one execution only, no other task works on it,
and it stays in the map. The kinds of steps that the engine can take are listed once.
-/

namespace WorkflowEngine

open TaskLists List Option OrderedMap Engine

/-- At most the execution `executionId` is changed, and it is neither added nor removed. -/
structure Concerns (executionId : String) (before after : Engine) : Prop where
  executions : ∀ other, other ≠ executionId →
    after.executions.get? other = before.executions.get? other
  present : (after.executions.get? executionId).isSome =
    (before.executions.get? executionId).isSome
  actions : ∀ other, other ≠ executionId → after.actionsOf other = before.actionsOf other
  tasks : after.tasks = before.tasks

namespace Concerns

variable {id : String} {first e t : Engine}

lemma refl (id : String) (s : Engine) : Concerns id s s :=
  ⟨fun _ _ => rfl, rfl, fun _ _ => rfl, rfl⟩

lemma trans (h : Concerns id first e) (h' : Concerns id e t) : Concerns id first t where
  executions x ne := (h'.executions x ne).trans (h.executions x ne)
  present := h'.present.trans h.present
  actions x ne := (h'.actions x ne).trans (h.actions x ne)
  tasks := h'.tasks.trans h.tasks

lemma present_iff (h : Concerns id first e) (x : String) :
    (e.executions.get? x).isSome = (first.executions.get? x).isSome := by
  by_cases hsm : x = id
  · subst hsm
    exact h.present
  · rw [h.executions x hsm]

end Concerns

/-- A piece of work on an execution leaves a task that works on it or on none. -/
structure WorksOn (executionId : String) (before : Engine) (result : Engine × Task) : Prop where
  concerns : Concerns executionId before result.1
  owner : ∀ other, result.2.owner = some other → other = executionId

/-- A piece of a run ends it or leaves it suspended, with the same steps. -/
structure RunsOn (executionId : String) (steps : List WorkflowStep) (before : Engine)
    (result : Engine × Task) : Prop where
  concerns : Concerns executionId before result.1
  task : result.2 = .ended ∨
    ∃ handlers awaiting, result.2 = .running executionId steps handlers awaiting

namespace RunsOn

variable {id : String} {ss : List WorkflowStep} {b m next : Engine}
  {r : Engine × Task}

lemma after (rs : RunsOn id ss m r) (first : Concerns id b m) : RunsOn id ss b r :=
  ⟨first.trans rs.concerns, rs.task⟩

lemma worksOn (hrn : RunsOn id ss b r) : WorksOn id b r := by
  refine ⟨hrn.concerns, ?_⟩
  intro x ho
  rcases hrn.task with he | ⟨ds, aw, hr⟩
  · rw [he] at ho
    cases ho
  · rw [hr] at ho
    cases ho
    rfl

variable (id ss) in
lemma ended (s : Engine) : RunsOn id ss s (s, .ended) := ⟨.refl _ _, .inl rfl⟩

variable (ss) in
lemma running (hc : Concerns id b next) (ds : List Handler) (aw : Await) :
    RunsOn id ss b (next, .running id ss ds aw) :=
  ⟨hc, .inr ⟨ds, aw, rfl⟩⟩

end RunsOn

namespace Engine

variable {host : Host} {id : String} {ss : List WorkflowStep} {now : Int}

lemma concerns_updateExecution (s : Engine) (id : String)
    (change : WorkflowExecution → WorkflowExecution) :
    Concerns id s (s.updateExecution id change) := by
  cases hf : s.executions.get? id with
  | none =>
    rw [updateExecution_of_missing hf]
    exact .refl _ _
  | some e =>
    rw [updateExecution_of_found hf]
    refine ⟨?_, ?_, fun _ _ => rfl, rfl⟩
    · intro x ne
      rw [get?_set, if_neg (Ne.symm ne)]
    · rw [get?_set, if_pos rfl, hf]
      rfl

lemma concerns_cancelledAt (s : Engine) (id : String) (now : Int) :
    Concerns id s (s.cancelledAt id now) :=
  concerns_updateExecution _ _ _

lemma runsOn_endExecution (s : Engine) (ds : List Handler) (aw : Await)
    (change : WorkflowExecution → WorkflowExecution) : RunsOn id ss s
      (s.endExecution id ss ds aw change) := by
  rw [endExecution]
  cases s.executions.get? id with
  | none => exact RunsOn.ended _ _ _
  | some e => exact RunsOn.running _ (concerns_updateExecution _ _ _) _ _

lemma runsOn_startAction (s : Engine) (ds : List Handler) (st : WorkflowStep) :
    RunsOn id ss s (s.startAction id ss ds st) := by
  refine ⟨⟨fun _ _ => rfl, rfl, ?_, rfl⟩, .inr ⟨_, _, rfl⟩⟩
  intro x ne
  simp [startAction, actionsOf, Ne.symm ne]

lemma piece_runsOn (s : Engine) : Piece id ss now (fun _ => True) (Concerns id s)
    (RunsOn id ss s) where
  tail _ := trivial
  update hp _ := hp.trans (concerns_updateExecution _ _ _)
  missing hp _ := (RunsOn.ended _ _ _).after hp
  lost hp _ := (RunsOn.ended _ _ _).after hp
  complete _ hp := (runsOn_endExecution _ _ _ _).after hp
  fail _ _ hp := (runsOn_endExecution _ _ _ _).after hp
  delay _ hp _ := RunsOn.running _ hp _ _
  act _ hp _ := (runsOn_startAction _ _ _).after hp

lemma runsOn_updateWorkflowAnalytics (s : Engine) (ds : List Handler) : RunsOn id ss s
      (s.updateWorkflowAnalytics id ss ds now) :=
  updateWorkflowAnalytics_rule (RunsOn.ended _ _ _)
    fun _ => ⟨⟨fun _ _ => rfl, rfl, fun _ _ => rfl, rfl⟩, .inr ⟨_, _, rfl⟩⟩

variable {s : Engine} {o : Except Thrown JsValue} {r : Engine × Task}

lemma runsOn_continueRun {ds : List Handler} {aw : Await}
    (hcn : s.continueRun host id ss ds now aw o = some r) : RunsOn id ss s r := by
  cases hf : aw.isFinal with
  | false =>
    exact (piece_runsOn s).continueRun trivial (.refl _ _) hf (fun _ hp => .running _ hp _ _) hcn
  | true =>
    cases o with
    | error t =>
      cases aw with
      | completePersist | failPersist | analyticsPersist =>
        cases hcn
        exact (piece_runsOn s).throwTo trivial (.refl _ _) t
      | _ => cases hf
    | ok v =>
      cases aw with
      | completePersist | failPersist =>
        cases hcn
        exact runsOn_updateWorkflowAnalytics s ds
      | analyticsPersist =>
        cases hcn
        exact RunsOn.ended _ _ _
      | _ => cases hf

lemma worksOn_runExecution (s : Engine) : WorksOn id s (s.runExecution id now) := by
  rw [runExecution]
  cases s.executions.get? id with
  | none => exact (RunsOn.ended id [] s).worksOn
  | some e =>
    dsimp only
    cases s.workflows.get? e.workflowId with
    | none => exact (runsOn_endExecution _ _ _ _).worksOn
    | some w => exact (RunsOn.running _ (concerns_updateExecution _ _ _) _ _).worksOn

lemma worksOn_resumeTask {ts : Task} (ho : ts.owner = some id)
    (hr : s.resumeTask host now ts o = some r) : WorksOn id s r := by
  cases ts with
  | starting id' =>
    cases ho
    cases o with
    | error t =>
      cases hr
      exact (RunsOn.ended id [] s).worksOn
    | ok v =>
      cases hr
      exact ⟨.refl _ _, by rintro _ ⟨⟩; rfl⟩
  | queued id' =>
    cases ho
    cases o with
    | error t => cases hr
    | ok v =>
      cases hr
      exact worksOn_runExecution s
  | running id' ss ds aw =>
    cases ho
    exact (runsOn_continueRun hr).worksOn
  | cancelling _ | shuttingDown _ | ended => cases ho

end Engine

inductive Effect (host : Host) (engine : Engine) : Label → Engine → Prop where
  | refused (label : Label) : Effect host engine label engine
  | stored (workflowId : String) (workflow : Workflow) :
      Effect host engine (.storeWorkflow workflowId workflow)
        { engine with workflows := engine.workflows.set workflowId workflow }
  | deleted (workflowId : String) :
      Effect host engine (.deleteWorkflow workflowId)
        { engine with workflows := engine.workflows.filter fun key _ => key ≠ workflowId }
  | started {executionId workflowId triggerId : String} {context : Context}
      {platform : Option String} {now : Int} {workflow : Workflow} :
      engine.workflows.get? workflowId = some workflow →
      engine.executions.get? executionId = none →
      Effect host engine (.executeWorkflow executionId workflowId triggerId context platform now)
        (Engine.addTask ({ engine with
          executions := engine.executions.set executionId
            (Engine.newExecution executionId workflowId triggerId workflow context platform now) },
          .starting executionId))
  | cancelled {label : Label} {executionId : String} {execution : WorkflowExecution} {now : Int}
      {task : Task} :
      engine.executions.get? executionId = some execution → execution.status.isActive →
      task.owner = none →
      Effect host engine label (Engine.addTask (engine.cancelledAt executionId now, task))
  /-- `shutdown` finds nothing to cancel. -/
  | idle (label : Label) : Effect host engine label (Engine.addTask (engine, .ended))
  /-- A task that works on no execution ends. -/
  | stopped {index : Nat} {outcome : Except Thrown JsValue} {now : Int} {task : Task} :
      engine.tasks[index]? = some task → task.owner = none →
      Effect host engine (.resume index outcome now) (Engine.setTask index (engine, .ended))
  /-- `shutdown` goes on. -/
  | cancelledNext {index : Nat} {outcome : Except Thrown JsValue} {now : Int} {task next : Task}
      {executionId : String} {execution : WorkflowExecution} :
      engine.tasks[index]? = some task → task.owner = none →
      engine.executions.get? executionId = some execution → execution.status.isActive →
      next.owner = none →
      Effect host engine (.resume index outcome now)
        (Engine.setTask index (engine.cancelledAt executionId now, next))
  | resumed {index : Nat} {outcome : Except Thrown JsValue} {now : Int} {task : Task}
      {executionId : String} {result : Engine × Task} :
      engine.tasks[index]? = some task → task.owner = some executionId →
      engine.resumeTask host now task outcome = some result →
      Effect host engine (.resume index outcome now) (Engine.setTask index result)

section

variable {host : Host} {en s after : Engine}

lemma effect_resume {i : Nat} {o : Except Thrown JsValue} {now : Int} {t : Task}
    {r : Engine × Task} (hp : s.tasks[i]? = some t) (hr : s.resumeTask host now t o = some r) :
    Effect host s (.resume i o now) (setTask i r) := by
  cases t with
  | starting _ | queued _ | running _ _ _ _ => exact .resumed hp rfl hr
  | cancelling id =>
    cases hr
    exact .stopped hp rfl
  | shuttingDown pos =>
    cases o with
    | error thrown =>
      cases hr
      exact .stopped hp rfl
    | ok v =>
      cases hr
      rw [continueShutdown]
      cases next : s.nextToCancel pos with
      | none => exact .stopped hp rfl
      | some f =>
        obtain ⟨e, hst, hac⟩ := active_of_nextToCancel next
        exact .cancelledNext hp rfl hst hac rfl
  | ended => cases hr

lemma effect_of_step {l : Label} (hs : s.step host l = some after) : Effect host s l after := by
  cases l with
  | storeWorkflow wid w =>
    cases hs
    exact .stored wid w
  | deleteWorkflow wid =>
    cases hs
    exact .deleted wid
  | executeWorkflow id wid triggerId context platform now =>
    simp only [step] at hs
    split at hs
    · cases hs
      exact .refused _
    · rename_i w f
      split at hs
      · cases hs
        exact .refused _
      · split at hs
        · cases hs
        · rename_i hfr
          cases hs
          exact .started f (by simpa using hfr)
  | cancelExecution id now =>
    simp only [step] at hs
    split at hs
    · cases hs
      exact .refused _
    · rename_i e f
      split at hs
      · rename_i hac
        cases hs
        exact .cancelled f hac rfl
      · cases hs
        exact .refused _
  | shutdown now =>
    cases hs
    rw [continueShutdown]
    cases next : s.nextToCancel 0 with
    | none => exact .idle _
    | some f =>
      obtain ⟨e, hst, hac⟩ := active_of_nextToCancel next
      exact .cancelled hst hac rfl
  | resume i o now =>
    obtain ⟨task, hp, hmo⟩ := bind_eq_some_iff.mp hs
    obtain ⟨r, hr, rfl⟩ := map_eq_some_iff.mp hmo
    exact effect_resume hp hr

end

/-- The execution that a task works on is in the map, and no other task works on it. -/
structure Owned (engine : Engine) : Prop where
  present : ∀ task ∈ engine.tasks, ∀ executionId, task.owner = some executionId →
    (engine.executions.get? executionId).isSome
  unique : ∀ (i j : Nat) (task task' : Task) (executionId : String),
    engine.tasks[i]? = some task → engine.tasks[j]? = some task' →
    task.owner = some executionId → task'.owner = some executionId → i = j

namespace Owned

variable {en s after : Engine}

lemma loaded (ws : OrderedMap String Workflow)
    (es : OrderedMap String WorkflowExecution) : Owned (loaded ws es) := by
  constructor
  · rintro _ ⟨⟩
  · rintro _ _ _ _ _ ⟨⟩

variable (how : Owned s)
include how

lemma of_present (ht : after.tasks = s.tasks) (hp : ∀ id, (s.executions.get? id).isSome →
      (after.executions.get? id).isSome) : Owned after := by
  constructor
  · intro task mem id ho
    rw [ht] at mem
    exact hp id (how.present task mem id ho)
  · intro i j task t' id hf hf'
    rw [ht] at hf hf'
    exact how.unique i j task t' id hf hf'

variable {task : Task} {id : String}

lemma add (huo : task.owner = none) : Owned (addTask (s, task)) := by
  constructor
  · intro x mem id ho
    rcases mem_append.mp mem with old | new
    · exact how.present x old id ho
    · rw [mem_singleton.mp new, huo] at ho
      cases ho
  · refine unique_of_cases how.unique fun i x hf => (getElem?_append_cases hf).imp_right ?_
    exact fun old => ⟨old, by simp [huo]⟩

lemma start (e : WorkflowExecution) (hfr : s.executions.get? id = none) : Owned (addTask ({ s with
      executions := s.executions.set id e }, .starting id)) := by
  have hab : ∀ task ∈ s.tasks, task.owner ≠ some id := by
    intro task mem ho
    have hst := how.present task mem id ho
    rw [hfr] at hst
    cases hst
  constructor
  · intro task mem x ho
    show ((s.executions.set id e).get? x).isSome
    rw [get?_set]
    split
    · rfl
    · rename_i ne
      rcases mem_append.mp mem with old | new
      · exact how.present task old x ho
      · rw [mem_singleton.mp new] at ho
        exact absurd (some.inj ho) ne
  · refine unique_of_cases how.unique fun i x hf => (getElem?_append_cases hf).imp_right ?_
    rintro old
    refine ⟨old, ?_⟩
    rintro _ ho ⟨⟩
    exact hab x (mem_of_getElem? old) ho

lemma set {ix : Nat} {next : Task} (hf : s.tasks[ix]? = some task)
    (ho : ∀ id, next.owner = some id → task.owner = some id) : Owned (setTask ix (s, next)) := by
  constructor
  · exact forall_set how.present ix fun id ho' =>
      how.present task (mem_of_getElem? hf) id (ho id ho')
  · refine unique_of_cases how.unique fun i x hx => (getElem?_set_cases hx).imp_right ?_
    exact fun ⟨ne, old⟩ => ⟨old, fun id ho' new =>
      ne (how.unique _ _ _ _ id old hf ho' (ho id new))⟩

lemma of_concerns (hc : Concerns id s after) : Owned after :=
  how.of_present hc.tasks fun x hst => by rw [hc.present_iff, hst]

lemma step {e : Host} {l : Label} (he : Effect e s l after) : Owned after := by
  cases he with
  | refused => exact how
  | stored _ _ | deleted _ => exact how.of_present rfl fun _ h => h
  | started hf hfr => exact how.start _ hfr
  | cancelled hf hac huo =>
    exact (how.of_concerns (concerns_cancelledAt _ _ _)).add huo
  | idle => exact how.add rfl
  | stopped hf huo => exact how.set hf (by rintro _ ⟨⟩)
  | cancelledNext hf huo stored hac hu' =>
    refine (how.of_concerns (concerns_cancelledAt _ _ _)).set
      ((concerns_cancelledAt _ _ _).tasks ▸ hf) ?_
    intro id ho
    rw [hu'] at ho
    cases ho
  | resumed hf ho resumed =>
    have hwo := worksOn_resumeTask ho resumed
    refine (how.of_concerns hwo.concerns).set (hwo.concerns.tasks ▸ hf) ?_
    intro id ho'
    rw [hwo.owner id ho', ho]

end Owned

end WorkflowEngine
