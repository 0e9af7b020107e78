import Optimizely.WorkflowCancellation
import Optimizely.WorkflowTasks

/-!
# Failure branches and repeated actions

The rest of a workflow runs inside the `try` block of every step before it, so whatever rejects
there is taken by the innermost of these steps for its own failure. Without cycles the actions of an
execution are started along the edges of the graph; what breaks this is a rejected write that
reaches a step with an `onFailure`.
-/

namespace WorkflowFailure

open Relation TaskLists TransitionRuns WorkflowEngine List Option Engine WorkflowExecution
open WorkflowCancellation (plainHost settle reject)

/-- From a step to the step named by its `onSuccess`, or by its `onFailure`. -/
def Edge (steps : List WorkflowStep) (source target : String) : Prop :=
  ∃ step, steps.find? (·.id = source) = some step ∧
    (truthyText step.onSuccess = some target ∨ step.failureTarget = some target)

def Acyclic (steps : List WorkflowStep) : Prop := ∀ stepId, ¬ TransGen (Edge steps) stepId stepId

/-- The step that `executeStep` finds under its own id. -/
def Found (steps : List WorkflowStep) (step : WorkflowStep) : Prop :=
  steps.find? (·.id = step.id) = some step

/-- The steps whose `catch` block has run, as it logs them. -/
def failures (execution : WorkflowExecution) : List (Option String) :=
  (execution.logs.filter (·.level = .error)).map (·.stepId)

def failuresOf (engine : Engine) (executionId : String) : List (Option String) :=
  ((engine.executions.get? executionId).map failures).getD []

/-- The `catch` block of a step with an `onFailure` has run between two states. -/
structure TakesOnFailure (before after : Engine) (executionId : String)
    (steps : List WorkflowStep) (step : WorkflowStep) : Prop where
  found : Found steps step
  onFailure : (truthyText step.onFailure).isSome
  failed : (failuresOf before executionId).count (some step.id) <
    (failuresOf after executionId).count (some step.id)

/-- What a piece of a run may do: take the `onFailure` branch of a step only because the
action of that step threw, and start no action a second time. -/
structure Orderly (before after : Engine) (executionId : String) (steps : List WorkflowStep)
    (awaiting : Await) (outcome : Except Thrown JsValue) : Prop where
  branches : ∀ step, TakesOnFailure before after executionId steps step →
    awaiting = .action step ∧ ∃ thrown, outcome = .error thrown
  actions : (after.actionsOf executionId).Nodup

def isAction : Await → Bool
  | .action _ => true
  | _ => false

/-- The innermost open `try` block is that of a step with an `onFailure`. -/
def branches : List Handler → Bool
  | .step step :: _ => (truthyText step.onFailure).isSome
  | _ => false

/-- The steps fit into the call stack, and a write that rejects does not reach a step with
an `onFailure`. -/
def ContainedRun (host : Host) (steps : List WorkflowStep) (handlers : List Handler)
    (awaiting : Await) (outcome : Except Thrown JsValue) : Prop :=
  steps.length < host.callStackLimit ∧
    match outcome with
    | .ok _ => True
    | .error _ => isAction awaiting ∨ !branches handlers

instance (host : Host) (steps : List WorkflowStep) (handlers : List Handler) (awaiting : Await)
    (outcome : Except Thrown JsValue) :
    Decidable (ContainedRun host steps handlers awaiting outcome) := by
  induction outcome using Except.casesOn <;> dsimp only [ContainedRun] <;> infer_instance

/-- The condition on the steps of one execution. -/
def Contained (host : Host) (executionId : String) (engine : Engine) : Label → Prop
  | .resume index outcome _ =>
    match engine.tasks[index]? with
    | some (.running id steps handlers awaiting) =>
      id = executionId → ContainedRun host steps handlers awaiting outcome
    | _ => True
  | _ => True

instance (host : Host) (executionId : String) (engine : Engine) (label : Label) :
    Decidable (Contained host executionId engine label) := by
  induction label using Label.casesOn <;> dsimp only [Contained]
  case resume index _ _ =>
    induction engine.tasks[index]? using Option.casesOn with
    | none => infer_instance
    | some task => induction task using WorkflowEngine.Task.casesOn <;> infer_instance
  all_goals infer_instance

section

variable {ss : List WorkflowStep}

lemma truthyText_idem (text : Option String) : truthyText (truthyText text) = truthyText text := by
  cases text with
  | none => rfl
  | some text => by_cases h : text = "" <;> simp [truthyText, h]

variable {step : WorkflowStep}

lemma found_of_find {stepId : String}
    (h : ss.find? (·.id = stepId) = some step) : step.id = stepId ∧ Found ss step := by
  have hs : step.id = stepId := by simpa using find?_some h
  exact ⟨hs, by rw [Found, hs, h]⟩

variable {target : String}

lemma edge_onSuccess (hf : Found ss step)
    (h : truthyText step.onSuccess = some target) : Edge ss step.id target :=
  ⟨step, hf, .inl h⟩

lemma edge_failureTarget (hf : Found ss step)
    (h : step.failureTarget = some target) : Edge ss step.id target :=
  ⟨step, hf, .inr h⟩

@[simp] lemma failures_addInfo (e : WorkflowExecution) (now : Int)
    (s m : String) (d : Option LogData) :
    failures (e.addExecutionLog now .info s m d) = failures e := by
  simp [failures, addExecutionLog]

@[simp] lemma failures_addError (e : WorkflowExecution) (now : Int)
    (sid m : String) (d : Option LogData) :
    failures (e.addExecutionLog now .error sid m d) = failures e ++ [some sid] := by
  simp [failures, addExecutionLog]

variable (host : Host) (now : Int)

variable (ss) in
lemma failures_enterStep (d : Nat) (e : WorkflowExecution) :
    failures (enterStep host ss now d e).1 = failures e := by
  fun_induction enterStep host ss now d e with
  | case6 d e stepId _ step _ lg _ skipped ih =>
    rw [ih]
    exact (failures_addInfo _ _ _ _ _).trans (failures_addInfo _ _ _ _ _)
  | case5 => exact (failures_addInfo _ _ _ _ _).trans (failures_addInfo _ _ _ _ _)
  | case4 => exact failures_addInfo _ _ _ _ _
  | _ => rfl

lemma edge_skipped {e : WorkflowExecution} {s : WorkflowStep} {sid next : String}
    (hfn : ss.find? (·.id = sid) = some s)
    (ho : truthyText (e.goTo (truthyText s.onSuccess)).currentStepId = some next) :
    Edge ss sid next := by
  obtain ⟨rfl, hf⟩ := found_of_find hfn
  exact edge_onSuccess hf (by simpa [goTo, truthyText_idem] using ho)

variable (ss) in
lemma enterStep_reaches (d : Nat) (e : WorkflowExecution) (step : WorkflowStep)
    (he : (enterStep host ss now d e).2 = .act step ∨ (enterStep host ss now d e).2 = .delay step) :
    Found ss step ∧ ∃ sid, truthyText e.currentStepId = some sid ∧
      ReflTransGen (Edge ss) sid step.id := by
  fun_induction enterStep host ss now d e with
  | case1 | case2 | case3 => simp at he
  | case4 d e sid hc s' hfn | case5 d e sid hc s' hfn =>
    have hs : s' = step := by simpa using he
    subst hs
    obtain ⟨id, hf⟩ := found_of_find hfn
    exact ⟨hf, sid, hc, id ▸ .refl⟩
  | case6 d e sid hc s' hfn lg _ skipped ih =>
    obtain ⟨hf, next, ho, hp⟩ := ih he
    exact ⟨hf, sid, hc, .head (edge_skipped hfn ho) hp⟩

/-- Without cycles no step is skipped twice, so the call stack holds all skipped steps. -/
lemma enterStep_not_overflow (ha : Acyclic ss) (d : Nat)
    (e : WorkflowExecution) (visited : List String) (hd : visited.Nodup)
    (hkn : visited ⊆ ss.map (·.id)) (hp : ∀ sid, truthyText e.currentStepId = some sid →
      ∀ ea ∈ visited, TransGen (Edge ss) ea sid) (enough : ss.length < d + visited.length) :
    (enterStep host ss now d e).2 ≠ .overflow := by
  fun_induction enterStep host ss now d e generalizing visited with
  | case1 e =>
    have hb := (subperm_of_subset hd hkn).length_le
    rw [length_map] at hb
    omega
  | case6 d e sid hc step hfn lg _ skipped ih =>
    obtain ⟨id, hf⟩ := found_of_find hfn
    have new : sid ∉ visited := fun mem => ha sid (hp sid hc sid mem)
    refine ih (sid :: visited) (nodup_cons.mpr ⟨new, hd⟩) ?_ ?_ ?_
    · refine cons_subset.mpr ⟨?_, hkn⟩
      rw [← id]
      exact mem_map_of_mem (mem_of_find?_eq_some hfn)
    · intro next ho ea mem
      have he := edge_skipped hfn ho
      rcases mem_cons.mp mem with rfl | mem
      · exact .single he
      · exact .tail (hp sid hc ea mem) he
    · rw [length_cons]
      omega
  | _ => simp

end

def currentStep (engine : Engine) (executionId : String) : Option String :=
  (engine.executions.get? executionId).bind (truthyText ·.currentStepId)

/-- Every action started so far lies before the step. -/
def Before (steps : List WorkflowStep) (engine : Engine) (executionId stepId : String) : Prop :=
  ∀ action ∈ engine.actionsOf executionId, TransGen (Edge steps) action.2 stepId

/-- Every action started so far lies before the step that comes next. -/
def Ready (steps : List WorkflowStep) (engine : Engine) (executionId : String) : Prop :=
  ∀ stepId, currentStep engine executionId = some stepId → Before steps engine executionId stepId

def ReadyAt (steps : List WorkflowStep) (handlers : List Handler) (engine : Engine)
    (executionId : String) : Await → Prop
  | .startPersist => Ready steps engine executionId
  | .stepPersist => Ready steps engine executionId
  | .delay step => Found steps step ∧ Before steps engine executionId step.id
  | .action step => Found steps step ∧ (∃ outer, handlers = .step step :: outer) ∧
      ∀ action ∈ engine.actionsOf executionId, ReflTransGen (Edge steps) action.2 step.id
  | _ => True

/-- The actions of a run are distinct, its open `try` blocks are those of steps it has found,
and it goes on along the graph. -/
structure OnTrack (steps : List WorkflowStep) (handlers : List Handler) (engine : Engine)
    (executionId : String) (awaiting : Await) : Prop where
  distinct : (engine.actionsOf executionId).Nodup
  known : ∀ step, .step step ∈ handlers → Found steps step
  ready : ReadyAt steps handlers engine executionId awaiting

def Progress (engine : Engine) (executionId : String) : Task → Prop
  | .starting _ => engine.actionsOf executionId = []
  | .queued _ => engine.actionsOf executionId = []
  | .running _ steps handlers awaiting =>
    Acyclic steps → OnTrack steps handlers engine executionId awaiting
  | _ => True

variable {bf : Engine} {id : String}

lemma Progress.of_same {t : Engine} {task : Task} (p : Progress bf id task)
    (ha : t.actionsOf id = bf.actionsOf id)
    (hc : currentStep t id = currentStep bf id) : Progress t id task := by
  cases task with
  | starting _ | queued _ => exact ha.trans p
  | running _ steps ds aw =>
    intro hac
    obtain ⟨hd, hkn, hrd⟩ := p hac
    refine ⟨ha ▸ hd, hkn, ?_⟩
    cases aw with
    | startPersist | stepPersist => simpa [ReadyAt, Ready, Before, ha, hc] using hrd
    | delay step => simpa [ReadyAt, Before, ha] using hrd
    | action step => simpa [ReadyAt, ha] using hrd
    | completePersist | failPersist | analyticsPersist => trivial
  | cancelling _ | shuttingDown _ | ended => trivial

/-- The result of a piece of work: a task on track, and the failures it has logged. -/
structure Goes (executionId : String) (before : Engine) (logged : List (Option String))
    (result : Engine × Task) : Prop where
  progress : Progress result.1 executionId result.2
  failures : failuresOf result.1 executionId = failuresOf before executionId ++ logged
  distinct : (result.1.actionsOf executionId).Nodup

section

variable {id : String} {change : WorkflowExecution → WorkflowExecution}

@[simp] lemma actionsOf_updateExecution (s : Engine) (x : String) :
    (s.updateExecution id change).actionsOf x = s.actionsOf x := by
  simp only [updateExecution]
  split <;> rfl

lemma get?_updateExecution (s : Engine) : (s.updateExecution id change).executions.get? id =
      (s.executions.get? id).map change := by
  simp only [updateExecution]
  cases hf : s.executions.get? id with
  | none => simp [hf]
  | some e => simp [OrderedMap.get?_set]

variable {s : Engine} {e : WorkflowExecution}

lemma failuresOf_of_found (hf : s.executions.get? id = some e) : failuresOf s id = failures e := by
  simp [failuresOf, hf]

lemma failuresOf_updateExecution (hf : s.executions.get? id = some e) :
    failuresOf (s.updateExecution id change) id = failures (change e) := by
  simp [failuresOf, get?_updateExecution, hf]

lemma currentStep_updateExecution (s : Engine) : currentStep (s.updateExecution id change) id =
      (s.executions.get? id).bind fun e => truthyText (change e).currentStepId := by
  rw [currentStep, get?_updateExecution]
  cases s.executions.get? id <;> rfl

end

lemma Goes.after {m : Engine} {first lg : List (Option String)} {r : Engine × Task}
    (rs : Goes id m lg r) (h : failuresOf m id = failuresOf bf id ++ first) :
    Goes id bf (first ++ lg) r :=
  ⟨rs.progress, by rw [rs.failures, h, append_assoc], rs.distinct⟩

section

variable {host : Host} {s : Engine} {id : String} {ss : List WorkflowStep}
  {ds : List Handler} {now : Int}

lemma goes_ended (hd : (s.actionsOf id).Nodup) : Goes id s [] (s, .ended) :=
  ⟨trivial, (append_nil _).symm, hd⟩

variable {aw : Await} {step : WorkflowStep} {o : Except Thrown JsValue} {r : Engine × Task}

section

variable (hd : (s.actionsOf id).Nodup) (hkn : ∀ step, .step step ∈ ds → Found ss step)
include hd hkn

lemma goes_updateWorkflowAnalytics : Goes id s [] (s.updateWorkflowAnalytics id ss ds now) :=
  updateWorkflowAnalytics_rule (goes_ended hd)
    fun _ => ⟨fun _ => ⟨hd, hkn, trivial⟩, (append_nil _).symm, hd⟩

lemma goes_endExecution (final : aw.isFinal) {change : WorkflowExecution → WorkflowExecution}
    (hsi : ∀ e, failures (change e) = failures e) :
    Goes id s [] (s.endExecution id ss ds aw change) := by
  simp only [endExecution]
  cases hf : s.executions.get? id with
  | none => exact goes_ended hd
  | some e =>
    refine ⟨fun _ => ⟨?_, hkn, ?_⟩, ?_, ?_⟩
    · simpa using hd
    · cases aw <;> trivial
    · rw [append_nil, failuresOf_of_found hf]
      exact (failuresOf_updateExecution hf).trans (hsi e)
    · simpa using hd

lemma goes_completeExecution : Goes id s [] (s.completeExecution id ss ds now) :=
  goes_endExecution hd hkn rfl fun _ => rfl

lemma goes_failExecution (e : String) : Goes id s [] (s.failExecution id ss ds e now) :=
  goes_endExecution hd hkn rfl fun _ => rfl

lemma goes_startAction (hac : Acyclic ss) (hf : Found ss step)
    (b : Before ss s id step.id) : Goes id s [] (s.startAction id ss ds step) := by
  have ha : (s.startAction id ss ds step).1.actionsOf id = s.actionsOf id ++ [(id, step.id)] := by
    simp [startAction, actionsOf]
  have new : (id, step.id) ∉ s.actionsOf id := fun mem => hac step.id (b _ mem)
  have hds' : (s.actionsOf id ++ [(id, step.id)]).Nodup :=
    nodup_append.mpr ⟨hd, nodup_singleton _, by
      intro a mem l last_mem
      rw [mem_singleton.mp last_mem]
      exact fun hs => new (hs ▸ mem)⟩
  refine ⟨fun _ => ⟨ha ▸ hds', ?_, hf, ⟨ds, rfl⟩, ?_⟩, (append_nil _).symm, ha ▸ hds'⟩
  · intro s' mem
    rcases mem_cons.mp mem with hs | old
    · cases hs
      exact hf
    · exact hkn s' old
  · intro a mem
    rw [ha] at mem
    rcases mem_append.mp mem with old | l
    · exact (b a old).to_reflTransGen
    · rw [mem_singleton.mp l]

/-- Without cycles, entering the next step keeps a run on track and logs no failure. -/
lemma goes_executeStepOr (ha : Acyclic ss) (hdp : ss.length < host.callStackLimit)
    (hrd : Ready ss s id) (overflow : Engine → Engine × Task) :
    Goes id s [] (executeStepOr host id ss now ds overflow s) := by
  rw [executeStepOr]
  cases hf : s.executions.get? id with
  | none => exact goes_ended hd
  | some e =>
    dsimp only
    have hft := enterStep_not_overflow host now ha host.callStackLimit e []
      nodup_nil (nil_subset _) (by simp) (by simpa using hdp)
    have hr := enterStep_reaches ss host now host.callStackLimit e
    have hsi := failures_enterStep ss host now host.callStackLimit e
    generalize enterStep host ss now host.callStackLimit e = entered at *
    have hu : failuresOf (s.updateExecution id fun _ => entered.1) id = failuresOf s id ++ [] := by
      rw [append_nil, failuresOf_updateExecution hf, failuresOf_of_found hf, hsi]
    have hds' : ((s.updateExecution id fun _ => entered.1).actionsOf id).Nodup := by
      simpa using hd
    have bf : ∀ step, entered.2 = .act step ∨ entered.2 = .delay step → Found ss step ∧
          Before ss (s.updateExecution id fun _ => entered.1) id step.id := by
      intro step he
      obtain ⟨his, si, hc, hp⟩ := hr step he
      refine ⟨his, fun a mem => ?_⟩
      rw [actionsOf_updateExecution] at mem
      exact (hrd si (by simp [currentStep, hf, hc]) a mem).trans_left hp
    cases next : entered.2 with
    | complete => exact (goes_completeExecution hds' hkn).after hu
    | fail er => exact (goes_failExecution hds' hkn er).after hu
    | delay step =>
      obtain ⟨his, hi⟩ := bf step (.inr next)
      exact ⟨fun _ => ⟨hds', hkn, his, hi⟩, hu, hds'⟩
    | act step =>
      obtain ⟨his, hi⟩ := bf step (.inl next)
      exact (goes_startAction hds' hkn ha his hi).after hu
    | overflow => exact absurd next hft

variable (host now) in
lemma goes_throwTo_unbranched (hp : (s.executions.get? id).isSome)
    (hu : !branches ds) (t : Thrown) : ∃ lg, Goes id s lg (throwTo host id ss now ds t s) ∧
      (lg = [] ∨ ∃ step, lg = [some step.id] ∧ Found ss step ∧
        truthyText step.onFailure = none) := by
  cases ds with
  | nil => exact ⟨[], goes_ended hd, .inl rfl⟩
  | cons d ds =>
    cases d with
    | run =>
      refine ⟨[], goes_failExecution hd (fun step mem => ?_) _, .inl rfl⟩
      exact hkn step (mem_cons_of_mem _ mem)
    | step step =>
      have hn : truthyText step.onFailure = none := by simpa [branches] using hu
      have hnt : step.failureTarget = none := by
        rw [WorkflowStep.failureTarget, hn]
        rfl
      obtain ⟨e, hf⟩ := isSome_iff_exists.mp hp
      refine ⟨[some step.id] ++ [], ?_, .inr ⟨step, rfl, hkn step mem_cons_self, hn⟩⟩
      rw [throwTo, hnt]
      refine (goes_failExecution ?_ (fun step mem => ?_) _).after ?_
      · simpa using hd
      · exact hkn step (mem_cons_of_mem _ mem)
      · rw [failuresOf_updateExecution hf, failuresOf_of_found hf, failures_addError]

end

lemma goes_throwTo_own (ha : Acyclic ss) (hdp : ss.length < host.callStackLimit)
    (ht : OnTrack ss ds s id (.action step)) (hp : (s.executions.get? id).isSome) (t : Thrown) :
    Goes id s [some step.id] (throwTo host id ss now ds t s) := by
  obtain ⟨hd, hkn, hi, ⟨xs, rfl⟩, hps⟩ := ht
  have hk' : ∀ step, .step step ∈ xs → Found ss step :=
    fun step mem => hkn step (mem_cons_of_mem _ mem)
  obtain ⟨e, hf⟩ := isSome_iff_exists.mp hp
  rw [throwTo]
  generalize log : (fun e : WorkflowExecution =>
    e.addExecutionLog now .error step.id "Step failed" (some (.error t.messageOrText))) = logs
  have hlg : failuresOf (s.updateExecution id logs) id = failuresOf s id ++ [some step.id] := by
    rw [failuresOf_updateExecution hf, failuresOf_of_found hf, ← log, failures_addError]
  rw [← append_nil [some step.id]]
  cases target : step.failureTarget with
  | none =>
    refine (goes_failExecution ?_ hk' _).after hlg
    simpa using hd
  | some next =>
    refine (goes_executeStepOr ?_ hk' ha hdp ?_ _).after ?_
    · simpa using hd
    · intro stepId hc a mem
      rw [actionsOf_updateExecution, actionsOf_updateExecution] at mem
      have hh : truthyText (some next) = some stepId := by
        simpa [currentStep_updateExecution, get?_updateExecution, hf, goTo] using hc
      obtain rfl : next = stepId := some.inj (filter_eq_some_iff.mp hh).1
      exact TransGen.tail' (hps a mem) (edge_failureTarget hi target)
    · rw [← hlg, failuresOf, get?_updateExecution]
      rw [failuresOf]
      cases (s.updateExecution id logs).executions.get? id <;> rfl

/-- The failures that a piece of a run logs: none, that of a step without an `onFailure`, or
that of the step whose action threw. -/
def OwnFailures (steps : List WorkflowStep) (awaiting : Await)
    (outcome : Except Thrown JsValue) (logged : List (Option String)) : Prop :=
  logged = [] ∨ ∃ step, logged = [some step.id] ∧ Found steps step ∧
    (truthyText step.onFailure = none ∨
      awaiting = .action step ∧ ∃ thrown, outcome = .error thrown)

lemma goes_rejected (ha : Acyclic ss) (ht : OnTrack ss ds s id aw)
    (hp : (s.executions.get? id).isSome) {t : Thrown}
    (hcn : ContainedRun host ss ds aw (.error t)) :
    ∃ lg, Goes id s lg (throwTo host id ss now ds t s) ∧ OwnFailures ss aw (.error t) lg := by
  obtain ⟨hdp, own | hu⟩ := hcn
  · cases aw with
    | action step =>
      exact ⟨_, goes_throwTo_own ha hdp ht hp t, .inr ⟨step, rfl, ht.ready.1, .inr ⟨rfl, t, rfl⟩⟩⟩
    | _ => cases own
  · obtain ⟨lg, hg, none | ⟨step, one, hf, hn⟩⟩ :=
      goes_throwTo_unbranched host now ht.distinct ht.known hp hu t
    · exact ⟨lg, hg, .inl none⟩
    · exact ⟨lg, hg, .inr ⟨step, one, hf, .inl hn⟩⟩

lemma goes_recordResult (ht : OnTrack ss ds s id (.action step))
    (hp : (s.executions.get? id).isSome) (v : JsValue) :
    Goes id s [] (s.updateExecution id (·.recordResult now step v),
        .running id ss ds .stepPersist) := by
  obtain ⟨e, hf⟩ := isSome_iff_exists.mp hp
  obtain ⟨hi, -, hps⟩ := ht.ready
  refine ⟨fun _ => ⟨?_, ht.known, ?_⟩, ?_, ?_⟩
  · simpa using ht.distinct
  · intro stepId hc a mem
    rw [actionsOf_updateExecution] at mem
    have ho : truthyText step.onSuccess = some stepId := by
      simpa [currentStep_updateExecution, hf, recordResult, truthyText_idem] using hc
    exact TransGen.tail' (hps a mem) (edge_onSuccess hi ho)
  · rw [append_nil]
    exact (failuresOf_updateExecution hf).trans
      ((failures_addInfo _ _ _ _ _).trans (failuresOf_of_found hf).symm)
  · simpa using ht.distinct

lemma goes_continueRun (ha : Acyclic ss) (ht : OnTrack ss ds s id aw)
    (hp : (s.executions.get? id).isSome) (hc : ContainedRun host ss ds aw o)
    (hcn : s.continueRun host id ss ds now aw o = some r) : ∃ lg, Goes id s lg r ∧
      OwnFailures ss aw o lg := by
  cases o with
  | error thrown =>
    cases aw with
    | delay step => cases hcn
    | _ =>
      cases hcn
      exact goes_rejected ha ht hp hc
  | ok v =>
    refine ⟨[], ?_, .inl rfl⟩
    obtain ⟨hd, hkn, hrd⟩ := ht
    cases aw with
    | startPersist | stepPersist =>
      cases hcn
      exact goes_executeStepOr hd hkn ha hc.1 hrd _
    | delay step =>
      cases hcn
      exact goes_startAction hd hkn ha hrd.1 hrd.2
    | action step =>
      cases hcn
      exact goes_recordResult ⟨hd, hkn, hrd⟩ hp v
    | completePersist | failPersist =>
      cases hcn
      exact goes_updateWorkflowAnalytics hd hkn
    | analyticsPersist =>
      cases hcn
      exact goes_ended hd

lemma Goes.orderly {lg : List (Option String)} (hg : Goes id s lg r)
    (own : OwnFailures ss aw o lg) : Orderly s r.1 id ss aw o := by
  refine ⟨?_, hg.distinct⟩
  intro step ht
  have hm := ht.failed
  rw [hg.failures, count_append] at hm
  rcases own with none | ⟨fl, one, hf, rs⟩
  · rw [none] at hm
    simp at hm
  · rw [one, count_singleton] at hm
    have hs : fl.id = step.id := by
      by_contra hne
      simp [hne] at hm
    have he : fl = step := by
      rw [Found, hs] at hf
      exact some.inj (hf.symm.trans ht.found)
    subst he
    rcases rs with hn | own
    · have hb := ht.onFailure
      rw [hn] at hb
      cases hb
    · exact own

lemma Orderly.setTask {i : Nat} (ho : Orderly s r.1 id ss aw o) :
    Orderly s (setTask i r) id ss aw o :=
  ⟨fun step ht => ho.branches step { ht with }, ho.actions⟩

end

/-- Nothing was started for an execution that is not there, and the run of an execution is
on track. -/
structure Tracked (executionId : String) (engine : Engine) : Prop where
  owned : Owned engine
  absent : engine.executions.get? executionId = none → engine.actionsOf executionId = []
  progress : ∀ task ∈ engine.tasks, task.owner = some executionId →
    Progress engine executionId task

/-- Neither an action nor a failure of the execution is added. -/
def Unchanged (executionId : String) (before after : Engine) : Prop :=
  failuresOf after executionId = failuresOf before executionId ∧
    after.actionsOf executionId = before.actionsOf executionId

section

variable {host : Host} {s t : Engine} {id : String}

lemma Tracked.of_same (htr : Tracked id s) (how : Owned t)
    (hp : (t.executions.get? id).isSome = (s.executions.get? id).isSome)
    (ha : t.actionsOf id = s.actionsOf id) (hc : currentStep t id = currentStep s id)
    (ht : ∀ task ∈ t.tasks, task.owner = some id → task ∈ s.tasks) : Tracked id t := by
  refine ⟨how, ?_, ?_⟩
  · intro hmi
    rw [ha]
    refine htr.absent ?_
    rw [hmi] at hp
    simpa using hp.symm
  · intro task mem ho
    exact (htr.progress task (ht task mem ho) ho).of_same ha hc

variable {x : String} {r : Engine × Task}

/-- What is left alone when another execution is worked on, or this one is cancelled. -/
lemma same_of_concerns (hc : Concerns x s t) (ne : id ≠ x) : Unchanged id s t ∧
      currentStep t id = currentStep s id := by
  refine ⟨⟨?_, hc.actions _ ne⟩, ?_⟩
  · rw [failuresOf, hc.executions _ ne]
    rfl
  · rw [currentStep, hc.executions _ ne]
    rfl

lemma same_cancelledAt (s : Engine) (id x : String) (now : Int) :
    Unchanged id s (s.cancelledAt x now) ∧
      currentStep (s.cancelledAt x now) id = currentStep s id := by
  by_cases hs : id = x
  · subst hs
    refine ⟨⟨?_, ?_⟩, ?_⟩
    · rw [failuresOf, cancelledAt, get?_updateExecution, failuresOf]
      cases s.executions.get? id <;> rfl
    · exact actionsOf_updateExecution s id
    · rw [cancelledAt, currentStep_updateExecution]
      rfl
  · exact same_of_concerns (concerns_cancelledAt s x now) hs

lemma tracked_cancelledAt (htr : Tracked id s) (x : String) (now : Int) :
    Tracked id (s.cancelledAt x now) := by
  have hc := concerns_cancelledAt s x now
  obtain ⟨⟨-, ha⟩, hcr⟩ := same_cancelledAt s id x now
  refine htr.of_same (htr.owned.of_concerns hc) (hc.present_iff _) ha hcr fun task mem _ => ?_
  rwa [hc.tasks] at mem

variable {task : Task} {i : Nat} {now : Int} {o : Except Thrown JsValue}

lemma Tracked.addTask (htr : Tracked id s)
    (huo : task.owner = none) : Tracked id (addTask (s, task)) := by
  refine htr.of_same (htr.owned.add huo) rfl rfl rfl ?_
  intro x mem ho
  rcases mem_append.mp mem with old | new
  · exact old
  · rw [mem_singleton.mp new, huo] at ho
    cases ho

lemma Tracked.setTask (htr : Tracked id s) {next : Task}
    (hf : s.tasks[i]? = some task) (huo : next.owner = none) :
    Tracked id (setTask i (s, next)) := by
  refine htr.of_same (htr.owned.set hf ?_) rfl rfl rfl ?_
  · intro x ho
    rw [huo] at ho
    cases ho
  · intro x mem ho
    rcases mem_or_eq_of_mem_set mem with old | rfl
    · exact old
    · rw [huo] at ho
      cases ho

lemma tracked_start (htr : Tracked id s) (e : WorkflowExecution) (hsi : failures e = [])
    (hfr : s.executions.get? x = none) : Tracked id (addTask ({ s with
        executions := s.executions.set x e }, .starting x)) ∧
      Unchanged id s (addTask ({ s with
        executions := s.executions.set x e }, .starting x)) := by
  have how := htr.owned.start e hfr
  have hl : ∀ id', (addTask ({ s with
      executions := s.executions.set x e }, .starting x)).executions.get? id' =
        if x = id' then some e else s.executions.get? id' :=
    fun id' => OrderedMap.get?_set _ _ _ _
  by_cases hs : x = id
  · subst hs
    have none_yet := htr.absent hfr
    refine ⟨⟨how, fun _ => none_yet, ?_⟩, ?_, rfl⟩
    · intro task mem ho
      rcases mem_append.mp mem with old | new
      · have hst := htr.owned.present task old x ho
        rw [hfr] at hst
        cases hst
      · rw [mem_singleton.mp new]
        exact none_yet
    · simp [failuresOf, hl, hsi, hfr]
  · have hk := (hl id).trans (if_neg hs)
    refine ⟨htr.of_same how (by rw [hk]) rfl (by simp [currentStep, hk]) ?_,
      by simp [failuresOf, hk], rfl⟩
    intro task mem ho
    rcases mem_append.mp mem with old | new
    · exact old
    · rw [mem_singleton.mp new] at ho
      exact absurd (some.inj ho) hs

lemma progress_runExecution (now : Int) (none_yet : s.actionsOf id = []) :
    Progress (s.runExecution id now).1 id (s.runExecution id now).2 ∧
      Unchanged id s (s.runExecution id now).1 := by
  have hd : (s.actionsOf id).Nodup := none_yet ▸ nodup_nil
  simp only [runExecution]
  cases hf : s.executions.get? id with
  | none => exact ⟨trivial, rfl, rfl⟩
  | some e =>
    dsimp only
    cases s.workflows.get? e.workflowId with
    | none =>
      have hg : Goes id s [] (s.failExecution id [] [] "Workflow not found" now) :=
        goes_failExecution hd (by simp) _
      refine ⟨hg.progress, ?_, ?_⟩
      · simpa using hg.failures
      · simp [failExecution, endExecution, hf]
    | some w =>
      refine ⟨fun _ => ⟨by simpa using hd, by simp, ?_⟩, ?_, by simp⟩
      · intro stepId _ action mem
        rw [actionsOf_updateExecution, none_yet] at mem
        cases mem
      · rw [failuresOf_updateExecution hf, failuresOf_of_found hf]
        rfl

lemma progress_resumeTask (progress : Progress s id task)
    (owner : task.owner = some id) (hp : (s.executions.get? id).isSome)
    (hcn : ∀ steps ds aw, task = .running id steps ds aw → ContainedRun host steps ds aw o)
    (hr : s.resumeTask host now task o = some r) :
    Progress r.1 id r.2 ∧ (Unchanged id s r.1 ∨ ∃ steps ds aw, task = .running id steps ds aw ∧
          (Acyclic steps → Orderly s r.1 id steps aw o)) := by
  cases task with
  | starting id' =>
    cases o with
    | error thrown =>
      cases hr
      exact ⟨trivial, .inl ⟨rfl, rfl⟩⟩
    | ok v =>
      cases hr
      exact ⟨progress, .inl ⟨rfl, rfl⟩⟩
  | queued id' =>
    cases owner
    cases o with
    | error thrown => cases hr
    | ok v =>
      cases hr
      obtain ⟨progress', same⟩ := progress_runExecution now progress
      exact ⟨progress', .inl same⟩
  | running id' steps ds aw =>
    cases owner
    have goes := fun hacy => goes_continueRun hacy (progress hacy) hp (hcn steps ds aw rfl) hr
    refine ⟨?_, .inr ⟨steps, ds, aw, rfl, ?_⟩⟩
    · rcases (runsOn_continueRun hr).task with ended | ⟨handlers', awaiting', running⟩
      · rw [ended]
        trivial
      · rw [running]
        intro hacy
        obtain ⟨lg, goes, -⟩ := goes hacy
        have progress' := goes.progress
        rw [running] at progress'
        exact progress' hacy
    · intro hacy
      obtain ⟨lg, goes, own⟩ := goes hacy
      exact goes.orderly own
  | cancelling _ | shuttingDown _ | ended => cases owner

lemma contained_running (hf : s.tasks[i]? = some task)
    (hcn : Contained host id s (.resume i o now)) :
    ∀ ss ds aw, task = .running id ss ds aw → ContainedRun host ss ds aw o := by
  rintro ss ds aw rfl
  rw [Contained, hf] at hcn
  exact hcn rfl

lemma tracked_resume {owner : String} (htr : Tracked id s)
    (hcn : Contained host id s (.resume i o now))
    (hf : s.tasks[i]? = some task) (owns : task.owner = some owner)
    (hr : s.resumeTask host now task o = some r) :
    Tracked id (setTask i r) ∧ (Unchanged id s r.1 ∨ ∃ steps ds aw,
        task = .running id steps ds aw ∧ (Acyclic steps → Orderly s r.1 id steps aw o)) := by
  have mem := mem_of_getElem? hf
  have hwo := worksOn_resumeTask owns hr
  have owned : Owned (setTask i r) := htr.owned.step (.resumed hf owns hr)
  have tasks : ∀ x ∈ (setTask i r).tasks, x.owner = some id → x = r.2 ∨ x ∈ s.tasks := by
    intro x inTasks _
    rw [setTask, hwo.concerns.tasks] at inTasks
    exact (mem_or_eq_of_mem_set inTasks).symm
  by_cases same : id = owner
  · subst same
    have hp := htr.owned.present task mem id owns
    obtain ⟨progress, effect⟩ := progress_resumeTask (htr.progress task mem owns) owns hp
      (contained_running hf hcn) hr
    refine ⟨⟨owned, ?_, ?_⟩, effect⟩
    · intro hmi
      have hst := hwo.concerns.present
      rw [hp] at hst
      have hab : r.1.executions.get? id = none := hmi
      rw [hab] at hst
      cases hst
    · intro x inTasks owner
      obtain ⟨j, atJ⟩ := getElem?_of_mem inTasks
      rw [setTask, hwo.concerns.tasks] at atJ
      rcases getElem?_set_cases atJ with ⟨-, rfl⟩ | ⟨ne, old⟩
      · exact progress.of_same rfl rfl
      · exact absurd (htr.owned.unique j i x task id old hf owner owns) ne
  · obtain ⟨⟨hfl, actions⟩, current⟩ := same_of_concerns hwo.concerns same
    refine ⟨htr.of_same owned (hwo.concerns.present_iff _) actions current ?_, .inl ⟨hfl, actions⟩⟩
    intro x inTasks owner
    rcases tasks x inTasks owner with rfl | old
    · exact absurd (hwo.owner _ owner) same
    · exact old

/-- What one step does to an execution whose rejections are contained. -/
lemma tracked_step {l : Label} (htr : Tracked id s) (hcn : Contained host id s l)
    (hs : s.step host l = some t) :
    Tracked id t ∧ (Unchanged id s t ∨ ∃ i o now ss ds aw, l = .resume i o now ∧
        s.tasks[i]? = some (.running id ss ds aw) ∧ (Acyclic ss → Orderly s t id ss aw o)) := by
  cases effect_of_step hs with
  | refused => exact ⟨htr, .inl ⟨rfl, rfl⟩⟩
  | stored _ _ | deleted _ =>
    have how := htr.owned.step (effect_of_step hs)
    exact ⟨htr.of_same how rfl rfl rfl fun _ mem _ => mem, .inl ⟨rfl, rfl⟩⟩
  | started hf hfr =>
    obtain ⟨ht', hsm⟩ := tracked_start htr (newExecution _ _ _ _ _ _ _) rfl hfr
    exact ⟨ht', .inl hsm⟩
  | cancelled hf hac huo =>
    exact ⟨(tracked_cancelledAt htr _ _).addTask huo, .inl (same_cancelledAt _ _ _ _).1⟩
  | idle => exact ⟨htr.addTask rfl, .inl ⟨rfl, rfl⟩⟩
  | stopped hf huo => exact ⟨htr.setTask hf rfl, .inl ⟨rfl, rfl⟩⟩
  | cancelledNext hf huo stored hac hu' =>
    exact ⟨(tracked_cancelledAt htr _ _).setTask
      ((concerns_cancelledAt _ _ _).tasks ▸ hf) hu', .inl (same_cancelledAt _ _ _ _).1⟩
  | resumed hf hos resumed =>
    obtain ⟨ht', hsm | ⟨ss, ds, aw, rfl, ho⟩⟩ := tracked_resume htr hcn hf hos resumed
    · exact ⟨ht', .inl hsm⟩
    · exact ⟨ht', .inr ⟨_, _, _, ss, ds, aw, rfl, hf, fun ha => (ho ha).setTask⟩⟩

end

lemma tracked_loaded (id : String) (ws : OrderedMap String Workflow)
    (es : OrderedMap String WorkflowExecution) : Tracked id (loaded ws es) :=
  ⟨.loaded ws es, fun _ => rfl, by rintro _ ⟨⟩⟩

def offer : WorkflowStep where
  id := "offer"
  name := "Make an offer"
  action := ⟨"a1", .email⟩
  conditions := none
  onSuccess := some "invoice"
  onFailure := some "invoice"
  delay := none

def invoice : WorkflowStep where
  id := "invoice"
  name := "Send the invoice"
  action := ⟨"a2", .apiCall⟩
  conditions := none
  onSuccess := none
  onFailure := none
  delay := none

def sales : Engine :=
  .loaded (OrderedMap.empty.set "sales" ⟨[offer, invoice], "offer", true, ⟨0, 0, 0, none⟩⟩) .empty

def startSales : Label :=
  .executeWorkflow "e1" "sales" "manual" (fun _ => .undefined) none 0

lemma acyclic_sales : Acyclic [offer, invoice] := by
  have he : ∀ y tg, Edge [offer, invoice] y tg → y = "offer" ∧ tg = "invoice" := by
    rintro y tg ⟨step, hf, next⟩
    obtain ⟨rfl, -⟩ := found_of_find hf
    rcases mem_cons.mp (mem_of_find?_eq_some hf) with rfl | l
    · rcases next with next | next <;> cases next <;> exact ⟨rfl, rfl⟩
    · rw [mem_singleton.mp l] at next
      rcases next with next | next <;> cases next
  intro stepId c
  obtain ⟨next, first, -⟩ := TransGen.head'_iff.mp c
  obtain ⟨bf, -, l⟩ := TransGen.tail'_iff.mp c
  have hh := (he _ _ first).1
  rw [(he _ _ l).2] at hh
  exact absurd hh (by decide)

/-- At most one task works on an execution, whatever is started, cancelled and resumed. -/
theorem owned_of_run {host : Host} {workflows : OrderedMap String Workflow}
    {executions : OrderedMap String WorkflowExecution} {labels : List Label} {engine : Engine}
    (run : Run (Engine.step host) Always (.loaded workflows executions) labels engine) :
    Owned engine :=
  run.invariant Owned (fun _ _ _ owned _ hs => owned.step (effect_of_step hs)) (.loaded _ _)

theorem cancelledOffer_owned : ∃ engine, Run (Engine.step plainHost) Always sales
    [startSales, settle 0 1, .cancelExecution "e1" 2] engine ∧
    engine.tasks.length = 2 ∧ Owned engine :=
  exists_run (by decide +kernel) fun _ run _ => owned_of_run run

end WorkflowFailure
