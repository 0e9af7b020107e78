import Mathlib.Tactic
import Optimizely.WorkflowCancellation
import Optimizely.WorkflowTasks

/-!
# Workflow analytics

`updateWorkflowAnalytics` counts up by one, but recomputes the success rate and the average from all
executions in the map. They agree only if nothing else there is completed or has a duration: no
execution that waits to be counted, and none cancelled after some time.
-/

namespace WorkflowAnalytics

open TransitionRuns TaskLists WorkflowEngine List Option OrderedMap

def isEnded : ExecutionStatus → Bool
  | .completed => true
  | .failed => true
  | _ => false

/-- The execution that has ended and is counted when the task goes on. -/
def toBeCounted : Task → Option String
  | .running executionId _ _ .completePersist => some executionId
  | .running executionId _ _ .failPersist => some executionId
  | _ => none

def waits (engine : Engine) (executionId : String) : Bool :=
  engine.tasks.any fun task => toBeCounted task = some executionId

def ids (engine : Engine) : Finset String := engine.executions.keys.toFinset

def has (engine : Engine) (executionId : String) (p : WorkflowExecution → Bool) : Bool :=
  (engine.executions.get? executionId).any p

def belongs (engine : Engine) (workflowId executionId : String) : Bool :=
  has engine executionId (·.workflowId = workflowId)

def isCompleted (engine : Engine) (executionId : String) : Bool :=
  has engine executionId (·.status = .completed)

/-- The execution has completed or failed and is not on its way to `updateWorkflowAnalytics`. -/
def counts (engine : Engine) (workflowId executionId : String) : Bool :=
  belongs engine workflowId executionId && has engine executionId (isEnded ·.status) &&
    !waits engine executionId

def ended (engine : Engine) (workflowId : String) : Finset String :=
  (ids engine).filter fun executionId => counts engine workflowId executionId

def completed (engine : Engine) (workflowId : String) : Finset String :=
  (ended engine workflowId).filter fun executionId => isCompleted engine executionId

def durationOf (engine : Engine) (executionId : String) : Int :=
  ((engine.executions.get? executionId).bind (·.duration)).getD 0

/-- The analytics of a workflow describe its executions that have ended. -/
structure Describes (engine : Engine) (workflowId : String) (analytics : WorkflowAnalytics) :
    Prop where
  executionCount : analytics.executionCount = (ended engine workflowId).card
  successRate : analytics.successRate =
    100 * (completed engine workflowId).card / (ended engine workflowId).card
  averageExecutionTime : analytics.averageExecutionTime =
    (∑ executionId ∈ ended engine workflowId, durationOf engine executionId : ℤ) /
      (ended engine workflowId).card

def Described (engine : Engine) : Prop :=
  ∀ workflowId workflow, engine.workflows.get? workflowId = some workflow →
    Describes engine workflowId workflow.analytics

/-- What `createWorkflow` starts with. -/
def initialAnalytics : WorkflowAnalytics := ⟨0, 0, 0, none⟩

/-- Only actions reject. A stored workflow keeps its analytics, and a new one has an id that
no execution carries. -/
def Persisted (engine : Engine) : Label → Prop
  | .resume index (.error _) _ =>
    match engine.tasks[index]? with
    | some (.running _ _ _ (.action _)) => True
    | _ => False
  | .storeWorkflow workflowId workflow =>
    match engine.workflows.get? workflowId with
    | some stored => workflow.analytics = stored.analytics
    | none => workflow.analytics = initialAnalytics ∧
        ∀ executionId ∈ ids engine, !belongs engine workflowId executionId
  | _ => True

/-- The executions of a workflow that are not counted, apart from one. -/
def others (engine : Engine) (workflowId executionId : String) : Finset String :=
  (ids engine).filter fun other => other ≠ executionId &&
    belongs engine workflowId other && !counts engine workflowId other

/-- None of the executions that are not counted is completed, and their durations add up to
nothing. -/
def CarefulUpdate (engine : Engine) (executionId : String) : Prop :=
  ∀ execution ∈ engine.executions.get? executionId,
    (engine.workflows.get? execution.workflowId).isSome →
      (∀ other ∈ others engine execution.workflowId executionId, !isCompleted engine other) ∧
        ∑ other ∈ others engine execution.workflowId executionId, durationOf engine other = 0

deriving instance Decidable for CarefulUpdate

def Careful (engine : Engine) : Label → Prop
  | .resume index (.ok _) _ =>
    ∀ executionId ∈ (engine.tasks[index]?).bind toBeCounted, CarefulUpdate engine executionId
  | _ => True

instance (engine : Engine) (label : Label) : Decidable (Persisted engine label) := by
  unfold Persisted
  repeat' split
  all_goals infer_instance

instance (engine : Engine) (label : Label) : Decidable (Careful engine label) := by
  unfold Careful
  split <;> infer_instance

section

variable {s b t : Engine} {wid id : String} {p : WorkflowExecution → Bool} {task : Task}
  {analytics : WorkflowAnalytics}

lemma has_iff : has s id p = true ↔ ∃ e, s.executions.get? id = some e ∧ p e = true := by
  rw [has, Option.any_eq_true]

lemma mem_ids_of_has (h : has s id p = true) : id ∈ ids s := by
  obtain ⟨e, hf, -⟩ := has_iff.mp h
  exact mem_toFinset.mpr (mem_keys_of_get? hf)

lemma mem_ended : id ∈ ended s wid ↔ counts s wid id = true := by
  rw [ended, Finset.mem_filter, and_iff_right_iff_imp]
  intro hct
  simp only [counts, Bool.and_eq_true] at hct
  exact mem_ids_of_has hct.1.1

lemma waits_iff : waits s id = true ↔ ∃ (i : Nat) (t : Task), s.tasks[i]? = some t ∧
      toBeCounted t = some id := by
  simp only [waits, List.any_eq_true, decide_eq_true_eq]
  constructor
  · rintro ⟨t, mem, hwa⟩
    obtain ⟨i, hf⟩ := getElem?_of_mem mem
    exact ⟨i, t, hf, hwa⟩
  · rintro ⟨i, t, hf, hwa⟩
    exact ⟨t, mem_of_getElem? hf, hwa⟩

lemma toBeCounted_of_unowned (huo : task.owner = none) : toBeCounted task = none := by
  cases task with
  | starting _ | queued _ | running _ _ _ _ => cases huo
  | cancelling _ | shuttingDown _ | ended => rfl

lemma owner_of_toBeCounted (h : toBeCounted task = some id) : task.owner = some id := by
  cases task with
  | running id' steps ds aw =>
    cases aw <;> first | exact h | cases h
  | starting _ | queued _ | cancelling _ | shuttingDown _ | ended => cases h

/-- The description of a workflow is unchanged if the same executions are counted and these
are left alone. -/
lemma describes_congr (hs : ∀ x, counts t wid x = counts b wid x)
    (es : ∀ x, counts b wid x = true → t.executions.get? x = b.executions.get? x)
    (ds : Describes b wid analytics) : Describes t wid analytics := by
  have ended_eq : ended t wid = ended b wid := by
    ext x
    rw [mem_ended, mem_ended, hs]
  have completed_eq : completed t wid = completed b wid := by
    rw [completed, ended_eq]
    apply Finset.filter_congr
    intro x mem
    simp only [isCompleted, has, es x (mem_ended.mp mem)]
  have hdr : ∑ x ∈ ended t wid, durationOf t x = ∑ x ∈ ended b wid, durationOf b x := by
    rw [ended_eq]
    apply Finset.sum_congr rfl
    intro x mem
    simp only [durationOf, es x (mem_ended.mp mem)]
  obtain ⟨hc, r, ha⟩ := ds
  exact ⟨ended_eq ▸ hc, by rw [ended_eq, completed_eq, r], by rw [hdr, ended_eq, ha]⟩

lemma described_of_same (hds : Described b) (ws : ∀ id w, t.workflows.get? id = some w →
      b.workflows.get? id = some w) (es : t.executions = b.executions)
    (hwa : ∀ x, waits t x = waits b x) : Described t := by
  intro id w hf
  refine describes_congr ?_ (fun _ _ => by rw [es]) (hds id w (ws id w hf))
  intro x
  simp only [counts, belongs, has, es, hwa]

lemma describes_of_uncounted (tc : String) (es : ∀ x, x ≠ tc →
      t.executions.get? x = b.executions.get? x)
    (hwa : ∀ x, x ≠ tc → waits t x = waits b x) (huc : counts b wid tc = false)
    (hu' : counts t wid tc = false)
    (ds : Describes b wid analytics) : Describes t wid analytics := by
  refine describes_congr ?_ ?_ ds
  · intro x
    by_cases h : x = tc
    · rw [h, huc, hu']
    · simp only [counts, belongs, has, es x h, hwa x h]
  · rintro x hct
    refine es x ?_
    rintro rfl
    rw [huc] at hct
    cases hct

lemma not_counts_of_unended (hu : ∀ st, s.statusOf id = some st →
    isEnded st = false) : counts s wid id = false := by
  cases hf : s.executions.get? id with
  | none => simp [counts, belongs, has, hf]
  | some e =>
    have st : s.statusOf id = some e.status := by
      simp [Engine.statusOf, hf]
    simp [counts, has, hf, hu _ st]

lemma not_counts_of_waits (hwa : waits s id = true) : counts s wid id = false := by
  simp [counts, hwa]

lemma waits_addTask {r : Engine × Task} (ht : r.1.tasks = s.tasks)
    (next : toBeCounted r.2 = none) (id : String) : waits (Engine.addTask r) id = waits s id := by
  simp [waits, Engine.addTask, ht, next]

section

variable {index i : Nat} {task : Task} {r : Engine × Task}

lemma waits_setTask_other (hf : s.tasks[index]? = some task)
    (tasks : r.1.tasks = s.tasks) {x : String}
    (old : toBeCounted task ≠ some x) (new : toBeCounted r.2 ≠ some x) :
    waits (Engine.setTask index r) x = waits s x := by
  rw [Bool.eq_iff_iff, waits_iff, waits_iff]
  constructor
  · rintro ⟨i, task', found', hwa⟩
    rw [Engine.setTask, tasks] at found'
    rcases getElem?_set_cases found' with ⟨-, rfl⟩ | ⟨-, hk⟩
    · exact absurd hwa new
    · exact ⟨i, task', hk, hwa⟩
  · rintro ⟨i, task', found', hwa⟩
    have ne : i ≠ index := by
      rintro rfl
      rw [hf] at found'
      cases found'
      exact old hwa
    refine ⟨i, task', ?_, hwa⟩
    rw [Engine.setTask, tasks, getElem?_set_ne ne.symm, found']

lemma waits_setTask_ended (hf : s.tasks[i]? = some task)
    (huc : toBeCounted task = none) (x : String) :
    waits (Engine.setTask i (s, .ended)) x = waits s x := by
  refine waits_setTask_other hf rfl ?_ ?_
  · rw [huc]
    rintro ⟨⟩
  · rintro ⟨⟩

/-- The only task that can wait to count an execution is the one that works on it. -/
lemma waits_setTask_own (owned : Owned s) (hf : s.tasks[index]? = some task)
    (owner : task.owner = some id) (tasks : r.1.tasks = s.tasks) :
    waits (Engine.setTask index r) id = decide (toBeCounted r.2 = some id) := by
  rw [Bool.eq_iff_iff, waits_iff, decide_eq_true_eq]
  constructor
  · rintro ⟨i, task', found', hwa⟩
    rw [Engine.setTask, tasks] at found'
    rcases getElem?_set_cases found' with ⟨-, rfl⟩ | ⟨ne, hk⟩
    · exact hwa
    · exact absurd (owned.unique i index task' task id hk hf (owner_of_toBeCounted hwa) owner) ne
  · intro hwa
    refine ⟨index, r.2, ?_, hwa⟩
    obtain ⟨bound, -⟩ := List.getElem?_eq_some_iff.mp hf
    rw [Engine.setTask, tasks, getElem?_set_self bound]

end

end

def Unfinished (engine : Engine) (executionId : String) : Prop :=
  engine.statusOf executionId = some .running ∨ engine.statusOf executionId = some .cancelled

/-- The status of an execution, by the task that works on it. A cancel may come at any time
before the end. -/
def Standing (engine : Engine) : Task → Prop
  | .starting executionId => engine.statusOf executionId = some .pending ∨
      engine.statusOf executionId = some .cancelled
  | .queued executionId => engine.statusOf executionId = some .pending ∨
      engine.statusOf executionId = some .cancelled
  | .running executionId _ _ .completePersist => engine.statusOf executionId = some .completed
  | .running executionId _ _ .failPersist => engine.statusOf executionId = some .failed
  | .running executionId _ _ .analyticsPersist => engine.statusOf executionId = some .completed ∨
      engine.statusOf executionId = some .failed
  | .running executionId _ _ _ => Unfinished engine executionId
  | _ => True

variable {b : Engine} {task : Task} {id : String}

lemma Standing.of_status {t : Engine} (hs : Standing b task)
    (hsm : ∀ id, task.owner = some id → t.statusOf id = b.statusOf id) : Standing t task := by
  cases task with
  | starting id | queued id =>
    simpa [Standing, hsm id rfl] using hs
  | running id steps ds aw =>
    cases aw <;> simpa [Standing, Unfinished, hsm id rfl] using hs
  | cancelling _ | shuttingDown _ | ended => trivial

lemma standing_of_unowned (huo : task.owner = none) (s : Engine) : Standing s task := by
  cases task with
  | starting _ | queued _ | running _ _ _ _ => cases huo
  | cancelling _ | shuttingDown _ | ended => trivial

/-- A piece of a run at whose end the execution is not counted yet. -/
structure Advances (executionId : String) (before : Engine) (result : Engine × Task) : Prop where
  workflows : result.1.workflows = before.workflows
  standing : Standing result.1 result.2
  uncounted : ∀ status, result.1.statusOf executionId = some status → isEnded status = true →
    toBeCounted result.2 = some executionId

lemma Advances.after {m : Engine} {r : Engine × Task}
    (rs : Advances id m r) (hs : m.workflows = b.workflows) : Advances id b r :=
  ⟨rs.workflows.trans hs, rs.standing, rs.uncounted⟩

lemma not_isEnded_of_unfinished {s : Engine} (hu : Unfinished s id) {st : ExecutionStatus}
    (hf : s.statusOf id = some st) : isEnded st = false := by
  rcases hu with hr | hca
  · rw [hr] at hf
    cases hf
    rfl
  · rw [hca] at hf
    cases hf
    rfl

section

open Engine

variable {host : Host} {s : Engine} {id : String} {ss : List WorkflowStep}
  {ds : List Handler} {now : Int}

lemma workflows_updateExecution (s : Engine) (id : String)
    (change : WorkflowExecution → WorkflowExecution) :
    (s.updateExecution id change).workflows = s.workflows := by
  simp only [updateExecution]
  split <;> rfl

lemma advances_unfinished {t : Engine} {ts : Task}
    (hu : Unfinished t id) (ws : t.workflows = s.workflows)
    (hs : Standing t ts) : Advances id s (t, ts) := by
  refine ⟨ws, hs, ?_⟩
  intro st hf he
  rw [not_isEnded_of_unfinished hu hf] at he
  cases he

lemma advances_completeExecution (hp : (s.executions.get? id).isSome) :
    Advances id s (s.completeExecution id ss ds now) := by
  obtain ⟨e, hf⟩ := isSome_iff_exists.mp hp
  simp only [completeExecution, endExecution, hf]
  exact ⟨workflows_updateExecution _ _ _, statusOf_updateExecution hf _, fun _ _ _ => rfl⟩

lemma advances_failExecution (hp : (s.executions.get? id).isSome) (er : String) :
    Advances id s (s.failExecution id ss ds er now) := by
  obtain ⟨e, hf⟩ := isSome_iff_exists.mp hp
  simp only [failExecution, endExecution, hf]
  exact ⟨workflows_updateExecution _ _ _, statusOf_updateExecution hf _, fun _ _ _ => rfl⟩

lemma Unfinished.present (hu : Unfinished s id) : (s.executions.get? id).isSome := by
  rcases hu with st | st <;>
    · obtain ⟨e, hf, -⟩ := statusOf_eq_some_iff.mp st
      simp [hf]

lemma advances_startAction (hu : Unfinished s id) (st : WorkflowStep) :
    Advances id s (s.startAction id ss ds st) := by
  have hs : Unfinished (s.startAction id ss ds st).1 id := hu
  exact advances_unfinished hs rfl hs

lemma piece_advances (s : Engine) : Piece id ss now (fun _ => True)
    (fun m => Unfinished m id ∧ m.workflows = s.workflows) (Advances id s) where
  tail _ := trivial
  update hp hf := ⟨hp.1.imp (statusOf_updateExecution_same hf id).trans
    (statusOf_updateExecution_same hf id).trans, (workflows_updateExecution _ _ _).trans hp.2⟩
  missing hp _ := advances_unfinished hp.1 hp.2 trivial
  lost hp _ := advances_unfinished hp.1 hp.2 trivial
  complete _ hp := (advances_completeExecution hp.1.present).after hp.2
  fail _ _ hp := (advances_failExecution hp.1.present _).after hp.2
  delay _ hp _ := advances_unfinished hp.1 hp.2 hp.1
  act step hp _ := (advances_startAction hp.1 step).after hp.2

lemma advances_runExecution (hp : (s.executions.get? id).isSome) (now : Int) :
    Advances id s (s.runExecution id now) := by
  obtain ⟨e, hf⟩ := isSome_iff_exists.mp hp
  rw [runExecution, hf]
  dsimp only
  cases s.workflows.get? e.workflowId with
  | none => exact advances_failExecution hp _
  | some w =>
    have hr : Unfinished (s.updateExecution id fun e => { e with status := .running }) id :=
      .inl (statusOf_updateExecution hf _)
    exact advances_unfinished hr (workflows_updateExecution _ _ _) hr

end

section

variable {s : Engine} {wid id : String}

variable (s wid) in
lemma sum_belonging {M : Type} [AddCommMonoid M] (f : WorkflowExecution → M) :
    ((s.executionsOf wid).map f).sum = ∑ id ∈ (ids s).filter (belongs s wid ·),
        ((s.executions.get? id).map f).getD 0 := by
  have hi : ((s.executionsOf wid).map f).sum = (s.executions.values.map fun e =>
        if e.workflowId = wid then f e else 0).sum := by
    simp [Engine.executionsOf, List.sum_map_ite]
  rw [hi, sum_map_values, Finset.sum_filter]
  apply Finset.sum_congr rfl
  intro id _
  cases hf : s.executions.get? id with
  | none => simp
  | some e => simp [belongs, has, hf]

variable (s wid) in
lemma successful_eq_card : ((s.executionsOf wid).filter (·.status = .completed)).length =
      (((ids s).filter (belongs s wid ·)).filter (isCompleted s ·)).card := by
  have hi : ∀ l : List WorkflowExecution, (l.filter (·.status = .completed)).length =
      (l.map fun e => if e.status = .completed then 1 else 0).sum := by
    simp [List.sum_map_ite]
  rw [hi, sum_belonging, Finset.card_filter]
  apply Finset.sum_congr rfl
  intro id _
  cases hf : s.executions.get? id with
  | none | some _ => simp [isCompleted, has, hf]

variable (s wid) in
lemma totalDuration_eq_sum : (((s.executionsOf wid).filter (·.duration.getD 0 ≠ 0)).map
      fun e => (e.duration.getD 0 : ℚ)).sum =
      (∑ id ∈ (ids s).filter (belongs s wid ·), durationOf s id : ℤ) := by
  have hnz : ∀ l : List WorkflowExecution, ((l.filter (·.duration.getD 0 ≠ 0)).map fun e =>
        (e.duration.getD 0 : ℚ)).sum =
        (l.map fun e => (e.duration.getD 0 : ℚ)).sum := by
    intro l
    induction l with
    | nil => rfl
    | cons e l ih => by_cases h : e.duration.getD 0 = 0 <;> simpa [h] using ih
  rw [hnz, sum_belonging, Int.cast_sum]
  apply Finset.sum_congr rfl
  intro id _
  cases hf : s.executions.get? id with
  | none | some _ => simp [durationOf, hf]

/-- The executions of a workflow: the counted ones, the one to be counted, and the others. -/
lemma belonging_eq (own : belongs s wid id = true) : (ids s).filter (belongs s wid ·) =
      insert id (ended s wid) ∪ others s wid id := by
  ext id'
  simp only [others, Finset.mem_filter, Finset.mem_union, Finset.mem_insert, mem_ended,
    Bool.and_eq_true, decide_eq_true_eq, ne_eq, Bool.not_eq_true']
  constructor
  · rintro ⟨mem, hb⟩
    by_cases hs : id' = id
    · exact .inl (.inl hs)
    · cases hct : counts s wid id' with
      | true => exact .inl (.inr rfl)
      | false => exact .inr ⟨mem, ⟨hs, hb⟩, rfl⟩
  · rintro ((rfl | hct) | ⟨mem, ⟨-, hb⟩, -⟩)
    · exact ⟨mem_ids_of_has own, own⟩
    · simp only [counts, Bool.and_eq_true] at hct
      exact ⟨mem_ids_of_has hct.1.1, hct.1.1⟩
    · exact ⟨mem, hb⟩

lemma disjoint_others : Disjoint (insert id (ended s wid)) (others s wid id) := by
  rw [Finset.disjoint_left]
  intro id' mem x
  simp only [others, Finset.mem_filter, Bool.and_eq_true, decide_eq_true_eq, ne_eq,
    Bool.not_eq_true'] at x
  rcases Finset.mem_insert.mp mem with rfl | hct
  · exact x.2.1.1 rfl
  · rw [mem_ended, x.2.2] at hct
    cases hct

/-- An execution that has ended stops waiting, and nothing else changes for the executions. -/
structure Arrives (executionId : String) (before after : Engine) : Prop where
  executions : after.executions = before.executions
  hasEnded : has before executionId (isEnded ·.status) = true
  waited : waits before executionId = true
  arrived : waits after executionId = false
  untouched : ∀ other, other ≠ executionId → waits after other = waits before other

namespace Arrives

variable {t : Engine}

lemma not_mem_ended (har : Arrives id b t) : id ∉ ended b wid := by
  rw [mem_ended, not_counts_of_waits har.waited]
  exact Bool.false_ne_true

variable (har : Arrives id b t) (own : belongs b wid id = true)
include har own

lemma ended_eq : ended t wid = insert id (ended b wid) := by
  ext x
  rw [Finset.mem_insert, mem_ended, mem_ended]
  by_cases hs : x = id
  · subst hs
    have he := har.hasEnded
    rw [has] at he
    rw [belongs, has] at own
    simp [counts, belongs, has, har.executions, own, he, har.arrived]
  · simp [counts, belongs, has, har.executions, har.untouched x hs, hs]

lemma completed_eq : completed t wid = (insert id (ended b wid)).filter (isCompleted b ·) := by
  rw [completed, har.ended_eq own]
  apply Finset.filter_congr
  intro x _
  rw [isCompleted, isCompleted, has, has, har.executions]

lemma successful_eq : ((b.executionsOf wid).filter (·.status = .completed)).length =
      (completed t wid).card + ((others b wid id).filter (isCompleted b ·)).card := by
  rw [successful_eq_card, belonging_eq own, Finset.filter_union,
    Finset.card_union_of_disjoint (Finset.disjoint_filter_filter disjoint_others),
    har.completed_eq own]

lemma totalDuration_eq : (((b.executionsOf wid).filter (·.duration.getD 0 ≠ 0)).map
      fun e => (e.duration.getD 0 : ℚ)).sum = (∑ id' ∈ ended t wid, durationOf t id' +
        ∑ x ∈ others b wid id, durationOf b x : ℤ) := by
  rw [totalDuration_eq_sum, belonging_eq own, Finset.sum_union disjoint_others, har.ended_eq own]
  simp only [durationOf, har.executions]

/-- What the update computes describes the executions exactly if the others add nothing. -/
lemma describes_update_iff {an : WorkflowAnalytics} (ds : Describes b wid an) (now : Int) :
    Describes t wid (b.analyticsAfter wid an now) ↔ (∀ x ∈ others b wid id, !isCompleted b x) ∧
        ∑ x ∈ others b wid id, durationOf b x = 0 := by
  have hcn : an.executionCount + 1 = (ended t wid).card := by
    rw [har.ended_eq own, Finset.card_insert_of_notMem har.not_mem_ended, ds.executionCount]
  have hp : ((ended t wid).card : ℚ) ≠ 0 := by
    rw [← hcn]
    exact Nat.cast_ne_zero.mpr (Nat.succ_ne_zero _)
  have rate_iff : (((completed t wid).card +
        ((others b wid id).filter (isCompleted b ·)).card : ℕ) : ℚ) /
        (ended t wid).card * 100 =
      100 * (completed t wid).card / (ended t wid).card ↔
      ∀ x ∈ others b wid id, !isCompleted b x := by
    rw [div_mul_eq_mul_div, mul_comm, div_left_inj' hp,
      mul_right_inj' (OfNat.ofNat_ne_zero 100), Nat.cast_inj, Nat.add_eq_left,
      Finset.card_eq_zero, Finset.filter_eq_empty_iff]
    simp only [Bool.not_eq_true, Bool.not_eq_true']
  have average_iff : ((∑ id' ∈ ended t wid, durationOf t id' +
        ∑ x ∈ others b wid id, durationOf b x : ℤ) : ℚ) /
        (ended t wid).card =
      (∑ id' ∈ ended t wid, durationOf t id' : ℤ) / (ended t wid).card ↔
      ∑ x ∈ others b wid id, durationOf b x = 0 := by
    rw [div_left_inj' hp, Int.cast_inj, add_eq_left]
  have hc : b.analyticsAfter wid an now = ⟨(ended t wid).card,
        ((completed t wid).card + ((others b wid id).filter
          (isCompleted b ·)).card : ℕ) / (ended t wid).card * 100,
        (∑ id' ∈ ended t wid, durationOf t id' +
          ∑ x ∈ others b wid id, durationOf b x : ℤ) / (ended t wid).card, some now⟩ := by
    rw [Engine.analyticsAfter, har.successful_eq own, har.totalDuration_eq own, hcn]
  rw [← rate_iff, ← average_iff, hc]
  constructor
  · exact fun ⟨_, rate, average⟩ => ⟨rate, average⟩
  · exact fun ⟨rate, average⟩ => ⟨rfl, rate, average⟩

end Arrives

end

/-- Every run stands where its execution does, and the analytics are right. -/
structure Sound (engine : Engine) : Prop where
  owned : Owned engine
  standing : ∀ task ∈ engine.tasks, Standing engine task
  described : Described engine

section

open Engine

variable {host : Host} {s t : Engine} {id : String} {ix i : Nat} {now : Int} {e : WorkflowExecution}
  {task : Task} {wi wid : String} {l : Label}

/-- A cancel finds an execution that has not ended, and leaves one that has not. -/
lemma standing_cancelledAt (hs : ∀ task ∈ s.tasks, Standing s task)
    (hf : s.executions.get? id = some e) (hac : e.status.isActive) (now : Int) :
    ∀ task ∈ s.tasks, Standing (s.cancelledAt id now) task := by
  intro task mem
  have hst := hs task mem
  have b : s.statusOf id = some e.status := by
    rw [statusOf, hf]
    rfl
  have hca : (s.cancelledAt id now).statusOf id = some .cancelled := statusOf_updateExecution hf _
  by_cases own : task.owner = some id
  · cases task with
    | starting id' | queued id' =>
      cases own
      exact .inr hca
    | running id' steps ds aw =>
      cases own
      cases aw with
      | startPersist | delay _ | action _ | stepPersist => exact .inr hca
      | completePersist | failPersist =>
        rw [Standing, b, some.injEq] at hst
        rw [hst] at hac
        cases hac
      | analyticsPersist =>
        rw [Standing, b, some.injEq, some.injEq] at hst
        rcases hst with hst | hst <;>
          · rw [hst] at hac
            cases hac
    | cancelling _ | shuttingDown _ | ended => trivial
  · refine hst.of_status fun x ho => ?_
    have ne : some x ≠ some id := fun hsm => own (ho.trans hsm)
    exact (touches_updateExecution s id _).status x ne.symm

lemma tasks_cancelledAt (s : Engine) (id : String) (now : Int) :
    (s.cancelledAt id now).tasks = s.tasks :=
  (concerns_cancelledAt s id now).tasks

lemma not_isEnded_of_isActive {st : ExecutionStatus} (hac : st.isActive) : isEnded st = false := by
  cases st with
  | pending | running | cancelled => rfl
  | completed | failed => cases hac

lemma described_cancelledAt (hds : Described s) (hf : s.executions.get? id = some e)
    (hac : e.status.isActive) (now : Int) (ws : t.workflows = s.workflows)
    (es : t.executions = (s.cancelledAt id now).executions)
    (hwa : ∀ x, waits t x = waits s x) : Described t := by
  have hca : t.statusOf id = some .cancelled := by
    rw [statusOf, es]
    exact statusOf_updateExecution hf _
  intro wid w hst
  rw [ws] at hst
  refine describes_of_uncounted id ?_ (fun x _ => hwa x) ?_ ?_ (hds wid w hst)
  · intro x ne
    rw [es]
    exact (concerns_cancelledAt s id now).executions x ne
  · refine not_counts_of_unended fun st b => ?_
    rw [statusOf, hf] at b
    cases b
    exact not_isEnded_of_isActive hac
  · refine not_counts_of_unended fun st now => ?_
    rw [hca] at now
    cases now
    rfl

inductive Piece (executionId : String) (engine : Engine) (now : Int) (task : Task) :
    Except Thrown JsValue → Engine × Task → Prop where
  | advances {outcome : Except Thrown JsValue} {result : Engine × Task} :
      toBeCounted task = none →
      (∀ status, engine.statusOf executionId = some status → isEnded status = false) →
      Advances executionId engine result → Piece executionId engine now task outcome result
  | updates (value : JsValue) (steps : List WorkflowStep) (handlers : List Handler) :
      toBeCounted task = some executionId →
      Piece executionId engine now task (.ok value)
        (engine.updateWorkflowAnalytics executionId steps handlers now)
  | ends (value : JsValue) : toBeCounted task = none →
      Piece executionId engine now task (.ok value) (engine, .ended)

lemma piece_of_resumeTask {o : Except Thrown JsValue} {r : Engine × Task} (hs : Standing s task)
    (ho : task.owner = some id) (hp : (s.executions.get? id).isSome)
    (hf : s.tasks[i]? = some task) (hps : Persisted s (.resume i o now))
    (hr : s.resumeTask host now task o = some r) : Piece id s now task o r := by
  have hwa : ∀ st, s.statusOf id = some .pending ∨ s.statusOf id = some .cancelled →
      s.statusOf id = some st → isEnded st = false := by
    rintro st (b | b) now <;>
      · rw [b] at now
        cases now
        rfl
  cases task with
  | starting id' =>
    cases ho
    cases o with
    | error t =>
      rw [Persisted, hf] at hps
      cases hps
    | ok v =>
      cases hr
      refine .advances rfl (fun st => hwa st hs) ⟨rfl, hs, ?_⟩
      intro st now he
      rw [hwa st hs now] at he
      cases he
  | queued id' =>
    cases ho
    cases o with
    | error t => cases hr
    | ok v =>
      cases hr
      exact .advances rfl (fun st => hwa st hs) (advances_runExecution hp now)
  | running id' ss ds aw =>
    cases ho
    cases hfn : aw.isFinal with
    | false =>
      obtain ⟨hu, huc⟩ : Unfinished s id ∧ toBeCounted (.running id ss ds aw) = none := by
        cases aw with
        | startPersist | delay _ | action _ | stepPersist => exact ⟨hs, rfl⟩
        | completePersist | failPersist | analyticsPersist => cases hfn
      exact .advances huc (fun st => not_isEnded_of_unfinished hu)
        ((piece_advances s).continueRun trivial ⟨hu, rfl⟩ hfn
          (fun _ hp => advances_unfinished hp.1 hp.2 hp.1) hr)
    | true =>
      cases o with
      | error t =>
        rw [Persisted, hf] at hps
        cases aw with
        | action step => cases hfn
        | _ => cases hps
      | ok v =>
        cases aw with
        | completePersist | failPersist =>
          cases hr
          exact .updates v ss ds rfl
        | analyticsPersist =>
          cases hr
          exact .ends v rfl
        | startPersist | delay _ | action _ | stepPersist => cases hfn
  | cancelling id' | shuttingDown pos | ended => cases ho

lemma updateWorkflowAnalytics_spec (s : Engine) (id : String)
    (ss : List WorkflowStep) (ds : List Handler) (now : Int) :
    (s.updateWorkflowAnalytics id ss ds now).1.executions = s.executions ∧
    toBeCounted (s.updateWorkflowAnalytics id ss ds now).2 = none :=
  updateWorkflowAnalytics_rule
    (P := fun r => r.1.executions = s.executions ∧ toBeCounted r.2 = none) ⟨rfl, rfl⟩
    fun _ => ⟨rfl, rfl⟩

lemma isEnded_of_toBeCounted (hs : Standing s task) (hct : toBeCounted task = some id) :
    has s id (isEnded ·.status) = true := by
  have st : ∃ st, s.statusOf id = some st ∧ isEnded st = true := by
    cases task with
    | running id' steps ds aw =>
      cases aw with
      | completePersist =>
        cases hct
        exact ⟨.completed, hs, rfl⟩
      | failPersist =>
        cases hct
        exact ⟨.failed, hs, rfl⟩
      | startPersist | delay _ | action _ | stepPersist | analyticsPersist => cases hct
    | starting _ | queued _ | cancelling _ | shuttingDown _ | ended => cases hct
  obtain ⟨st, hf, he⟩ := st
  obtain ⟨e, hp, rfl⟩ := statusOf_eq_some_iff.mp hf
  exact has_iff.mpr ⟨e, hp, he⟩

lemma standing_updateWorkflowAnalytics (steps : List WorkflowStep) (ds : List Handler)
    (now : Int) (ends : has s id (isEnded ·.status) = true) :
    Standing (s.updateWorkflowAnalytics id steps ds now).1
      (s.updateWorkflowAnalytics id steps ds now).2 := by
  obtain ⟨e, hst, isEnded⟩ := has_iff.mp ends
  have st : s.statusOf id = some .completed ∨ s.statusOf id = some .failed := by
    rw [statusOf, hst]
    cases h : e.status with
    | completed => exact .inl (congrArg some h)
    | failed => exact .inr (congrArg some h)
    | pending | running | cancelled =>
      rw [h] at isEnded
      cases isEnded
  exact updateWorkflowAnalytics_rule (P := fun r => Standing r.1 r.2) trivial fun _ => st

section

variable {task : Task} {ss : List WorkflowStep} {xs ds : List Handler}

lemma Sound.arrives (sn : Sound s) (hf : s.tasks[i]? = some task)
    (hct : toBeCounted task = some id) : Arrives id s
      (setTask i (s.updateWorkflowAnalytics id ss ds now)) := by
  have hwo : RunsOn id ss s (s.updateWorkflowAnalytics id ss ds now) :=
    runsOn_updateWorkflowAnalytics s ds
  obtain ⟨es, next⟩ := updateWorkflowAnalytics_spec s id ss ds now
  have ho := owner_of_toBeCounted hct
  refine ⟨es, ?_, waits_iff.mpr ⟨i, task, hf, hct⟩, ?_, ?_⟩
  · exact isEnded_of_toBeCounted (sn.standing task (mem_of_getElem? hf)) hct
  · rw [waits_setTask_own sn.owned hf ho hwo.concerns.tasks, next]
    rfl
  · intro x ne
    refine waits_setTask_other hf hwo.concerns.tasks ?_ ?_
    · rw [hct]
      exact fun hs => ne (some.inj hs).symm
    · rw [next]
      rintro ⟨⟩

/-- The update leaves the analytics right exactly if it is careful. -/
lemma Sound.described_update_iff (sn : Sound s)
    (hf : s.tasks[i]? = some task) (hct : toBeCounted task = some id) :
    Described (setTask i (s.updateWorkflowAnalytics id ss xs now)) ↔ CarefulUpdate s id := by
  have har : Arrives id s (setTask i (s.updateWorkflowAnalytics id ss xs now)) := sn.arrives hf hct
  obtain ⟨e, hst, -⟩ := has_iff.mp har.hasEnded
  have hfr : ∀ wid w, wid ≠ e.workflowId → s.workflows.get? wid = some w →
      Describes (setTask i (s.updateWorkflowAnalytics id ss xs now)) wid w.analytics := by
    intro wid w ne hp
    have x : e.workflowId ≠ wid := Ne.symm ne
    refine describes_of_uncounted id (fun id' _ => by rw [har.executions])
      har.untouched ?_ ?_ (sn.described wid w hp)
    · simp [counts, belongs, has, hst, x]
    · simp [counts, belongs, has, har.executions, hst, x]
  have own : belongs s e.workflowId id = true := has_iff.mpr ⟨e, hst, decide_eq_true rfl⟩
  cases hp : s.workflows.get? e.workflowId with
  | none =>
    have hsm : (s.updateWorkflowAnalytics id ss xs now).1.workflows = s.workflows := by
      simp [updateWorkflowAnalytics, hst, hp]
    have hds : Described (setTask i (s.updateWorkflowAnalytics id ss xs now)) := by
      intro wid w hf
      rw [setTask, hsm] at hf
      refine hfr wid w ?_ hf
      rintro rfl
      rw [hp] at hf
      cases hf
    have hca : CarefulUpdate s id := by
      simp [CarefulUpdate, hst, hp]
    exact iff_of_true hds hca
  | some w =>
    have hu : (s.updateWorkflowAnalytics id ss xs now).1.workflows =
        s.workflows.set e.workflowId { w with
          analytics := s.analyticsAfter e.workflowId w.analytics now } := by
      simp [updateWorkflowAnalytics, hst, hp]
    have careful_iff : CarefulUpdate s id ↔ (∀ x ∈ others s e.workflowId id, !isCompleted s x) ∧
          ∑ x ∈ others s e.workflowId id, durationOf s x = 0 := by
      simp [CarefulUpdate, hst, hp]
    rw [careful_iff, ← har.describes_update_iff own (sn.described _ _ hp) now]
    constructor
    · intro hds
      refine hds e.workflowId { w with
        analytics := s.analyticsAfter e.workflowId w.analytics now } ?_
      rw [setTask, hu, get?_set, if_pos rfl]
    · intro ds wid w' hf
      rw [setTask, hu, get?_set] at hf
      split at hf
      · rename_i hsm
        cases hf
        exact hsm ▸ ds
      · rename_i ne
        exact hfr wid w' (Ne.symm ne) hf

variable {r : Engine × Task} (sn : Sound s) (hf : s.tasks[i]? = some task)
  (ho : task.owner = some id)
include sn hf ho

lemma Sound.standing_of_worksOn (hwo : WorksOn id s r) (stands : Standing r.1 r.2) :
    ∀ x ∈ (setTask i r).tasks, Standing (setTask i r) x := by
  intro x mem
  obtain ⟨j, at_j⟩ := getElem?_of_mem mem
  rw [setTask, hwo.concerns.tasks] at at_j
  rcases getElem?_set_cases at_j with ⟨-, rfl⟩ | ⟨ne, old⟩
  · exact stands.of_status fun _ _ => rfl
  · refine (sn.standing x (mem_of_getElem? old)).of_status fun id' owner' => ?_
    have foreign : id' ≠ id := by
      rintro rfl
      exact ne (sn.owned.unique j i x task id' old hf owner' ho)
    exact congrArg _ (hwo.concerns.executions id' foreign)

lemma Sound.described_of_advances (hwo : WorksOn id s r) (huc : toBeCounted task = none)
    (hu : ∀ st, s.statusOf id = some st → isEnded st = false) (ha : Advances id s r) :
    Described (setTask i r) := by
  intro wid w hst
  rw [setTask, ha.workflows] at hst
  refine describes_of_uncounted id ?_ ?_ (not_counts_of_unended hu) ?_ (sn.described wid w hst)
  · exact hwo.concerns.executions
  · intro x ne
    refine waits_setTask_other hf hwo.concerns.tasks ?_ ?_
    · rw [huc]
      rintro ⟨⟩
    · exact fun next => ne (hwo.owner x (owner_of_toBeCounted next))
  · by_cases next : toBeCounted r.2 = some id
    · refine not_counts_of_waits ?_
      rw [waits_setTask_own sn.owned hf ho hwo.concerns.tasks]
      exact decide_eq_true next
    · refine not_counts_of_unended fun st now => ?_
      by_contra ends
      exact next (ha.uncounted st now (by simpa using ends))

/-- A piece of work keeps the analytics right if an update, should there be one, is careful. -/
lemma Sound.resume {o : Except Thrown JsValue} (hr : s.resumeTask host now task o = some r)
    (hps : Persisted s (.resume i o now)) (hca : Careful s (.resume i o now)) :
    Sound (setTask i r) := by
  have mem := mem_of_getElem? hf
  have hwo := worksOn_resumeTask ho hr
  have hp := piece_of_resumeTask (sn.standing task mem) ho
    (sn.owned.present task mem id ho) hf hps hr
  refine ⟨sn.owned.step (.resumed hf ho hr), ?_, ?_⟩
  · refine sn.standing_of_worksOn hf ho hwo ?_
    cases hp with
    | advances huc hu advances => exact advances.standing
    | updates v ss ds hct =>
      exact standing_updateWorkflowAnalytics ss ds now
        (isEnded_of_toBeCounted (sn.standing task mem) hct)
    | ends v huc => trivial
  · cases hp with
    | advances huc hu advances =>
      exact sn.described_of_advances hf ho hwo huc hu advances
    | updates v ss ds hct =>
      refine (sn.described_update_iff hf hct).mpr (hca id ?_)
      rw [hf]
      exact hct
    | ends v huc =>
      exact described_of_same sn.described (fun _ _ h => h) rfl (waits_setTask_ended hf huc)

end

lemma Sound.start (sn : Sound s) {tid : String} {ctx : Context} {pf : Option String} (w : Workflow)
    (hfr : s.executions.get? id = none) : Sound (addTask ({ s with
      executions := s.executions.set id
        (newExecution id wid tid w ctx pf now) }, .starting id)) := by
  have hpe : ∀ tasks, statusOf { s with
      tasks := tasks
      executions := s.executions.set id (newExecution id wid tid w ctx pf now) }
      id = some .pending := by
    simp [statusOf, get?_set, newExecution]
  refine ⟨sn.owned.start _ hfr, ?_, ?_⟩
  · refine forall_append ?_ (.inl (hpe _))
    intro task mem
    refine (sn.standing task mem).of_status fun x ho => ?_
    have ne : id ≠ x := by
      rintro rfl
      have hst := sn.owned.present task mem id ho
      rw [hfr] at hst
      cases hst
    simp [addTask, statusOf, get?_set, ne]
  · intro id' wo hf
    refine describes_of_uncounted id ?_ ?_ ?_ ?_ (sn.described id' wo hf)
    · intro x ne
      exact (get?_set _ _ _ _).trans (if_neg ne.symm)
    · intro x _
      exact waits_addTask rfl rfl x
    · refine not_counts_of_unended fun st b => ?_
      rw [statusOf, hfr] at b
      cases b
    · refine not_counts_of_unended fun st now => ?_
      rw [addTask, hpe] at now
      cases now
      rfl

lemma describes_initialAnalytics (hu : ∀ id ∈ ids s, !belongs s wi id) :
    Describes s wi initialAnalytics := by
  have none : ended s wi = ∅ := by
    refine Finset.filter_eq_empty_iff.mpr fun id mem c => ?_
    simp only [counts, Bool.and_eq_true] at c
    have hf := hu id mem
    rw [c.1.1] at hf
    cases hf
  have none' : completed s wi = ∅ := by
    rw [completed, none, Finset.filter_empty]
  constructor <;> simp [initialAnalytics, none, none']

/-- The analytics of a stored workflow are the ones it had, or start from nothing. -/
lemma describes_of_persisted (hds : Described s)
    {w : Workflow} (hps : Persisted s (.storeWorkflow wid w)) : Describes s wid w.analytics := by
  simp only [Persisted] at hps
  cases hf : s.workflows.get? wid with
  | none =>
    rw [hf] at hps
    rw [hps.1]
    exact describes_initialAnalytics hps.2
  | some wo =>
    rw [hf] at hps
    rw [hps]
    exact hds wid wo hf

lemma Sound.of_workflows (sn : Sound s) {workflows : OrderedMap String Workflow}
    (described : ∀ id w, workflows.get? id = some w →
      Describes s id w.analytics) : Sound { s with workflows := workflows } where
  owned := sn.owned.of_present rfl fun _ h => h
  standing task mem := (sn.standing task mem).of_status fun _ _ => rfl
  described id w hf := by
    refine describes_congr ?_ ?_ (described id w hf)
    · exact fun _ => rfl
    · exact fun _ _ => rfl

lemma Sound.step (sn : Sound s) (hps : Persisted s l)
    (hca : Careful s l) (he : Effect host s l t) : Sound t := by
  have ho := sn.owned.step he
  cases he with
  | refused => exact sn
  | stored wid w =>
    refine sn.of_workflows fun id stored hf => ?_
    rw [get?_set] at hf
    split at hf
    · rename_i hs
      cases hf
      exact hs ▸ describes_of_persisted sn.described hps
    · exact sn.described id stored hf
  | deleted wid =>
    exact sn.of_workflows fun id stored hf => sn.described id stored (get?_of_filter hf)
  | started hf hfr => exact sn.start _ hfr
  | cancelled hf hac huo =>
    refine ⟨ho, ?_, ?_⟩
    · refine forall_append ?_ (standing_of_unowned huo _)
      rw [tasks_cancelledAt]
      exact standing_cancelledAt sn.standing hf hac _
    · exact described_cancelledAt sn.described hf hac _ (workflows_updateExecution _ _ _) rfl
        (waits_addTask (tasks_cancelledAt _ _ _) (toBeCounted_of_unowned huo))
  | idle =>
    exact ⟨ho,
      forall_append (fun task mem => (sn.standing task mem).of_status fun _ _ => rfl) trivial,
      described_of_same sn.described (fun _ _ h => h) rfl (waits_addTask rfl rfl)⟩
  | stopped hf huo =>
    exact ⟨ho,
      forall_set (fun task mem => (sn.standing task mem).of_status fun _ _ => rfl) _ trivial,
      described_of_same sn.described (fun _ _ h => h) rfl
        (waits_setTask_ended hf (toBeCounted_of_unowned huo))⟩
  | cancelledNext hf huo stored hac hu' =>
    refine ⟨ho, ?_, ?_⟩
    · refine forall_set ?_ _ (standing_of_unowned hu' _)
      rw [tasks_cancelledAt]
      exact standing_cancelledAt sn.standing stored hac _
    · refine described_cancelledAt sn.described stored hac _
        (workflows_updateExecution _ _ _) rfl fun x => ?_
      refine waits_setTask_other hf (tasks_cancelledAt _ _ _) ?_ ?_
      · rw [toBeCounted_of_unowned huo]
        exact fun none => nomatch none
      · rw [toBeCounted_of_unowned hu']
        exact fun none => nomatch none
  | resumed hf how resumed => exact sn.resume hf how resumed hps hca

lemma Sound.careful (sn : Sound s) (hs : s.step host l = some t) (hds : Described t) :
    Careful s l := by
  cases l with
  | resume i o now =>
    cases o with
    | error thrown => trivial
    | ok v =>
      intro id hct
      obtain ⟨task, hf, hwa⟩ := bind_eq_some_iff.mp hct
      simp only [Engine.step, hf] at hs
      cases task with
      | running id' steps handlers aw =>
        cases aw with
        | completePersist | failPersist =>
          cases hwa
          cases hs
          exact (sn.described_update_iff hf rfl).mp hds
        | startPersist | delay _ | action _ | stepPersist | analyticsPersist => cases hwa
      | starting _ | queued _ | cancelling _ | shuttingDown _ | ended => cases hwa
  | storeWorkflow _ _ | deleteWorkflow _ | executeWorkflow _ _ _ _ _ _ | cancelExecution _ _
  | shutdown _ => trivial

end

/-- From executions and analytics that agree, every run of careful steps keeps the analytics
right, and the first update that is not careful leaves them wrong. -/
theorem described_iff_careful {host : Host} {workflows : OrderedMap String Workflow}
    {executions : OrderedMap String WorkflowExecution} {labels : List Label} {engine : Engine}
    (loaded : Described (Engine.loaded workflows executions)) (run : Run (Engine.step host)
      (fun engine label => Persisted engine label ∧ Careful engine label)
      (Engine.loaded workflows executions) labels engine) :
    Described engine ∧ ∀ label after, Persisted engine label →
      engine.step host label = some after → (Described after ↔ Careful engine label) := by
  have hsn := run.invariant Sound (fun _ _ _ hsn ok hs => hsn.step ok.1 ok.2 (effect_of_step hs))
    ⟨.loaded workflows executions, fun _ mem => (nomatch mem), loaded⟩
  refine ⟨hsn.described, fun label after hp hs => ?_⟩
  constructor
  · exact hsn.careful hs
  · exact fun hc => (hsn.step hp hc (effect_of_step hs)).described

open WorkflowCancellation (plainHost billing start settle reject)

lemma described_billing : Described billing := by
  intro wid w hf
  have hi : w.analytics = initialAnalytics := by
    rw [billing, Engine.loaded, get?_set] at hf
    split at hf <;> cases hf
    rfl
  rw [hi]
  exact describes_initialAnalytics fun _ mem => nomatch mem

/-- One charge fails, the next one succeeds. -/
theorem twoCharges_are_described : ∃ engine,
    Run (Engine.step plainHost) (fun engine label => Persisted engine label ∧ Careful engine label)
      billing [start "e1" 0, settle 0 1, settle 0 2, settle 0 3, reject 0 4, settle 0 5, settle 0 6,
        start "e2" 10, settle 1 11, settle 1 12, settle 1 13, settle 1 14, settle 1 15, settle 1 16]
      engine ∧ (engine.workflows.get? "billing").map (·.analytics) = some ⟨2, 50, 9 / 2, some 16⟩ ∧
    Described engine :=
  exists_run (by decide +kernel) fun _ run _ => (described_iff_careful described_billing run).1

/-- The first execution is cancelled after five milliseconds while its action is still under
way, the second one completes in five. The average says ten. -/
theorem cancelledCharge_adds_to_average : ∃ engine, Run (Engine.step plainHost) Persisted billing
      [start "e1" 0, settle 0 1, settle 0 2, settle 0 3, .cancelExecution "e1" 5,
        start "e2" 10, settle 2 11, settle 2 12, settle 2 13, settle 2 14, settle 2 15, settle 2 16]
      engine ∧ (∀ task ∈ engine.tasks, toBeCounted task = none) ∧
    (engine.workflows.get? "billing").map (·.analytics) = some ⟨1, 100, 10, some 16⟩ ∧
    ended engine "billing" = {"e2"} ∧ durationOf engine "e2" = 5 ∧ ¬ Described engine := by
  refine exists_run_of_seen (fun engine => (∀ task ∈ engine.tasks, toBeCounted task = none) ∧
    (engine.workflows.get? "billing").map (·.analytics) = some ⟨1, 100, 10, some 16⟩ ∧
    ended engine "billing" = {"e2"} ∧ durationOf engine "e2" = 5) (by decide +kernel) ?_
  rintro engine - ⟨ht, analytics, c, hdr⟩
  refine ⟨ht, analytics, c, hdr, fun hds => ?_⟩
  obtain ⟨w, hf, s⟩ := map_eq_some_iff.mp analytics
  have ha := (hds "billing" w hf).averageExecutionTime
  rw [s, c, Finset.sum_singleton, hdr] at ha
  exact absurd ha (by decide +kernel)

end WorkflowAnalytics
