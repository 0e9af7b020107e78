import Optimizely.TaskLists
import Optimizely.TransitionRuns
import Optimizely.WorkflowStatus

/-!
# Executions that have ended

`runExecution`, `executeStep`, `completeExecution` and `failExecution` never look at the status they
overwrite. A cancelled execution stays cancelled only if no run of it is queued or suspended, and a
failed last write must not reach a `try` block that takes the execution up again.
-/

namespace WorkflowCancellation

open TransitionRuns TaskLists WorkflowEngine List Option Engine

/-- Every task stands where the status of its execution says, and no execution is
worked on by two tasks. -/
structure Consistent (engine : Engine) : Prop where
  fits : ∀ (i : Nat) (task : Task), engine.tasks[i]? = some task → task.Fits engine
  unique : ∀ (i j : Nat) (task task' : Task) (executionId : String),
    engine.tasks[i]? = some task → engine.tasks[j]? = some task' →
    task.owner = some executionId → task'.owner = some executionId → i = j

/-- No run of the execution is queued or suspended. -/
def Idle (engine : Engine) (executionId : String) : Prop :=
  ∀ task ∈ engine.tasks, task.owner ≠ some executionId

deriving instance Decidable for Idle

def CarefulResume (engine : Engine) : Option Task → Except Thrown JsValue → Prop
  | some (.shuttingDown position), .ok _ =>
    ∀ found ∈ engine.nextToCancel position, Idle engine found.2
  | some (.running executionId _ handlers awaiting), .error _ =>
    awaiting.isFinal → engine.settlesQuietly executionId handlers
  | _, _ => True

instance (engine : Engine) (task : Option Task) (outcome : Except Thrown JsValue) :
    Decidable (CarefulResume engine task outcome) := by
  unfold CarefulResume
  split <;> infer_instance

/-- Only idle executions are cancelled, and a rejected write of an execution that has
ended settles quietly. -/
def Careful (engine : Engine) : Label → Prop
  | .cancelExecution executionId _ =>
    (engine.statusOf executionId).any (·.isActive) → Idle engine executionId
  | .shutdown _ => ∀ found ∈ engine.nextToCancel 0, Idle engine found.2
  | .resume index outcome _ => CarefulResume engine engine.tasks[index]? outcome
  | _ => True

instance (engine : Engine) (label : Label) : Decidable (Careful engine label) := by
  unfold Careful
  split <;> infer_instance

namespace Consistent

lemma loaded (ws : OrderedMap String Workflow) (es : OrderedMap String WorkflowExecution) :
    Consistent (loaded ws es) := by
  constructor
  · intro i task hf
    cases hf
  · intro i j task task' id hf
    cases hf

lemma of_touches_none {b t : Engine} (hc : Consistent b)
    (hto : Touches none b t) : Consistent t := by
  constructor
  · intro i task hf
    rw [hto.tasks] at hf
    exact (hc.fits i task hf).of_touches hto (by simp)
  · intro i j task t' id hf hf'
    rw [hto.tasks] at hf hf'
    exact hc.unique i j task t' id hf hf'

variable {s : Engine} {r : Engine × Task} {id : String} {t : Option String} (hc : Consistent s)
include hc

lemma idle_of_absent (hab : s.statusOf id = none) : Idle s id := by
  intro task mem ho
  obtain ⟨i, hf⟩ := getElem?_of_mem mem
  have hft := hc.fits i task hf
  cases task with
  | starting id' | queued id' =>
    cases ho
    exact absurd (hab.symm.trans hft) (by simp)
  | running id' steps ds aw =>
    cases ho
    obtain ⟨st, hp, _⟩ := hft
    exact absurd (hab.symm.trans hp) (by simp)
  | cancelling _ | shuttingDown _ | ended => cases ho

/-- One task is set or added, and the owners of the others are left alone. -/
lemma of_tasks {ts : List Task} {j : Nat} (leads : LeadsTo t s r)
    (cases : ∀ (i : Nat) (task : Task), ts[i]? = some task → (i = j ∧ task = r.2) ∨
      s.tasks[i]? = some task ∧ ∀ id, task.owner = some id → t ≠ some id) :
    Consistent { r.1 with tasks := ts } where
  fits i task hf := by
    rcases cases i task hf with ⟨rfl, rfl⟩ | ⟨old, free⟩
    · exact leads.fits
    · have hk := (hc.fits i task old).of_touches leads.touches free
      exact hk
  unique := by
    refine unique_of_cases hc.unique fun i task hf => (cases i task hf).imp_right ?_
    exact fun ⟨old, free⟩ => ⟨old, fun id owned new => free id owned (leads.owner id new)⟩

lemma setTask (index : Nat) (leads : LeadsTo t s r)
    (free : ∀ (i : Nat) (task : Task), s.tasks[i]? = some task → i ≠ index →
      ∀ id, task.owner = some id → t ≠ some id) : Consistent (Engine.setTask index r) := by
  rw [Engine.setTask, leads.touches.tasks]
  exact hc.of_tasks leads fun i task hf => (getElem?_set_cases hf).imp_right
    fun ⟨ne, old⟩ => ⟨old, free i task old ne⟩

lemma setTask_own {ix : Nat} {t : Task} (hp : s.tasks[ix]? = some t)
    (ho : t.owner = some id) (ls : LeadsTo (some id) s r) : Consistent (Engine.setTask ix r) := by
  refine hc.setTask ix ls fun i t' hf ne executionId' ho' hs => ?_
  cases hs
  exact ne (hc.unique i ix t' t id hf hp ho' ho)

lemma setTask_ended (i : Nat) : Consistent (Engine.setTask i (s, .ended)) :=
  hc.setTask i (leadsTo_ended none s) fun _ _ _ _ _ _ h => nomatch h

lemma addTask (leads : LeadsTo t s r) (free : ∀ id, t = some id → Idle s id) :
    Consistent (Engine.addTask r) := by
  rw [Engine.addTask, leads.touches.tasks]
  exact hc.of_tasks leads fun i task hf => (getElem?_append_cases hf).imp_right
    fun old => ⟨old, fun id owned own => free id own task (mem_of_getElem? old) owned⟩

end Consistent

section

variable {host : Host} {s t : Engine} {st : ExecutionStatus}

lemma not_isTerminal_of_isActive (hac : st.isActive) : st.isTerminal = false := by
  cases st <;> first | rfl | cases hac

variable {id : String} {now : Int}

lemma cancelledAt_keeps (now : Int) (hf : s.statusOf id = some st) (hac : st.isActive) :
    KeepsEnded s (s.cancelledAt id now) :=
  keepsEnded_of_unfinished (touches_cancelledAt s id now) hf (not_isTerminal_of_isActive hac)

lemma continueShutdown_keeps {pos : Nat} (now : Int)
    (hca : ∀ f ∈ s.nextToCancel pos, Idle s f.2) :
    ∃ tc, LeadsTo tc s (s.continueShutdown pos now) ∧ KeepsEnded s (s.continueShutdown pos now).1 ∧
      ∀ id, tc = some id → Idle s id := by
  rw [continueShutdown]
  cases next : s.nextToCancel pos with
  | none => exact ⟨none, leadsTo_ended _ _, .refl _, fun _ h => nomatch h⟩
  | some f =>
    obtain ⟨e, hst, hac⟩ := active_of_nextToCancel next
    have hp := statusOf_eq_some_iff.mpr ⟨e, hst, rfl⟩
    have hto := touches_cancelledAt s f.2 now
    refine ⟨some f.2, ⟨hto, trivial, fun _ h => nomatch h⟩, cancelledAt_keeps now hp hac, ?_⟩
    intro id hs
    cases hs
    exact hca f next

section

variable (hc : Consistent s)
include hc

lemma resumeTask_keeps {ix : Nat} {ts : Task} {o : Except Thrown JsValue}
    {r : Engine × Task} (hp : s.tasks[ix]? = some ts) (hca : CarefulResume s (some ts) o)
    (hr : s.resumeTask host now ts o = some r) :
    Consistent (Engine.setTask ix r) ∧ KeepsEnded s (Engine.setTask ix r) := by
  have hft := hc.fits ix ts hp
  have hs : Consistent (Engine.setTask ix (s, .ended)) ∧
      KeepsEnded s (Engine.setTask ix (s, .ended)) :=
    ⟨hc.setTask_ended ix, KeepsEnded.refl s⟩
  cases ts with
  | starting id =>
    cases o with
    | error t =>
      cases hr
      exact hs
    | ok v =>
      cases hr
      have hl : LeadsTo (some id) s (s, .queued id) := ⟨.refl _ _, hft, fun _ h => h⟩
      exact ⟨hc.setTask_own hp rfl hl, KeepsEnded.refl s⟩
  | queued id =>
    cases o with
    | error t => cases hr
    | ok v =>
      cases hr
      have hl := leadsTo_runExecution hft now
      have hk := keepsEnded_of_unfinished hl.touches hft rfl
      exact ⟨hc.setTask_own hp rfl hl, hk.setTask⟩
  | running id steps ds aw =>
    obtain ⟨st, hf, ha⟩ := hft
    have hqu : ∀ t, o = .error t → aw.isFinal → s.settlesQuietly id ds := by
      rintro t rfl
      exact hca
    obtain ⟨hl, hk⟩ := continueRun_keeps hr hf ha hqu
    exact ⟨hc.setTask_own hp rfl hl, hk.setTask⟩
  | cancelling id =>
    cases hr
    exact hs
  | shuttingDown pos =>
    cases o with
    | error t =>
      cases hr
      exact hs
    | ok v =>
      cases hr
      obtain ⟨touched, hl, hk, hi⟩ := continueShutdown_keeps now hca
      refine ⟨hc.setTask ix hl fun i t' hf _ id ho own => ?_, hk.setTask⟩
      exact hi id own t' (mem_of_getElem? hf) ho
  | ended => cases hr

lemma executeWorkflow_keeps {wid tid : String} {ctx : Context}
    {pf : Option String} (hs : s.step host (.executeWorkflow id wid tid ctx pf now) = some t) :
    Consistent t ∧ KeepsEnded s t := by
  rw [step] at hs
  cases hf : s.workflows.get? wid with
  | none =>
    rw [hf] at hs
    cases hs
    exact ⟨hc, .refl _⟩
  | some w =>
    rw [hf] at hs
    dsimp only at hs
    split at hs
    · cases hs
      exact ⟨hc, .refl _⟩
    · split at hs
      · cases hs
      · rename_i hfr
        cases hs
        have hab : s.statusOf id = none := by
          simpa [statusOf] using hfr
        have hto := touches_setExecution s id (newExecution id wid tid w ctx pf now)
        refine ⟨hc.addTask ⟨hto, ?_, fun _ h => h⟩ ?_, ?_⟩
        · simp [Task.Fits, statusOf, OrderedMap.get?_set, newExecution]
        · intro x hsm
          cases hsm
          exact hc.idle_of_absent hab
        · refine KeepsEnded.addTask (keepsEnded_of_touches hto fun st hp _ => ?_)
          exact absurd (hab.symm.trans hp) (by simp)

lemma workflows_keeps (workflows : OrderedMap String Workflow) :
    Consistent { s with workflows := workflows } ∧
      KeepsEnded s { s with workflows := workflows } := by
  have hto : Touches none s { s with workflows := workflows } :=
    ⟨fun _ _ => rfl, fun _ _ => rfl, rfl⟩
  exact ⟨hc.of_touches_none hto, keepsEnded_of_touches_none hto⟩

lemma cancelExecution_keeps (hca : Careful s (.cancelExecution id now))
    (hs : s.step host (.cancelExecution id now) = some t) : Consistent t ∧ KeepsEnded s t := by
  rw [step] at hs
  cases hf : s.executions.get? id with
  | none =>
    rw [hf] at hs
    cases hs
    exact ⟨hc, .refl _⟩
  | some e =>
    rw [hf] at hs
    dsimp only at hs
    have hp : s.statusOf id = some e.status := statusOf_eq_some_iff.mpr ⟨e, hf, rfl⟩
    split at hs
    · rename_i hac
      cases hs
      have hi : Idle s id := hca (by simp [hp, hac])
      have hto := touches_cancelledAt s id now
      refine ⟨hc.addTask ⟨hto, trivial, fun _ h => nomatch h⟩ ?_,
        KeepsEnded.addTask (cancelledAt_keeps now hp hac)⟩
      intro x hsm
      cases hsm
      exact hi
    · cases hs
      exact ⟨hc, .refl _⟩

lemma step_keeps {l : Label} (hca : Careful s l) (hs : s.step host l = some t) :
    Consistent t ∧ KeepsEnded s t := by
  cases l with
  | storeWorkflow _ _ | deleteWorkflow _ =>
    cases hs
    exact workflows_keeps hc _
  | executeWorkflow id wid triggerId context platform now =>
    exact executeWorkflow_keeps hc hs
  | cancelExecution id now => exact cancelExecution_keeps hc hca hs
  | shutdown now =>
    cases hs
    obtain ⟨touched, ls, hk, hi⟩ := continueShutdown_keeps now hca
    exact ⟨hc.addTask ls hi, hk.addTask⟩
  | resume i o now =>
    obtain ⟨task, hp, hmo⟩ := bind_eq_some_iff.mp hs
    obtain ⟨r, hr, rfl⟩ := map_eq_some_iff.mp hmo
    have hc' : CarefulResume s (some task) o := hp ▸ hca
    exact resumeTask_keeps hc hp hc' hr

end

lemma run_keeps {b : Engine} {ls : List Label} (hc : Consistent b)
    (run : Run (step host) Careful b ls t) : Consistent t ∧ KeepsEnded b t := by
  have hp : ∀ s l next, Consistent s → Careful s l → s.step host l = some next → Consistent next :=
    fun _ _ _ hc hca hs => (step_keeps hc hca hs).1
  refine ⟨run.invariant Consistent hp hc, ?_⟩
  exact run.relates Consistent KeepsEnded KeepsEnded.refl (fun _ _ _ => KeepsEnded.trans) hp
    (fun _ _ _ hc hca hs => (step_keeps hc hca hs).2) hc

end

/-- No action was started and no task has moved. -/
def SameWork (before after : Engine) : Prop :=
  after.actions = before.actions ∧ after.tasks = before.tasks

lemma SameWork.refl (s : Engine) : SameWork s s := ⟨rfl, rfl⟩

/-- The execution is not cancelled any more, or an action of it was started, or a timer
is running at whose end one is started. -/
def Escapes (executionId : String) (before : Engine) (result : Engine × Task) : Prop :=
  result.1.statusOf executionId ≠ some .cancelled ∨
    result.1.actionsOf executionId ≠ before.actionsOf executionId ∨
    SameWork before result.1 ∧
      ∃ steps handlers step, result.2 = .running executionId steps handlers (.delay step)

section

variable {host : Host} {id : String} {stp : List WorkflowStep} {now : Int} {bf s : Engine}
  {st : ExecutionStatus}

lemma sameWork_updateExecution (hs : SameWork bf s)
    (id : String) (change : WorkflowExecution → WorkflowExecution) :
    SameWork bf (s.updateExecution id change) := by
  rw [updateExecution]
  cases s.executions.get? id with
  | none | some _ => exact hs

lemma actionsOf_startAction_ne (hs : SameWork bf s)
    (ss : List WorkflowStep) (ds : List Handler) (st : WorkflowStep) :
    (s.startAction id ss ds st).1.actionsOf id ≠ bf.actionsOf id := by
  simp [startAction, actionsOf, hs.1]

lemma escapes_completeExecution (hf : s.statusOf id = some st) (ds : List Handler) :
    Escapes id bf (s.completeExecution id stp ds now) := by
  left
  rw [statusOf_completeExecution hf]
  decide

lemma escapes_failExecution (hf : s.statusOf id = some st) (ds : List Handler) (e : String) :
    Escapes id bf (s.failExecution id stp ds e now) := by
  left
  rw [statusOf_failExecution hf]
  decide

variable {ds : List Handler} {i : Nat} {r : Engine × Task} {task : Task}

/-- Whatever a rejection unwinds, it ends in a handler that does not look at the
status. -/
lemma piece_escapes (b : Engine) : Piece id stp now (.run ∈ ·)
    (fun m => SameWork b m ∧ ∃ st, m.statusOf id = some st) (Escapes id b) where
  tail := Handler.run_mem_of_step_cons
  update hp hf := ⟨sameWork_updateExecution hp.1 _ _,
    hp.2.imp fun _ => (statusOf_updateExecution_same hf id).trans⟩
  missing := by
    rintro m ⟨-, st, hs⟩ hf
    simp [statusOf, hf] at hs
  lost _ hh := nomatch hh
  complete ds hp := hp.2.elim fun _ hs => escapes_completeExecution hs ds
  fail ds _ hp := hp.2.elim fun _ hs => escapes_failExecution hs ds _
  delay step hp _ := .inr (.inr ⟨hp.1, _, _, step, rfl⟩)
  act step hp _ := .inr (.inl (actionsOf_startAction_ne hp.1 _ _ step))

lemma step_resume {o : Except Thrown JsValue} (hp : s.tasks[i]? = some task)
    (hr : s.resumeTask host now task o = some r) :
    s.step host (.resume i o now) = some (setTask i r) := by
  simp [step, hp, hr]

lemma getElem?_setTask (hp : s.tasks[i]? = some task) (ht : r.1.tasks = s.tasks) :
    (setTask i r).tasks[i]? = some r.2 := by
  obtain ⟨hin, _⟩ := List.getElem?_eq_some_iff.mp hp
  simp [setTask, ht, hin]

end

section

variable {host : Host} {id : String} {ca : Engine} {t : Engine} {b s : Engine} {i : Nat}
  {now : Int} {task : Task}

lemma not_keepsEnded_of_status (hf : b.statusOf id = some .cancelled)
    (c : t.statusOf id ≠ some .cancelled) : ¬ KeepsEnded b t :=
  fun hk => c (hk id .cancelled hf rfl).1

lemma not_keepsEnded_of_actions (hf : b.statusOf id = some .cancelled)
    (hs : t.actionsOf id ≠ b.actionsOf id) : ¬ KeepsEnded b t :=
  fun hk => hs ((hk id .cancelled hf rfl).2 rfl)

lemma breaks_of_escapes {o : Except Thrown JsValue}
    {r : Engine × Task} (hf : ca.statusOf id = some .cancelled) (hp : ca.tasks[i]? = some task)
    (hr : ca.resumeTask host now task o = some r) (he : Escapes id ca r) :
    ∃ ls last, Run (step host) Always ca ls last ∧ ¬ KeepsEnded ca last := by
  have first : Run (step host) Always ca [.resume i o now]
      (setTask i r) := .single trivial (step_resume hp hr)
  rcases he with c | hsta | ⟨same, steps, ds, step, hdl⟩
  · exact ⟨_, _, first, not_keepsEnded_of_status hf c⟩
  · exact ⟨_, _, first, not_keepsEnded_of_actions hf hsta⟩
  · have hwa := getElem?_setTask hp same.2
    rw [hdl] at hwa
    have hfr : (setTask i r).resumeTask host now
        (.running id steps ds (.delay step)) (.ok .undefined) =
        some ((setTask i r).startAction id steps ds step) := rfl
    refine ⟨_, _, first.snoc trivial (step_resume hwa hfr), ?_⟩
    exact not_keepsEnded_of_actions hf (actionsOf_startAction_ne same steps ds step)

lemma runExecution_escapes (hf : ca.statusOf id = some .cancelled)
    (now : Int) : Escapes id ca (ca.runExecution id now) := by
  obtain ⟨e, hp, _⟩ := statusOf_eq_some_iff.mp hf
  rw [runExecution, hp]
  dsimp only
  cases ca.workflows.get? e.workflowId with
  | none => exact escapes_failExecution hf _ _
  | some w =>
    left
    rw [statusOf_updateExecution hp]
    simp

lemma resumeTask_queued (host : Host) (s : Engine) (id : String) :
    s.resumeTask host 0 (.queued id) (.ok .undefined) = some (s.runExecution id 0) := rfl

lemma resumeTask_rejected (host : Host) (s : Engine) (id : String)
    (ss : List WorkflowStep) (ds : List Handler) (aw : Await) : (∃ st, aw = .delay st) ∨
      ∀ t, s.resumeTask host 0 (.running id ss ds aw) (.error t) =
          some (throwTo host id ss 0 ds t s) := by
  cases aw with
  | delay st => exact .inl ⟨st, rfl⟩
  | _ => exact .inr fun _ => rfl

/-- A run that is queued or suspended goes on after its execution was cancelled. -/
lemma owner_breaks (hf : ca.statusOf id = some .cancelled)
    (hp : ca.tasks[i]? = some task) (ho : task.owner = some id)
    (hu : ∀ steps ds aw, task = .running id steps ds aw →
      .run ∈ ds) : ∃ ls last, Run (step host) Always ca ls last ∧ ¬ KeepsEnded ca last := by
  cases task with
  | starting id' =>
    cases ho
    have queued : (setTask i (ca, .queued id)).tasks[i]? =
        some (.queued id) := getElem?_setTask hp rfl
    have first : ca.step host (.resume i (.ok .undefined) 0) =
        some (setTask i (ca, .queued id)) :=
      step_resume hp rfl
    have hf' : (setTask i (ca, .queued id)).statusOf id = some .cancelled := hf
    obtain ⟨ls, last, run, hb⟩ := breaks_of_escapes hf' queued
      (resumeTask_queued host _ id) (runExecution_escapes hf' 0)
    exact ⟨_, last, .cons trivial first run, hb⟩
  | queued id' =>
    cases ho
    exact breaks_of_escapes hf hp (resumeTask_queued host _ id) (runExecution_escapes hf 0)
  | running id' steps ds aw =>
    cases ho
    have hha := hu steps ds aw rfl
    rcases resumeTask_rejected host ca id steps ds aw with ⟨step, rfl⟩ | rejects
    · have hfr : ca.resumeTask host 0 (.running id steps ds (.delay step)) (.ok .undefined) =
          some (ca.startAction id steps ds step) := rfl
      exact breaks_of_escapes hf hp hfr
        (.inr (.inl (actionsOf_startAction_ne (.refl ca) steps ds step)))
    · exact breaks_of_escapes hf hp (rejects (.error ""))
        ((piece_escapes ca).throwTo hha ⟨.refl ca, _, hf⟩ _)
  | cancelling _ | shuttingDown _ | ended => cases ho

lemma statusOf_cancelledAt {st : ExecutionStatus} (hf : s.statusOf id = some st) (now : Int) :
    (s.cancelledAt id now).statusOf id = some .cancelled := by
  obtain ⟨e, hp, _⟩ := statusOf_eq_some_iff.mp hf
  exact statusOf_updateExecution hp _

/-- A cancel that takes effect on an execution with a run left can be undone. -/
lemma busy_cancel_breaks (hc : Consistent s) (careless : ¬ Careful s (.cancelExecution id now))
    (hs : s.step host (.cancelExecution id now) = some t) :
    ∃ labels last, Run (step host) Always t labels last ∧ ¬ KeepsEnded t last := by
  obtain ⟨hac, busy⟩ := Classical.not_imp.mp careless
  obtain ⟨st, hf, hac⟩ : ∃ st, s.statusOf id = some st ∧ st.isActive := by
    simpa [Option.any_eq_true] using hac
  have cancels : t = addTask (s.cancelledAt id now, .cancelling id) := by
    obtain ⟨e, hp, rfl⟩ := statusOf_eq_some_iff.mp hf
    simp only [step, hp, hac, if_true] at hs
    exact (some.inj hs).symm
  obtain ⟨task, mem, owned⟩ : ∃ task ∈ s.tasks, task.owner = some id := by
    simpa [Idle] using busy
  obtain ⟨i, hp⟩ := getElem?_of_mem mem
  have present' : t.tasks[i]? = some task := by
    obtain ⟨hin, _⟩ := List.getElem?_eq_some_iff.mp hp
    have tasks := (touches_cancelledAt s id now).tasks
    rw [cancels, addTask, tasks, getElem?_append_left hin, hp]
  refine owner_breaks ?_ present' owned ?_
  · rw [cancels]
    exact statusOf_cancelledAt hf now
  · rintro steps ds aw rfl
    obtain ⟨status', found', fits⟩ := hc.fits i _ hp
    have same : st = status' := some.inj (hf.symm.trans found')
    rcases Await.Fits.cases fits with ⟨_, _, hha⟩ | ⟨_, ended⟩
    · exact hha
    · rw [same] at hac
      rcases ended with rfl | rfl <;> cases hac

end

/-- In runs that cancel idle executions only and whose rejected last writes settle quietly, an
execution that has ended stays as it is. Any other cancel can be followed by steps that change the
status back or start another action. -/
theorem ended_stays_ended (host : Host) (workflows : OrderedMap String Workflow)
    (executions : OrderedMap String WorkflowExecution) {labels : List Label} {engine : Engine}
    (run : Run (Engine.step host) Careful (Engine.loaded workflows executions) labels engine) :
    (∀ rest later, Run (Engine.step host) Careful engine rest later → KeepsEnded engine later) ∧
    ∀ executionId now after, ¬ Careful engine (.cancelExecution executionId now) →
      engine.step host (.cancelExecution executionId now) = some after →
      ∃ rest later, Run (Engine.step host) Always after rest later ∧ ¬ KeepsEnded after later := by
  have hc := (run_keeps (Consistent.loaded workflows executions) run).1
  constructor
  · intro rest later hcn
    exact (run_keeps hc hcn).2
  · intro executionId now after hcr hs
    exact busy_cancel_breaks hc hcr hs

def plainHost : Host where
  conversions := .plain
  callStackLimit := 100

def charge : WorkflowStep where
  id := "charge"
  name := "Charge the card"
  action := ⟨"a1", .apiCall⟩
  conditions := none
  onSuccess := none
  onFailure := none
  delay := none

def billing : Engine :=
  .loaded (OrderedMap.empty.set "billing" ⟨[charge], "charge", true, ⟨0, 0, 0, none⟩⟩) .empty

def start (executionId : String) (now : Int) : Label :=
  .executeWorkflow executionId "billing" "manual" (fun _ => .undefined) none now

def settle (task : Nat) (now : Int) : Label := .resume task (.ok .undefined) now

def reject (task : Nat) (now : Int) : Label := .resume task (.error (.error "refused")) now

/-- The run waits for its first write when the execution is cancelled. -/
theorem cancelled_execution_charges_and_completes : ∃ cancelled later,
    Run (Engine.step plainHost) Always billing
      [start "e1" 0, settle 0 1, settle 0 2, .cancelExecution "e1" 3] cancelled ∧
    cancelled.statusOf "e1" = some .cancelled ∧ cancelled.actionsOf "e1" = [] ∧
    Run (Engine.step plainHost) Always cancelled [settle 0 4, settle 0 5, settle 0 6] later ∧
    later.statusOf "e1" = some .completed ∧ later.actionsOf "e1" = [("e1", "charge")] ∧
    ¬ KeepsEnded cancelled later := by
  refine ⟨_, _, run_of_exec rfl, rfl, rfl, run_of_exec rfl, rfl, rfl, fun hk => ?_⟩
  exact absurd (hk "e1" .cancelled rfl rfl).1 (by decide)

/-- The first execution is cancelled after its only write was refused, so that no run of
it was queued. The second one fails, and a cancel comes too late for it. -/
theorem idle_execution_stays_cancelled : ∃ cancelled later,
    Run (Engine.step plainHost) Careful billing
      [start "e1" 0, reject 0 1, .cancelExecution "e1" 2] cancelled ∧
    cancelled.statusOf "e1" = some .cancelled ∧ Run (Engine.step plainHost) Careful cancelled
      [start "e2" 3, settle 2 4, settle 2 5, settle 2 6, reject 2 7, settle 2 8,
        .cancelExecution "e2" 9, .shutdown 10] later ∧
    later.statusOf "e2" = some .failed ∧ KeepsEnded cancelled later := by
  refine exists_two_runs rfl rfl rfl rfl fun run r => ?_
  exact (ended_stays_ended plainHost _ _ run).1 _ _ r

end WorkflowCancellation
