import Optimizely.WorkflowEngine

/-!
# What a piece of work does to an execution

Each function of the engine, run from one `await` to the next, touches a single execution. It leaves
a task whose place in the code agrees with the status of the execution, if they agreed before.
-/

namespace WorkflowEngine

open List Option OrderedMap

namespace Engine

def statusOf (engine : Engine) (executionId : String) : Option ExecutionStatus :=
  (engine.executions.get? executionId).map (·.status)

def actionsOf (engine : Engine) (executionId : String) : List (String × String) :=
  engine.actions.filter (·.1 = executionId)

end Engine

def ExecutionStatus.isTerminal : ExecutionStatus → Bool
  | .completed => true
  | .failed => true
  | .cancelled => true
  | _ => false

/-- No status that ended an execution is changed, and no action of a cancelled
execution is started. -/
def KeepsEnded (before after : Engine) : Prop :=
  ∀ executionId status, before.statusOf executionId = some status → status.isTerminal →
    after.statusOf executionId = some status ∧
      (status = .cancelled → after.actionsOf executionId = before.actionsOf executionId)

lemma KeepsEnded.refl (s : Engine) : KeepsEnded s s := fun _ _ hf _ => ⟨hf, fun _ => rfl⟩

lemma KeepsEnded.trans {first en third : Engine} (h : KeepsEnded first en)
    (h' : KeepsEnded en third) : KeepsEnded first third := by
  intro id st hf ht
  obtain ⟨hk, hqu⟩ := h id st hf ht
  obtain ⟨hk', hq'⟩ := h' id st hk ht
  exact ⟨hk', fun hca => (hq' hca).trans (hqu hca)⟩

/-- At most the execution `touched` has another status or further actions. -/
structure Touches (touched : Option String) (before after : Engine) : Prop where
  status : ∀ other, touched ≠ some other → after.statusOf other = before.statusOf other
  actions : ∀ other, touched ≠ some other → after.actionsOf other = before.actionsOf other
  tasks : after.tasks = before.tasks

namespace Touches

lemma refl (t : Option String) (s : Engine) : Touches t s s := ⟨fun _ _ => rfl, fun _ _ => rfl, rfl⟩

lemma trans {tc : Option String} {first en t : Engine}
    (h : Touches tc first en) (h' : Touches tc en t) : Touches tc first t where
  status x ne := (h'.status x ne).trans (h.status x ne)
  actions x ne := (h'.actions x ne).trans (h.actions x ne)
  tasks := h'.tasks.trans h.tasks

end Touches

namespace Engine

variable {s : Engine} {id : String}

lemma statusOf_eq_some_iff {st : ExecutionStatus} : s.statusOf id = some st ↔
      ∃ e, s.executions.get? id = some e ∧ e.status = st := by
  simp [statusOf]

variable {e : WorkflowExecution}

lemma updateExecution_of_found (hf : s.executions.get? id = some e)
    (change : WorkflowExecution → WorkflowExecution) : s.updateExecution id change =
      { s with executions := s.executions.set id (change e) } := by
  simp [updateExecution, hf]

lemma updateExecution_of_missing (hmi : s.executions.get? id = none)
    (change : WorkflowExecution → WorkflowExecution) : s.updateExecution id change = s := by
  simp [updateExecution, hmi]

lemma touches_setExecution (s : Engine) (id : String) (e : WorkflowExecution) : Touches (some id) s
      { s with executions := s.executions.set id e } := by
  refine ⟨fun x ne => ?_, fun _ _ => rfl, rfl⟩
  have other_ne : id ≠ x := fun h => ne (congrArg some h)
  simp [statusOf, get?_set, other_ne]

lemma touches_updateExecution (s : Engine) (id : String)
    (change : WorkflowExecution → WorkflowExecution) :
    Touches (some id) s (s.updateExecution id change) := by
  cases hf : s.executions.get? id with
  | none =>
    rw [updateExecution_of_missing hf]
    exact .refl _ _
  | some e =>
    rw [updateExecution_of_found hf]
    exact touches_setExecution s id (change e)

lemma statusOf_updateExecution (hf : s.executions.get? id = some e)
    (change : WorkflowExecution → WorkflowExecution) :
    (s.updateExecution id change).statusOf id = some (change e).status := by
  rw [updateExecution_of_found hf]
  simp [statusOf, get?_set]

lemma statusOf_updateExecution_same {change : WorkflowExecution → WorkflowExecution}
    (hs : ∀ e ∈ s.executions.get? id, (change e).status = e.status) (x : String) :
    (s.updateExecution id change).statusOf x = s.statusOf x := by
  by_cases h : id = x
  · subst h
    cases hf : s.executions.get? id with
    | none => rw [updateExecution_of_missing hf]
    | some e =>
      rw [statusOf_updateExecution hf, hs e hf, statusOf, hf]
      rfl
  · exact (touches_updateExecution s id change).status x (fun e => h (some.inj e))

end Engine

variable {bf : Engine} {r : Engine × Task} {id : String}

lemma KeepsEnded.addTask (hk : KeepsEnded bf r.1) : KeepsEnded bf (Engine.addTask r) := hk

lemma KeepsEnded.setTask {i : Nat}
    (hk : KeepsEnded bf r.1) : KeepsEnded bf (Engine.setTask i r) := hk

lemma keepsEnded_of_touches {t : Engine} (hto : Touches (some id) bf t)
    (own : ∀ st, bf.statusOf id = some st → st.isTerminal →
      st ≠ .cancelled ∧ t.statusOf id = some st) : KeepsEnded bf t := by
  intro x st hf ht
  by_cases h : id = x
  · subst h
    obtain ⟨hn, hk⟩ := own st hf ht
    exact ⟨hk, fun hca => absurd hca hn⟩
  · have ne : some id ≠ some x := fun e => h (some.inj e)
    exact ⟨(hto.status x ne).trans hf, fun _ => hto.actions x ne⟩

variable {st : ExecutionStatus} {ds : List Handler}

lemma keepsEnded_of_unfinished {t : Engine} (hto : Touches (some id) bf t)
    (hf : bf.statusOf id = some st) (hu : st.isTerminal = false) : KeepsEnded bf t := by
  refine keepsEnded_of_touches hto fun status' hf' ht => ?_
  rw [hf, some.injEq] at hf'
  rw [← hf', hu] at ht
  cases ht

lemma keepsEnded_of_touches_none {t : Engine} (hto : Touches none bf t) : KeepsEnded bf t :=
  fun x _ hf _ => ⟨(hto.status x (by simp)).trans hf, fun _ => hto.actions x (by simp)⟩

namespace Await

/-- The execution has ended, and its run waits for a last write. -/
def isFinal : Await → Bool
  | .completePersist => true
  | .failPersist => true
  | .analyticsPersist => true
  | _ => false

/-- The execution still has work to do, or it has ended and only writes are left. -/
def Fits (handlers : List Handler) (status : ExecutionStatus) : Await → Prop
  | .startPersist => status = .running ∧ .run ∈ handlers
  | .delay _ => status = .running ∧ .run ∈ handlers
  | .action _ => status = .running ∧ .run ∈ handlers
  | .stepPersist => status = .running ∧ .run ∈ handlers
  | .completePersist => status = .completed
  | .failPersist => status = .failed
  | .analyticsPersist => status = .completed ∨ status = .failed

lemma Fits.cases {ds : List Handler} {st : ExecutionStatus} {aw : Await} (hf : aw.Fits ds st) :
    (aw.isFinal = false ∧ st = .running ∧ .run ∈ ds) ∨
      (aw.isFinal = true ∧ (st = .completed ∨ st = .failed)) := by
  cases aw with
  | startPersist | delay _ | action _ | stepPersist => exact .inl ⟨rfl, hf⟩
  | completePersist => exact .inr ⟨rfl, .inl hf⟩
  | failPersist => exact .inr ⟨rfl, .inr hf⟩
  | analyticsPersist => exact .inr ⟨rfl, hf⟩

end Await

namespace Task

/-- The execution that a task goes on to work on. -/
def owner : Task → Option String
  | .starting executionId => some executionId
  | .queued executionId => some executionId
  | .running executionId _ _ _ => some executionId
  | .cancelling _ => none
  | .shuttingDown _ => none
  | .ended => none

def Fits (engine : Engine) : Task → Prop
  | .starting executionId => engine.statusOf executionId = some .pending
  | .queued executionId => engine.statusOf executionId = some .pending
  | .running executionId _ handlers awaiting =>
    ∃ status, engine.statusOf executionId = some status ∧ awaiting.Fits handlers status
  | .cancelling _ => True
  | .shuttingDown _ => True
  | .ended => True

lemma Fits.of_touches {ts : Task} {tc : Option String} {b t : Engine}
    (hft : ts.Fits b) (hto : Touches tc b t)
    (hu : ∀ id, ts.owner = some id → tc ≠ some id) : ts.Fits t := by
  cases ts with
  | starting _ | queued _ => exact (hto.status _ (hu _ rfl)).trans hft
  | running id steps ds aw =>
    obtain ⟨st, hf, ha⟩ := hft
    exact ⟨st, (hto.status _ (hu _ rfl)).trans hf, ha⟩
  | cancelling _ | shuttingDown _ | ended => trivial

end Task

/-- A piece of work touches one execution and leaves a task that stands where the
status of that execution says. -/
structure LeadsTo (touched : Option String) (before : Engine) (result : Engine × Task) :
    Prop where
  touches : Touches touched before result.1
  fits : result.2.Fits result.1
  owner : ∀ executionId, result.2.owner = some executionId → touched = some executionId

lemma LeadsTo.after {tc : Option String} {m : Engine} (rs : LeadsTo tc m r)
    (first : Touches tc bf m) : LeadsTo tc bf r :=
  ⟨first.trans rs.touches, rs.fits, rs.owner⟩

lemma leadsTo_ended (t : Option String) (s : Engine) : LeadsTo t s (s, .ended) :=
  ⟨.refl _ _, trivial, fun _ h => nomatch h⟩

lemma leadsTo_running {t : Engine} {aw : Await} (hto : Touches (some id) bf t)
    (hf : t.statusOf id = some st) (hft : aw.Fits ds st) (ss : List WorkflowStep) :
    LeadsTo (some id) bf (t, .running id ss ds aw) :=
  ⟨hto, ⟨st, hf, hft⟩, fun _ h => h⟩

lemma Handler.run_mem_of_step_cons {f : WorkflowStep}
    (hha : .run ∈ .step f :: ds) : .run ∈ ds := by
  rcases mem_cons.mp hha with h | h
  · cases h
  · exact h

/-- A `try` block whose handler fails the execution. -/
def Handler.fails : Handler → Bool
  | .run => true
  | .step failing => failing.failureTarget.isNone

namespace Engine

variable {host : Host} {id : String} {stp : List WorkflowStep} {now : Int} {aw : Await}
  {ds : List Handler} {s : Engine} {st : ExecutionStatus} {o : Except Thrown JsValue}
  {r : Engine × Task}

lemma leadsTo_endExecution {change : WorkflowExecution → WorkflowExecution}
    (hft : ∀ e, aw.Fits ds (change e).status) (s : Engine) :
    LeadsTo (some id) s (s.endExecution id stp ds aw change) := by
  rw [endExecution]
  cases hf : s.executions.get? id with
  | none => exact leadsTo_ended _ _
  | some e =>
    exact leadsTo_running (touches_updateExecution _ _ _) (statusOf_updateExecution hf change)
      (hft e) stp

lemma leadsTo_completeExecution (s : Engine) (ds : List Handler) : LeadsTo (some id) s
      (s.completeExecution id stp ds now) := by
  apply leadsTo_endExecution
  intro e
  exact rfl

lemma leadsTo_failExecution (s : Engine) (ds : List Handler) (er : String) :
    LeadsTo (some id) s (s.failExecution id stp ds er now) := by
  apply leadsTo_endExecution
  intro e
  exact rfl

lemma touches_startAction (s : Engine) (ss : List WorkflowStep)
    (ds : List Handler) (st : WorkflowStep) : Touches (some id) s
      (s.startAction id ss ds st).1 := by
  refine ⟨fun _ _ => rfl, fun x ne => ?_, rfl⟩
  have other_ne : id ≠ x := fun h => ne (congrArg some h)
  simp [startAction, actionsOf, other_ne]

lemma leadsTo_startAction (hr : s.statusOf id = some .running) (hha : .run ∈ ds)
    (st : WorkflowStep) : LeadsTo (some id) s (s.startAction id stp ds st) := by
  have hf : (Await.action st).Fits (.step st :: ds) .running := ⟨rfl, mem_cons_of_mem _ hha⟩
  exact leadsTo_running (touches_startAction s stp ds st) hr hf stp

lemma status_enterStep (d : Nat) (e : WorkflowExecution) :
    (enterStep host stp now d e).1.status = e.status := by
  fun_induction enterStep host stp now d e with
  | case6 d e stepId _ step _ lg _ skipped ih => exact ih
  | _ => rfl

/-- What a piece of a run keeps on its way (`P`) and what it comes to (`Q`), with `H` of the
handlers that are open. -/
structure Piece (id : String) (steps : List WorkflowStep) (now : Int) (H : List Handler → Prop)
    (P : Engine → Prop) (Q : Engine × Task → Prop) : Prop where
  tail : ∀ {step ds}, H (.step step :: ds) → H ds
  update : ∀ {m f}, P m → (∀ e ∈ m.executions.get? id, (f e).status = e.status) →
    P (m.updateExecution id f)
  missing : ∀ {m}, P m → m.executions.get? id = none → Q (m, .ended)
  lost : ∀ {m}, P m → H [] → Q (m, .ended)
  complete : ∀ {m} ds, P m → Q (m.completeExecution id steps ds now)
  fail : ∀ {m} ds error, P m → Q (m.failExecution id steps ds error now)
  delay : ∀ {m ds} step, P m → H ds → Q (m, .running id steps ds (.delay step))
  act : ∀ {m ds} step, P m → H ds → Q (m.startAction id steps ds step)

namespace Piece

variable {H : List Handler → Prop} {P : Engine → Prop} {Q : Engine × Task → Prop}
  (h : Piece id stp now H P Q) (hh : H ds) (hp : P s)
include h hh hp

lemma executeStepOr {overflow : Engine → Engine × Task} (hov : ∀ m, P m → Q (overflow m)) :
    Q (executeStepOr host id stp now ds overflow s) := by
  rw [Engine.executeStepOr]
  cases hf : s.executions.get? id with
  | none => exact h.missing hp hf
  | some e =>
    have hs : (enterStep host stp now host.callStackLimit e).1.status = e.status :=
      status_enterStep _ _
    dsimp only
    generalize enterStep host stp now host.callStackLimit e = r at *
    have hm : P (s.updateExecution id fun _ => r.1) := h.update hp (by simpa [hf] using hs)
    cases r.2 with
    | complete => exact h.complete _ hm
    | fail er => exact h.fail _ er hm
    | delay st => exact h.delay st hm hh
    | act st => exact h.act st hm hh
    | overflow => exact hov _ hm

lemma throwTo (t : Thrown) : Q (throwTo host id stp now ds t s) := by
  induction ds generalizing t s with
  | nil => exact h.lost hp hh
  | cons d ds ih =>
    cases d with
    | run => exact h.fail _ _ hp
    | step step =>
      have ho := h.tail hh
      have hm := h.update hp (f := fun e => e.addExecutionLog now .error step.id
        "Step failed" (some (.error t.messageOrText))) fun _ _ => rfl
      rw [Engine.throwTo]
      cases step.failureTarget with
      | none => exact h.fail _ _ hm
      | some next =>
        have hmo := h.update hm (f := (·.goTo (some next))) fun _ _ => rfl
        exact h.executeStepOr ho hmo fun _ ha => ih ho ha stackOverflow

lemma executeStep : Q (executeStep host id stp now ds s) :=
  h.executeStepOr hh hp fun _ ha => h.throwTo hh ha stackOverflow

/-- The pieces up to the write that the end of a run waits for. -/
lemma continueRun (hu : aw.isFinal = false)
    (hps : ∀ m, P m → Q (m, .running id stp ds .stepPersist))
    (hcn : s.continueRun host id stp ds now aw o = some r) : Q r := by
  cases o with
  | error t =>
    cases aw with
    | delay st => cases hcn
    | startPersist | action _ | stepPersist =>
      cases hcn
      exact h.throwTo hh hp t
    | completePersist | failPersist | analyticsPersist => cases hu
  | ok v =>
    cases aw with
    | startPersist | stepPersist =>
      cases hcn
      exact h.executeStep hh hp
    | delay st =>
      cases hcn
      exact h.act st hp hh
    | action st =>
      cases hcn
      exact hps _ (h.update hp fun _ _ => rfl)
    | completePersist | failPersist | analyticsPersist => cases hu

end Piece

lemma piece_leadsTo (s : Engine) : Piece id stp now (.run ∈ ·)
    (fun m => Touches (some id) s m ∧ m.statusOf id = some .running) (LeadsTo (some id) s) where
  tail := Handler.run_mem_of_step_cons
  update hp hf := ⟨hp.1.trans (touches_updateExecution _ _ _),
    (statusOf_updateExecution_same hf id).trans hp.2⟩
  missing hp _ := (leadsTo_ended _ _).after hp.1
  lost _ hh := nomatch hh
  complete _ hp := (leadsTo_completeExecution _ _).after hp.1
  fail _ _ hp := (leadsTo_failExecution _ _ _).after hp.1
  delay _ hp hh := ⟨hp.1, ⟨_, hp.2, rfl, hh⟩, fun _ h => h⟩
  act step hp hh := (leadsTo_startAction hp.2 hh step).after hp.1

lemma touches_updateWorkflowAnalytics (s : Engine) (id : String)
    (ss : List WorkflowStep) (ds : List Handler) (now : Int) :
    Touches none s (s.updateWorkflowAnalytics id ss ds now).1 :=
  updateWorkflowAnalytics_rule (P := (Touches none s ·.1)) (.refl _ _)
    fun _ => ⟨fun _ _ => rfl, fun _ _ => rfl, rfl⟩

section

variable (hf : s.statusOf id = some st) (ds : List Handler)
include hf

lemma leadsTo_updateWorkflowAnalytics (he : st = .completed ∨ st = .failed) :
    LeadsTo (some id) s (s.updateWorkflowAnalytics id stp ds now) :=
  updateWorkflowAnalytics_rule (leadsTo_ended _ _)
    fun _ => ⟨⟨fun _ _ => rfl, fun _ _ => rfl, rfl⟩, ⟨st, hf, he⟩, fun _ h => h⟩

lemma statusOf_endExecution (aw : Await) (change : WorkflowExecution → WorkflowExecution) : ∃ e,
      (s.endExecution id stp ds aw change).1.statusOf id = some (change e).status := by
  obtain ⟨e, hp, _⟩ := statusOf_eq_some_iff.mp hf
  simp only [endExecution, hp]
  exact ⟨e, statusOf_updateExecution hp change⟩

lemma statusOf_completeExecution :
    (s.completeExecution id stp ds now).1.statusOf id = some .completed := by
  obtain ⟨_, he⟩ := statusOf_endExecution hf ds _ _
  exact he

lemma statusOf_failExecution (e : String) :
    (s.failExecution id stp ds e now).1.statusOf id = some .failed := by
  obtain ⟨_, he⟩ := statusOf_endExecution hf ds _ _
  exact he

end

/-- A rejected write of an execution that has ended does no harm if nobody catches it,
or if the execution has failed and is failed once more. -/
def settlesQuietly (engine : Engine) (executionId : String) : List Handler → Bool
  | [] => true
  | handler :: _ => engine.statusOf executionId = some .failed && handler.fails

lemma throwTo_of_fails (host : Host) (ss : List WorkflowStep) (now : Int)
    {d : Handler} (hfa : d.fails) (ds : List Handler) (t : Thrown)
    (hf : s.statusOf id = some st) : ∃ m e, Touches (some id) s m ∧ m.statusOf id = some st ∧
      throwTo host id ss now (d :: ds) t s = m.failExecution id ss ds e now := by
  cases d with
  | run => exact ⟨s, _, .refl _ _, hf, rfl⟩
  | step step =>
    have he : step.failureTarget = none := by simpa [Handler.fails] using hfa
    rw [throwTo, he]
    refine ⟨_, _, touches_updateExecution _ _ _, ?_, rfl⟩
    rw [statusOf_updateExecution_same]
    · exact hf
    · exact fun _ _ => rfl

lemma throwTo_settled (hf : s.statusOf id = some st) (hqu : s.settlesQuietly id ds) (t : Thrown) :
    LeadsTo (some id) s (throwTo host id stp now ds t s) ∧
      (throwTo host id stp now ds t s).1.statusOf id = some st := by
  cases ds with
  | nil => exact ⟨leadsTo_ended _ _, hf⟩
  | cons d ds =>
    obtain ⟨hfl, hfa⟩ : s.statusOf id = some .failed ∧ d.fails := by
      simpa [settlesQuietly] using hqu
    obtain ⟨middle, error, hto, hs, hsm⟩ := throwTo_of_fails host stp now hfa ds t hf
    rw [hsm]
    refine ⟨(leadsTo_failExecution _ _ _).after hto, ?_⟩
    rw [statusOf_failExecution hs, ← hfl, hf]

section

variable (hcn : s.continueRun host id stp ds now aw o = some r)
include hcn

lemma continueRun_unfinished (hr : s.statusOf id = some .running) (hha : .run ∈ ds)
    (hu : aw.isFinal = false) : LeadsTo (some id) s r :=
  (piece_leadsTo s).continueRun hha ⟨.refl _ _, hr⟩ hu
    (fun _ hp => ⟨hp.1, ⟨_, hp.2, rfl, hha⟩, fun _ h => h⟩) hcn

/-- The last writes of an execution that has ended leave its status alone. -/
lemma continueRun_final (hf : s.statusOf id = some st) (he : st = .completed ∨ st = .failed)
    (hfn : aw.isFinal) (hqu : ∀ t, o = .error t → s.settlesQuietly id ds) :
    LeadsTo (some id) s r ∧ r.1.statusOf id = some st := by
  cases o with
  | error t =>
    cases aw with
    | completePersist | failPersist | analyticsPersist =>
      cases hcn
      exact throwTo_settled hf (hqu t rfl) t
    | _ => cases hfn
  | ok v =>
    cases aw with
    | completePersist | failPersist =>
      cases hcn
      have hto := touches_updateWorkflowAnalytics s id stp ds now
      exact ⟨leadsTo_updateWorkflowAnalytics hf ds he, (hto.status id (by simp)).trans hf⟩
    | analyticsPersist =>
      cases hcn
      exact ⟨leadsTo_ended _ _, hf⟩
    | _ => cases hfn

lemma continueRun_keeps (hf : s.statusOf id = some st) (hft : aw.Fits ds st)
    (hqu : ∀ t, o = .error t → aw.isFinal → s.settlesQuietly id ds) :
    LeadsTo (some id) s r ∧ KeepsEnded s r.1 := by
  rcases Await.Fits.cases hft with ⟨hu, hrn, hha⟩ | ⟨hfn, he⟩
  · subst hrn
    have hl := continueRun_unfinished hcn hf hha hu
    exact ⟨hl, keepsEnded_of_unfinished hl.touches hf rfl⟩
  · have hq' := fun t hr => hqu t hr hfn
    obtain ⟨hl, hs⟩ := continueRun_final hcn hf he hfn hq'
    refine ⟨hl, keepsEnded_of_touches hl.touches fun status' hf' _ => ?_⟩
    have hsm : st = status' := some.inj (hf.symm.trans hf')
    refine ⟨?_, hsm ▸ hs⟩
    rintro rfl
    rcases he with h | h <;> exact absurd (hsm.symm.trans h) (by decide)

end

lemma leadsTo_runExecution (hf : s.statusOf id = some st) (now : Int) :
    LeadsTo (some id) s (s.runExecution id now) := by
  obtain ⟨e, hp, _⟩ := statusOf_eq_some_iff.mp hf
  rw [runExecution, hp]
  dsimp only
  cases s.workflows.get? e.workflowId with
  | none => exact leadsTo_failExecution _ _ _
  | some w =>
    have hft : Await.startPersist.Fits [.run] .running := ⟨rfl, mem_singleton.mpr rfl⟩
    exact leadsTo_running (touches_updateExecution _ _ _) (statusOf_updateExecution hp _)
      hft w.steps

lemma touches_cancelledAt (s : Engine) (id : String) (now : Int) :
    Touches (some id) s (s.cancelledAt id now) :=
  touches_updateExecution _ _ _

variable {f : Nat × String}

lemma isActive_of_firstActive {es : List (String × WorkflowExecution)} {s : Nat}
    (first : firstActive es s = some f) : ∃ ex, (f.2, ex) ∈ es ∧ ex.status.isActive := by
  induction es generalizing s with
  | nil => cases first
  | cons e es ih =>
    by_cases hac : e.2.status.isActive = true
    · rw [firstActive, if_pos hac] at first
      cases first
      exact ⟨e.2, mem_cons_self, hac⟩
    · rw [firstActive, if_neg hac] at first
      obtain ⟨ex, mem, ha'⟩ := ih first
      exact ⟨ex, mem_cons_of_mem _ mem, ha'⟩

lemma active_of_nextToCancel {pos : Nat} (next : s.nextToCancel pos = some f) :
    ∃ e, s.executions.get? f.2 = some e ∧ e.status.isActive := by
  obtain ⟨e, mem, hac⟩ := isActive_of_firstActive next
  exact ⟨e, get?_of_mem (mem_of_mem_drop mem), hac⟩

end Engine

end WorkflowEngine
