import Optimizely.ErrorSteps

/-!
# Recovery workflows and fallbacks

A step that throws ends the loop over the steps of its workflow, which counts as done unless a
handler of the step was found and threw as well. Strategies are registered under their id and looked
up under service and operation. Recovery goes right just as long as neither matters.
-/

namespace RecoveryOrder

open ErrorHandling TransitionRuns List Option TaskLists Service Recovery

/-- The workflows to go through, in the order of their registration. -/
def applicable (request : Request) : List RecoveryWorkflow :=
  request.registered.filter fun workflow =>
    workflow.autoExecute && (workflow.isActive &&
      workflow.errorCategories.contains request.category)

/-- The workflows that ran are the first ones by ascending priority, those before the last had a
step that failed, and the last had none unless it was the last of all. -/
structure Recovers (request : Request) (ran : List (RecoveryWorkflow × List Bool)) : Prop where
  ordered : ∃ order, order.Perm (applicable request) ∧
    order.Pairwise (fun a b => a.priority ≤ b.priority) ∧ ran.map Prod.fst <+: order
  earlier : ∀ entry ∈ ran.dropLast, false ∈ entry.2
  stopped : ran.length = (applicable request).length ∨ ∃ entry ∈ ran.getLast?, false ∉ entry.2

def Stopped : Call → Prop
  | .recovered _ request ran => Recovers request ran
  | _ => True

def Serves (strategy : FallbackStrategy) (context : ErrorContext) : Prop :=
  strategy.isActive ∧ strategy.service = context.service ∧ strategy.operation = context.operation

/-- The fallback step used a strategy that serves the context of the error, if one was
registered. -/
def Right (use : FallbackUse) : Prop :=
  (∃ strategy ∈ use.registered, Serves strategy use.context) →
    ∃ strategy ∈ use.used, strategy ∈ use.registered ∧ Serves strategy use.context

structure RecoversInOrder (s : State) : Prop where
  stopped : ∀ call ∈ s.calls, Stopped call
  right : ∀ use ∈ s.service.fallbacks, Right use

/-- The result of the awaited step, unless the step goes on with another write. -/
def outcome : StepWait → Bool → Option Bool
  | .retry (.failing .hset), true => none
  | .retry (.queueing .hset), true => none
  | .retry _, ok => some ok
  | .command, ok => some ok
  | .turn ok, _ => some ok

def willRetry (record : ErrorRecord) : Bool :=
  record.classification.isRetryable && record.retryCount < record.maxRetries

/-- `recordError` comes to its recovery workflow with this reply. -/
def reachesRecovery (record : ErrorRecord) : RecordStage → Bool → Bool
  | .updatingBreaker, true =>
    !(record.classification.severity = .high ∨ record.classification.severity = .critical) &&
      !willRetry record
  | .notifying, _ => !willRetry record
  | .scheduling (.failing .expire), true => true
  | .scheduling (.queueing .expire), true => true
  | _, _ => false

/-- Where the recovery of a call stands after the reply, if it has come to another step or to
its end. -/
def arrival (service : Service) : Call → Bool → Option (ErrorRecord × Cursor)
  | .record id stage, ok => (service.errorRecords.get? id).bind fun record =>
    if reachesRecovery record stage ok then
      some (record, service.startRecovery record.classification.category)
    else none
  | .recovering id recovery wait, ok => (service.errorRecords.get? id).bind fun record =>
    (outcome wait ok).map fun ok => (record, recovery.advance ok)
  | _, _ => none

/-- With this outcome the workflow counts as done although a step of it has failed, and other
workflows follow. -/
def EndsEarly (recovery : Recovery) (ok : Bool) : Prop :=
  match recovery.handling, ok with
  | true, true => recovery.later ≠ []
  | false, false => recovery.later ≠ [] ∧ recovery.workflow.handlerOf recovery.step = none
  | _, _ => False

/-- If a registered strategy serves the context, the one under its key does. -/
def Served (service : Service) (context : ErrorContext) : Prop :=
  (∃ strategy ∈ service.fallbackStrategies.values, Serves strategy context) →
    ∃ strategy ∈ service.fallbackStrategies.get? context.key, Serves strategy context

/-- A fallback step is entered only for a context that is `Served`. -/
def FallbackServed (service : Service) (record : ErrorRecord) : Cursor → Prop
  | .inside recovery => recovery.step.type = .fallback → Served service record.context
  | .finished _ _ => True

/-- The awaited step of a recovery does not end its workflow early. -/
def Goes : Call → Bool → Prop
  | .recovering _ recovery wait, ok => ∀ settled ∈ outcome wait ok, ¬ EndsEarly recovery settled
  | _, _ => True

def Careful (s : State) : Label → Prop
  | .executeRecoveryWorkflow id _ _ => ∀ record ∈ s.service.errorRecords.get? id,
      FallbackServed s.service record (s.service.startRecovery record.classification.category)
  | .resume index ok _ _ => ∀ call ∈ s.calls[index]?, Goes call ok ∧
      ∀ reached ∈ arrival s.service call ok, FallbackServed s.service reached.1 reached.2
  | _ => True

/-- The workflows that ran have failed, and those to come follow in order. -/
structure Pending (request : Request) (ran : List (RecoveryWorkflow × List Bool))
    (later : List RecoveryWorkflow) : Prop where
  perm : (ran.map Prod.fst ++ later).Perm (applicable request)
  sorted : (ran.map Prod.fst ++ later).Pairwise fun a b => a.priority ≤ b.priority
  failed : ∀ entry ∈ ran, false ∈ entry.2

lemma pending_start (svc : Service) (cat : ErrorCategory) :
    Pending ⟨svc.recoveryWorkflows.values, cat⟩ [] (svc.recoveryOrder cat) := by
  have total : Std.Total fun a b : RecoveryWorkflow => a.priority ≤ b.priority :=
    ⟨fun a b => le_total a.priority b.priority⟩
  constructor
  · have hs := (perm_insertionSort (fun a b : RecoveryWorkflow => a.priority ≤ b.priority)
      (svc.recoveryWorkflows.values.filter fun w =>
        w.isActive && w.errorCategories.contains cat)).filter (·.autoExecute)
    rw [List.filter_filter] at hs
    exact hs
  · exact (pairwise_insertionSort _ _).filter _
  · simp

namespace Pending

variable {r : Request} {ran : List (RecoveryWorkflow × List Bool)} {w : RecoveryWorkflow}
  {xs : List RecoveryWorkflow} {os : List Bool}

lemma length (hpe : Pending r ran xs) : ran.length + xs.length = (applicable r).length := by
  have hs := hpe.perm.length_eq
  rwa [length_append, length_map] at hs

lemma recovers (hpe : Pending r ran []) : Recovers r ran := by
  constructor
  · refine ⟨_, hpe.perm, hpe.sorted, ?_⟩
    exact prefix_append _ _
  · intro e mem
    exact hpe.failed e (mem_of_mem_dropLast mem)
  · left
    have hl := hpe.length
    simpa using hl

variable (hpe : Pending r ran (w :: xs))
include hpe

lemma next (bad : false ∈ os) : Pending r (ran ++ [(w, os)]) xs := by
  have hs : (ran ++ [(w, os)]).map Prod.fst ++ xs = ran.map Prod.fst ++ w :: xs := by simp
  constructor
  · rw [hs]
    exact hpe.perm
  · rw [hs]
    exact hpe.sorted
  · exact forall_append hpe.failed bad

lemma stops (hg : false ∉ os) : Recovers r (ran ++ [(w, os)]) := by
  constructor
  · refine ⟨_, hpe.perm, hpe.sorted, xs, ?_⟩
    simp
  · intro e mem
    rw [dropLast_concat] at mem
    exact hpe.failed e mem
  · right
    exact ⟨(w, os), by simp, hg⟩

lemma recovers_iff (bad : false ∈ os) : Recovers r (ran ++ [(w, os)]) ↔ xs = [] := by
  have next := hpe.next bad
  constructor
  · intro hr
    rcases hr.stopped with all | ⟨e, l, hg⟩
    · have length := next.length
      rw [← length_eq_zero_iff]
      omega
    · rw [getLast?_concat, mem_some_iff] at l
      subst l
      exact absurd bad hg
  · rintro rfl
    exact next.recovers

end Pending

/-- A recovery under way: only the handler of a step runs after a failure. -/
structure Coherent (recovery : Recovery) : Prop where
  pending : Pending recovery.request recovery.ran (recovery.workflow :: recovery.later)
  failed : recovery.handling = true ↔ false ∈ recovery.outcomes

def Arrives : Cursor → Prop
  | .inside recovery => Coherent recovery
  | .finished request ran => Recovers request ran

lemma arrives_enterWorkflow {r : Request} {ran : List (RecoveryWorkflow × List Bool)}
    {xs : List RecoveryWorkflow} (hpe : Pending r ran xs) : Arrives (enterWorkflow r ran xs) := by
  cases xs with
  | nil => exact hpe.recovers
  | cons w xs =>
    simp only [enterWorkflow]
    split
    · exact hpe.stops not_mem_nil
    · exact ⟨hpe, by simp⟩

lemma arrives_startRecovery (svc : Service) (cat : ErrorCategory) :
    Arrives (svc.startRecovery cat) :=
  arrives_enterWorkflow (pending_start svc cat)

variable {rv : Recovery} {c next : Call} {cursor : Cursor} {s : State}

lemma arrives_advance_iff (hc : Coherent rv) (ok : Bool) :
    Arrives (rv.advance ok) ↔ ¬ EndsEarly rv ok := by
  obtain ⟨r, ran, w, outcomes, xs, s, rs, b⟩ := rv
  obtain ⟨hpe, hfl⟩ := hc
  cases b with
  | true =>
    have bad : ∀ l, false ∈ outcomes ++ [l] := by
      intro l
      exact mem_append_left _ (hfl.mp rfl)
    cases ok with
    | true =>
      simp only [advance, EndsEarly, Arrives, ne_eq, not_not]
      exact hpe.recovers_iff (bad true)
    | false =>
      simp only [advance, EndsEarly, not_false_eq_true, iff_true]
      exact arrives_enterWorkflow (hpe.next (bad false))
  | false =>
    have hg : false ∉ outcomes := by
      intro bad
      exact Bool.false_ne_true (hfl.mpr bad)
    cases ok with
    | true =>
      have hg' : false ∉ outcomes ++ [true] := by simp [hg]
      simp only [advance, EndsEarly, not_false_eq_true, iff_true]
      cases rs with
      | nil => exact hpe.stops hg'
      | cons second rs => exact ⟨hpe, by simpa using hg⟩
    | false =>
      simp only [advance, EndsEarly]
      cases hd : w.handlerOf s with
      | none =>
        simp only [Arrives, and_true, ne_eq, not_not]
        exact hpe.recovers_iff (by simp)
      | some next =>
        simp only [reduceCtorEq, and_false, not_false_eq_true, iff_true]
        exact ⟨hpe, by simp⟩

lemma coherent_of_advance {next : Recovery} {ok : Bool} (hc : Coherent rv)
    (had : rv.advance ok = .inside next) : Coherent next := by
  have har := arrives_advance_iff hc ok
  rw [had] at har
  apply har.mpr
  obtain ⟨r, ran, w, outcomes, xs, step, rest, b⟩ := rv
  cases b <;> cases ok <;> simp only [EndsEarly, not_false_eq_true]
  · rintro ⟨-, hu⟩
    simp [advance, hu] at had
  · simp [advance] at had

variable {svc t : Service} {record rec : ErrorRecord} {ok : Bool} {now : Nat} {random : Rat}

lemma right_iff_served (context : ErrorContext) :
    Right ⟨context, svc.fallbackStrategies.values, svc.findFallback context⟩ ↔
      Served svc context := by
  constructor
  · intro right hrg
    obtain ⟨s, hu, -, hs⟩ := right hrg
    obtain ⟨hf, -⟩ := filter_eq_some_iff.mp hu
    exact ⟨s, hf, hs⟩
  · intro hsr hrg
    obtain ⟨s, hf, hs⟩ := hsr hrg
    refine ⟨s, filter_eq_some_iff.mpr ⟨hf, hs.1⟩, ?_, hs⟩
    exact mem_map_of_mem (OrderedMap.mem_of_get? hf)

lemma fallbacks_scheduleRetry (s : PartialStrategy) :
    (svc.scheduleRetry rec s now random).1.fallbacks = svc.fallbacks := by
  rw [scheduleRetry]
  split <;> exact (same_updateRecord ..).2.2

lemma fallbacks_executeRecoveryStep (s : RecoveryStep) :
    (svc.executeRecoveryStep rec s now random).1.fallbacks =
      svc.fallbacks ++ if s.type = .fallback then
        [⟨rec.context, svc.fallbackStrategies.values, svc.findFallback rec.context⟩] else [] := by
  rw [executeRecoveryStep]
  split
  · rename_i hr
    simp [hr, fallbacks_scheduleRetry]
  · rename_i f
    simp [f, executeFallback]
  · rename_i hn
    simp [hn, queueNotification]
  · rename_i he
    simp [he, escalateError]
  · rename_i x _ _
    rw [if_neg x, append_nil]

/-- What the place at which a recovery has arrived must be for the property to be kept. -/
def Good (service : Service) (record : ErrorRecord) : Cursor → Prop
  | .inside recovery => recovery.step.type = .fallback → Served service record.context
  | .finished request ran => Recovers request ran

lemma kept_continueRecovery (svc : Service) (rec : ErrorRecord) (now : Nat)
    (rn : Rat) (cursor : Cursor) :
    (∀ use ∈ (svc.continueRecovery rec cursor now rn).1.fallbacks, Right use) ∧
        Stopped (svc.continueRecovery rec cursor now rn).2 ↔
      (∀ use ∈ svc.fallbacks, Right use) ∧ Good svc rec cursor := by
  cases cursor with
  | finished r ran => exact Iff.rfl
  | inside rv =>
    simp only [continueRecovery, fallbacks_executeRecoveryStep, Stopped, and_true, Good,
      forall_mem_append]
    refine and_congr_right fun _ => ?_
    split
    · rename_i f
      rw [forall_mem_singleton, right_iff_served]
      exact ⟨fun hs _ => hs, fun hs => hs f⟩
    · rename_i x
      exact ⟨fun _ f => absurd f x, fun _ => forall_mem_nil _⟩

def CoherentCall : Call → Prop
  | .recovering _ recovery _ => Coherent recovery
  | _ => True

structure Agrees (service middle : Service) : Prop where
  strategies : middle.fallbackStrategies = service.fallbackStrategies
  workflows : middle.recoveryWorkflows = service.recoveryWorkflows
  fallbacks : middle.fallbacks = service.fallbacks

variable {wait : StepWait} {sg : RecordStage} {md : Service} {l : Label}

lemma resumeStep_cases (svc : Service) (rec : ErrorRecord) (w : StepWait) (ok : Bool) :
    (∃ se m, outcome w ok = some se ∧ Agrees svc m ∧
        svc.resumeStep rec w ok = (m, .settled se)) ∨
      ∃ w', outcome w ok = none ∧ svc.resumeStep rec w ok = (svc, .waits w') := by
  cases w with
  | retry sg =>
    cases sg with
    | failing write | queueing write =>
      cases write <;> cases ok
      · exact .inl ⟨_, svc, rfl, ⟨rfl, rfl, rfl⟩, rfl⟩
      · exact .inr ⟨_, rfl, rfl⟩
      · exact .inl ⟨_, svc, rfl, ⟨rfl, rfl, rfl⟩, rfl⟩
      · refine .inl ⟨_, _, rfl, ?_, rfl⟩
        exact ⟨rfl, rfl, rfl⟩
  | command | turn _ => exact .inl ⟨_, svc, rfl, ⟨rfl, rfl, rfl⟩, rfl⟩

/-- A call that has not come to a recovery. -/
def Outside : Call → Prop
  | .recovering _ _ _ => False
  | .recovered _ _ _ => False
  | _ => True

/-- `recordError` comes to its recovery workflow, or does not yet. -/
lemma resumeRecord_cases (svc : Service) (rec : ErrorRecord) (now : Nat) (r : Rat)
    (sg : RecordStage) (ok : Bool) : (reachesRecovery rec sg ok = true ∧ ∃ m, Agrees svc m ∧
        svc.resumeRecord rec sg ok now r = m.executeRecoveryWorkflow rec now r) ∨
      (reachesRecovery rec sg ok = false ∧
        (svc.resumeRecord rec sg ok now r).1.fallbacks = svc.fallbacks ∧
        Outside (svc.resumeRecord rec sg ok now r).2) := by
  have hh : Agrees svc svc := ⟨rfl, rfl, rfl⟩
  have hdc : (willRetry rec = false ∧ svc.retryOrRecover rec now r =
        svc.executeRecoveryWorkflow rec now r) ∨
      (willRetry rec = true ∧ (svc.retryOrRecover rec now r).1.fallbacks = svc.fallbacks ∧
        Outside (svc.retryOrRecover rec now r).2) := by
    cases h : willRetry rec with
    | false => exact .inl ⟨rfl, if_neg (by simpa [willRetry] using h)⟩
    | true =>
      rw [retryOrRecover, if_pos (by simpa [willRetry] using h)]
      exact .inr ⟨rfl, fallbacks_scheduleRetry _, trivial⟩
  cases sg with
  | persisting w => cases w <;> cases ok <;> exact .inr ⟨rfl, rfl, trivial⟩
  | updatingBreaker =>
    cases ok with
    | false => exact .inr ⟨rfl, rfl, trivial⟩
    | true =>
      simp only [resumeRecord, reachesRecovery]
      split
      · rename_i hs
        exact .inr ⟨by simp [hs], rfl, trivial⟩
      · rename_i hm
        rcases hdc with ⟨hu, hsm⟩ | ⟨hw, rs⟩
        · exact .inl ⟨by simp [hm, hu], svc, hh, hsm⟩
        · exact .inr ⟨by simp [hw], rs⟩
  | notifying =>
    rcases hdc with ⟨hu, hsm⟩ | ⟨hw, rs⟩
    · exact .inl ⟨by simp [reachesRecovery, hu], svc, hh, by cases ok <;> exact hsm⟩
    · exact .inr ⟨by simp [reachesRecovery, hw], by cases ok <;> exact rs⟩
  | scheduling sg =>
    cases sg with
    | failing w | queueing w =>
      cases w <;> cases ok
      · exact .inr ⟨rfl, rfl, trivial⟩
      · exact .inr ⟨rfl, rfl, trivial⟩
      · exact .inr ⟨rfl, rfl, trivial⟩
      · refine .inl ⟨rfl, _, ?_, rfl⟩
        exact ⟨rfl, rfl, rfl⟩

lemma Agrees.executeRecoveryWorkflow (hag : Agrees svc md) :
    md.executeRecoveryWorkflow rec now random = md.continueRecovery rec
        (svc.startRecovery rec.classification.category) now random := by
  simp only [Service.executeRecoveryWorkflow, startRecovery, recoveryOrder, hag.workflows]

lemma Outside.stopped (ho : Outside c) : Stopped c := by
  cases c with
  | recovered id r ran => exact ho.elim
  | _ => trivial

lemma Outside.coherent (ho : Outside c) : CoherentCall c := by
  cases c with
  | recovering id rv wait => exact ho.elim
  | _ => trivial

lemma outside_continueRun (svc : Service) (now : Nat) (k : String) (rd : List String) (pos : Nat) :
    (svc.continueRun now k rd pos).1.fallbacks = svc.fallbacks ∧
      Outside (svc.continueRun now k rd pos).2 := by
  have hr : ∀ k id, (svc.retryError k id).fallbacks = svc.fallbacks :=
    fun k id => (same_updateRecord svc id _).2.2
  cases rd with
  | cons id rest => exact ⟨hr k id, trivial⟩
  | nil =>
    simp only [continueRun]
    split
    · exact ⟨rfl, trivial⟩
    · exact ⟨hr _ _, trivial⟩

/-- The call goes on with the step, or to the end, at which its recovery has arrived. If nowhere, it
waits in the step it was in, or is outside of any recovery. -/
lemma resumeCall_arrival (hr : svc.resumeCall c ok now random = some (t, next)) :
    (∃ record cursor m, arrival svc c ok = some (record, cursor) ∧ Agrees svc m ∧
        m.continueRecovery record cursor now random = (t, next)) ∨
      arrival svc c ok = none ∧ t.fallbacks = svc.fallbacks ∧
        ((∃ id id' rv wait w', c = .recovering id rv wait ∧ outcome wait ok = none ∧
            next = .recovering id' rv w') ∨ Outside c ∧ Outside next) := by
  cases c with
  | record id sg =>
    obtain ⟨record, hf, r⟩ := map_eq_some_iff.mp hr
    simp only [arrival, hf, bind_some]
    rcases resumeRecord_cases svc record now random sg ok with ⟨hrea, m, hag, same⟩ | ⟨hab, hqu⟩
    · refine .inl ⟨record, _, m, if_pos hrea, hag, ?_⟩
      rw [← hag.executeRecoveryWorkflow, ← same, r]
    · rw [r] at hqu
      exact .inr ⟨by simp [hab], hqu.1, .inr ⟨trivial, hqu.2⟩⟩
  | recovering id rv wait =>
    obtain ⟨record, hf, r⟩ := map_eq_some_iff.mp hr
    simp only [arrival, hf, bind_some]
    rcases resumeStep_cases svc record wait ok with ⟨se, m, ended, hag, step⟩ | ⟨w', hab, step⟩
    · simp only [resumeRecovery, step] at r
      exact .inl ⟨record, _, m, by rw [ended]; rfl, hag, r⟩
    · simp only [resumeRecovery, step] at r
      cases r
      exact .inr ⟨by rw [hab]; rfl, rfl, .inl ⟨id, record.id, rv, wait, w', rfl, hab, rfl⟩⟩
  | scheduling id sg =>
    obtain ⟨record, hf, r⟩ := map_eq_some_iff.mp hr
    cases sg with
    | failing w | queueing w =>
      cases w <;> cases ok <;> cases r <;> exact .inr ⟨rfl, rfl, .inr ⟨trivial, trivial⟩⟩
  | resolving id w =>
    obtain ⟨record, hf, r⟩ := map_eq_some_iff.mp hr
    cases w <;> cases ok <;> cases r <;> exact .inr ⟨rfl, rfl, .inr ⟨trivial, trivial⟩⟩
  | processing run =>
    rcases resumeRun_cases (some.inj hr) with ⟨rfl, rfl | rfl⟩ | ⟨-, -, rfl, rfl⟩
    · exact .inr ⟨rfl, rfl, .inr ⟨trivial, trivial⟩⟩
    · exact .inr ⟨rfl, rfl, .inr ⟨trivial, trivial⟩⟩
    · have hqu := outside_continueRun svc run.now run.key run.ready run.position
      exact .inr ⟨rfl, hqu.1, .inr ⟨trivial, hqu.2⟩⟩
  | _ => cases hr

lemma Agrees.good_iff (hag : Agrees svc md) (cursor : Cursor) :
    Good md rec cursor ↔ Good svc rec cursor := by
  cases cursor with
  | finished r ran => exact Iff.rfl
  | inside rv => simp only [Good, Served, hag.strategies]

lemma good_iff (har : Arrives cursor) : Good svc rec cursor ↔ FallbackServed svc rec cursor := by
  cases cursor with
  | finished r ran => exact ⟨fun _ => trivial, fun _ => har⟩
  | inside rv => exact Iff.rfl

/-- The place at which a call has arrived is good just if the step to it was careful. -/
lemma good_arrival_iff (hc : CoherentCall c) (hre : arrival svc c ok = some (record, cursor)) :
    Good svc record cursor ↔ Goes c ok ∧ FallbackServed svc record cursor := by
  cases c with
  | record id sg =>
    obtain ⟨r', hf, hst⟩ := bind_eq_some_iff.mp hre
    split at hst
    · cases hst
      rw [good_iff (arrives_startRecovery svc record.classification.category)]
      exact ⟨fun hs => ⟨trivial, hs⟩, And.right⟩
    · cases hst
  | recovering id rv wait =>
    obtain ⟨r', hf, had⟩ := bind_eq_some_iff.mp hre
    obtain ⟨se, he, hsm⟩ := map_eq_some_iff.mp had
    cases hsm
    have hg : Goes (.recovering id rv wait) ok ↔ Arrives (rv.advance se) := by
      rw [arrives_advance_iff hc]
      simp [Goes, he]
    rw [hg]
    constructor
    · intro hgd
      have har : Arrives (rv.advance se) := by
        cases next : rv.advance se with
        | finished r ran =>
          rw [next] at hgd
          exact hgd
        | inside recovery' => exact coherent_of_advance hc next
      exact ⟨har, (good_iff har).mp hgd⟩
    · rintro ⟨har, hs⟩
      exact (good_iff har).mpr hs
  | _ => cases hre

lemma coherent_arrival (hc : CoherentCall c)
    (hre : arrival svc c ok = some (record, .inside rv)) : Coherent rv := by
  cases c with
  | record id sg =>
    obtain ⟨r', hf, hs⟩ := bind_eq_some_iff.mp hre
    split at hs
    · obtain ⟨hsm, he⟩ := Prod.mk.inj (some.inj hs)
      have har := arrives_startRecovery svc r'.classification.category
      rw [he] at har
      exact har
    · cases hs
  | recovering id recovery' wait =>
    obtain ⟨r', hf, had⟩ := bind_eq_some_iff.mp hre
    obtain ⟨se, ended, hsm⟩ := map_eq_some_iff.mp had
    exact coherent_of_advance hc (Prod.mk.inj hsm).2
  | _ => cases hre

lemma coherent_continueRecovery (inside : ∀ rv, cursor = .inside rv → Coherent rv) :
    CoherentCall (svc.continueRecovery rec cursor now random).2 := by
  cases cursor with
  | finished r ran => trivial
  | inside rv => exact inside rv rfl

def Invariant (s : State) : Prop := ∀ call ∈ s.calls, CoherentCall call

lemma recoversInOrder_iff (s : State) : RecoversInOrder s ↔
    (∀ c ∈ s.calls, Stopped c) ∧ ∀ use ∈ s.service.fallbacks, Right use :=
  ⟨fun sn => ⟨sn.stopped, sn.right⟩, fun ⟨stopped, right⟩ => ⟨stopped, right⟩⟩

lemma begin_iff (s : State) (r : Service × Call) :
    RecoversInOrder (s.begin r) ↔ (∀ c ∈ s.calls, Stopped c) ∧
      (∀ use ∈ r.1.fallbacks, Right use) ∧ Stopped r.2 := by
  rw [recoversInOrder_iff, State.begin, forall_mem_append, forall_mem_singleton]
  tauto

lemma begin_outside {r : Service × Call} (inv : Invariant s)
    (hca : Careful s l) (hs : r.1.fallbacks = s.service.fallbacks)
    (ho : Outside r.2) : Invariant (s.begin r) ∧
      (RecoversInOrder (s.begin r) ↔ RecoversInOrder s ∧ Careful s l) := by
  refine ⟨forall_append inv ho.coherent, ?_⟩
  rw [begin_iff, hs, recoversInOrder_iff]
  simp only [ho.stopped, hca, and_true]

lemma resume_kept {i : Nat} (inv : Invariant s) (hp : s.calls[i]? = some c)
    (hr : s.service.resumeCall c ok now random = some (t, next)) :
    Invariant ⟨t, s.calls.set i next⟩ ∧
      (RecoversInOrder ⟨t, s.calls.set i next⟩ ↔ RecoversInOrder s ∧
        Careful s (.resume i ok now random)) := by
  have hc := inv c (mem_of_getElem? hp)
  have hu : Stopped c := by
    cases c with
    | recovered id request ran => cases hr
    | _ => trivial
  have hca : Careful s (.resume i ok now random) ↔ Goes c ok ∧
      ∀ re ∈ arrival s.service c ok, FallbackServed s.service re.1 re.2 := by
    simp [Careful, hp]
  rw [hca, recoversInOrder_iff, recoversInOrder_iff, forall_set_iff hp hu]
  rcases resumeCall_arrival hr with ⟨rec, cursor, md, re, hag, r⟩ | ⟨re, same, waiting | ho⟩
  · have hc' : CoherentCall (md.continueRecovery rec cursor now random).2 := by
      refine coherent_continueRecovery fun rv hin => ?_
      rw [hin] at re
      exact coherent_arrival hc re
    have hk := kept_continueRecovery md rec now random cursor
    rw [r] at hc' hk
    refine ⟨forall_set inv i hc', ?_⟩
    rw [hag.fallbacks, hag.good_iff, good_arrival_iff hc re] at hk
    rw [re]
    simp only [mem_some_iff, forall_eq']
    tauto
  · obtain ⟨id, id', rv, wait, wait', rfl, hw, rfl⟩ := waiting
    refine ⟨forall_set inv i hc, ?_⟩
    simp [re, same, Stopped, Goes, hw]
  · obtain ⟨ho, ho'⟩ := ho
    refine ⟨forall_set inv i ho'.coherent, ?_⟩
    have hg : Goes c ok := by
      cases c with
      | recovering id rv wait => exact ho.elim
      | _ => trivial
    simp [re, same, ho'.stopped, hg]

lemma step_kept {t : State} (inv : Invariant s) (hs : s.step l = some t) :
    Invariant t ∧ (RecoversInOrder t ↔ RecoversInOrder s ∧ Careful s l) := by
  cases steps_of_step hs with
  | recordError => exact begin_outside inv trivial rfl trivial
  | @scheduleRetry _ st =>
    exact begin_outside inv trivial (fallbacks_scheduleRetry st) trivial
  | resolveNothing => exact ⟨inv, by simp [Careful]⟩
  | resolveError | escalateError =>
    exact begin_outside inv trivial (same_updateRecord ..).2.2 trivial
  | @executeRecoveryWorkflow id now random record hf =>
    have har := arrives_startRecovery s.service record.classification.category
    have hca : Careful s (.executeRecoveryWorkflow id now random) ↔ FallbackServed s.service
        record (s.service.startRecovery record.classification.category) := by
      simp [Careful, hf]
    constructor
    · refine forall_append inv (coherent_continueRecovery fun rv hin => ?_)
      rw [hin] at har
      exact har
    · rw [begin_iff, hca, recoversInOrder_iff, and_assoc, ← good_iff har]
      exact and_congr_right fun _ => kept_continueRecovery s.service record now random _
  | @processRetryQueue now =>
    have hqu := outside_continueRun s.service now "" [] 0
    exact begin_outside inv trivial hqu.1 hqu.2
  | addFallbackStrategy | addRecoveryWorkflow =>
    refine ⟨inv, ?_⟩
    simp [recoversInOrder_iff, Careful]
  | resume hp hr => exact resume_kept inv hp hr

/-- Recoveries go as they should just if every step was careful. -/
theorem recoversInOrder_iff_careful (strategies : OrderedMap String FallbackStrategy)
    (workflows : OrderedMap String RecoveryWorkflow) {labels : List Label} {t : State}
    (run : Run State.step Always (launched strategies workflows) labels t) :
    RecoversInOrder t ↔ Run State.step Careful (launched strategies workflows) labels t := by
  refine run.iff_within Invariant RecoversInOrder (fun s l t inv hs => (step_kept inv hs).1)
    (fun s l t inv hs => (step_kept inv hs).2) ?_ ?_
  · rintro c ⟨⟩
  · constructor
    · rintro c ⟨⟩
    · rintro use ⟨⟩

deriving instance Decidable for Serves, Served

instance (recovery : Recovery) (ok : Bool) : Decidable (EndsEarly recovery ok) := by
  unfold EndsEarly
  repeat' split
  all_goals infer_instance

instance (service : Service) (record : ErrorRecord) (cursor : Cursor) :
    Decidable (FallbackServed service record cursor) := by
  cases cursor <;> dsimp only [FallbackServed] <;> infer_instance

instance (call : Call) (ok : Bool) : Decidable (Goes call ok) := by
  cases call <;> dsimp only [Goes] <;> infer_instance

instance (s : State) (label : Label) : Decidable (Careful s label) := by
  induction label using Label.casesOn <;> dsimp only [Careful] <;> infer_instance

/-- A strategy under the key at which it is looked up, which has nothing to fall back to. -/
def keyedFallback : FallbackStrategy where
  id := crmSync.key
  service := crmSync.service
  operation := crmSync.operation
  type := .custom
  config := ⟨none, none, none⟩
  isActive := true

/-- A workflow whose only step is handled by itself. -/
def fallbackRecovery : RecoveryWorkflow where
  id := "fallback_recovery"
  errorCategories := [.network]
  steps := [⟨"fallback", .fallback, some "fallback"⟩]
  isActive := true
  autoExecute := true
  priority := 1

def notifyingRecovery : RecoveryWorkflow where
  id := "notifying_recovery"
  errorCategories := [.network]
  steps := [⟨"notify", .notification, none⟩]
  isActive := true
  autoExecute := true
  priority := 2

/-- The outcomes of the workflows that a call went through, and the strategies used. -/
def recoveriesOf (s : State) : List (List (String × List Bool)) × List (Option String) :=
  (s.calls.filterMap fun call => match call with
      | .recovered _ _ ran => some (ran.map fun entry => (entry.1.id, entry.2))
      | _ => none,
    s.service.fallbacks.map fun use => use.used.map (·.id))

/-- A network error is recorded. The first workflow has a step that fails and is its own handler,
which fails again; the second one then runs. -/
def fallBackThenNotify : List Label := List.flatten
  [[.addRecoveryWorkflow notifyingRecovery, .addRecoveryWorkflow fallbackRecovery,
    .addFallbackStrategy keyedFallback,
    .recordError "e1" (.text "Connection refused") crmSync none 1000], replies 0 8 1000]

theorem fallBackThenNotify_recovers_in_order : ∃ t,
    Run State.step Always (launched .empty .empty) fallBackThenNotify t ∧
      recoveriesOf t = ([[("fallback_recovery", [false, false]), ("notifying_recovery", [true])]],
        [some crmSync.key, some crmSync.key]) ∧ RecoversInOrder t := by
  exact exists_careful_run (by decide +kernel) fun _ run hc _ =>
    (recoversInOrder_iff_careful _ _ run).mpr hc

/-- The last workflow that ran had a step that failed, and was not the last one. -/
def stopsEarly : Call → Bool
  | .recovered _ request ran =>
    ran.length < (applicable request).length && ran.getLast?.all fun entry => entry.2.contains false
  | _ => false

lemma not_stopped_of_stopsEarly (he : stopsEarly c = true) : ¬ Stopped c := by
  cases c with
  | recovered id r ran =>
    intro hr
    simp only [stopsEarly, Bool.and_eq_true, decide_eq_true_eq] at he
    rcases hr.stopped with all | ⟨e, l, hg⟩
    · omega
    · rw [mem_def.mp l, all_some] at he
      exact hg (contains_iff_mem.mp he.2)
  | _ => cases he

/-- No strategy was used although one was registered. -/
def missed (use : FallbackUse) : Bool :=
  use.used.isNone && use.registered.any fun strategy => Serves strategy use.context

lemma not_right_of_missed {use : FallbackUse} (hmi : missed use = true) : ¬ Right use := by
  simp only [missed, Bool.and_eq_true, isNone_iff_eq_none, List.any_eq_true,
    decide_eq_true_eq] at hmi
  intro right
  obtain ⟨strategy, hu, -⟩ := right hmi.2
  simp [hmi.1] at hu

/-- A network error is recorded with the default strategies and workflow, and with a workflow
that follows. -/
def recordWithDefaults : List Label := List.flatten
  [[.addRecoveryWorkflow notifyingRecovery,
    .recordError "e1" (.text "Connection refused") crmSync none 1000], replies 0 8 1000]

theorem recordWithDefaults_stops_early : ∃ t, Run State.step Always defaults recordWithDefaults t ∧
      recoveriesOf t = ([[("network_error_recovery", [true, false])]], [none]) ∧
      (¬ ∀ call ∈ t.calls, Stopped call) ∧ ¬ ∀ use ∈ t.service.fallbacks, Right use := by
  refine exists_run_of_seen (fun t =>
    recoveriesOf t = ([[("network_error_recovery", [true, false])]], [none]) ∧
      (∃ call ∈ t.calls, stopsEarly call = true) ∧ ∃ use ∈ t.service.fallbacks, missed use = true)
    (by decide +kernel) fun t _ ⟨recoveries, ⟨call, mem, early⟩, use, mem', missing⟩ => ?_
  refine ⟨recoveries, fun hs => ?_, fun right => ?_⟩
  · exact not_stopped_of_stopsEarly early (hs call mem)
  · exact not_right_of_missed missing (right use mem')

end RecoveryOrder
