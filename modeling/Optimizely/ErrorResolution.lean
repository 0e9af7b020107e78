import Optimizely.ErrorSteps

/-!
# Resolved errors

`resolveError` sets the status of a record and leaves it in the retry queues, in the lists of the
runs of `processRetryQueue` and with the calls about to queue it. All of them set the status again.
A record at rest when it is resolved, and not scheduled afterwards, stays resolved.
-/

namespace ErrorResolution

open ErrorHandling TransitionRuns List Option OrderedMap TaskLists Service

/-- The steps that a recovery may still execute. -/
def ahead (recovery : Recovery) : List RecoveryStep :=
  (if recovery.handling then []
    else recovery.rest ++ (recovery.step :: recovery.rest).filterMap recovery.workflow.handlerOf) ++
  recovery.later.flatMap (·.steps)

def queueing : StepWait → Bool
  | .retry (.queueing _) => true
  | _ => false

/-- The record that a call may still schedule or queue for a retry. -/
def mayRetry : Call → Option String
  | .record id _ => some id
  | .recovering id recovery wait =>
    if queueing wait || (ahead recovery).any (·.type = .retry) then some id else none
  | .scheduling id (.queueing _) => some id
  | _ => none

/-- The call will not touch the status of the record. -/
def Harmless (id : String) (call : Call) : Prop := id ∉ call.ready ∧ mayRetry call ≠ some id

def Unqueued (service : Service) (id : String) : Prop :=
  ∀ entry ∈ service.retryQueues.entries, id ∉ entry.2

/-- The record is in no queue, and no call will touch its status. -/
structure AtRest (s : State) (id : String) : Prop where
  unqueued : Unqueued s.service id
  calls : ∀ call ∈ s.calls, Harmless id call

/-- Records are resolved at rest, and neither `scheduleRetry` nor `executeRecoveryWorkflow` is
called for one that is resolved. -/
def Careful (s : State) : Label → Prop
  | .resolveError id _ _ => AtRest s id
  | .scheduleRetry id _ _ _ => s.service.statusOf id ≠ some .resolved
  | .executeRecoveryWorkflow id _ _ => s.service.statusOf id ≠ some .resolved
  | _ => True

/-- A record of which `resolveError` has returned true is resolved, and has not been retried
since. -/
def StaysResolved (s : State) : Prop :=
  ∀ id count, .resolved id count ∈ s.calls →
    ∃ record, s.service.errorRecords.get? id = some record ∧ record.status = .resolved ∧
      record.retryCount = count

variable {sr svc af : Service} {record rec : ErrorRecord} {ok : Bool} {now : Nat} {rn : Rat}
  {step : RecoveryStep} {rc rv : Recovery} {id other x k : String} {call c next : Call}
  {wait : StepWait}

lemma mem_of_handlerOf {w : RecoveryWorkflow} {next : RecoveryStep}
    (hd : w.handlerOf step = some next) : next ∈ w.steps := by
  obtain ⟨id, -, hf⟩ := bind_eq_some_iff.mp hd
  exact mem_of_find?_eq_some hf

lemma ahead_enterWorkflow {r : Request} {l : List RecoveryWorkflow}
    {ran : List (RecoveryWorkflow × List Bool)} (he : enterWorkflow r ran l = .inside rv) :
    ∀ step ∈ rv.step :: ahead rv, step ∈ l.flatMap (·.steps) := by
  cases l with
  | nil => cases he
  | cons w l =>
    simp only [enterWorkflow] at he
    split at he
    · cases he
    · rename_i first rest ss
      cases he
      intro step mem
      simp only [ahead, Bool.false_eq_true, if_false, mem_cons, mem_append, mem_filterMap] at mem
      simp only [flatMap_cons, mem_append, ss, mem_cons]
      rcases mem with rfl | (hin | ⟨fl, -, hd⟩) | hi
      · exact .inl (.inl rfl)
      · exact .inl (.inr hin)
      · have mem := mem_of_handlerOf hd
        rw [ss, mem_cons] at mem
        exact .inl mem
      · exact .inr hi

lemma ahead_advance {next : Recovery} (had : rv.advance ok = .inside next) :
    ∀ step ∈ next.step :: ahead next, step ∈ ahead rv := by
  obtain ⟨r, ran, w, outcomes, l, re, rs, b⟩ := rv
  cases b with
  | true =>
    cases ok with
    | true => cases had
    | false =>
      intro step mem
      simpa [ahead] using ahead_enterWorkflow had step mem
  | false =>
    cases ok with
    | true =>
      cases rs with
      | nil => cases had
      | cons second rs =>
        cases had
        intro step mem
        simp only [ahead, Bool.false_eq_true, if_false, mem_cons, mem_append,
          mem_filterMap] at mem ⊢
        rcases mem with rfl | (hin | ⟨fl, ha, d⟩) | hi
        · exact .inl (.inl (.inl rfl))
        · exact .inl (.inl (.inr hin))
        · exact .inl (.inr ⟨fl, .inr ha, d⟩)
        · exact .inr hi
    | false =>
      simp only [Recovery.advance] at had
      split at had
      · cases had
      · rename_i d hf
        cases had
        intro step mem
        simp only [ahead, Bool.false_eq_true, if_false, if_true, nil_append, mem_cons,
          mem_append, mem_filterMap] at mem ⊢
        rcases mem with rfl | hi
        · exact .inl (.inr ⟨re, .inl rfl, hf⟩)
        · exact .inr hi

def view (service : Service) (id : String) : Option (RecordStatus × Nat) :=
  (service.errorRecords.get? id).map fun record => (record.status, record.retryCount)

lemma view_of_works (hwo : Works x svc af) (hne : id ≠ x) : view af id = view svc id := by
  rw [view, view, hwo.others id hne]

lemma view_updateRecord (svc : Service) (id : String) (change : ErrorRecord → ErrorRecord)
    (hs : ∀ rec, ((change rec).status, (change rec).retryCount) =
      (rec.status, rec.retryCount)) (x : String) :
    view (svc.updateRecord id change) x = view svc x := by
  rw [view, view, get?_updateRecord]
  by_cases hh : id = x
  · rw [if_pos hh, Option.map_map]
    congr 1
    funext rec
    exact hs rec
  · rw [if_neg hh]

lemma view_escalateError (svc : Service) (rec : ErrorRecord) (id : String) :
    view (svc.escalateError rec) id = view svc id := by
  refine view_updateRecord svc rec.id _ ?_ id
  exact fun _ => rfl

lemma view_executeRecoveryStep (x : step.type ≠ .retry) (id : String) :
    view (svc.executeRecoveryStep rec step now rn).1 id = view svc id := by
  rw [executeRecoveryStep]
  split
  · rename_i hr
    exact absurd hr x
  · rfl
  · rfl
  · exact view_escalateError svc rec id
  · rfl

lemma queueing_start (s : FallbackStrategy) : queueing s.start = false := by
  rw [FallbackStrategy.start]
  cases s.type with
  | cache | queueForLater =>
    dsimp only
    split <;> rfl
  | _ => rfl

lemma queueing_executeRecoveryStep
    (hw : queueing (svc.executeRecoveryStep rec step now rn).2 = true) : step.type = .retry := by
  rw [executeRecoveryStep] at hw
  split at hw
  · assumption
  · rw [executeFallback] at hw
    dsimp only at hw
    split at hw
    · cases hw
    · rw [queueing_start] at hw
      cases hw
  · cases hw
  · cases hw
  · cases hw

/-- The call is about no other record, and is no run of `processRetryQueue`. -/
structure About (id : String) (call : Call) : Prop where
  owner : ∀ other, call.owner = some other → other = id
  ready : call.ready = []

lemma owner_of_mayRetry (may : mayRetry c = some id) : c.owner = some id := by
  cases c with
  | record id' sg => exact may
  | recovering id' rv wait =>
    simp only [mayRetry] at may
    split at may
    · exact may
    · cases may
  | scheduling id' sg =>
    cases sg with
    | failing w => cases may
    | queueing w => exact may
  | _ => cases may

lemma About.harmless (a : About id c) (hne : x ≠ id) : Harmless x c := by
  constructor
  · simp [a.ready]
  · intro may
    exact hne (a.owner x (owner_of_mayRetry may))

lemma about_of_owner (owner : c.owner = some id) (ready : c.ready = []) : About id c where
  owner := by
    intro x hs
    exact some.inj (hs.symm.trans owner)
  ready := ready

lemma about_of_none (id : String) (owner : c.owner = none) (ready : c.ready = []) : About id c where
  owner := by
    intro x hs
    simp [owner] at hs
  ready := ready

def isResolution : Call → Bool
  | .resolving _ _ => true
  | .resolved _ _ => true
  | _ => false

/-- What `recordError` and `executeRecoveryWorkflow` lead to. -/
structure Continues (id : String) (call : Call) : Prop extends About id call where
  working : isResolution call = false

lemma continues_of_owner (ho : c.owner = some id)
    (hrd : c.ready = []) (hw : isResolution c = false) : Continues id c :=
  ⟨about_of_owner ho hrd, hw⟩

lemma continues_of_none (id : String) (ho : c.owner = none)
    (hrd : c.ready = []) (hw : isResolution c = false) : Continues id c :=
  ⟨about_of_none id ho hrd, hw⟩

lemma continues_of_workingOn (hw : WorkingOn id c) : Continues id c := by
  cases hw with
  | record _ | recovering _ _ | scheduling _ => exact continues_of_owner rfl rfl rfl
  | recovered _ _ | ended => exact continues_of_none id rfl rfl rfl

lemma about_resumeCall (hn : ∀ r, svc.errorRecords.get? id = some r → r.id = id)
    (ho : c.owner = some id)
    (hr : svc.resumeCall c ok now rn = some (af, next)) : About id next := by
  obtain ⟨r, hf, ⟨-, hw | hw⟩ | ⟨-, -, rfl | rfl | rfl⟩⟩ := piece_resumeCall ho hr
  · exact hn r hf ▸ (continues_of_workingOn hw).toAbout
  · exact (continues_of_workingOn hw).toAbout
  · exact about_of_none id rfl rfl
  · exact about_of_owner rfl rfl
  · exact about_of_none id rfl rfl

lemma queueing_resumeStep {w' : StepWait} (hr : svc.resumeStep rec wait ok = (af, .waits w'))
    (hw : queueing w' = true) : queueing wait = true := by
  cases wait with
  | retry sg =>
    cases sg with
    | failing w =>
      cases w <;> cases ok <;> cases hr
      cases hw
    | queueing w => rfl
  | command | turn _ => cases hr

lemma mayRetry_recovering : mayRetry (.recovering id rv wait) = some id ↔
      queueing wait = true ∨ ∃ step ∈ ahead rv, step.type = .retry := by
  cases hw : queueing wait <;> simp [mayRetry, hw]

lemma mayRetry_resumeRecovery (may : mayRetry (svc.resumeRecovery rec rv wait ok now rn).2 =
      some rec.id) : mayRetry (.recovering rec.id rv wait) = some rec.id := by
  rw [mayRetry_recovering]
  simp only [resumeRecovery] at may
  split at may
  · rename_i hr
    rcases mayRetry_recovering.mp may with hw | inside
    · exact .inl (queueing_resumeStep hr hw)
    · exact .inr inside
  · rename_i middle ok' hr
    cases had : rv.advance ok' with
    | finished r ran =>
      rw [had] at may
      cases may
    | inside next =>
      rw [had] at may
      have mem := ahead_advance had
      rcases mayRetry_recovering.mp may with hw | ⟨step, inside, hrt⟩
      · exact .inr ⟨next.step, mem _ mem_cons_self, queueing_executeRecoveryStep hw⟩
      · exact .inr ⟨step, mem _ (mem_cons_of_mem _ inside), hrt⟩

lemma mayRetry_of_queues (hq : c.queues ok = some id) : mayRetry c = some id := by
  unfold Call.queues at hq
  split at hq <;> cases hq <;> rfl

lemma view_resumeRecovery
    (hqu : mayRetry (.recovering rec.id rv wait) ≠ some rec.id) (id : String) :
    view (svc.resumeRecovery rec rv wait ok now rn).1 id = view svc id := by
  rw [ne_eq, mayRetry_recovering, not_or] at hqu
  have huq : (svc.resumeStep rec wait ok).1 = svc := by
    rw [resumeStep_fst rec.id rv wait]
    refine afterQueueing_of_none ?_
    cases wait with
    | retry sg =>
      cases sg with
      | failing w => cases ok <;> rfl
      | queueing w => exact absurd rfl hqu.1
    | command | turn _ => rfl
  simp only [resumeRecovery]
  split
  · rename_i hr
    rw [hr] at huq
    rw [huq]
  · rename_i middle ok' hr
    rw [hr] at huq
    subst huq
    cases had : rv.advance ok' with
    | finished r ran => rfl
    | inside next =>
      refine view_executeRecoveryStep (fun retry => ?_) id
      exact hqu.2 ⟨next.step, ahead_advance had _ mem_cons_self, retry⟩

lemma unqueued_iff : Unqueued svc id ↔ ∀ k, id ∉ svc.queue k := by
  constructor
  · intro huq k mem
    rw [queue] at mem
    cases hst : svc.retryQueues.get? k with
    | none => simp [hst] at mem
    | some es =>
      rw [hst] at mem
      exact huq (k, es) (mem_of_get? hst) mem
  · rintro huq ⟨k, es⟩ mem hin
    apply huq k
    rw [queue, get?_of_mem mem]
    exact hin

lemma queue_of_set {q : OrderedMap String (List String)} {key' : String}
    {es : List String} (hs : af.retryQueues = q.set k es) :
    af.queue key' = if k = key' then es else (q.get? key').getD [] := by
  rw [queue, hs, get?_set]
  split <;> rfl

lemma unqueued_pushRetry (huq : Unqueued svc id)
    (hne : id ≠ rec.id) : Unqueued (svc.pushRetry rec) id := by
  rw [unqueued_iff] at huq ⊢
  intro k mem
  rw [queue_of_set (by rfl)] at mem
  split at mem
  · rcases mem_append.mp mem with old | new
    · exact huq _ old
    · exact hne (mem_singleton.mp new)
  · exact huq k mem

lemma unqueued_retryError (huq : Unqueued svc id) : Unqueued (svc.retryError k x) id := by
  by_cases hq : x ∈ svc.queue k
  · rw [unqueued_iff] at huq ⊢
    have hs : (svc.retryError k x).retryQueues = svc.retryQueues.set k ((svc.queue k).erase x) := by
      simp [retryError, hq]
    intro key' mem
    rw [queue_of_set hs] at mem
    split at mem
    · exact huq k (mem_of_mem_erase mem)
    · exact huq key' mem
  · have hs : (svc.retryError k x).retryQueues = svc.retryQueues := by
      simp [retryError, hq]
    rwa [Unqueued, hs]

lemma view_retryError (hne : id ≠ x) : view (svc.retryError k x) id = view svc id := by
  refine congrArg (Option.map _) ((get?_updateRecord svc x _ id).trans ?_)
  rw [if_neg (Ne.symm hne)]

/-- What the record at rest does not notice. -/
structure Undisturbed (id : String) (service after : Service) (next : Call) : Prop where
  unqueued : Unqueued after id
  harmless : Harmless id next
  view : view after id = view service id

lemma undisturbed_continueRun {rd : List String} {pos : Nat}
    (huq : Unqueued svc id) (hab : id ∉ rd) : Undisturbed id svc (svc.continueRun now k rd pos).1
      (svc.continueRun now k rd pos).2 := by
  cases rd with
  | cons first r =>
    have hne : id ≠ first := by
      rintro rfl
      exact hab mem_cons_self
    exact ⟨unqueued_retryError huq,
      ⟨fun mem => hab (mem_cons_of_mem _ mem), by simp [mayRetry, continueRun]⟩,
      view_retryError hne⟩
  | nil =>
    simp only [continueRun]
    split
    · exact ⟨huq, ⟨by simp [Call.ready], by simp [mayRetry]⟩, rfl⟩
    · rename_i position' key' first r hf
      obtain ⟨es, mem, hin, ho⟩ := findReady_mem hf
      have hu := huq (key', es) (mem_of_mem_drop mem)
      have hne : id ≠ first := by
        rintro rfl
        exact hu hin
      exact ⟨unqueued_retryError huq,
        ⟨fun mem => hu (ho id mem), by simp [mayRetry]⟩, view_retryError hne⟩

section

variable (huq : Unqueued svc id) (hr : svc.resumeCall c ok now rn = some (af, next))
include huq hr

lemma undisturbed_of_other (hn : ∀ rec, svc.errorRecords.get? x = some rec → rec.id = x)
    (hne : id ≠ x) (ho : c.owner = some x) : Undisturbed id svc af next := by
  obtain ⟨rec, hf, hwo⟩ := works_resumeCall ho hr
  have hnm := hn rec hf
  rw [hnm] at hwo
  have hq : Unqueued (svc.afterQueueing c ok rec) id ∧
      view (svc.afterQueueing c ok rec) id = view svc id := by
    cases hqs : c.queues ok with
    | none =>
      rw [afterQueueing_of_none hqs]
      exact ⟨huq, rfl⟩
    | some q =>
      rw [afterQueueing_of_some hqs]
      exact ⟨unqueued_pushRetry huq (hnm ▸ hne), rfl⟩
  constructor
  · rw [Unqueued, hwo.queues]
    exact hq.1
  · exact (about_resumeCall hn ho hr).harmless hne
  · rw [view_of_works hwo hne]
    exact hq.2

lemma undisturbed_of_own (hn : ∀ record, svc.errorRecords.get? id = some record → record.id = id)
    (hh : Harmless id c) (ho : c.owner = some id) : Undisturbed id svc af next := by
  cases c with
  | record id' sg =>
    cases ho
    exact absurd rfl hh.2
  | recovering id' rv wait =>
    cases ho
    have ha := about_resumeCall hn rfl hr
    obtain ⟨record, hf, hwo⟩ := works_resumeCall rfl hr
    obtain ⟨record', hf', r⟩ := map_eq_some_iff.mp hr
    cases hf.symm.trans hf'
    have hnm := hn record hf
    subst hnm
    have hqu := hh.2
    constructor
    · have none' : (Call.recovering record.id rv wait).queues ok = none := by
        rw [eq_none_iff_forall_ne_some]
        intro q hqs
        have hs : q = record.id := Call.owner_of_queues hqs rfl
        subst hs
        exact hqu (mayRetry_of_queues hqs)
      rw [afterQueueing_of_none none'] at hwo
      rw [Unqueued, hwo.queues]
      exact huq
    · refine ⟨by simp [ha.ready], fun may => ?_⟩
      have s : mayRetry (svc.resumeRecovery record rv wait ok now rn).2 = some record.id := by
        rw [r]
        exact may
      exact hqu (mayRetry_resumeRecovery s)
    · have hs : view (svc.resumeRecovery record rv wait ok now rn).1 record.id =
          view svc record.id := view_resumeRecovery hqu record.id
      rw [r] at hs
      exact hs
  | scheduling id' sg =>
    cases ho
    cases sg with
    | queueing w => exact absurd rfl hh.2
    | failing w =>
      obtain ⟨record, hf, r⟩ := map_eq_some_iff.mp hr
      cases w <;> cases ok <;> cases r <;> exact ⟨huq, ⟨nofun, nofun⟩, rfl⟩
  | resolving id' w =>
    cases ho
    obtain ⟨record, hf, r⟩ := map_eq_some_iff.mp hr
    cases w <;> cases ok <;> cases r <;> exact ⟨huq, ⟨nofun, nofun⟩, rfl⟩
  | _ => cases ho

lemma undisturbed_resumeCall (hn : ∀ id rec, svc.errorRecords.get? id = some rec → rec.id = id)
    (hh : Harmless id c) : Undisturbed id svc af next := by
  rcases resumeCall_cases hr with ⟨x, ho⟩ | ⟨run, rfl, r⟩
  · by_cases hs : id = x
    · subst hs
      exact undisturbed_of_own huq hr (hn id) hh ho
    · exact undisturbed_of_other huq hr (hn x) hs ho
  · rcases resumeRun_cases r with ⟨rfl, rfl | rfl⟩ | ⟨-, -, rfl, rfl⟩
    · exact ⟨huq, ⟨nofun, nofun⟩, rfl⟩
    · exact ⟨huq, hh, rfl⟩
    · exact undisturbed_continueRun huq hh.1

end

lemma resolved_continueRun {rd : List String} {pos : Nat}
    (hrs : (svc.continueRun now k rd pos).1.statusOf id = some .resolved) :
    svc.statusOf id = some .resolved := by
  have hr : ∀ k x, (svc.retryError k x).statusOf id = some .resolved →
      svc.statusOf id = some .resolved := by
    intro k x hrs
    have st : (svc.retryError k x).statusOf id = _ := statusOf_updateRecord svc x _ id
    rw [st] at hrs
    split at hrs
    · simp at hrs
    · exact hrs
  rcases continueRun_cases k rd pos with hs | ⟨f, x, -, r⟩ | ⟨x, rest, -, r⟩
  · rwa [hs] at hrs
  · rw [r] at hrs
    exact hr f x hrs
  · rw [r] at hrs
    exact hr k x hrs

lemma resolved_resumeCall (hr : svc.resumeCall c ok now rn = some (af, next))
    (hrs : af.statusOf id = some .resolved) : svc.statusOf id = some .resolved := by
  rcases resumeCall_cases hr with ⟨x, ho⟩ | ⟨run, rfl, r⟩
  · obtain ⟨rec, hf, hwo⟩ := works_resumeCall ho hr
    have s := hwo.resolved hrs
    cases hqs : c.queues ok with
    | none => rwa [afterQueueing_of_none hqs] at s
    | some q =>
      rw [afterQueueing_of_some hqs] at s
      exact s
  · rcases resumeRun_cases r with ⟨rfl, -⟩ | ⟨-, -, rfl, rfl⟩
    · exact hrs
    · exact resolved_continueRun hrs

lemma isResolution_continueRun (k : String) (rd : List String) (pos : Nat) :
    isResolution (svc.continueRun now k rd pos).2 = false := by
  simp only [continueRun]
  split
  · rfl
  · split <;> rfl

lemma resolution_resumeCall (rs : isResolution next = true)
    (hr : svc.resumeCall c ok now rn = some (af, next)) :
    ∃ id w, c = .resolving id w ∧ af = svc ∧ (next = .resolving id .expire ∨
        ∃ rec, svc.errorRecords.get? id = some rec ∧ next = .resolved id rec.retryCount) := by
  rcases resumeCall_cases hr with ⟨x, ho⟩ | ⟨run, rfl, r⟩
  · obtain ⟨rec, hf, ⟨-, hw⟩ | ⟨⟨w, rfl⟩, rfl, rfl | hs | hs⟩⟩ := piece_resumeCall ho hr
    · rcases hw with hw | hw <;> cases rs.symm.trans (continues_of_workingOn hw).working
    · cases rs
    · exact ⟨x, w, rfl, rfl, .inl hs⟩
    · exact ⟨x, w, rfl, rfl, .inr ⟨rec, hf, hs⟩⟩
  · rcases resumeRun_cases r with ⟨rfl, rfl | rfl⟩ | ⟨-, -, rfl, rfl⟩
    · cases rs
    · cases rs
    · rw [isResolution_continueRun] at rs
      cases rs

structure Invariant (s : State) : Prop where
  named : s.service.Named
  rest : ∀ id, s.service.statusOf id = some .resolved → AtRest s id
  resolving : ∀ id write, .resolving id write ∈ s.calls → s.service.statusOf id = some .resolved
  returned : ∀ id count, .resolved id count ∈ s.calls → view s.service id = some (.resolved, count)

lemma statusOf_eq_map_view (svc : Service) (id : String) :
    svc.statusOf id = (view svc id).map (·.1) := by
  simp [statusOf, view, Function.comp_def]

lemma view_of_resolved (hrs : svc.statusOf id = some .resolved)
    (hf : svc.errorRecords.get? id = some rec) :
    view svc id = some (.resolved, rec.retryCount) := by
  simp only [statusOf, hf, map_some, some.injEq] at hrs
  simp [view, hf, hrs]

lemma view_resolveError (svc : Service) (rec : ErrorRecord) (r : String)
    (now : Nat) (id : String) : view (svc.resolveError rec r now).1 id = if rec.id = id then
        (svc.errorRecords.get? id).map fun old => (.resolved, old.retryCount) else view svc id := by
  rw [view, Service.resolveError, get?_updateRecord]
  split
  · rw [Option.map_map]
    rfl
  · rfl

namespace Invariant

variable {s t : State} (inv : Invariant s)
include inv

lemma staysResolved : StaysResolved s := by
  intro id re hr
  obtain ⟨rec, hf, hb⟩ := map_eq_some_iff.mp (inv.returned id re hr)
  rw [Prod.mk.injEq] at hb
  exact ⟨rec, hf, hb⟩

/-- A step that disturbs no resolved record, resolves none, and after which every call of
`resolveError` is one of those before it. -/
lemma of_kept (hn : t.service.Named) (hrs : ∀ id, t.service.statusOf id = some .resolved →
      s.service.statusOf id = some .resolved) (hk : ∀ id, s.service.statusOf id = some .resolved →
      AtRest t id ∧ view t.service id = view s.service id)
    (hr : ∀ id w, .resolving id w ∈ t.calls → ∃ w, .resolving id w ∈ s.calls)
    (hrt : ∀ id re, .resolved id re ∈ t.calls →
      view s.service id = some (.resolved, re)) : Invariant t := by
  constructor
  · exact hn
  · intro id hi
    exact (hk id (hrs id hi)).1
  · intro id w mem
    obtain ⟨w', b⟩ := hr id w mem
    have hw := inv.resolving id w' b
    rw [statusOf_eq_map_view, (hk id hw).2, ← statusOf_eq_map_view]
    exact hw
  · intro id re mem
    have hs := hrt id re mem
    have hw : s.service.statusOf id = some .resolved := by
      rw [statusOf_eq_map_view, hs]
      rfl
    rw [(hk id hw).2]
    exact hs

lemma begin {r : Service × Call} (hn : r.1.Named)
    (hrs : ∀ id, r.1.statusOf id = some .resolved → s.service.statusOf id = some .resolved)
    (hu : ∀ id, s.service.statusOf id = some .resolved → Undisturbed id s.service r.1 r.2)
    (hw : isResolution r.2 = false) : Invariant (s.begin r) := by
  have hea : ∀ c, isResolution c = true → c ∈ s.calls ++ [r.2] → c ∈ s.calls := by
    intro c rs mem
    rcases mem_append.mp mem with b | new
    · exact b
    · rw [mem_singleton.mp new, hw] at rs
      cases rs
  refine inv.of_kept hn hrs ?_ ?_ ?_
  · intro id hi
    have u := hu id hi
    have hr := inv.rest id hi
    refine ⟨⟨u.unqueued, ?_⟩, u.view⟩
    exact forall_append hr.calls u.harmless
  · intro id w mem
    exact ⟨w, hea _ rfl mem⟩
  · intro id re mem
    exact inv.returned id re (hea _ rfl mem)

lemma begin_works {id : String} {r : Service × Call} (hwo : Works id s.service r.1)
    (hc : Continues id r.2) (hu : s.service.statusOf id ≠ some .resolved) :
    Invariant (s.begin r) := by
  refine inv.begin (hwo.toHandles.named inv.named) (fun _ => hwo.resolved) ?_ hc.working
  intro x hrs
  have hne : x ≠ id := by
    rintro rfl
    exact hu hrs
  constructor
  · rw [Unqueued, hwo.queues]
    exact (inv.rest x hrs).unqueued
  · exact hc.toAbout.harmless hne
  · exact view_of_works hwo hne

lemma resolveError {id res : String} (r : AtRest s id)
    (hf : s.service.errorRecords.get? id = some rec) :
    Invariant (s.begin (s.service.resolveError rec res now)) := by
  have hn := inv.named id rec hf
  have ha := handles_resolveError s.service rec res now
  have hv := view_resolveError s.service rec res now
  rw [hn] at hv
  have hh : (s.service.resolveError rec res now).1.statusOf id = some .resolved := by
    rw [statusOf_eq_map_view, hv, if_pos rfl, hf]
    rfl
  have hat : ∀ x, AtRest s x → AtRest (s.begin (s.service.resolveError rec res now)) x := by
    intro x r
    constructor
    · rw [Unqueued, State.begin, ha.queues]
      exact r.unqueued
    · refine forall_append r.calls ⟨?_, nofun⟩
      simp [Call.ready, Service.resolveError]
  have hk : ∀ x re, view s.service x = some (.resolved, re) →
      view (s.service.resolveError rec res now).1 x = some (.resolved, re) := by
    intro x re sn
    rw [hv]
    split
    · obtain ⟨r', hf', hbt⟩ := map_eq_some_iff.mp sn
      rw [Prod.mk.injEq] at hbt
      rw [hf', ← hbt.2]
      rfl
    · exact sn
  constructor
  · exact ha.named inv.named
  · intro x hrs
    by_cases hs : id = x
    · exact hs ▸ hat id r
    · have hb : s.service.statusOf x = some .resolved := by
        rw [statusOf_eq_map_view, State.begin, hv, if_neg hs, ← statusOf_eq_map_view] at hrs
        exact hrs
      exact hat x (inv.rest x hb)
  · intro x w mem
    rcases mem_append.mp mem with old | new
    · have hb := inv.resolving x w old
      obtain ⟨r', hf', -⟩ := map_eq_some_iff.mp hb
      rw [statusOf_eq_map_view, State.begin, hk x _ (view_of_resolved hb hf')]
      rfl
    · cases mem_singleton.mp new
      rw [hn]
      exact hh
  · intro x re mem
    rcases mem_append.mp mem with old | new
    · exact hk x re (inv.returned x re old)
    · cases mem_singleton.mp new

lemma resumeCall {i : Nat} {c next : Call} (hp : s.calls[i]? = some c)
    (hr : s.service.resumeCall c ok now rn = some (af, next)) :
    Invariant ⟨af, s.calls.set i next⟩ := by
  have hm : c ∈ s.calls := mem_of_getElem? hp
  refine inv.of_kept (named_resumeCall inv.named hr) (fun id => resolved_resumeCall hr) ?_ ?_ ?_
  · intro id hrs
    have hrt := inv.rest id hrs
    have u := undisturbed_resumeCall hrt.unqueued hr inv.named (hrt.calls c hm)
    exact ⟨⟨u.unqueued, forall_set hrt.calls i u.harmless⟩, u.view⟩
  · intro id w mem
    rcases mem_or_eq_of_mem_set mem with old | rfl
    · exact ⟨w, old⟩
    · obtain ⟨id', w', rfl, -, hs | ⟨rec, -, hs⟩⟩ := resolution_resumeCall rfl hr
      · cases hs
        exact ⟨w', hm⟩
      · cases hs
  · intro id re mem
    rcases mem_or_eq_of_mem_set mem with old | rfl
    · exact inv.returned id re old
    · obtain ⟨id', w', rfl, -, hs | ⟨rec, hf, hs⟩⟩ := resolution_resumeCall rfl hr
      · cases hs
      · cases hs
        exact view_of_resolved (inv.resolving id w' hm) hf

end Invariant

lemma invariant_step {s t : State} {l : Label} (inv : Invariant s)
    (hca : Careful s l) (hs : s.step l = some t) : Invariant t := by
  have hn := named_step inv.named hs
  cases steps_of_step hs with
  | @recordError id e cn c now hfr =>
    have hrc := get?_set s.service.errorRecords id (newRecord id e cn c now)
    refine inv.begin hn ?_ ?_ rfl
    · intro x hrs
      rw [statusOf, hrc] at hrs
      split at hrs
      · cases hrs
      · exact hrs
    · intro x hrs
      have hne : id ≠ x := by
        rintro rfl
        simp [statusOf, hfr] at hrs
      constructor
      · exact (inv.rest x hrs).unqueued
      · exact (about_of_owner rfl rfl).harmless hne.symm
      · rw [view, view, hrc, if_neg hne]
  | @scheduleRetry id st now rn rec hf =>
    have hwo := works_scheduleRetry s.service rec st now rn
    rw [inv.named id rec hf] at hwo
    exact inv.begin_works hwo (continues_of_owner rfl rfl rfl) hca
  | resolveNothing => exact inv
  | resolveError hf => exact inv.resolveError hca hf
  | @escalateError id rec =>
    have hwo := works_escalateError s.service rec
    refine inv.begin hn (fun _ => hwo.resolved) ?_ rfl
    intro x hrs
    constructor
    · rw [Unqueued, hwo.queues]
      exact (inv.rest x hrs).unqueued
    · exact ⟨by simp [Call.ready], by simp [mayRetry]⟩
    · exact view_escalateError s.service rec x
  | @executeRecoveryWorkflow id now rn rec hf =>
    obtain ⟨hwo, hw⟩ := piece_executeRecoveryWorkflow s.service rec now rn
    rw [inv.named id rec hf] at hwo hw
    exact inv.begin_works hwo (continues_of_workingOn hw) hca
  | processRetryQueue =>
    refine inv.begin hn (fun id hrs => resolved_continueRun hrs)
      (fun id hrs => ?_) (isResolution_continueRun "" [] 0)
    exact undisturbed_continueRun (inv.rest id hrs).unqueued not_mem_nil
  | addFallbackStrategy | addRecoveryWorkflow =>
    exact inv.of_kept hn (fun _ => id)
      (fun id hrs => ⟨⟨(inv.rest id hrs).unqueued, (inv.rest id hrs).calls⟩, rfl⟩)
      (fun _ w mem => ⟨w, mem⟩) inv.returned
  | resume hp hr => exact inv.resumeCall hp hr

lemma invariant_launched (ss : OrderedMap String FallbackStrategy)
    (ws : OrderedMap String RecoveryWorkflow) : Invariant (launched ss ws) := by
  constructor
  · intro id rec hf
    cases hf
  · intro id hrs
    cases hrs
  · intro id write mem
    cases mem
  · intro id count mem
    cases mem

theorem staysResolved_of_careful (strategies : OrderedMap String FallbackStrategy)
    (workflows : OrderedMap String RecoveryWorkflow) {labels : List Label} {t : State}
    (run : Run State.step Careful (launched strategies workflows) labels t) : StaysResolved t := by
  have inv := run.invariant Invariant (fun _ _ _ inv hc hs => invariant_step inv hc hs)
    (invariant_launched strategies workflows)
  exact inv.staysResolved

deriving instance Decidable for Harmless, Unqueued

instance (s : State) (id : String) : Decidable (AtRest s id) :=
  decidable_of_iff (Unqueued s.service id ∧ ∀ call ∈ s.calls, Harmless id call)
    ⟨fun ⟨unqueued, calls⟩ => ⟨unqueued, calls⟩, fun rest => ⟨rest.unqueued, rest.calls⟩⟩

instance (s : State) (label : Label) : Decidable (Careful s label) := by
  cases label <;> dsimp only [Careful] <;> infer_instance

/-- An error is recorded, retried and then resolved; a later run of `processRetryQueue` finds
nothing to do. -/
def retryThenResolve : List Label := List.flatten
  [[.recordError "e1" (.text "boom") crmSync none 1000], replies 0 5 1000,
    [.processRetryQueue 2000], replies 1 2 2000,
    [.resolveError "e1" "fixed" 3000], replies 2 2 3000, [.processRetryQueue 9000]]

theorem retryThenResolve_stays_resolved : ∃ t,
    Run State.step Careful defaults retryThenResolve t ∧ .resolved "e1" 1 ∈ t.calls ∧
      view t.service "e1" = some (.resolved, 1) ∧ StaysResolved t :=
  exists_run₂ (by decide +kernel) fun _ run _ _ => staysResolved_of_careful _ _ run

/-- An error is resolved while it waits in its retry queue, and then comes due. -/
def resolveThenRetry : List Label := List.flatten
  [[.recordError "e1" (.text "boom") crmSync none 1000], replies 0 5 1000,
    [.resolveError "e1" "fixed" 1500], replies 1 2 1500, [.processRetryQueue 2000]]

theorem resolveThenRetry_reactivates : ∃ t,
    Run State.step Always defaults resolveThenRetry t ∧ .resolved "e1" 0 ∈ t.calls ∧
      view t.service "e1" = some (.active, 1) ∧ ¬ StaysResolved t := by
  refine exists_run₂ (by decide +kernel) fun t _ hm ss hs => ?_
  obtain ⟨record, hf, hr, -⟩ := hs "e1" 0 hm
  simp [view, hf, hr] at ss

end ErrorResolution
