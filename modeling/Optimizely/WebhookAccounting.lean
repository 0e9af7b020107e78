import Optimizely.WebhookQueues

/-!
# Counting processed webhooks

`processWebhook` updates the statistics of the endpoint at the end of its try block and again in its
catch block. If the save in the try block is never rejected, a webhook whose processing has ended
was counted once, with its final status. A call that throws releases `processWebhookQueue` while
others are under way; the limit is kept if a batch is only started when none is left of an earlier
one.
-/

namespace WebhookProcessing

open TransitionRuns List Option TaskLists Service Call

/-- A call of `processWebhook` that has not returned. -/
def Call.inFlight : Call → Bool
  | .processing _ _ _ => true
  | .counting _ _ _ => true
  | .saving _ _ => true
  | _ => false

/-- A call of `processWebhook` that has returned or thrown: its webhook, and whether all processors
have succeeded. -/
def Call.ending : Call → Option (String × Bool)
  | .finished id succeeded => some (id, succeeded)
  | .rejected id succeeded => some (id, succeeded)
  | _ => none

/-- The statistics are being saved in the try block. -/
def Call.inTry : Call → Bool
  | .counting _ _ false => true
  | _ => false

namespace Service

/-- The webhook was counted once, for its endpoint and with the status it has. -/
def CountedOnce (service : Service) (id : String) (succeeded : Bool) : Prop :=
  ∃ webhook, service.webhooks.get? id = some webhook ∧
    service.countsOf id = [⟨id, webhook.endpointId, webhook.status⟩] ∧
    (webhook.status = .completed ∨ webhook.status = .failed) ∧
    (succeeded = true → webhook.status = .completed)

def Accounts (service : Service) : Call → Prop
  | .processing id _ _ => service.countsOf id = []
  | .counting id succeeded _ => service.CountedOnce id succeeded
  | .saving id succeeded => service.CountedOnce id succeeded
  | .finished id succeeded => service.CountedOnce id succeeded
  | .rejected id succeeded => service.CountedOnce id succeeded
  | .receiving _ _ => True
  | .ended => True

variable {c : Call} {sc : Service} {ok : Bool} {r : Service × Call}

lemma Accounts.congr {s t : Service} (ha : s.Accounts c) (hs : ∀ id, c.webhookId = some id →
      t.webhooks.get? id = s.webhooks.get? id ∧ t.countsOf id = s.countsOf id) : t.Accounts c := by
  cases c with
  | processing id => exact (hs id rfl).2.trans ha
  | receiving | ended => trivial
  | counting id | saving id | finished id | rejected id =>
    obtain ⟨w, hfn, ho, hf, hcp⟩ := ha
    obtain ⟨ws, cs⟩ := hs id rfl
    exact ⟨w, ws.trans hfn, cs.trans ho, hf, hcp⟩

lemma accounts_afterStats {id : String} {su : Bool} (hct : sc.CountedOnce id su) (c : Bool) :
    sc.Accounts (sc.afterStats id su c) := by
  rw [afterStats]
  split <;> exact hct

section

variable {sr : Service} {id : String} {w : IncomingWebhook}
  (hfn : sr.webhooks.get? id = some w)
  (e : (sr.endpoints.get? w.endpointId).isSome)
  (none : sr.countsOf id = [])

include hfn e none

lemma countedOnce_settle {status : Status} (tg : QueueName) {su : Bool}
    (hf : status = .completed ∨ status = .failed) (hcp : su = true → status = .completed) :
    (sr.settle id status tg).CountedOnce id su := by
  have hmk := get?_updateWebhook sr id (fun w => { w with status := status }) id
  rw [if_pos rfl, hfn, map_some] at hmk
  obtain ⟨webhooks, hu⟩ := updateWebhook_spec sr id fun w => { w with status := status }
  obtain ⟨k, dr, hmo, -⟩ := moveWebhookToQueue_spec
    (sr.updateWebhook id fun w => { w with status := status }) id tg
  obtain ⟨r, hp⟩ := isSome_iff_exists.mp e
  have s : sr.counts.filter (fun co => co.webhookId = id) = [] := none
  rw [settle, hmo]
  rw [hu] at hmk ⊢
  simp only [updateEndpointStats, hmk, hp]
  refine ⟨{ w with status := status }, hmk, ?_, hf, hcp⟩
  simp [countsOf, filter_append, s]

lemma accounts_conclude (rs : List Bool) :
    (sr.conclude id rs).1.Accounts (sr.conclude id rs).2 := by
  have hct : (sr.conclude id rs).1.CountedOnce id (rs.all (· = true)) := by
    simp only [conclude]
    split
    · exact countedOnce_settle hfn e none _ (.inl rfl) fun _ => rfl
    · rename_i some
      exact countedOnce_settle hfn e none _ (.inr rfl) fun all => absurd all some
  exact accounts_afterStats hct false

lemma accounts_catchError : (sr.catchError id false).1.Accounts (sr.catchError id false).2 := by
  have hct : (sr.catchError id false).1.CountedOnce id false :=
    countedOnce_settle hfn e none _ (.inr rfl) (by simp)
  exact accounts_afterStats hct true

lemma accounts_processWebhook : (sr.processWebhook id w).1.Accounts (sr.processWebhook id w).2 := by
  have hmk := get?_updateWebhook sr id (fun w => { w with
      status := .processing
      processingAttempts := w.processingAttempts + 1 }) id
  rw [if_pos rfl, hfn, map_some] at hmk
  obtain ⟨webhooks, hu⟩ := updateWebhook_spec sr id fun w => { w with
      status := .processing
      processingAttempts := w.processingAttempts + 1 }
  rw [processWebhook]
  rw [hu] at hmk ⊢
  split
  · exact accounts_catchError hmk e none
  · split
    · split
      · exact accounts_conclude hmk e none []
      · exact none
    · exact accounts_catchError hmk e none

end

lemma inFlight_of_resumes (hr : Resumes sc ok c r)
    (hs : r.2.inFlight = true) : c.inFlight = true := by
  cases hr with
  | countReceived | received => cases hs
  | processed | conclude | counted | caught | thrown | saved | unsaved => rfl

/-- Outside the try block a call never counts its webhook again. -/
lemma accounts_of_resumes (hr : Resumes sc ok c r)
    (hca : c.inTry = true → ok = true) (ha : sc.Accounts c)
    (hkn : ∀ id, c.webhookId = some id → ∃ w, sc.webhooks.get? id = some w ∧
        (sc.endpoints.get? w.endpointId).isSome) : r.1.Accounts r.2 := by
  cases hr with
  | countReceived | received => trivial
  | @conclude id =>
    obtain ⟨w, hf, e⟩ := hkn id rfl
    exact accounts_conclude hf e ha _
  | caught huc => cases huc.symm.trans (hca rfl)
  | processed | counted | thrown | saved | unsaved => exact ha

end Service

/-- A batch is started when no call of an earlier one is in flight, and the save of the statistics
in the try block is not rejected. -/
def Careful (s : State) : Label → Prop
  | .processWebhookQueue => s.batch = none → s.calls.countP Call.inFlight = 0
  | .resume index ok => (s.calls[index]?).any Call.inTry = true → ok = true
  | _ => True

instance (s : State) (label : Label) : Decidable (Careful s label) := by
  cases label <;> dsimp only [Careful] <;> infer_instance

structure Accounted (s : State) : Prop where
  calls : ∀ call ∈ s.calls, s.service.Accounts call
  waiting : ∀ id, id ∉ s.calls.filterMap Call.webhookId → s.service.countsOf id = []

namespace Accounted

variable {il : OrderedMap String WebhookEndpoint} {s t : State} (ha : Accounted s)
  (hc : Consistent il s)
include ha hc

lemma startNext : Accounted s.startNext := by
  rcases hc.startNext_spec with ⟨-, hs⟩ | ⟨id, r, webhook, hwa, hf, hs⟩
  · rwa [hs]
  · obtain ⟨had, a⟩ := advances_processWebhook (s.service.take id r) id webhook
    have new : id ∉ s.calls.filterMap webhookId := by
      have hap := hc.sound.distinct
      rw [← hc.order, hwa] at hap
      exact fun old => disjoint_of_nodup_append hap old mem_cons_self
    rw [hs]
    constructor
    · apply TaskLists.forall_append
      · intro c mem
        have hb : (s.service.take id r).Accounts c := ha.calls c mem
        refine hb.congr fun x this => ?_
        have hne : some id ≠ some x := by
          rintro ⟨⟩
          exact new (mem_filterMap.mpr ⟨c, mem, this⟩)
        exact ⟨had.webhooks x hne, had.counts x hne⟩
      · have ht : (s.service.take id r).webhooks.get? id = some webhook := hf
        exact accounts_processWebhook ht (hc.sound.endpoints id webhook hf) (ha.waiting id new)
    · intro x hab
      simp only [filterMap_append, filterMap_cons, a, filterMap_nil,
        mem_append, mem_singleton, not_or] at hab
      have hk := had.counts x (by rintro ⟨⟩; exact hab.2 rfl)
      exact hk.trans (ha.waiting x hab.1)

lemma startBatch (rs : Nat) : Accounted (s.startBatch rs) := by
  induction rs generalizing s with
  | zero => exact ha
  | succ rs ih => exact ih (ha.startNext hc) hc.startNext

lemma resume {i : Nat} {ok : Bool} {c : Call} {r : Service × Call} (hf : s.calls[i]? = some c)
    (hrp : Resumes s.service ok c r) (hca : Careful s (.resume i ok)) :
    Accounted { s with service := r.1, calls := s.calls.set i r.2 } := by
  obtain ⟨had, a⟩ := advances_of_resumes hrp
  have mem := mem_of_getElem? hf
  have hd : (s.calls.filterMap webhookId).Nodup := by
    have all := hc.sound.distinct
    rw [← hc.order] at all
    exact (nodup_append.mp all).1
  constructor
  · refine forall_set_of_distinct webhookId hd hf ha.calls ?_ ?_
    · intro x hac hne
      exact hac.congr fun id this => ⟨had.webhooks id (hne id this), had.counts id (hne id this)⟩
    · have hi : c.inTry = true → ok = true := by
        simpa [Careful, hf] using hca
      refine accounts_of_resumes hrp hi (ha.calls c mem) fun id this => ?_
      have hr := (hc.received_of_call mem this).1
      obtain ⟨w, hp⟩ := isSome_iff_exists.mp ((hc.sound.known id).mp hr)
      exact ⟨w, hp, hc.sound.endpoints id w hp⟩
  · intro x hab
    simp only [filterMap_set_of_eq webhookId hf a] at hab
    have hk := had.counts x fun this => hab (mem_filterMap.mpr ⟨c, mem, this⟩)
    exact hk.trans (ha.waiting x hab)

lemma step {l : Label} (hca : Careful s l) (hmo : s.step l = some t) : Accounted t := by
  cases steps_of_step hmo with
  | @receive id _ _ _ _ _ hkn hfr =>
    refine ⟨TaskLists.forall_append (fun c mem => ?_) trivial, fun x hab => ?_⟩
    · refine (ha.calls c mem).congr fun x this => ⟨?_, rfl⟩
      have old := (hc.sound.known x).mp (hc.received_of_call mem this).1
      have hne : id ≠ x := by
        rintro rfl
        simp [hfr] at old
      simp [receive, OrderedMap.get?_set, hne]
    · exact ha.waiting x (by simpa [webhookId] using hab)
  | pass => exact ha
  | @start sz =>
    obtain ⟨cs, hwa⟩ := ha.startBatch hc sz
    exact ⟨cs, hwa⟩
  | resume hf hrp => exact ha.resume hc hf hrp hca
  | release => exact ⟨ha.calls, ha.waiting⟩

end Accounted

lemma inFlight_startNext (s : State) :
    s.startNext.calls.countP inFlight ≤ s.calls.countP inFlight + 1 := by
  simp only [State.startNext]
  split
  · omega
  · split
    · exact Nat.le_succ _
    · simp only [countP_append, countP_singleton]
      split <;> omega

lemma inFlight_startBatch (s : State) (rounds : Nat) :
    (s.startBatch rounds).calls.countP inFlight ≤ s.calls.countP inFlight + rounds := by
  induction rounds generalizing s with
  | zero => exact Nat.le_refl _
  | succ rounds ih =>
    have first := inFlight_startNext s
    have rest := ih s.startNext
    rw [State.startBatch]
    omega

lemma bounded_step {s t : State} {l : Label}
    (hbd : s.calls.countP inFlight ≤ maxConcurrentProcessing)
    (hca : Careful s l) (hmo : s.step l = some t) :
    t.calls.countP inFlight ≤ maxConcurrentProcessing := by
  cases steps_of_step hmo with
  | receive => simpa [inFlight] using hbd
  | pass => exact hbd
  | @start sz _ hi within =>
    have hsx := inFlight_startBatch s sz
    rw [hca hi] at hsx
    simp only
    omega
  | @resume _ _ _ r hf hrp =>
    have hex := countP_set inFlight hf r.2
    have hs := inFlight_of_resumes hrp
    simp only
    by_cases hst : r.2.inFlight = true
    · rw [if_pos (hs hst), if_pos hst] at hex
      omega
    · rw [if_neg hst] at hex
      omega
  | release => exact hbd

theorem accounted_of_careful {endpoints : OrderedMap String WebhookEndpoint}
    {processors : OrderedMap String WebhookProcessor} {labels : List Label} {s : State}
    (run : Run State.step Always (launched endpoints processors) labels s) :
    (∀ id, occurrences s.service.queues id ≤ 1) ∧
      (∀ id ∈ s.service.received, id ∉ s.service.trimmed → occurrences s.service.queues id = 1) ∧
      s.service.Totals endpoints ∧
      (Run State.step Careful (launched endpoints processors) labels s →
        (∀ call ∈ s.calls, ∀ id succeeded, call.ending = some (id, succeeded) →
          s.service.CountedOnce id succeeded) ∧
        s.calls.countP Call.inFlight ≤ maxConcurrentProcessing) := by
  have consistent := consistent_of_run run
  refine ⟨fun id => (consistent.sound.places id).once, fun id => (consistent.sound.places id).kept,
    consistent.sound.totals, fun careful => ?_⟩
  have kept := careful.invariant (fun s => Consistent endpoints s ∧ Accounted s ∧
      s.calls.countP inFlight ≤ maxConcurrentProcessing)
    (fun s label t holds hok moved => ⟨holds.1.step moved, holds.2.1.step holds.1 hok moved,
      bounded_step holds.2.2 hok moved⟩)
    ⟨consistent_launched endpoints processors, ⟨by simp [launched], fun _ _ => rfl⟩, Nat.zero_le _⟩
  refine ⟨fun call mem id succeeded ended => ?_, kept.2.2⟩
  have accounts := kept.2.1.calls call mem
  cases call with
  | finished | rejected =>
    cases ended
    exact accounts
  | receiving | processing | counting | saving | ended => cases ended

/-- An endpoint and the processor that `initializeProcessors` registers first. -/
def contacts : State := launched
  (.set .empty "contacts" ⟨.hubspot, true, ⟨0, 0, 0⟩⟩)
  (.set .empty "crm_sync_processor"
    { eventTypes := ["contact.created", "contact.updated", "contact.deleted", "company.created",
        "company.updated", "company.deleted", "deal.created", "deal.updated", "deal.deleted"]
      crmTypes := [.salesforce, .hubspot, .pipedrive, .zoho, .custom]
      priority := 1
      isActive := true })

/-- The status of a webhook and what was counted for it. -/
def accountOf (s : State) (id : String) : Option Status × List Count :=
  ((s.service.webhooks.get? id).map (·.status), s.service.countsOf id)

/-- The totals of received, processed and failed webhooks. -/
def totalsOf (s : State) (endpointId : String) : Option WebhookStats :=
  (s.service.endpoints.get? endpointId).map (·.stats)

/-- Two webhooks, of which one cannot be parsed; the last save of this one is rejected. -/
def processTwo : List Label :=
  [.processIncomingWebhook "w1" "contacts" "contact.created" true 1, .resume 0 true,
    .resume 0 true, .processIncomingWebhook "w2" "contacts" "unknown" false 2, .resume 1 true,
    .processWebhookQueue, .resume 2 true, .resume 3 true, .resume 2 true, .resume 3 false,
    .resume 2 true, .release]

theorem processTwo_accounted : ∃ s,
    Run State.step Careful contacts processTwo s ∧ totalsOf s "contacts" = some ⟨2, 1, 1⟩ ∧
      s.service.CountedOnce "w1" true ∧ s.service.CountedOnce "w2" false ∧
      occurrences s.service.queues "w1" = 1 ∧
      s.calls.countP Call.inFlight ≤ maxConcurrentProcessing := by
  refine exists_run_of_seen (fun s => totalsOf s "contacts" = some ⟨2, 1, 1⟩ ∧
    s.calls[2]? = some (.finished "w1" true) ∧ s.calls[3]? = some (.rejected "w2" false) ∧
    s.service.received = ["w1", "w2"] ∧ s.service.trimmed = []) (by decide +kernel)
    fun s run ⟨totals, first, second, received, trimmed⟩ => ?_
  obtain ⟨-, hp, -, hc⟩ := accounted_of_careful run.always
  obtain ⟨c, hb⟩ := hc run
  refine ⟨totals, ?_, ?_, hp "w1" (by simp [received]) (by simp [trimmed]), hb⟩
  · exact c _ (mem_of_getElem? first) "w1" true rfl
  · exact c _ (mem_of_getElem? second) "w2" false rfl

/-- No processor is for the event, so none fails; the endpoint cannot be saved in the try block. -/
def rejectStatistics : List Label :=
  [.processIncomingWebhook "w1" "contacts" "unknown" true 1, .resume 0 true, .resume 0 true,
    .processWebhookQueue, .resume 1 false, .resume 1 true, .resume 1 true, .release]

/-- Twelve webhooks are received, ten are started, and the last save of one is rejected. -/
def rejectWebhook : List Label := List.flatten
  [["w0", "w1", "w2", "w3", "w4", "w5", "w6", "w7", "w8", "w9", "w10", "w11"].map
      (.processIncomingWebhook · "contacts" "contact.created" true 1),
    [.processWebhookQueue, .resume 12 true, .resume 12 true, .resume 12 false, .release,
      .processWebhookQueue]]

theorem rejected_saves_miscount : (∃ s, Run State.step Always contacts rejectStatistics s ∧
      s.calls[1]? = some (.finished "w1" true) ∧ accountOf s "w1" = (some .failed,
        [⟨"w1", "contacts", .completed⟩, ⟨"w1", "contacts", .failed⟩]) ∧
      totalsOf s "contacts" = some ⟨1, 1, 1⟩ ∧ ¬ s.service.CountedOnce "w1" true) ∧
    ∃ s, Run State.step Always contacts rejectWebhook s ∧
      maxConcurrentProcessing < s.calls.countP Call.inFlight := by
  constructor
  · refine exists_run₃ (by decide +kernel) fun s _ _ ha _ => ?_
    rintro ⟨webhook, -, ho, -⟩
    have ht := (congrArg Prod.snd ha).symm.trans ho
    simp at ht
  · exact exists_run_seen (by decide +kernel)

/-- Webhooks are taken for processing in the order of their receipt, and none twice. -/
theorem taken_in_order {endpoints : OrderedMap String WebhookEndpoint}
    {processors : OrderedMap String WebhookProcessor} {labels : List Label} {s : State}
    (run : Run State.step Always (launched endpoints processors) labels s) :
    s.calls.filterMap Call.webhookId ++ s.service.queues .pending = s.service.received ∧
      s.service.received.Nodup :=
  ⟨(consistent_of_run run).order, (consistent_of_run run).sound.distinct⟩

theorem processTwo_taken_in_order : ∃ s, Run State.step Always contacts processTwo s ∧
    s.calls.filterMap Call.webhookId = ["w1", "w2"] ∧ s.service.received.Nodup :=
  exists_run (by decide +kernel) fun _ run _ => (taken_in_order run).2

end WebhookProcessing
