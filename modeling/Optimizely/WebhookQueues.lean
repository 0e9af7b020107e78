import Optimizely.TaskLists
import Optimizely.TransitionRuns
import Optimizely.WebhookProcessing

/-!
# Where webhooks are

The webhooks that calls of `processWebhook` are about, followed by those that wait, are the received
webhooks in the order of arrival. In every run a webhook is in at most one queue, and in exactly one
until it is trimmed; the statistics of an endpoint are those at the start and one for each recorded
update.
-/

namespace WebhookProcessing

open TransitionRuns List Option OrderedMap Function

/-- The webhook that a call of `processWebhook` is about. -/
def Call.webhookId : Call → Option String
  | .processing id _ _ => some id
  | .counting id _ _ => some id
  | .saving id _ => some id
  | .finished id _ => some id
  | .rejected id _ => some id
  | .receiving _ _ => none
  | .ended => none

def occurrences (queues : WebhookQueue) (id : String) : Nat :=
  (queues .pending).count id + (queues .processing).count id + (queues .failed).count id +
    (queues .completed).count id

lemma occurrences_update (q : WebhookQueue) (n : QueueName) (ids : List String)
    (id : String) : occurrences (update q n ids) id + (q n).count id =
      occurrences q id + ids.count id := by
  cases n <;> simp [occurrences, update] <;> omega

lemma occurrences_removeWebhook (q : WebhookQueue) (id x : String) :
    occurrences (removeWebhook q id) x = occurrences q x - if id = x then 1 else 0 := by
  rw [removeWebhook]
  cases hf : searchOrder.find? fun name => id ∈ q name with
  | some name =>
    have hin : id ∈ q name := by simpa using find?_some hf
    have one : 0 < (q name).count id := count_pos_iff.mpr hin
    have hex := occurrences_update q name ((q name).erase id) x
    simp only [count_erase, beq_iff_eq] at hex
    by_cases hs : id = x
    · subst hs
      simp only [if_true] at hex ⊢
      omega
    · simp only [hs, if_false] at hex ⊢
      omega
  | none =>
    have hn : ∀ name, id ∉ q name := by
      intro name
      have all := find?_eq_none.mp hf name (by cases name <;> simp [searchOrder])
      simpa using all
    by_cases hs : id = x
    · subst hs
      simp [occurrences, count_eq_zero.mpr (hn _)]
    · simp [hs]

lemma pending_removeWebhook {q : WebhookQueue} {id : String}
    (hs : id ∉ q .pending) : (removeWebhook q id) .pending = q .pending := by
  rw [removeWebhook]
  cases hf : searchOrder.find? fun name => id ∈ q name with
  | none => rfl
  | some name =>
    have hin : id ∈ q name := by simpa using find?_some hf
    have he : QueueName.pending ≠ name := by
      rintro rfl
      exact hs hin
    exact update_of_ne he _ _

namespace Service

/-- What a move leaves out of the queue, it adds to the trimmed webhooks. -/
lemma moveWebhookToQueue_spec (s : Service) (id : String) (tg : QueueName) :
    ∃ k dr, s.moveWebhookToQueue id tg = { s with
          queues := update (removeWebhook s.queues id) tg k
          trimmed := s.trimmed ++ dr } ∧
      ∀ x, k.count x + dr.count x =
        (removeWebhook s.queues id tg).count x + if id = x then 1 else 0 := by
  have hp : ∀ x, (removeWebhook s.queues id tg ++ [id]).count x =
      (removeWebhook s.queues id tg).count x + if id = x then 1 else 0 := by
    intro x
    simp only [count_append, count_singleton, beq_iff_eq]
  simp only [moveWebhookToQueue]
  split
  · refine ⟨_, _, rfl, fun x => ?_⟩
    rw [← count_append, take_append_drop, ← hp]
    exact (perm_insertionSort _ _).count_eq x
  · refine ⟨_, [], by rw [append_nil], fun x => ?_⟩
    rw [count_nil, Nat.add_zero, hp]

/-- A received webhook is in one queue, unless it has been trimmed, and no other is in any. -/
structure Places (service : Service) (id : String) : Prop where
  once : occurrences service.queues id ≤ 1
  received : 0 < occurrences service.queues id → id ∈ service.received
  kept : id ∈ service.received → id ∉ service.trimmed → occurrences service.queues id = 1

def countsOf (service : Service) (id : String) : List Count :=
  service.counts.filter fun count => count.webhookId = id

def counted (service : Service) (endpointId : String) (status : Status) : Nat :=
  service.counts.countP fun count => count.endpointId = endpointId ∧ count.status = status

/-- The totals of an endpoint follow from those at the start and the recorded updates. -/
def Totals (initial : OrderedMap String WebhookEndpoint) (service : Service) : Prop :=
  ∀ endpointId before, initial.get? endpointId = some before →
    ∃ now, service.endpoints.get? endpointId = some now ∧
      now.stats.totalProcessed =
        before.stats.totalProcessed + service.counted endpointId .completed ∧
      now.stats.totalFailed = before.stats.totalFailed + service.counted endpointId .failed

/-- What a call can do to the service that is about this webhook or about none. -/
structure Advances (about : Option String) (before after : Service) : Prop where
  received : after.received = before.received
  endpointIds : ∀ other, (after.webhooks.get? other).map (·.endpointId) =
    (before.webhooks.get? other).map (·.endpointId)
  endpoints : ∀ endpointId, (after.endpoints.get? endpointId).isSome =
    (before.endpoints.get? endpointId).isSome
  pending : (∀ id ∈ about, id ∉ before.queues .pending) →
    after.queues .pending = before.queues .pending
  places : (∀ id ∈ about, id ∈ before.received) → ∀ other, before.Places other → after.Places other
  webhooks : ∀ other, about ≠ some other → after.webhooks.get? other = before.webhooks.get? other
  counts : ∀ other, about ≠ some other → after.countsOf other = before.countsOf other
  totals : ∀ initial, before.Totals initial → after.Totals initial

namespace Advances

lemma refl (a : Option String) (service : Service) : Advances a service service := by
  constructor <;> simp

lemma trans {a : Option String} {s m t : Service}
    (first : Advances a s m) (hs : Advances a m t) : Advances a s t where
  received := hs.received.trans first.received
  endpointIds x := (hs.endpointIds x).trans (first.endpointIds x)
  endpoints endpointId := (hs.endpoints endpointId).trans (first.endpoints endpointId)
  pending hsta := by
    have hsm := first.pending hsta
    rw [hs.pending (hsm ▸ hsta), hsm]
  places hkn x placed := hs.places (first.received ▸ hkn) x (first.places hkn x placed)
  webhooks x hne := (hs.webhooks x hne).trans (first.webhooks x hne)
  counts x hne := (hs.counts x hne).trans (first.counts x hne)
  totals initial holds := hs.totals initial (first.totals initial holds)

end Advances

section

variable (s : Service) (id : String) (change : IncomingWebhook → IncomingWebhook)

lemma get?_updateWebhook (x : String) : (s.updateWebhook id change).webhooks.get? x =
      if id = x then (s.webhooks.get? id).map change else s.webhooks.get? x := by
  rw [updateWebhook]
  cases hf : s.webhooks.get? id with
  | none =>
    by_cases hs : id = x
    · subst hs
      simp [hf]
    · simp [hs]
  | some w => simp [get?_set]

lemma updateWebhook_spec :
    ∃ webhooks, s.updateWebhook id change = { s with webhooks := webhooks } := by
  rw [updateWebhook]
  split <;> exact ⟨_, rfl⟩

lemma advances_updateWebhook (hke : ∀ w, (change w).endpointId = w.endpointId) :
    Advances (some id) s (s.updateWebhook id change) := by
  have webhooks := get?_updateWebhook s id change
  obtain ⟨changed, hs⟩ := updateWebhook_spec s id change
  rw [hs] at webhooks ⊢
  constructor
  case endpointIds =>
    intro x
    rw [webhooks]
    by_cases hs : id = x
    · subst hs
      simp [comp_def, hke]
    · simp [hs]
  case webhooks =>
    intro x hne
    rw [webhooks, if_neg (mt (congrArg some) hne)]
  case places =>
    intro _ x hp
    exact { hp with }
  all_goals intros; first | rfl | assumption

end

lemma advances_moveWebhookToQueue (sr : Service) (id : String) {tg : QueueName}
    (he : tg ≠ .pending) : Advances (some id) sr (sr.moveWebhookToQueue id tg) := by
  obtain ⟨kp, dropped, hsm, ht⟩ := moveWebhookToQueue_spec sr id tg
  rw [hsm]
  constructor
  case pending =>
    intro s
    exact (update_of_ne (Ne.symm he) _ _).trans (pending_removeWebhook (s id rfl))
  case places =>
    intro k x hp
    have exchanged := occurrences_update (removeWebhook sr.queues id) tg kp x
    have removed := occurrences_removeWebhook sr.queues id x
    have here := ht x
    have ho := hp.once
    -- removed at most once and pushed once: the sum over the queues and what was dropped
    have sum : occurrences (update (removeWebhook sr.queues id) tg kp) x +
        dropped.count x = if id = x then 1 else occurrences sr.queues x := by
      by_cases hsm : id = x
      · subst hsm
        simp only [if_true] at *
        omega
      · simp only [hsm, if_false] at *
        omega
    constructor
    · show occurrences (update _ tg kp) x ≤ 1
      split at sum <;> omega
    · show 0 < occurrences (update _ tg kp) x → x ∈ sr.received
      intro hf
      by_cases hsm : id = x
      · exact hsm ▸ k id rfl
      · rw [if_neg hsm] at sum
        exact hp.received (by omega)
    · show x ∈ sr.received → x ∉ sr.trimmed ++ dropped → occurrences (update _ tg kp) x = 1
      intro hr hs
      rw [mem_append, not_or] at hs
      have none := count_eq_zero.mpr hs.2
      have one := hp.kept hr hs.1
      split at sum <;> omega
  all_goals intros; first | rfl | assumption

lemma stats_count_totalProcessed (ss : WebhookStats) (st : Status) :
    (ss.count st).totalProcessed = ss.totalProcessed + if st = .completed then 1 else 0 := by
  cases st <;> rfl

lemma stats_count_totalFailed (ss : WebhookStats) (st : Status) :
    (ss.count st).totalFailed = ss.totalFailed + if st = .failed then 1 else 0 := by
  cases st <;> rfl

lemma advances_updateEndpointStats (sr : Service) (id : String) :
    Advances (some id) sr (sr.updateEndpointStats id) := by
  rw [updateEndpointStats]
  cases sr.webhooks.get? id with
  | none => exact .refl _ sr
  | some w =>
    dsimp only
    cases hf : sr.endpoints.get? w.endpointId with
    | none => exact .refl _ sr
    | some we =>
      constructor
      case endpoints =>
        intro e
        simp only [get?_set]
        split
        · simp_all
        · rfl
      case counts =>
        intro x hne
        simp [countsOf, filter_append, mt (congrArg some) hne]
      case places =>
        intro _ x hpl
        exact { hpl with }
      case totals =>
        intro initial hh e s st
        obtain ⟨now, hp, hpr, hfl⟩ := hh e s st
        simp only [get?_set, counted, countP_append, countP_singleton]
        by_cases hs : w.endpointId = e
        · subst hs
          obtain rfl : we = now := some.inj (hf.symm.trans hp)
          refine ⟨_, if_pos rfl, ?_, ?_⟩
          · simp only [stats_count_totalProcessed, hpr, counted]
            simp [Nat.add_assoc]
          · simp only [stats_count_totalFailed, hfl, counted]
            simp [Nat.add_assoc]
        · refine ⟨now, (if_neg hs).trans hp, ?_, ?_⟩
          · simpa [hs, counted] using hpr
          · simpa [hs, counted] using hfl
      all_goals intros; rfl

lemma advances_countReceived (sr : Service) (a : Option String) (e : String) :
    Advances a sr (sr.countReceived e) := by
  rw [countReceived]
  cases hf : sr.endpoints.get? e with
  | none => exact .refl _ sr
  | some we =>
    constructor
    case endpoints =>
      intro x
      simp only [get?_set]
      split
      · simp_all
      · rfl
    case places =>
      intro _ x hpl
      exact { hpl with }
    case totals =>
      intro initial hh x s st
      obtain ⟨now, hp, hpr, hfl⟩ := hh x s st
      simp only [get?_set]
      by_cases hs : e = x
      · subst hs
        obtain rfl : we = now := some.inj (hf.symm.trans hp)
        exact ⟨_, if_pos rfl, hpr, hfl⟩
      · exact ⟨now, (if_neg hs).trans hp, hpr, hfl⟩
    all_goals intros; rfl

section

variable (s : Service) (id : String)

lemma advances_settle (status : Status) {tg : QueueName} (he : tg ≠ .pending) :
    Advances (some id) s (s.settle id status tg) := by
  have hmk := advances_updateWebhook s id (fun w => { w with status := status }) fun _ => rfl
  have hmo := advances_moveWebhookToQueue
    (s.updateWebhook id fun w => { w with status := status }) id he
  exact (hmk.trans hmo).trans (advances_updateEndpointStats _ id)

lemma webhookId_afterStats (su c : Bool) : (s.afterStats id su c).webhookId = some id := by
  rw [afterStats]
  split <;> rfl

lemma advances_catchError (su : Bool) : Advances (some id) s (s.catchError id su).1 ∧
      (s.catchError id su).2.webhookId = some id :=
  ⟨advances_settle s id _ (by simp), webhookId_afterStats _ id su true⟩

lemma advances_conclude (rs : List Bool) : Advances (some id) s (s.conclude id rs).1 ∧
      (s.conclude id rs).2.webhookId = some id := by
  refine ⟨?_, webhookId_afterStats _ id _ false⟩
  simp only [conclude]
  split <;> exact advances_settle s id _ (by simp)

lemma advances_processWebhook (w : IncomingWebhook) :
    Advances (some id) s (s.processWebhook id w).1 ∧
      (s.processWebhook id w).2.webhookId = some id := by
  have hmk := advances_updateWebhook s id (fun w => { w with
      status := .processing
      processingAttempts := w.processingAttempts + 1 }) fun _ => rfl
  rw [processWebhook]
  split
  · obtain ⟨ha, a⟩ := advances_catchError _ id false
    exact ⟨hmk.trans ha, a⟩
  · split
    · split
      · obtain ⟨ha, a⟩ := advances_conclude _ id []
        exact ⟨hmk.trans ha, a⟩
      · exact ⟨hmk, rfl⟩
    · obtain ⟨ha, a⟩ := advances_catchError _ id false
      exact ⟨hmk.trans ha, a⟩

end

lemma advances_of_resumes {s : Service} {c : Call} {ok : Bool}
    {r : Service × Call} (hr : Resumes s ok c r) :
    Advances c.webhookId s r.1 ∧ r.2.webhookId = c.webhookId := by
  cases hr with
  | countReceived => exact ⟨advances_countReceived s _ _, rfl⟩
  | conclude => exact advances_conclude s _ _
  | caught => exact advances_catchError s _ _
  | received | processed | counted | thrown | saved | unsaved => exact ⟨.refl _ _, rfl⟩

end Service

/-- What holds of the service in every run from one with these endpoints. -/
structure Service.Sound (initial : OrderedMap String WebhookEndpoint) (service : Service) :
    Prop where
  distinct : service.received.Nodup
  known : ∀ id, id ∈ service.received ↔ (service.webhooks.get? id).isSome
  endpoints : ∀ id webhook, service.webhooks.get? id = some webhook →
    (service.endpoints.get? webhook.endpointId).isSome
  places : ∀ id, service.Places id
  totals : service.Totals initial

namespace Service.Sound

variable {initial : OrderedMap String WebhookEndpoint} {sr : Service}

lemma advance (sn : sr.Sound initial) {a : Option String} {t : Service}
    (ha : Advances a sr t) (known : ∀ id ∈ a, id ∈ sr.received) : t.Sound initial where
  distinct := ha.received ▸ sn.distinct
  known x := by
    have hk := congrArg isSome (ha.endpointIds x)
    simp only [isSome_map] at hk
    rw [ha.received, hk, sn.known]
  endpoints x w hf := by
    have hk := ha.endpointIds x
    rw [hf, map_some, eq_comm, map_eq_some_iff] at hk
    obtain ⟨s, hp, hs⟩ := hk
    rw [ha.endpoints, ← hs]
    exact sn.endpoints x s hp
  places x := ha.places known x (sn.places x)
  totals := ha.totals initial sn.totals

lemma take (s : sr.Sound initial) {id : String} {r : List String}
    (hwa : sr.queues .pending = id :: r) : (sr.take id r).Sound initial where
  distinct := s.distinct
  known := s.known
  endpoints := s.endpoints
  places x := by
    have hsm : occurrences (sr.take id r).queues x = occurrences sr.queues x := by
      have hs := occurrences_update sr.queues .pending r x
      have hp := occurrences_update (update sr.queues .pending r) .processing
        (update sr.queues .pending r .processing ++ [id]) x
      rw [hwa, count_cons] at hs
      rw [count_append, count_singleton] at hp
      show occurrences (update _ _ _) x = _
      omega
    obtain ⟨ho, hr, hk⟩ := s.places x
    rw [← hsm] at ho hr hk
    exact ⟨ho, hr, hk⟩
  totals := s.totals

lemma receive (s : sr.Sound initial) {id : String} {w : IncomingWebhook}
    (hfr : sr.webhooks.get? id = none) (hen : (sr.endpoints.get? w.endpointId).isSome) :
    (sr.receive id w).Sound initial := by
  have hun : id ∉ sr.received := by
    rw [s.known, hfr]
    exact Bool.false_ne_true
  constructor
  case distinct => exact nodup_append.mpr ⟨s.distinct, by simp, by simp; grind⟩
  case known =>
    intro x
    simp only [Service.receive, mem_append, mem_singleton, get?_set]
    by_cases hsm : id = x
    · simp [hsm]
    · simp [hsm, Ne.symm hsm, s.known]
  case endpoints =>
    intro x r hf
    simp only [Service.receive, get?_set] at hf ⊢
    split at hf
    · cases hf
      exact hen
    · exact s.endpoints x r hf
  case places =>
    intro x
    obtain ⟨once, hr, hk⟩ := s.places x
    have he := occurrences_update sr.queues .pending (sr.queues .pending ++ [id]) x
    rw [count_append, count_singleton] at he
    by_cases hsm : id = x
    · subst hsm
      have absent : ¬ 0 < occurrences sr.queues id := mt hr hun
      rw [if_pos (beq_self_eq_true id)] at he
      have one : occurrences (sr.receive id w).queues id = 1 := by
        show occurrences (update _ _ _) id = 1
        omega
      exact ⟨by omega, fun _ => by simp [Service.receive], fun _ _ => one⟩
    · rw [if_neg (by simpa using hsm)] at he
      have hu : occurrences (sr.receive id w).queues x = occurrences sr.queues x := by
        show occurrences (update _ _ _) x = _
        omega
      refine ⟨by omega, fun hf => ?_, fun mem hs => ?_⟩
      · exact mem_append_left _ (hr (by omega))
      · have old : x ∈ sr.received := by
          simpa [Service.receive, Ne.symm hsm] using mem
        rw [hu, hk old hs]
  case totals => exact s.totals

end Service.Sound

structure Consistent (initial : OrderedMap String WebhookEndpoint) (s : State) : Prop where
  sound : s.service.Sound initial
  order : s.calls.filterMap Call.webhookId ++ s.service.queues .pending = s.service.received

namespace Consistent

variable {il : OrderedMap String WebhookEndpoint} {s t : State} (hc : Consistent il s)
include hc

lemma received_of_pending {id : String} (hwa : id ∈ s.service.queues .pending) :
    id ∈ s.service.received := by
  rw [← hc.order]
  exact mem_append_right _ hwa

lemma received_of_call {c : Call} (mem : c ∈ s.calls) {id : String}
    (a : c.webhookId = some id) : id ∈ s.service.received ∧ id ∉ s.service.queues .pending := by
  have hs : id ∈ s.calls.filterMap Call.webhookId := mem_filterMap.mpr ⟨c, mem, a⟩
  have ha := hc.sound.distinct
  rw [← hc.order] at ha
  refine ⟨?_, disjoint_of_nodup_append ha hs⟩
  rw [← hc.order]
  exact mem_append_left _ hs

lemma startNext_spec : (s.service.queues .pending = [] ∧ s.startNext = s) ∨
      ∃ id r w, s.service.queues .pending = id :: r ∧
        s.service.webhooks.get? id = some w ∧ s.startNext = { s with
          service := ((s.service.take id r).processWebhook id w).1
          calls := s.calls ++ [((s.service.take id r).processWebhook id w).2] } := by
  cases hwa : s.service.queues .pending with
  | nil => exact .inl ⟨rfl, by simp [State.startNext, hwa]⟩
  | cons id r =>
    have hr := hc.received_of_pending (hwa ▸ mem_cons_self)
    obtain ⟨w, hf⟩ := isSome_iff_exists.mp ((hc.sound.known id).mp hr)
    refine .inr ⟨id, r, w, rfl, hf, ?_⟩
    have ht : (s.service.take id r).webhooks.get? id = some w := hf
    simp [State.startNext, hwa, ht]

lemma startNext : Consistent il s.startNext := by
  rcases hc.startNext_spec with ⟨-, hs⟩ | ⟨id, rest, w, hwa, -, hs⟩
  · rwa [hs]
  · obtain ⟨ha, a⟩ := Service.advances_processWebhook (s.service.take id rest) id w
    have ho := hc.order
    have hap := hc.sound.distinct
    rw [hwa] at ho
    have once : id ∉ rest := by
      rw [← ho] at hap
      exact (nodup_cons.mp (nodup_append.mp hap).2.1).1
    have ht : (s.service.take id rest).queues .pending = rest := by
      simp [Service.take]
    rw [hs]
    constructor
    · refine (hc.sound.take hwa).advance ha ?_
      rintro _ ⟨⟩
      exact hc.received_of_pending (hwa ▸ mem_cons_self)
    · have left := ha.pending (by rintro _ ⟨⟩; rwa [ht])
      have hs : _ = s.service.received := ha.received
      simp only [filterMap_append, filterMap_cons, a, filterMap_nil, left, ht, hs]
      simpa using ho

lemma startBatch (rs : Nat) : Consistent il (s.startBatch rs) := by
  induction rs generalizing s with
  | zero => exact hc
  | succ rs ih => exact ih hc.startNext

lemma resume {i : Nat} {ok : Bool} {c : Call} {r : Service × Call} (hf : s.calls[i]? = some c)
    (hrp : Resumes s.service ok c r) :
    Consistent il { s with service := r.1, calls := s.calls.set i r.2 } := by
  obtain ⟨advances, about⟩ := Service.advances_of_resumes hrp
  have mem := mem_of_getElem? hf
  constructor
  · exact hc.sound.advance advances fun id this => (hc.received_of_call mem this).1
  · have hpe := advances.pending fun id this => (hc.received_of_call mem this).2
    have calls := TaskLists.filterMap_set_of_eq Call.webhookId hf about
    have received := advances.received
    simp only [calls, hpe, received, hc.order]

lemma step {l : Label} (hmo : s.step l = some t) : Consistent il t := by
  cases steps_of_step hmo with
  | @receive id _ _ _ _ _ hkn hfr =>
    constructor
    · exact hc.sound.receive hfr (by simp [hkn])
    · have order := congrArg (· ++ [id]) hc.order
      simpa [Service.receive, filterMap_cons, Call.webhookId] using order
  | pass => exact hc
  | @start size =>
    obtain ⟨sound, order⟩ := hc.startBatch size
    exact ⟨sound, order⟩
  | resume hf hrp => exact hc.resume hf hrp
  | release => exact ⟨hc.sound, hc.order⟩

end Consistent

lemma consistent_launched (es : OrderedMap String WebhookEndpoint)
    (ps : OrderedMap String WebhookProcessor) : Consistent es (launched es ps) where
  sound := by
    constructor
    case totals =>
      intro endpointId s hf
      exact ⟨s, hf, rfl, rfl⟩
    case places =>
      intro id
      constructor <;> simp [launched, occurrences]
    all_goals simp [launched, empty, get?, OrderedMap.lookup]
  order := rfl

lemma consistent_of_run {es : OrderedMap String WebhookEndpoint}
    {ps : OrderedMap String WebhookProcessor} {ls : List Label} {s : State}
    (run : Run State.step Always (launched es ps) ls s) : Consistent es s :=
  run.invariant (Consistent es) (fun _ _ _ hc _ hmo => hc.step hmo) (consistent_launched es ps)

end WebhookProcessing
