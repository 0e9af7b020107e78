import Optimizely.TaskLists
import Optimizely.TransitionRuns
import Optimizely.WebhookManager

/-!
# Attempts of a delivery

A delivery is in flight, waits for its timer, or is settled. The retry processor attempts one that
waits and leaves the timer set, so that it is attempted twice. As long as the processor finds
nothing to do, a delivery is posted once for each counted attempt, and not touched again once it has
succeeded.
-/

namespace DeliveryAttempts

open TransitionRuns WebhookManager List Option OrderedMap State Manager

/-- Status and number of attempts, requests under way, timers, and requests made so far. -/
structure Situation where
  delivery : Option (Status × Nat)
  inFlight : Nat
  timers : Nat
  posts : Nat
  deriving DecidableEq

/-- The situations of a delivery that may be attempted `limit` times. -/
inductive Lifecycle (limit : Nat) : Situation → Prop where
  | unknown : Lifecycle limit ⟨none, 0, 0, 0⟩
  | inFlight {attempts : Nat} (positive : 0 < attempts) (within : attempts ≤ limit) :
      Lifecycle limit ⟨some (.pending, attempts), 1, 0, attempts⟩
  | backingOff {attempts : Nat} (below : attempts < limit) :
      Lifecycle limit ⟨some (.retrying, attempts), 0, 1, attempts⟩
  | settled {status : Status} {attempts : Nat} (final : status = .success ∨ status = .failed)
      (within : attempts ≤ limit) : Lifecycle limit ⟨some (status, attempts), 0, 0, attempts⟩

/-- What can happen to a delivery apart from the retry processor. -/
inductive Moves (limit : Nat) : Situation → Situation → Prop where
  | refuse {f t p : Nat} : Moves limit ⟨none, f, t, p⟩ ⟨some (.failed, 0), f, t, p⟩
  | send {f t p : Nat} (positive : 0 < limit) :
      Moves limit ⟨none, f, t, p⟩ ⟨some (.pending, 1), f + 1, t, p + 1⟩
  | abandon {status : Status} {n f t p : Nat} :
      Moves limit ⟨some (status, n), f, t + 1, p⟩ ⟨some (.failed, n), f, t, p⟩
  | retry {status : Status} {n f t p : Nat} :
      Moves limit ⟨some (status, n), f, t + 1, p⟩ ⟨some (.pending, n + 1), f + 1, t, p + 1⟩
  | succeed {status : Status} {n f t p : Nat} :
      Moves limit ⟨some (status, n), f + 1, t, p⟩ ⟨some (.success, n), f, t, p⟩
  | backOff {status : Status} {n f t p : Nat} (below : n < limit) :
      Moves limit ⟨some (status, n), f + 1, t, p⟩ ⟨some (.retrying, n), f, t + 1, p⟩
  | giveUp {status : Status} {n f t p : Nat} :
      Moves limit ⟨some (status, n), f + 1, t, p⟩ ⟨some (.failed, n), f, t, p⟩

variable {limit i : Nat} {a : Situation} {delivery dl : WebhookDelivery} {id e : String}
  {m : Manager} {s t : State} {rest : List String} {sg : Stage} {cl af before : List Call}
  {l : Label}

lemma Lifecycle.mono {l' : Nat} {situation : Situation}
    (hlc : Lifecycle limit situation) (le : limit ≤ l') : Lifecycle l' situation := by
  cases hlc with
  | unknown => exact .unknown
  | inFlight hp hw => exact .inFlight hp (by omega)
  | backingOff below => exact .backingOff (by omega)
  | settled hf hw => exact .settled hf (by omega)

section

variable (hlc : Lifecycle limit a)
include hlc

lemma Lifecycle.move {b : Situation} (ms : Moves limit a b) : Lifecycle limit b := by
  cases hlc with
  | unknown =>
    cases ms with
    | refuse => exact .settled (.inr rfl) (Nat.zero_le _)
    | send hp => exact .inFlight Nat.one_pos hp
  | inFlight hp hw =>
    cases ms with
    | succeed => exact .settled (.inl rfl) hw
    | backOff below => exact .backingOff below
    | giveUp => exact .settled (.inr rfl) hw
  | backingOff below =>
    cases ms with
    | abandon => exact .settled (.inr rfl) (by omega)
    | retry => exact .inFlight (Nat.succ_pos _) below
  | settled final hw => cases ms

lemma Lifecycle.posts_le : a.posts ≤ limit := by
  cases hlc with
  | unknown => exact Nat.zero_le _
  | inFlight _ within | settled _ within => exact within
  | backingOff below => exact Nat.le_of_lt below

lemma Lifecycle.inFlight_le : a.inFlight ≤ 1 := by
  cases hlc <;> simp

lemma Lifecycle.known_of_timers (hwa : 0 < a.timers) : a.delivery ≠ none := by
  cases hlc with
  | backingOff below => simp
  | unknown | inFlight | settled => cases hwa

lemma Lifecycle.positive_of_inFlight (hr : 0 < a.inFlight) : 0 < limit := by
  cases hlc with
  | inFlight hpos within => omega
  | unknown | backingOff | settled => cases hr

lemma Lifecycle.not_moves_of_success {att : Nat} {b : Situation}
    (s : a.delivery = some (.success, att)) : ¬ Moves limit a b := by
  intro ms
  cases hlc with
  | settled final within => cases ms
  | unknown | inFlight | backingOff => cases s

end

def isFetching (id : String) : Call → Bool
  | .attempting deliveryId .fetching _ _ => deliveryId = id
  | _ => false

/-- The situation of a delivery, given the number of its requests under way. -/
def situationOf (manager : Manager) (inFlight : Nat) (id : String) : Situation where
  delivery := (manager.deliveries.get? id).map fun delivery => (delivery.status, delivery.attempts)
  inFlight := inFlight
  timers := manager.timers.count id
  posts := manager.posts.countP fun post => post.deliveryId = id

def situation (s : State) (id : String) : Situation :=
  situationOf s.manager (s.calls.countP (isFetching id)) id

/-- `maxRetries` of the endpoint that a delivery is for. -/
def limitOf (manager : Manager) (id : String) : Nat :=
  (((manager.deliveries.get? id).bind fun delivery =>
    manager.objects.get? delivery.webhookId).map (·.maxRetries)).getD 0

lemma limitOf_eq {w : WebhookEndpoint} (hf : m.deliveries.get? id = some dl)
    (hkn : m.objects.get? dl.webhookId = some w) : limitOf m id = w.maxRetries := by
  simp [limitOf, hf, hkn]

lemma endpoint_of_limitOf (hp : 0 < limitOf m id) : ∃ dl w, m.deliveries.get? id = some dl ∧
      m.objects.get? dl.webhookId = some w := by
  rw [limitOf] at hp
  cases hf : m.deliveries.get? id with
  | none => simp [hf] at hp
  | some dl =>
    cases hkn : m.objects.get? dl.webhookId with
    | none => simp [hf, hkn] at hp
    | some w => exact ⟨dl, w, rfl, hkn⟩

/-- Each endpoint allows an attempt. -/
def Positive (objects : OrderedMap String WebhookEndpoint) : Prop :=
  ∀ key webhook, objects.get? key = some webhook → 0 < webhook.maxRetries

def SameLimits (before after : OrderedMap String WebhookEndpoint) : Prop :=
  ∀ key, (after.get? key).map (·.maxRetries) = (before.get? key).map (·.maxRetries)

lemma sameLimits_of_sameEndpoints {b after : OrderedMap String WebhookEndpoint}
    (hs : SameEndpoints b after) : SameLimits b after := by
  intro k
  simpa [Function.comp_def] using congrArg (Option.map Prod.snd) (hs k)

lemma SameLimits.trans {first w third : OrderedMap String WebhookEndpoint}
    (left : SameLimits first w) (right : SameLimits w third) : SameLimits first third :=
  fun k => (right k).trans (left k)

lemma SameLimits.positive {b after : OrderedMap String WebhookEndpoint}
    (hs : SameLimits b after) (hps : Positive b) : Positive after := by
  intro k w hf
  have hk := hs k
  rw [hf, map_some, eq_comm, map_eq_some_iff] at hk
  obtain ⟨old, hp, limit⟩ := hk
  have := hps k old hp
  omega

/-- What a step may do: a delivery stays as it is or makes one move, and the endpoints allow as many
attempts as before or more. -/
structure Advances (s t : State) : Prop where
  limits : ∀ id, limitOf s.manager id ≤ limitOf t.manager id
  positive : Positive s.manager.objects → Positive t.manager.objects
  moves : ∀ id, situation t id = situation s id ∨
    Moves (limitOf t.manager id) (situation s id) (situation t id)

lemma Advances.of_same (hdl : t.manager.deliveries = s.manager.deliveries)
    (ht : t.manager.timers = s.manager.timers) (hp : t.manager.posts = s.manager.posts)
    (limits : SameLimits s.manager.objects t.manager.objects)
    (cs : ∀ id, t.calls.countP (isFetching id) = s.calls.countP (isFetching id)) :
    Advances s t where
  limits id := by
    refine Nat.le_of_eq ?_
    simp only [limitOf, hdl]
    cases s.manager.deliveries.get? id with
    | none => rfl
    | some dl =>
      have hs := limits dl.webhookId
      simp only [bind_some, hs]
  positive := limits.positive
  moves id := .inl (by simp only [situation, situationOf, hdl, ht, hp, cs])

/-- Only one delivery changes, and each stays with its endpoint. -/
structure Frame (id : String) (before after : Manager) : Prop where
  others : ∀ other, id ≠ other → ∀ f, situationOf after f other = situationOf before f other
  endpoints : ∀ other delivery, before.deliveries.get? other = some delivery →
    (after.deliveries.get? other).map (·.webhookId) = some delivery.webhookId
  limits : SameLimits before.objects after.objects

lemma Frame.limitOf_le {b a : Manager} (hfr : Frame id b a)
    (x : String) : limitOf b x ≤ limitOf a x := by
  cases hf : b.deliveries.get? x with
  | none => simp [limitOf, hf]
  | some dl =>
    obtain ⟨now, hp, hs⟩ := map_eq_some_iff.mp (hfr.endpoints x dl hf)
    have limit := hfr.limits dl.webhookId
    simp only [limitOf, hf, hp, bind_some, hs, limit]
    exact Nat.le_refl _

lemma Frame.trans {b m a : Manager} (first : Frame id b m) (hs : Frame id m a) : Frame id b a where
  others x hne f := (hs.others x hne f).trans (first.others x hne f)
  endpoints x dl hf := by
    obtain ⟨now, hp, hsm⟩ := map_eq_some_iff.mp (first.endpoints x dl hf)
    rw [hs.endpoints x now hp, hsm]
  limits := first.limits.trans hs.limits

lemma Frame.advances (hf : Frame id s.manager t.manager) (cs : ∀ x, id ≠ x →
      t.calls.countP (isFetching x) = s.calls.countP (isFetching x))
    (moves : situation t id = situation s id ∨
      Moves (limitOf t.manager id) (situation s id) (situation t id)) : Advances s t where
  limits := hf.limitOf_le
  positive := hf.limits.positive
  moves x := by
    by_cases hs : id = x
    · exact hs ▸ moves
    · refine .inl ?_
      rw [situation, situation, cs x hs, hf.others x hs]

lemma frame_setDelivery
    (hs : ∀ old, m.deliveries.get? id = some old → dl.webhookId = old.webhookId) :
    Frame id m (m.setDelivery id dl) where
  others x hne f := by
    simp [situationOf, setDelivery, get?_set, hne]
  endpoints x old hf := by
    simp only [setDelivery, get?_set]
    by_cases hh : id = x
    · subst hh
      simp [hs old hf]
    · simp [hh, hf]
  limits := fun _ => rfl

lemma frame_attemptDelivery (hf : m.deliveries.get? id = some dl) :
    Frame id m (m.attemptDelivery id).1 := by
  rcases attemptDelivery_spec hf with hs | ⟨w, -, hs⟩
  · rw [hs]
    refine frame_setDelivery fun old hp => ?_
    obtain rfl := some.inj (hf.symm.trans hp)
    rfl
  · rw [hs]
    obtain ⟨ho, es, hl⟩ : Frame id m (m.setDelivery id
        { dl with status := .pending, attempts := dl.attempts + 1 }) :=
      frame_setDelivery fun old hp => by
        obtain rfl := some.inj (hf.symm.trans hp)
        rfl
    refine ⟨fun x hne f => ?_, es, hl⟩
    rw [← ho x hne f]
    simp [situationOf, setDelivery, hne]

lemma situationOf_attemptDelivery (hf : m.deliveries.get? id = some delivery) (f : Nat) :
    ((m.attemptDelivery id).2 ≠ .fetching ∧ situationOf (m.attemptDelivery id).1 f id =
        { situationOf m f id with delivery := some (.failed, delivery.attempts) }) ∨
    ((m.attemptDelivery id).2 = .fetching ∧ (∃ w, m.objects.get? delivery.webhookId = some w ∧
        limitOf (m.attemptDelivery id).1 id = w.maxRetries) ∧
      situationOf (m.attemptDelivery id).1 f id = { situationOf m f id with
          delivery := some (.pending, delivery.attempts + 1)
          posts := (situationOf m f id).posts + 1 }) := by
  rcases attemptDelivery_spec hf with hs | ⟨w, hkn, hs⟩
  · rw [hs]
    refine .inl ⟨by simp, ?_⟩
    simp [situationOf, setDelivery, get?_set]
  · rw [hs]
    have ho := (getWebhook_eq_some.mp hkn).2
    refine .inr ⟨rfl, ⟨w, ho, ?_⟩, ?_⟩
    · simp [limitOf, setDelivery, get?_set, ho]
    · simp [situationOf, setDelivery, get?_set]

lemma isFetching_attempting (id x : String) (sg : Stage) (e : String) (r : List String) :
    isFetching x (.attempting id sg e r) = true ↔ sg = .fetching ∧ id = x := by
  cases sg <;> simp [isFetching]

lemma isFetching_of_ne (han : sg ≠ .fetching) (x : String) :
    isFetching x (.attempting id sg e rest) = false := by
  rw [← Bool.not_eq_true, isFetching_attempting]
  exact fun this => han this.1

/-- The number of requests under way, once a call has been started or has gone on. -/
def Counts (before after : List Call) (call : Call) : Prop :=
  ∀ id, after.countP (isFetching id) =
    before.countP (isFetching id) + if isFetching id call then 1 else 0

lemma counts_append (cs : List Call) (c : Call) : Counts cs (cs ++ [c]) c := by
  intro id
  rw [countP_append, countP_singleton]

lemma counts_set {old : Call} (hf : cl[i]? = some old)
    (hi : ∀ id, isFetching id old = false) (new : Call) : Counts cl (cl.set i new) new := by
  intro id
  have hex := TaskLists.countP_set (isFetching id) hf new
  rw [hi id] at hex
  simpa using hex

lemma Counts.idle {c : Call} (cs : Counts before af c)
    (hi : ∀ id, isFetching id c = false) (id : String) :
    af.countP (isFetching id) = before.countP (isFetching id) := by
  simpa [hi id] using cs id

lemma Counts.others (cs : Counts before af (.attempting id sg e rest))
    (x : String) (hne : id ≠ x) : af.countP (isFetching x) = before.countP (isFetching x) := by
  rw [cs x, if_neg]
  · rfl
  · rw [isFetching_attempting]
    exact fun this => hne this.2

lemma Counts.same (cs : Counts before af (.attempting id sg e rest)) : af.countP (isFetching id) =
      before.countP (isFetching id) + if sg = .fetching then 1 else 0 := by
  have hh := cs id
  simp only [isFetching_attempting, and_true] at hh
  exact hh

lemma frame_enqueue (hfr : m.deliveries.get? id = none) (dl : WebhookDelivery) :
    Frame id m (m.enqueue id dl) := by
  obtain ⟨ho, es, hl⟩ : Frame id m (m.setDelivery id dl) :=
    frame_setDelivery fun old hp => by simp [hfr] at hp
  exact ⟨ho, es, hl⟩

lemma advances_enqueue
    (hfr : s.manager.deliveries.get? id = none) (hpos : Positive s.manager.objects)
    {wid : String} {now : Nat} (counts : Counts s.calls cl (.attempting id
      ((s.manager.enqueue id ⟨wid, e, .pending, 0, now⟩).attemptDelivery id).2 e rest)) : Advances s
      ⟨((s.manager.enqueue id ⟨wid, e, .pending, 0, now⟩).attemptDelivery id).1, cl⟩ := by
  have hf : (s.manager.enqueue id ⟨wid, e, .pending, 0, now⟩).deliveries.get? id =
      some ⟨wid, e, .pending, 0, now⟩ := by
    simp [enqueue, setDelivery, get?_set]
  have frame := (frame_enqueue hfr ⟨wid, e, .pending, 0, now⟩).trans (frame_attemptDelivery hf)
  refine frame.advances counts.others (.inr ?_)
  have unknown : situation s id = ⟨none, s.calls.countP (isFetching id),
      s.manager.timers.count id, s.manager.posts.countP fun post => post.deliveryId = id⟩ := by
    simp [situation, situationOf, hfr]
  have here := counts.same
  rw [unknown]
  show Moves (limitOf _ id) _ (situationOf _ (cl.countP (isFetching id)) id)
  rcases situationOf_attemptDelivery hf (cl.countP (isFetching id)) with
    ⟨hret, af⟩ | ⟨posted, ⟨w, hkn, limit⟩, af⟩
  · rw [if_neg hret, Nat.add_zero] at here
    rw [af, here]
    exact .refuse
  · rw [if_pos posted] at here
    have allowed : 0 < w.maxRetries := hpos _ w hkn
    rw [af, here, limit]
    exact .send allowed

lemma advances_sendNext
    (hfr : s.manager.deliveries.get? id = none) (hp : Positive s.manager.objects)
    (e : String) (ws : List String) (now : Nat)
    (cs : Counts s.calls cl (s.manager.sendNext e ws id now).2) :
    Advances s ⟨(s.manager.sendNext e ws id now).1, cl⟩ := by
  cases ws with
  | nil => exact .of_same rfl rfl rfl (fun _ => rfl) (cs.idle fun _ => rfl)
  | cons wid rest =>
    rw [sendNext] at cs ⊢
    cases hs : s.manager.objects.get? wid with
    | none =>
      rw [hs] at cs
      exact .of_same rfl rfl rfl (fun _ => rfl) (cs.idle fun _ => rfl)
    | some w =>
      rw [hs] at cs
      exact advances_enqueue hfr hp cs

lemma advances_timer (hlc : ∀ id, Lifecycle (limitOf s.manager id) (situation s id))
    (hfd : s.step (.timer i) = some t) : Advances s t := by
  obtain ⟨id, set, rfl⟩ := map_eq_some_iff.mp hfd
  obtain ⟨b, hh⟩ := List.getElem?_eq_some_iff.mp set
  have hpr := getElem_cons_eraseIdx_perm b
  rw [hh] at hpr
  have ht : ∀ x, s.manager.timers.count x =
      (s.manager.timers.eraseIdx i).count x + if id = x then 1 else 0 := by
    intro x
    rw [← hpr.count_eq x, count_cons]
    simp
  have hkn : (situation s id).delivery ≠ none := by
    apply (hlc id).known_of_timers
    show 0 < s.manager.timers.count id
    rw [ht id, if_pos rfl]
    omega
  obtain ⟨dl, hf⟩ : ∃ dl, s.manager.deliveries.get? id = some dl := by
    simpa [situation, situationOf, ne_none_iff_exists'] using hkn
  have hdr : (s.manager.dropTimer i).deliveries.get? id = some dl := hf
  have he : Frame id s.manager (s.manager.dropTimer i) := by
    refine ⟨fun x hne f => ?_, fun x old hp => ?_, fun _ => rfl⟩
    · simp [situationOf, dropTimer, ht x, hne]
    · simp [dropTimer, hp]
  have hfr := he.trans (frame_attemptDelivery hdr)
  have hc := counts_append s.calls (.attempting id
    ((s.manager.dropTimer i).attemptDelivery id).2 "" [])
  refine hfr.advances hc.others (.inr ?_)
  have before : situation s id = ⟨some (dl.status, dl.attempts),
      s.calls.countP (isFetching id), (s.manager.timers.eraseIdx i).count id + 1,
      s.manager.posts.countP fun pt => pt.deliveryId = id⟩ := by
    simp [situation, situationOf, hf, ht id]
  rw [before]
  show Moves (limitOf _ id) _ (situationOf ((s.manager.dropTimer i).attemptDelivery id).1
    (countP (isFetching id) (s.calls ++ [_])) id)
  rw [hc.same]
  rcases situationOf_attemptDelivery hdr _ with ⟨hr, af⟩ | ⟨hps, -, af⟩
  · rw [af, if_neg hr]
    exact .abandon
  · rw [af, if_pos hps]
    exact .retry

lemma advances_completeRequest (ok ap : Bool)
    (hlc : Lifecycle (limitOf s.manager id) (situation s id))
    (hf : s.calls[i]? = some (.attempting id .fetching e rest)) :
    Advances s ⟨(s.manager.completeRequest id ok ap).1, s.calls.set i
      (.attempting id (s.manager.completeRequest id ok ap).2 e rest)⟩ := by
  have hr : 0 < s.calls.countP (isFetching id) :=
    countP_pos_iff.mpr ⟨_, mem_of_getElem? hf, by simp [isFetching]⟩
  obtain ⟨dl, w, hp, hkn⟩ := endpoint_of_limitOf (hlc.positive_of_inFlight hr)
  obtain ⟨objects, redis, status, timers, sg, hs, x, es, -, o⟩ := completeRequest_spec hp hkn ok ap
  have cl : ∀ id', (s.calls.set i (.attempting id sg e rest)).countP
      (isFetching id') + (if id = id' then 1 else 0) = s.calls.countP (isFetching id') := by
    intro id'
    have hex := TaskLists.countP_set (isFetching id') hf (.attempting id sg e rest)
    simpa [isFetching_attempting, x] using hex
  have hfr : Frame id s.manager { s.manager with
      objects := objects
      redis := redis
      timers := timers
      deliveries := s.manager.deliveries.set id { dl with status := status } } := by
    refine ⟨fun id' hne f => ?_, fun id' old hst => ?_, sameLimits_of_sameEndpoints es⟩
    · rcases o with ⟨-, rfl⟩ | ⟨-, rfl, -⟩ | ⟨-, rfl⟩ <;>
        simp [situationOf, get?_set, hne]
    · simp only [get?_set]
      by_cases hh : id = id'
      · subst hh
        obtain rfl := some.inj (hp.symm.trans hst)
        simp
      · simp [hh, hst]
  rw [hs]
  refine hfr.advances (fun id' hne => ?_) (.inr ?_)
  · simpa [hne] using cl id'
  · have hh := cl id
    rw [if_pos rfl] at hh
    have before : situation s id = ⟨some (dl.status, dl.attempts),
        (s.calls.set i (.attempting id sg e rest)).countP (isFetching id) + 1,
        s.manager.timers.count id, s.manager.posts.countP fun ps => ps.deliveryId = id⟩ := by
      simp [situation, situationOf, hp, hh]
    have limit : limitOf s.manager id = w.maxRetries := limitOf_eq hp hkn
    have af : ∀ f, situationOf { s.manager with
        objects := objects
        redis := redis
        timers := timers
        deliveries := s.manager.deliveries.set id { dl with status := status } } f id =
        ⟨some (status, dl.attempts), f, timers.count id,
          s.manager.posts.countP fun ps => ps.deliveryId = id⟩ := by
      intro f
      simp [situationOf, get?_set]
    rw [before, situation, af]
    rcases o with ⟨rfl, rfl⟩ | ⟨rfl, rfl, below⟩ | ⟨rfl, rfl⟩
    · exact .succeed
    · simp only [count_append, count_singleton_self]
      exact .backOff (by have := hfr.limitOf_le id; simp only at this ⊢; omega)
    · exact .giveUp

lemma updateData_idle (m : Manager) (wid : String) (ap : Bool) :
    ∃ redis stage, m.updateData wid ap = ({ m with redis := redis }, stage) ∧
      stage ≠ .fetching := by
  cases hf : m.objects.get? wid with
  | none => exact ⟨m.redis, .returning, by simp [updateData, hf], by simp⟩
  | some w =>
    obtain ⟨redis, hs, -⟩ := m.updateData_spec hf ap
    exact ⟨redis, _, hs, by simp⟩

lemma advances_resume {ok ap : Bool} {did : String}
    {now : Nat} (hlc : ∀ id, Lifecycle (limitOf s.manager id) (situation s id))
    (hp : Positive s.manager.objects)
    (hr : s.step (.resume i ok ap did now) = some t) : Advances s t := by
  obtain ⟨hfr, c, r, hf, hrs, rfl⟩ := resume_cases hr
  cases hrs with
  | request => exact advances_completeRequest ok ap (hlc _) hf
  | @disabled id e rest b dl =>
    obtain ⟨redis, sg, hs, x⟩ := updateData_idle s.manager dl.webhookId ap
    have hc := counts_set hf (fun _ => rfl) (.attempting id sg e rest)
    rw [hs]
    exact .of_same rfl rfl rfl (fun _ => rfl) (hc.idle (isFetching_of_ne x))
  | @next id e sg rest han =>
    have hc := counts_set hf (isFetching_of_ne han) (s.manager.sendNext e rest did now).2
    exact advances_sendNext hfr hp e rest now hc
  | @deleted wid =>
    have hc := counts_set hf (fun _ => rfl) (.deleted wid)
    exact .of_same rfl rfl rfl (fun _ => rfl) (hc.idle fun _ => rfl)
  | finish han =>
    have hi : ∀ id, isFetching id c = false := by
      intro id
      cases c with
      | attempting did sg e rest =>
        refine isFetching_of_ne ?_ id
        rintro rfl
        exact han _ _ _ rfl
      | registering | updating | deleting | deleted | ended => rfl
    have hc := counts_set hf hi .ended
    exact .of_same rfl rfl rfl (fun _ => rfl) (hc.idle fun _ => rfl)

/-- The retry processor finds nothing to do, and updates leave `maxRetries` alone. -/
def Careful (s : State) : Label → Prop
  | .retryProcessor => s.manager.pendingRetries = []
  | .updateWebhook _ updates _ => updates.maxRetries = none
  | _ => True

instance (s : State) (label : Label) : Decidable (Careful s label) := by
  cases label <;> dsimp only [Careful] <;> infer_instance

lemma advances_register {wid c url : String} {es : List String} {ap : Bool}
    (hrg : s.step (.registerWebhook wid c url es ap) = some t) : Advances s t := by
  obtain ⟨hfr, redis, -, rfl⟩ := register_cases hrg
  constructor
  · intro id
    simp only [limitOf]
    cases s.manager.deliveries.get? id with
    | none => exact Nat.le_refl _
    | some dl =>
      simp only [bind_some, get?_set]
      split
      · simp_all
      · exact Nat.le_refl _
  · intro hp k w hf
    simp only [get?_set] at hf
    split at hf
    · cases hf
      exact Nat.succ_pos 2
    · exact hp k w hf
  · intro id
    refine .inl ?_
    simp [situation, situationOf, isFetching]

lemma advances_step (hlc : ∀ id, Lifecycle (limitOf s.manager id) (situation s id))
    (hp : Positive s.manager.objects) (hca : Careful s l)
    (hs : s.step l = some t) : Advances s t := by
  have hun : Advances s s := .of_same rfl rfl rfl (fun _ => rfl) fun _ => rfl
  cases l with
  | registerWebhook wid c url events ap => exact advances_register hs
  | updateWebhook wid us ap =>
    simp only [step] at hs
    split at hs
    · cases hs
      exact hun
    · rename_i w hkn
      simp only [getWebhook, ite_none_right_eq_some] at hkn
      have hsm : (w.assign us).maxRetries = w.maxRetries := by
        have none : us.maxRetries = none := hca
        simp [WebhookEndpoint.assign, none]
      have hc := counts_append s.calls (.updating wid ap)
      cases ap <;> cases hs <;> exact .of_same rfl rfl rfl (map_get?_set _ hkn.2 hsm)
          (hc.idle fun _ => rfl)
  | deleteWebhook wid ap =>
    simp only [step] at hs
    split at hs
    · cases hs
      exact hun
    · have hc := counts_append s.calls (.deleting wid ap)
      cases ap <;> cases hs <;> exact .of_same rfl rfl rfl (fun _ => rfl) (hc.idle fun _ => rfl)
  | sendWebhook c e d now =>
    obtain ⟨hfr, ws, rfl⟩ := send_cases hs
    exact advances_sendNext hfr hp e ws now (counts_append s.calls _)
  | timer i => exact advances_timer hlc hs
  | retryProcessor =>
    have none : s.manager.pendingRetries = [] := hca
    simp only [step, none, foldl_nil] at hs
    cases hs
    refine .of_same ?_ ?_ ?_ ?_ fun _ => rfl
    all_goals
      simp only [cleanUp]
      split <;> first | rfl | exact fun _ => rfl
  | resume i ok ap d now => exact advances_resume hlc hp hs

structure Invariant (s : State) : Prop where
  positive : Positive s.manager.objects
  lifecycle : ∀ id, Lifecycle (limitOf s.manager id) (situation s id)

lemma Invariant.advance (inv : Invariant s) (ha : Advances s t) : Invariant t where
  positive := ha.positive inv.positive
  lifecycle id := by
    have before := (inv.lifecycle id).mono (ha.limits id)
    rcases ha.moves id with hs | ms
    · exact hs ▸ before
    · exact before.move ms

lemma Invariant.step (inv : Invariant s)
    (hca : Careful s l) (hs : s.step l = some t) : Invariant t :=
  inv.advance (advances_step inv.lifecycle inv.positive hca hs)

lemma invariant_launched {rs : OrderedMap String WebhookEndpoint} (hp : Positive rs) :
    Invariant (launched rs) :=
  ⟨hp, fun _ => .unknown⟩

def statusOf (s : State) (id : String) : Option Status :=
  (s.manager.deliveries.get? id).map (·.status)

def postsOf (s : State) (id : String) : Nat :=
  s.manager.posts.countP fun post => post.deliveryId = id

lemma situation_of_success (inv : Invariant s)
    (success : statusOf s id = some .success) (hca : Careful s l)
    (hs : s.step l = some t) : situation t id = situation s id := by
  have advances := advances_step inv.lifecycle inv.positive hca hs
  obtain ⟨dl, hf, st⟩ := map_eq_some_iff.mp success
  have hkn : (situation s id).delivery = some (.success, dl.attempts) := by
    simp [situation, situationOf, hf, st]
  have hlc := (inv.lifecycle id).mono (advances.limits id)
  exact (advances.moves id).resolve_right (hlc.not_moves_of_success hkn)

lemma success_final {labels : List Label} (inv : Invariant s)
    (success : statusOf s id = some .success) (run : Run step Careful s labels t) :
    statusOf t id = some .success ∧ postsOf t id = postsOf s id := by
  have hk := run.invariant
    (fun t => Invariant t ∧ statusOf t id = some .success ∧ postsOf t id = postsOf s id)
    (fun u l v holds hca hs => by
      have same := situation_of_success holds.1 holds.2.1 hca hs
      have st : statusOf v id = statusOf u id := by
        have deliveries := congrArg (fun situation => situation.delivery.map Prod.fst) same
        simpa [situation, situationOf, statusOf, Function.comp_def] using deliveries
      have posts : postsOf v id = postsOf u id := congrArg Situation.posts same
      exact ⟨holds.1.step hca hs, st.trans holds.2.1, posts.trans holds.2.2⟩)
    ⟨inv, success, rfl⟩
  exact hk.2

theorem delivers_of_careful {redis : OrderedMap String WebhookEndpoint}
    (positive : Positive redis) {labels : List Label} {s : State}
    (run : Run State.step Careful (launched redis) labels s) :
    (∀ id, postsOf s id ≤ limitOf s.manager id) ∧ (∀ id, s.calls.countP (isFetching id) ≤ 1) ∧
      ∀ id more t, statusOf s id = some .success → Run State.step Careful s more t →
        statusOf t id = some .success ∧ postsOf t id = postsOf s id := by
  have inv := run.invariant Invariant (fun _ _ _ inv hc hs => inv.step hc hs)
    (invariant_launched positive)
  refine ⟨fun id => ?_, fun id => ?_, fun id more t => success_final inv⟩
  · exact (inv.lifecycle id).posts_le
  · exact (inv.lifecycle id).inFlight_le

lemma positive_oneEndpoint : Positive oneEndpoint := by
  intro k w hf
  have hst := mem_of_get? hf
  simp [oneEndpoint, OrderedMap.set, empty, OrderedMap.replace] at hst
  simp [hst.2]

/-- A delivery, whose first request fails. -/
def sendAndFail : List Label :=
  [.sendWebhook "client" "order" "d1" 1, .resume 0 false true "d2" 1, .resume 0 true true "d2" 1]

/-- The timer comes before the retry processor. -/
def retryByTimer : List Label := List.flatten
  [sendAndFail, [.timer 0, .resume 1 true true "d2" 1, .retryProcessor, .resume 1 true true "d2" 1]]

theorem retryByTimer_delivers : ∃ s, Run State.step Careful (launched oneEndpoint) retryByTimer s ∧
      statusOf s "d1" = some .success ∧ postsOf s "d1" = 2 ∧
      postsOf s "d1" ≤ limitOf s.manager "d1" :=
  exists_run₂ (by decide +kernel) fun _ run _ _ =>
    (delivers_of_careful positive_oneEndpoint run).1 "d1"

/-- The retry processor comes before the timer; the request that it makes succeeds. -/
def retryTwice : List Label := List.flatten
  [sendAndFail, [.retryProcessor, .timer 0, .resume 1 true true "d2" 1]]

/-- Every request fails, and the retry processor comes before the timers. -/
def retryAlways : List Label := List.flatten
  [sendAndFail, [.retryProcessor, .resume 1 false true "d2" 1, .timer 0,
    .resume 2 false true "d2" 1, .timer 0]]

theorem retryProcessor_repeats :
    (∃ s, Run State.step Always (launched oneEndpoint) (sendAndFail ++ [.retryProcessor, .timer 0])
        s ∧ s.calls.countP (isFetching "d1") = 2) ∧
    (∃ s t, Run State.step Always (launched oneEndpoint) retryTwice s ∧
        statusOf s "d1" = some .success ∧ Run State.step Always s [.resume 2 false true "d2" 1] t ∧
        statusOf t "d1" = some .failed) ∧
    ∃ s, Run State.step Always (launched oneEndpoint) retryAlways s ∧ postsOf s "d1" = 4 ∧
      limitOf s.manager "d1" = 3 := by
  refine ⟨?_, ?_, ?_⟩
  · exact exists_run_seen (by decide +kernel)
  · exact ⟨_, _, run_of_exec rfl, rfl, run_of_exec rfl, rfl⟩
  · exact exists_run_seen (by decide +kernel)

end DeliveryAttempts
