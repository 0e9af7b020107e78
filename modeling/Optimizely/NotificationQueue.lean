import Optimizely.OrderedMap
import Optimizely.TransitionRuns

/-!
# Messages of the notification service

`RealTimeNotificationService` queues messages and delivers up to ten in a processor run, between
whose awaits events and channel updates may come. Two ways out of `deliverMessage` mark a message
failed and leave it in the queue, and a failed write marks a delivered message failed.
-/

namespace NotificationQueue

open TransitionRuns List

structure Channel where
  enabled : Bool := true
  maxPerMinute : Nat
  maxPerHour : Nat
  maxPerDay : Nat
  maxRetries : Nat
  initialDelayMs : Rat
  backoffMultiplier : Rat

inductive Status where
  | pending | sent | delivered | failed
  deriving DecidableEq

structure Message where
  channel : String := ""
  status : Status := .pending
  attempts : Nat := 0
  scheduledAt : Rat := 0
  deriving DecidableEq

/-- Where `deliverMessage` waits; a processor run between two messages waits for nothing. -/
inductive Phase where
  | between
  | limiting (id : String) (channel : Channel)
  | delivering (id : String) (channel : Channel)
  | storing (id : String)

/-- `created` has the messages queued so far, `succeeded` those whose channel reported success.
A processor run has the messages it has still to deliver. -/
structure State where
  now : Nat := 0
  channels : OrderedMap String Channel := OrderedMap.empty
  message : String → Message := fun _ => {}
  messageQueue : List String := []
  processing : Option (Phase × List String) := none
  created : List String := []
  succeeded : List String := []

/-- The answers of Redis and of a channel come with the steps: the three counts or a failure, the
report of the channel, and whether the result was stored. -/
inductive Label where
  | create (id channel : String) (delay : Rat)
  | setChannel (id : String) (channel : Channel)
  | processMessageQueue
  | deliverNext
  | counted (counts : Option (Nat × Nat × Nat))
  | reported (success : Bool)
  | stored (written : Bool)
  | advance (milliseconds : Nat)

def Channel.isRateLimited (channel : Channel) (counts : Nat × Nat × Nat) : Bool :=
  channel.maxPerMinute < counts.1 || channel.maxPerHour < counts.2.1 ||
    channel.maxPerDay < counts.2.2

namespace State

def put (s : State) (id : String) (message : Message) : State :=
  { s with message := Function.update s.message id message }

def fail (s : State) (id : String) : State := s.put id { s.message id with status := .failed }

/-- The channel of a message, if it is known and enabled. -/
def channelOf (s : State) (id : String) : Option Channel :=
  (s.channels.get? (s.message id).channel).filter (·.enabled)

/-- A success is first marked sent and then, the report having a time, delivered. -/
def afterReport (s : State) (channel : Channel) (message : Message) (success : Bool) : Message :=
  if success then { message with status := .delivered }
  else
    let attempts := message.attempts + 1
    if channel.maxRetries ≤ attempts then { message with attempts, status := .failed }
    else { message with
      attempts
      scheduledAt := s.now + channel.initialDelayMs * channel.backoffMultiplier ^ (attempts - 1) }

/-- The result is entered, and a message with a final status leaves the queue. -/
def settle (s : State) (id : String) (channel : Channel) (success : Bool) : State :=
  let message := s.afterReport channel (s.message id) success
  { s.put id message with
    messageQueue :=
      if message.status = .pending then s.messageQueue else s.messageQueue.erase id
    succeeded := if success then id :: s.succeeded else s.succeeded }

def readyMessages (s : State) : List String :=
  (s.messageQueue.filter fun id =>
    (s.message id).status = .pending ∧ (s.message id).scheduledAt ≤ s.now).take 10

end State

def step (s : State) : Label → Option State
  | .create id channel delay =>
    if id ∉ s.created ∧ (s.channels.get? channel).isSome then
      some { s.put id { channel, scheduledAt := s.now + delay } with
        messageQueue := s.messageQueue ++ [id]
        created := id :: s.created }
    else none
  | .setChannel id channel => some { s with channels := s.channels.set id channel }
  | .processMessageQueue =>
    if s.processing.isSome ∨ s.messageQueue = [] then some s
    else some { s with processing := some (.between, s.readyMessages) }
  | .deliverNext =>
    match s.processing with
    | some (.between, []) => some { s with processing := none }
    | some (.between, id :: rest) =>
      match s.channelOf id with
      | none => some { s.fail id with processing := some (.between, rest) }
      | some channel => some { s with processing := some (.limiting id channel, rest) }
    | _ => none
  | .counted counts =>
    match s.processing, counts with
    | some (.limiting id _, rest), none =>
      some { s.fail id with processing := some (.between, rest) }
    | some (.limiting id channel, rest), some counts =>
      if channel.isRateLimited counts then
        some { s.put id { s.message id with scheduledAt := s.now + 60000 } with
          processing := some (.between, rest) }
      else some { s with processing := some (.delivering id channel, rest) }
    | _, _ => none
  | .reported success =>
    match s.processing with
    | some (.delivering id channel, rest) =>
      some { s.settle id channel success with processing := some (.storing id, rest) }
    | _ => none
  | .stored written =>
    match s.processing with
    | some (.storing id, rest) =>
      some { (if written then s else s.fail id) with processing := some (.between, rest) }
    | _ => none
  | .advance milliseconds => some { s with now := s.now + milliseconds }

def State.nextMessage (s : State) : Option String :=
  match s.processing with
  | some (.between, id :: _) => some id
  | _ => none

/-- A message that is delivered has an enabled channel, and Redis answers the processor. -/
def Careful (s : State) : Label → Prop
  | .deliverNext => ∀ id ∈ s.nextMessage, (s.channelOf id).isSome
  | .counted counts => counts ≠ none
  | .stored written => written = true
  | _ => True

structure Lifecycle (s : State) : Prop where
  idle : s.processing = none → ∀ id ∈ s.messageQueue, (s.message id).status = .pending
  ended : ∀ id ∈ s.created, id ∈ s.messageQueue ∨ (s.message id).status = .delivered ∨
    (s.message id).status = .failed
  once : ∀ id channel rest, s.processing = some (.delivering id channel, rest) → id ∉ s.succeeded
  success : ∀ id ∈ s.succeeded, (s.message id).status ≠ .failed

/-- The messages that a processor run has yet to hear of. -/
def unsettled : Phase × List String → List String
  | (.limiting id _, rest) | (.delivering id _, rest) => id :: rest
  | (.between, rest) | (.storing _, rest) => rest

structure Fits (s : State) (id : String) : Prop where
  queued : id ∈ s.messageQueue → id ∈ s.created ∧ (s.message id).status = .pending
  ended : id ∈ s.created → id ∉ s.messageQueue →
    (s.message id).status = .delivered ∨ (s.message id).status = .failed
  succeeded : id ∈ s.succeeded → id ∈ s.created ∧ (s.message id).status = .delivered

structure Sound (s : State) : Prop where
  nodup : s.messageQueue.Nodup
  claimed : ∀ run ∈ s.processing, (unsettled run).Nodup ∧ unsettled run ⊆ s.messageQueue
  fits : ∀ id, Fits s id

variable {s t : State} {id : String} {m : Message} {c : Channel} {rest : List String}
  {success : Bool} {lb : Label}

section

variable (sn : Sound s)
include sn

lemma Sound.not_succeeded (mem : id ∈ s.messageQueue) : id ∉ s.succeeded := by
  intro h
  have hdl := ((sn.fits id).succeeded h).2
  rw [((sn.fits id).queued mem).2] at hdl
  cases hdl

lemma Sound.lifecycle : Lifecycle s where
  idle _ id mem := ((sn.fits id).queued mem).2
  ended id mem := or_iff_not_imp_left.mpr ((sn.fits id).ended mem)
  once id c rest h := sn.not_succeeded ((sn.claimed _ h).2 (mem_cons_self ..))
  success id mem h := by
    rw [((sn.fits id).succeeded mem).2] at h
    cases h

lemma Sound.resume {run : Phase × List String}
    (hc : (unsettled run).Nodup ∧ unsettled run ⊆ s.messageQueue) :
    Sound { s with processing := some run } := by
  refine ⟨sn.nodup, ?_, fun id => ⟨(sn.fits id).1, (sn.fits id).2, (sn.fits id).3⟩⟩
  rintro _ ⟨⟩
  exact hc

lemma Sound.tail {p : Phase} (h : s.processing = some (p, rest)) :
    rest.Nodup ∧ rest ⊆ s.messageQueue := by
  obtain ⟨hds, hq⟩ := sn.claimed _ h
  cases p with
  | between | storing _ => exact ⟨hds, hq⟩
  | limiting _ _ | delivering _ _ => exact ⟨hds.of_cons, (cons_subset.mp hq).2⟩

lemma sound_create (hf : id ∉ s.created) (hp : m.status = .pending) : Sound { s.put id m with
      messageQueue := s.messageQueue ++ [id]
      created := id :: s.created } := by
  have ha : id ∉ s.messageQueue := fun mem => hf ((sn.fits id).queued mem).1
  refine ⟨nodup_append_comm.mp (nodup_cons.mpr ⟨ha, sn.nodup⟩), fun run h => ?_, fun o => ?_⟩
  · obtain ⟨hds, hq⟩ := sn.claimed run h
    exact ⟨hds, fun o mem => mem_append_left _ (hq mem)⟩
  · by_cases hs : o = id
    · subst hs
      have hn : o ∉ s.succeeded := fun h => hf ((sn.fits o).succeeded h).1
      constructor <;> simp [State.put, hp, hn]
    · obtain ⟨hq, ended, succeeded⟩ := sn.fits o
      constructor <;> simpa [State.put, hs]

lemma sound_put (mem : id ∈ s.messageQueue) (hp : m.status = .pending) : Sound (s.put id m) := by
  refine ⟨sn.nodup, sn.claimed, fun o => ?_⟩
  by_cases hs : o = id
  · subst hs
    have hm := ((sn.fits o).queued mem).1
    have hn := sn.not_succeeded mem
    constructor <;> simp [State.put, hp, hm, mem, hn]
  · obtain ⟨queued, ended, succeeded⟩ := sn.fits o
    constructor <;> simpa [State.put, hs]

lemma sound_leave (sc : Bool) (h : s.processing = some (.delivering id c, rest))
    (final : m.status = if sc then .delivered else .failed) : Sound { s.put id m with
      messageQueue := s.messageQueue.erase id
      succeeded := if sc then id :: s.succeeded else s.succeeded
      processing := some (.storing id, rest) } := by
  obtain ⟨hds, hq⟩ := sn.claimed _ h
  have mem := hq (mem_cons_self ..)
  have he := fun o => sn.nodup.mem_erase_iff (a := o) (b := id)
  refine ⟨sn.nodup.erase _, ?_, fun o => ?_⟩
  · rintro run ⟨⟩
    refine ⟨hds.of_cons, fun o l => (he o).mpr ⟨fun hs => ?_, ?_⟩⟩
    · exact hds.notMem (hs ▸ l)
    · exact hq (mem_cons_of_mem id l)
  · by_cases hs : o = id
    · subst hs
      have made := ((sn.fits o).queued mem).1
      have never := sn.not_succeeded mem
      cases sc <;> constructor <;> simp_all [State.put]
    · obtain ⟨hq, ended, succeeded⟩ := sn.fits o
      cases sc <;> constructor <;> simpa [State.put, hs, he]

lemma sound_settle (h : s.processing = some (.delivering id c, rest)) :
    Sound { s.settle id c success with processing := some (.storing id, rest) } := by
  have mem := (sn.claimed _ h).2 (mem_cons_self ..)
  have hp := ((sn.fits id).queued mem).2
  rw [State.settle, State.afterReport]
  cases success with
  | true => exact sound_leave sn true h rfl
  | false =>
    simp only [Bool.false_eq_true, if_false]
    split
    · exact sound_leave sn false h rfl
    · refine (sound_put sn mem ?_).resume ?_
      · exact hp
      · exact sn.tail h

lemma step_sound (hc : Careful s lb) (hs : step s lb = some t) : Sound t := by
  cases lb with
  | create id c delay =>
    rw [step, Option.ite_none_right_eq_some] at hs
    obtain ⟨⟨hf, -⟩, ⟨⟩⟩ := hs
    exact sound_create sn hf rfl
  | setChannel _ _ | advance _ =>
    cases hs
    exact ⟨sn.nodup, sn.claimed, fun id => ⟨(sn.fits id).1, (sn.fits id).2, (sn.fits id).3⟩⟩
  | processMessageQueue =>
    rw [step] at hs
    split at hs
    · cases hs
      exact sn
    · cases hs
      have hp : s.readyMessages.Sublist s.messageQueue := (take_sublist ..).trans filter_sublist
      exact sn.resume ⟨sn.nodup.sublist hp, hp.subset⟩
  | deliverNext =>
    rw [step] at hs
    split at hs
    · cases hs
      exact ⟨sn.nodup, nofun, fun id => ⟨(sn.fits id).1, (sn.fits id).2, (sn.fits id).3⟩⟩
    · rename_i id rest h
      have hk := hc id (by simp [State.nextMessage, h])
      split at hs
      · rename_i hm
        simp [hm] at hk
      · cases hs
        have hl := sn.claimed _ h
        exact sn.resume hl
    · cases hs
  | counted cs =>
    simp only [step] at hs
    split at hs
    · exact absurd rfl hc
    · rename_i id c rest cs h
      have mem := (sn.claimed _ h).2 (mem_cons_self ..)
      split at hs
      · cases hs
        refine (sound_put sn mem ?_).resume ?_
        · exact ((sn.fits id).queued mem).2
        · exact sn.tail h
      · cases hs
        have hl := sn.claimed _ h
        exact sn.resume hl
    · cases hs
  | reported success =>
    rw [step] at hs
    split at hs
    · cases hs
      exact sound_settle sn ‹_›
    · cases hs
  | stored w =>
    rw [step] at hs
    split at hs
    · rename_i id rest h
      cases (hc : w = true)
      cases hs
      have hl := sn.tail h
      exact sn.resume hl
    · cases hs

end

/-- While every message that is delivered finds its channel enabled and Redis answers the
processor, messages go the way from the queue to their end. -/
theorem lifecycle_of_careful {channels : OrderedMap String Channel} {ls : List Label}
    (run : Run step Careful { channels } ls t) : Lifecycle t := by
  have hi : Sound { channels } := ⟨nodup_nil, nofun, fun _ => ⟨nofun, nofun, nofun⟩⟩
  exact (run.invariant Sound (fun _ _ _ => step_sound) hi).lifecycle

instance (s : State) (label : Label) : Decidable (Careful s label) := by
  unfold Careful
  repeat' split
  all_goals infer_instance

def email : Channel := ⟨true, 60, 1000, 10000, 3, 1000, 2⟩

/-- A delivery that fails is tried again after a second. -/
theorem retried_is_delivered :
    ∃ t, Run step Careful { channels := OrderedMap.empty.set "email" email }
        [.create "a" "email" 0, .processMessageQueue, .deliverNext, .counted (some (1, 1, 1)),
        .reported false, .stored true, .deliverNext, .advance 1000, .processMessageQueue,
        .deliverNext, .counted (some (2, 2, 2)),
        .reported true, .stored true, .deliverNext] t ∧
      t.processing.isNone ∧ t.message "a" = ⟨"email", .delivered, 1, 1000⟩ ∧ Lifecycle t :=
  exists_run₂ (by decide +kernel) fun _ run _ _ => lifecycle_of_careful run

/-- A delivered message ends failed when its result is not stored; one whose channel was disabled
stays in the queue when the run is over. -/
theorem storeFails_is_failed :
    ∃ t, Run step Always { channels := OrderedMap.empty.set "email" email }
        [.create "a" "email" 0, .create "b" "email" 0, .processMessageQueue, .deliverNext,
        .counted (some (1, 1, 1)), .reported true, .stored false,
        .setChannel "email" { email with enabled := false }, .deliverNext, .deliverNext] t ∧
      t.processing.isNone ∧ t.succeeded = ["a"] ∧ (t.message "a").status = .failed ∧
      t.messageQueue = ["b"] ∧ (t.message "b").status = .failed :=
  exists_run_seen (by decide +kernel)

end NotificationQueue
