import Optimizely.DataPipeline
import Optimizely.TaskLists
import Optimizely.TransitionRuns

/-!
# Sessions shared with the data pipeline

The session manager and the data pipeline use the same keys. The pipeline's hash commands are
rejected while the key holds a session, but its `EXPIRE` is not: it gives every session half an
hour, also those of identified companies, which have a day. Sessions live as long as they should
just if no `EXPIRE` finds one with more time left than it gives.
-/

namespace SessionSharing

open SessionManager DataPipeline TransitionRuns List Option ExpiringKeys

/-- A call under way, with the reply on its way to it. -/
inductive Call where
  | updating (sessionId : String) (updates : Updates) (reply : Option Session)
  | adding (sessionId : String) (event : NewEvent) (reply : Option Session)
  | counting (event : NewEvent)
  | cleaning (expired : List String) (startedAt : Nat)
  | processing (event : RawEvent) (stage : Stage)
  | ended

/-- The last two fields are histories: when the time to live set by the last operation of the
session manager will have passed, and the expiries of live sessions before and after each step of
`processEvent`. -/
structure State where
  redis : SessionManager.Redis
  hashes : String → Option HashEntry
  clock : Nat
  calls : List Call
  deadlines : String → Option Nat
  expiries : List (Nat × Nat)

inductive Label where
  | createSession (sessionId ipAddress userAgent platform : String) (now : Nat)
  | updateSession (sessionId : String) (updates : Updates) (now : Nat)
  | addBehaviorEvent (sessionId : String) (event : NewEvent) (now : Nat)
  | cleanupExpiredSessions (now : Nat)
  | processEvent (event : RawEvent) (now : Nat)
  | resume (index : Nat) (now : Nat)

def Label.now : Label → Nat
  | .createSession _ _ _ _ now => now
  | .updateSession _ _ now => now
  | .addBehaviorEvent _ _ now => now
  | .cleanupExpiredSessions now => now
  | .processEvent _ now => now
  | .resume _ now => now

namespace State

def keys (s : State) : SessionKeys := ⟨s.redis.sessions, s.hashes⟩

/-- The session manager has written a session, over whatever the key held. -/
def wrote (s : State) (sessionId : String) (redis : SessionManager.Redis) : State :=
  { s with
    redis := redis
    hashes := fun key => if key = sessionId then none else s.hashes key
    deadlines := fun key =>
      if key = sessionId then (redis.sessions sessionId).map (·.expiresAt) else s.deadlines key }

/-- The pipeline that `cleanupExpiredSessions` executes for the ids it has read. -/
def deleteSessions (s : State) (expired : List String) (startedAt : Nat) : State :=
  if 0 < expired.length then
    { s with
      redis := { s.redis with
        sessions := s.redis.sessions.del expired
        b2b := s.redis.b2b.filter (· ∉ expired)
        engagement := s.redis.engagement.filter fun sessionId _ => sessionId ∉ expired
        active := s.redis.active.filter fun _ score => !isExpiredScore startedAt score }
      hashes := fun key => if key ∈ expired then none else s.hashes key
      deadlines := fun key => if key ∈ expired then none else s.deadlines key }
  else s

/-- Without an await between its two commands the cleanup is the one of the session manager. -/
lemma redis_deleteSessions (s : State) (now : Nat) :
    (s.deleteSessions (expiredSessions s.redis now) now).redis =
      cleanupExpiredSessions s.redis now := by
  rw [deleteSessions, cleanupExpiredSessions]
  split <;> rfl

/-- A step of `processEvent`. -/
def processed (s : State) (event : RawEvent) (stage : Stage) (now : Nat) : State :=
  let keys := (advance s.keys event stage now).1
  { s with
    redis := { s.redis with sessions := keys.strings }
    hashes := keys.hashes
    expiries := s.expiries ++ ((s.redis.sessions.live now event.sessionId).map fun entry =>
      (entry.expiresAt, ((keys.strings event.sessionId).map (·.expiresAt)).getD 0)).toList }

def resumed (s : State) (call : Call) (now : Nat) : Option (State × Call) :=
  match call with
  | .updating _ _ none => some (s, .ended)
  | .updating sessionId updates (some existingSession) =>
    some (s.wrote sessionId (writeUpdate s.redis sessionId existingSession updates now), .ended)
  | .adding _ _ none => some (s, .ended)
  | .adding sessionId event (some existingSession) =>
    some (s.wrote sessionId (writeEvent s.redis sessionId existingSession event now),
      .counting event)
  | .counting event => some ({ s with redis := countEvent s.redis event }, .ended)
  | .cleaning expired startedAt => some (s.deleteSessions expired startedAt, .ended)
  | .processing event stage =>
    some (s.processed event stage now,
      match (advance s.keys event stage now).2 with
      | some next => .processing event next
      | none => .ended)
  | .ended => none

def begin (s : State) (call : Call) : State := { s with calls := s.calls ++ [call] }

/-- One step, apart from the clock. -/
def act (s : State) : Label → Option State
  | .createSession sessionId ipAddress userAgent platform now =>
    some (s.wrote sessionId (createSession s.redis sessionId ipAddress userAgent platform now))
  | .updateSession sessionId updates now =>
    some (s.begin (.updating sessionId updates (getSession s.redis now sessionId)))
  | .addBehaviorEvent sessionId event now =>
    some (s.begin (.adding sessionId event (getSession s.redis now sessionId)))
  | .cleanupExpiredSessions now =>
    some (s.begin (.cleaning (expiredSessions s.redis now) now))
  | .processEvent event _ =>
    some (s.begin (match prepare event with
      | some event => .processing event .enrichingSession
      | none => .ended))
  | .resume index now =>
    (s.calls[index]?).bind fun call => (s.resumed call now).map fun result =>
      { result.1 with calls := s.calls.set index result.2 }

/-- Time does not go back. -/
def step (s : State) (label : Label) : Option State :=
  if s.clock ≤ label.now then { s with clock := label.now }.act label else none

end State

/-- Any contents of Redis, before the first session that is watched. -/
def launched (redis : SessionManager.Redis) (hashes : String → Option HashEntry) (clock : Nat) :
    State where
  redis := redis
  hashes := hashes
  clock := clock
  calls := []
  deadlines := fun _ => none
  expiries := []

/-- Sessions can be read until the time to live has passed that the session manager has set last,
and `processEvent` has not brought the end of one forward. -/
structure LivesOn (s : State) : Prop where
  readable : ∀ sessionId deadline now, s.deadlines sessionId = some deadline →
    s.clock ≤ now → now ≤ deadline → (getSession s.redis now sessionId).isSome
  unshortened : ∀ change ∈ s.expiries, change.1 ≤ change.2

/-- The session that the aggregation finds has no more time left than it will give. -/
def TimeLeft (s : State) (now : Nat) : Call → Prop
  | .processing event .realTime => ∀ entry ∈ s.redis.sessions.live now event.sessionId,
      entry.expiresAt ≤ now + aggregationTtl * 1000
  | _ => True

def Careful (s : State) : Label → Prop
  | .resume index now => ∀ call ∈ s.calls[index]?, TimeLeft s now call
  | _ => True

def Unshortened (expiries : List (Nat × Nat)) : Prop := ∀ change ∈ expiries, change.1 ≤ change.2

/-- The deadline has passed, or there is a session that expires no earlier. -/
def Covered (s : State) (sessionId : String) (deadline : Nat) : Prop :=
  deadline < s.clock ∨ ∃ entry, s.redis.sessions sessionId = some entry ∧ deadline ≤ entry.expiresAt

def Invariant (s : State) : Prop :=
  Unshortened s.expiries → ∀ sessionId deadline, s.deadlines sessionId = some deadline →
    Covered s sessionId deadline

variable {s t : State}

lemma livesOn_iff (inv : Invariant s) : LivesOn s ↔ Unshortened s.expiries := by
  constructor
  · intro hlv
    exact hlv.unshortened
  · intro hus
    refine ⟨fun id d now set hl soon => ?_, hus⟩
    rcases inv hus id d set with passed | ⟨e, hst, covers⟩
    · omega
    · have hli : s.redis.sessions.get now id = some e.value :=
        get_eq_some_iff.mpr ⟨e, hst, by omega, rfl⟩
      rw [getSession, hli]
      rfl

lemma invariant_wrote {id : String} {r : SessionManager.Redis} (inv : Invariant s)
    (ho : ∀ x, x ≠ id → r.sessions x = s.redis.sessions x) : Invariant (s.wrote id r) := by
  intro hus x d set
  by_cases hs : x = id
  · subst hs
    simp only [State.wrote, if_true] at set
    obtain ⟨e, hst, rfl⟩ := map_eq_some_iff.mp set
    exact .inr ⟨e, hst, le_rfl⟩
  · simp only [State.wrote, if_neg hs] at set
    rcases inv hus x d set with hp | ⟨e, hst, hc⟩
    · exact .inl hp
    · exact .inr ⟨e, (ho x hs).trans hst, hc⟩

lemma invariant_deleteSessions {xp : List String} {sa : Nat} (inv : Invariant s) :
    Invariant (s.deleteSessions xp sa) := by
  rw [State.deleteSessions]
  split
  · intro hus x d set
    dsimp only at set
    split at set
    · cases set
    · rename_i hk
      rcases inv hus x d set with hp | ⟨e, hst, hc⟩
      · exact .inl hp
      · refine .inr ⟨e, ?_, hc⟩
        simp only [del, if_neg hk]
        exact hst
  · exact inv

lemma expiries_processed (s : State) (ev : RawEvent) (sg : Stage) (now : Nat) :
    (s.processed ev sg now).expiries = s.expiries ++
      ((s.redis.sessions.live now ev.sessionId).map fun e =>
        (e.expiresAt, expiryAfter sg now e.expiresAt)).toList := by
  simp only [State.processed]
  cases hl : s.redis.sessions.live now ev.sessionId with
  | none => rfl
  | some e =>
    have t := strings_advance_of_live s.keys sg hl
    simp [t]

lemma timeLeft_processing_iff (s : State) (ev : RawEvent) (sg : Stage) (now : Nat) :
    TimeLeft s now (.processing ev sg) ↔ ∀ e ∈ s.redis.sessions.live now ev.sessionId,
        e.expiresAt ≤ expiryAfter sg now e.expiresAt := by
  cases sg with
  | realTime => exact Iff.rfl
  | _ => exact ⟨fun _ _ _ => le_rfl, fun _ => trivial⟩

lemma unshortened_processed (s : State) (e : RawEvent) (sg : Stage) (now : Nat) :
    Unshortened (s.processed e sg now).expiries ↔
      Unshortened s.expiries ∧ TimeLeft s now (.processing e sg) := by
  rw [expiries_processed, Unshortened, forall_mem_append, timeLeft_processing_iff]
  refine and_congr_right fun _ => ?_
  cases s.redis.sessions.live now e.sessionId <;> simp

lemma invariant_processed {ev : RawEvent} {sg : Stage} (inv : Invariant s) :
    Invariant (s.processed ev sg s.clock) := by
  intro hus x d set
  obtain ⟨b, -⟩ := (unshortened_processed s ev sg s.clock).mp hus
  have hcv := inv b x d set
  by_cases hs : x = ev.sessionId
  · subst hs
    rcases hcv with hp | ⟨e, hst, hc⟩
    · exact .inl hp
    · by_cases ha : s.clock ≤ e.expiresAt
      · have hlv := live_eq_some_iff.mpr ⟨hst, ha⟩
        have t := strings_advance_of_live s.keys sg hlv
        rw [expiries_processed, hlv] at hus
        have hl : e.expiresAt ≤ expiryAfter sg s.clock e.expiresAt :=
          hus _ (mem_append_right _ (mem_singleton_self _))
        exact .inr ⟨_, t, hc.trans hl⟩
      · left
        exact hc.trans_lt (Nat.lt_of_not_le ha)
  · rcases hcv with hp | ⟨e, hst, hc⟩
    · exact .inl hp
    · exact .inr ⟨e, (strings_advance_of_ne sg hs).trans hst, hc⟩

lemma resumed_kept {c next : Call} (inv : Invariant s) (r : s.resumed c s.clock = some (t, next)) :
    Invariant t ∧ (Unshortened t.expiries ↔ Unshortened s.expiries ∧ TimeLeft s s.clock c) := by
  cases c with
  | updating id us rp =>
    cases rp with
    | none =>
      cases r
      exact ⟨inv, by simp [TimeLeft]⟩
    | some es =>
      cases r
      exact ⟨invariant_wrote inv fun x hne => by
        simp [writeUpdate, setex_of_ne _ _ hne], by simp [TimeLeft, State.wrote]⟩
  | adding id e rp =>
    cases rp with
    | none =>
      cases r
      exact ⟨inv, by simp [TimeLeft]⟩
    | some es =>
      cases r
      exact ⟨invariant_wrote inv fun x hne => by
        simp [writeEvent, setex_of_ne _ _ hne], by simp [TimeLeft, State.wrote]⟩
  | counting e =>
    cases r
    exact ⟨inv, by simp [TimeLeft]⟩
  | cleaning xp sa =>
    cases r
    refine ⟨invariant_deleteSessions inv, ?_⟩
    have hs : (s.deleteSessions xp sa).expiries = s.expiries := by
      rw [State.deleteSessions]
      split <;> rfl
    simp [hs, TimeLeft]
  | processing e sg =>
    cases r
    exact ⟨invariant_processed inv, unshortened_processed s e sg s.clock⟩
  | ended => cases r

lemma act_kept {l : Label} (inv : Invariant s) (tm : l.now = s.clock) (ha : s.act l = some t) :
    Invariant t ∧ (Unshortened t.expiries ↔ Unshortened s.expiries ∧ Careful s l) := by
  cases l with
  | createSession id ipAddress userAgent platform now =>
    cases ha
    exact ⟨invariant_wrote inv fun x hne => by
      simp [createSession, setex_of_ne _ _ hne], by simp [Careful, State.wrote]⟩
  | updateSession _ _ _ | addBehaviorEvent _ _ _ | cleanupExpiredSessions _ | processEvent _ _ =>
    cases ha
    exact ⟨inv, by simp [Careful, State.begin]⟩
  | resume i now =>
    subst tm
    obtain ⟨c, hp, hmo⟩ := bind_eq_some_iff.mp ha
    obtain ⟨⟨after, next⟩, r, rfl⟩ := map_eq_some_iff.mp hmo
    have hca : Careful s (.resume i s.clock) ↔ TimeLeft s s.clock c := by
      simp [Careful, hp]
    obtain ⟨ha', hk⟩ := resumed_kept inv r
    rw [hca]
    exact ⟨ha', hk⟩

lemma step_kept {l : Label} (inv : Invariant s) (hs : s.step l = some t) :
    Invariant t ∧ (LivesOn t ↔ LivesOn s ∧ Careful s l) := by
  rw [State.step] at hs
  split at hs
  · rename_i hl
    have hmo : Invariant { s with clock := l.now } := by
      intro hus id d set
      rcases inv hus id d set with hp | hst
      · exact .inl (hp.trans_le hl)
      · exact .inr hst
    obtain ⟨a, hk⟩ := act_kept hmo rfl hs
    refine ⟨a, ?_⟩
    rw [livesOn_iff a, livesOn_iff inv]
    exact hk
  · cases hs

/-- Sessions live on just if every step was careful. -/
theorem livesOn_iff_careful (redis : SessionManager.Redis) (hashes : String → Option HashEntry)
    (clock : Nat) {labels : List Label} {t : State}
    (run : Run State.step Always (launched redis hashes clock) labels t) :
    LivesOn t ↔ Run State.step Careful (launched redis hashes clock) labels t := by
  have inv : Invariant (launched redis hashes clock) := by
    intro _ sessionId deadline set
    cases set
  refine run.iff_within Invariant LivesOn (fun s l t inv hs => (step_kept inv hs).1)
    (fun s l t inv hs => (step_kept inv hs).2) inv ((livesOn_iff inv).mpr ?_)
  intro change mem
  cases mem

instance (s : State) (now : Nat) (call : Call) : Decidable (TimeLeft s now call) := by
  unfold TimeLeft
  repeat' split
  all_goals infer_instance

instance (s : State) (label : Label) : Decidable (Careful s label) := by
  cases label <;> dsimp only [Careful] <;> infer_instance

def identify : Updates
  | .companyId => some (some "acme")
  | _ => none

def pageView : RawEvent := ⟨.pageView, "s1", "v1"⟩

def replies (index count now : Nat) : List Label := List.replicate count (.resume index now)

def unused : State := launched emptyRedis (fun _ => none) 0

/-- Whether the session can be read at a time, and the expiries that `processEvent` has seen. -/
def sessionAt (now : Nat) (s : State) : Bool × List (Nat × Nat) :=
  ((getSession s.redis now "s1").isSome, s.expiries)

/-- An event is processed ten minutes after the session was created. -/
def processAnonymous : List Label := List.flatten
  [[.createSession "s1" "192.0.2.1" "test" "web" 0, .processEvent pageView 600000],
    replies 0 5 600000]

theorem processAnonymous_lives_on : ∃ t, Run State.step Always unused processAnonymous t ∧
    (sessionAt 2400000 t).1 = true ∧ LivesOn t := by
  exact exists_careful_run (by decide +kernel) fun _ run hc _ =>
    (livesOn_iff_careful _ _ _ run).mpr hc

/-- An event is processed right after the session was identified. -/
def processIdentified : List Label := List.flatten
  [[.createSession "s1" "192.0.2.1" "test" "web" 0, .updateSession "s1" identify 0, .resume 0 0,
    .processEvent pageView 0], replies 1 5 0]

theorem processIdentified_ends_early : ∃ t, Run State.step Always unused processIdentified t ∧
    t.deadlines "s1" = some 86400000 ∧ getSession t.redis 1860000 "s1" = none ∧ ¬ LivesOn t := by
  refine exists_run_of_seen (fun t => t.clock = 0 ∧ t.deadlines "s1" = some 86400000 ∧
    (sessionAt 1860000 t).1 = false) (by decide +kernel) fun t _ ⟨clock, deadline, gone⟩ => ?_
  have hu : getSession t.redis 1860000 "s1" = none := by simpa [sessionAt] using gone
  refine ⟨deadline, hu, fun hl => ?_⟩
  have hr := hl.readable "s1" 86400000 1860000 deadline (by omega) (by omega)
  simp [hu] at hr

end SessionSharing
