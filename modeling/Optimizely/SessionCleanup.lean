import Optimizely.SessionManager
import Optimizely.TransitionRuns

/-!
# Cleanup of visitor sessions

Calls of the session manager one after the other, with a clock that never goes back. A history
remembers when each session was last written and for how long. Cleanup reads the sorted set of
active sessions, which behaviour events do not touch and extended times to live do not change.
-/

namespace SessionCleanup

open SessionManager TransitionRuns ExpiringKeys OrderedMap List

/-- When a session was last written, the seconds it was given to live, and when it was last created
or updated. -/
structure Touch where
  time : Nat
  ttl : Nat
  updated : Nat
  deriving DecidableEq

def Touch.deadline (touch : Touch) : Nat := touch.time + touch.ttl * 1000

structure State where
  redis : Redis
  clock : Nat
  lastTouch : OrderedMap String Touch

def initial : State := ⟨emptyRedis, 0, .empty⟩

inductive Label where
  | createSession (sessionId ipAddress userAgent platform : String) (now : Nat)
  | updateSession (sessionId : String) (updates : Updates) (now : Nat)
  | addBehaviorEvent (sessionId : String) (event : NewEvent) (now : Nat)
  | cleanupExpiredSessions (now : Nat)

def Label.time : Label → Nat
  | .createSession _ _ _ _ now => now
  | .updateSession _ _ now => now
  | .addBehaviorEvent _ _ now => now
  | .cleanupExpiredSessions now => now

/-- The touches after a call: one that finds no session writes nothing. -/
def State.touches (s : State) : Label → OrderedMap String Touch
  | .createSession sessionId _ _ _ now => s.lastTouch.set sessionId ⟨now, sessionTtl, now⟩
  | .updateSession sessionId updates now =>
    match getSession s.redis now sessionId with
    | none => s.lastTouch
    | some session =>
      s.lastTouch.set sessionId ⟨now, ttlOf (updated session updates now), now⟩
  | .addBehaviorEvent sessionId event now =>
    match getSession s.redis now sessionId with
    | none => s.lastTouch
    | some session => s.lastTouch.set sessionId ⟨now, ttlOf (withEvent session event now),
        ((s.lastTouch.get? sessionId).map (·.updated)).getD now⟩
  | .cleanupExpiredSessions _ => s.lastTouch

def call (redis : Redis) : Label → Redis
  | .createSession sessionId ipAddress userAgent platform now =>
    createSession redis sessionId ipAddress userAgent platform now
  | .updateSession sessionId updates now => updateSession redis sessionId updates now
  | .addBehaviorEvent sessionId event now => addBehaviorEvent redis sessionId event now
  | .cleanupExpiredSessions now => cleanupExpiredSessions redis now

def step (s : State) (l : Label) : Option State :=
  if s.clock ≤ l.time then some ⟨call s.redis l, l.time, s.touches l⟩ else none

/-- A session is returned until the time to live of its last write has passed. -/
def Kept (s : State) : Prop :=
  ∀ sessionId written, s.lastTouch.get? sessionId = some written →
    ∀ now, s.clock ≤ now → now < written.deadline → (getSession s.redis now sessionId).isSome

/-- At a cleanup, no session that was created or last updated 30 minutes ago or earlier has a time
to live left, of a later behaviour event or of an update with a company. -/
def Harmless (s : State) : Label → Prop
  | .cleanupExpiredSessions now => ∀ written ∈ s.lastTouch.values,
      written.updated + sessionTtl * 1000 ≤ now → written.deadline ≤ now
  | _ => True

/-- The key of a session expires when its last touch says, it is gone only after that, and the
score of the session is the time of its last update. -/
structure Follows (s : State) : Prop where
  touched : ∀ sessionId written, s.lastTouch.get? sessionId = some written →
    (∃ session, s.redis.sessions sessionId = some ⟨session, written.deadline⟩) ∨
      written.deadline ≤ s.clock
  stored : ∀ sessionId entry, s.redis.sessions sessionId = some entry →
    ∃ written, s.lastTouch.get? sessionId = some written ∧
      s.redis.active.get? sessionId = some written.updated
  scored : ∀ sessionId score, s.redis.active.get? sessionId = some score →
    ∃ written, s.lastTouch.get? sessionId = some written ∧ written.updated = score

variable {s after t : State} {r : Redis} {now : Nat} {l : Label} {id : String}

lemma mem_expiredSessions : id ∈ expiredSessions r now ↔
    ∃ score, r.active.get? id = some score ∧ score + sessionTtl * 1000 ≤ now := by
  simp only [expiredSessions, mem_keys_filter, isExpiredScore, decide_eq_true_eq]

lemma kept_of_follows (hfl : Follows s) : Kept s := by
  intro id written ht now hnow he
  rcases hfl.touched id written ht with ⟨ses, hf⟩ | late
  · have hl : getSession s.redis now id = some ses := get_eq_some_iff.mpr ⟨_, hf, he.le, rfl⟩
    rw [hl]
    rfl
  · omega

section

variable (hfl : Follows s) (hnow : s.clock ≤ now)
include hfl hnow

lemma follows_write {ttl updated : Nat} {ses : Session}
    (hk : r.sessions = s.redis.sessions.setex now id ttl ses)
    (ha : ∀ x, r.active.get? x = if id = x then some updated else s.redis.active.get? x) :
    Follows ⟨r, now, s.lastTouch.set id ⟨now, ttl, updated⟩⟩ := by
  constructor <;> intro x y hx <;> dsimp only at hx ⊢ <;> by_cases hs : id = x
  · rw [get?_set, if_pos hs] at hx
    cases hx
    exact .inl ⟨ses, by simp [hk, ← hs, Touch.deadline]⟩
  · rw [get?_set, if_neg hs] at hx
    rw [hk, setex_of_ne _ _ (Ne.symm hs)]
    exact (hfl.touched x y hx).imp_right fun late => late.trans hnow
  · exact ⟨_, by rw [get?_set, if_pos hs], by rw [ha, if_pos hs]⟩
  · rw [hk, setex_of_ne _ _ (Ne.symm hs)] at hx
    obtain ⟨written, hw, hu⟩ := hfl.stored x y hx
    exact ⟨written, by rw [get?_set, if_neg hs, hw], by rw [ha, if_neg hs, hu]⟩
  · rw [ha, if_pos hs] at hx
    cases hx
    exact ⟨_, by rw [get?_set, if_pos hs], rfl⟩
  · rw [ha, if_neg hs] at hx
    obtain ⟨written, hw, hu⟩ := hfl.scored x y hx
    exact ⟨written, by rw [get?_set, if_neg hs, hw], hu⟩

lemma follows_unchanged : Follows ⟨s.redis, now, s.lastTouch⟩ :=
  ⟨fun id written hw => (hfl.touched id written hw).imp_right fun late => late.trans hnow,
    hfl.stored, hfl.scored⟩

lemma follows_cleanup (hh : Harmless s (.cleanupExpiredSessions now)) :
    Follows ⟨cleanupExpiredSessions s.redis now, now, s.lastTouch⟩ := by
  have old : ∀ id written, s.lastTouch.get? id = some written →
      id ∈ expiredSessions s.redis now → written.deadline ≤ now := by
    intro id written hw he
    obtain ⟨score, ha, hs⟩ := mem_expiredSessions.mp he
    obtain ⟨same, hw', rfl⟩ := hfl.scored id score ha
    cases hw.symm.trans hw'
    exact hh written (mem_map_of_mem (mem_of_get? hw)) hs
  by_cases none : 0 < (expiredSessions s.redis now).length
  · rw [cleanupExpiredSessions, if_pos none]
    constructor
    · intro id written hw
      by_cases he : id ∈ expiredSessions s.redis now
      · exact .inr (old id written hw he)
      · simp only [del, if_neg he]
        exact (hfl.touched id written hw).imp_right fun late => late.trans hnow
    · intro id e he
      simp only [del] at he
      split at he
      · cases he
      · rename_i fresh
        obtain ⟨written, hw, ha⟩ := hfl.stored id e he
        refine ⟨written, hw, get?_filter_of_keep ha ?_⟩
        simpa [isExpiredScore] using fun hs => fresh (mem_expiredSessions.mpr ⟨_, ha, hs⟩)
    · intro id score ha
      exact hfl.scored id score (get?_of_filter ha)
  · rw [cleanupExpiredSessions, if_neg none]
    exact follows_unchanged hfl hnow

end

lemma step_eq_some (hs : step s l = some t) :
    s.clock ≤ l.time ∧ t = ⟨call s.redis l, l.time, s.touches l⟩ := by
  rw [step] at hs
  split at hs
  · rename_i hn
    cases hs
    exact ⟨hn, rfl⟩
  · cases hs

lemma follows_step (hfl : Follows s) (hh : Harmless s l) (hs : step s l = some t) : Follows t := by
  obtain ⟨hn, rfl⟩ := step_eq_some hs
  cases l with
  | createSession id ipAddress userAgent platform now =>
    exact follows_write hfl hn rfl (get?_set _ _ _)
  | updateSession id us now =>
    cases hf : getSession s.redis now id <;>
      simp only [call, updateSession, State.touches, Label.time, hf]
    · exact follows_unchanged hfl hn
    · exact follows_write hfl hn rfl (get?_set _ _ _)
  | addBehaviorEvent id e now =>
    cases hf : getSession s.redis now id <;>
      simp only [call, addBehaviorEvent, State.touches, Label.time, hf]
    · exact follows_unchanged hfl hn
    · obtain ⟨entry, he, -⟩ := get_eq_some_iff.mp hf
      obtain ⟨written, hw, ha⟩ := hfl.stored id entry he
      refine follows_write hfl hn rfl fun x => ?_
      rw [hw]
      split
      · rename_i here
        rw [← here]
        exact ha
      · rfl
  | cleanupExpiredSessions now => exact follows_cleanup hfl hn hh

lemma harmless_of_kept (hfl : Follows s)
    (hst : step s (.cleanupExpiredSessions now) = some after) (hk : Kept after) :
    Harmless s (.cleanupExpiredSessions now) := by
  obtain ⟨hn, rfl⟩ := step_eq_some hst
  intro written mem hs
  obtain ⟨⟨id, written⟩, he, rfl⟩ := mem_map.mp mem
  have hw := get?_of_mem he
  rcases hfl.touched id written hw with ⟨ses, hf⟩ | late
  · by_contra early
    have hr := hk id written hw now (Nat.le_refl now) (not_le.mp early)
    obtain ⟨same, hw', ha⟩ := hfl.stored id _ hf
    cases hw.symm.trans hw'
    have gone := mem_expiredSessions.mpr ⟨_, ha, hs⟩
    simp [getSession, ExpiringKeys.get, call, cleanupExpiredSessions, length_pos_of_mem gone, del,
      gone] at hr
  · exact late.trans hn

/-- As long as every cleanup is harmless, sessions are kept for their time to live; and a
cleanup keeps them only if it is harmless. -/
theorem kept_of_harmless {labels : List Label} {s : State}
    (run : Run step Harmless initial labels s) : Kept s ∧
    ∀ now after, step s (.cleanupExpiredSessions now) = some after →
      (Kept after ↔ Harmless s (.cleanupExpiredSessions now)) := by
  have hf : Follows s := run.invariant Follows (fun _ _ _ hf hh hs => follows_step hf hh hs)
    ⟨by rintro _ _ ⟨⟩, by rintro _ _ ⟨⟩, by rintro _ _ ⟨⟩⟩
  refine ⟨kept_of_follows hf, fun now after hs => ?_⟩
  constructor
  · exact harmless_of_kept hf hs
  · intro hh
    exact kept_of_follows (follows_step hf hh hs)

def click : NewEvent := ⟨.click, "", none, none⟩

def minutes (n : Nat) : Nat := n * 60 * 1000

/-- The visitor is active 20 minutes after the start; cleanup runs 11 minutes later. -/
def activeVisitor : List Label :=
  [.createSession "s1" "10.0.0.1" "agent" "web" 0, .addBehaviorEvent "s1" click (minutes 20),
    .cleanupExpiredSessions (minutes 31)]

theorem activeVisitor_is_deleted : ∃ s, Run step Always initial activeVisitor s ∧
    s.lastTouch.get? "s1" = some ⟨minutes 20, sessionTtl, 0⟩ ∧
    getSession s.redis (minutes 31) "s1" = none ∧ ¬ Kept s := by
  have he : exec step initial activeVisitor = some _ := rfl
  refine ⟨_, run_of_exec he, rfl, rfl, ?_⟩
  intro hk
  have hr := hk "s1" ⟨minutes 20, sessionTtl, 0⟩ rfl (minutes 31) (by decide) (by decide)
  cases hr

instance (s : State) (l : Label) : Decidable (Harmless s l) := by
  cases l <;> dsimp only [Harmless] <;> infer_instance

/-- The visitor's session is updated 20 minutes after the start instead. -/
def updatedVisitor : List Label :=
  [.createSession "s1" "10.0.0.1" "agent" "web" 0, .updateSession "s1" noUpdates (minutes 20),
    .cleanupExpiredSessions (minutes 31)]

theorem updatedVisitor_is_kept : ∃ s, Run step Harmless initial updatedVisitor s ∧
    s.lastTouch.get? "s1" = some ⟨minutes 20, sessionTtl, minutes 20⟩ ∧
    (getSession s.redis (minutes 31) "s1").isSome := by
  have he : execWithin step Harmless initial updatedVisitor = some _ := rfl
  have run := run_of_execWithin he
  refine ⟨_, run, rfl, ?_⟩
  exact (kept_of_harmless run).1 "s1" ⟨minutes 20, sessionTtl, minutes 20⟩ rfl (minutes 31)
    (by decide) (by decide)

end SessionCleanup
