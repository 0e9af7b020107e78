import Optimizely.SessionManager
import Optimizely.TaskLists
import Optimizely.TransitionRuns

/-!
# Concurrent calls on one session

`updateSession` and `addBehaviorEvent` read the whole session, wait for the reply and write it back.
Redis runs commands in the order of issue, so a call reads when it starts and writes when it
resumes.
-/

namespace SessionInterleaving

open SessionManager TransitionRuns List Option TaskLists

inductive Operation where
  | updateSession (updates : Updates)
  | addBehaviorEvent (event : NewEvent)

def Operation.apply (operation : Operation) (session : Session) (now : Nat) : Session :=
  match operation with
  | .updateSession updates => updated session updates now
  | .addBehaviorEvent event => withEvent session event now

def Operation.write (operation : Operation) (redis : Redis) (sessionId : String)
    (existingSession : Session) (now : Nat) : Redis :=
  match operation with
  | .updateSession updates => writeUpdate redis sessionId existingSession updates now
  | .addBehaviorEvent event => writeEvent redis sessionId existingSession event now

/-- A call waits for the reply to its read, or an event call for its second write; a call
that found no session is done without having written. -/
inductive Stage where
  | reading (reply : Option Session)
  | counting (writtenAt : Nat)
  | done (writtenAt : Option Nat)

structure Call where
  operation : Operation
  stage : Stage

structure State where
  redis : Redis
  calls : List Call

inductive Label where
  | call (operation : Operation) (now : Nat)
  | resume (index : Nat) (now : Nat)

def Operation.afterWrite (operation : Operation) (now : Nat) : Stage :=
  match operation with
  | .updateSession _ => .done (some now)
  | .addBehaviorEvent _ => .counting now

def State.resume (s : State) (sessionId : String) (index : Nat) (c : Call) (now : Nat) :
    Option State :=
  match c.stage, c.operation with
  | .reading none, operation =>
    some { s with calls := s.calls.set index ⟨operation, .done none⟩ }
  | .reading (some existingSession), operation =>
    some ⟨operation.write s.redis sessionId existingSession now,
      s.calls.set index ⟨operation, operation.afterWrite now⟩⟩
  | .counting writtenAt, .addBehaviorEvent event =>
    some ⟨countEvent s.redis event,
      s.calls.set index ⟨.addBehaviorEvent event, .done (some writtenAt)⟩⟩
  | _, _ => none

def step (sessionId : String) (s : State) : Label → Option State
  | .call operation now =>
    some { s with calls := s.calls ++ [⟨operation, .reading (getSession s.redis now sessionId)⟩] }
  | .resume index now =>
    match s.calls[index]? with
    | none => none
    | some c => s.resume sessionId index c now

structure Write where
  operation : Operation
  time : Nat

def Call.write? (c : Call) : Option Write :=
  match c.stage with
  | .reading _ => none
  | .counting writtenAt => some ⟨c.operation, writtenAt⟩
  | .done writtenAt => writtenAt.map fun time => ⟨c.operation, time⟩

@[simp] lemma write?_reading (op : Operation) (r : Option Session) :
    (Call.mk op (.reading r)).write? = none :=
  rfl

def State.writes (s : State) : List Write := s.calls.filterMap Call.write?

def applyAll (session : Session) (writes : List Write) : Session :=
  writes.foldl (fun session write => write.operation.apply session write.time) session

lemma applyAll_append (ses : Session) (ws : List Write) (l : Write) :
    applyAll ses (ws ++ [l]) = l.operation.apply (applyAll ses ws) l.time := by
  simp [applyAll]

def engagementScore (session : Session) : Rat := session .engagementScore

def pageViews (session : Session) : Rat := session .pageViews

def behaviorData (session : Session) : List BehaviorEvent := session .behaviorData

def Write.sets (write : Write) (field : Field) : Prop :=
  match write.operation with
  | .updateSession updates => (updates field).isSome
  | .addBehaviorEvent _ => False

def Write.event? (write : Write) : Option BehaviorEvent :=
  match write.operation with
  | .updateSession _ => none
  | .addBehaviorEvent event => some ⟨event, write.time⟩

/-- A session that reflects all writes on an earlier one. -/
structure Reflects (before after : Session) (writes : List Write) : Prop where
  serial : ∃ order, order.Perm writes ∧ after = applyAll before order
  score : (∀ write ∈ writes, ¬ write.sets .engagementScore) →
    engagementScore after = engagementScore before +
      ((writes.filterMap Write.event?).map fun event => scoreIncrease event.type).sum
  views : (∀ write ∈ writes, ¬ write.sets .pageViews) →
    pageViews after = pageViews before +
      (writes.filterMap Write.event?).countP (·.type = .pageView)
  events : (∀ write ∈ writes, ¬ write.sets .behaviorData) →
    ∃ order, order.Perm (writes.filterMap Write.event?) ∧
      behaviorData after = if order = [] then behaviorData before
        else lastFifty (behaviorData before ++ order)
  fields : ∀ field, field ∉ changedByEvents → (∃ write ∈ writes, write.sets field) →
    ∃ write ∈ writes, ∃ updates, write.operation = .updateSession updates ∧
      updates field = some (after field)

lemma unchanged_of_not_sets {us : Updates} {t : Nat} {field : Field}
    (h : ¬ (Write.mk (.updateSession us) t).sets field) (hkn : field ≠ .lastSeen)
    (ses : Session) : updated ses us t field = ses field := by
  have hu : us field = none := by simpa [Write.sets] using h
  rw [updated_of_ne ses us t hkn, hu]
  rfl

variable {write : Write} {before : Session} {s : State} {id : String}

lemma score_apply (ses : Session) (h : ¬ write.sets .engagementScore) :
    engagementScore (write.operation.apply ses write.time) = engagementScore ses +
      (write.event?.toList.map fun e => scoreIncrease e.type).sum := by
  obtain ⟨op, time⟩ := write
  cases op with
  | updateSession us =>
    simp only [Write.event?, toList_none, map_nil, sum_nil, add_zero]
    exact unchanged_of_not_sets h (by decide) ses
  | addBehaviorEvent e =>
    simp only [Write.event?, toList_some, map_cons, map_nil, sum_singleton]
    rfl

lemma views_apply (ses : Session) (h : ¬ write.sets .pageViews) :
    pageViews (write.operation.apply ses write.time) = pageViews ses +
      write.event?.toList.countP (·.type = .pageView) := by
  obtain ⟨op, t⟩ := write
  cases op with
  | updateSession us =>
    simp only [Write.event?, toList_none, countP_nil, Nat.cast_zero, add_zero]
    exact unchanged_of_not_sets h (by decide) ses
  | addBehaviorEvent e =>
    have hct : pageViews (withEvent ses e t) = countView (pageViews ses) e.type := rfl
    by_cases hv : e.type = .pageView <;> simp [Operation.apply, hct, countView, Write.event?, hv]

lemma lastFifty_eq_drop (es : List BehaviorEvent) : lastFifty es = es.drop (es.length - 50) := by
  rw [lastFifty]
  split
  · rfl
  · rw [show es.length - 50 = 0 by omega, drop_zero]

lemma lastFifty_append (es m : List BehaviorEvent) :
    lastFifty (lastFifty es ++ m) = lastFifty (es ++ m) := by
  simp only [lastFifty_eq_drop, length_append, length_drop]
  rw [← drop_append_of_le_length (by omega), drop_drop]
  congr 1
  omega

lemma events_apply (ses : Session) (h : ¬ write.sets .behaviorData) :
    behaviorData (write.operation.apply ses write.time) = match write.event? with
      | none => behaviorData ses
      | some e => lastFifty (behaviorData ses ++ [e]) := by
  obtain ⟨op, time⟩ := write
  cases op with
  | updateSession us => exact unchanged_of_not_sets h (by decide) ses
  | addBehaviorEvent e => rfl

lemma filterMap_append_singleton (writes : List Write) (l : Write) :
    (writes ++ [l]).filterMap Write.event? = writes.filterMap Write.event? ++ l.event?.toList := by
  cases h : l.event? <;> simp [filterMap_append, h]

section

variable (b : Session) (o : List Write)

lemma score_applyAll (hu : ∀ w ∈ o, ¬ w.sets .engagementScore) :
    engagementScore (applyAll b o) = engagementScore b +
      ((o.filterMap Write.event?).map fun e => scoreIncrease e.type).sum := by
  induction o using reverseRecOn with
  | nil => simp [applyAll]
  | append_singleton o l ih =>
    have hr := ih fun w mem => hu w (mem_append_left _ mem)
    rw [applyAll_append, score_apply _ (hu l (by simp)), hr, filterMap_append_singleton,
      map_append, sum_append, add_assoc]

lemma views_applyAll (hu : ∀ w ∈ o, ¬ w.sets .pageViews) :
    pageViews (applyAll b o) = pageViews b +
      (o.filterMap Write.event?).countP (·.type = .pageView) := by
  induction o using reverseRecOn with
  | nil => simp [applyAll]
  | append_singleton o l ih =>
    have hr := ih fun w mem => hu w (mem_append_left _ mem)
    rw [applyAll_append, views_apply _ (hu l (by simp)), hr, filterMap_append_singleton,
      countP_append, Nat.cast_add, add_assoc]

lemma events_applyAll (hu : ∀ w ∈ o, ¬ w.sets .behaviorData) : behaviorData (applyAll b o) =
      if o.filterMap Write.event? = [] then behaviorData b
      else lastFifty (behaviorData b ++ o.filterMap Write.event?) := by
  induction o using reverseRecOn with
  | nil => simp [applyAll]
  | append_singleton o l ih =>
    have hr := ih fun w mem => hu w (mem_append_left _ mem)
    rw [applyAll_append, events_apply _ (hu l (by simp)), filterMap_append_singleton]
    cases hevent : l.event? with
    | none => simpa using hr
    | some e =>
      have hm : o.filterMap Write.event? ++ (some e).toList ≠ [] := by simp
      rw [if_neg hm, toList_some, hr]
      dsimp only
      by_cases none : o.filterMap Write.event? = []
      · simp [none]
      · rw [if_neg none, lastFifty_append, append_assoc]

lemma fields_applyAll {field : Field} (hk : field ∉ changedByEvents)
    (hw : ∃ w ∈ o, w.sets field) : ∃ w ∈ o, ∃ us, w.operation = .updateSession us ∧
      us field = some (applyAll b o field) := by
  have hkn : field ≠ .lastSeen := by
    intro h
    exact hk (by simp [h, changedByEvents])
  induction o using reverseRecOn with
  | nil =>
    obtain ⟨w, mem, -⟩ := hw
    cases mem
  | append_singleton o l ih =>
    rw [applyAll_append]
    by_cases hl : l.sets field
    · refine ⟨l, by simp, ?_⟩
      obtain ⟨op, t⟩ := l
      cases op with
      | updateSession us =>
        refine ⟨us, rfl, ?_⟩
        obtain ⟨v, hv⟩ := isSome_iff_exists.mp hl
        simp only [Operation.apply, updated_of_ne _ _ _ hkn, hv, getD_some]
      | addBehaviorEvent e => exact absurd hl (by simp [Write.sets])
    · have hun : l.operation.apply (applyAll b o) l.time field =
          applyAll b o field := by
        obtain ⟨op, t⟩ := l
        cases op with
        | updateSession us => exact unchanged_of_not_sets hl hkn _
        | addBehaviorEvent e => exact withEvent_of_unchanged _ e t hk
      obtain ⟨w, mem, hss⟩ := hw
      have hea : ∃ w ∈ o, w.sets field := by
        rcases mem_append.mp mem with old | new
        · exact ⟨w, old, hss⟩
        · exact absurd (mem_singleton.mp new ▸ hss) hl
      obtain ⟨st, hs, us, hu, hv⟩ := ih hea
      exact ⟨st, mem_append_left _ hs, us, hu, by rw [hun, hv]⟩

end

/-- The serial order decides everything that the writes leave behind. -/
lemma reflects_of_serial {t : Session} {writes o : List Write}
    (hp : o.Perm writes) (hsr : t = applyAll before o) : Reflects before t writes := by
  subst hsr
  have he := hp.filterMap Write.event?
  constructor
  · exact ⟨o, hp, rfl⟩
  · intro hu
    rw [score_applyAll before o fun write mem => hu write (hp.mem_iff.mp mem)]
    rw [(he.map _).sum_eq]
  · intro hu
    rw [views_applyAll before o fun write mem => hu write (hp.mem_iff.mp mem)]
    rw [he.countP_eq]
  · intro hu
    refine ⟨o.filterMap Write.event?, he, ?_⟩
    exact events_applyAll before o fun write mem => hu write (hp.mem_iff.mp mem)
  · rintro field hk ⟨write, mem, hss⟩
    obtain ⟨st, hs, hf⟩ := fields_applyAll before o hk ⟨write, hp.mem_iff.mpr mem, hss⟩
    exact ⟨st, hp.mem_iff.mp hs, hf⟩

/-- The session is live when a call reads it and when the call writes it. -/
def Live (sessionId : String) (s : State) : Label → Prop
  | .call _ now => (getSession s.redis now sessionId).isSome
  | .resume index now =>
    match s.calls[index]? with
    | some ⟨_, .reading _⟩ => (getSession s.redis now sessionId).isSome
    | _ => True

/-- A call writes what it would write had it read the session just now. -/
def UpToDate (sessionId : String) (s : State) : Label → Prop
  | .call _ _ => True
  | .resume index now => ∀ operation read stored,
    s.calls[index]? = some ⟨operation, .reading (some read)⟩ →
    getSession s.redis now sessionId = some stored →
    operation.apply read now = operation.apply stored now

def LiveUpToDate (sessionId : String) (s : State) (l : Label) : Prop :=
  Live sessionId s l ∧ UpToDate sessionId s l

def Call.isDone (c : Call) : Bool :=
  match c.stage with
  | .done _ => true
  | _ => false

def Call.answered (c : Call) : Prop :=
  match c.stage with
  | .reading reply => reply.isSome
  | .counting _ => True
  | .done writtenAt => writtenAt.isSome

/-- The stored session is the serial effect of the writes so far. -/
structure Serial (sessionId : String) (before : Session) (s : State) : Prop where
  stored : ∃ order expiresAt, order.Perm s.writes ∧
    s.redis.sessions sessionId = some ⟨applyAll before order, expiresAt⟩
  answered : ∀ c ∈ s.calls, c.answered

lemma sessions_write (op : Operation) (r : Redis) (id : String)
    (ses : Session) (now : Nat) : (op.write r id ses now).sessions =
      r.sessions.setex now id (ttlOf (op.apply ses now)) (op.apply ses now) := by
  cases op <;> rfl

lemma write?_afterWrite (op : Operation) (now : Nat) :
    (Call.mk op (op.afterWrite now)).write? = some ⟨op, now⟩ := by
  cases op <;> rfl

lemma answered_afterWrite (op : Operation) (now : Nat) :
    (Call.mk op (op.afterWrite now)).answered := by
  cases op
  · rfl
  · trivial

section

variable (hsr : Serial id before s)
include hsr

lemma serial_call (op : Operation) {now : Nat} (hl : (getSession s.redis now id).isSome) :
    Serial id before { s with calls := s.calls ++
      [⟨op, .reading (getSession s.redis now id)⟩] } := by
  obtain ⟨o, exp, hp, hst⟩ := hsr.stored
  constructor
  · refine ⟨o, exp, ?_, hst⟩
    have none : [Call.mk op (.reading (getSession s.redis now id))].filterMap
        Call.write? = [] := rfl
    rw [State.writes, filterMap_append, none, append_nil]
    exact hp
  · exact forall_append hsr.answered hl

lemma serial_write {i now : Nat} {op : Operation} {r st : Session}
    (hf : s.calls[i]? = some ⟨op, .reading (some r)⟩)
    (hl : getSession s.redis now id = some st) (hu : op.apply r now = op.apply st now) :
    Serial id before ⟨op.write s.redis id r now, s.calls.set i ⟨op, op.afterWrite now⟩⟩ := by
  obtain ⟨o, exp, hp, hs⟩ := hsr.stored
  obtain ⟨e, he, -, hv⟩ := ExpiringKeys.get_eq_some_iff.mp hl
  rw [hs] at he
  cases he
  constructor
  · refine ⟨o ++ [⟨op, now⟩], now + ttlOf (op.apply r now) * 1000, ?_, ?_⟩
    · have hmo := filterMap_set_perm Call.write? hf ⟨op, op.afterWrite now⟩
      rw [write?_afterWrite] at hmo
      have hm := hp.append_right [Write.mk op now]
      rw [write?_reading, toList_none, append_nil] at hmo
      exact hm.trans hmo.symm
    · have hv : applyAll before o = st := hv
      rw [sessions_write, ExpiringKeys.setex_self, applyAll_append, hv, hu]
  · exact forall_set hsr.answered i (answered_afterWrite op now)

lemma serial_count {i w : Nat} {e : NewEvent}
    (hf : s.calls[i]? = some ⟨.addBehaviorEvent e, .counting w⟩) :
    Serial id before ⟨countEvent s.redis e,
      s.calls.set i ⟨.addBehaviorEvent e, .done (some w)⟩⟩ := by
  obtain ⟨o, exp, hp, hs⟩ := hsr.stored
  constructor
  · refine ⟨o, exp, ?_, hs⟩
    have hmo := filterMap_set_perm Call.write? hf ⟨.addBehaviorEvent e, .done (some w)⟩
    exact hp.trans ((perm_append_right_iff _).mp hmo).symm
  · exact forall_set hsr.answered i rfl

lemma serial_step {t : State} {l : Label} (ok : LiveUpToDate id s l)
    (hsp : step id s l = some t) : Serial id before t := by
  cases l with
  | call op now =>
    cases hsp
    exact serial_call hsr op ok.1
  | resume i now =>
    simp only [step] at hsp
    match hf : s.calls[i]? with
    | none => rw [hf] at hsp; cases hsp
    | some ⟨op, sg⟩ =>
      rw [hf] at hsp
      have mem := mem_of_getElem? hf
      match sg with
      | .reading none => exact absurd (hsr.answered _ mem) (by simp [Call.answered])
      | .reading (some r) =>
        cases hsp
        have hl := ok.1
        simp only [Live, hf] at hl
        obtain ⟨st, hs⟩ := isSome_iff_exists.mp hl
        exact serial_write hsr hf hs (ok.2 op r st hf hs)
      | .counting w =>
        cases op with
        | updateSession us => cases hsp
        | addBehaviorEvent e =>
          cases hsp
          exact serial_count hsr hf
      | .done w => cases op <;> cases hsp

end

/-- Along every run in which no call writes back an outdated session, the session left
behind by completed calls reflects every one of them. -/
theorem reflects_of_upToDate (sessionId : String) {redis : Redis} {before : Session}
    {expiresAt : Nat} (created : redis.sessions sessionId = some ⟨before, expiresAt⟩)
    {labels : List Label} {s : State}
    (run : Run (step sessionId) (LiveUpToDate sessionId) ⟨redis, []⟩ labels s)
    (completed : ∀ c ∈ s.calls, c.isDone) :
    ∃ after expiresAt, s.redis.sessions sessionId = some ⟨after, expiresAt⟩ ∧
      s.writes.length = s.calls.length ∧ Reflects before after s.writes := by
  have hsr : Serial sessionId before s := by
    apply run.invariant (Serial sessionId before) (fun _ _ _ hsr ok hs => serial_step hsr ok hs)
    exact ⟨⟨[], expiresAt, .refl _, created⟩, by simp⟩
  obtain ⟨o, expiresAt, hp, st⟩ := hsr.stored
  refine ⟨applyAll before o, expiresAt, st, ?_, reflects_of_serial hp rfl⟩
  rw [State.writes, filterMap_length_eq_length.mpr]
  intro c mem
  obtain ⟨operation, sg⟩ := c
  have done := completed _ mem
  have ha := hsr.answered _ mem
  cases sg with
  | reading _ | counting _ => cases done
  | done writtenAt => simpa [Call.write?, Call.answered] using ha

def click : Operation := .addBehaviorEvent ⟨.click, "", none, none⟩

def startedSession : State :=
  ⟨createSession emptyRedis "s1" "10.0.0.1" "agent" "web" 0, []⟩

/-- Both calls read before either writes. -/
def overlappingClicks : List Label :=
  [.call click 1000, .call click 1001, .resume 0 1002, .resume 1 1003, .resume 0 1004,
    .resume 1 1005]

def clicksInTurn : List Label :=
  [.call click 1000, .resume 0 1001, .call click 1002, .resume 1 1003, .resume 0 1004,
    .resume 1 1005]

instance (sessionId : String) (s : State) (l : Label) : Decidable (Live sessionId s l) := by
  unfold Live
  repeat' split
  all_goals infer_instance

theorem overlappingClicks_lose_one : ∃ s after expiresAt,
    Run (step "s1") (Live "s1") startedSession overlappingClicks s ∧ (∀ c ∈ s.calls, c.isDone) ∧
    s.redis.sessions "s1" = some ⟨after, expiresAt⟩ ∧ engagementScore after = 2 ∧
    ¬ Reflects (newSession "s1" "10.0.0.1" "agent" "web" 0) after s.writes := by
  have hex : execWithin (step "s1") (Live "s1") startedSession overlappingClicks = some _ := rfl
  refine ⟨_, _, _, run_of_execWithin hex, by decide, rfl, by decide +kernel, ?_⟩
  intro hr
  have hu : ∀ write ∈ [Write.mk click 1002, Write.mk click 1003],
      ¬ write.sets .engagementScore := by
    simp [Write.sets, click]
  have he := hr.score hu
  revert he
  decide +kernel

theorem clicksInTurn_count_both : ∃ s after expiresAt,
    Run (step "s1") (LiveUpToDate "s1") startedSession clicksInTurn s ∧
    s.redis.sessions "s1" = some ⟨after, expiresAt⟩ ∧ engagementScore after = 4 ∧
    Reflects (newSession "s1" "10.0.0.1" "agent" "web" 0) after s.writes := by
  have hf : ∃ s, Run (step "s1") (LiveUpToDate "s1") startedSession clicksInTurn s ∧
      (∀ c ∈ s.calls, c.isDone) ∧
      (s.redis.sessions "s1").map (fun e => engagementScore e.value) = some 4 := by
    refine ⟨_, .cons ⟨rfl, trivial⟩ rfl (.cons ⟨rfl, ?_⟩ rfl (.cons ⟨rfl, trivial⟩ rfl
      (.cons ⟨rfl, ?_⟩ rfl (.cons ⟨trivial, ?_⟩ rfl (.cons ⟨trivial, ?_⟩ rfl (.nil _)))))),
      by decide, by decide +kernel⟩
    iterate 2
      · rintro _ _ _ ⟨⟩ ⟨⟩
        rfl
    all_goals rintro _ _ _ ⟨⟩
  obtain ⟨s, run, hc, sc⟩ := hf
  obtain ⟨after, expiresAt, st, -, hr⟩ := reflects_of_upToDate "s1" rfl run hc
  rw [st] at sc
  exact ⟨s, after, expiresAt, run, st, some.inj sc, hr⟩

end SessionInterleaving
