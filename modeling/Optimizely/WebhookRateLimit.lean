import Optimizely.JsValue
import Optimizely.OrderedMap
import Optimizely.TransitionRuns

/-!
# The rate limit of a webhook endpoint

The calls let through are remembered in a map whose keys are made of the client's address and the
clock. Two calls of one client in a millisecond share an entry, and only one is counted. The limit
holds as long as no call let through finds an entry under its key; that a call is let through while
there is room does not depend on it.
-/

namespace WebhookRateLimit

open TransitionRuns List OrderedMap

structure RateLimitConfig where
  maxRequests : Nat
  windowMs : Nat
  deriving DecidableEq

def clientIp (headers : OrderedMap String String) : String :=
  ((truthyText (headers.get? "x-forwarded-for")).or
    (truthyText (headers.get? "x-real-ip"))).getD "unknown"

def entryKey (endpointId : String) (headers : OrderedMap String String) (now : Nat) : String :=
  endpointId ++ ":" ++ clientIp headers ++ ":" ++ toString now

/-- The time is at or after `now - windowMs`. -/
def inWindow (windowMs now timestamp : Nat) : Bool := now ≤ timestamp + windowMs

abbrev RateLimiters := OrderedMap String (OrderedMap String Nat)

def limiterOf (limiters : RateLimiters) (endpointId : String) : OrderedMap String Nat :=
  (limiters.get? endpointId).getD .empty

def cleaned (limiter : OrderedMap String Nat) (windowMs now : Nat) : OrderedMap String Nat :=
  limiter.filter fun _ timestamp => inWindow windowMs now timestamp

def checkRateLimit (endpoints : String → Option RateLimitConfig) (limiters : RateLimiters)
    (endpointId : String) (headers : OrderedMap String String) (now : Nat) : RateLimiters × Bool :=
  match endpoints endpointId with
  | none => (limiters, false)
  | some config =>
    let limiter := cleaned (limiterOf limiters endpointId) config.windowMs now
    let requests := limiter.values.countP (inWindow config.windowMs now)
    if config.maxRequests ≤ requests then (limiters.set endpointId limiter, false)
    else (limiters.set endpointId (limiter.set (entryKey endpointId headers now) now), true)

/-- The entries of an endpoint that count at some time. -/
def requestCount (limiters : RateLimiters) (endpointId : String) (windowMs now : Nat) : Nat :=
  (limiterOf limiters endpointId).values.countP (inWindow windowMs now)

structure Request where
  endpointId : String
  headers : OrderedMap String String
  now : Nat

/-- What a call returned, and when. -/
structure Check where
  endpointId : String
  time : Nat
  accepted : Bool
  deriving DecidableEq

/-- The last field is a history. -/
structure State where
  limiters : RateLimiters
  clock : Nat
  checks : List Check

def launched : State := ⟨.empty, 0, []⟩

/-- The clock does not go back. -/
def step (endpoints : String → Option RateLimitConfig) (s : State) (request : Request) :
    Option State :=
  if s.clock ≤ request.now then
    let result := checkRateLimit endpoints s.limiters request.endpointId request.headers request.now
    some ⟨result.1, request.now, s.checks ++ [⟨request.endpointId, request.now, result.2⟩]⟩
  else none

/-- How many calls for an endpoint returned true from one time to another. -/
def acceptedIn (checks : List Check) (endpointId : String) (start finish : Nat) : Nat :=
  checks.countP fun check =>
    check.endpointId = endpointId && check.accepted && start ≤ check.time && check.time ≤ finish

/-- No window has more calls than its endpoint allows. -/
def Bounded (endpoints : String → Option RateLimitConfig) (checks : List Check) : Prop :=
  ∀ endpointId config, endpoints endpointId = some config → ∀ start,
    acceptedIn checks endpointId start (start + config.windowMs) ≤ config.maxRequests

/-- A call is let through if there is room in the window before it. -/
def Admits (endpoints : String → Option RateLimitConfig) (checks : List Check) : Prop :=
  ∀ before check, before ++ [check] <+: checks → ∀ config,
    endpoints check.endpointId = some config →
    acceptedIn before check.endpointId (check.time - config.windowMs) check.time <
      config.maxRequests → check.accepted = true

/-- If there is room for the call, there is no entry under its key. -/
def Careful (endpoints : String → Option RateLimitConfig) (s : State) (request : Request) : Prop :=
  ∀ config ∈ endpoints request.endpointId,
    requestCount s.limiters request.endpointId config.windowMs request.now < config.maxRequests →
    (limiterOf s.limiters request.endpointId).get?
      (entryKey request.endpointId request.headers request.now) = none

/-- The accepted calls that count from some time on. -/
def acceptedSince (checks : List Check) (endpointId : String) (windowMs now : Nat) : Nat :=
  checks.countP fun check =>
    check.endpointId = endpointId && check.accepted && inWindow windowMs now check.time

variable {endpoints : String → Option RateLimitConfig} {lm : RateLimiters}

lemma requestCount_set (ls : RateLimiters) (id x : String)
    (l : OrderedMap String Nat) (w now : Nat) : requestCount (ls.set id l) x w now =
      if id = x then l.values.countP (inWindow w now) else requestCount ls x w now := by
  simp only [requestCount, limiterOf, get?_set]
  split <;> rfl

lemma countP_values_cleaned (limiter : OrderedMap String Nat) (w : Nat) {now l : Nat}
    (order : now ≤ l) : (cleaned limiter w now).values.countP (inWindow w l) =
      limiter.values.countP (inWindow w l) := by
  simp only [cleaned, values, OrderedMap.filter, countP_map, countP_filter]
  congr 1
  funext e
  simp only [Function.comp, inWindow, Bool.and_eq_left_iff_imp, decide_eq_true_eq]
  omega

section

variable {c : RateLimitConfig} {id : String} {st : OrderedMap String String}
  {now : Nat}

lemma checkRateLimit_snd (hkn : endpoints id = some c) :
    (checkRateLimit endpoints lm id st now).2 = true ↔
      requestCount lm id c.windowMs now < c.maxRequests := by
  simp only [checkRateLimit, hkn, countP_values_cleaned _ c.windowMs (le_refl now)]
  rw [← requestCount]
  split
  · simp only [Bool.false_eq_true, false_iff]
    omega
  · simp only [true_iff]
    omega

lemma requestCount_other {x : String} (hne : id ≠ x) (w l : Nat) :
    requestCount (checkRateLimit endpoints lm id st now).1 x w l = requestCount lm x w l := by
  simp only [checkRateLimit]
  split
  · rfl
  · split <;> rw [requestCount_set, if_neg hne]

/-- The number of entries that an accepted call replaces. -/
def overwritten (limiters : RateLimiters) (endpointId : String)
    (headers : OrderedMap String String) (windowMs now later : Nat) : Nat :=
  (((cleaned (limiterOf limiters endpointId) windowMs now).get?
    (entryKey endpointId headers now)).map
      fun old => if inWindow windowMs later old then 1 else 0).getD 0

lemma overwritten_eq_zero {w l : Nat} (hfr : (limiterOf lm id).get? (entryKey id st now) = none) :
    overwritten lm id st w now l = 0 := by
  have hab : (cleaned (limiterOf lm id) w now).get? (entryKey id st now) = none := by
    rw [Option.eq_none_iff_forall_ne_some]
    intro time hf
    have hp := get?_of_filter hf
    simp [hfr] at hp
  rw [overwritten, hab]
  rfl

lemma requestCount_rejected (hkn : endpoints id = some c) {l : Nat} (ho : now ≤ l)
    (hr : (checkRateLimit endpoints lm id st now).2 = false) :
    requestCount (checkRateLimit endpoints lm id st now).1 id
      c.windowMs l = requestCount lm id c.windowMs l := by
  simp only [checkRateLimit, hkn] at hr ⊢
  split at hr
  · rename_i hf
    rw [if_pos hf, requestCount_set, if_pos rfl, countP_values_cleaned _ _ ho]
    rfl
  · cases hr

lemma requestCount_accepted (hkn : endpoints id = some c) {l : Nat} (ho : now ≤ l)
    (hcc : (checkRateLimit endpoints lm id st now).2 = true) :
    requestCount (checkRateLimit endpoints lm id st now).1 id
        c.windowMs l + overwritten lm id st c.windowMs now l =
    requestCount lm id c.windowMs l + if inWindow c.windowMs l now then 1 else 0 := by
  simp only [checkRateLimit, hkn] at hcc ⊢
  split at hcc
  · cases hcc
  · rename_i hr
    rw [if_neg hr, requestCount_set, if_pos rfl, requestCount,
      ← countP_values_cleaned (limiterOf lm id) c.windowMs ho]
    exact countP_values_set (inWindow c.windowMs l) (cleaned (limiterOf lm id) c.windowMs now)
      (entryKey id st now) now

end

lemma acceptedSince_concat (cs : List Check) (ck : Check) (id : String)
    (w now : Nat) : acceptedSince (cs ++ [ck]) id w now = acceptedSince cs id w now +
        if ck.endpointId = id && ck.accepted && inWindow w now ck.time then 1 else 0 := by
  simp [acceptedSince, countP_append, countP_singleton]

lemma acceptedIn_concat (cs : List Check) (ck : Check) (id : String)
    (s f : Nat) : acceptedIn (cs ++ [ck]) id s f = acceptedIn cs id s f +
        if ck.endpointId = id && ck.accepted && s ≤ ck.time && ck.time ≤ f then 1 else 0 := by
  simp [acceptedIn, countP_append, countP_singleton]

lemma acceptedIn_le_acceptedSince (ch : List Check) (id : String)
    {s w now : Nat} (hin : now ≤ s + w) (f : Nat) :
    acceptedIn ch id s f ≤ acceptedSince ch id w now := by
  apply countP_mono_left
  intro check _ cs
  simp only [Bool.and_eq_true, decide_eq_true_eq, inWindow] at cs ⊢
  obtain ⟨⟨hcc, t⟩, -⟩ := cs
  refine ⟨hcc, ?_⟩
  omega

/-- The calls that count at a time are in the window before it. -/
lemma acceptedSince_le_acceptedIn {ch : List Check} (id : String) (w : Nat)
    {now : Nat} (hp : ∀ ck ∈ ch, ck.time ≤ now) :
    acceptedSince ch id w now ≤ acceptedIn ch id (now - w) now := by
  apply countP_mono_left
  intro ck mem cs
  simp only [Bool.and_eq_true, decide_eq_true_eq, inWindow] at cs ⊢
  obtain ⟨hcc, recent⟩ := cs
  refine ⟨⟨hcc, ?_⟩, hp ck mem⟩
  omega

/-- What a call adds to the entries and to the accepted calls differs by the entries that it
overwrites. -/
lemma requestCount_step {c : RateLimitConfig} {id : String}
    (hkn : endpoints id = some c) (s : State) (req : Request) {l : Nat} (ho : req.now ≤ l) :
    ∃ ls, requestCount (checkRateLimit endpoints s.limiters req.endpointId req.headers
          req.now).1 id c.windowMs l + ls + acceptedSince s.checks id c.windowMs l =
      requestCount s.limiters id c.windowMs l +
        acceptedSince (s.checks ++ [⟨req.endpointId, req.now, (checkRateLimit endpoints
          s.limiters req.endpointId req.headers req.now).2⟩]) id
          c.windowMs l ∧ (Careful endpoints s req → ls = 0) := by
  rw [acceptedSince_concat]
  by_cases hs : req.endpointId = id
  · subst hs
    cases r : (checkRateLimit endpoints s.limiters req.endpointId req.headers req.now).2 with
    | false =>
      refine ⟨0, ?_, fun _ => rfl⟩
      simp [requestCount_rejected hkn ho r]
    | true =>
      have counts := requestCount_accepted hkn ho r
      refine ⟨overwritten s.limiters req.endpointId req.headers c.windowMs req.now
        l, ?_, fun hca => overwritten_eq_zero ?_⟩
      · simp only [decide_true, Bool.true_and]
        omega
      · exact hca c hkn ((checkRateLimit_snd hkn).mp r)
  · refine ⟨0, ?_, fun _ => rfl⟩
    simp [requestCount_other hs, hs]

/-- No entry counts that does not stand for an accepted call. -/
structure Invariant (endpoints : String → Option RateLimitConfig) (s : State) : Prop where
  past : ∀ check ∈ s.checks, check.time ≤ s.clock
  counted : ∀ endpointId config, endpoints endpointId = some config → ∀ later, s.clock ≤ later →
    requestCount s.limiters endpointId config.windowMs later ≤
      acceptedSince s.checks endpointId config.windowMs later
  admits : Admits endpoints s.checks

/-- Every accepted call that counts has an entry of its own. -/
structure Exact (endpoints : String → Option RateLimitConfig) (s : State) : Prop where
  counted : ∀ endpointId config, endpoints endpointId = some config → ∀ later, s.clock ≤ later →
    acceptedSince s.checks endpointId config.windowMs later ≤
      requestCount s.limiters endpointId config.windowMs later
  bounded : Bounded endpoints s.checks

variable {s t : State} {r : Request}

lemma invariant_step (inv : Invariant endpoints s) (hs : step endpoints s r = some t) :
    Invariant endpoints t := by
  rw [step] at hs
  split at hs
  · rename_i ho
    cases hs
    constructor
    · intro ck mem
      rcases mem_append.mp mem with old | new
      · exact (inv.past ck old).trans ho
      · rw [mem_singleton.mp new]
    · intro id c hkn l a
      have hct := inv.counted id c hkn l (ho.trans a)
      obtain ⟨lost, counts, -⟩ := requestCount_step hkn s r a
      dsimp only
      omega
    · intro b ck hi c hkn hr
      rcases prefix_concat_iff.mp hi with hsm | old
      · obtain ⟨rfl, rfl⟩ := append_singleton_inj.mp hsm
        dsimp only at hkn
        have hct := inv.counted r.endpointId c hkn r.now ho
        have hp : ∀ ck ∈ s.checks, ck.time ≤ r.now := fun ck mem => (inv.past ck mem).trans ho
        have window := acceptedSince_le_acceptedIn r.endpointId c.windowMs hp
        dsimp only at hr ⊢
        rw [checkRateLimit_snd hkn]
        omega
      · exact inv.admits b ck old c hkn hr
  · cases hs

lemma exact_step (inv : Exact endpoints s) (hca : Careful endpoints s r)
    (hs : step endpoints s r = some t) : Exact endpoints t := by
  rw [step] at hs
  split at hs
  · rename_i hor
    cases hs
    constructor
    · intro id c hkn l a
      have hct := inv.counted id c hkn l (hor.trans a)
      obtain ⟨lost, counts, none⟩ := requestCount_step hkn s r a
      have hk := none hca
      dsimp only
      omega
    · intro id c hkn st
      have hbd := inv.bounded id c hkn st
      rw [acceptedIn_concat]
      split
      · rename_i new
        simp only [Bool.and_eq_true, decide_eq_true_eq] at new
        obtain ⟨⟨⟨rfl, hcc⟩, -⟩, hin⟩ := new
        -- the call is in the window: all others of the window count when it is checked
        have room := (checkRateLimit_snd hkn).mp hcc
        have ho := acceptedIn_le_acceptedSince s.checks r.endpointId hin (st + c.windowMs)
        have hct := inv.counted r.endpointId c hkn r.now hor
        omega
      · omega
  · cases hs

/-- A call is let through whenever there is room, and no window has too many calls as long as every
step is careful. -/
theorem admits_and_bounded {requests : List Request}
    (run : Run (step endpoints) Always launched requests t) : Admits endpoints t.checks ∧
      (Run (step endpoints) (Careful endpoints) launched requests t →
        Bounded endpoints t.checks) := by
  constructor
  · have inv := run.invariant (Invariant endpoints) (fun _ _ _ inv _ hs => invariant_step inv hs) ?_
    · exact inv.admits
    · constructor
      · simp [launched]
      · intro e c _ l _
        exact Nat.zero_le _
      · intro before check hi
        simp [launched] at hi
  · intro hc
    have exact' := hc.invariant (Exact endpoints) (fun _ _ _ inv hc hs => exact_step inv hc hs) ?_
    · exact exact'.bounded
    · constructor
      · intro e c _ l _
        exact Nat.zero_le _
      · intro e c _ start
        exact Nat.zero_le _

deriving instance Decidable for Careful

/-- One endpoint, with two requests a second. -/
def twoPerSecond : String → Option RateLimitConfig
  | "crm" => some ⟨2, 1000⟩
  | _ => none

def callFrom (address : String) (now : Nat) : Request :=
  ⟨"crm", OrderedMap.empty.set "x-real-ip" address, now⟩

def results (s : State) : List Bool := s.checks.map (·.accepted)

/-- Two clients in the same millisecond, and a third call. -/
def twoClients : List Request :=
  [callFrom "192.0.2.1" 5, callFrom "192.0.2.2" 5, callFrom "192.0.2.1" 5,
    callFrom "192.0.2.1" 1006]

theorem twoClients_bounded : ∃ t, Run (step twoPerSecond) Always launched twoClients t ∧
    results t = [true, true, false, true] ∧ Admits twoPerSecond t.checks ∧
      Bounded twoPerSecond t.checks := by
  exact exists_careful_run (by decide +kernel) fun _ run hc _ =>
    ⟨(admits_and_bounded run).1, (admits_and_bounded run).2 hc⟩

/-- Three calls of one client in the same millisecond. -/
def oneClient : List Request :=
  [callFrom "192.0.2.1" 5, callFrom "192.0.2.1" 5, callFrom "192.0.2.1" 5]

theorem oneClient_exceeds_limit : ∃ t, Run (step twoPerSecond) Always launched oneClient t ∧
    results t = [true, true, true] ∧ ¬ Bounded twoPerSecond t.checks := by
  refine exists_run_of_seen (fun t => results t = [true, true, true] ∧
    acceptedIn t.checks "crm" 0 1000 = 3) (by decide +kernel)
    fun t _ ⟨accepted, three⟩ => ⟨accepted, fun hb => ?_⟩
  have two : acceptedIn t.checks "crm" 0 1000 ≤ 2 := hb "crm" ⟨2, 1000⟩ rfl 0
  omega

end WebhookRateLimit
