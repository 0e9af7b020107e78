import Optimizely.NotificationQueue

/-!
# Rate limits of the notification service

Every check of a channel increments the counters of its minute, hour and day, admitted or not. What
was postponed in a minute counts in the hour and the day, and is checked again.
-/

namespace NotificationLimits

open TransitionRuns List
open NotificationQueue (Channel)

inductive Window where
  | minute | hour | day
  deriving DecidableEq

/-- In milliseconds; a key expires after the length of its window. -/
def Window.length : Window → Nat
  | .minute => 60000
  | .hour => 3600000
  | .day => 86400000

def limitOf (channel : Channel) : Window → Nat
  | .minute => channel.maxPerMinute
  | .hour => channel.maxPerHour
  | .day => channel.maxPerDay

structure Key where
  channelId : String
  window : Window
  index : Nat
  deriving DecidableEq

def rateKey (channelId : String) (now : Nat) (window : Window) : Key :=
  ⟨channelId, window, now / window.length⟩

/-- A key that does not exist is a counter with the value 0. -/
structure Counter where
  value : Nat
  expiresAt : Nat

structure Check where
  channelId : String
  time : Nat
  admitted : Bool

/-- The processor makes one check at a time. The last one is the first of `checks`. -/
structure State where
  now : Nat := 0
  counters : Key → Counter := fun _ => ⟨0, 0⟩
  checking : Option (String × Nat) := none
  checks : List Check := []

/-- With the counts comes how much later the expiry of each new key is set. -/
inductive Label where
  | advance (milliseconds : Nat)
  | isRateLimited (channelId : String)
  | counted (delay : Window → Nat)

/-- The three increments are sent together and take effect together. -/
def State.incremented (s : State) (id : String) (began : Nat) (delay : Window → Nat) (key : Key) :
    Counter :=
  let counter := s.counters key
  if key ≠ rateKey id began key.window then counter
  else if counter.value = 0 ∨ counter.expiresAt < s.now then
    ⟨1, s.now + delay key.window + key.window.length⟩
  else { counter with value := counter.value + 1 }

def step (channels : String → Channel) (s : State) : Label → Option State
  | .advance milliseconds => some { s with now := s.now + milliseconds }
  | .isRateLimited id =>
    if s.checking = none then some { s with checking := some (id, s.now) } else none
  | .counted delay => s.checking.map fun (id, began) =>
    let counters := s.incremented id began delay
    let count := fun window => (counters (rateKey id began window)).value
    { s with
      counters
      checking := none
      checks := ⟨id, began, !(channels id).isRateLimited (count .minute, count .hour, count .day)⟩
        :: s.checks }

def inWindow (key : Key) (check : Check) : Bool :=
  key = rateKey check.channelId check.time key.window

/-- The attempts of a window. -/
def admittedIn (key : Key) (checks : List Check) : Nat :=
  checks.countP fun check => check.admitted && inWindow key check

/-- A check that was postponed found a window with as many attempts as it may have. -/
def Tight (channels : String → Channel) (checks : List Check) : Prop :=
  ∀ check before, check :: before <:+ checks → check.admitted = false →
    ∃ window, limitOf (channels check.channelId) window ≤
      admittedIn (rateKey check.channelId check.time window) before

/-- The increments take effect in the minute in which the check began, and what was postponed on
that day was postponed in that minute. -/
def Careful (s : State) : Label → Prop
  | .counted _ => ∀ check ∈ s.checking, s.now / 60000 = check.2 / 60000 ∧
      ∀ old ∈ s.checks, old.admitted = false → old.channelId = check.1 →
        old.time / 86400000 = check.2 / 86400000 → old.time / 60000 = check.2 / 60000
  | _ => True

structure Sound (channels : String → Channel) (s : State) : Prop where
  count : ∀ key, (s.counters key).value = s.checks.countP (inWindow key)
  lasting : ∀ key, s.counters key = ⟨0, 0⟩ ∨
    (key.index + 1) * key.window.length ≤ (s.counters key).expiresAt
  bounded : ∀ key, admittedIn key s.checks ≤ limitOf (channels key.channelId) key.window
  tight : Tight channels s.checks

section

variable {cs : String → Channel} {s t : State} {k : Key} {id : String} {x y : Nat} {l : List Check}
  {c : Check} {d : Window → Nat}

lemma rateKey_of_minute (h : x / 60000 = y / 60000) (w : Window) :
    rateKey id x w = rateKey id y w := by
  cases w <;> simp only [rateKey, Window.length, Key.mk.injEq, true_and] <;> omega

lemma not_limited_iff {e : Channel} {f : Window → Nat} :
    e.isRateLimited (f .minute, f .hour, f .day) = false ↔ ∀ w, f w ≤ limitOf e w := by
  simp only [Channel.isRateLimited, Bool.or_eq_false_iff, decide_eq_false_iff_not, not_lt]
  refine ⟨fun h w => ?_, fun h => ⟨⟨h .minute, h .hour⟩, h .day⟩⟩
  cases w <;> simp [limitOf, h]

lemma incremented_of_current (hs : Sound cs s) (hm : s.now / 60000 = x / 60000) (k : Key) :
    (s.incremented id x d k).value =
        (if k = rateKey id x k.window then 1 else 0) + s.checks.countP (inWindow k) ∧
      (s.incremented id x d k = ⟨0, 0⟩ ∨
        (k.index + 1) * k.window.length ≤ (s.incremented id x d k).expiresAt) := by
  simp only [State.incremented, ← hs.count]
  by_cases hk : k = rateKey id x k.window
  · have hi : k.index = s.now / k.window.length :=
      congrArg Key.index (hk.trans (rateKey_of_minute hm.symm _))
    have hw : 0 < k.window.length := by cases k.window <;> decide
    have hlt := Nat.lt_mul_div_succ s.now hw
    have hle := Nat.div_mul_le_self s.now k.window.length
    rw [if_neg (not_not.mpr hk), if_pos hk, hi, Nat.succ_mul]
    rw [mul_comm, Nat.succ_mul] at hlt
    by_cases hz : (s.counters k).value = 0
    · rw [if_pos (.inl hz), hz]
      exact ⟨rfl, .inr (by dsimp only; omega)⟩
    · have h := (hs.lasting k).resolve_left fun h => hz (congrArg Counter.value h)
      rw [hi, Nat.succ_mul] at h
      rw [if_neg (by omega)]
      exact ⟨add_comm _ _, .inr h⟩
  · rw [if_pos hk, if_neg hk, zero_add]
    exact ⟨rfl, hs.lasting k⟩

lemma bounded_cons (hb : ∀ k, admittedIn k l ≤ limitOf (cs k.channelId) k.window)
    (hc : c.admitted = true → ∀ w, (c :: l).countP (inWindow (rateKey c.channelId c.time w)) ≤
      limitOf (cs c.channelId) w) (k : Key) :
    admittedIn k (c :: l) ≤ limitOf (cs k.channelId) k.window := by
  by_cases h : (c.admitted && inWindow k c) = true
  · obtain ⟨ha, hi⟩ := Bool.and_eq_true_iff.mp h
    have hk : k = rateKey c.channelId c.time k.window := of_decide_eq_true hi
    have hle : admittedIn k (c :: l) ≤ (c :: l).countP (inWindow k) :=
      countP_mono_left fun _ _ h => (Bool.and_eq_true_iff.mp h).2
    have hw := hc ha k.window
    rw [← hk] at hw
    exact (hle.trans hw).trans_eq (by rw [congrArg Key.channelId hk]; rfl)
  · exact (countP_cons_of_neg (p := fun c => c.admitted && inWindow k c) h).trans_le (hb k)

/-- A counter over its limit has counted attempts only, or what was postponed in this minute. -/
lemma full_of_count (ht : Tight cs l) {w : Window}
    (hp : ∀ c ∈ l, c.admitted = false → c.channelId = id →
      c.time / 86400000 = x / 86400000 → c.time / 60000 = x / 60000)
    (hw : limitOf (cs id) w ≤ l.countP (inWindow (rateKey id x w))) :
    ∃ w, limitOf (cs id) w ≤ admittedIn (rateKey id x w) l := by
  by_cases h : ∃ c ∈ l, c.admitted = false ∧ inWindow (rateKey id x w) c = true
  · obtain ⟨c, hc, hn, hi⟩ := h
    obtain ⟨rfl, -, hi⟩ := Key.mk.inj (of_decide_eq_true hi)
    have hm := hp c hc hn rfl (by cases w <;> simp only [rateKey, Window.length] at hi <;> omega)
    obtain ⟨l', b, rfl⟩ := append_of_mem hc
    obtain ⟨v, hv⟩ := ht c b (suffix_append ..) hn
    rw [rateKey_of_minute hm] at hv
    exact ⟨v,
      hv.trans (Sublist.countP_le ((sublist_cons_self c _).trans (sublist_append_right ..)))⟩
  · refine ⟨w, hw.trans (countP_mono_left fun c hc hi => ?_)⟩
    rw [hi, Bool.and_true]
    by_contra hn
    exact h ⟨c, hc, Bool.eq_false_iff.mpr hn, hi⟩

lemma sound_counted (hs : Sound cs s) (hm : s.now / 60000 = x / 60000)
    (hp : ∀ c ∈ s.checks, c.admitted = false → c.channelId = id →
      c.time / 86400000 = x / 86400000 → c.time / 60000 = x / 60000)
    (hc : s.checking = some (id, x)) (ht : step cs s (.counted d) = some t) : Sound cs t := by
  rw [step, hc] at ht
  cases ht
  have hk : ∀ k a, (s.incremented id x d k).value =
      (⟨id, x, a⟩ :: s.checks).countP (inWindow k) := by
    intro k a
    rw [(incremented_of_current hs hm k).1, countP_cons, add_comm]
    simp [inWindow]
  have hl := not_limited_iff (e := cs id)
    (f := fun w => (s.incremented id x d (rateKey id x w)).value)
  refine ⟨fun k => hk k _, fun k => (incremented_of_current hs hm k).2,
    bounded_cons hs.bounded fun ha w => ?_, fun c b hb hn => ?_⟩
  · rw [← hk]
    exact hl.mp ((Bool.not_eq_true' _).mp ha) w
  · rcases suffix_cons_iff.mp hb with h | h
    · cases h
      by_contra hf
      refine Bool.eq_false_iff.mp (hl.mpr fun w => ?_) ((Bool.not_eq_false' _).mp hn)
      rw [hk _ true, countP_cons_of_pos (by simp [inWindow, rateKey])]
      exact not_le.mp fun hw => hf (full_of_count hs.tight hp hw)
    · exact hs.tight c b h hn

lemma sound_step {l : Label} (hs : Sound cs s) (hc : Careful s l)
    (ht : step cs s l = some t) : Sound cs t := by
  cases l with
  | advance milliseconds =>
    cases ht
    exact { hs with }
  | isRateLimited id =>
    obtain ⟨-, ⟨⟩⟩ := Option.ite_none_right_eq_some.mp ht
    exact { hs with }
  | counted d =>
    obtain ⟨c, hf, -⟩ := Option.map_eq_some_iff.mp ht
    exact sound_counted hs (hc c hf).1 (hc c hf).2 hf ht

end

theorem limits_of_careful {channels : String → Channel} {labels : List Label} {s : State}
    (run : Run (step channels) Careful {} labels s) :
    (∀ key, admittedIn key s.checks ≤ limitOf (channels key.channelId) key.window) ∧
      Tight channels s.checks := by
  have hs := run.invariant (Sound channels) (fun _ _ _ => sound_step)
    ⟨fun _ => rfl, fun _ => .inl rfl, fun _ => Nat.zero_le _, fun _ _ h => by simp at h⟩
  exact ⟨hs.bounded, hs.tight⟩

instance (s : State) (label : Label) : Decidable (Careful s label) := by
  cases label <;> dsimp only [Careful] <;> infer_instance

def email : Channel := ⟨true, 1, 2, 10, 3, 1000, 2⟩

/-- A check after another, and one some time later. -/
def checked (later : Nat) : List Label :=
  [.isRateLimited "c", .counted fun _ => 5, .advance 9, .isRateLimited "c", .counted fun _ => 5,
    .advance later, .isRateLimited "c", .counted fun _ => 5]

theorem nextDay_keeps_limits : ∃ s, Run (step fun _ => email) Careful {} (checked 86400000) s ∧
    s.checks.map (·.admitted) = [true, false, true] ∧
      (∀ key, admittedIn key s.checks ≤ limitOf email key.window) ∧
      Tight (fun _ => email) s.checks :=
  exists_run (by decide +kernel) fun _ run _ => limits_of_careful run

/-- The third check is postponed, with one attempt in an hour that may have two, and none in its
minute. -/
theorem nextMinute_is_postponed : ∃ s check before,
    exec (step fun _ => email) {} (checked 60000) = some s ∧ s.checks = check :: before ∧
      check.admitted = false ∧ ∀ window,
        admittedIn (rateKey check.channelId check.time window) before < limitOf email window := by
  refine ⟨_, _, _, rfl, rfl, by decide +kernel, fun window => ?_⟩
  cases window <;> decide +kernel

end NotificationLimits
