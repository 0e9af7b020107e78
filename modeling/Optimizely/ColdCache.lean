import Optimizely.ExpiringKeys
import Optimizely.OrderedMap
import Optimizely.TaskLists
import Optimizely.TransitionRuns

/-!
# Cold values

`setColdCache` writes a value and notes in `cache:expiry` when it expires. `cleanupExpiredCache`
lists the keys whose moment has come and deletes them with a second command, and with them what was
written in between. Redis runs the commands of a call when it resumes.
-/

namespace ColdCache

open TransitionRuns TaskLists Option ExpiringKeys

/-- What a call waits for. -/
inductive Call (V : Type) where
  | setting (key : String) (value : V) (ttl score : Nat)
  | listing (now : Nat)
  | deleting (now : Nat) (expiredKeys : List String)
  | completed

/-- `written` is what the writes alone would have left, and is read by no command. -/
structure State (V : Type) where
  now : Nat
  values : ExpiringKeys String V
  expiry : OrderedMap String Nat
  calls : List (Call V)
  written : ExpiringKeys String V

inductive Label (V : Type) where
  | setColdCache (key : String) (value : V) (ttl : Nat)
  | cleanupExpiredCache
  | resume (index : Nat)
  | advance (milliseconds : Nat)

variable {V : Type}

def initial (now : Nat) : State V := ⟨now, fun _ => none, .empty, [], fun _ => none⟩

def State.getColdCache (s : State V) (key : String) : Option V := s.values.get s.now key

/-- The pipeline of `setColdCache`. A time to live that is not positive is refused, but noted. -/
def State.pipeline (s : State V) (key : String) (value : V) (ttl score : Nat) : State V :=
  let noted := { s with expiry := s.expiry.set key score }
  if 0 < ttl then
    { noted with
      values := s.values.setex s.now key ttl value
      written := s.written.setex s.now key ttl value }
  else noted

def zrangebyscore (expiry : OrderedMap String Nat) (now : Nat) : List String :=
  (expiry.filter fun _ score => score ≤ now).keys

def State.resumeCall (s : State V) : Call V → State V × Call V
  | .setting key value ttl score => (s.pipeline key value ttl score, .completed)
  | .listing now =>
    let expiredKeys := zrangebyscore s.expiry now
    (s, if 0 < expiredKeys.length then .deleting now expiredKeys else .completed)
  | .deleting now expiredKeys =>
    ({ s with
      values := s.values.del expiredKeys
      expiry := s.expiry.filter fun _ score => now < score }, .completed)
  | .completed => (s, .completed)

def step (s : State V) : Label V → Option (State V)
  | .setColdCache key value ttl =>
    some { s with calls := s.calls ++ [.setting key value ttl (s.now + ttl * 1000)] }
  | .cleanupExpiredCache => some { s with calls := s.calls ++ [.listing s.now] }
  | .resume index => s.calls[index]?.map fun call =>
    { (s.resumeCall call).1 with calls := s.calls.set index (s.resumeCall call).2 }
  | .advance milliseconds => some { s with now := s.now + milliseconds }

/-- The last value written under a key is returned until its time to live is over. -/
def Kept (s : State V) : Prop := ∀ key entry, s.written key = some entry →
  s.now < entry.expiresAt → s.getColdCache key = some entry.value

def Call.deletes : Call V → List String
  | .deleting _ expiredKeys => expiredKeys
  | _ => []

/-- The pipeline of `setColdCache` runs at the time of the call and with a positive time to live,
and not between the two commands of a cleanup that has listed the key. -/
def Call.Timely (s : State V) : Call V → Prop
  | .setting key _ ttl score =>
    0 < ttl ∧ score = s.now + ttl * 1000 ∧ ∀ other ∈ s.calls, key ∉ other.deletes
  | _ => True

def Careful (s : State V) : Label V → Prop
  | .resume index => ∀ call ∈ s.calls[index]?, call.Timely s
  | _ => True

/-- A cleanup lists after its call, and deletes what is past due. -/
def Call.Due (now : Nat) (values : ExpiringKeys String V) : Call V → Prop
  | .listing called => called ≤ now
  | .deleting _ expiredKeys => ∀ key ∈ expiredKeys, values.PastDue now key
  | _ => True

lemma Call.Due.frame {c : Call V} {now later : Nat} {vs vs' : ExpiringKeys String V}
    (hd : c.Due now vs) (hl : now ≤ later)
    (hv : ∀ k ∈ c.deletes, ∀ e, vs' k = some e → vs k = some e) : c.Due later vs' := by
  cases c with
  | listing called => exact Nat.le_trans hd hl
  | deleting called ks => exact fun k mem e he => Nat.le_trans (hd k mem e (hv k mem e he)) hl
  | setting | completed => trivial

/-- The scores tell when the values expire. -/
structure Sound (s : State V) : Prop where
  stored : ∀ key entry, s.written key = some entry → s.now < entry.expiresAt →
    s.values key = some entry
  scored : ∀ key score entry, s.expiry.get? key = some score → s.values key = some entry →
    entry.expiresAt ≤ score
  calls : ∀ call ∈ s.calls, call.Due s.now s.values

namespace Sound

variable {s t : State V} {l : Label V} (hs : Sound s)
include hs

lemma kept : Kept s := fun k e he hl => get_eq_some_iff.mpr ⟨e, hs.stored k e he hl, hl.le, rfl⟩

lemma pipeline {k : String} {ttl : Nat} (v : V) (i : Nat) (hp : 0 < ttl)
    (hf : ∀ call ∈ s.calls, k ∉ call.deletes) :
    Sound { s.pipeline k v ttl (s.now + ttl * 1000) with calls := s.calls.set i .completed } := by
  rw [State.pipeline, if_pos hp]
  constructor
  · intro k' e he hl
    dsimp only at he ⊢
    by_cases h : k' = k
    · rwa [h, setex_self] at he ⊢
    · rw [setex_of_ne _ _ h] at he ⊢
      exact hs.stored k' e he hl
  · intro k' score e hk he
    dsimp only at hk he
    rw [OrderedMap.get?_set] at hk
    by_cases h : k' = k
    · rw [h, setex_self] at he
      rw [if_pos h.symm] at hk
      cases he
      cases hk
      exact le_rfl
    · rw [setex_of_ne _ _ h] at he
      rw [if_neg (Ne.symm h)] at hk
      exact hs.scored k' score e hk he
  · refine forall_set (fun c mem => (hs.calls c mem).frame le_rfl fun k' hk e he => ?_) i trivial
    have other : k' ≠ k := fun h => hf c mem (h ▸ hk)
    exact (setex_of_ne _ _ other _ _).symm.trans he

lemma delete {ks : List String} (hd : ∀ k ∈ ks, s.values.PastDue s.now k) (now i : Nat) :
    Sound { s with
      values := s.values.del ks
      expiry := s.expiry.filter fun _ score => now < score
      calls := s.calls.set i .completed } := by
  have old : ∀ k e, s.values.del ks k = some e → s.values k = some e := by
    intro k e he
    rw [del] at he
    split at he
    · cases he
    · exact he
  constructor
  · intro k e he hl
    have here := hs.stored k e he hl
    have other : k ∉ ks := fun mem => absurd (hd k mem e here) (Nat.not_le_of_lt hl)
    exact (if_neg other).trans here
  · intro k score e hk he
    exact hs.scored k score e (OrderedMap.get?_of_filter hk) (old k e he)
  · exact forall_set (fun c mem => (hs.calls c mem).frame le_rfl fun k _ => old k) i trivial

lemma listed {now : Nat} (hn : now ≤ s.now) : ∀ k ∈ zrangebyscore s.expiry now,
    s.values.PastDue s.now k := by
  intro k mem e he
  obtain ⟨score, hk, hle⟩ := OrderedMap.mem_keys_filter.mp mem
  exact (hs.scored k score e hk he).trans ((of_decide_eq_true hle).trans hn)

lemma step (hc : Careful s l) (h : step s l = some t) : Sound t := by
  cases l with
  | setColdCache k v ttl =>
    cases h
    exact ⟨hs.stored, hs.scored, forall_append hs.calls trivial⟩
  | cleanupExpiredCache =>
    cases h
    exact ⟨hs.stored, hs.scored, forall_append hs.calls le_rfl⟩
  | advance ms =>
    cases h
    refine ⟨fun k e he hl => hs.stored k e he ?_, hs.scored, fun c mem => ?_⟩
    · exact Nat.lt_of_le_of_lt (Nat.le_add_right _ _) hl
    · exact (hs.calls c mem).frame (Nat.le_add_right _ _) fun _ _ _ he => he
  | resume i =>
    obtain ⟨c, hf, rfl⟩ := map_eq_some_iff.mp h
    have due := hs.calls c (List.mem_of_getElem? hf)
    cases c with
    | setting k v ttl score =>
      obtain ⟨hp, rfl, hn⟩ := hc _ hf
      exact hs.pipeline v i hp hn
    | listing now =>
      refine ⟨hs.stored, hs.scored, forall_set hs.calls i ?_⟩
      dsimp only [State.resumeCall]
      split
      · exact hs.listed due
      · trivial
    | deleting now ks => exact hs.delete due now i
    | completed => exact ⟨hs.stored, hs.scored, forall_set hs.calls i trivial⟩

end Sound

/-- Values are kept as long as no write runs late, without a time to live or amid a cleanup. -/
theorem kept_of_timely {now : Nat} {ls : List (Label V)} {t : State V}
    (run : Run step Careful (initial now) ls t) : Kept t := by
  have sound : Sound t := run.invariant Sound (fun _ _ _ hs hc h => hs.step hc h)
    ⟨by rintro _ _ ⟨⟩, by rintro _ _ _ ⟨⟩, by rintro _ ⟨⟩⟩
  exact sound.kept

/-- A key is written again between the two commands of a cleanup. -/
def rewritten : List (Label String) := [.setColdCache "k" "old" 1, .resume 0, .advance 1000,
  .cleanupExpiredCache, .resume 1, .setColdCache "k" "new" 60, .resume 2, .resume 1]

theorem rewritten_loses_value : ∃ t, Run step Always (initial 0) rewritten t ∧ t.now = 1000 ∧
    (t.written.get 60999 "k") = some "new" ∧ t.getColdCache "k" = none :=
  exists_run_seen (by decide)

instance (s : State V) (call : Call V) : Decidable (call.Timely s) := by
  cases call <;> dsimp only [Call.Timely] <;> infer_instance

instance (s : State V) (label : Label V) : Decidable (Careful s label) := by
  cases label <;> dsimp only [Careful] <;> infer_instance

/-- The same key is written again after the cleanup. -/
def renewed : List (Label String) := [.setColdCache "k" "old" 1, .resume 0, .advance 1000,
  .cleanupExpiredCache, .resume 1, .resume 1, .setColdCache "k" "new" 60, .resume 2]

theorem renewed_keeps_value : ∃ t, Run step Careful (initial 0) renewed t ∧
    t.getColdCache "k" = some "new" ∧ Kept t :=
  exists_run (by decide +kernel) fun _ run _ => kept_of_timely run

end ColdCache
