import Optimizely.SessionCleanup

/-!
# The index of engagement scores

`updateSession` adds the score it sets to the entry in `engagement:scores`, and `addBehaviorEvent`
raises the score without touching the entry. Entries stay when sessions expire, and
`getSessionAnalytics` averages over all of them.
-/

namespace EngagementIndex

open SessionManager SessionCleanup TransitionRuns List OrderedMap

def scoreOf (session : Session) : Rat := session .engagementScore

/-- The score of a live session, and 0 for others. -/
def engagementOf (redis : Redis) (now : Nat) (sessionId : String) : Rat :=
  ((getSession redis now sessionId).map scoreOf).getD 0

def mean (scores : List Rat) : Rat :=
  if 0 < scores.length then scores.sum / scores.length else 0

def averageEngagement (redis : Redis) : Rat := mean redis.engagement.values

/-- Every live session with a score has it in the index, and the average is over these sessions. -/
structure Indexed (redis : Redis) (now : Nat) : Prop where
  stored : ∀ sessionId, engagementOf redis now sessionId ≠ 0 →
    redis.engagement.get? sessionId = some (engagementOf redis now sessionId)
  average : ∀ ids : List String, ids.Nodup → (∀ id, id ∈ ids ↔ engagementOf redis now id ≠ 0) →
    averageEngagement redis = mean (ids.map (engagementOf redis now))

/-- No session in the index has expired. -/
def Live (redis : Redis) (now : Nat) : Prop :=
  ∀ sessionId ∈ redis.engagement.keys, (getSession redis now sessionId).isSome

instance (redis : Redis) (now : Nat) : Decidable (Live redis now) :=
  inferInstanceAs (Decidable (∀ sessionId ∈ redis.engagement.keys, _))

/-- The index is live, a new session is not in it, a score is set once and not to 0, and events
are added to no live session. -/
def Careful (s : State) (label : Label) : Prop :=
  Live s.redis label.time ∧ match label with
    | .createSession sessionId _ _ _ _ => s.redis.engagement.get? sessionId = none
    | .updateSession sessionId updates now => (getSession s.redis now sessionId).isSome →
        ∀ score : Rat, updates .engagementScore = some score →
          score ≠ 0 ∧ s.redis.engagement.get? sessionId = none
    | .addBehaviorEvent sessionId _ now => getSession s.redis now sessionId = none
    | .cleanupExpiredSessions _ => False

/-- The index is the graph of the scores. -/
def Exact (redis : Redis) (now : Nat) : Prop := ∀ sessionId score,
  redis.engagement.get? sessionId = some score ↔
    engagementOf redis now sessionId = score ∧ score ≠ 0

variable {r r' : Redis} {now t : Nat} {id : String}

lemma Exact.mem_keys (h : Exact r now) : id ∈ r.engagement.keys ↔ engagementOf r now id ≠ 0 := by
  refine ⟨fun hk => ?_, fun hn => mem_keys_of_get? ((h id _).mpr ⟨rfl, hn⟩)⟩
  obtain ⟨e, he, rfl⟩ := List.mem_map.mp hk
  obtain ⟨hs, hn⟩ := (h e.1 e.2).mp (mem_entries.mp he)
  rwa [hs]

lemma Exact.indexed (h : Exact r now) : Indexed r now := by
  refine ⟨fun id hn => (h id _).mpr ⟨rfl, hn⟩, fun ids hd hi => ?_⟩
  have hv : r.engagement.values = r.engagement.keys.map (engagementOf r now) := by
    rw [OrderedMap.values, OrderedMap.keys, map_map]
    exact map_congr_left fun e he => ((h e.1 e.2).mp (mem_entries.mp he)).1.symm
  have hk : r.engagement.keys.Perm ids :=
    (perm_ext_iff_of_nodup r.engagement.nodup hd).mpr fun id => h.mem_keys.trans (hi id).symm
  have hp := hk.map (engagementOf r now)
  rw [averageEngagement, hv, mean, mean, hp.length_eq, hp.sum_eq]

lemma Exact.later (h : Exact r now) (hn : now ≤ t) (hl : Live r t) : Exact r t := by
  have hsm : engagementOf r t = engagementOf r now := by
    funext id
    cases hs : getSession r t id with
    | some ses =>
      have old : getSession r now id = some ses := ExpiringKeys.get_of_later hn hs
      rw [engagementOf, engagementOf, hs, old]
    | none =>
      -- an expired session is not in the index, so it had no score before
      have hk : id ∉ r.engagement.keys := fun hk => by simpa [hs] using hl id hk
      rw [engagementOf, hs, not_not.mp (mt h.mem_keys.mpr hk)]
      rfl
  rw [Exact, hsm]
  exact h

section

variable {ttl : Nat} {ses : Session} (hk : r'.sessions = r.sessions.setex now id ttl ses)
include hk

lemma engagementOf_written (x : String) :
    engagementOf r' now x = if id = x then scoreOf ses else engagementOf r now x := by
  by_cases hx : id = x
  · have hl : getSession r' now x = some ses := by
      rw [getSession, hk, ← hx]
      exact ExpiringKeys.get_eq_some_iff.mpr ⟨_, ExpiringKeys.setex_self .., by simp, rfl⟩
    rw [engagementOf, hl, if_pos hx]
    rfl
  · rw [engagementOf, getSession, hk, ExpiringKeys.get_setex_of_ne _ _ (Ne.symm hx), if_neg hx]
    rfl

lemma Exact.same_score (h : Exact r now) (hs : scoreOf ses = engagementOf r now id)
    (he : r'.engagement = r.engagement) : Exact r' now := by
  intro x y
  rw [engagementOf_written hk x, he, h x y]
  by_cases hx : id = x <;> simp [hx, hs]

lemma Exact.first_score {z : Rat} (h : Exact r now) (hs : scoreOf ses = z)
    (he : r'.engagement = r.engagement.addTo id z) (hz : z ≠ 0)
    (hf : r.engagement.get? id = none) : Exact r' now := by
  intro x y
  rw [engagementOf_written hk x, he, addTo, get?_set, hf, hs, Option.getD_none, zero_add]
  by_cases hx : id = x
  · rw [if_pos hx, if_pos hx, Option.some.injEq]
    exact ⟨fun hy => ⟨hy, hy ▸ hz⟩, And.left⟩
  · rw [if_neg hx, if_neg hx]
    exact h x y

end

lemma Exact.call {s : State} {l : Label} (h : Exact s.redis l.time) (hc : Careful s l) :
    Exact (call s.redis l) l.time := by
  obtain ⟨-, hc⟩ := hc
  cases l with
  | createSession id ip ua platform now =>
    refine Exact.same_score rfl h ?_ rfl
    by_contra hn
    have hf := (h id _).mpr ⟨rfl, Ne.symm hn⟩
    cases hc.symm.trans hf
  | updateSession id us now =>
    rw [SessionCleanup.call, updateSession]
    cases hs : getSession s.redis now id with
    | none => exact h
    | some ses =>
      have hl : scoreOf ses = engagementOf s.redis now id := by rw [engagementOf, hs]; rfl
      have hw : scoreOf (updated ses us now) = _ := updated_of_ne ses us now (by decide)
      cases hu : us .engagementScore with
      | none =>
        rw [hu] at hw
        refine Exact.same_score rfl h (hw.trans hl) ?_
        simp [writeUpdate, hu]
      | some z =>
        rw [hu] at hw
        obtain ⟨hz, hf⟩ := hc (by rw [hs]; rfl) z hu
        refine Exact.first_score rfl h hw ?_ hz hf
        simp [writeUpdate, hu]
  | addBehaviorEvent id e now =>
    rw [SessionCleanup.call, addBehaviorEvent, hc]
    exact h
  | cleanupExpiredSessions now => exact hc.elim

/-- A run in which every call is careful keeps the index for as long as it is live. -/
theorem indexed_of_careful {labels : List Label} {s : State}
    (run : Run step Careful initial labels s) {now : Nat} (later : s.clock ≤ now)
    (live : Live s.redis now) : Indexed s.redis now := by
  have ex : Exact s.redis s.clock := by
    refine run.invariant (fun s => Exact s.redis s.clock) ?_ fun id x => ?_
    · intro s l t h hc hs
      obtain ⟨ho, hs⟩ := Option.ite_none_right_eq_some.mp hs
      cases hs
      exact (h.later ho hc.1).call hc
    · exact ⟨by rintro ⟨⟩, fun hx => (hx.2 hx.1.symm).elim⟩
  exact (ex.later later live).indexed

def tenPoints : Updates := Function.update noUpdates .engagementScore (some (10 : Rat))

def visit : List Label :=
  [.createSession "s1" "192.0.2.1" "agent" "web" 0, .updateSession "s1" tenPoints 0]

theorem visit_indexed : ∃ s, Run step Careful initial visit s ∧
    averageEngagement s.redis = 10 ∧ Indexed s.redis 1000 := by
  have run : Run step Careful initial visit _ :=
    .cons ⟨by rintro id ⟨⟩, rfl⟩ rfl <| .single ⟨by rintro id ⟨⟩, fun _ x hx => ?_⟩ rfl
  · exact ⟨_, run, by decide +kernel, indexed_of_careful run (by decide) (by decide +kernel)⟩
  · cases hx
    exact ⟨by decide, rfl⟩

/-- A click raises the score to 12. -/
def click : Label := .addBehaviorEvent "s1" ⟨.click, "", none, none⟩ 0

theorem click_not_indexed : ∃ s, Run step Always initial (visit ++ [click]) s ∧
    engagementOf s.redis s.clock "s1" = 12 ∧ s.redis.engagement.get? "s1" = some 10 ∧
    averageEngagement s.redis = 10 ∧ ¬ Indexed s.redis s.clock := by
  have he : exec step initial (visit ++ [click]) = some _ := rfl
  refine ⟨_, run_of_exec he, by decide +kernel, by decide +kernel, by decide +kernel, fun h => ?_⟩
  exact absurd (h.stored "s1" (by decide +kernel)) (by decide +kernel)

end EngagementIndex
