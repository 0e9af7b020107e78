import Optimizely.AttributionJourneys
import Optimizely.TaskLists
import Optimizely.TransitionRuns

/-!
# Concurrent updates of a journey

A call reads the journey and writes it back with its own touch point or conversion. What another
call writes in between is lost, and two calls that find no active journey make one each. Calls that
read the active journey one after the other, while it is stored, lose nothing.
-/

namespace AttributionJourneys

open TransitionRuns TaskLists List Option OrderedMap

def CustomerJourney.ids (journey : CustomerJourney) : Bool → List Nat
  | false => journey.touchPoints.map (·.id)
  | true => journey.conversions.map (·.id)

/-- If all calls have returned, the journey of the user has what each of them tracked once. -/
def Complete (s : State) (userId : String) : Prop :=
  (∀ call ∈ (s.user userId).calls, call.stage = .done) →
    ∀ i call, (s.user userId).calls[i]? = some call →
      ∃ createdAt journey, (s.user userId).getActive s.now = some createdAt ∧
        (s.user userId).getJourney s.now createdAt = some journey ∧
        (journey.ids call.event.isConversion).count i = 1

/-- The call has read the active journey, or found none, and has not returned. -/
def Stage.isInside : Stage → Bool
  | .store | .readActive | .done => false
  | _ => true

def User.IsLive (user : User) (now : Nat) : Prop :=
  (∀ entry ∈ user.active, now ≤ entry.expiresAt) ∧
    ∀ entry ∈ user.journeys.values, now ≤ entry.expiresAt

/-- The calls for the user read the active journey one after the other, and nothing expires. -/
def Careful (userId : String) (s : State) : Label → Prop
  | .track _ _ => True
  | .resume other index => other = userId →
      (s.user userId).calls[index]?.any (·.stage = .readActive) = true →
      ∀ call ∈ (s.user userId).calls, call.stage.isInside = false
  | .advance milliseconds => (s.user userId).IsLive (s.now + milliseconds)

deriving instance Decidable for User.IsLive

instance (userId : String) (s : State) (label : Label) : Decidable (Careful userId s label) := by
  cases label <;> dsimp only [Careful] <;> infer_instance

def User.isDone (user : User) (i : Nat) (conversion : Bool) : Bool :=
  user.calls[i]?.any fun call => call.stage = .done && call.event.isConversion = conversion

/-- The journey holds what the calls that have returned have tracked. -/
def Records (user : User) (journey : CustomerJourney) : Prop :=
  ∀ i conversion, (journey.ids conversion).count i = if user.isDone i conversion then 1 else 0

/-- What a call inside knows. -/
def Stands (user : User) (i : Nat) (call : Call) : Prop :=
  match call.stage with
  | .createJourney _ journey => user.active = none ∧ Records user journey
  | .setActive createdAt => user.active = none ∧
      ∃ entry, user.journeys.get? createdAt = some entry ∧ Records user entry.value
  | .readJourney createdAt => ∃ entry, user.active = some entry ∧ entry.value = createdAt
  | .writeJourney createdAt journey => ∃ entry old, user.active = some entry ∧
      entry.value = createdAt ∧ user.journeys.get? createdAt = some old ∧
      journey = old.value.add i call.timestamp call.event
  | _ => True

structure Sound (now : Nat) (user : User) : Prop where
  live : user.IsLive now
  alone : ∀ (i j : Nat) (call other : Call), user.calls[i]? = some call →
    user.calls[j]? = some other → call.stage.isInside = true → other.stage.isInside = true → i = j
  stands : ∀ (i : Nat) (call : Call), user.calls[i]? = some call → Stands user i call
  recorded : ∀ active ∈ user.active, ∃ entry, user.journeys.get? active.value = some entry ∧
    Records user entry.value
  fresh : user.active = none → ∀ call ∈ user.calls, call.stage ≠ .done

variable {now i : Nat} {user t : User} {c : Call} {stage sg : Stage} {u : String}

lemma count_ids_add (jn : CustomerJourney) (i timestamp j : Nat) (e : Event)
    (conversion : Bool) : ((jn.add i timestamp e).ids conversion).count j =
      (jn.ids conversion).count j + if i = j ∧ e.isConversion = conversion then 1 else 0 := by
  cases e with
  | touchPoint | conversion =>
    cases conversion <;>
      simp [CustomerJourney.add, CustomerJourney.ids, Event.isConversion, count_singleton]

section

variable (hf : user.calls[i]? = some c) (hr : c.stage ≠ .done)
  (same : t.calls = user.calls.set i { c with stage := stage })
include hf hr same

lemma isDone_set (j : Nat) (cv : Bool) : t.isDone j cv = (user.isDone j cv ||
      decide (i = j ∧ stage = .done ∧ c.event.isConversion = cv)) := by
  obtain ⟨hin, -⟩ := List.getElem?_eq_some_iff.mp hf
  rw [User.isDone, User.isDone, same]
  by_cases h : i = j
  · subst h
    rw [getElem?_set_self hin, hf]
    simp [hr]
  · simp [h]

lemma records_of_running (hs : stage ≠ .done) {journey : CustomerJourney}
    (hrc : Records user journey) : Records t journey := by
  intro j cv
  rw [isDone_set hf hr same j cv, hrc]
  simp [hs]

end

lemma stands_of_outside (ho : c.stage.isInside = false) : Stands user i c := by
  unfold Stands
  cases h : c.stage with
  | store | readActive | done => trivial
  | createJourney _ _ | setActive _ | readJourney _ | writeJourney _ _ =>
    rw [h] at ho
    cases ho

lemma Sound.move (s : Sound now user) (hf : user.calls[i]? = some c)
    (hsm : t.calls = user.calls.set i { c with stage := stage })
    (ha : ∀ (j : Nat) (x : Call), user.calls[j]? = some x → j ≠ i → x.stage.isInside = false)
    (hl : t.IsLive now) (own : Stands t i { c with stage := stage })
    (hrc : ∀ ac ∈ t.active, ∃ e, t.journeys.get? ac.value = some e ∧ Records t e.value)
    (hfr : t.active = none → user.active = none ∧ stage ≠ .done) : Sound now t := by
  have hot : ∀ (j : Nat) (x : Call), t.calls[j]? = some x →
      j = i ∧ x = { c with stage := stage } ∨ x.stage.isInside = false := by
    intro j x ht
    rw [hsm] at ht
    rcases getElem?_set_cases ht with own | ⟨ne, old⟩
    · exact .inl own
    · exact .inr (ha j x old ne)
  refine ⟨hl, ?_, ?_, hrc, ?_⟩
  · intro j k first ca hh ht hin hi'
    rcases hot j first hh with ⟨rfl, -⟩ | ho
    · rcases hot k ca ht with ⟨rfl, -⟩ | ho
      · rfl
      · rw [ho] at hi'
        cases hi'
    · rw [ho] at hin
      cases hin
  · intro j x ht
    rcases hot j x ht with ⟨rfl, rfl⟩ | ho
    · exact own
    · exact stands_of_outside ho
  · intro none
    rw [hsm]
    exact forall_set (s.fresh (hfr none).1) i (hfr none).2

lemma Sound.of_calls (s : Sound now user) {calls : List Call}
    (hsm : ∀ (j : Nat) (x : Call), calls[j]? = some x →
      user.calls[j]? = some x ∨ x.stage.isInside = false ∧ x.stage ≠ .done)
    (done : ∀ j cv, User.isDone { user with calls := calls } j cv =
      user.isDone j cv) : Sound now { user with calls := calls } := by
  have hrs : ∀ journey, Records user journey → Records { user with calls := calls } journey := by
    intro journey hrs j cv
    rw [done]
    exact hrs j cv
  have hin : ∀ (j : Nat) (x : Call), calls[j]? = some x →
      x.stage.isInside = true → user.calls[j]? = some x := by
    intro j x ht hin
    refine (hsm j x ht).resolve_right fun ⟨ho, _⟩ => ?_
    rw [ho] at hin
    cases hin
  refine ⟨s.live, ?_, ?_, ?_, ?_⟩
  · intro j k first sc hh ht hf hs
    exact s.alone j k first sc (hin j first hh hf) (hin k sc ht hs) hf hs
  · intro j x ht
    rcases hsm j x ht with old | ⟨ho, -⟩
    · have hss := s.stands j x old
      unfold Stands at hss ⊢
      split at hss
      · exact ⟨hss.1, hrs _ hss.2⟩
      · obtain ⟨none, e, hst, he⟩ := hss
        exact ⟨none, e, hst, hrs _ he⟩
      · exact hss
      · exact hss
      · trivial
    · exact stands_of_outside ho
  · intro ac mem
    obtain ⟨e, hst, hrc⟩ := s.recorded ac mem
    exact ⟨e, hst, hrs _ hrc⟩
  · intro none x mem
    obtain ⟨j, ht⟩ := getElem?_of_mem mem
    rcases hsm j x ht with old | ⟨-, hr⟩
    · exact s.fresh none x (mem_of_getElem? old)
    · exact hr

lemma sound_track (sound : Sound now user) (e : Event) :
    Sound now { user with calls := user.calls ++ [⟨e, now, .store⟩] } := by
  refine sound.of_calls ?_ ?_
  · intro j x there
    rcases getElem?_append_cases there with ⟨-, rfl⟩ | old
    · exact .inr ⟨rfl, nofun⟩
    · exact .inl old
  · intro j cv
    rw [User.isDone, User.isDone, getElem?_append]
    split
    · rfl
    · rename_i outside
      rw [getElem?_eq_none (Nat.le_of_not_lt outside)]
      cases j - user.calls.length <;> simp

lemma get?_setJourney (u : User) (now c : Nat) (j : CustomerJourney) :
    (u.setJourney now c j).journeys.get? c = some ⟨j, now + journeyTtl * 1000⟩ :=
  (get?_set _ _ _ _).trans (if_pos rfl)

lemma isLive_setJourney (hl : user.IsLive now) (c : Nat) (j : CustomerJourney) :
    (user.setJourney now c j).IsLive now := by
  refine ⟨hl.1, ?_⟩
  intro e mem
  obtain ⟨cu, hw, rfl⟩ := mem_map.mp mem
  rcases mem_entries_set hw with rfl | old
  · exact Nat.le_add_right _ _
  · exact hl.2 _ (mem_map_of_mem old)

lemma sound_resume (s : Sound now user) (hf : user.calls[i]? = some c)
    (hca : c.stage = .readActive → ∀ x ∈ user.calls, x.stage.isInside = false)
    (hs : user.next u now i c = some (t, stage)) :
    Sound now { t with calls := user.calls.set i { c with stage := stage } } := by
  have hr : c.stage ≠ .done := by
    intro done
    simp [User.next, done] at hs
  have hss := s.stands i c hf
  have ha : c.stage ≠ .store → ∀ (j : Nat) (x : Call), user.calls[j]? = some x →
      j ≠ i → x.stage.isInside = false := by
    intro begun j x ht ne
    by_cases hrd : c.stage = .readActive
    · exact hca hrd x (mem_of_getElem? ht)
    · by_contra hin
      refine ne (s.alone j i x c ht hf (by simpa using hin) ?_)
      cases h : c.stage <;> simp_all [Stage.isInside]
  obtain ⟨ev, tm, st⟩ := c
  have hke : ∀ {journey : CustomerJourney}, stage ≠ .done → Records user journey →
      Records { t with calls := user.calls.set i ⟨ev, tm, stage⟩ } journey :=
    fun hsl hrc => records_of_running hf hr rfl hsl hrc
  cases st with
  | store =>
    cases hs
    refine s.of_calls ?_ ?_
    · intro j x ht
      rcases getElem?_set_cases ht with ⟨-, rfl⟩ | ⟨-, old⟩
      · exact .inr ⟨rfl, nofun⟩
      · exact .inl old
    · intro j cv
      rw [isDone_set hf hr rfl j cv]
      simp
  | readActive =>
    simp only [User.next] at hs
    split at hs
    · rename_i createdAt ac
      cases hs
      obtain ⟨e, hst, his⟩ := bind_eq_some_iff.mp ac
      have same : e.value = createdAt := by
        rw [live, if_pos (s.live.1 e hst)] at his
        exact some.inj his
      refine s.move hf rfl (ha nofun) s.live ⟨e, hst, same⟩ ?_ fun none => ⟨none, nofun⟩
      intro ac mem
      obtain ⟨e, hst, hrc⟩ := s.recorded ac mem
      exact ⟨e, hst, hke nofun hrc⟩
    · rename_i hmi
      cases hs
      have none : user.active = none := by
        cases hst : user.active with
        | none => rfl
        | some e =>
          rw [User.getActive, hst, bind_some, live, if_pos (s.live.1 e hst)] at hmi
          cases hmi
      have hu : ∀ j cv, user.isDone j cv = false := by
        intro j cv
        rw [User.isDone, Option.any_eq_false]
        intro x ht
        simp [s.fresh none x (mem_of_getElem? ht)]
      refine s.move hf rfl (ha nofun) s.live ⟨none, hke nofun ?_⟩ ?_ fun none => ⟨none, nofun⟩
      · intro j cv
        rw [hu]
        cases cv <;> rfl
      · simp [none]
  | createJourney createdAt journey =>
    cases hs
    obtain ⟨none, hrc⟩ := hss
    refine s.move hf rfl (ha nofun) (isLive_setJourney s.live createdAt journey)
      ⟨none, _, get?_setJourney user now createdAt journey, hke nofun hrc⟩ ?_
      fun _ => ⟨none, nofun⟩
    simp [User.setJourney, none]
  | setActive createdAt =>
    cases hs
    obtain ⟨none, e, hst, hrc⟩ := hss
    refine s.move hf rfl (ha nofun) ⟨?_, s.live.2⟩ ⟨_, rfl, rfl⟩ ?_ nofun
    · rintro _ ⟨⟩
      exact Nat.le_add_right _ _
    · rintro _ ⟨⟩
      exact ⟨e, hst, hke nofun hrc⟩
  | readJourney createdAt =>
    obtain ⟨ac, hi, rfl⟩ := hss
    obtain ⟨e, hst, hrc⟩ := s.recorded ac hi
    have his := s.live.2 e (mem_map_of_mem (mem_of_get? hst))
    simp only [User.next, User.getJourney, hst, bind_some, live, if_pos his] at hs
    cases hs
    refine s.move hf rfl (ha nofun) s.live ⟨ac, e, hi, rfl, hst, rfl⟩ ?_ fun none => ⟨none, nofun⟩
    intro ac mem
    obtain ⟨e, hst, hrc⟩ := s.recorded ac mem
    exact ⟨e, hst, hke nofun hrc⟩
  | writeJourney createdAt journey =>
    cases hs
    obtain ⟨ac, old, hi, rfl, hst, he⟩ := hss
    obtain ⟨e, hs', hrc⟩ := s.recorded ac hi
    cases hst.symm.trans hs'
    refine s.move hf rfl (ha nofun) (isLive_setJourney s.live _ _) trivial ?_ ?_
    · intro x mem
      cases hi.symm.trans mem
      refine ⟨_, get?_setJourney user now _ _, ?_⟩
      intro j cv
      have hct := count_ids_add old.value i tm j ev cv
      rw [← he, hrc] at hct
      rw [isDone_set hf hr rfl j cv, hct]
      by_cases hh : i = j
      · subst hh
        simp [User.isDone, hf]
      · simp [hh]
    · intro none
      cases hi.symm.trans none
  | done => cases hs

lemma sound_newUser (now : Nat) : Sound now newUser where
  live := ⟨nofun, fun _ mem => absurd mem not_mem_nil⟩
  alone _ _ _ _ hf := by simp [newUser] at hf
  stands _ _ hf := by simp [newUser] at hf
  recorded := nofun
  fresh _ _ mem := absurd mem not_mem_nil

lemma sound_step {s t : State} {l : Label} (sn : Sound s.now (s.user u))
    (hca : Careful u s l) (hs : s.step l = some t) : Sound t.now (t.user u) := by
  cases l with
  | track x e =>
    cases hs
    rw [user_set]
    split
    · rename_i same
      subst same
      exact sound_track sn e
    · exact sn
  | resume x i =>
    obtain ⟨user, hr, r⟩ := bind_eq_some_iff.mp hs
    cases r
    rw [user_set]
    split
    · rename_i same
      subst same
      obtain ⟨c, hf, hmo⟩ := bind_eq_some_iff.mp hr
      obtain ⟨⟨after, sg⟩, next, r⟩ := bind_eq_some_iff.mp hmo
      cases r
      exact sound_resume sn hf (fun hrd => hca rfl (by simp [hf, hrd])) next
    · exact sn
  | advance milliseconds =>
    cases hs
    exact ⟨hca, sn.alone, sn.stands, sn.recorded, sn.fresh⟩

theorem complete_of_careful {labels : List Label} {t : State} (userId : String)
    (run : Run State.step (Careful userId) started labels t) : Complete t userId := by
  have hsn := run.invariant (fun s => Sound s.now (s.user userId))
    (fun _ _ _ hsn hc hs => sound_step hsn hc hs) (sound_newUser 0)
  intro done i c hf
  have mem := mem_of_getElem? hf
  cases hst : (t.user userId).active with
  | none => exact absurd (done c mem) (hsn.fresh hst c mem)
  | some a =>
    obtain ⟨e, hp, rs⟩ := hsn.recorded a hst
    have hi := hsn.live.2 e (mem_map_of_mem (mem_of_get? hp))
    refine ⟨a.value, e.value, ?_, ?_, ?_⟩
    · simp [User.getActive, hst, live, hsn.live.1 a hst]
    · simp [User.getJourney, hp, live, hi]
    · rw [rs]
      simp [User.isDone, hf, done c mem]

def visit : Label := .track "u1" (.touchPoint "phone" "email")

def resumes (index times : Nat) : List Label := List.replicate times (.resume "u1" index)

theorem oneAfterTheOther_complete : ∃ t, Run State.step (Careful "u1") started
      (visit :: .track "u1" (.conversion 5) :: (resumes 1 1 ++ resumes 0 6 ++ resumes 1 3)) t ∧
      (∀ call ∈ (t.user "u1").calls, call.stage = .done) ∧ Complete t "u1" :=
  exists_run (by decide +kernel) fun _ run _ => complete_of_careful "u1" run

/-- The second and the third call read the journey before they write it. -/
theorem bothRead_loses_one : ∃ t, Run State.step Always started
    (visit :: (resumes 0 6 ++ [visit, visit] ++ resumes 1 3 ++ resumes 2 4 ++ resumes 1 1)) t ∧
      (∀ call ∈ (t.user "u1").calls, call.stage = .done) ∧
      (t.user "u1").calls.map (·.event) = List.replicate 3 (.touchPoint "phone" "email") ∧
      ((t.user "u1").getActive t.now).bind (fun createdAt =>
        ((t.user "u1").getJourney t.now createdAt).map (·.ids false)) = some [0, 1] ∧
      ¬ Complete t "u1" := by
  refine exists_run₃ (by decide +kernel) fun t _ done es j hc => ?_
  have ht := congrArg (·[2]?) es
  rw [getElem?_map] at ht
  obtain ⟨call, hf, e⟩ := map_eq_some_iff.mp ht
  obtain ⟨createdAt, stored, ha, hp, ho⟩ := hc done 2 call hf
  rw [ha, bind_some, hp, map_some, some.injEq] at j
  rw [e, Event.isConversion, j] at ho
  exact absurd ho (by decide)

end AttributionJourneys
