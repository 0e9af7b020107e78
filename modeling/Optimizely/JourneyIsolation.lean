import Mathlib.Data.List.Sort
import Optimizely.AttributionJourneys
import Optimizely.GlobPatterns
import Optimizely.TransitionRuns

/-!
# Whose journeys are returned

`getCustomerJourneys` finds the journeys of a user by a glob pattern made of the id. That of `a`
also fits the keys of `a_b`, and an id may hold special characters.
-/

namespace AttributionJourneys

open TransitionRuns GlobPatterns List OrderedMap

def journeyKey (userId : String) (createdAt : Nat) : String :=
  "journey:" ++ journeyId userId createdAt

def newestFirst (a b : CustomerJourney) : Prop := b.startDate ≤ a.startDate

instance : DecidableRel newestFirst := fun _ _ => inferInstanceAs (Decidable (_ ≤ _))

/-- The journeys under the keys that match, without options. -/
def State.getCustomerJourneys (s : State) (userId : String) : List CustomerJourney :=
  let found := s.users.entries.flatMap fun (owner, user) =>
    user.journeys.entries.filterMap fun (createdAt, entry) =>
      if globMatches ("journey:journey_" ++ userId ++ "_*") (journeyKey owner createdAt) then
        live s.now entry else none
  found.insertionSort newestFirst

/-- The unexpired journeys that the calls for the user have made. -/
def State.journeysOf (s : State) (userId : String) : List CustomerJourney :=
  ((s.user userId).journeys.values.filterMap (live s.now)).insertionSort newestFirst

def Label.userId : Label → Option String
  | .track userId _ => some userId
  | .resume userId _ => some userId
  | .advance _ => none

def Label.concerns (userId : String) (label : Label) : Bool := label.userId.all (· = userId)

/-- The id of the user of a call does not begin with this id and an underscore. -/
def Apart (userId : String) (_ : State) (label : Label) : Prop :=
  ∀ other ∈ label.userId, ¬ userId.toList ++ ['_'] <+: other.toList

deriving instance Decidable for Apart

lemma underscore_notMem (n : Nat) : '_' ∉ (toString n).toList := by
  rw [Nat.toString_eq_ofList_toDigits, String.toList_ofList]
  intro mem
  have hdg := Nat.isDigit_of_mem_toDigits (show 0 < 10 by omega) (show 10 ≤ 10 by omega) mem
  exact absurd hdg (by decide)

lemma toList_journeyKey (u : String) (c : Nat) : (journeyKey u c).toList =
      "journey:journey_".toList ++ (u.toList ++ '_' :: (toString c).toList) := by
  simp [journeyKey, journeyId]

/-- A text without an underscore after the last one tells where the id ends. -/
lemma append_underscore_cases {first second r ds : List Char}
    (hsm : first ++ '_' :: r = second ++ '_' :: ds) (l : '_' ∉ ds) :
    (first = second ∧ r = ds) ∨ first ++ ['_'] <+: second := by
  rcases append_eq_append_iff.mp hsm with ⟨m, hl, ht⟩ | ⟨m, hs, ht⟩
  · cases m with
    | nil =>
      injection ht with _ he
      exact .inl ⟨by simpa using hl.symm, he⟩
    | cons c m =>
      injection ht with hu _
      exact .inr ⟨m, by simp [hl, ← hu]⟩
  · cases m with
    | nil =>
      injection ht with _ he
      exact .inl ⟨by simpa using hs, he.symm⟩
    | cons c m =>
      injection ht with _ hin
      exact absurd (hin ▸ mem_append_right _ mem_cons_self) l

lemma globMatches_journeyKey {u : String} (hp : ∀ c ∈ u.toList, Plain c) (x : String) (ca : Nat) :
    globMatches ("journey:journey_" ++ u ++ "_*") (journeyKey x ca) = true ↔
      u = x ∨ u.toList ++ ['_'] <+: x.toList := by
  have hs : ∀ c ∈ ("journey:journey_" ++ u ++ "_").toList, Plain c := by
    intro c mem
    simp only [String.toList_append, mem_append] at mem
    rcases mem with (hf | own) | hf
    · exact plain_of_all (by decide) c hf
    · exact hp c own
    · exact plain_of_all (by decide) c hf
  rw [show "_*" = "_" ++ "*" from rfl, ← String.append_assoc, globMatches_stem hs,
    toList_journeyKey, String.toList_append, String.toList_append, append_assoc,
    prefix_append_right_inj, ← String.toList_inj]
  constructor
  · rintro ⟨rest, hsm⟩
    rw [append_assoc] at hsm
    rcases append_underscore_cases hsm (underscore_notMem ca) with ⟨he, -⟩ | hl
    · exact .inl he
    · exact .inr hl
  · rintro (he | hl)
    · exact ⟨_, by rw [he, append_assoc]; rfl⟩
    · exact hl.trans (prefix_append _ _)

variable {userId u : String} {s t : State} {l : Label}

lemma getCustomerJourneys_eq (hp : ∀ c ∈ u.toList, Plain c)
    (ha : ∀ x ∈ s.users.keys, ¬ u.toList ++ ['_'] <+: x.toList) :
    s.getCustomerJourneys u = s.journeysOf u := by
  rw [State.getCustomerJourneys, State.journeysOf, State.user, flatMap_entries_of_key (k := u)]
  · cases s.users.get? u with
    | none => rfl
    | some user =>
      have own := fun ca => (globMatches_journeyKey hp u ca).mpr (.inl rfl)
      simp [own, values, filterMap_map]
  · intro e mem x
    rw [filterMap_eq_nil_iff]
    intro journey _
    refine if_neg fun hf => ?_
    rcases (globMatches_journeyKey hp _ _).mp hf with hs | hl
    · exact x hs.symm
    · exact ha e.1 (mem_map_of_mem mem) hl

/-- What the steps for a user make of the time and of what is held for that user. -/
def ownStep (userId : String) (own : Nat × User) : Label → Option (Nat × User)
  | .track _ event => some (own.1, { own.2 with calls := own.2.calls ++ [⟨event, own.1, .store⟩] })
  | .resume _ index => (own.2.resume userId own.1 index).map fun after => (own.1, after)
  | .advance milliseconds => some (own.1 + milliseconds, own.2)

def State.own (s : State) (userId : String) : Nat × User := (s.now, s.user userId)

variable (userId u) in
lemma own_step (hs : s.step l = some t) :
    if l.concerns u then ownStep u (s.own u) l = some (t.own u) else t.own u = s.own u := by
  cases l with
  | track x e =>
    cases hs
    by_cases hsm : x = u <;> simp [Label.concerns, Label.userId, hsm, ownStep, State.own, user_set]
  | resume x i =>
    obtain ⟨after, hr, ⟨⟩⟩ := Option.bind_eq_some_iff.mp hs
    by_cases hsm : x = u
    · subst hsm
      simp [Label.concerns, Label.userId, ownStep, State.own, user_set, hr]
    · simp [Label.concerns, Label.userId, hsm, State.own, user_set]
  | advance milliseconds =>
    cases hs
    rfl

variable (userId u) in
lemma exec_own {ok : State → Label → Prop} {ls : List Label}
    (run : Run State.step ok started ls s) :
    exec (ownStep u) (0, newUser) (ls.filter (Label.concerns u)) = some (s.own u) := by
  induction run with
  | nil => rfl
  | @snoc _ _ ls l before _ hs ih =>
    have hst := own_step u hs
    rw [filter_append, filter_singleton]
    cases hc : l.concerns u with
    | true =>
      rw [hc] at hst
      rw [cond_true, exec_concat, ih]
      exact hst
    | false =>
      rw [hc] at hst
      rw [cond_false, append_nil, ih]
      exact congrArg some hst.symm

lemma keys_apart {ls : List Label} (run : Run State.step (Apart u) started ls s) :
    ∀ x ∈ s.users.keys, ¬ u.toList ++ ['_'] <+: x.toList := by
  refine run.invariant (fun s => ∀ x ∈ s.users.keys, ¬ u.toList ++ ['_'] <+: x.toList)
    (fun s l t inv ha hs => ?_) (by simp [started, OrderedMap.keys, empty])
  cases l with
  | track o e =>
    cases hs
    intro x mem
    rcases (mem_keys_set _ _ _ _).mp mem with rfl | old
    · exact ha _ rfl
    · exact inv x old
  | resume o i =>
    obtain ⟨after, -, ⟨⟩⟩ := Option.bind_eq_some_iff.mp hs
    intro x mem
    rcases (mem_keys_set _ _ _ _).mp mem with rfl | old
    · exact ha _ rfl
    · exact inv x old
  | advance milliseconds =>
    cases hs
    exact inv

def createJourney (userId : String) : List Label :=
  [.track userId (.touchPoint "phone" "email"), .resume userId 0, .resume userId 0,
    .resume userId 0]

end AttributionJourneys
