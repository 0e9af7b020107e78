import Optimizely.ABTesting

/-!
# What a call does to the A/B testing service

The kinds of changes that a call can make, listed once.
-/

namespace ABTesting

open List

/-- What a call does to the service, with the facts that it has checked. -/
inductive Effect (env : Environment) (service : Service) : Call → Service → Prop where
  /-- The call is refused, or a participant gets the variant that was assigned before. -/
  | unchanged (call : Call) : Effect env service call service
  | created {id : String} {experimentData experiment : Experiment} :
      experiment.variants = experimentData.variants →
      Effect env service (.createExperiment id experimentData)
        { service with
          experiments := service.experiments.set id experiment
          assignments := service.assignments.set id [] }
  | updated {experimentId : String} {updates : ExperimentUpdates} {experiment : Experiment} :
      service.experiments.get? experimentId = some experiment → experiment.status ≠ .running →
      validateExperiment env (experiment.updated updates) = .ok () →
      Effect env service (.updateExperiment experimentId updates)
        (service.put experimentId (experiment.updated updates))
  | started {experimentId : String} {experiment : Experiment} :
      service.experiments.get? experimentId = some experiment → experiment.status = .ready →
      validateExperiment env experiment = .ok () →
      Effect env service (.startExperiment experimentId)
        (service.put experimentId experiment.started)
  | stopped {experimentId : String} {experiment : Experiment} {results : ExperimentResults} :
      service.experiments.get? experimentId = some experiment →
      calculateExperimentResults env { experiment with status := .stopped } = .ok results →
      Effect env service (.stopExperiment experimentId)
        (service.put experimentId { experiment with status := .stopped, results := some results })
  /-- The results cannot be computed. -/
  | halted {experimentId : String} {experiment : Experiment} {message : String} :
      service.experiments.get? experimentId = some experiment →
      calculateExperimentResults env { experiment with status := .stopped } = .error message →
      Effect env service (.stopExperiment experimentId)
        (service.put experimentId { experiment with status := .stopped })
  | joined {userId experimentId variantId : String} {context : AssignmentContext} {draws : Draws}
      {experiment : Experiment} :
      decideAssignment env service userId experimentId context draws =
        .ok (.new experiment variantId) →
      Effect env service (.assignParticipant userId experimentId context draws)
        (storeAssignment service userId experimentId context experiment variantId)
  | converted {experimentId userId eventType : String} {value : Rat} {experiment : Experiment}
      {assignment : ParticipantAssignment} :
      service.experiments.get? experimentId = some experiment →
      (service.assignmentsOf experimentId).find? (·.userId = userId) = some assignment →
      Effect env service (.recordConversion experimentId userId eventType value)
        { service with
          experiments := service.experiments.set experimentId
            (experiment.withVariant assignment.variantId
              (VariantMetrics.countConversion eventType value))
          conversionEvents := service.conversionEvents ++
            [⟨experimentId, assignment.variantId, userId, eventType, value⟩] }

lemma applyDefaults_variants (e : Experiment) : (applyDefaults e).variants = e.variants := by
  rw [applyDefaults]
  split <;> rfl

variable {env : Environment} {e : Experiment} {cn : AssignmentContext} {ds : Draws}
  {u v xid : String} {svc : Service}

lemma fillSampleSize_variants {f : Experiment}
    (h : fillSampleSize env e = .ok f) : f.variants = e.variants := by
  rw [fillSampleSize] at h
  split at h
  · cases h
    rfl
  · cases hs : calculateRequiredSampleSize env e.statisticalConfig with
    | error m =>
      rw [hs] at h
      cases h
    | ok size =>
      rw [hs] at h
      cases h
      rfl

lemma decideNew_new {f : Experiment} (hde : decideNew env f u cn ds = .ok (.new e v)) :
    f = e ∧ ∃ vr ∈ e.variants, vr.id = v := by
  rw [decideNew] at hde
  split at hde
  · cases hde
  · split at hde
    · cases hde
    · rename_i has
      cases hde
      exact ⟨rfl, mem_of_assignVariant has⟩

lemma decideAssignment_new (hde : decideAssignment env svc u xid cn ds = .ok (.new e v)) :
    svc.experiments.get? xid = some e ∧ e.status = .running ∧ (e.trafficAllocation.sticky = true →
        (svc.assignmentsOf xid).find? (·.userId = u) = none) ∧ ∃ vr ∈ e.variants, vr.id = v := by
  rw [decideAssignment] at hde
  split at hde
  · cases hde
  · rename_i hf hfn
    split at hde
    · cases hde
    · rename_i hr
      split at hde
      · split at hde
        · cases hde
        · rename_i hc
          obtain ⟨rfl, hm⟩ := decideNew_new hde
          exact ⟨hfn, not_not.mp hr, fun s => absurd s hc, hm⟩
      · rename_i first
        obtain ⟨rfl, hm⟩ := decideNew_new hde
        exact ⟨hfn, not_not.mp hr, fun _ => first, hm⟩

lemma decideAssignment_existing (hde : decideAssignment env svc u xid cn ds =
      .ok (.existing v)) : ∃ e a, svc.experiments.get? xid = some e ∧
      (svc.assignmentsOf xid).find? (·.userId = u) = some a ∧ a.variantId = v := by
  have hfr : ∀ e, decideNew env e u cn ds ≠ .ok (.existing v) := by
    intro e new
    rw [decideNew] at new
    split at new
    · cases new
    · split at new <;> cases new
  rw [decideAssignment] at hde
  split at hde
  · cases hde
  · rename_i e hst
    split at hde
    · cases hde
    · split at hde
      · rename_i a hf
        split at hde
        · cases hde
          exact ⟨e, a, hst, hf, rfl⟩
        · exact absurd hde (hfr e)
      · exact absurd hde (hfr e)

section

variable (env : Environment) (svc : Service)

lemma createExperiment_cases (id : String) (ed : Experiment) :
    (∃ m, createExperiment env svc id ed = (.error m, svc)) ∨
      ∃ e : Experiment, e.variants = ed.variants ∧
        createExperiment env svc id ed = (.ok id, { svc with
          experiments := svc.experiments.set id e
          assignments := svc.assignments.set id [] }) := by
  rw [createExperiment]
  split
  · exact .inl ⟨_, rfl⟩
  · split
    · exact .inl ⟨_, rfl⟩
    · rename_i f hf
      refine .inr ⟨f, ?_, rfl⟩
      rw [fillSampleSize_variants hf, applyDefaults_variants]

lemma updateExperiment_cases (xid : String) (us : ExperimentUpdates) :
    (∃ m, updateExperiment env svc xid us = (.error m, svc)) ∨
      ∃ e, svc.experiments.get? xid = some e ∧ e.status ≠ .running ∧
        validateExperiment env (e.updated us) = .ok () ∧ updateExperiment env svc xid us =
          (.ok (), svc.put xid (e.updated us)) := by
  rw [updateExperiment]
  split
  · exact .inl ⟨_, rfl⟩
  · rename_i e hf
    split
    · exact .inl ⟨_, rfl⟩
    · rename_i hi
      split
      · exact .inl ⟨_, rfl⟩
      · rename_i hv
        exact .inr ⟨e, hf, hi, hv, rfl⟩

lemma startExperiment_cases (xid : String) : (∃ m, startExperiment env svc xid = (.error m, svc)) ∨
      ∃ e, svc.experiments.get? xid = some e ∧
        e.status = .ready ∧ validateExperiment env e = .ok () ∧
        startExperiment env svc xid = (.ok (), svc.put xid e.started) := by
  rw [startExperiment]
  split
  · exact .inl ⟨_, rfl⟩
  · rename_i e hf
    split
    · exact .inl ⟨_, rfl⟩
    · rename_i hrd
      split
      · exact .inl ⟨_, rfl⟩
      · rename_i hv
        exact .inr ⟨e, hf, not_not.mp hrd, hv, rfl⟩

end

lemma stopExperiment_ok (hcp : (stopExperiment env svc xid).1 = .ok ()) :
    ∃ e results, svc.experiments.get? xid = some e ∧
      calculateExperimentResults env { e with status := .stopped } = .ok results ∧
      (stopExperiment env svc xid).2 = svc.put xid
        { e with status := .stopped, results := some results } := by
  rw [stopExperiment] at hcp ⊢
  split at hcp
  · cases hcp
  · rename_i e hf
    dsimp only at hcp
    split at hcp
    · cases hcp
    · rename_i results hc
      refine ⟨e, results, hf, hc, ?_⟩
      simp only [hc]

lemma effect_of_step {t : Service} {c : Call}
    (hs : step env svc c = some t) : Effect env svc c t := by
  cases c with
  | createExperiment id ed =>
    cases hs
    rcases createExperiment_cases env svc id ed with ⟨m, r⟩ | ⟨e, same, r⟩
    · rw [r]
      exact .unchanged _
    · rw [r]
      exact .created same
  | updateExperiment xid us =>
    cases hs
    rcases updateExperiment_cases env svc xid us with ⟨m, r⟩ | ⟨e, hf, idle, valid, r⟩
    · rw [r]
      exact .unchanged _
    · rw [r]
      exact .updated hf idle valid
  | startExperiment xid =>
    cases hs
    rcases startExperiment_cases env svc xid with ⟨m, r⟩ | ⟨e, hf, hrd, valid, r⟩
    · rw [r]
      exact .unchanged _
    · rw [r]
      exact .started hf hrd valid
  | stopExperiment xid =>
    cases hs
    rw [stopExperiment]
    split
    · exact .unchanged _
    · rename_i e hf
      dsimp only
      split
      · rename_i m hfl
        exact .halted hf hfl
      · rename_i results hc
        exact .stopped hf hc
  | assignParticipant u xid cn ds =>
    cases hs
    rw [assignParticipant]
    split
    · exact .unchanged _
    · exact .unchanged _
    · rename_i e variantId hde
      exact .joined hde
  | recordConversion xid u ty v =>
    cases hs
    rw [recordConversion]
    split
    · exact .unchanged _
    · rename_i e hf
      split
      · exact .unchanged _
      · rename_i a has
        exact .converted hf has

variable {A : Type} {a : A} {as : List A} {change : A → A} {test : A → Bool}

lemma mem_updateFirst (mem : a ∈ updateFirst test change as) :
    a ∈ as ∨ ∃ b, as.find? test = some b ∧ a = change b := by
  induction as with
  | nil => cases mem
  | cons b as ih =>
    by_cases h : test b = true
    · rw [updateFirst, if_pos h] at mem
      rcases mem_cons.mp mem with rfl | old
      · exact Or.inr ⟨b, find?_cons_of_pos h, rfl⟩
      · exact Or.inl (mem_cons_of_mem _ old)
    · rw [updateFirst, if_neg h] at mem
      rw [find?_cons_of_neg h]
      rcases mem_cons.mp mem with rfl | r
      · exact Or.inl mem_cons_self
      · rcases ih r with old | c
        · exact Or.inl (mem_cons_of_mem _ old)
        · exact Or.inr c

lemma mem_updateFirst_unique (hun : as.countP test = 1) (mem : a ∈ updateFirst test change as) :
    (a ∈ as ∧ test a = false) ∨ ∃ b ∈ as, test b ∧ a = change b := by
  induction as with
  | nil => cases mem
  | cons b as ih =>
    by_cases h : test b = true
    · rw [updateFirst, if_pos h] at mem
      rcases mem_cons.mp mem with rfl | old
      · exact Or.inr ⟨b, mem_cons_self, h, rfl⟩
      · have none : as.countP test = 0 := by
          rw [countP_cons_of_pos h] at hun
          omega
        have hu := countP_eq_zero.mp none a old
        exact Or.inl ⟨mem_cons_of_mem _ old, by simpa using hu⟩
    · rw [updateFirst, if_neg h] at mem
      rw [countP_cons_of_neg h] at hun
      rcases mem_cons.mp mem with rfl | r
      · exact Or.inl ⟨mem_cons_self, by simpa using h⟩
      · rcases ih hun r with ⟨old, hu⟩ | ⟨c, hc, ch⟩
        · exact Or.inl ⟨mem_cons_of_mem _ old, hu⟩
        · exact Or.inr ⟨c, mem_cons_of_mem _ hc, ch⟩

lemma assignmentsOf_storeAssignment (svc : Service) (u xid : String)
    (ctx : AssignmentContext) (e : Experiment) (v id : String) :
    (storeAssignment svc u xid ctx e v).assignmentsOf id = if xid = id then
        svc.assignmentsOf id ++ [⟨u, xid, v, ctx⟩] else svc.assignmentsOf id := by
  simp only [Service.assignmentsOf, storeAssignment, OrderedMap.get?_set]
  split
  · rename_i hs
    rw [hs]
    rfl
  · rfl

end ABTesting
