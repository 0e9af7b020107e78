import Optimizely.SyncEngine

/-!
# The statistics of an execution

A record is counted as successful before it is written back to the source. If that fails, the catch
block counts it again: the classes add up to the records fetched just if none fails there.
-/

namespace SyncEngine

open List Execution

variable {Data : Type}

inductive RecordClass where
  | successful
  | failed
  | skipped
  | conflict
  deriving DecidableEq

def Statistics.count (s : Statistics) : RecordClass → Nat
  | .successful => s.successfulRecords
  | .failed => s.failedRecords
  | .skipped => s.skippedRecords
  | .conflict => s.conflictRecords

/-- One of the classes has one record more, and the others have not. -/
def CountedOnce (before after : Statistics) : Prop :=
  ∃ counted, ∀ other, after.count other = before.count other + if other = counted then 1 else 0

def Statistics.counted (s : Statistics) : Nat :=
  s.successfulRecords + s.failedRecords + s.skippedRecords + s.conflictRecords

lemma counted_of_countedOnce {s t : Statistics} (ho : CountedOnce s t) :
    t.counted = s.counted + 1 := by
  obtain ⟨ct, he⟩ := ho
  have hs := he .successful
  have hfl := he .failed
  have hsk := he .skipped
  have hc := he .conflict
  simp only [Statistics.count] at hs hfl hsk hc
  rw [Statistics.counted, Statistics.counted, hs, hfl, hsk, hc]
  cases ct <;> simp only [if_true, reduceCtorEq, if_false] <;> omega

/-- The record was written to the target system. -/
def Outcomes.written (outcomes : Outcomes Data) (syncMode : SyncMode) (mapping : Mapping) : Bool :=
  match outcomes.detectChanges with
  | .error _ => false
  | .ok hasChanges =>
    if !hasChanges && syncMode = .incremental then false
    else
      match outcomes.transformData mapping with
      | .error _ => false
      | .ok data =>
        match outcomes.detectConflicts data with
        | .error _ => false
        | .ok conflicts =>
          if 0 < conflicts.length then false else (outcomes.syncToTargetSystem data).isOk

/-- `syncFromTargetToSource` is called for the record, and throws. -/
def Outcomes.failsBack (outcomes : Outcomes Data) (syncMode : SyncMode) (direction : Direction)
    (mapping : Mapping) : Bool :=
  outcomes.written syncMode mapping && direction = .bidirectional &&
    !outcomes.syncFromTargetToSource.isOk

/-- What the loop body does to the counters. -/
structure Counts (e t : Execution) (failsBack : Bool) : Prop where
  total : t.statistics.totalRecords = e.statistics.totalRecords
  counted : t.statistics.counted = e.statistics.counted + 1 + failsBack.toNat
  once : failsBack = false → CountedOnce e.statistics t.statistics
  errors : t.errors.length + e.statistics.failedRecords =
    e.errors.length + t.statistics.failedRecords

section

variable (e : Execution)

lemma counts_failedRecord (ei et m : String) : Counts e (e.failedRecord ei et m) false where
  total := rfl
  counted := by
    simp only [failedRecord, Statistics.counted, Bool.toNat_false]
    omega
  once _ := ⟨.failed, fun x => by cases x <;> rfl⟩
  errors := by
    simp only [failedRecord, length_append, length_singleton]
    omega

lemma counts_skipped : Counts e e.skipped false where
  total := rfl
  counted := by
    simp only [skipped, Statistics.counted, Bool.toNat_false]
    omega
  once _ := ⟨.skipped, fun x => by cases x <;> rfl⟩
  errors := rfl

lemma counts_conflicted (cs : List String) : Counts e (e.conflicted cs) false where
  total := rfl
  counted := by
    simp only [conflicted, Statistics.counted, Bool.toNat_false]
    omega
  once _ := ⟨.conflict, fun x => by cases x <;> rfl⟩
  errors := rfl

lemma counts_synced : Counts e e.synced false where
  total := rfl
  counted := by
    simp only [synced, Statistics.counted, Bool.toNat_false]
    omega
  once _ := ⟨.successful, fun x => by cases x <;> rfl⟩
  errors := rfl

/-- Counted as successful, and then as failed. -/
lemma counts_synced_failedRecord (ei ty m : String) :
    Counts e (e.synced.failedRecord ei ty m) true := by
  have hs := counts_synced e
  have hfl := counts_failedRecord e.synced ei ty m
  refine ⟨hfl.total.trans hs.total, ?_, by simp, ?_⟩
  · rw [hfl.counted, hs.counted]
    rfl
  · exact hfl.errors

lemma counts_syncRecord (et : String) (mp : Mapping) (r : Entity Data)
    (os : Outcomes Data) : Counts e (syncRecord e et mp r os)
      (os.failsBack e.syncMode e.direction mp) := by
  rw [syncRecord, Outcomes.failsBack, Outcomes.written]
  cases os.detectChanges with
  | error m => exact counts_failedRecord ..
  | ok hasChanges =>
    dsimp only
    split
    · exact counts_skipped e
    · cases os.transformData mp with
      | error m => exact counts_failedRecord ..
      | ok d =>
        dsimp only
        cases os.detectConflicts d with
        | error m => exact counts_failedRecord ..
        | ok conflicts =>
          dsimp only
          split
          · exact counts_conflicted ..
          · cases os.syncToTargetSystem d with
            | error m => exact counts_failedRecord ..
            | ok done =>
              have hs : e.synced.direction = e.direction := rfl
              simp only [hs]
              by_cases hb : e.direction = .bidirectional
              · simp only [hb, if_true]
                cases os.syncFromTargetToSource with
                | error m => exact counts_synced_failedRecord ..
                | ok done => exact counts_synced e
              · simp only [hb, if_false, decide_false, Bool.and_false, Bool.false_and]
                exact counts_synced e

lemma countedOnce_syncRecord_iff (ty : String) (mp : Mapping) (r : Entity Data)
    (os : Outcomes Data) : CountedOnce e.statistics (syncRecord e ty mp r os).statistics ↔
      os.failsBack e.syncMode e.direction mp = false := by
  have hc := counts_syncRecord e ty mp r os
  refine ⟨fun ho => ?_, hc.once⟩
  have ht := hc.counted
  rw [counted_of_countedOnce ho] at ht
  cases hfa : os.failsBack e.syncMode e.direction mp with
  | false => rfl
  | true =>
    rw [hfa] at ht
    simp only [Bool.toNat_true] at ht
    omega

end

/-- A record whose turn has come, with the execution as it is then. -/
structure Visit (Data : Type) where
  execution : Execution
  entityType : String
  mapping : Mapping
  record : Entity Data
  outcomes : Outcomes Data

def Visit.after (visit : Visit Data) : Execution :=
  syncRecord visit.execution visit.entityType visit.mapping visit.record visit.outcomes

def Visit.failsBack (visit : Visit Data) : Bool :=
  visit.outcomes.failsBack visit.execution.syncMode visit.execution.direction visit.mapping

def recordVisits (e : Execution) (entityType : String) (mapping : Mapping) :
    List (Entity Data × Outcomes Data) → List (Visit Data)
  | [] => []
  | record :: records =>
    ⟨e, entityType, mapping, record.1, record.2⟩ ::
      recordVisits (syncRecord e entityType mapping record.1 record.2) entityType mapping records

def typeVisits (mappings : List Mapping) (e : Execution) :
    List (String × List (Entity Data × Outcomes Data)) → List (Visit Data)
  | [] => []
  | (entityType, records) :: types =>
    match mappings.filter (·.entityType = entityType) with
    | [] => typeVisits mappings e types
    | mapping :: _ =>
      recordVisits (e.fetched records.length) entityType mapping records ++
        typeVisits mappings
          (syncRecords (e.fetched records.length) entityType mapping records) types

/-- The records that `performSync` fetches, in their order. -/
def visits (syncMappings : List Mapping) (e : Execution) (job : Job)
    (fetches : Nat → List (Entity Data × Outcomes Data)) : List (Visit Data) :=
  typeVisits (getSyncMappings syncMappings job.sourceSystem job.targetSystem) e
    (job.entityTypes.zipIdx.map fun entry => (entry.1, fetches entry.2))

/-- What a part of the run does to the counters, for the records it fetches and visits. -/
structure Totals (e t : Execution) (fetched : Nat) (visits : List (Visit Data)) : Prop where
  total : t.statistics.totalRecords = e.statistics.totalRecords + fetched
  counted : t.statistics.counted =
    e.statistics.counted + visits.length + visits.countP Visit.failsBack
  errors : t.errors.length + e.statistics.failedRecords =
    e.errors.length + t.statistics.failedRecords

section

variable (e : Execution) (et : String) (m : Mapping)
  (recs : List (Entity Data × Outcomes Data))

lemma totals_syncRecords : Totals e (syncRecords e et m recs) 0 (recordVisits e et m recs) := by
  induction recs generalizing e with
  | nil => exact ⟨rfl, rfl, rfl⟩
  | cons r recs ih =>
    have first := counts_syncRecord e et m r.1 r.2
    have hr := ih (syncRecord e et m r.1 r.2)
    refine ⟨hr.total.trans first.total, ?_, ?_⟩
    · refine hr.counted.trans ?_
      rw [first.counted, recordVisits, length_cons, countP_cons, Visit.failsBack]
      cases r.2.failsBack e.syncMode e.direction m <;>
        simp only [Bool.toNat_true, Bool.toNat_false, if_true, Bool.false_eq_true, if_false] <;>
        omega
    · have hl := hr.errors
      have now := first.errors
      rw [syncRecords, foldl_cons]
      rw [syncRecords] at hl
      omega

lemma length_recordVisits : (recordVisits e et m recs).length = recs.length := by
  induction recs generalizing e with
  | nil => rfl
  | cons r recs ih => rw [recordVisits, length_cons, ih, length_cons]

end

lemma totals_syncTypes (ms : List Mapping) (e : Execution)
    (ts : List (String × List (Entity Data × Outcomes Data))) :
    Totals e (syncTypes ms e ts) (typeVisits ms e ts).length (typeVisits ms e ts) := by
  induction ts generalizing e with
  | nil => exact ⟨rfl, rfl, rfl⟩
  | cons t ts ih =>
    obtain ⟨et, recs⟩ := t
    rw [syncTypes, typeVisits]
    cases ms.filter (·.entityType = et) with
    | nil => exact ih e
    | cons m others =>
      have first := totals_syncRecords (e.fetched recs.length) et m recs
      have hr := ih (syncRecords (e.fetched recs.length) et m recs)
      have hln := length_recordVisits (e.fetched recs.length) et m recs
      have hf : (e.fetched recs.length).statistics.totalRecords =
        e.statistics.totalRecords + recs.length := rfl
      have hs : (e.fetched recs.length).statistics.counted = e.statistics.counted := rfl
      refine ⟨?_, ?_, ?_⟩
      · rw [hr.total, first.total, hf, length_append, hln]
        omega
      · rw [hr.counted, first.counted, hs, length_append, countP_append]
        omega
      · have hl := hr.errors
        have now := first.errors
        have s : (e.fetched recs.length).statistics.failedRecords =
          e.statistics.failedRecords := rfl
        have none : (e.fetched recs.length).errors = e.errors := rfl
        rw [s, none] at now
        dsimp only
        omega

lemma balanced_iff {e t : Execution} {vs : List (Visit Data)} (ts : Totals e t vs.length vs)
    (s : e.statistics.totalRecords = e.statistics.counted) :
    t.statistics.totalRecords = t.statistics.counted ↔ ∀ v ∈ vs, v.failsBack = false := by
  rw [ts.total, ts.counted, s]
  have none : vs.countP Visit.failsBack = 0 ↔ ∀ v ∈ vs, v.failsBack = false := by
    simp [countP_eq_zero]
  rw [← none]
  omega

theorem statistics_iff (syncMappings : List Mapping) (job : Job) (jobId : String)
    (direction : Direction) (syncMode : SyncMode)
    (fetches : Nat → List (Entity Data × Outcomes Data)) :
    let e := Execution.started jobId direction syncMode
    let t := performSync syncMappings e job fetches
    (t.statistics.totalRecords = t.statistics.successfulRecords + t.statistics.failedRecords +
        t.statistics.skippedRecords + t.statistics.conflictRecords ∧
      t.errors.length = t.statistics.failedRecords ∧ ∀ visit ∈ visits syncMappings e job fetches,
        CountedOnce visit.execution.statistics visit.after.statistics) ↔
    ∀ visit ∈ visits syncMappings e job fetches, visit.failsBack = false := by
  intro e t
  have ht : Totals e t (visits syncMappings e job fetches).length
      (visits syncMappings e job fetches) :=
    totals_syncTypes _ e _
  have hb := balanced_iff ht rfl
  constructor
  · rintro ⟨sum, -, -⟩
    exact hb.mp sum
  · intro hn
    refine ⟨hb.mpr hn, ht.errors.trans (Nat.zero_add _), ?_⟩
    intro visit mem
    exact (countedOnce_syncRecord_iff ..).mpr (hn visit mem)

def contacts : Job where
  sourceSystem := "salesforce"
  targetSystem := "hubspot"
  entityTypes := ["contact"]
  syncMode := .full
  direction := .bidirectional
  status := .idle
  writer := none

def contactMapping : Mapping := ⟨"salesforce", "hubspot", "contact", 1⟩

/-- The record is written to the target, and writing it back throws. -/
def throwsBack : Entity Unit × Outcomes Unit :=
  (⟨"salesforce_contact_0", ()⟩,
    { detectChanges := .ok true
      transformData := fun _ => .ok ()
      detectConflicts := fun _ => .ok []
      syncToTargetSystem := fun _ => .ok ()
      syncFromTargetToSource := .error "timeout" })

theorem throwsBack_counted_twice :
    (performSync [contactMapping] (.started "job_1" .bidirectional .full) contacts
      fun _ => [throwsBack]).statistics =
        { totalRecords := 1
          processedRecords := 1
          successfulRecords := 1
          failedRecords := 1
          skippedRecords := 0
          conflictRecords := 0 } := by
  decide +kernel

end SyncEngine
