import Optimizely.SyncEngine
import Optimizely.TaskLists
import Optimizely.TransitionRuns

/-!
# Cancelled executions

`cancelExecution` changes the status and nothing else: the execution goes on to write records and to
set its status. The first save of the job's status is awaited outside of the try block; where it is
rejected, the execution stays active and the job running. Both are harmless only together, and for a
job deleted or updated in the meantime.
-/

namespace SyncEngine

open TransitionRuns List Option OrderedMap

variable {Data : Type}

/-- The job, if it still exists, was not left running by the execution. -/
def NotLeft (syncJobs : OrderedMap String Job) (index : Nat) (jobId : String) : Prop :=
  ∀ job ∈ syncJobs.get? jobId, ¬ (job.status = .running ∧ job.writer = some index)

deriving instance Decidable for NotLeft

structure Respected (s : Service Data) : Prop where
  cancelled : ∀ index ∈ s.cancelled, ∀ run ∈ s.runs[index]?,
    run.execution.status ≠ .completed ∧ run.execution.status ≠ .failed
  writes : ∀ write ∈ s.writes, write.2 ≠ .cancelled
  settled : ∀ index, ∀ run ∈ s.runs[index]?, run.stage = .settled →
    index ∉ s.activeExecutions ∧ NotLeft s.syncJobs index run.execution.jobId

/-- Executions are cancelled only while their first save is awaited, which is then rejected, and
only then; the job has been deleted, or its status written by another update. -/
def Unfinished (s : Service Data) : Label Data → Prop
  | .cancelExecution index =>
    ∀ run ∈ s.runs[index]?, index ∈ s.activeExecutions → run.execution.status = .running →
      run.stage = .starting
  | .deleteSyncJob jobId =>
    (s.syncJobs.get? jobId).isSome → ∀ index ∈ s.activeExecution jobId, ∀ run ∈ s.runs[index]?,
      run.stage = .starting
  | .saved index ok =>
    ∀ run ∈ s.runs[index]?, run.stage = .starting →
      if ok then run.execution.status ≠ .cancelled
      else index ∈ s.cancelled ∧
        ∀ job ∈ s.syncJobs.get? run.execution.jobId, job.writer ≠ some index
  | _ => True

instance [DecidableEq Data] (s : Service Data) (label : Label Data) :
    Decidable (Unfinished s label) := by
  cases label <;> dsimp only [Unfinished] <;> infer_instance

def RunOk (s : Service Data) (index : Nat) (run : SyncRun Data) : Prop :=
  match run.stage with
  | .starting =>
    run.execution.status = .running ∧ index ∉ s.cancelled ∨
      run.execution.status = .cancelled ∧ index ∉ s.activeExecutions
  | .syncing _ => run.execution.status = .running ∧ index ∉ s.cancelled
  | .finishing _ | .failing _ =>
    index ∉ s.cancelled ∧ NotLeft s.syncJobs index run.execution.jobId
  | .settled =>
    (index ∈ s.cancelled → run.execution.status = .cancelled) ∧ index ∉ s.activeExecutions ∧
      NotLeft s.syncJobs index run.execution.jobId

structure Sound (s : Service Data) : Prop where
  run : ∀ index run, s.runs[index]? = some run → RunOk s index run
  distinct : s.activeExecutions.Nodup
  active : ∀ index ∈ s.activeExecutions, index < s.runs.length
  cancelled : ∀ index ∈ s.cancelled, index < s.runs.length
  writes : ∀ write ∈ s.writes, write.2 = .running

variable {s t : Service Data} {i : Nat} {run old : SyncRun Data} {jobId : String}

lemma respected_of_sound (sn : Sound s) : Respected s := by
  refine ⟨fun i mem run hf => ?_, fun w mem => ?_, fun i run hf hse => ?_⟩
  · have ok := sn.run i run hf
    unfold RunOk at ok
    split at ok
    · rcases ok with ⟨-, hfr⟩ | ⟨hca, -⟩
      · exact absurd mem hfr
      · simp [hca]
    · exact absurd mem ok.2
    · exact absurd mem ok.1
    · exact absurd mem ok.1
    · simp [ok.1 mem]
  · simp [sn.writes w mem]
  · have ok := sn.run i run hf
    rw [RunOk, hse] at ok
    exact ok.2

lemma RunOk.mono (ok : RunOk s i run) (hac : i ∈ t.activeExecutions → i ∈ s.activeExecutions)
    (hca : i ∈ t.cancelled → i ∈ s.cancelled) (left : NotLeft s.syncJobs i run.execution.jobId →
      NotLeft t.syncJobs i run.execution.jobId) : RunOk t i run := by
  unfold RunOk at ok ⊢
  split at ok
  · rcases ok with ⟨st, hfr⟩ | ⟨st, hi⟩
    · exact .inl ⟨st, mt hca hfr⟩
    · exact .inr ⟨st, mt hac hi⟩
  · exact ⟨ok.1, mt hca ok.2⟩
  · exact ⟨mt hca ok.1, left ok.2⟩
  · exact ⟨mt hca ok.1, left ok.2⟩
  · exact ⟨fun mem => ok.1 (hca mem), mt hac ok.2.1, left ok.2.2⟩

variable {syncJobs : OrderedMap String Job} {new : SyncRun Data} {o : Outcome Data}

lemma notLeft_set (s : NotLeft syncJobs i jobId) {x : String} {job : Job}
    (hk : x = jobId → ¬ (job.status = .running ∧ job.writer = some i)) :
    NotLeft (syncJobs.set x job) i jobId := by
  intro f mem
  rw [mem_def, get?_set] at mem
  split at mem
  · rename_i hs
    cases mem
    exact hk hs
  · exact s f mem

lemma notLeft_erase (s : NotLeft syncJobs i jobId) (x : String) :
    NotLeft (syncJobs.erase x) i jobId := by
  intro f mem
  rw [mem_def, get?_erase] at mem
  split at mem
  · cases mem
  · exact s f mem

lemma notLeft_update (b : NotLeft s.syncJobs i jobId) (x : String) (us : JobUpdates)
    {w : Option Nat} (hne : w ≠ some i) : NotLeft (s.updateSyncJob x us w).syncJobs i jobId := by
  simp only [Service.updateSyncJob]
  split
  · exact b
  · rename_i job hf
    refine notLeft_set b fun hs => ?_
    subst hs
    rintro ⟨hr, hw⟩
    simp only [Job.updated] at hr hw
    split at hw
    · exact hne hw
    · rename_i none
      rw [not_isSome_iff_eq_none] at none
      rw [none] at hr
      exact b job hf ⟨hr, hw⟩

lemma notLeft_settle (s : Service Data) (i : Nat) (jobId : String) {st : JobStatus}
    (x : st ≠ .running) :
    NotLeft (s.updateSyncJob jobId (.ofStatus st) (some i)).syncJobs i jobId := by
  simp only [Service.updateSyncJob]
  split
  · rename_i hmi
    intro job mem
    rw [hmi] at mem
    cases mem
  · intro updated mem
    rw [mem_def, get?_set, if_pos rfl] at mem
    cases mem
    exact fun left => x left.1

section

variable (sn : Sound s)
include sn

lemma Sound.jobs (hr : t.runs = s.runs) (active : t.activeExecutions = s.activeExecutions)
    (cancelled : t.cancelled = s.cancelled) (writes : t.writes = s.writes)
    (left : ∀ i jobId, NotLeft s.syncJobs i jobId → NotLeft t.syncJobs i jobId) : Sound t where
  run i run hf := by
    rw [hr] at hf
    exact (sn.run i run hf).mono (active ▸ id) (cancelled ▸ id) (left _ _)
  distinct := active ▸ sn.distinct
  active := by
    rw [active, hr]
    exact sn.active
  cancelled := by
    rw [cancelled, hr]
    exact sn.cancelled
  writes := writes ▸ sn.writes

lemma Sound.set (hf : s.runs[i]? = some old) (hr : t.runs = s.runs.set i new)
    (hd : t.activeExecutions.Nodup) (hac : t.activeExecutions ⊆ s.activeExecutions)
    (hca : ∀ x ∈ t.cancelled, x = i ∨ x ∈ s.cancelled)
    (left : ∀ x jobId, x ≠ i → NotLeft s.syncJobs x jobId → NotLeft t.syncJobs x jobId)
    (ws : ∀ w ∈ t.writes, w.2 = .running) (ok : RunOk t i new) : Sound t := by
  obtain ⟨hin, -⟩ := List.getElem?_eq_some_iff.mp hf
  have hl : t.runs.length = s.runs.length := by rw [hr, length_set]
  refine ⟨fun x run ht => ?_, hd, fun x mem => ?_, fun x mem => ?_, ws⟩
  · rw [hr] at ht
    rcases TaskLists.getElem?_set_cases ht with ⟨rfl, rfl⟩ | ⟨hne, b⟩
    · exact ok
    · refine (sn.run x run b).mono (@hac x) (fun mem => ?_) (left x _ hne)
      exact (hca x mem).resolve_left hne
  · rw [hl]
    exact sn.active x (hac mem)
  · rw [hl]
    rcases hca x mem with rfl | old
    · exact hin
    · exact sn.cancelled x old

lemma Sound.execute (j : String) (os : ExecuteOptions) : Sound (s.executeSyncJob j os) := by
  simp only [Service.executeSyncJob]
  split
  · exact sn
  · split
    · exact sn
    · have ho : ∀ i, i < s.runs.length → i ≠ s.runs.length := fun _ => Nat.ne_of_lt
      refine ⟨fun i run ht => ?_, ?_, fun i mem => ?_, fun i mem => ?_, sn.writes⟩
      · rcases TaskLists.getElem?_append_cases ht with ⟨rfl, rfl⟩ | b
        · refine .inl ⟨rfl, fun mem => ?_⟩
          exact absurd (sn.cancelled _ mem) (lt_irrefl _)
        · obtain ⟨hin, -⟩ := List.getElem?_eq_some_iff.mp b
          refine (sn.run i run b).mono (fun mem => ?_) id fun left => ?_
          · rcases mem_append.mp mem with old | new
            · exact old
            · exact absurd (mem_singleton.mp new) (ho i hin)
          · refine notLeft_update left j _ fun w => ?_
            exact ho i hin (some.inj w).symm
      · refine nodup_append.mpr ⟨sn.distinct, nodup_singleton _, ?_⟩
        intro i mem x new
        rw [mem_singleton.mp new]
        exact ho i (sn.active i mem)
      · rw [length_append]
        rcases mem_append.mp mem with old | new
        · exact Nat.lt_add_right 1 (sn.active i old)
        · rw [mem_singleton.mp new]
          exact Nat.lt_add_one _
      · rw [length_append]
        exact Nat.lt_add_right 1 (sn.cancelled i mem)

lemma Sound.cancel (hs : ∀ run ∈ s.runs[i]?, i ∈ s.activeExecutions →
      run.execution.status = .running → run.stage = .starting) : Sound (s.cancelExecution i) := by
  rw [Service.cancelExecution]
  split
  · exact sn
  · rename_i run hf
    split
    · rename_i hr
      refine sn.set hf rfl (sn.distinct.erase i) erase_subset
        (fun x mem => ?_) (fun _ _ _ left => left) sn.writes ?_
      · rcases mem_append.mp mem with old | new
        · exact .inr old
        · exact .inl (mem_singleton.mp new)
      · have sg := hs run hf hr.1 hr.2
        unfold RunOk
        simp only [sg]
        exact .inr ⟨trivial, sn.distinct.not_mem_erase⟩
    · exact sn

lemma Sound.delete (ok : Unfinished s (.deleteSyncJob jobId)) : Sound (s.deleteSyncJob jobId) := by
  rw [Service.deleteSyncJob]
  split
  · exact sn
  · rename_i job hf
    split
    · exact sn.jobs rfl rfl rfl rfl fun i x left => notLeft_erase left jobId
    · rename_i i hac
      have hca : Sound (s.cancelExecution i) :=
        sn.cancel fun run ht _ _ => ok (by simp [hf]) i hac run ht
      exact hca.jobs rfl rfl rfl rfl fun _ _ left => left

lemma Sound.settle (hf : s.runs[i]? = some old) (hfr : i ∉ s.cancelled) (st : ExecutionStatus)
    {js : JobStatus} (x : js ≠ .running) {sg : Bool → Stage Data}
    (ha : sg = .finishing ∨ sg = .failing) : Sound (s.settle i run st js sg) := by
  have left := notLeft_settle s i run.execution.jobId x
  refine sn.set hf rfl sn.distinct (List.Subset.refl _) (fun _ mem => .inr mem)
    (fun x jobId hne b => ?_) sn.writes ?_
  · exact notLeft_update b _ _ fun hs => hne (some.inj hs).symm
  · rcases ha with rfl | rfl <;> exact ⟨hfr, left⟩

lemma Sound.finish (hf : s.runs[i]? = some run) (hfr : i ∉ s.cancelled)
    (left : NotLeft s.syncJobs i run.execution.jobId) : Sound (s.finished i run) := by
  refine sn.set hf rfl (sn.distinct.erase i) erase_subset
    (fun _ mem => .inr mem) (fun _ _ _ b => b) sn.writes ?_
  exact ⟨fun mem => absurd mem hfr, sn.distinct.not_mem_erase, left⟩

lemma Sound.stage (hf : s.runs[i]? = some old) (hr : t.runs = s.runs.set i new)
    (hj : t.syncJobs = s.syncJobs) (hac : t.activeExecutions = s.activeExecutions)
    (hca : t.cancelled = s.cancelled) (ws : ∀ w ∈ t.writes, w.2 = .running)
    (ok : RunOk t i new) : Sound t := by
  refine sn.set hf hr ?_ ?_ ?_ ?_ ws ok
  · rw [hac]
    exact sn.distinct
  · rw [hac]
    exact List.Subset.refl _
  · rw [hca]
    exact fun _ mem => .inr mem
  · rw [hj]
    exact fun _ _ _ b => b

lemma Sound.saved {ok : Bool} (hf : s.runs[i]? = some run) (ha : Unfinished s (.saved i ok))
    (hw : s.saved i run ok = some t) : Sound t := by
  have hkn := sn.run i run hf
  have hca := ha run hf
  unfold RunOk at hkn
  simp only [Service.saved] at hw
  split at hw
  · rename_i sg
    simp only [sg] at hkn
    have hca := hca sg
    cases hw
    cases ok with
    | true =>
      have hr : run.execution.status = .running ∧ i ∉ s.cancelled := by
        rcases hkn with hr | ⟨hc, -⟩
        · exact hr
        · exact absurd hc hca
      exact sn.stage hf rfl rfl rfl rfl sn.writes hr
    | false =>
      rcases hkn with ⟨-, hfr⟩ | ⟨hc, hi⟩
      · exact absurd hca.1 hfr
      · exact sn.stage hf rfl rfl rfl rfl sn.writes
          ⟨fun _ => hc, hi, fun job mem left => hca.2 job mem left.2⟩
  · rename_i sv sg
    simp only [sg] at hkn
    split at hw
    · cases hw
      exact sn.finish hf hkn.1 hkn.2
    · split at hw
      · cases hw
        exact sn.settle hf hkn.1 _ (by decide) (.inr rfl)
      · cases hw
  · rename_i sv sg
    simp only [sg] at hkn
    split at hw
    · cases hw
      exact sn.finish hf hkn.1 hkn.2
    · cases hw
  · cases hw

end

lemma advance_status {e e' : Execution} {p p' : Progress Data}
    (hw : advance e p o = some (e', p')) : e'.status = e.status := by
  unfold advance at hw
  split at hw
  -- the outcomes that the source goes on to test
  case h_3 | h_7 | h_9 => split at hw <;> cases hw <;> rfl
  all_goals cases hw <;> rfl

lemma Sound.progressed (sn : Sound s) (hf : s.runs[i]? = some run)
    (hw : s.progressed i run o = some t) : Sound t := by
  have hkn := sn.run i run hf
  unfold RunOk at hkn
  rw [Service.progressed] at hw
  split at hw
  · rename_i progress sg
    simp only [sg] at hkn
    obtain ⟨⟨e, progress'⟩, had, rfl⟩ := map_eq_some_iff.mp hw
    have st := advance_status had
    refine sn.stage hf rfl rfl rfl rfl (forall_mem_append.mpr ⟨sn.writes, ?_⟩)
      ⟨st.trans hkn.1, hkn.2⟩
    split
    · simp [hkn.1]
    · simp
  · cases hw

lemma Sound.performed (sn : Sound s)
    (hf : s.runs[i]? = some run) (hw : s.performed i run = some t) : Sound t := by
  have hkn := sn.run i run hf
  unfold RunOk at hkn
  rw [Service.performed] at hw
  split at hw
  · rename_i sg
    simp only [sg] at hkn
    cases hw
    exact sn.settle hf hkn.2 _ (by decide) (.inl rfl)
  · rename_i m sg
    simp only [sg] at hkn
    cases hw
    exact sn.settle hf hkn.2 _ (by decide) (.inr rfl)
  · cases hw

lemma sound_step {l : Label Data} (sn : Sound s)
    (ok : Unfinished s l) (hs : step s l = some t) : Sound t := by
  cases l with
  | createSyncJob jobId job =>
    cases hs
    refine sn.jobs rfl rfl rfl rfl fun i x left => notLeft_set left fun _ => ?_
    simp
  | updateSyncJob jobId us =>
    cases hs
    exact sn.jobs rfl rfl rfl rfl fun i x left => notLeft_update left jobId us (by simp)
  | deleteSyncJob jobId =>
    cases hs
    exact sn.delete ok
  | deletionGoesOn jobId =>
    simp only [step] at hs
    split at hs
    · cases hs
      exact sn.jobs rfl rfl rfl rfl fun i x left => notLeft_erase left jobId
    · cases hs
  | createSyncMapping mapping =>
    cases hs
    exact sn.jobs rfl rfl rfl rfl fun _ _ left => left
  | executeSyncJob jobId os =>
    cases hs
    exact sn.execute jobId os
  | cancelExecution i =>
    cases hs
    exact sn.cancel ok
  | saved i ack =>
    obtain ⟨run, hf, hw⟩ := bind_eq_some_iff.mp hs
    exact sn.saved hf ok hw
  | progressed i o =>
    obtain ⟨run, hf, hw⟩ := bind_eq_some_iff.mp hs
    exact sn.progressed hf hw
  | performed i =>
    obtain ⟨run, hf, hw⟩ := bind_eq_some_iff.mp hs
    exact sn.performed hf hw

lemma sound_of_loaded (hl : Loaded s) : Sound s := by
  obtain ⟨hr, hac, deletions, hca, ws⟩ := hl
  constructor
  · simp [hr]
  · simp [hac]
  · simp [hac]
  · simp [hca]
  · simp [ws]

theorem respected_of_unfinished {s t : Service Data} {labels : List (Label Data)}
    (loaded : Loaded s) (run : Run step Unfinished s labels t) : Respected t :=
  respected_of_sound (run.invariant Sound (fun _ _ _ sound ok => sound_step sound ok)
    (sound_of_loaded loaded))

def deals : Job where
  sourceSystem := "salesforce"
  targetSystem := "hubspot"
  entityTypes := ["deal"]
  syncMode := .full
  direction := .sourceToTarget
  status := .idle
  writer := none

def withDeals : Service Unit where
  syncJobs := OrderedMap.empty.set "job_1" deals
  syncMappings := [⟨"salesforce", "hubspot", "deal", 1⟩]
  runs := []
  activeExecutions := []
  deletions := []
  cancelled := []
  writes := []

lemma loaded_withDeals : Loaded withDeals := ⟨rfl, rfl, rfl, rfl, rfl⟩

def execute : Label Unit := .executeSyncJob "job_1" ⟨none, none⟩

/-- The calls of `performSync` where one record is fetched and written. -/
def oneRecord : List (Label Unit) :=
  [.progressed 0 (.fetched [⟨"salesforce_deal_0", ()⟩]), .progressed 0 (.changes true),
    .progressed 0 (.transformed ()), .progressed 0 (.conflicts []), .progressed 0 .written,
    .performed 0]

/-- An execution completes; the job is deleted while the next one awaits its first save. -/
def completedThenDeleted : List (Label Unit) :=
  execute :: .saved 0 true :: oneRecord ++
    [.saved 0 true, execute, .deleteSyncJob "job_1", .deletionGoesOn "job_1", .saved 1 false]

def statuses (s : Service Unit) : List (ExecutionStatus × Bool) :=
  s.runs.map fun run => (run.execution.status, decide (run.stage = .settled))

theorem completedThenDeleted_respected : ∃ t : Service Unit,
    Run step Unfinished withDeals completedThenDeleted t ∧
      statuses t = [(.completed, true), (.cancelled, true)] ∧ Respected t :=
  exists_run (by decide +kernel) fun _ run _ => respected_of_unfinished loaded_withDeals run

/-- The execution is cancelled before the record is written. -/
def cancelledInVain : List (Label Unit) :=
  [execute, .saved 0 true, .cancelExecution 0] ++ oneRecord

theorem cancelledInVain_completed :
    (∃ t : Service Unit, Run step Always withDeals cancelledInVain t ∧ t.cancelled = [0] ∧
      t.writes = [(0, .cancelled)] ∧ statuses t = [(.completed, false)]) ∧
    ∃ t : Service Unit, Run step Always withDeals [execute, .saved 0 false] t ∧
      statuses t = [(.running, true)] ∧ t.activeExecutions = [0] ∧
      (t.syncJobs.get? "job_1").map (fun job => (job.status, job.writer)) =
        some (.running, some 0) :=
  ⟨exists_run_seen (by decide +kernel), exists_run_seen (by decide +kernel)⟩

end SyncEngine
