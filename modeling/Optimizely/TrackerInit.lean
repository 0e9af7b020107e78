import Optimizely.TrackerQueue

/-!
# What `init` leaves undone

A module is initialised when it is registered, and only if the tracker is by then. The modules that
`init` registers come before that, so none is ever initialised. The first page view is tracked by a
callback; if the document is ready it runs at once, while page views are still ignored.
-/

namespace Tracker

open TransitionRuns List OrderedMap TaskLists Call

/-- What the page may expect once `init` has resolved. -/
structure Settled (s : State) : Prop where
  modules : ∀ module ∈ s.modules.values, s.inits.count module = 1
  pageView : s.document = .loaded → s.initialViews = 1

/-- A module with this name is registered and has not been initialised. -/
def Dormant (s : State) (name : String) : Prop :=
  ∃ module : Module, module.name = name ∧ s.modules.get? name = some module ∧ module ∉ s.inits

variable {s t : State} {i : Nat}

lemma Dormant.not_settled {n : String} (hdr : Dormant s n) : ¬ Settled s := by
  obtain ⟨m, -, hr, hu⟩ := hdr
  intro hs
  have hl : m ∈ s.modules.values := mem_map_of_mem (mem_of_get? hr)
  have ho := hs.modules m hl
  rw [count_eq_zero_of_not_mem hu] at ho
  omega

structure Invariant (s : State) : Prop where
  named : ∀ name module, s.modules.get? name = some module → module.name = name
  early : s.isInitialized = false → s.inits = []
  finished : .initialized ∈ s.calls → s.isInitialized = true
  connecting : .connecting ∈ s.calls → Dormant s "TechnologyDetector"
  initialized : s.isInitialized = true → Dormant s "TechnologyDetector"

/-- Modules are the same, and no call of `init` has moved. -/
structure Frame (s t : State) : Prop where
  isInitialized : t.isInitialized = s.isInitialized
  modules : t.modules = s.modules
  inits : t.inits = s.inits
  calls : ∀ call ∈ t.calls, call ∈ s.calls ∨ call ≠ .initialized ∧ call ≠ .connecting

namespace Frame

variable {s t r : State}

lemma trans (first : Frame s t) (hs : Frame t r) : Frame s r where
  isInitialized := hs.isInitialized.trans first.isInitialized
  modules := hs.modules.trans first.modules
  inits := hs.inits.trans first.inits
  calls c mem := (hs.calls c mem).elim (first.calls c) .inr

lemma dormant (hf : Frame s t) {name : String} (hdr : Dormant s name) : Dormant t name := by
  rw [Dormant, hf.modules, hf.inits]
  exact hdr

lemma invariant (hf : Frame s t) (inv : Invariant s) : Invariant t where
  named := hf.modules ▸ inv.named
  early fresh := hf.inits.trans (inv.early (hf.isInitialized.symm.trans fresh))
  finished mem := hf.isInitialized.trans
    (inv.finished ((hf.calls _ mem).resolve_right fun x => x.1 rfl))
  connecting mem := hf.dormant (inv.connecting ((hf.calls _ mem).resolve_right fun x => x.2 rfl))
  initialized done := hf.dormant (inv.initialized (hf.isInitialized.symm.trans done))

end Frame

lemma Queues.frame (hq : Queues s t) : Frame s t := by
  obtain ⟨events, eventQueue, batches, rfl⟩ := hq
  refine ⟨rfl, rfl, rfl, fun c mem => ?_⟩
  rcases mem_append.mp mem with old | new
  · exact .inl old
  · obtain ⟨batch, -, rfl⟩ := mem_map.mp new
    exact .inr ⟨by simp, by simp⟩

section

variable (s : State) (url : String) (now : Nat)

lemma frame_readyCallback : Frame s (s.readyCallback url now) := by
  obtain ⟨hi, hm, hin, cs⟩ := (queues_pageView s url now).frame
  exact ⟨hi, hm, hin, cs⟩

lemma frame_domReady : Frame s (s.domReady url now) := by
  rw [State.domReady]
  split
  · exact ⟨rfl, rfl, rfl, fun _ => .inl⟩
  · exact frame_readyCallback s url now

lemma frame_fireReady : Frame s (s.fireReady url now) := by
  have hl : Frame s { s with document := .loaded, readyCallbacks := 0 } :=
    ⟨rfl, rfl, rfl, fun _ => .inl⟩
  exact foldlRecOn _ _ hl fun t ht _ _ => ht.trans (frame_readyCallback t url now)

end

lemma dormant_use {name : String} (hdr : Dormant s name) (module : Module) :
    Dormant (s.use module) name := by
  rw [State.use]
  split
  · exact hdr
  · rename_i hf
    obtain ⟨m, hn, hr, hu⟩ := hdr
    have hne : module.name ≠ name := by
      intro hsm
      rw [hsm, hr] at hf
      cases hf
    refine ⟨m, hn, ?_, ?_⟩
    · simp only [get?_set, if_neg hne]
      exact hr
    · have x : m ≠ module := by
        rintro rfl
        exact hne hn
      split
      · simp [hu, x]
      · exact hu

lemma Invariant.dormant_use_self (inv : Invariant s)
    (hfr : s.isInitialized = false) (m : Module) : Dormant (s.use m) m.name := by
  have hu := inv.early hfr
  rw [State.use]
  split
  · rename_i hr hf
    exact ⟨hr, inv.named _ _ hf, hf, by simp [hu]⟩
  · exact ⟨m, rfl, by simp [get?_set], by simp [hfr, hu]⟩

lemma isInitialized_use (s : State) (m : Module) : (s.use m).isInitialized = s.isInitialized := by
  rw [State.use]
  split <;> rfl

lemma Invariant.use (inv : Invariant s) (m : Module) : Invariant (s.use m) where
  named := by
    intro n x hf
    rw [State.use] at hf
    split at hf
    · exact inv.named n x hf
    · simp only [get?_set] at hf
      split at hf
      · rename_i hs
        cases hf
        exact hs
      · exact inv.named n x hf
  early fresh := by
    rw [isInitialized_use] at fresh
    rw [State.use]
    split
    · exact inv.early fresh
    · simp [fresh, inv.early fresh]
  finished mem := by
    rw [calls_use] at mem
    rw [isInitialized_use]
    exact inv.finished mem
  connecting mem := by
    rw [calls_use] at mem
    exact dormant_use (inv.connecting mem) m
  initialized done := by
    rw [isInitialized_use] at done
    exact dormant_use (inv.initialized done) m

/-- The detector is registered before the tracker is initialised, if not long ago. -/
lemma Invariant.registerModules (inv : Invariant s) (i : Nat) : Invariant (s.registerModules i) ∧
      Dormant (s.registerModules i) "TechnologyDetector" := by
  refine ⟨((inv.use _).use _).use _, dormant_use ?_ _⟩
  cases hs : s.isInitialized with
  | true => exact dormant_use (dormant_use (inv.initialized hs) _) _
  | false => exact (inv.use _).dormant_use_self ((isInitialized_use s _).trans hs) _

lemma Invariant.finishInit (inv : Invariant s)
    (hdr : Dormant s "TechnologyDetector") (i : Nat) (url : String) (now : Nat) :
    Invariant (s.finishInit i url now) := by
  have hf := frame_domReady s url now
  have ha := hf.dormant hdr
  refine ⟨(hf.invariant inv).named, fun hfr => ?_, fun _ => rfl, fun _ => ha, fun _ => ha⟩
  cases hfr

lemma Invariant.connect (inv : Invariant s) (hdr : Dormant s "TechnologyDetector") (i : Nat) :
    Invariant { s with calls := s.calls.set i .connecting } where
  named := inv.named
  early := inv.early
  finished mem := inv.finished ((mem_or_eq_of_mem_set mem).resolve_right (by simp))
  connecting _ := hdr
  initialized := inv.initialized

lemma Invariant.continueInit (inv : Invariant s) (i : Nat) (url : String)
    (now : Nat) : Invariant (s.continueInit i url now) := by
  obtain ⟨hr, hdr⟩ := inv.registerModules i
  simp only [State.continueInit]
  split
  · split
    · have hu := hr.use (.webSocketManager i)
      have ha := dormant_use hdr (.webSocketManager i)
      split
      · exact hu.connect ha i
      · exact hu.finishInit ha i url now
    · exact hr.finishInit hdr i url now
  · exact hr.finishInit hdr i url now

lemma Invariant.init (inv : Invariant s) (g : GivenConfig) : Invariant (s.init g) := by
  simp only [State.init]
  split
  · rename_i done
    refine ⟨inv.named, inv.early, fun _ => done, fun mem => ?_, inv.initialized⟩
    exact inv.connecting (by simpa using mem)
  · split <;>
      · refine ⟨inv.named, inv.early, fun mem => ?_, fun mem => ?_, inv.initialized⟩
        · exact inv.finished (by simpa using mem)
        · exact inv.connecting (by simpa using mem)

lemma frame_set (s : State) {cl : Call} (x : cl ≠ .initialized ∧ cl ≠ .connecting) (q : List Nat) :
    Frame s { s with eventQueue := q, calls := s.calls.set i cl } := by
  refine ⟨rfl, rfl, rfl, fun c mem => ?_⟩
  rcases mem_or_eq_of_mem_set mem with old | rfl
  · exact .inl old
  · exact .inr x

lemma Invariant.step {l : Label} (inv : Invariant s) (hs : s.step l = some t) : Invariant t := by
  cases l with
  | use module =>
    simp only [State.step] at hs
    split at hs
    · cases hs
      exact inv.use _
    · cases hs
  | init g =>
    cases hs
    exact inv.init g
  | setConsent consent =>
    cases hs
    exact { inv with }
  | track e now =>
    cases hs
    exact (queues_track s e now).frame.invariant inv
  | pageView url now =>
    cases hs
    exact (queues_pageView s url now).frame.invariant inv
  | flush =>
    cases hs
    exact (queues_flush s).frame.invariant inv
  | resume i ok url now =>
    simp only [State.step] at hs
    split at hs
    · cases hs
      exact inv.continueInit i url now
    · rename_i hf
      cases hs
      exact inv.finishInit (inv.connecting (mem_of_getElem? hf)) i url now
    · cases hs
      split
      · exact (frame_set s (by simp) s.eventQueue).invariant inv
      · exact (frame_set s (by simp) _).invariant inv
    · cases hs
  | interactive =>
    simp only [State.step] at hs
    split at hs
    · cases hs
      exact { inv with }
    · cases hs
  | contentLoaded url now =>
    simp only [State.step] at hs
    split at hs
    · cases hs
      exact (frame_fireReady s url now).invariant inv
    · cases hs

lemma invariant_constructed (s : OrderedMap String ConsentData) (d : ReadyState) :
    Invariant (constructed s d) where
  named := by simp [constructed, get?, empty, OrderedMap.lookup]
  early _ := rfl
  finished := by simp [constructed]
  connecting := by simp [constructed]
  initialized := by simp [constructed]

/-- Whatever the page registers and when, and whatever the document does: the detector that `init`
has registered is not initialised. -/
theorem not_settled_of_initialized {storage : OrderedMap String ConsentData}
    {document : ReadyState} {labels : List Label} {s : State}
    (run : Run State.step Always (constructed storage document) labels s)
    (initialized : .initialized ∈ s.calls) : ¬ Settled s := by
  have inv := run.invariant Invariant (fun _ _ _ inv _ => inv.step)
    (invariant_constructed storage document)
  exact (inv.initialized (inv.finished initialized)).not_settled

def Call.isPending : Call → Bool
  | .initializingSession => true
  | .connecting => true
  | _ => false

/-- `init` is not called while another call of it is under way. -/
def OneInit (s : State) : Label → Prop
  | .init _ => s.calls.countP Call.isPending = 0
  | _ => True

/-- In a document that is ready, no page view waits and none has been tracked by `init`. -/
structure Silent (s : State) : Prop where
  document : s.document ≠ .loading
  readyCallbacks : s.readyCallbacks = 0
  initialViews : s.initialViews = 0
  pending : s.calls.countP Call.isPending + (if s.isInitialized then 1 else 0) ≤ 1

/-- Nothing that matters for the first page view has changed. -/
structure Still (s t : State) : Prop where
  document : t.document = s.document
  readyCallbacks : t.readyCallbacks = s.readyCallbacks
  initialViews : t.initialViews = s.initialViews
  isInitialized : t.isInitialized = s.isInitialized
  pending : t.calls.countP Call.isPending = s.calls.countP Call.isPending

lemma Still.silent (hst : Still s t) (hs : Silent s) : Silent t where
  document := hst.document ▸ hs.document
  readyCallbacks := hst.readyCallbacks.trans hs.readyCallbacks
  initialViews := hst.initialViews.trans hs.initialViews
  pending := by
    rw [hst.pending, hst.isInitialized]
    exact hs.pending

lemma Queues.still (hq : Queues s t) : Still s t := by
  obtain ⟨events, eventQueue, b, rfl⟩ := hq
  have hi : (b.map sending).countP isPending = 0 := by
    rw [countP_eq_zero]
    intro c mem
    obtain ⟨batch, -, rfl⟩ := mem_map.mp mem
    exact Bool.false_ne_true
  exact ⟨rfl, rfl, rfl, rfl, by rw [countP_append, hi, Nat.add_zero]⟩

lemma still_use (s : State) (m : Module) : Still s (s.use m) := by
  rw [State.use]
  split <;> exact ⟨rfl, rfl, rfl, rfl, rfl⟩

/-- The callback runs before the tracker counts as initialised. -/
lemma Silent.finishInit (hs : Silent s) {c : Call}
    (hf : s.calls[i]? = some c) (pending : c.isPending = true) (url : String)
    (now : Nat) : Silent (s.finishInit i url now) := by
  have positive : 0 < s.calls.countP isPending :=
    countP_pos_iff.mpr ⟨c, mem_of_getElem? hf, pending⟩
  have hfr : s.isInitialized = false := by
    by_contra done
    have hb := hs.pending
    rw [Bool.not_eq_false] at done
    rw [done, if_pos rfl] at hb
    omega
  have hi : s.domReady url now = s := by
    have hu : s.isTracking = false := by simp [State.isTracking, hfr]
    simp [State.domReady, hs.document, State.readyCallback, State.pageView, hu]
  have left := countP_set isPending hf .initialized
  have hb := hs.pending
  rw [pending, if_pos rfl] at left
  simp only [isPending, Bool.false_eq_true, if_false] at left
  simp only [State.finishInit, hi]
  refine { hs with pending := ?_ }
  simp only [if_true]
  omega

lemma Silent.connect (hs : Silent s) (hf : s.calls[i]? = some .initializingSession) :
    Silent { s with calls := s.calls.set i .connecting } := by
  have hsm := countP_set isPending hf .connecting
  simp only [isPending, if_true, Nat.add_right_cancel_iff] at hsm
  refine { hs with pending := ?_ }
  rw [hsm]
  exact hs.pending

lemma Silent.continueInit (hs : Silent s)
    (hf : s.calls[i]? = some .initializingSession) (url : String) (now : Nat) :
    Silent (s.continueInit i url now) := by
  have hr : Silent (s.registerModules i) :=
    (still_use _ _).silent ((still_use _ _).silent ((still_use _ _).silent hs))
  have hk : (s.registerModules i).calls[i]? = some .initializingSession := by
    rw [calls_registerModules, hf]
  simp only [State.continueInit]
  split
  · split
    · have hu := (still_use _ (.webSocketManager i)).silent hr
      rw [← calls_use _ (.webSocketManager i)] at hk
      split
      · exact hu.connect hk
      · exact hu.finishInit hk rfl url now
    · exact hr.finishInit hk rfl url now
  · exact hr.finishInit hk rfl url now

lemma Silent.init (hs : Silent s) (g : GivenConfig)
    (hsn : s.calls.countP isPending = 0) : Silent (s.init g) := by
  have hc : ∀ c : Call, (s.calls ++ [c]).countP isPending =
      if c.isPending then 1 else 0 := by
    intro c
    rw [countP_append, hsn, countP_singleton, Nat.zero_add]
  simp only [State.init]
  split
  · rename_i done
    refine { hs with pending := ?_ }
    simp only [hc, done]
    decide
  · rename_i hf
    split <;>
      · refine { hs with pending := ?_ }
        simp only [hc, hf]
        decide

lemma Silent.step {l : Label} (hsl : Silent s) (hsn : OneInit s l)
    (hs : s.step l = some t) : Silent t := by
  cases l with
  | use module =>
    simp only [State.step] at hs
    split at hs
    · cases hs
      exact (still_use s _).silent hsl
    · cases hs
  | init g =>
    cases hs
    exact hsl.init g hsn
  | setConsent consent =>
    cases hs
    exact { hsl with }
  | track e now =>
    cases hs
    exact (queues_track s e now).still.silent hsl
  | pageView url now =>
    cases hs
    exact (queues_pageView s url now).still.silent hsl
  | flush =>
    cases hs
    exact (queues_flush s).still.silent hsl
  | resume i ok url now =>
    simp only [State.step] at hs
    split at hs
    · rename_i hf
      cases hs
      exact hsl.continueInit hf url now
    · rename_i hf
      cases hs
      exact hsl.finishInit hf rfl url now
    · rename_i es hf
      have he : ∀ (c : Call) (q : List Nat), c.isPending = false →
          Still s { s with eventQueue := q, calls := s.calls.set i c } := by
        intro c q hi
        have hsm := countP_set isPending hf c
        rw [hi, show isPending (.sending es) = false from rfl] at hsm
        exact ⟨rfl, rfl, rfl, rfl, hsm⟩
      cases hs
      split
      · exact (he (.sent es) s.eventQueue rfl).silent hsl
      · exact (he .failed _ rfl).silent hsl
    · cases hs
  | interactive =>
    simp only [State.step, if_neg hsl.document] at hs
    cases hs
  | contentLoaded url now =>
    simp only [State.step] at hs
    split at hs
    · cases hs
      simp only [State.fireReady, hsl.readyCallbacks, range_zero, foldl_nil]
      exact ⟨by simp, rfl, hsl.initialViews, hsl.pending⟩
    · cases hs

/-- In a document that is ready, `init` tracks no page view. -/
lemma initialViews_eq_zero {st : OrderedMap String ConsentData} {d : ReadyState}
    (hr : d ≠ .loading) {ls : List Label} (run : Run State.step OneInit (constructed st d) ls s) :
    s.initialViews = 0 := by
  have hst : Silent (constructed st d) := ⟨hr, rfl, rfl, by simp [constructed]⟩
  exact (run.invariant Silent (fun _ _ _ hs hsn => hs.step hsn) hst).initialViews

/-- Otherwise its callback does, once the tracker is initialised. -/
lemma initialViews_fireReady (ht : s.isTracking = true)
    (hw : s.readyCallbacks = 1) (url : String) (now : Nat) :
    (s.fireReady url now).initialViews = s.initialViews + 1 := by
  have hs : State.isTracking { s with document := .loaded, readyCallbacks := 0 } = true := ht
  simp [State.fireReady, hw, State.readyCallback, hs, range_succ]

/-- The page registers a module before `init`, one while it awaits the session, and one after it. -/
def registerThroughout : List Label :=
  [.use (.page "GDPRCompliance" 0), .init ⟨"/api", "shop", none, none, none⟩,
    .use (.page "heatmap" 1), .resume 0 true "/" 1, .use (.page "chat" 2)]

theorem registerThroughout_not_settled : ∃ s,
    Run State.step Always (constructed consented .loaded) registerThroughout s ∧
      .initialized ∈ s.calls ∧ ¬ Settled s :=
  exists_run (by decide +kernel) fun _ run => not_settled_of_initialized run

theorem registerThroughout_initialises_one : ∃ s,
    Run State.step Always (constructed consented .loaded) registerThroughout s ∧
      (s.calls = [.initialized] ∧ s.hasConsent = true) ∧
      (s.modules.keys = ["GDPRCompliance", "heatmap", "behavioral", "TechnologyDetector",
        "PerformanceOptimizer", "chat"] ∧ s.inits = [.page "chat" 2]) ∧
      (s.document = .loaded ∧ s.initialViews = 0) ∧ ¬ Settled s := by
  refine exists_run₃ (by decide +kernel) fun s _ _ _ ⟨document, views⟩ settled => ?_
  have one := settled.pageView document
  omega

end Tracker
