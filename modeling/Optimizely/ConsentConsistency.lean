import Optimizely.GDPRCompliance
import Optimizely.TransitionRuns

/-!
# One permission in several places

`setConsent` and `withdrawConsent` change the flag of a category with that of its purpose,
`setCookieCategory` without.
-/

namespace GDPRCompliance

open TransitionRuns List Option OrderedMap Instance Purposes

/-- The purposes whose category a visitor may choose. -/
def covered : List Purpose := [.analytics, .marketing]

def Instance.isOptional (g : Instance) (purpose : Purpose) : Bool :=
  (g.category purpose.categoryId).any fun category => !category.required

/-- For an optional category, the two flags agree, and what was denied is not granted. -/
structure Agrees (g : Instance) (denied : List Purpose) (consent : GDPRConsent) : Prop where
  flags : ∀ purpose ∈ covered, g.isOptional purpose = true →
    (consent.purposes.get purpose = true ↔
      consent.categories.get? purpose.categoryId = some true)
  refused : ∀ purpose ∈ covered, g.isOptional purpose = true → purpose ∈ denied →
    consent.purposes.get purpose = false

/-- An instance with its storage. The purposes that were denied and not granted since are a
history. -/
structure Choices where
  gdpr : Instance
  store : Store
  denied : List Purpose

namespace Choices

def Sound (c : Choices) : Prop :=
  ∀ consent, c.gdpr.consent = some consent → Agrees c.gdpr c.denied consent

inductive Label where
  | init (doNotTrack : Bool) (now id : Nat)
  | setConsent (categories : OrderedMap String Bool) (now id : Nat)
  | withdrawConsent (category : Option String) (now : Nat)
  | setCookieCategory (id : String) (enabled : Bool)
  | renewConsent

/-- The purposes that a withdrawal denies. -/
def withdrawnPurposes (category : Option String) : List Purpose :=
  if category.getD "" = "" then covered else (purposeOf (category.getD "")).toList

/-- What a choice of a category denies, or no longer denies. -/
def deniedAfter (denied : List Purpose) (id : String) (enabled : Bool) : List Purpose :=
  if enabled then denied.filter fun purpose => purpose.categoryId ≠ id
  else (purposeOf id).toList ++ denied

def step (c : Choices) : Label → Option Choices
  | .init doNotTrack now id =>
    let after := c.gdpr.init c.store doNotTrack now id
    some ⟨after.1, after.2, c.denied⟩
  | .setConsent categories now id =>
    let given : PartialConsent := { categories := some categories }
    let after := c.gdpr.setConsent c.store given now id
    let granted := (c.gdpr.newConsent given now id).purposes
    some ⟨after.1, after.2, c.denied.filter fun purpose => !granted.get purpose⟩
  | .withdrawConsent category now =>
    let after := c.gdpr.withdrawConsent c.store category now
    some ⟨after.1, after.2, withdrawnPurposes category ++ c.denied⟩
  | .setCookieCategory id enabled =>
    let after := c.gdpr.setCookieCategory c.store id enabled
    some ⟨after.1, after.2, deniedAfter c.denied id enabled⟩
  | .renewConsent =>
    let after := c.gdpr.renewConsent c.store
    some ⟨after.1, after.2, c.denied⟩

/-- The condition on a step: a category is chosen only as its purpose has been already, and the
record that `init` finds agrees with itself and with what was denied. -/
def Careful (c : Choices) : Label → Prop
  | .init doNotTrack _ _ => c.gdpr.config.enabled = true → c.gdpr.initialized = false →
      doNotTrack = false → ∀ consent, c.store.get? "gdpr_consent" = some (.consent consent) →
        Agrees c.gdpr c.denied consent
  | .setCookieCategory id enabled => ∀ consent, c.gdpr.consent = some consent →
      ∀ purpose ∈ covered, purpose.categoryId = id → c.gdpr.isOptional purpose = true →
        consent.purposes.get purpose = enabled
  | _ => True

end Choices

lemma get_applyCategory (g : Instance) (ps : Purposes) (e : String × Bool)
    (pu : Purpose) : (g.applyCategory ps e).get pu = (ps.get pu ||
      ((g.category pu.categoryId).isSome && (e.1 = pu.categoryId && e.2))) := by
  obtain ⟨id, v⟩ := e
  rw [applyCategory]
  by_cases hh : id = pu.categoryId
  · have hn : purposeOf id = some pu := purposeOf_eq_some_iff.mpr hh
    cases hl : (g.category id).isSome <;> cases v <;> simp [hn, hl, ← hh]
  · have x : ∀ changed, purposeOf id = some changed → pu ≠ changed := by
      rintro changed hn rfl
      exact hh (purposeOf_eq_some_iff.mp hn)
    simp only [hh, decide_false, Bool.false_and, Bool.and_false, Bool.or_false]
    split
    · cases hn : purposeOf id with
      | none => rfl
      | some changed => simp [x changed hn]
    · rfl

lemma get_foldl_applyCategory (g : Instance) (es : List (String × Bool))
    (ps : Purposes) (pu : Purpose) : (es.foldl g.applyCategory ps).get pu = (ps.get pu ||
      ((g.category pu.categoryId).isSome && es.any fun e => e.1 = pu.categoryId && e.2)) := by
  induction es generalizing ps with
  | nil => simp
  | cons e es ih =>
    rw [foldl_cons, ih, get_applyCategory, any_cons, Bool.or_assoc, ← Bool.and_or_distrib_left]

variable {g : Instance} {dn : List Purpose} {consent cs : GDPRConsent}

lemma isSome_of_isOptional {pu : Purpose}
    (ho : g.isOptional pu = true) : (g.category pu.categoryId).isSome = true := by
  rw [isOptional] at ho
  cases hf : g.category pu.categoryId with
  | none =>
    rw [hf] at ho
    cases ho
  | some cat => rfl

lemma any_entries_iff (cs : OrderedMap String Bool) (id : String) :
    (cs.entries.any fun e => e.1 = id && e.2) = true ↔ cs.get? id = some true := by
  rw [List.any_eq_true]
  constructor
  · rintro ⟨⟨k, v⟩, mem, hs⟩
    simp only [Bool.and_eq_true, decide_eq_true_eq] at hs
    obtain ⟨rfl, rfl⟩ := hs
    exact cs.get?_of_mem mem
  · intro hf
    exact ⟨(id, true), cs.mem_of_get? hf, by simp⟩

lemma get_newConsent_iff {gv : PartialConsent} (now id : Nat)
    {pu : Purpose} (ho : g.isOptional pu = true)
    (hu : (gv.purposes.getD functionalOnly).get pu = false) :
    (g.newConsent gv now id).purposes.get pu = true ↔
      (g.newConsent gv now id).categories.get? pu.categoryId = some true := by
  simp only [newConsent]
  rw [get_foldl_applyCategory, isSome_of_isOptional ho, hu, Bool.false_or, Bool.true_and,
    any_entries_iff]

lemma agrees_newConsent {gv : PartialConsent}
    (now id : Nat) (hu : gv.purposes.getD functionalOnly = functionalOnly)
    (hr : ∀ p ∈ covered, g.isOptional p = true → p ∈ dn →
      (g.newConsent gv now id).purposes.get p = false) : Agrees g dn (g.newConsent gv now id) := by
  refine ⟨fun p _ ho => get_newConsent_iff now id ho ?_, hr⟩
  rw [hu]
  exact get_functionalOnly p

lemma agrees_withdrawn (cs : GDPRConsent) (now : Nat) : Agrees g dn (cs.withdrawn now) := by
  refine ⟨fun pu _ _ => ?_, fun pu _ _ _ => get_functionalOnly pu⟩
  rw [GDPRConsent.withdrawn, get?_filterMapValues, get_functionalOnly]
  cases cs.categories.get? pu.categoryId <;> simp

lemma get_without (cs : GDPRConsent) (cat : String) (pu : Purpose) :
    (cs.without cat).purposes.get pu =
      if cat = pu.categoryId then false else cs.purposes.get pu := by
  rw [GDPRConsent.without]
  by_cases hh : cat = pu.categoryId
  · rw [if_pos hh, purposeOf_eq_some_iff.mpr hh]
    simp
  · rw [if_neg hh]
    cases hn : purposeOf cat with
    | none => rfl
    | some changed =>
      have x : pu ≠ changed := by
        rintro rfl
        exact hh (purposeOf_eq_some_iff.mp hn)
      simp [x]

lemma agrees_without (hag : Agrees g dn cs) (cat : String) :
    Agrees g ((purposeOf cat).toList ++ dn) (cs.without cat) := by
  refine ⟨fun pu mem ho => ?_, fun pu mem ho hr => ?_⟩
  · rw [get_without, GDPRConsent.without, get?_set]
    by_cases hh : cat = pu.categoryId
    · simp [hh]
    · rw [if_neg hh, if_neg hh]
      exact hag.flags pu mem ho
  · rw [get_without]
    split
    · rfl
    · rename_i x
      rcases mem_append.mp hr with now | s
      · exact absurd (purposeOf_eq_some_iff.mp (mem_toList.mp now)) x
      · exact hag.refused pu mem ho s

lemma any_find?_setEnabled (id : String) (en : Bool) (cs : List CookieCategory) (x : String) :
    ((setEnabled id en cs).find? fun cat => cat.id = x).any (fun cat => !cat.required) =
      (cs.find? fun cat => cat.id = x).any fun cat => !cat.required := by
  induction cs with
  | nil => rfl
  | cons cat rest ih =>
    rw [setEnabled]
    split
    · by_cases hh : cat.id = x <;> simp [hh]
    · by_cases hh : cat.id = x
      · simp [hh]
      · simp [hh, ih]

lemma agrees_congr {new : Instance} (hs : ∀ pu, new.isOptional pu = g.isOptional pu) :
    Agrees new dn cs ↔ Agrees g dn cs := by
  constructor
  · rintro ⟨fs, hr⟩
    exact ⟨fun pu mem ho => fs pu mem ((hs pu).trans ho),
      fun pu mem ho => hr pu mem ((hs pu).trans ho)⟩
  · rintro ⟨fs, hr⟩
    exact ⟨fun pu mem ho => fs pu mem ((hs pu).symm.trans ho),
      fun pu mem ho => hr pu mem ((hs pu).symm.trans ho)⟩

lemma Agrees.transfer {new : Instance}
    (hag : Agrees g dn cs) (hs : new.cookieCategories = g.cookieCategories) : Agrees new dn cs := by
  refine (agrees_congr fun pu => ?_).mpr hag
  rw [isOptional, isOptional, category, category, hs]

lemma agrees_chosen_iff (ha : Agrees g dn consent) (id : String) (enabled : Bool) :
    Agrees g (Choices.deniedAfter dn id enabled)
        { consent with categories := consent.categories.set id enabled } ↔
      ∀ p ∈ covered, p.categoryId = id → g.isOptional p = true →
        consent.purposes.get p = enabled := by
  constructor
  · rintro ⟨fs, -⟩ p mem rfl ho
    have hf := fs p mem ho
    rw [get?_set, if_pos rfl, some.injEq] at hf
    exact Bool.eq_iff_iff.mpr hf
  · intro hc
    refine ⟨fun p mem ho => ?_, fun p mem ho hr => ?_⟩
    · rw [get?_set]
      by_cases hh : id = p.categoryId
      · rw [if_pos hh, some.injEq, hc p mem hh.symm ho]
      · rw [if_neg hh]
        exact ha.flags p mem ho
    · rw [Choices.deniedAfter] at hr
      cases enabled with
      | true =>
        exact ha.refused p mem ho (mem_filter.mp hr).1
      | false =>
        rcases mem_append.mp hr with now | s
        · exact hc p mem (purposeOf_eq_some_iff.mp (mem_toList.mp now)).symm ho
        · exact ha.refused p mem ho s

namespace Choices

lemma fst_setCookieCategory (g : Instance) (s : Store) (id : String) (en : Bool) :
    (g.setCookieCategory s id en).1 =
      if (g.category id).any (fun cat => !cat.required) then { g with
          cookieCategories := setEnabled id en g.cookieCategories
          consent := g.consent.map fun consent =>
            { consent with categories := consent.categories.set id en } }
      else g := by
  rw [setCookieCategory]
  cases g.category id with
  | none => rfl
  | some cat => cases hr : cat.required <;> simp [hr]

variable {c t : Choices}

lemma sound_setCookieCategory_iff {id : String} {e : Bool}
    (sn : c.Sound) (ht : c.step (.setCookieCategory id e) = some t) :
    t.Sound ↔ c.Careful (.setCookieCategory id e) := by
  cases ht
  rw [Sound, Careful]
  rw [fst_setCookieCategory]
  split
  · have hs : ∀ purpose, isOptional { c.gdpr with
        cookieCategories := setEnabled id e c.gdpr.cookieCategories
        consent := c.gdpr.consent.map fun consent =>
          { consent with categories := consent.categories.set id e } } purpose =
        c.gdpr.isOptional purpose :=
      fun purpose => any_find?_setEnabled id e _ _
    constructor
    · intro ha consent hh
      refine (agrees_chosen_iff (sn consent hh) id e).mp ?_
      refine (agrees_congr hs).mp (ha _ ?_)
      rw [hh]
      rfl
    · intro hc new hf
      obtain ⟨consent, hh, rfl⟩ := map_eq_some_iff.mp hf
      refine (agrees_congr hs).mpr ?_
      exact (agrees_chosen_iff (sn consent hh) id e).mpr (hc consent hh)
  · rename_i hfx
    have x : ∀ purpose, c.gdpr.isOptional purpose = true → purpose.categoryId ≠ id := by
      rintro purpose ho rfl
      exact hfx ho
    refine iff_of_true (fun consent hh => ?_) fun consent _ purpose _ hs ho => ?_
    · obtain ⟨fs, hr⟩ := sn consent hh
      refine ⟨fs, fun purpose mem ho dn => hr purpose mem ho ?_⟩
      rw [deniedAfter] at dn
      split at dn
      · exact (mem_filter.mp dn).1
      · rcases mem_append.mp dn with now | s
        · exact absurd (purposeOf_eq_some_iff.mp (mem_toList.mp now)).symm (x purpose ho)
        · exact s
    · exact absurd hs (x purpose ho)

lemma sound_init_iff {d : Bool} {now id : Nat} (s : c.Sound)
    (htk : c.step (.init d now id) = some t) : t.Sound ↔ c.Careful (.init d now id) := by
  cases htk
  by_cases hi : c.gdpr.config.enabled = false ∨ c.gdpr.initialized = true
  · rw [init_of_idle hi]
    refine iff_of_true s fun e hfr => ?_
    rw [e, hfr] at hi
    simp at hi
  · obtain ⟨e, hfr⟩ : c.gdpr.config.enabled = true ∧ c.gdpr.initialized = false := by
      simpa using hi
    cases d with
    | true =>
      rw [init_of_doNotTrack e hfr]
      refine iff_of_true ?_ fun _ _ ht => by cases ht
      rintro consent ⟨⟩
      refine Agrees.transfer (agrees_newConsent now id rfl fun p _ _ _ => ?_) rfl
      exact get_functionalOnly p
    | false =>
      obtain ⟨consent, cs⟩ := init_of_load e hfr c.store now id
      have hl : Sound ⟨(c.gdpr.init c.store false now id).1,
          (c.gdpr.init c.store false now id).2, c.denied⟩ ↔
          ∀ loaded, (c.gdpr.loadStoredConsent c.store).consent = some loaded →
            Agrees c.gdpr c.denied loaded := by
        rw [Sound, consent]
        exact forall₂_congr fun loaded _ =>
          ⟨fun ha => ha.transfer cs.symm, fun ha => ha.transfer cs⟩
      refine hl.trans ?_
      rw [Careful, loadStoredConsent]
      cases stored : c.store.get? "gdpr_consent" with
      | none => exact iff_of_true s fun _ _ _ _ hf => by cases hf
      | some tx =>
        cases tx with
        | consent kept =>
          refine ⟨fun ha _ _ _ loaded hf => ha loaded ?_,
            fun ha loaded hf => ha e hfr rfl loaded ?_⟩
          · cases hf
            rfl
          · cases hf
            rfl
        | null =>
          exact iff_of_true (fun _ hf => by cases hf) fun _ _ _ _ hf => by cases hf
        | unreadable => exact iff_of_true s fun _ _ _ _ hf => by cases hf

lemma sound_step_iff {l : Label} (s : c.Sound)
    (ht : c.step l = some t) : t.Sound ↔ c.Careful l := by
  cases l with
  | init doNotTrack now id => exact sound_init_iff s ht
  | setCookieCategory id enabled => exact sound_setCookieCategory_iff s ht
  | setConsent categories now id =>
    cases ht
    refine iff_true_intro ?_
    rintro consent ⟨⟩
    have ha : Agrees c.gdpr (c.denied.filter fun p =>
        !(c.gdpr.newConsent { categories := some categories } now id).purposes.get p)
        (c.gdpr.newConsent { categories := some categories } now id) :=
      agrees_newConsent now id rfl fun p _ _ hr => by
        simpa using (mem_filter.mp hr).2
    exact ha.transfer rfl
  | withdrawConsent category now =>
    cases ht
    refine iff_true_intro ?_
    intro consent hf
    cases hh : c.gdpr.consent with
    | none =>
      simp only [withdrawConsent, hh] at hf
      cases hf
    | some old =>
      simp only [withdrawConsent, hh] at hf ⊢
      cases hf
      refine Agrees.transfer (g := c.gdpr) ?_ rfl
      rw [withdrawnPurposes]
      split
      · exact agrees_withdrawn old now
      · exact agrees_without (s old hh) _
  | renewConsent =>
    cases ht
    refine iff_true_intro ?_
    intro consent hf
    cases hh : c.gdpr.consent with
    | none =>
      simp only [renewConsent, hh, showConsentBanner_eq] at hf
      cases hf
    | some old =>
      simp only [renewConsent, hh, showConsentBanner_eq] at hf ⊢
      cases hf
      obtain ⟨fs, hr⟩ := s old hh
      exact Agrees.transfer (g := c.gdpr) ⟨fs, hr⟩ (showConsentBanner_eq _).2

end Choices

/-- In the runs whose steps all meet the condition, and in no others, every record on the way grants
a purpose just if it grants the category, and grants none that was denied. -/
theorem sound_iff_careful (config : GDPRConfig) (store : Store) {t : Choices}
    {labels : List Choices.Label} :
    Run Choices.step (fun c _ => c.Sound) ⟨create config, store, []⟩ labels t ∧ t.Sound ↔
      Run Choices.step Choices.Careful ⟨create config, store, []⟩ labels t :=
  Run.throughout_iff (fun _ => True) Choices.Sound (fun _ _ _ _ _ _ => trivial)
    (fun _ _ _ _ sound taken => Choices.sound_step_iff sound taken) trivial
    (fun _ found => by cases found)

def standard : GDPRConfig := ⟨true, true, none⟩

def newVisitor : Choices := ⟨create standard, .empty, []⟩

def allowing : Choices.Label := .setConsent (OrderedMap.empty.set "analytics" true) 10 1

/-- Analytics are allowed and withdrawn. -/
theorem sound_iff_careful_withdrawing : ∃ t, Run Choices.step Choices.Careful newVisitor
      [.init false 0 0, allowing, .withdrawConsent (some "analytics") 20] t ∧
      t.denied = [.analytics] ∧ t.gdpr.consent.map (fun consent => consent.purposes.analytics) =
        some false ∧ t.Sound := by
  have hf : Choices.Careful newVisitor (.init false 0 0) := by
    rintro _ _ _ consent hf
    cases hf
  have run : Run Choices.step Choices.Careful newVisitor
      [.init false 0 0, allowing, .withdrawConsent (some "analytics") 20] _ :=
    .cons hf rfl (.cons trivial rfl (.cons trivial rfl (.nil _)))
  exact ⟨_, run, by decide +kernel, by decide +kernel,
    ((sound_iff_careful standard .empty).mpr run).2⟩

/-- Analytics are allowed, and their category is switched off. -/
theorem switchedOff_granted : ∃ t consent,
    Run Choices.step Always newVisitor [allowing, .setCookieCategory "analytics" false] t ∧
      t.gdpr.consent = some consent ∧ t.gdpr.isOptional .analytics = true ∧
      consent.categories.get? "analytics" = some false ∧ consent.purposes.analytics = true ∧
      ¬ t.Sound := by
  refine ⟨_, _, run_of_exec rfl, rfl, rfl, rfl, rfl, fun s => ?_⟩
  have ha := (s _ rfl).flags .analytics (by decide) rfl
  exact absurd (ha.mp rfl) (by decide)

end GDPRCompliance
