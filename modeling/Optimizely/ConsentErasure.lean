import Optimizely.GDPRCompliance

/-!
# What a new instance finds

The consent is stored under one key for all visitors. `deleteUserData` removes the keys of the
visitor, and `withdrawConsent` stores only what the instance has in memory.
-/

namespace GDPRCompliance

open Option OrderedMap Instance

def Store.Holds (store : Store) (consent : GDPRConsent) : Prop :=
  store.get? "gdpr_consent" = some (.consent consent)

def GDPRConsent.isValid (consent : GDPRConsent) (now : Nat) : Bool :=
  consent.hasConsent && consent.withdrawalDate.getD 0 == 0 && !Instance.isConsentExpired consent now

def reopened (config : GDPRConfig) (store : Store) (doNotTrack : Bool) (now id : Nat) : Instance :=
  ((create config).init store doNotTrack now id).1

lemma reopened_of_disabled {c : GDPRConfig} (hds : c.enabled = false)
    (s : Store) (d : Bool) (now id : Nat) : reopened c s d now id = create c := by
  rw [reopened, init_of_idle (.inl hds)]

lemma consent_reopened_iff {c : GDPRConfig} (hen : c.enabled = true)
    (st : Store) (now id : Nat) (cs : GDPRConsent) :
    (reopened c st false now id).consent = some cs ↔ st.Holds cs := by
  rw [reopened, (init_of_load hen rfl st now id).1, loadStoredConsent, Store.Holds]
  cases st.get? "gdpr_consent" with
  | none => simp [create]
  | some t => cases t <;> simp [create]

lemma hasValidConsent_eq (g : Instance) (now : Nat) :
    g.hasValidConsent now = g.consent.any fun cs => cs.isValid now := rfl

lemma invalid_of_doNotTrack (c : GDPRConfig) (s : Store) (now id l : Nat) :
    (reopened c s true now id).hasValidConsent l = false := by
  cases hen : c.enabled with
  | false =>
    rw [reopened_of_disabled hen]
    rfl
  | true =>
    rw [reopened, init_of_doNotTrack hen rfl]
    rfl

lemma valid_reopened_iff {c : GDPRConfig} (hen : c.enabled = true) (st : Store)
    (now id l : Nat) : (reopened c st false now id).hasValidConsent l = true ↔
      ∃ cs, st.Holds cs ∧ cs.isValid l = true := by
  rw [hasValidConsent_eq, any_eq_true]
  exact exists_congr fun cs => and_congr_left fun _ => consent_reopened_iff hen st now id cs

lemma holds_deleteUserData_iff (g : Instance) (st : Store) (v : String) (cs : GDPRConsent) :
    Store.Holds (g.deleteUserData st v).1.2 cs ↔ st.Holds cs := by
  have hc : "gdpr_consent_" ++ v ≠ "gdpr_consent" := by
    intro hsm
    have hl := congrArg String.length hsm
    rw [String.length_append] at hl
    have hp : "gdpr_consent_".length = 13 ∧ "gdpr_consent".length = 12 := by decide
    omega
  have hs : "visitor_session_" ++ v ≠ "gdpr_consent" := by
    intro hsm
    have hl := congrArg String.length hsm
    rw [String.length_append] at hl
    have hp : "visitor_session_".length = 16 ∧ "gdpr_consent".length = 12 := by decide
    omega
  rw [Store.Holds, Store.Holds, deleteUserData]
  rw [get?_erase, get?_erase]
  rw [if_neg hs, if_neg hc]

lemma holds_withdrawConsent_iff (g : Instance) (st : Store) (now : Nat)
    (cs : GDPRConsent) : Store.Holds (g.withdrawConsent st none now).2 cs ↔
      match g.consent with
      | some old => cs = old.withdrawn now
      | none => st.Holds cs := by
  rw [withdrawConsent]
  cases g.consent with
  | none => exact Iff.rfl
  | some old =>
    dsimp only [Store.Holds, storeConsent, getD_none]
    rw [get?_set, if_pos rfl, if_pos rfl]
    simp [eq_comm]

/-- After `deleteUserData` a new instance finds no consent just if it is disabled or none is stored.
After `withdrawConsent` it reports no valid consent just if it is disabled or told not to track, or
the instance had the consent in memory, or the stored one is not valid. -/
theorem erased_and_withdrawn_iff (g : Instance) (store : Store) (visitorId : String)
    (config : GDPRConfig) (doNotTrack : Bool) (withdrawn now id later : Nat) :
    ((g.deleteUserData store visitorId).2 = true ∧
      ((reopened config (g.deleteUserData store visitorId).1.2 false now id).consent = none ↔
        config.enabled = false ∨ ∀ consent, ¬ store.Holds consent)) ∧
    ((reopened config (g.withdrawConsent store none withdrawn).2 doNotTrack now id).hasValidConsent
        later = false ↔ config.enabled = false ∨ doNotTrack = true ∨ g.consent ≠ none ∨
        ∀ consent, store.Holds consent → consent.isValid later = false) := by
  cases he : config.enabled with
  | false =>
    rw [reopened_of_disabled he, reopened_of_disabled he]
    exact ⟨⟨rfl, iff_of_true rfl (.inl rfl)⟩, iff_of_true rfl (.inl rfl)⟩
  | true =>
    have her := fun consent =>
      (consent_reopened_iff he (g.deleteUserData store visitorId).1.2 now id consent).trans
        (holds_deleteUserData_iff g store visitorId consent)
    refine ⟨⟨rfl, ?_⟩, ?_⟩
    · rw [eq_none_iff_forall_ne_some]
      simp only [ne_eq, her, Bool.true_eq_false, false_or]
    · simp only [Bool.true_eq_false, false_or]
      cases doNotTrack with
      | true => exact iff_of_true (invalid_of_doNotTrack config _ now id later) (.inl rfl)
      | false =>
        rw [← Bool.not_eq_true, valid_reopened_iff he]
        simp only [holds_withdrawConsent_iff, Bool.false_eq_true, false_or]
        cases inMemory : g.consent with
        | some old =>
          -- what is stored is the withdrawn record
          have hi : (old.withdrawn withdrawn).isValid later = false := rfl
          refine iff_of_true ?_ (.inl (by simp))
          rintro ⟨consent, rfl, hv⟩
          exact absurd hv (by simp [hi])
        | none => simp

def erasureConfig : GDPRConfig := ⟨true, false, none⟩

/-- An instance on an empty storage that is given the consent to analytics. -/
def consented : Instance × Store :=
  let opened := (create erasureConfig).init .empty false 0 0
  opened.1.setConsent opened.2
    { categories := some (OrderedMap.empty.set "analytics" true) } 0 1

/-- The data of the visitor is deleted, but the consent is found again. As it is no longer in
memory, it cannot be withdrawn either. -/
theorem deleted_consent_returns : let deleted := consented.1.deleteUserData consented.2 "visitor"
    let withdrawn := deleted.1.1.withdrawConsent deleted.1.2 none 1
    deleted.2 = true ∧ (reopened erasureConfig deleted.1.2 false 2 2).consent.isSome = true ∧
      (reopened erasureConfig withdrawn.2 false 2 2).hasValidConsent 2 = true := by
  decide

end GDPRCompliance
