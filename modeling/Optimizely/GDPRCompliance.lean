import Optimizely.OrderedMap

/-!
# Consent

An instance keeps the visitor's consent in memory and in a storage, under one key. A permission has
a flag among the categories, one among the purposes, and the category is enabled or not.
-/

namespace GDPRCompliance

/-- The purposes that a category of the same name grants. -/
inductive Purpose where
  | analytics
  | marketing
  | advertising
  | personalization
  deriving DecidableEq

def Purpose.categoryId : Purpose → String
  | .analytics => "analytics"
  | .marketing => "marketing"
  | .advertising => "advertising"
  | .personalization => "personalization"

def purposeOf (categoryId : String) : Option Purpose :=
  if categoryId = "analytics" then some .analytics
  else if categoryId = "marketing" then some .marketing
  else if categoryId = "advertising" then some .advertising
  else if categoryId = "personalization" then some .personalization
  else none

lemma purposeOf_eq_some_iff {c : String} {pu : Purpose} :
    purposeOf c = some pu ↔ c = pu.categoryId := by
  constructor
  · intro hn
    simp only [purposeOf] at hn
    split at hn
    · cases hn
      assumption
    split at hn
    · cases hn
      assumption
    split at hn
    · cases hn
      assumption
    split at hn
    · cases hn
      assumption
    · cases hn
  · rintro rfl
    cases pu <;> decide

structure Purposes where
  analytics : Bool
  marketing : Bool
  functional : Bool
  advertising : Bool
  personalization : Bool
  deriving DecidableEq

namespace Purposes

def get (purposes : Purposes) : Purpose → Bool
  | .analytics => purposes.analytics
  | .marketing => purposes.marketing
  | .advertising => purposes.advertising
  | .personalization => purposes.personalization

def set (purposes : Purposes) (value : Bool) : Purpose → Purposes
  | .analytics => { purposes with analytics := value }
  | .marketing => { purposes with marketing := value }
  | .advertising => { purposes with advertising := value }
  | .personalization => { purposes with personalization := value }

def functionalOnly : Purposes := ⟨false, false, true, false, false⟩

@[simp] lemma get_set (ps : Purposes) (v : Bool) (c pu : Purpose) : (ps.set v c).get pu =
      if pu = c then v else ps.get pu := by
  cases c <;> cases pu <;> rfl

@[simp] lemma get_functionalOnly (pu : Purpose) : functionalOnly.get pu = false := by
  cases pu <;> rfl

end Purposes

inductive Method where
  | banner
  | settings
  | api
  | implied
  deriving DecidableEq

structure GDPRConsent where
  id : Nat
  hasConsent : Bool
  timestamp : Nat
  version : String
  method : Method
  categories : OrderedMap String Bool
  purposes : Purposes
  withdrawalDate : Option Nat
  renewalRequired : Option Bool

namespace GDPRConsent

/-- A consent of which one category is withdrawn. -/
def without (consent : GDPRConsent) (category : String) : GDPRConsent :=
  { consent with
    categories := consent.categories.set category false
    purposes := match purposeOf category with
      | some purpose => consent.purposes.set false purpose
      | none => consent.purposes }

def withdrawn (consent : GDPRConsent) (now : Nat) : GDPRConsent :=
  { consent with
    hasConsent := false
    withdrawalDate := some now
    categories := consent.categories.filterMapValues fun _ => some false
    purposes := Purposes.functionalOnly }

end GDPRConsent

/-- The fields of a consent that `setConsent` is given. -/
structure PartialConsent where
  id : Option Nat := none
  hasConsent : Option Bool := none
  timestamp : Option Nat := none
  version : Option String := none
  method : Option Method := none
  categories : Option (OrderedMap String Bool) := none
  purposes : Option Purposes := none
  withdrawalDate : Option Nat := none
  renewalRequired : Option Bool := none

structure CookieCategory where
  id : String
  required : Bool
  enabled : Bool
  deriving DecidableEq

def defaultCookieCategories : List CookieCategory :=
  [⟨"necessary", true, true⟩, ⟨"analytics", false, false⟩, ⟨"marketing", false, false⟩]

/-- The part of the configuration that is read here. -/
structure GDPRConfig where
  enabled : Bool
  bannerEnabled : Bool
  cookieCategories : Option (List CookieCategory)

/-- A text of the storage: a consent, the JSON text `null`, or no JSON text. -/
inductive Stored where
  | consent (consent : GDPRConsent)
  | null
  | unreadable

abbrev Store := OrderedMap String Stored

structure Instance where
  config : GDPRConfig
  consent : Option GDPRConsent
  cookieCategories : List CookieCategory
  bannerShown : Bool
  initialized : Bool

def create (config : GDPRConfig) : Instance where
  config := config
  consent := none
  cookieCategories := config.cookieCategories.getD defaultCookieCategories
  bannerShown := false
  initialized := false

namespace Instance

def storeConsent (g : Instance) (store : Store) : Store :=
  match g.consent with
  | some consent => store.set "gdpr_consent" (.consent consent)
  | none => store

def loadStoredConsent (g : Instance) (store : Store) : Instance :=
  match store.get? "gdpr_consent" with
  | some (.consent consent) => { g with consent := some consent }
  | some .null => { g with consent := none }
  | some .unreadable | none => g

def category (g : Instance) (id : String) : Option CookieCategory :=
  g.cookieCategories.find? fun category => category.id = id

/-- One category of `setConsent`. -/
def applyCategory (g : Instance) (purposes : Purposes) (entry : String × Bool) : Purposes :=
  if (g.category entry.1).isSome ∧ entry.2 = true then
    match purposeOf entry.1 with
    | some purpose => purposes.set true purpose
    | none => purposes
  else purposes

def newConsent (g : Instance) (given : PartialConsent) (now id : Nat) : GDPRConsent :=
  let categories := given.categories.getD .empty
  { id := given.id.getD id
    hasConsent := given.hasConsent.getD true
    timestamp := given.timestamp.getD now
    version := given.version.getD "1.0"
    method := given.method.getD .banner
    categories := categories
    purposes := categories.entries.foldl g.applyCategory
      (given.purposes.getD Purposes.functionalOnly)
    withdrawalDate := given.withdrawalDate
    renewalRequired := given.renewalRequired }

def setConsent (g : Instance) (store : Store) (given : PartialConsent) (now id : Nat) :
    Instance × Store :=
  let set := { g with consent := some (g.newConsent given now id), bannerShown := false }
  (set, set.storeConsent store)

/-- `withdrawConsent`, where the empty category is none. -/
def withdrawConsent (g : Instance) (store : Store) (category : Option String) (now : Nat) :
    Instance × Store :=
  match g.consent with
  | none => (g, store)
  | some consent =>
    let changed :=
      if category.getD "" = "" then consent.withdrawn now
      else consent.without (category.getD "")
    let withdrawn := { g with consent := some changed }
    (withdrawn, withdrawn.storeConsent store)

def showConsentBanner (g : Instance) : Instance :=
  if g.config.bannerEnabled then { g with bannerShown := true } else g

def renewConsent (g : Instance) (store : Store) : Instance × Store :=
  match g.consent with
  | none => (g.showConsentBanner, store)
  | some consent =>
    let renewed := { g with consent := some { consent with renewalRequired := some true } }
    (renewed.showConsentBanner, renewed.storeConsent store)

/-- The first category with the id is changed. -/
def setEnabled (id : String) (enabled : Bool) : List CookieCategory → List CookieCategory
  | [] => []
  | category :: rest =>
    if category.id = id then { category with enabled := enabled } :: rest
    else category :: setEnabled id enabled rest

def setCookieCategory (g : Instance) (store : Store) (id : String) (enabled : Bool) :
    Instance × Store :=
  match g.category id with
  | none => (g, store)
  | some category =>
    if category.required then (g, store)
    else
      let changed := { g with
        cookieCategories := setEnabled id enabled g.cookieCategories
        consent := g.consent.map fun consent =>
          { consent with categories := consent.categories.set id enabled } }
      (changed, changed.storeConsent store)

/-- `deleteUserData`, which returns that it has done so. -/
def deleteUserData (g : Instance) (store : Store) (visitorId : String) :
    (Instance × Store) × Bool :=
  let removed :=
    (store.erase ("gdpr_consent_" ++ visitorId)).erase ("visitor_session_" ++ visitorId)
  (({ g with consent := none }, removed), true)

def year : Nat := 365 * 24 * 60 * 60 * 1000

def isConsentExpired (consent : GDPRConsent) (now : Nat) : Bool := consent.timestamp + year < now

def hasValidConsent (g : Instance) (now : Nat) : Bool :=
  g.consent.any fun consent =>
    consent.hasConsent && consent.withdrawalDate.getD 0 == 0 && !isConsentExpired consent now

def handleDoNotTrack (g : Instance) (store : Store) (now id : Nat) : Instance × Store :=
  g.setConsent store
    { hasConsent := some false
      method := some .implied
      categories := some .empty
      purposes := some Purposes.functionalOnly } now id

def shouldShowBanner (g : Instance) (now : Nat) : Bool :=
  g.config.bannerEnabled &&
    !(g.hasValidConsent now && !(g.consent.any fun consent => consent.renewalRequired.getD false))

/-- `init`, where `doNotTrack` is the setting of the browser, which is always respected. -/
def init (g : Instance) (store : Store) (doNotTrack : Bool) (now id : Nat) : Instance × Store :=
  if ¬ g.config.enabled ∨ g.initialized then (g, store)
  else
    let loaded := g.loadStoredConsent store
    if doNotTrack then
      let handled := loaded.handleDoNotTrack store now id
      ({ handled.1 with initialized := true }, handled.2)
    else
      let shown := if loaded.shouldShowBanner now then loaded.showConsentBanner else loaded
      ({ shown with initialized := true }, store)

lemma showConsentBanner_eq (g : Instance) : g.showConsentBanner.consent = g.consent ∧
      g.showConsentBanner.cookieCategories = g.cookieCategories := by
  rw [showConsentBanner]
  split <;> exact ⟨rfl, rfl⟩

lemma cookieCategories_loadStoredConsent (g : Instance) (s : Store) :
    (g.loadStoredConsent s).cookieCategories = g.cookieCategories := by
  rw [loadStoredConsent]
  split <;> rfl

lemma init_of_idle {g : Instance} (hid : g.config.enabled = false ∨ g.initialized = true)
    (st : Store) (d : Bool) (now id : Nat) : g.init st d now id = (g, st) := by
  rw [init, if_pos]
  rcases hid with hds | hi
  · exact .inl (by simp [hds])
  · exact .inr hi

variable {g : Instance} (hen : g.config.enabled = true) (hfr : g.initialized = false)
  (s : Store) (now id : Nat)
include hen hfr

lemma init_of_doNotTrack : g.init s true now id =
      ({ ((g.loadStoredConsent s).handleDoNotTrack s now id).1 with initialized := true },
        ((g.loadStoredConsent s).handleDoNotTrack s now id).2) := by
  rw [init, if_neg (by simp [hen, hfr])]
  rfl

lemma init_of_load : (g.init s false now id).1.consent = (g.loadStoredConsent s).consent ∧
      (g.init s false now id).1.cookieCategories = g.cookieCategories := by
  obtain ⟨cs, ct⟩ := showConsentBanner_eq (g.loadStoredConsent s)
  have hl := cookieCategories_loadStoredConsent g s
  rw [init, if_neg (by simp [hen, hfr])]
  simp only [Bool.false_eq_true, if_false]
  split
  · exact ⟨cs, ct.trans hl⟩
  · exact ⟨rfl, hl⟩

end Instance

end GDPRCompliance
