import Optimizely.BrowserSession

/-!
# Sessions in two tabs

The tracker gives its storage the prefix `opt_<project>_` and tells the session manager that it is
`opt_<project>_session_`. The manager listens for the second, and everything is stored under the
first, so no tab hears of what another stores.
-/

namespace BrowserSession

open List

/-- The session manager that the tracker of a project makes. -/
structure Tab (projectId : String) where
  manager : Manager
  namePrefix : manager.namePrefix = "opt_" ++ projectId ++ "_"
  storagePrefix : manager.options.storagePrefix = "opt_" ++ projectId ++ "_session_"

/-- The keys under which a session manager stores. -/
def storedKeys : List String := ["session", "visitor", "fingerprint", "active_tabs", "heartbeat"]

lemma onStorage_of_project {p : String} (w reader : Tab p) {k : String}
    (hst : k ∈ storedKeys) (n : Option Stored) :
    reader.manager.onStorage ⟨w.manager.namePrefix ++ k, n⟩ = reader.manager := by
  rw [Manager.onStorage, if_neg]
  rintro ⟨-, he⟩
  simp only [w.namePrefix, reader.storagePrefix] at he
  have hp : ("opt_" ++ p).toList ++ ("_".toList ++ k.toList) =
      ("opt_" ++ p).toList ++ ("_".toList ++ "session_session".toList) := by
    have hl := congrArg String.toList he
    simp only [String.toList_append, append_assoc] at hl ⊢
    exact hl
  have hs : k = "session_session" :=
    String.toList_injective (append_cancel_left (append_cancel_left hp))
  rw [hs] at hst
  revert hst
  decide

/-- `_saveSession` in one tab, and the event that it causes in the others. -/
def Tab.savedEvent {projectId : String} (tab : Tab projectId) (session : VisitorSession) :
    StorageEvent :=
  ⟨tab.manager.namePrefix ++ "session", some (.session (.record session))⟩

/-- The current session is a complete session with the id of the new one. -/
def Agrees (m : Manager) (new : VisitorSession) : Prop :=
  ∃ session, m.currentSession = some (.record session) ∧ session.sessionId = new.sessionId

/-- Whatever two tabs of a project have done: when a tab has handled the event of a session that
another tab has stored, it has that session just if it had it before. -/
theorem agrees_after_event_iff {projectId : String} (writer reader : Tab projectId)
    (new : VisitorSession) :
    Agrees (reader.manager.onStorage (writer.savedEvent new)) new ↔ Agrees reader.manager new := by
  rw [Tab.savedEvent, onStorage_of_project writer reader (by decide)]

def tabOptions : SessionOptions :=
  ⟨30 * 60 * 1000, true, true, ⟨true, true, true, true, true, false⟩, true, "opt_shop_session_"⟩

def someSession (sessionId : String) : VisitorSession :=
  ⟨sessionId, "v_1", 0, 0, 0, "windows", "", "", "", ⟨"windows", "chrome", "1920x1080"⟩⟩

def tabWith (sessionId : String) : Tab "shop" where
  manager := ⟨"opt_shop_", tabOptions, some (.record (someSession sessionId))⟩
  namePrefix := rfl
  storagePrefix := rfl

/-- One tab stores a new session, and the other one keeps its own. -/
theorem tabs_disagree :
    (tabWith "s_old").manager.currentSession = some (.record (someSession "s_old")) ∧
      ¬ Agrees ((tabWith "s_old").manager.onStorage ((tabWith "s_new").savedEvent
        (someSession "s_new"))) (someSession "s_new") := by
  refine ⟨rfl, ?_⟩
  have kept : (tabWith "s_old").manager.onStorage ((tabWith "s_new").savedEvent
      (someSession "s_new")) = (tabWith "s_old").manager := by decide +kernel
  rintro ⟨session, hc, hs⟩
  cases hc
  revert hs
  decide

end BrowserSession
