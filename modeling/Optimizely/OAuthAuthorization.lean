import Optimizely.OAuthService
import Optimizely.TaskLists
import Optimizely.TransitionRuns

/-!
# The authorization flow

The custom parameters of a request are spread over those of the protocol, and may replace the state
or the redirect URI. A complete session is not looked at: every further or overlapping exchange with
its state issues another token.
-/

namespace OAuthService

open TransitionRuns FormUrlEncoding List TaskLists Service

/-- The first parameter of the name in the query is the value. -/
def Carries (url name value : String) : Prop :=
  ∃ params, searchParams url = some params ∧ OrderedMap.lookup name params = some value

structure FromSession (url : String) (session : Session) (provider : Provider) : Prop where
  state : Carries url "state" session.state
  clientId : Carries url "client_id" provider.clientId
  redirectUri : Carries url "redirect_uri" session.redirectUri

lemma lookup_ownEntries (o : OrderedMap String String) (name : String) :
    OrderedMap.lookup name (ownEntries o) = o.get? name := by
  refine OrderedMap.lookup_perm ?_ o.nodup name
  exact ((mergeSort_perm _ _).append_right _).trans (filter_append_perm _ _)

variable {provider : Provider} {ses : Session} {s t : Service} {c : Call} {i : Nat}
  {random : String} {d : String → String}

lemma carries_iff {n v : String}
    (hnq : '?' ∉ provider.authUrl.toList) (hn : '#' ∉ provider.authUrl.toList)
    (own : (ownParams provider ses).get? n = some v)
    (ps : OrderedMap String String) (cc : Option String) :
    Carries (authorizationUrl provider ses ps cc) n v ↔ ∀ x, ps.get? n = some x → x = v := by
  have hf : OrderedMap.lookup n (authorizationParams provider ses ps cc) =
      some ((ps.get? n).getD v) := by
    unfold authorizationParams
    rw [OrderedMap.lookup_append, lookup_ownEntries, OrderedMap.get?_spread, own]
    cases ps.get? n <;> rfl
  simp only [Carries, authorizationUrl, searchParams_serialize hnq hn,
    Option.some.injEq, exists_eq_left', hf]
  cases ps.get? n <;> simp

/-- The provider's address has neither a query nor a fragment, and the custom parameters replace
none of the three by something else. -/
@[mk_iff]
structure KeepsParams (provider : Provider) (state : String)
    (customParams : OrderedMap String String) : Prop where
  noQuery : '?' ∉ provider.authUrl.toList
  noFragment : '#' ∉ provider.authUrl.toList
  state : customParams.get? "state" ∈ [none, some state]
  clientId : customParams.get? "client_id" ∈ [none, some provider.clientId]
  redirectUri : customParams.get? "redirect_uri" ∈ [none, some provider.redirectUri]

instance (provider : Provider) (state : String) (customParams : OrderedMap String String) :
    Decidable (KeepsParams provider state customParams) :=
  decidable_of_iff' _ (keepsParams_iff provider state customParams)

lemma fromSession_of_keepsParams {ps : OrderedMap String String}
    (hke : KeepsParams provider ses.state ps)
    (hr : ses.redirectUri = provider.redirectUri) (cc : Option String) :
    FromSession (authorizationUrl provider ses ps cc) ses provider := by
  have hc : ∀ {n v : String}, (ownParams provider ses).get? n = some v →
      ps.get? n ∈ [none, some v] →
      Carries (authorizationUrl provider ses ps cc) n v := by
    intro n v own mem
    refine (carries_iff hke.noQuery hke.noFragment own ps cc).mpr ?_
    intro custom hf
    simpa [hf] using mem
  constructor
  · exact hc rfl hke.state
  · exact hc rfl hke.clientId
  · rw [hr]
    exact hc rfl hke.redirectUri

def Task.exchanges (sessionId : String) : Task → Bool
  | .exchange _ session _ => session.sessionId = sessionId
  | _ => false

/-- The call has stored a token for the session. -/
def Call.hasIssued (sessionId : String) (call : Call) : Bool :=
  call.task.exchanges sessionId && call.stage ≠ .requested

def issued (s : Service) (sessionId : String) : Nat := s.calls.countP (·.hasIssued sessionId)

/-- Custom parameters keep those of the protocol, and a session is exchanged only once. -/
def SingleUse (s : Service) : Label → Prop
  | .generateAuthorizationUrl request _ random _ =>
    ∀ provider ∈ s.providers.get? request.providerId,
      KeepsParams provider ((truthyText request.state).getD random) request.customParams
  | .exchangeCodeForToken exchange =>
    ∀ accepted ∈ s.acceptedSession exchange, ∀ call ∈ s.calls,
      call.task.exchanges accepted.1.sessionId = false
  | _ => True

instance (s : Service) (label : Label) : Decidable (SingleUse s label) := by
  cases label <;> dsimp only [SingleUse] <;> infer_instance

/-- What holds of an authorization from its start. -/
def Task.Authorized : Task → Prop
  | .authorize request provider session codeChallenge url =>
    KeepsParams provider session.state request.customParams ∧
      session.redirectUri = provider.redirectUri ∧
      ∀ returned ∈ url,
        returned = authorizationUrl provider session request.customParams codeChallenge
  | _ => True

structure Flow (s : Service) : Prop where
  authorized : ∀ call ∈ s.calls, call.task.Authorized
  single : ∀ sessionId, s.calls.countP (·.task.exchanges sessionId) ≤ 1

lemma Flow.of_calls (hf : Flow s) (hs : t.calls = s.calls) : Flow t :=
  ⟨hs ▸ hf.authorized, hs ▸ hf.single⟩

lemma Flow.begin (hf : Flow s) (hb : t.calls = s.calls ++ [c]) (ha : c.task.Authorized)
    (x : ∀ sid, c.task.exchanges sid = false) : Flow t := by
  constructor
  · rw [hb]
    exact forall_append hf.authorized ha
  · intro sid
    rw [hb, countP_append]
    simpa [x sid] using hf.single sid

lemma Flow.set {old new : Call} (hfl : Flow s)
    (hf : s.calls[i]? = some old) (hw : t.calls = s.calls.set i new)
    (ha : old.task.Authorized → new.task.Authorized)
    (hs : ∀ sid, new.task.exchanges sid = old.task.exchanges sid) : Flow t := by
  constructor
  · rw [hw]
    have hb := hfl.authorized old (mem_of_getElem? hf)
    exact forall_set hfl.authorized i (ha hb)
  · intro sid
    have hct := countP_set (fun c => c.task.exchanges sid) hf new
    rw [hw]
    simp only [hs sid] at hct
    have bound := hfl.single sid
    omega

lemma proceed_task {next : Call} {rr : String} (hw : s.proceed i c random rr = some (t, next)) :
    (c.task.Authorized → next.task.Authorized) ∧
      ∀ sid, next.task.exchanges sid = c.task.exchanges sid := by
  obtain ⟨ts, sg⟩ := c
  cases sg with
  | requested => cases ts <;> cases hw <;> exact ⟨id, fun _ => rfl⟩
  | commanded | resolved | rejected => cases ts <;> cases hw
  | answered b =>
    cases b with
    | false => cases ts <;> cases hw <;> exact ⟨id, fun _ => rfl⟩
    | true =>
      cases ts with
      | authorize r provider ses codeChallenge url =>
        cases hw
        refine ⟨fun ha => ⟨ha.1, ha.2.1, ?_⟩, fun _ => rfl⟩
        simp
      | exchange | refresh | revoke =>
        cases hw
        exact ⟨id, fun _ => rfl⟩
      | cleanupTokens remaining | cleanupSessions remaining =>
        cases remaining <;> cases hw <;> exact ⟨id, fun _ => rfl⟩

lemma flow_generate {r : AuthorizationRequest} {sid c : String} (hfl : Flow s)
    (ok : SingleUse s (.generateAuthorizationUrl r sid random c)) :
    Flow (s.generateAuthorizationUrl d r sid random c) := by
  rw [generateAuthorizationUrl]
  split
  · exact hfl
  · rename_i provider hf
    refine hfl.begin rfl ⟨ok provider hf, rfl, ?_⟩ (fun _ => rfl)
    simp

lemma flow_exchange {e : TokenExchange} (hf : Flow s)
    (ok : SingleUse s (.exchangeCodeForToken e)) : Flow (s.exchangeCodeForToken e) := by
  rw [exchangeCodeForToken]
  split
  · exact hf
  · rename_i ses provider hcc
    have hfr := ok (ses, provider) hcc
    refine ⟨forall_append hf.authorized trivial, fun sid => ?_⟩
    simp only [begin, countP_append, countP_singleton]
    by_cases hs : ses.sessionId = sid
    · subst hs
      have none : s.calls.countP (·.task.exchanges ses.sessionId) = 0 := by
        rw [countP_eq_zero]
        intro c mem
        simp [hfr c mem]
      split <;> omega
    · simpa [Task.exchanges, hs] using hf.single sid

lemma flow_step {l : Label} (hfl : Flow s)
    (ok : SingleUse s l) (hs : step d s l = some t) : Flow t := by
  cases l with
  | advance _ | setProvider _ _ =>
    cases hs
    exact hfl.of_calls rfl
  | generateAuthorizationUrl r sid random codeVerifier =>
    cases hs
    exact flow_generate hfl ok
  | exchangeCodeForToken exchange =>
    cases hs
    exact flow_exchange hfl ok
  | refreshToken r =>
    cases hs
    simp only [refreshToken]
    split
    · exact hfl
    · split
      · exact hfl
      · exact hfl.begin rfl trivial fun _ => rfl
  | revokeToken r =>
    cases hs
    rw [revokeToken]
    split
    · exact hfl
    · exact hfl.begin rfl trivial fun _ => rfl
  | cleanupExpiredTokens =>
    cases hs
    rw [cleanupExpiredTokens]
    cases s.expiredKeys <;> exact hfl.begin rfl trivial fun _ => rfl
  | cleanupExpiredSessions =>
    cases hs
    rw [cleanupExpiredSessions]
    cases s.expiredSessions <;> exact hfl.begin rfl trivial fun _ => rfl
  | execute ap b =>
    obtain ⟨i, cm, cs, -, rfl⟩ := step_execute hs
    rcases answer_calls (s.execute cm cs ap) i b with hsm | ⟨task, hf, hw⟩
    · exact hfl.of_calls (hsm.trans (calls_execute ..))
    · rw [calls_execute] at hf hw
      exact hfl.set hf hw id fun _ => rfl
  | resume i random refreshRandom =>
    obtain ⟨c, after, next, hf, hw, rfl⟩ := step_resume hs
    obtain ⟨ha, hsm⟩ := proceed_task hw
    exact hfl.set hf rfl ha hsm

def salesforce : Provider where
  type := "salesforce"
  authUrl := "https://login.salesforce.com/services/oauth2/authorize"
  scope := ["api", "refresh_token", "offline_access"]
  clientId := "sf_client_id"
  redirectUri := "https://api.optimizely.com/oauth/callback/salesforce"

/-- A service without mock tokens. -/
def fresh : Service where
  now := 0
  providers := OrderedMap.empty.set "salesforce" salesforce
  sessions := .empty
  tokens := .empty
  redis := fun _ => none
  commands := []
  calls := []
  revocations := .empty
  removals := []

lemma constructed_fresh : Constructed fresh where
  sessions := rfl
  tokens _ _ hf := by cases hf
  redis _ _ hf := by cases hf
  commands := rfl
  calls := rfl
  revocations := rfl
  removals := rfl

def requestWith (customParams : OrderedMap String String) : AuthorizationRequest where
  providerId := "salesforce"
  userId := "user9"
  scope := none
  state := none
  usePKCE := false
  customParams := customParams

def callback : TokenExchange := ⟨"code", "random", some "session_1"⟩

/-- A request, and the callback delivered as often as told. -/
def deliveries (customParams : OrderedMap String String) (exchanges : Nat) : List Label :=
  [.generateAuthorizationUrl (requestWith customParams) "session_1" "random" "verifier",
    .execute true true, .resume 0 "" ""] ++
    List.replicate exchanges (.exchangeCodeForToken callback) ++
    (List.range exchanges).map fun n => .resume (n + 1) "access" "refresh"

def prompted : OrderedMap String String := OrderedMap.empty.set "prompt" "login"

def ownState : OrderedMap String String := OrderedMap.empty.set "state" "mine"

end OAuthService
