import Optimizely.ExpiringKeys
import Optimizely.JsValue
import Optimizely.OrderedMap
import Optimizely.PercentEncoding

/-!
# OAuth sessions and tokens

The authorization flow and the tokens of `OAuthService`, split at the awaits: a call waits for the
simulated answer of the provider, or for Redis. Commands reach Redis in the order of issue.
-/

namespace OAuthService

/-- A provider, with the fields that the methods read. -/
structure Provider where
  type : String
  authUrl : String
  scope : List String
  clientId : String
  redirectUri : String
  deriving DecidableEq

structure Token where
  accessToken : String
  refreshToken : Option String
  expiresAt : Nat
  scope : List String
  deriving DecidableEq

structure Session where
  sessionId : String
  providerId : String
  userId : String
  state : String
  redirectUri : String
  scope : List String
  expiresAt : Nat
  isComplete : Bool
  deriving DecidableEq

structure AuthorizationRequest where
  providerId : String
  userId : String
  scope : Option (List String)
  state : Option String
  usePKCE : Bool
  customParams : OrderedMap String String

structure TokenExchange where
  code : String
  state : String
  sessionId : Option String

structure RefreshRequest where
  providerId : String
  userId : String
  refreshToken : Option String

structure RevocationRequest where
  providerId : String
  userId : String
  token : String

def tokenKey (providerId userId : String) : String := providerId ++ ":" ++ userId

/-- A name that is an index of an array. -/
def isArrayIndex (name : String) : Bool :=
  name.toNat?.any fun n => toString n = name && n < 4294967295

/-- The properties of an object in their order: indices first. -/
def ownEntries (object : OrderedMap String String) : List (String × String) :=
  (object.entries.filter fun entry => isArrayIndex entry.1).mergeSort
      (fun a b => a.1.toNat?.getD 0 ≤ b.1.toNat?.getD 0) ++
    object.entries.filter fun entry => !isArrayIndex entry.1

/-- What the URL is built from, before the properties of `customParams`. -/
def ownParams (provider : Provider) (session : Session) : OrderedMap String String :=
  ((((OrderedMap.empty.set "response_type" "code").set "client_id" provider.clientId).set
    "redirect_uri" provider.redirectUri).set "scope" (" ".intercalate session.scope)).set
    "state" session.state

def authorizationParams (provider : Provider) (session : Session)
    (customParams : OrderedMap String String) (codeChallenge : Option String) :
    List (String × String) :=
  ownEntries ((ownParams provider session).spread customParams) ++
    match codeChallenge with
    | none => []
    | some challenge => [("code_challenge", challenge), ("code_challenge_method", "S256")]

def authorizationUrl (provider : Provider) (session : Session)
    (customParams : OrderedMap String String) (codeChallenge : Option String) : String :=
  provider.authUrl ++ "?" ++
    FormUrlEncoding.serialize (authorizationParams provider session customParams codeChallenge)

inductive Remover where
  | revokeToken
  | cleanupExpiredTokens
  deriving DecidableEq

/-- Redis commands. Sessions are also saved and deleted there, which nothing reads. -/
inductive Command where
  | setex (key : String) (token : Token)
  | del (key : String) (remover : Remover)
  | session
  deriving DecidableEq

/-- What a call has captured. `url` is what `generateAuthorizationUrl` returned, `existing` the
token that `refreshToken` found, and `remaining` the keys that a cleanup has yet to delete. -/
inductive Task where
  | authorize (request : AuthorizationRequest) (provider : Provider) (session : Session)
      (codeChallenge : Option String) (url : Option String)
  | exchange (exchange : TokenExchange) (session : Session) (provider : Provider)
  | refresh (key : String) (provider : Provider) (refreshToken : String) (existing : Option Token)
  | revoke (key : String)
  | cleanupTokens (remaining : List String)
  | cleanupSessions (remaining : List String)

inductive Stage where
  /-- The call awaits the provider. -/
  | requested
  /-- The call awaits the reply to a Redis command. -/
  | commanded
  | answered (acknowledged : Bool)
  | resolved
  | rejected
  deriving DecidableEq

structure Call where
  task : Task
  stage : Stage

/-- `redis` are the keys `oauth:token:*`. The last two fields are histories: for each revoked key
the number of calls started when the revocation completed, until one started later stores a token;
and the tokens that cleanups have removed, with the time. -/
structure Service where
  now : Nat
  providers : OrderedMap String Provider
  sessions : OrderedMap String Session
  tokens : OrderedMap String Token
  redis : ExpiringKeys String Token
  commands : List (Nat × Command)
  calls : List Call
  revocations : OrderedMap String Nat
  removals : List (Token × Nat)

namespace Service

def begin (s : Service) (task : Task) (stage : Stage) : Service :=
  { s with calls := s.calls ++ [⟨task, stage⟩] }

def issue (s : Service) (index : Nat) (command : Command) : Service :=
  { s with commands := s.commands ++ [(index, command)] }

/-- The call begins. `sessionId`, `random` and `codeVerifier` are random; the digest is the SHA-256
hash. An unknown provider is an error. -/
def generateAuthorizationUrl (digest : String → String) (s : Service)
    (request : AuthorizationRequest) (sessionId random codeVerifier : String) : Service :=
  match s.providers.get? request.providerId with
  | none => s
  | some provider =>
    let session : Session :=
      { sessionId := sessionId
        providerId := request.providerId
        userId := request.userId
        state := (truthyText request.state).getD random
        redirectUri := provider.redirectUri
        scope := request.scope.getD provider.scope
        expiresAt := s.now + 10 * 60 * 1000
        isComplete := false }
    let codeChallenge := if request.usePKCE then some (digest codeVerifier) else none
    { (s.issue s.calls.length .session).begin
        (.authorize request provider session codeChallenge none) .commanded with
      sessions := s.sessions.set sessionId session }

/-- The checks of `exchangeCodeForToken`. -/
def acceptedSession (s : Service) (exchange : TokenExchange) : Option (Session × Provider) :=
  match s.sessions.get? (exchange.sessionId.getD "") with
  | none => none
  | some session =>
    if exchange.state ≠ session.state then none
    else if session.expiresAt < s.now then none
    else (s.providers.get? session.providerId).map (session, ·)

def exchangeCodeForToken (s : Service) (exchange : TokenExchange) : Service :=
  match s.acceptedSession exchange with
  | none => s
  | some (session, provider) => s.begin (.exchange exchange session provider) .requested

def refreshToken (s : Service) (request : RefreshRequest) : Service :=
  let key := tokenKey request.providerId request.userId
  let existing := s.tokens.get? key
  match (truthyText request.refreshToken).or (truthyText (existing.bind (·.refreshToken))) with
  | none => s
  | some refreshToken =>
    match s.providers.get? request.providerId with
    | none => s
    | some provider => s.begin (.refresh key provider refreshToken existing) .requested

def revokeToken (s : Service) (request : RevocationRequest) : Service :=
  match s.providers.get? request.providerId with
  | none => s
  | some _ => s.begin (.revoke (tokenKey request.providerId request.userId)) .requested

inductive ValidationResult where
  | valid (token : Token)
  | notFound
  | mismatch
  | expired (needsRefresh : Bool)
  deriving DecidableEq

def validateToken (s : Service) (providerId userId : String) (accessToken : Option String) :
    ValidationResult :=
  match s.tokens.get? (tokenKey providerId userId) with
  | none => .notFound
  | some token =>
    if (truthyText accessToken).any (· ≠ token.accessToken) then .mismatch
    else if token.expiresAt < s.now then .expired (truthyText token.refreshToken).isSome
    else .valid token

/-- A new token is put into the map and its `SETEX` issued. -/
def store (s : Service) (index : Nat) (key : String) (token : Token) : Service :=
  { s.issue index (.setex key token) with
    tokens := s.tokens.set key token
    revocations :=
      if (s.revocations.get? key).all (· ≤ index) then s.revocations.erase key
      else s.revocations }

/-- The token is deleted from the map and its `DEL` issued. -/
def remove (s : Service) (index : Nat) (key : String) (remover : Remover) : Service :=
  { s.issue index (.del key remover) with
    tokens := s.tokens.erase key
    removals := s.removals ++
      if remover = .cleanupExpiredTokens then (s.tokens.get? key).toList.map (·, s.now) else [] }

/-- The loop of `cleanupExpiredTokens`, up to its next await. -/
def sweepTokens (s : Service) (index : Nat) : List String → Service × Call
  | [] => (s, ⟨.cleanupTokens [], .resolved⟩)
  | key :: remaining =>
    (s.remove index key .cleanupExpiredTokens, ⟨.cleanupTokens remaining, .commanded⟩)

def sweepSessions (s : Service) (index : Nat) : List String → Service × Call
  | [] => (s, ⟨.cleanupSessions [], .resolved⟩)
  | sessionId :: remaining =>
    ({ s.issue index .session with sessions := s.sessions.erase sessionId },
      ⟨.cleanupSessions remaining, .commanded⟩)

def expiredKeys (s : Service) : List String :=
  (s.tokens.entries.filter fun entry => entry.2.expiresAt ≤ s.now).map Prod.fst

def expiredSessions (s : Service) : List String :=
  (s.sessions.entries.filter fun entry => entry.2.expiresAt ≤ s.now).map Prod.fst

def cleanupExpiredTokens (s : Service) : Service :=
  let (t, call) := s.sweepTokens s.calls.length s.expiredKeys
  { t with calls := t.calls ++ [call] }

def cleanupExpiredSessions (s : Service) : Service :=
  let (t, call) := s.sweepSessions s.calls.length s.expiredSessions
  { t with calls := t.calls ++ [call] }

/-- The token of `simulateTokenExchange`; its texts end in random bytes. -/
def exchangedToken (s : Service) (session : Session) (provider : Provider)
    (random refreshRandom : String) : Token where
  accessToken := provider.type ++ "_" ++ random
  refreshToken := some (provider.type ++ "_refresh_" ++ refreshRandom)
  expiresAt := s.now + 3600 * 1000
  scope := (" ".intercalate session.scope).splitOn " "

def refreshedToken (s : Service) (provider : Provider) (refreshToken : String)
    (existing : Option Token) (random : String) : Token where
  accessToken := provider.type ++ "_" ++ random
  refreshToken := some refreshToken
  expiresAt := s.now + 3600 * 1000
  scope := (existing.map (·.scope)).getD []

/-- A call goes on after an await, up to the next one or its end. -/
def proceed (s : Service) (index : Nat) (call : Call) (random refreshRandom : String) :
    Option (Service × Call) :=
  match call.stage, call.task with
  | .requested, .exchange _ session provider =>
    some (s.store index (tokenKey session.providerId session.userId)
      (s.exchangedToken session provider random refreshRandom), ⟨call.task, .commanded⟩)
  | .requested, .refresh key provider refreshToken existing =>
    some (s.store index key (s.refreshedToken provider refreshToken existing random),
      ⟨call.task, .commanded⟩)
  | .requested, .revoke key => some (s.remove index key .revokeToken, ⟨call.task, .commanded⟩)
  | .answered true, .authorize request provider session codeChallenge _ =>
    some (s, ⟨.authorize request provider session codeChallenge
      (some (authorizationUrl provider session request.customParams codeChallenge)), .resolved⟩)
  | .answered true, .exchange _ session _ =>
    some ({ s with
      sessions := s.sessions.set session.sessionId { session with isComplete := true } },
      ⟨call.task, .resolved⟩)
  | .answered true, .refresh _ _ _ _ => some (s, ⟨call.task, .resolved⟩)
  | .answered true, .revoke key =>
    some ({ s with revocations := s.revocations.set key s.calls.length }, ⟨call.task, .resolved⟩)
  | .answered true, .cleanupTokens remaining => some (s.sweepTokens index remaining)
  | .answered true, .cleanupSessions remaining => some (s.sweepSessions index remaining)
  | .answered false, _ => some (s, ⟨call.task, .rejected⟩)
  | _, _ => none

/-- A command takes effect in Redis. -/
def apply (s : Service) : Command → Service
  | .setex key token => { s with redis := s.redis.setex s.now key 3600 token }
  | .del key remover =>
    { s with
      redis := s.redis.del [key]
      removals := s.removals ++
        if remover = .cleanupExpiredTokens then (s.redis.get s.now key).toList.map (·, s.now)
        else [] }
  | .session => s

/-- The oldest command leaves the queue; it may be lost. -/
def execute (s : Service) (command : Command) (commands : List (Nat × Command))
    (applied : Bool) : Service :=
  { (if applied then s.apply command else s) with commands := commands }

/-- The reply reaches the call that awaits it. -/
def answer (s : Service) (index : Nat) (acknowledged : Bool) : Service :=
  match s.calls[index]? with
  | some ⟨task, .commanded⟩ =>
    { s with calls := s.calls.set index ⟨task, .answered acknowledged⟩ }
  | _ => s

end Service

inductive Label where
  | advance (ms : Nat)
  | setProvider (providerId : String) (provider : Provider)
  | generateAuthorizationUrl (request : AuthorizationRequest)
      (sessionId random codeVerifier : String)
  | exchangeCodeForToken (exchange : TokenExchange)
  | refreshToken (request : RefreshRequest)
  | revokeToken (request : RevocationRequest)
  | cleanupExpiredTokens
  | cleanupExpiredSessions
  /-- Redis executes the oldest command, or the command is lost; its call is told how it went. A
  command that is acknowledged has been executed. -/
  | execute (applied acknowledged : Bool)
  | resume (index : Nat) (random refreshRandom : String)

/-- `setProvider` is what `addProvider` and `updateProvider` do to the map. -/
def step (digest : String → String) (s : Service) : Label → Option Service
  | .advance ms => some { s with now := s.now + ms }
  | .setProvider providerId provider =>
    some { s with providers := s.providers.set providerId provider }
  | .generateAuthorizationUrl request sessionId random codeVerifier =>
    some (s.generateAuthorizationUrl digest request sessionId random codeVerifier)
  | .exchangeCodeForToken exchange => some (s.exchangeCodeForToken exchange)
  | .refreshToken request => some (s.refreshToken request)
  | .revokeToken request => some (s.revokeToken request)
  | .cleanupExpiredTokens => some s.cleanupExpiredTokens
  | .cleanupExpiredSessions => some s.cleanupExpiredSessions
  | .execute applied acknowledged =>
    match s.commands with
    | [] => none
    | (index, command) :: commands =>
      if acknowledged && !applied then none
      else some ((s.execute command commands applied).answer index acknowledged)
  | .resume index random refreshRandom =>
    (s.calls[index]?).bind fun call =>
      (s.proceed index call random refreshRandom).map fun went =>
        { went.1 with calls := s.calls.set index went.2 }

lemma step_execute {d : String → String} {s t : Service} {ap ack : Bool}
    (hs : step d s (.execute ap ack) = some t) : ∃ i cmd cs, s.commands = (i, cmd) :: cs ∧
      t = (s.execute cmd cs ap).answer i ack := by
  simp only [step] at hs
  split at hs
  · cases hs
  · rename_i i cmd cs hwa
    split at hs
    · cases hs
    · cases hs
      exact ⟨i, cmd, cs, hwa, rfl⟩

lemma step_resume {d : String → String} {s t : Service} {i : Nat} {r rr : String}
    (hs : step d s (.resume i r rr) = some t) :
    ∃ c a next, s.calls[i]? = some c ∧ s.proceed i c r rr = some (a, next) ∧
      t = { a with calls := s.calls.set i next } := by
  obtain ⟨c, hf, rs⟩ := Option.bind_eq_some_iff.mp hs
  obtain ⟨⟨a, next⟩, hw, rfl⟩ := Option.map_eq_some_iff.mp rs
  exact ⟨c, a, next, hf, hw, rfl⟩

@[simp] lemma calls_execute (s : Service) (cmd : Command) (cs : List (Nat × Command))
    (ap : Bool) : (s.execute cmd cs ap).calls = s.calls := by
  cases ap <;> cases cmd <;> rfl

lemma answer_calls (s : Service) (i : Nat) (b : Bool) : (s.answer i b).calls = s.calls ∨ ∃ t,
      s.calls[i]? = some ⟨t, .commanded⟩ ∧ (s.answer i b).calls =
          s.calls.set i ⟨t, .answered b⟩ := by
  rw [Service.answer]
  split
  · rename_i t hf
    exact .inr ⟨t, hf, rfl⟩
  · exact .inl rfl

/-- A service that has just been constructed. The mock tokens live for an hour or two; what an
earlier process has left in Redis lives for an hour at most. -/
structure Constructed (s : Service) : Prop where
  sessions : s.sessions = .empty
  tokens : ∀ key token, s.tokens.get? key = some token → s.now + 3600 * 1000 ≤ token.expiresAt
  redis : ∀ key entry, s.redis key = some entry → entry.value.expiresAt ≤ s.now + 3600 * 1000
  commands : s.commands = []
  calls : s.calls = []
  revocations : s.revocations = .empty
  removals : s.removals = []

end OAuthService
