import Optimizely.OAuthService
import Optimizely.TaskLists
import Optimizely.TransitionRuns

/-!
# The life of a token

A refresh or an exchange stores its token whatever has happened since it began: a token may come
back after it was revoked, and a cleanup may remove one stored after it had collected the key.
Nothing of the kind happens where no token is stored under a key that a revocation or a cleanup is
about to delete, or after a revocation by an older call.
-/

namespace OAuthService

open TransitionRuns List Option OrderedMap TaskLists

def lifetime : Nat := 3600 * 1000

/-- Keys that a cleanup has collected and not yet deleted. -/
def Call.pendingKeys : Call → List String
  | ⟨.cleanupTokens remaining, .commanded⟩ => remaining
  | ⟨.cleanupTokens remaining, .answered true⟩ => remaining
  | _ => []

/-- The key of a revocation that has deleted the token and not yet completed. -/
def Call.revokingKey : Call → Option String
  | ⟨.revoke key, .commanded⟩ => some key
  | ⟨.revoke key, .answered true⟩ => some key
  | _ => none

/-- The key under which the call will store a token when it goes on. -/
def Call.storingKey : Call → Option String
  | ⟨.exchange _ session _, .requested⟩ => some (tokenKey session.providerId session.userId)
  | ⟨.refresh key _ _ _, .requested⟩ => some key
  | _ => none

@[mk_iff]
structure Undisturbed (s : Service) (index : Nat) (key : String) : Prop where
  cleanup : ∀ call ∈ s.calls, key ∉ call.pendingKeys
  revocation : ∀ call ∈ s.calls, call.revokingKey ≠ some key
  later : ∀ started ∈ s.revocations.get? key, started ≤ index

instance (s : Service) (index : Nat) (key : String) : Decidable (Undisturbed s index key) :=
  decidable_of_iff' _ (undisturbed_iff s index key)

/-- Tokens are stored where no revocation and no cleanup interferes. -/
def Careful (s : Service) : Label → Prop
  | .resume index _ _ =>
    ∀ call ∈ s.calls[index]?, ∀ key ∈ call.storingKey, Undisturbed s index key
  | _ => True

instance (s : Service) (label : Label) : Decidable (Careful s label) := by
  induction label using Label.casesOn <;> dsimp only [Careful] <;> infer_instance

/-- The token is in Redis, or its `SETEX` is on the way there. -/
def Written (s : Service) (key : String) (token : Token) : Prop :=
  (∃ entry, s.redis key = some entry ∧ entry.value = token) ∨
    ∃ index, (index, .setex key token) ∈ s.commands

/-- No token of the key lives any more. -/
def Expired (s : Service) (key : String) : Prop :=
  ∀ token, s.tokens.get? key = some token ∨ Written s key token → token.expiresAt ≤ s.now

structure Sound (s : Service) : Prop where
  bounded : ∀ key token, Written s key token → token.expiresAt ≤ s.now + lifetime
  /-- Redis never holds a token that lives longer than the one in the map. -/
  below : ∀ key token held, Written s key token → s.tokens.get? key = some held →
    token.expiresAt ≤ held.expiresAt
  pending : ∀ call ∈ s.calls, ∀ key ∈ call.pendingKeys, Expired s key
  /-- What a `DEL` of a cleanup will find in Redis. -/
  stored : ∀ command ∈ s.commands, ∀ key, command.2 = .del key .cleanupExpiredTokens →
    ∀ entry, s.redis key = some entry → entry.value.expiresAt ≤ s.now
  queued : s.commands.Pairwise fun first second => ∀ key token, first.2 = .setex key token →
    second.2 = .del key .cleanupExpiredTokens → token.expiresAt ≤ s.now
  revoking : ∀ call ∈ s.calls, ∀ key ∈ call.revokingKey, s.tokens.get? key = none
  revoked : ∀ key ∈ s.revocations.keys, s.tokens.get? key = none
  removed : ∀ removal ∈ s.removals, removal.1.expiresAt ≤ removal.2

variable {s : Service} {i : Nat} {cm : Command} {key k x : String} {token : Token} {rr : Remover}

section

variable (sn : Sound s)
include sn

lemma Sound.advance (ms : Nat) : Sound { s with now := s.now + ms } where
  bounded k token hw := by
    have bound := sn.bounded k token hw
    show token.expiresAt ≤ s.now + ms + lifetime
    omega
  below := sn.below
  pending c mem k pending token hf := Nat.le_add_right_of_le (sn.pending c mem k pending token hf)
  stored cm mem k hdel e hf := Nat.le_add_right_of_le (sn.stored cm mem k hdel e hf)
  queued := sn.queued.imp fun b k token hs hdel => Nat.le_add_right_of_le (b k token hs hdel)
  revoking := sn.revoking
  revoked := sn.revoked
  removed := sn.removed

lemma Sound.aside (sessions : OrderedMap String Session) (providers : OrderedMap String Provider) :
    Sound { s with sessions := sessions, providers := providers } :=
  { sn with }

lemma Sound.calls {calls : List Call} (hpe : ∀ c ∈ calls, ∀ k ∈ c.pendingKeys, Expired s k)
    (hr : ∀ c ∈ calls, ∀ k ∈ c.revokingKey, s.tokens.get? k = none) :
    Sound { s with calls := calls } :=
  ⟨sn.bounded, sn.below, hpe, sn.stored, sn.queued, hr, sn.revoked, sn.removed⟩

lemma Sound.set {old new : Call} (hf : s.calls[i]? = some old)
    (hpe : new.pendingKeys ⊆ old.pendingKeys)
    (hr : ∀ k ∈ new.revokingKey, old.revokingKey = some k) :
    Sound { s with calls := s.calls.set i new } := by
  have mem := mem_of_getElem? hf
  refine sn.calls (forall_set sn.pending i ?_) (forall_set sn.revoking i ?_)
  · exact fun k left => sn.pending old mem k (hpe left)
  · exact fun k left => sn.revoking old mem k (hr k left)

variable {c : Call} (idle : c.pendingKeys = []) (hx : c.revokingKey = none)
include idle hx

lemma Sound.begin : Sound { s with calls := s.calls ++ [c] } :=
  sn.calls (forall_append sn.pending (by simp [idle])) (forall_append sn.revoking (by simp [hx]))

lemma Sound.settle (i : Nat) : Sound { s with calls := s.calls.set i c } :=
  sn.calls (forall_set sn.pending i (by simp [idle])) (forall_set sn.revoking i (by simp [hx]))

end

lemma written_issue (hw : Written (s.issue i cm) k token) :
    Written s k token ∨ cm = .setex k token := by
  rcases hw with hst | ⟨n, hq⟩
  · exact .inl (.inl hst)
  · rcases mem_append.mp hq with old | new
    · exact .inl (.inr ⟨n, old⟩)
    · cases mem_singleton.mp new
      exact .inr rfl

section

variable (sn : Sound s) (hdel : ∀ k, cm = .del k .cleanupExpiredTokens → Expired s k)
include sn hdel

lemma queued_append : (s.issue i cm).commands.Pairwise fun first m => ∀ k tk,
      first.2 = .setex k tk → m.2 = .del k .cleanupExpiredTokens → tk.expiresAt ≤ s.now := by
  refine pairwise_append.mpr ⟨sn.queued, pairwise_singleton _ _, ?_⟩
  rintro ⟨n, first⟩ mem m l k tk rfl del
  cases mem_singleton.mp l
  exact hdel k del tk (.inr (.inr ⟨n, mem⟩))

lemma stored_append : ∀ co ∈ (s.issue i cm).commands, ∀ k, co.2 = .del k .cleanupExpiredTokens →
      ∀ e, s.redis k = some e → e.value.expiresAt ≤ s.now := by
  intro co mem k del e hf
  rcases mem_append.mp mem with old | new
  · exact sn.stored co old k del e hf
  · cases mem_singleton.mp new
    exact hdel k del e.value (.inr (.inl ⟨e, hf, rfl⟩))

end

lemma Sound.session (sn : Sound s) (i : Nat) : Sound (s.issue i .session) := by
  have hb : ∀ {k token}, Written (s.issue i .session) k token → Written s k token := by
    intro k token hw
    rcases written_issue hw with old | new
    · exact old
    · cases new
  exact
    { bounded := fun k token hw => sn.bounded k token (hb hw)
      below := fun k token tk hw => sn.below k token tk (hb hw)
      pending := fun c mem k pending token hf => sn.pending c mem k pending token (hf.imp_right hb)
      stored := stored_append sn (fun _ del => by cases del)
      queued := queued_append sn (fun _ del => by cases del)
      revoking := sn.revoking
      revoked := sn.revoked
      removed := sn.removed }

lemma Sound.store (sn : Sound s)
    (hu : Undisturbed s i k) (hlv : token.expiresAt = s.now + lifetime) :
    Sound (s.store i k token) := by
  have hw : ∀ {x new}, Written (s.store i k token) x new →
      Written s x new ∨ x = k ∧ new = token := by
    intro x new hw
    rcases written_issue (s := s) hw with old | his
    · exact .inl old
    · cases his
      exact .inr ⟨rfl, rfl⟩
  have hh : ∀ {x}, x ≠ k → (s.store i k token).tokens.get? x = s.tokens.get? x := by
    intro x hne
    exact (get?_set ..).trans (if_neg (Ne.symm hne))
  constructor
  · intro x new hf
    rcases hw hf with old | ⟨-, rfl⟩
    · exact sn.bounded x new old
    · exact hlv.le
  · intro x new t hf hs
    by_cases hsm : x = k
    · subst hsm
      have hlt : t = token := by
        have hhr := (get?_set s.tokens x token x).symm.trans hs
        rw [if_pos rfl] at hhr
        exact (some.inj hhr).symm
      rw [hlt]
      rcases hw hf with old | ⟨-, rfl⟩
      · exact hlv ▸ sn.bounded x new old
      · exact le_rfl
    · rw [hh hsm] at hs
      rcases hw hf with old | ⟨hhr, -⟩
      · exact sn.below x new t old hs
      · exact absurd hhr hsm
  · intro c mem x hpe
    have hne : x ≠ k := by
      rintro rfl
      exact hu.cleanup c mem hpe
    intro new hf
    rw [hh hne] at hf
    refine sn.pending c mem x hpe new (hf.imp_right fun hf => ?_)
    rcases hw hf with old | ⟨hhr, -⟩
    · exact old
    · exact absurd hhr hne
  · exact stored_append sn (fun _ del => by cases del)
  · exact queued_append sn (fun _ del => by cases del)
  · intro c mem x hr
    have hne : x ≠ k := by
      rintro rfl
      exact hu.revocation c mem hr
    rw [hh hne]
    exact sn.revoking c mem x hr
  · intro x hrv
    have hl : (s.revocations.get? k).all (· ≤ i) = true := by
      rw [Option.all_eq_true]
      simpa using hu.later
    have he : x ∈ s.revocations.keys ∧ x ≠ k := by
      refine (mem_keys_erase ..).mp ?_
      simpa [Service.store, hl] using hrv
    rw [hh he.2]
    exact sn.revoked x he.1
  · exact sn.removed

lemma written_remove (hw : Written (s.remove i k rr) x token) : Written s x token := by
  rcases written_issue (s := s) hw with old | his
  · exact old
  · cases his

lemma get?_tokens_remove (s : Service) (i : Nat) (k : String) (r : Remover)
    (x : String) : (s.remove i k r).tokens.get? x = if k = x then none else s.tokens.get? x :=
  get?_erase s.tokens k x

lemma held_of_remove (hf : (s.remove i k rr).tokens.get? x = some token) :
    s.tokens.get? x = some token := by
  rw [get?_tokens_remove] at hf
  split at hf
  · cases hf
  · exact hf

lemma Expired.remove (hxp : Expired s x) (i : Nat)
    (k : String) (r : Remover) : Expired (s.remove i k r) x :=
  fun token hf => hxp token (hf.imp held_of_remove written_remove)

lemma Sound.remove (sn : Sound s) (i : Nat)
    (hxp : rr = .cleanupExpiredTokens → Expired s k) : Sound (s.remove i k rr) := by
  have hg : ∀ {x}, s.tokens.get? x = none → (s.remove i k rr).tokens.get? x = none := by
    intro x hab
    rw [get?_tokens_remove]
    split
    · rfl
    · exact hab
  have hdel : ∀ x, Command.del k rr = .del x .cleanupExpiredTokens → Expired s x := by
    rintro x ⟨⟩
    exact hxp rfl
  constructor
  · exact fun x token hf => sn.bounded x token (written_remove hf)
  · exact fun x token t hf hs => sn.below x token t (written_remove hf) (held_of_remove hs)
  · exact fun c mem x hpe => (sn.pending c mem x hpe).remove i k rr
  · exact stored_append sn hdel
  · exact queued_append sn hdel
  · exact fun c mem x hr => hg (sn.revoking c mem x hr)
  · exact fun x hrv => hg (sn.revoked x hrv)
  · refine forall_mem_append.mpr ⟨sn.removed, ?_⟩
    split
    · rename_i hc
      intro removal mem
      obtain ⟨token, hf, rfl⟩ := mem_map.mp mem
      exact hxp hc token (.inl (mem_toList.mp hf))
    · simp

section

variable (s : Service) (c : Command) (cs : List (Nat × Command)) (ap : Bool)

@[simp] lemma now_execute : (s.execute c cs ap).now = s.now := by
  cases ap <;> cases c <;> rfl

@[simp] lemma tokens_execute : (s.execute c cs ap).tokens = s.tokens := by
  cases ap <;> cases c <;> rfl

@[simp] lemma revocations_execute : (s.execute c cs ap).revocations = s.revocations := by
  cases ap <;> cases c <;> rfl

lemma redis_execute {k : String} {e : ExpiringEntry Token}
    (hf : (s.execute c cs ap).redis k = some e) : s.redis k = some e ∨ c = .setex k e.value := by
  cases ap with
  | false => exact .inl hf
  | true =>
    cases c with
    | setex x token =>
      simp only [Service.execute, Service.apply, ExpiringKeys.setex, if_true] at hf
      split at hf
      · rename_i hs
        cases hf
        exact .inr (by rw [hs])
      · exact .inl hf
    | del x rr =>
      simp only [Service.execute, Service.apply, ExpiringKeys.del, if_true] at hf
      split at hf
      · cases hf
      · exact .inl hf
    | session => exact .inl hf

lemma mem_removals_execute {r : Token × Nat} (mem : r ∈ (s.execute c cs ap).removals) :
    r ∈ s.removals ∨ ∃ k e, c = .del k .cleanupExpiredTokens ∧
      s.redis k = some e ∧ r = (e.value, s.now) := by
  cases ap with
  | false => exact .inl mem
  | true =>
    cases c with
    | setex k token => exact .inl mem
    | del k rr =>
      rcases mem_append.mp mem with old | new
      · exact .inl old
      · split at new
        · rename_i hc
          obtain ⟨token, hl, rfl⟩ := mem_map.mp new
          obtain ⟨e, hf, -, rfl⟩ := ExpiringKeys.get_eq_some_iff.mp (mem_toList.mp hl)
          exact .inr ⟨k, e, by rw [hc], hf, rfl⟩
        · cases new
    | session => exact .inl mem

end

lemma Sound.execute (sn : Sound s) {cs : List (Nat × Command)} (hwa : s.commands = (i, cm) :: cs)
    (ap : Bool) : Sound (s.execute cm cs ap) := by
  have hrs : ∀ {co}, co ∈ cs → co ∈ s.commands := by
    intro co mem
    rw [hwa]
    exact mem_cons_of_mem _ mem
  have first : (i, cm) ∈ s.commands := by
    rw [hwa]
    exact mem_cons_self
  have hqq := sn.queued
  rw [hwa, pairwise_cons] at hqq
  have hw : ∀ {k token}, Written (s.execute cm cs ap) k token → Written s k token := by
    rintro k token (⟨e, hf, rfl⟩ | ⟨n, hq⟩)
    · rcases redis_execute s cm cs ap hf with old | rfl
      · exact .inl ⟨e, old, rfl⟩
      · exact .inr ⟨i, first⟩
    · exact .inr ⟨n, hrs hq⟩
  constructor
  · intro k token hf
    rw [now_execute]
    exact sn.bounded k token (hw hf)
  · intro k token tk hf hs
    rw [tokens_execute] at hs
    exact sn.below k token tk (hw hf) hs
  · intro c mem k hpe token hf
    rw [calls_execute] at mem
    rw [tokens_execute] at hf
    rw [now_execute]
    exact sn.pending c mem k hpe token (hf.imp_right hw)
  · intro co mem k hdel e hf
    rw [now_execute]
    rcases redis_execute s cm cs ap hf with old | rfl
    · exact sn.stored co (hrs mem) k hdel e old
    · exact hqq.1 co mem k e.value rfl hdel
  · rw [now_execute]
    exact hqq.2
  · intro c mem k hr
    rw [calls_execute] at mem
    rw [tokens_execute]
    exact sn.revoking c mem k hr
  · intro k hrv
    rw [revocations_execute] at hrv
    rw [tokens_execute]
    exact sn.revoked k hrv
  · intro r mem
    rcases mem_removals_execute s cm cs ap mem with old | ⟨k, e, rfl, hf, rfl⟩
    · exact sn.removed r old
    · exact sn.stored _ first k rfl e hf

lemma Sound.answer (sn : Sound s) (i : Nat) (b : Bool) : Sound (s.answer i b) := by
  rw [Service.answer]
  split
  · rename_i t hf
    refine sn.set hf ?_ ?_
    · cases t <;> cases b <;> simp [Call.pendingKeys]
    · cases t <;> cases b <;> simp [Call.revokingKey]
  · exact sn

lemma expired_of_mem_expiredKeys (sn : Sound s) (mem : k ∈ s.expiredKeys) : Expired s k := by
  obtain ⟨⟨k, tk⟩, hl, rfl⟩ := mem_map.mp mem
  obtain ⟨hst, hp⟩ := mem_filter.mp hl
  have hf := get?_of_mem hst
  have hp : tk.expiresAt ≤ s.now := by simpa using hp
  rintro token (hs | hw)
  · rw [hf] at hs
    cases hs
    exact hp
  · exact (sn.below k token tk hw hf).trans hp

lemma Sound.sweep (sn : Sound s) (i : Nat) {ks : List String} (hxp : ∀ k ∈ ks, Expired s k) :
    Sound (s.sweepTokens i ks).1 ∧ (∀ k ∈ (s.sweepTokens i ks).2.pendingKeys,
        Expired (s.sweepTokens i ks).1 k) ∧ ∀ k ∈ (s.sweepTokens i ks).2.revokingKey,
        (s.sweepTokens i ks).1.tokens.get? k = none := by
  cases ks with
  | nil => exact ⟨sn, by simp [Service.sweepTokens, Call.pendingKeys], by rintro k ⟨⟩⟩
  | cons k remaining =>
    refine ⟨sn.remove i fun _ => hxp k mem_cons_self, ?_, by rintro x ⟨⟩⟩
    intro x mem
    exact (hxp x (mem_cons_of_mem k mem)).remove i k _

lemma calls_sweepTokens (s : Service) (i : Nat) (ks : List String) :
    (s.sweepTokens i ks).1.calls = s.calls := by
  cases ks <;> rfl

section

variable (sn : Sound s)
include sn

lemma Sound.cleanup : Sound s.cleanupExpiredTokens := by
  obtain ⟨hs, hpe, hr⟩ := sn.sweep s.calls.length fun k mem => expired_of_mem_expiredKeys sn mem
  exact hs.calls (forall_append hs.pending hpe) (forall_append hs.revoking hr)

lemma Sound.cleanupSessions : Sound s.cleanupExpiredSessions := by
  rw [Service.cleanupExpiredSessions]
  cases s.expiredSessions with
  | nil => exact sn.begin rfl rfl
  | cons sid remaining =>
    exact ((sn.session _).aside _ _).begin rfl rfl

lemma Sound.revoke (hg : s.tokens.get? k = none) (m : Nat) :
    Sound { s with revocations := s.revocations.set k m } where
  bounded := sn.bounded
  below := sn.below
  pending := sn.pending
  stored := sn.stored
  queued := sn.queued
  revoking := sn.revoking
  revoked x mem := by
    rcases (mem_keys_set ..).mp mem with rfl | old
    · exact hg
    · exact sn.revoked x old
  removed := sn.removed

lemma Sound.proceed {t : Service} {c next : Call} {rn r : String}
    (ok : ∀ k ∈ c.storingKey, Undisturbed s i k) (hf : s.calls[i]? = some c)
    (hw : s.proceed i c rn r = some (t, next)) : Sound { t with calls := s.calls.set i next } := by
  have mem := mem_of_getElem? hf
  obtain ⟨ts, sg⟩ := c
  cases sg with
  | requested =>
    cases ts with
    | exchange _ _ _ | refresh _ _ _ _ =>
      cases hw
      exact (sn.store (ok _ rfl) rfl).settle rfl rfl i
    | revoke k =>
      cases hw
      have hrm : Sound (s.remove i k .revokeToken) := sn.remove i (by simp)
      refine hrm.calls (forall_set hrm.pending i ?_) (forall_set hrm.revoking i ?_)
      · simp [Call.pendingKeys]
      · rintro x ⟨⟩
        rw [get?_tokens_remove, if_pos rfl]
    | authorize | cleanupTokens | cleanupSessions => cases hw
  | answered b =>
    cases b with
    | false =>
      cases ts <;> cases hw <;> exact sn.settle rfl rfl i
    | true =>
      cases ts with
      | authorize | refresh =>
        cases hw
        exact sn.settle rfl rfl i
      | exchange exchange ses provider =>
        cases hw
        exact (sn.aside _ _).settle rfl rfl i
      | revoke k =>
        cases hw
        have hg := sn.revoking _ mem k rfl
        exact (sn.revoke hg _).settle rfl rfl i
      | cleanupTokens rm =>
        have hh : s.sweepTokens i rm = (t, next) := some.inj hw
        have hxp : ∀ k ∈ rm, Expired s k := sn.pending _ mem
        obtain ⟨hs, hpe, hr⟩ := sn.sweep i hxp
        have hsm := calls_sweepTokens s i rm
        rw [hh] at hs hpe hr hsm
        rw [← hsm]
        exact hs.calls (forall_set hs.pending i hpe) (forall_set hs.revoking i hr)
      | cleanupSessions rm =>
        cases rm with
        | nil =>
          cases hw
          exact sn.settle rfl rfl i
        | cons sid rm =>
          cases hw
          exact ((sn.session i).aside _ _).settle rfl rfl i
  | commanded | resolved | rejected => cases ts <;> cases hw

lemma sound_step {d : String → String} {t : Service} {l : Label} (ok : Careful s l)
    (hs : step d s l = some t) : Sound t := by
  cases l with
  | advance ms =>
    cases hs
    exact sn.advance ms
  | setProvider providerId provider =>
    cases hs
    exact sn.aside _ _
  | generateAuthorizationUrl r sid rn codeVerifier =>
    cases hs
    simp only [Service.generateAuthorizationUrl]
    split
    · exact sn
    · exact ((sn.session _).aside _ _).begin rfl rfl
  | exchangeCodeForToken exchange =>
    cases hs
    rw [Service.exchangeCodeForToken]
    split
    · exact sn
    · exact sn.begin rfl rfl
  | refreshToken r =>
    cases hs
    simp only [Service.refreshToken]
    split
    · exact sn
    · split
      · exact sn
      · exact sn.begin rfl rfl
  | revokeToken r =>
    cases hs
    rw [Service.revokeToken]
    split
    · exact sn
    · exact sn.begin rfl rfl
  | cleanupExpiredTokens =>
    cases hs
    exact sn.cleanup
  | cleanupExpiredSessions =>
    cases hs
    exact sn.cleanupSessions
  | execute ap b =>
    obtain ⟨i, cm, commands, hwa, rfl⟩ := step_execute hs
    exact (sn.execute hwa ap).answer i b
  | resume i rn refreshRandom =>
    obtain ⟨c, after, next, hf, hw, rfl⟩ := step_resume hs
    exact sn.proceed (ok c hf) hf hw

end

lemma sound_of_constructed (hc : Constructed s) : Sound s := by
  obtain ⟨-, ht, rs, cm, cs, hr, hrm⟩ := hc
  have hw : ∀ {k token}, Written s k token → token.expiresAt ≤ s.now + lifetime := by
    rintro k token (⟨e, hf, rfl⟩ | ⟨i, hq⟩)
    · exact rs k e hf
    · simp [cm] at hq
  constructor
  · exact fun k token hf => hw hf
  · exact fun k token tk hf hs => (hw hf).trans (ht k tk hs)
  · simp [cs]
  · simp [cm]
  · simp [cm]
  · simp [cs]
  · simp [hr, OrderedMap.keys, empty]
  · simp [hrm]

theorem token_lifecycle {digest : String → String} {s t : Service} {labels : List Label}
    (constructed : Constructed s) (run : Run (step digest) Careful s labels t) :
    (∀ providerId userId, tokenKey providerId userId ∈ t.revocations.keys →
      ∀ accessToken token, t.validateToken providerId userId accessToken ≠ .valid token) ∧
      ∀ removal ∈ t.removals, removal.1.expiresAt ≤ removal.2 := by
  have hs := run.invariant Sound (fun _ _ _ hs ok => sound_step hs ok)
    (sound_of_constructed constructed)
  refine ⟨fun providerId userId hr accessToken token => ?_, hs.removed⟩
  rw [Service.validateToken, hs.revoked _ hr]
  simp

def pipedrive : Provider where
  type := "pipedrive"
  authUrl := "https://oauth.pipedrive.com/oauth/authorize"
  scope := ["deals:read"]
  clientId := "pd_client_id"
  redirectUri := "https://api.optimizely.com/oauth/callback/pipedrive"

/-- A service with mock tokens of two users, which live for an hour. -/
def mocked : Service where
  now := 0
  providers := OrderedMap.empty.set "pipedrive" pipedrive
  sessions := .empty
  tokens := (OrderedMap.empty.set "pipedrive:user1" ⟨"a", some "r1", lifetime, []⟩).set
    "pipedrive:user2" ⟨"b", some "r2", lifetime, []⟩
  redis := fun _ => none
  commands := []
  calls := []
  revocations := .empty
  removals := []

lemma constructed_mocked : Constructed mocked where
  sessions := rfl
  tokens k token hf := by
    have mem := mem_of_get? hf
    have all : ∀ e ∈ mocked.tokens.entries, 0 + 3600 * 1000 ≤ e.2.expiresAt := by decide
    exact all (k, token) mem
  redis _ _ hf := by cases hf
  commands := rfl
  calls := rfl
  revocations := rfl
  removals := rfl

def refreshOf (userId : String) : Label := .refreshToken ⟨"pipedrive", userId, none⟩

def revocationOf (userId : String) : Label := .revokeToken ⟨"pipedrive", userId, "token"⟩

/-- A token is revoked and the others cleaned up, with nothing in between. -/
def revokedThenCleaned : List Label :=
  [revocationOf "user1", .resume 0 "" "", .execute true true, .resume 0 "" "",
    .advance (2 * lifetime), .cleanupExpiredTokens, .execute true true, .resume 1 "" ""]

theorem token_lifecycle_undisturbed : ∃ t : Service,
    Run (step id) Careful mocked revokedThenCleaned t ∧
      (t.revocations.keys, t.removals.length) = (["pipedrive:user1"], 1) ∧
      (∀ providerId userId, tokenKey providerId userId ∈ t.revocations.keys →
        ∀ accessToken token, t.validateToken providerId userId accessToken ≠ .valid token) ∧
      ∀ removal ∈ t.removals, removal.1.expiresAt ≤ removal.2 :=
  exists_run (by decide +kernel) fun _ run _ => token_lifecycle constructed_mocked run

/-- A refresh begins, the token is revoked, and the refresh stores its token. -/
def refreshedAfterRevocation : List Label :=
  [refreshOf "user1", revocationOf "user1", .resume 1 "" "", .execute true true, .resume 1 "" "",
    .resume 0 "new" ""]

/-- The token of the second user is refreshed while the cleanup awaits the `DEL` for the first. -/
def refreshedDuringCleanup : List Label :=
  [.advance lifetime, .cleanupExpiredTokens, refreshOf "user2", .resume 1 "new" "",
    .execute true true, .resume 0 "" "", .execute true true, .execute true true]

theorem refreshed_comes_back_and_is_removed :
    (∃ t token, Run (step id) Always mocked refreshedAfterRevocation t ∧
      tokenKey "pipedrive" "user1" ∈ t.revocations.keys ∧
      t.validateToken "pipedrive" "user1" none = .valid token) ∧
    ∃ t : Service, Run (step id) Always mocked refreshedDuringCleanup t ∧
      t.tokens.keys = [] ∧ ∃ removal ∈ t.removals, removal.2 < removal.1.expiresAt := by
  constructor
  · exact ⟨_, _, run_of_exec rfl, by decide +kernel, rfl⟩
  · exact exists_run_seen (by decide +kernel)

end OAuthService
