import Optimizely.BrowserStorage
import Optimizely.TransitionRuns

/-!
# What is read after many writes

A write leaves what other layers hold. It is read until it expires if no entry of an earlier layer
can be read, and none of a later one after that. Cookies and memory read an empty value as none,
memory keeps no expiry, and cookies keep its seconds.
-/

namespace BrowserStorage

open List OrderedMap Storage UriComponent CookieJar

open LayeredStore (Item Silent Settled visible)
open TransitionRuns

/-- `last` is a history: what was written last under each key, if it was not removed. -/
structure History where
  storage : Storage
  last : OrderedMap String (Item String)

inductive Label where
  | tick (now : Nat)
  | set (key value : String) (expiry : Option Int) (outcome : Outcome)
  | get (key : String)
  | remove (key : String)
  deriving DecidableEq

def History.step (p : History) : Label → Option History
  | .tick now => some { p with storage := { p.storage with now := now } }
  | .set key value expiry outcome => some
      ⟨p.storage.set key value expiry outcome, p.last.set key ⟨value, expiry⟩⟩
  | .get key => some { p with storage := (p.storage.get key).2 }
  | .remove key => some ⟨p.storage.remove key, p.last.erase key⟩

/-- Nothing is stored under the names of this storage. -/
structure Fresh (p : History) : Prop where
  views : ∀ key, Silent p.storage.now (p.storage.views (p.storage.prefixedKey key))
  last : p.last = .empty

/-- `get` returns what was written last, unless that has been removed or has expired. -/
def LastWriteWins (p : History) (key : String) : Prop :=
  (p.storage.get key).1 = LayeredStore.expected p.storage.now (p.last.get? key)

inductive Landing where
  | localStorage
  | sessionStorage
  | cookies
  | lost
  | fallback
  deriving DecidableEq

def landing (value : String) (outcome : Outcome) : Landing :=
  if outcome.localStorage then .localStorage
  else if outcome.sessionStorage then .sessionStorage
  else if jsLength value < 4000 ∧ outcome.cookies ≠ .thrown then
    if outcome.cookies = .kept then .cookies else .lost
  else .fallback

/-- Nothing can be read in the earlier layers, and nothing in the later ones in case the value
expires. Cookies and memory take only values that they can give back. -/
def Reached (s : Storage) (name value : String) (expiry : Option Int) : Landing → Prop
  | .localStorage => expiry.isSome →
      Silent s.now [webView s.sessionStorage name, s.cookieView name, s.fallbackView name]
  | .sessionStorage => Silent s.now [webView s.localStorage name] ∧
      (expiry.isSome → Silent s.now [s.cookieView name, s.fallbackView name])
  | .cookies => Jar.isSafe name.toList = true ∧ value ≠ "" ∧ (∀ time ∈ expiry, time % 1000 = 0) ∧
      Silent s.now [webView s.localStorage name, webView s.sessionStorage name] ∧
      (expiry.isSome → Silent s.now [s.fallbackView name])
  | .lost => False
  | .fallback => value ≠ "" ∧ expiry = none ∧ (s.fallback.set name value).entries.length ≤ 100 ∧
      Silent s.now [webView s.localStorage name, webView s.sessionStorage name, s.cookieView name]

/-- The clock is not set back, names can be names of cookies, and an expiry is not zero. -/
def Careful (p : History) : Label → Prop
  | .tick now => p.storage.now ≤ now
  | .set key value expiry outcome => expiry ≠ some 0 ∧
      Reached p.storage (p.storage.prefixedKey key) value expiry (landing value outcome)
  | .get _ => True
  | .remove key => Jar.isSafe (p.storage.prefixedKey key).toList = true

deriving instance Decidable for Silent

instance (s : Storage) (name value : String) (expiry : Option Int) (place : Landing) :
    Decidable (Reached s name value expiry place) := by
  cases place <;> dsimp only [Reached] <;> infer_instance

instance (h : History) (label : Label) : Decidable (Careful h label) := by
  cases label <;> dsimp only [Careful] <;> infer_instance

structure Sound (p : History) : Prop where
  settled : ∀ key, Jar.isSafe (p.storage.prefixedKey key).toList = true →
    Settled p.storage.now (p.storage.views (p.storage.prefixedKey key)) (p.last.get? key)

variable {p : History} {key k name v : String} {s : Storage} {e : Option Int}

lemma sound_of_fresh (hfr : Fresh p) : Sound p where
  settled k _ := by
    rw [hfr.last]
    exact .forget (hfr.views k)

lemma lastWriteWins_of_sound (s : Sound p)
    (hs : Jar.isSafe (p.storage.prefixedKey k).toList = true) : LastWriteWins p k := by
  rw [LastWriteWins, get_eq_read p.storage hs]
  exact LayeredStore.read_of_settled (s.settled k hs)

lemma prefixedKey_inj {x : String} (hs : s.prefixedKey k = s.prefixedKey x) : k = x := by
  have hl := congrArg String.toList hs
  rw [prefixedKey, prefixedKey, String.toList_append, String.toList_append] at hl
  exact String.toList_injective (append_cancel_left hl)

lemma webView_set_self (l : WebStorage) (n v : String) (hnz : e ≠ some 0) :
    webView (l.set n (some ⟨v, e⟩)) n = some ⟨v, e⟩ := by
  rw [webView, get?_set, if_pos rfl]
  cases e with
  | none => rfl
  | some t =>
    have x : t ≠ 0 := fun hz => hnz (congrArg some hz)
    simp [x]

lemma webView_set_of_ne (l : WebStorage) {x : String} (hne : name ≠ x)
    (t : Option (Item String)) : webView (l.set name t) x = webView l x := by
  rw [webView, webView, get?_set, if_neg hne]

lemma webView_erase (l : WebStorage) (n x : String) :
    webView (l.erase n) x = if n = x then none else webView l x := by
  rw [webView, webView, get?_erase]
  split <;> rfl

lemma component_plain (v : String) : (∀ c ∈ component v, isBlank c = false) ∧ ';' ∉ component v ∧
      (component v).any isControl = false := by
  refine ⟨fun c mem => ?_, fun mem => ?_, ?_⟩
  · have hv := isVisible_of_mem_component mem
    simp only [isVisible, Bool.and_eq_true, decide_eq_true_eq] at hv
    simp only [isBlank, Bool.or_eq_false_iff, decide_eq_false_iff_not]
    constructor <;>
      · rintro rfl
        exact absurd hv.1.1.1 (by decide)
  · have hv := isVisible_of_mem_component mem
    revert hv
    decide
  · rw [any_eq_false]
    intro c mem
    have hv := isVisible_of_mem_component mem
    simp only [isVisible, Bool.and_eq_true, decide_eq_true_eq] at hv
    have low : ¬ c.toNat < 32 := by omega
    have hi : ¬ c.toNat = 127 := by omega
    simp [isControl, low, hi]

section

variable (s : Storage) {name : String}

lemma cookieView_assign_of_ne (safe : Jar.isSafe name.toList = true) {x : String}
    (hne : name ≠ x) {v : List Char} (plain : ';' ∉ v)
    (printable : v.any isControl = false) (expires : Option Int) :
    { s with cookies := s.cookies.assign s.now (name.toList ++ '=' :: v) expires }.cookieView
      x = s.cookieView x := by
  have apart : name.toList ≠ x.toList := fun same => hne (String.toList_injective same)
  rw [cookieView, cookieView, Jar.get?_assign safe _ _ plain printable, if_neg apart]

lemma expires_of_seconds {expiry : Option Int} (hnz : expiry ≠ some 0)
    (hs : ∀ time ∈ expiry, time % 1000 = 0) : expires expiry = expiry := by
  cases expiry with
  | none => rfl
  | some time =>
    have x : time ≠ 0 := fun hz => hnz (congrArg some hz)
    have hw : time / 1000 * 1000 = time := by
      have rest := hs time rfl
      omega
    simp [expires, x, hw]

lemma cookieView_setCookie (hs : Jar.isSafe name.toList = true) {v : String}
    (hn : v ≠ "") {ex : Option Int} (hk : expires ex = ex) :
    (s.setCookie name v ex).cookieView name = some ⟨v, ex⟩ ∨
      (s.setCookie name v ex).cookieView name = none ∧
        visible s.now (some (⟨v, ex⟩ : Item String)) = none := by
  obtain ⟨hnb, hpl, hp⟩ := component_plain v
  have ht : component v ≠ [] := fun none => hn (component_eq_nil none)
  have jar := Jar.get?_assign hs s.cookies s.now hpl hp (expires ex) name.toList
  rw [if_pos rfl, trim_of_no_blank hnb, hk] at jar
  have hv : (s.setCookie name v ex).cookieView name =
      (if ex.all ((s.now : Int) < ·) then some ⟨v, ex⟩ else none) := by
    rw [cookieView, setCookie, hk]
    rw [jar]
    split
    · simp [ht, readComponent_component, hn]
    · rfl
  cases ha : ex.all ((s.now : Int) < ·) with
  | true =>
    left
    rw [hv, if_pos ha]
  | false =>
    right
    refine ⟨by rw [hv, ha]; rfl, ?_⟩
    simp [visible, Item.isLive, ha]

lemma cookieView_deleteCookie (hs : Jar.isSafe name.toList = true) (x : String) :
    (s.deleteCookie name).cookieView x = if name = x then none else s.cookieView x := by
  have jar := Jar.get?_assign hs s.cookies s.now not_mem_nil rfl (some 0)
  have hp : ¬ (s.now : Int) < 0 := by omega
  rw [cookieView, cookieView, deleteCookie]
  rw [jar]
  by_cases hsm : name = x
  · subst hsm
    simp [hp]
  · have ha : name.toList ≠ x.toList := fun ls => hsm (String.toList_injective ls)
    rw [if_neg ha, if_neg hsm]

end

lemma fallbackView_set (s : Storage) (name : String) (hn : v ≠ "") (x : String) :
    { s with fallback := s.fallback.set name v }.fallbackView x =
      if name = x then some ⟨v, none⟩ else s.fallbackView x := by
  rw [fallbackView, fallbackView]
  simp only [get?_set]
  split
  · simp [hn]
  · rfl

lemma fallbackView_erase (s : Storage) (name x : String) :
    { s with fallback := s.fallback.erase name }.fallbackView x =
      if name = x then none else s.fallbackView x := by
  rw [fallbackView, fallbackView]
  simp only [get?_erase]
  split <;> rfl

/-- Only what is stored under one name has changed. -/
structure ElseSame (name : String) (s t : Storage) : Prop where
  now : t.now = s.now
  namePrefix : t.namePrefix = s.namePrefix
  views : ∀ other, name ≠ other → t.views other = s.views other

lemma Sound.update (s : Sound p) {t : Storage}
    (hs : ElseSame (p.storage.prefixedKey k) p.storage t) {l : OrderedMap String (Item String)}
    (ho : ∀ x, k ≠ x → l.get? x = p.last.get? x)
    (hh : Settled p.storage.now (t.views (p.storage.prefixedKey k)) (l.get? k)) : Sound ⟨t, l⟩ where
  settled x safe := by
    have name : t.prefixedKey x = p.storage.prefixedKey x := by
      rw [prefixedKey, prefixedKey, hs.namePrefix]
    simp only [name, hs.now] at safe ⊢
    by_cases this : k = x
    · subst this
      exact hh
    · rw [ho x this, hs.views _ fun ns => this (prefixedKey_inj ns)]
      exact s.settled x safe

lemma sound_tick (s : Sound p) {now : Nat} (hl : p.storage.now ≤ now) :
    Sound { p with storage := { p.storage with now := now } } where
  settled k safe := (s.settled k safe).later (Int.ofNat_le.mpr hl)

def put (s : Storage) (name value : String) (expiry : Option Int) : Landing → Storage
  | .localStorage => { s with localStorage := s.localStorage.set name (some ⟨value, expiry⟩) }
  | .sessionStorage => { s with sessionStorage := s.sessionStorage.set name (some ⟨value, expiry⟩) }
  | .cookies => s.setCookie name value expiry
  | .lost => s
  | .fallback => s.setFallback name value

lemma set_eq_put (s : Storage) (k v : String) (ex : Option Int) (o : Outcome) :
    s.set k v ex o = put s (s.prefixedKey k) v ex (landing v o) := by
  rw [Storage.set, landing]
  split
  · rfl
  split
  · rfl
  split
  · split <;> rfl
  · rfl

lemma setFallback_of_small (hs : (s.fallback.set name v).entries.length ≤ 100) :
    s.setFallback name v = { s with fallback := s.fallback.set name v } := by
  rw [setFallback]
  simp only [if_neg (Nat.not_lt.mpr hs)]

lemma elseSame_put {p : Landing} (hre : Reached s name v e p) :
    ElseSame name s (put s name v e p) := by
  cases p with
  | localStorage | sessionStorage =>
    refine ⟨rfl, rfl, fun x hne => ?_⟩
    rw [views, put, webView_set_of_ne _ hne]
    rfl
  | cookies =>
    obtain ⟨-, hpl, hp⟩ := component_plain v
    refine ⟨rfl, rfl, fun x hne => ?_⟩
    rw [views, put, setCookie, cookieView_assign_of_ne s hre.1 hne hpl hp]
    rfl
  | lost => exact hre.elim
  | fallback =>
    obtain ⟨hn, -, hs, -⟩ := hre
    rw [put, setFallback_of_small hs]
    refine ⟨rfl, rfl, fun x hne => ?_⟩
    rw [views, fallbackView_set _ _ hn, if_neg hne]
    rfl

lemma settled_put {p : Landing} (hnz : e ≠ some 0) (hre : Reached s name v e p) :
    Settled s.now ((put s name v e p).views name) (some ⟨v, e⟩) := by
  cases p with
  | localStorage =>
    rw [views, put, webView_set_self _ _ _ hnz, ← nil_append (some _ :: _)]
    exact .write (.inl rfl) (fun _ mem => absurd mem not_mem_nil) hre
  | sessionStorage =>
    rw [views, put, webView_set_self _ _ _ hnz]
    exact .write (.inl rfl) hre.1 hre.2
  | cookies =>
    obtain ⟨hsf, hn, hs, b, t⟩ := hre
    have hw := cookieView_setCookie s hsf hn (expires_of_seconds hnz hs)
    have hse : Settled s.now ([webView s.localStorage name, webView s.sessionStorage name] ++
          (s.setCookie name v e).cookieView name :: [s.fallbackView name])
        (some ⟨v, e⟩) := .write hw b t
    exact hse
  | lost => exact hre.elim
  | fallback =>
    obtain ⟨hn, rfl, hsm, b⟩ := hre
    rw [put, setFallback_of_small hsm, views, fallbackView_set _ _ hn, if_pos rfl]
    have hse : Settled s.now
        ([webView s.localStorage name, webView s.sessionStorage name, s.cookieView name] ++
          [some ⟨v, none⟩]) (some ⟨v, none⟩) :=
      .write (.inl rfl) b fun some => by cases some
    exact hse

lemma sound_set (s : Sound p) {o : Outcome} (hnz : e ≠ some 0)
    (hre : Reached p.storage (p.storage.prefixedKey k) v e (landing v o)) :
    Sound ⟨p.storage.set k v e o, p.last.set k ⟨v, e⟩⟩ := by
  rw [set_eq_put]
  refine s.update (elseSame_put hre) (fun x hne => ?_) ?_
  · rw [get?_set, if_neg hne]
  · rw [get?_set, if_pos rfl]
    exact settled_put hnz hre

lemma sound_get (sn : Sound p) (k : String) : Sound { p with storage := (p.storage.get k).2 } := by
  rw [Storage.get]
  split
  · rename_i i hf
    split
    · exact sn
    · rename_i hxp
      -- the expired item is removed from the first layer
      constructor
      intro x hs
      have s := sn.settled x hs
      rw [views] at s ⊢
      rw [webView_erase]
      split
      · rename_i hsm
        have hg : visible p.storage.now (webView p.storage.localStorage
            (p.storage.prefixedKey k)) = none := by
          rw [visible_webView hf, if_neg hxp]
        rw [hsm] at hg
        exact s.purge hg
      · exact s
  · exact sn

lemma sound_remove (s : Sound p) (hsf : Jar.isSafe (p.storage.prefixedKey k).toList = true) :
    Sound ⟨p.storage.remove k, p.last.erase k⟩ := by
  have hv : ∀ x, (p.storage.remove k).views x =
      if p.storage.prefixedKey k = x then [none, none, none, none]
      else p.storage.views x := by
    intro x
    have hc := cookieView_deleteCookie { p.storage with
      localStorage := p.storage.localStorage.erase (p.storage.prefixedKey k)
      sessionStorage := p.storage.sessionStorage.erase (p.storage.prefixedKey k) } hsf x
    have hm := fallbackView_erase p.storage (p.storage.prefixedKey k) x
    have hs : (p.storage.remove k).views x =
        [if p.storage.prefixedKey k = x then none else webView p.storage.localStorage x,
          if p.storage.prefixedKey k = x then none else webView p.storage.sessionStorage x,
          if p.storage.prefixedKey k = x then none else p.storage.cookieView x,
          if p.storage.prefixedKey k = x then none else p.storage.fallbackView x] := by
      rw [← webView_erase, ← webView_erase]
      exact congrArg₂ (fun c m => [_, _, c, m]) hc hm
    rw [hs]
    split <;> rfl
  have hsm : ElseSame (p.storage.prefixedKey k) p.storage (p.storage.remove k) :=
    ⟨rfl, rfl, fun x hne => by rw [hv, if_neg hne]⟩
  refine s.update hsm (fun x hne => ?_) ?_
  · rw [get?_erase, if_neg hne]
  · rw [hv, if_pos rfl, get?_erase, if_pos rfl]
    refine .forget fun layer mem => ?_
    simp only [mem_cons, not_mem_nil, or_false, or_self] at mem
    rw [mem]
    rfl

lemma sound_step {t : History} {l : Label} (s : Sound p) (hca : Careful p l)
    (ht : p.step l = some t) : Sound t := by
  cases l with
  | tick now =>
    cases ht
    exact sound_tick s hca
  | set k v e o =>
    cases ht
    exact sound_set s hca.1 hca.2
  | get k =>
    cases ht
    exact sound_get s k
  | remove k =>
    cases ht
    exact sound_remove s hca

/-- However writes fail: `get` returns what was written last after any run of careful calls. -/
theorem lastWriteWins_of_careful {p t : History} {labels : List Label} (fresh : Fresh p)
    (run : Run History.step Careful p labels t) {key : String}
    (safe : Jar.isSafe (t.storage.prefixedKey key).toList = true) : LastWriteWins t key :=
  lastWriteWins_of_sound (run.invariant Sound (fun _ _ _ => sound_step) (sound_of_fresh fresh)) safe

def emptyHistory : History where
  storage := ⟨"opt_", 0, .empty, .empty, .empty, .empty⟩
  last := .empty

lemma fresh_emptyHistory : Fresh emptyHistory where
  views k layer mem := by
    have none : emptyHistory.storage.views (emptyHistory.storage.prefixedKey k) =
        [none, none, none, none] := rfl
    rw [none] at mem
    simp only [mem_cons, not_mem_nil, or_false, or_self] at mem
    rw [mem]
    rfl
  last := rfl

/-- Every layer takes a value: a cookie for two seconds, and memory when nothing else does. -/
def eachLayer : List Label :=
  [.set "a" "" (some 500) ⟨true, true, .kept⟩, .set "b" "2" none ⟨false, true, .kept⟩,
    .set "c" "3" (some 2000) ⟨false, false, .kept⟩, .set "d" "4" none ⟨false, false, .thrown⟩,
    .tick 1000, .get "a", .remove "b"]

theorem lastWriteWins_of_careful_eachLayer : ∃ t,
    Run History.step Careful emptyHistory eachLayer t ∧
      (t.storage.get "c").1 = some "3" ∧ LastWriteWins t "c" :=
  exists_run_of_seen (fun t => Jar.isSafe (t.storage.prefixedKey "c").toList = true ∧
    (t.storage.get "c").1 = some "3") (by decide +kernel)
    fun _ run seen => ⟨seen.2, lastWriteWins_of_careful fresh_emptyHistory run seen.1⟩

/-- `localStorage` takes the first value and is then full. -/
def staleCopy : List Label :=
  [.set "k" "old" none ⟨true, true, .kept⟩, .set "k" "new" none ⟨false, true, .kept⟩]

theorem staleCopy_reads_old : Fresh emptyHistory ∧ ∃ t,
    Run History.step Always emptyHistory staleCopy t ∧
      Jar.isSafe (t.storage.prefixedKey "k").toList = true ∧ ¬ LastWriteWins t "k" := by
  refine ⟨fresh_emptyHistory, _, run_of_exec rfl, by decide +kernel, ?_⟩
  rw [LastWriteWins]
  decide +kernel

end BrowserStorage
