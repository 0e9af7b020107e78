import Optimizely.CookieJar
import Optimizely.LayeredStore
import Optimizely.PercentEncoding
import Optimizely.Utf16

/-!
# The storage of the tracker

A value is written to the first of `localStorage`, `sessionStorage`, cookies and memory that takes
it, and looked for in the same order. Writes may fail, reads and removals work. Cookies expire in
whole seconds.
-/

namespace BrowserStorage

open List Option

open CookieJar (Jar)
open LayeredStore (Item visible)

/-- The text of an item; other texts are read as if there were none. -/
abbrev WebStorage := OrderedMap String (Option (Item String))

structure Storage where
  namePrefix : String
  now : Nat
  localStorage : WebStorage
  sessionStorage : WebStorage
  cookies : Jar
  fallback : OrderedMap String String

/-- A cookie that the browser refuses is ignored without an exception. -/
inductive CookieWrite where
  | kept
  | ignored
  | thrown
  deriving DecidableEq

/-- Which of the layers take a write. -/
structure Outcome where
  localStorage : Bool
  sessionStorage : Bool
  cookies : CookieWrite
  deriving DecidableEq

def isNotExpired (now : Nat) (expiry : Option Int) : Bool :=
  expiry.all fun time => time = 0 || (now : Int) < time

/-- `value.length`. -/
def jsLength (value : String) : Nat := (Utf16.ofString value).length

namespace Storage

def prefixedKey (s : Storage) (key : String) : String := s.namePrefix ++ key

def getCookie (s : Storage) (name : String) : Option String :=
  (CookieJar.find (s.cookies.text s.now) name.toList).bind fun value =>
    if value = [] then none else UriComponent.readComponent value

/-- A date in UTC has no milliseconds. -/
def expires (expiry : Option Int) : Option Int :=
  (expiry.filter (· ≠ 0)).map fun time => time / 1000 * 1000

def setCookie (s : Storage) (name value : String) (expiry : Option Int) : Storage :=
  let cookie := name.toList ++ '=' :: UriComponent.component value
  { s with cookies := s.cookies.assign s.now cookie (expires expiry) }

def deleteCookie (s : Storage) (name : String) : Storage :=
  { s with cookies := s.cookies.assign s.now (name.toList ++ '=' :: []) (some 0) }

/-- What `get` finds after `localStorage`. -/
def getBelow (s : Storage) (name : String) : Option String :=
  match s.sessionStorage.get? name with
  | some (some item) =>
    if isNotExpired s.now item.expiry then some item.value else getCookieOrFallback
  | _ => getCookieOrFallback
where
  getCookieOrFallback : Option String :=
    match s.getCookie name with
    | some value => if value ≠ "" then some value else getFallback
    | none => getFallback
  getFallback : Option String := (s.fallback.get? name).filter (· ≠ "")

def get (s : Storage) (key : String) : Option String × Storage :=
  let name := s.prefixedKey key
  match s.localStorage.get? name with
  | some (some item) =>
    if isNotExpired s.now item.expiry then (some item.value, s)
    else
      let removed := { s with localStorage := s.localStorage.erase name }
      (removed.getBelow name, removed)
  | _ => (s.getBelow name, s)

def setFallback (s : Storage) (name value : String) : Storage :=
  let fallback := s.fallback.set name value
  { s with fallback :=
      if 100 < fallback.entries.length then
        (fallback.keys.take 20).foldl (fun kept name => kept.erase name) fallback
      else fallback }

def set (s : Storage) (key value : String) (expiry : Option Int) (outcome : Outcome) : Storage :=
  let name := s.prefixedKey key
  if outcome.localStorage then
    { s with localStorage := s.localStorage.set name (some ⟨value, expiry⟩) }
  else if outcome.sessionStorage then
    { s with sessionStorage := s.sessionStorage.set name (some ⟨value, expiry⟩) }
  else if jsLength value < 4000 ∧ outcome.cookies ≠ .thrown then
    if outcome.cookies = .kept then s.setCookie name value expiry else s
  else s.setFallback name value

def remove (s : Storage) (key : String) : Storage :=
  let name := s.prefixedKey key
  let removed := { s with
    localStorage := s.localStorage.erase name
    sessionStorage := s.sessionStorage.erase name }.deleteCookie name
  { removed with fallback := s.fallback.erase name }

/-- `_getAllKeys`. An empty name is left out in the first two layers. -/
def getAllKeys (s : Storage) : List String :=
  let own (name : String) : Bool := s.namePrefix.toList.isPrefixOf name.toList
  ((s.localStorage.keys.filter fun name => name ≠ "" && own name) ++
    (s.sessionStorage.keys.filter fun name => name ≠ "" && own name) ++
    s.fallback.keys.filter own).dedup

/-- `key.replace(this._prefix, '')` of a key that begins with it. -/
def withoutPrefix (s : Storage) (name : String) : String :=
  String.ofList (name.toList.drop s.namePrefix.toList.length)

def clear (s : Storage) : Storage :=
  let cleared := s.getAllKeys.foldl (fun s name => s.remove (s.withoutPrefix name)) s
  { cleared with fallback := .empty }

end Storage

/-! ## The layers

What the four layers hold under a name, in the order in which they are read. -/

/-- An expiry of zero is none. -/
def webView (layer : WebStorage) (name : String) : Option (Item String) :=
  (layer.get? name).join.map fun item => ⟨item.value, item.expiry.filter (· ≠ 0)⟩

namespace Storage

def cookieView (s : Storage) (name : String) : Option (Item String) :=
  (s.cookies.cookies.get? name.toList).bind fun content =>
    ((if content.value = [] then none else UriComponent.readComponent content.value).filter
      (· ≠ "")).map fun value => ⟨value, content.expires⟩

def fallbackView (s : Storage) (name : String) : Option (Item String) :=
  ((s.fallback.get? name).filter (· ≠ "")).map fun value => ⟨value, none⟩

def views (s : Storage) (name : String) : List (Option (Item String)) :=
  [webView s.localStorage name, webView s.sessionStorage name, s.cookieView name,
    s.fallbackView name]

end Storage

lemma isLive_webView (now : Nat) (v : String) (expiry : Option Int) :
    Item.isLive now (⟨v, expiry.filter (· ≠ 0)⟩ : Item String) = isNotExpired now expiry := by
  cases expiry with
  | none => rfl
  | some t =>
    by_cases hz : t = 0 <;> simp [Item.isLive, isNotExpired, hz]

lemma visible_webView {now : Nat} {l : WebStorage} {n : String} {i : Item String}
    (hf : l.get? n = some (some i)) : visible now (webView l n) =
      if isNotExpired now i.expiry then some ⟨i.value, i.expiry.filter (· ≠ 0)⟩ else none := by
  rw [webView, hf]
  simp only [join_some, map_some, visible, filter_some, isLive_webView]

lemma webView_of_unread {l : WebStorage} {n : String}
    (hu : ∀ i, l.get? n ≠ some (some i)) : webView l n = none := by
  rw [webView]
  cases hf : l.get? n with
  | none => rfl
  | some t =>
    cases t with
    | none => rfl
    | some i => exact absurd hf (hu i)

namespace Storage

lemma getCookie_eq (s : Storage) {n : String} (hs : Jar.isSafe n.toList = true) :
    (s.getCookie n).filter (· ≠ "") = (visible s.now (s.cookieView n)).map (·.value) := by
  obtain ⟨-, hnq, hn, -⟩ := Jar.isSafe_iff.mp hs
  rw [getCookie, Jar.find_text s.cookies s.now hnq hn, cookieView]
  cases hf : s.cookies.cookies.get? n.toList with
  | none => rfl
  | some c =>
    cases ha : Jar.isLive s.now c with
    | false =>
      have hdd : ∀ v : String, Item.isLive s.now ⟨v, c.expires⟩ = false := fun _ => ha
      simp only [filter_some, ha, Bool.false_eq_true, if_false, map_none,
        bind_none, filter_none, bind_some, visible]
      cases (if c.value = [] then none else UriComponent.readComponent c.value).filter (· ≠ "") with
      | none => rfl
      | some v => simp [hdd]
    | true =>
      have hl : ∀ v : String, Item.isLive s.now ⟨v, c.expires⟩ = true := fun _ => ha
      simp only [filter_some, ha, if_true, map_some, bind_some, visible]
      cases (if c.value = [] then none else UriComponent.readComponent c.value).filter (· ≠ "") with
      | none => rfl
      | some v => simp [hl]

lemma getBelow_eq (s : Storage) {n : String} (hsf : Jar.isSafe n.toList = true) :
    s.getBelow n = LayeredStore.read s.now
      [webView s.sessionStorage n, s.cookieView n, s.fallbackView n] := by
  have hm : getBelow.getFallback s n = LayeredStore.read s.now [s.fallbackView n] := by
    rw [getBelow.getFallback, LayeredStore.read, fallbackView]
    cases (s.fallback.get? n).filter (· ≠ "") with
    | none | some _ => rfl
  have hc : getBelow.getCookieOrFallback s n =
      LayeredStore.read s.now [s.cookieView n, s.fallbackView n] := by
    have hsm := getCookie_eq s hsf
    rw [LayeredStore.read, findSome?_cons]
    rw [LayeredStore.read] at hm
    rw [getBelow.getCookieOrFallback]
    cases hs : visible s.now (s.cookieView n) with
    | none =>
      rw [hs, map_none] at hsm
      cases hf : s.getCookie n with
      | none => exact hm
      | some v =>
        rw [hf] at hsm
        have he : ¬ v ≠ "" := by
          intro x
          simp [x] at hsm
        simp only [if_neg he]
        exact hm
    | some i =>
      rw [hs, map_some, filter_eq_some_iff] at hsm
      rw [hsm.1]
      simp only [if_pos (of_decide_eq_true hsm.2), map_some]
  rw [getBelow, LayeredStore.read, findSome?_cons]
  split
  · rename_i i hf
    rw [visible_webView hf]
    split
    · rfl
    · exact hc
  · rename_i hu
    rw [webView_of_unread hu]
    exact hc

lemma get_eq_read (s : Storage) {k : String} (hs : Jar.isSafe (s.prefixedKey k).toList = true) :
    (s.get k).1 = LayeredStore.read s.now (s.views (s.prefixedKey k)) := by
  have below := getBelow_eq s hs
  rw [LayeredStore.read] at below
  rw [get, views, LayeredStore.read, findSome?_cons]
  split
  · rename_i item hf
    rw [visible_webView hf]
    split
    · rfl
    · exact below
  · rename_i hu
    rw [webView_of_unread hu]
    exact below

end Storage

end BrowserStorage
