import Optimizely.BrowserStorage

/-!
# Clearing a storage

`clear` enumerates `localStorage`, `sessionStorage` and memory by the prefix and removes each name
from all layers. Cookies are not enumerated, and a name may begin with the prefix of another
storage.
-/

namespace BrowserStorage

open List OrderedMap

open CookieJar (Jar)
open LayeredStore (Item Silent visible)

/-- Where an entry of another storage may be; each storage has its own memory. -/
inductive Place where
  | localStorage
  | sessionStorage
  | cookies
  deriving DecidableEq

structure Entry where
  place : Place
  name : String
  deriving DecidableEq

def Storage.Holds (s : Storage) (entry : Entry) : Prop :=
  match entry.place with
  | .localStorage => (s.localStorage.get? entry.name).isSome
  | .sessionStorage => (s.sessionStorage.get? entry.name).isSome
  | .cookies => (s.cookies.cookies.get? entry.name.toList).isSome

/-- After `clear` the keys of this storage are gone, and the entries of others are still there. -/
structure Cleared (s : Storage) (own : List String) (others : List Entry) : Prop where
  own : ∀ key ∈ own, (s.clear.get key).1 = none
  others : ∀ entry ∈ others, s.Holds entry → s.clear.Holds entry

/-- The cookie that the removal of a name deletes. -/
def deletedCookie (name : String) : Option (List Char) :=
  if Jar.isNamed (name.toList ++ '=' :: []) then some (Jar.nameOf (name.toList ++ '=' :: []))
  else none

namespace Storage

/-- The cookies that are deleted are those of the enumerated names. -/
def deletedCookies (s : Storage) : List (List Char) := s.getAllKeys.filterMap deletedCookie

def withoutDeleted (s : Storage) : Storage :=
  { s with cookies := s.deletedCookies.foldl Jar.erase s.cookies }

/-- No value is left for a name: the enumeration has not skipped it, as it does with the empty name,
and no cookie that has not been deleted is read for it. -/
def Erased (s : Storage) (name : String) : Prop :=
  (name ∈ s.getAllKeys ∨
    Silent s.now [webView s.localStorage name, webView s.sessionStorage name]) ∧
  (s.withoutDeleted.getCookie name).filter (· ≠ "") = none

/-- The entry is none of those that are removed. -/
def Spared (s : Storage) (entry : Entry) : Prop :=
  match entry.place with
  | .localStorage | .sessionStorage => entry.name ∉ s.getAllKeys
  | .cookies => entry.name.toList ∉ s.deletedCookies

variable {name : String} {s : Storage}

lemma prefixedKey_withoutPrefix (own : s.namePrefix.toList.isPrefixOf name.toList = true) :
    s.prefixedKey (s.withoutPrefix name) = name := by
  obtain ⟨rest, split⟩ := isPrefixOf_iff_prefix.mp own
  apply String.toList_injective
  rw [prefixedKey, withoutPrefix, String.toList_append, String.toList_ofList, ← split, drop_left]

lemma mem_getAllKeys : name ∈ s.getAllKeys ↔ s.namePrefix.toList.isPrefixOf name.toList = true ∧
      (name ≠ "" ∧ (name ∈ s.localStorage.keys ∨ name ∈ s.sessionStorage.keys) ∨
        name ∈ s.fallback.keys) := by
  simp only [getAllKeys, mem_dedup, mem_append, mem_filter, Bool.and_eq_true, decide_eq_true_eq]
  tauto

/-- What a part of the loop has removed. -/
structure Removed (names : List String) (s t : Storage) : Prop where
  now : t.now = s.now
  namePrefix : t.namePrefix = s.namePrefix
  localStorage : ∀ name, t.localStorage.get? name =
    if name ∈ names then none else s.localStorage.get? name
  sessionStorage : ∀ name, t.sessionStorage.get? name =
    if name ∈ names then none else s.sessionStorage.get? name
  cookies : t.cookies = (names.filterMap deletedCookie).foldl Jar.erase s.cookies

lemma deleteCookie_cookies (s : Storage) (n : String) : (s.deleteCookie n).cookies =
      (deletedCookie n).elim s.cookies s.cookies.erase := by
  have hp : ¬ (s.now : Int) < 0 := by omega
  rw [deleteCookie, deletedCookie, Jar.assign]
  split
  · simp [hp]
  · rfl

lemma removed_remove (own : s.namePrefix.toList.isPrefixOf name.toList = true) :
    Removed [name] s (s.remove (s.withoutPrefix name)) := by
  have k := prefixedKey_withoutPrefix own
  refine ⟨rfl, rfl, fun x => ?_, fun x => ?_, ?_⟩
  · simp only [remove, deleteCookie, k, get?_erase, mem_singleton, eq_comm]
  · simp only [remove, deleteCookie, k, get?_erase, mem_singleton, eq_comm]
  · rw [remove]
    simp only [k]
    rw [deleteCookie_cookies]
    cases hdl : deletedCookie name <;> simp [hdl]

lemma Removed.cons {ns : List String} {t r : Storage}
    (first : Removed [name] s t) (rest : Removed ns t r) : Removed (name :: ns) s r where
  now := rest.now.trans first.now
  namePrefix := rest.namePrefix.trans first.namePrefix
  localStorage x := by
    rw [rest.localStorage, first.localStorage]
    simp only [mem_cons, not_mem_nil, or_false]
    by_cases here : x = name <;> by_cases hl : x ∈ ns <;> simp [here, hl]
  sessionStorage x := by
    rw [rest.sessionStorage, first.sessionStorage]
    simp only [mem_cons, not_mem_nil, or_false]
    by_cases here : x = name <;> by_cases hl : x ∈ ns <;> simp [here, hl]
  cookies := by
    rw [rest.cookies, first.cookies]
    cases hdl : deletedCookie name <;> simp [hdl]

lemma removed_loop (ns : List String)
    (own : ∀ name ∈ ns, s.namePrefix.toList.isPrefixOf name.toList = true) :
    Removed ns s (ns.foldl (fun s name => s.remove (s.withoutPrefix name)) s) := by
  induction ns generalizing s with
  | nil => exact ⟨rfl, rfl, fun _ => by simp, fun _ => by simp, rfl⟩
  | cons name ns ih =>
    have first := removed_remove (own name mem_cons_self)
    refine first.cons (ih fun x mem => ?_)
    exact own x (mem_cons_of_mem _ mem)

lemma removed_clear (s : Storage) : Removed s.getAllKeys s s.clear := by
  have hl := removed_loop s.getAllKeys fun name mem => (mem_getAllKeys.mp mem).1
  exact { hl with }

lemma get_eq_none_iff (s : Storage) (k : String) : (s.get k).1 = none ↔
      Silent s.now [webView s.localStorage (s.prefixedKey k),
        webView s.sessionStorage (s.prefixedKey k)] ∧
      (s.getCookie (s.prefixedKey k)).filter (· ≠ "") = none ∧
      (s.fallback.get? (s.prefixedKey k)).filter (· ≠ "") = none := by
  obtain ⟨name, hn⟩ : ∃ name, s.prefixedKey k = name := ⟨_, rfl⟩
  have hc : getBelow.getCookieOrFallback s name = none ↔ (s.getCookie name).filter (· ≠ "") = none ∧
        (s.fallback.get? name).filter (· ≠ "") = none := by
    rw [getBelow.getCookieOrFallback, getBelow.getFallback]
    cases s.getCookie name with
    | none => simp
    | some v => by_cases he : v = "" <;> simp [he]
  have below : s.getBelow name = none ↔ visible s.now (webView s.sessionStorage name) = none ∧
        (s.getCookie name).filter (· ≠ "") = none ∧
          (s.fallback.get? name).filter (· ≠ "") = none := by
    rw [getBelow, ← hc]
    split
    · rename_i i hf
      rw [visible_webView hf]
      split <;> simp
    · rename_i hu
      rw [webView_of_unread hu]
      simp [visible]
  have hsi : Silent s.now [webView s.localStorage name, webView s.sessionStorage name] ↔
      visible s.now (webView s.localStorage name) = none ∧
        visible s.now (webView s.sessionStorage name) = none := by
    simp [Silent]
  rw [hn, hsi, and_assoc, ← below, get]
  simp only [hn]
  split
  · rename_i i hf
    rw [visible_webView hf]
    split
    · simp
    · simp only [true_and]
      rfl
  · rename_i hu
    rw [webView_of_unread hu]
    simp [visible]

lemma webView_clear (s : Storage) (name : String) : webView s.clear.localStorage name =
        (if name ∈ s.getAllKeys then none else webView s.localStorage name) ∧
      webView s.clear.sessionStorage name =
        if name ∈ s.getAllKeys then none else webView s.sessionStorage name := by
  have hrm := removed_clear s
  simp only [webView, hrm.localStorage, hrm.sessionStorage]
  by_cases hl : name ∈ s.getAllKeys <;> simp [hl]

lemma erased_iff (s : Storage) (k : String) :
    (s.clear.get k).1 = none ↔ s.Erased (s.prefixedKey k) := by
  have hrm := removed_clear s
  have name : s.clear.prefixedKey k = s.prefixedKey k := by
    rw [prefixedKey, prefixedKey, hrm.namePrefix]
  have cookie : s.clear.getCookie (s.prefixedKey k) =
      s.withoutDeleted.getCookie (s.prefixedKey k) := by
    rw [getCookie, getCookie, hrm.cookies, hrm.now]
    rfl
  obtain ⟨first, second⟩ := webView_clear s (s.prefixedKey k)
  have memory : s.clear.fallback.get? (s.prefixedKey k) = none := rfl
  rw [get_eq_none_iff, name, cookie, memory, hrm.now, first, second, Erased]
  by_cases listed : s.prefixedKey k ∈ s.getAllKeys <;> simp [listed, Silent, visible]

lemma get?_foldl_erase (ns : List (List Char)) (jar : Jar) (name : List Char) :
    (ns.foldl Jar.erase jar).cookies.get? name =
      if name ∈ ns then none else jar.cookies.get? name := by
  induction ns generalizing jar with
  | nil => simp
  | cons first ns ih =>
    rw [foldl_cons, ih, Jar.erase, get?_erase]
    by_cases hh : first = name
    · simp [hh]
    · by_cases hl : name ∈ ns <;> simp [hl, hh, Ne.symm hh]

lemma spared_iff (s : Storage) {e : Entry} (hh : s.Holds e) : s.clear.Holds e ↔ s.Spared e := by
  have hrm := removed_clear s
  obtain ⟨p, name⟩ := e
  cases p with
  | localStorage =>
    simp only [Holds, Spared, hrm.localStorage] at hh ⊢
    by_cases hl : name ∈ s.getAllKeys <;> simp [hl, hh]
  | sessionStorage =>
    simp only [Holds, Spared, hrm.sessionStorage] at hh ⊢
    by_cases hl : name ∈ s.getAllKeys <;> simp [hl, hh]
  | cookies =>
    simp only [Holds, Spared, hrm.cookies, get?_foldl_erase] at hh ⊢
    have hdl : s.getAllKeys.filterMap deletedCookie = s.deletedCookies := rfl
    rw [hdl]
    by_cases hl : name.toList ∈ s.deletedCookies <;> simp [hl, hh]

end Storage

/-- Whatever the layers hold: `clear` does what it is for just if it leaves no cookie of its keys
and meets no name of another storage. -/
theorem cleared_iff (s : Storage) (own : List String) (others : List Entry) : Cleared s own others ↔
      (∀ key ∈ own, s.Erased (s.prefixedKey key)) ∧
        ∀ entry ∈ others, s.Holds entry → s.Spared entry := by
  constructor
  · intro hc
    refine ⟨fun key mem => ?_, fun entry mem hh => ?_⟩
    · exact (s.erased_iff key).mp (hc.own key mem)
    · exact (s.spared_iff hh).mp (hc.others entry mem hh)
  · rintro ⟨he, hs⟩
    refine ⟨fun key mem => ?_, fun entry mem hh => ?_⟩
    · exact (s.erased_iff key).mpr (he key mem)
    · exact (s.spared_iff hh).mpr (hs entry mem hh)

/-- A cookie of the key `visitor`, and an item of a storage with a longer prefix. -/
def twoStorages : Storage :=
  (Storage.mk "opt_" 0 (OrderedMap.empty.set "opt_shop_cart" (some ⟨"1", none⟩)) .empty .empty
    .empty).setCookie "opt_visitor" "v_1" none

theorem twoStorages_not_cleared : (twoStorages.clear.get "visitor").1 = some "v_1" ∧
      twoStorages.Holds ⟨.localStorage, "opt_shop_cart"⟩ ∧
      ¬ twoStorages.clear.Holds ⟨.localStorage, "opt_shop_cart"⟩ ∧
      ¬ Cleared twoStorages ["visitor"] [⟨.localStorage, "opt_shop_cart"⟩] := by
  have visitor : (twoStorages.clear.get "visitor").1 = some "v_1" := by decide +kernel
  have hh : twoStorages.Holds ⟨.localStorage, "opt_shop_cart"⟩ := by
    simp only [Storage.Holds]
    decide +kernel
  have hr : ¬ twoStorages.clear.Holds ⟨.localStorage, "opt_shop_cart"⟩ := by
    simp only [Storage.Holds]
    decide +kernel
  refine ⟨visitor, hh, hr, fun hc => ?_⟩
  exact hr (hc.others _ mem_cons_self hh)

end BrowserStorage
