import Mathlib.Data.List.Basic

/-!
# Layers of a store

A key has at most one entry in each of several layers, and entries may expire. The first that has
not is read. What is read is what was written last if no entry of an earlier layer can be read, and
none of a later one in case the new one expires.
-/

namespace LayeredStore

open List

structure Item (V : Type*) where
  value : V
  expiry : Option Int
  deriving DecidableEq

variable {V : Type*} {now : Int} {layer : Option (Item V)}
  {layers before s after t : List (Option (Item V))}

def Item.isLive (now : Int) (item : Item V) : Bool := item.expiry.all (now < ·)

def visible (now : Int) (layer : Option (Item V)) : Option (Item V) := layer.filter (·.isLive now)

def read (now : Int) (layers : List (Option (Item V))) : Option V :=
  (layers.findSome? (visible now)).map (·.value)

/-- What is to be read after the last write, which is none after a removal. -/
def expected (now : Int) (last : Option (Item V)) : Option V := (visible now last).map (·.value)

def Silent (now : Int) (layers : List (Option (Item V))) : Prop :=
  ∀ layer ∈ layers, visible now layer = none

/-- What the layers hold after the last write: nothing is to be read, or the item stands behind
layers that are silent, and before such layers if it expires. -/
def Settled (now : Int) (layers : List (Option (Item V))) (last : Option (Item V)) : Prop :=
  (visible now last = none ∧ Silent now layers) ∨
    ∃ item before after, last = some item ∧ layers = before ++ some item :: after ∧
      Silent now before ∧ (item.expiry.isSome → Silent now after)

lemma visible_some_of_isLive {item : Item V} (ha : item.isLive now = true) :
    visible now (some item) = some item := by
  simp [visible, ha]

lemma isLive_or_expiry (now : Int) (item : Item V) :
    item.isLive now = true ∨ visible now (some item) = none ∧ item.expiry.isSome := by
  cases ha : item.isLive now with
  | true => exact .inl rfl
  | false =>
    refine .inr ⟨by simp [visible, ha], ?_⟩
    rw [Item.isLive] at ha
    cases he : item.expiry with
    | none => simp [he] at ha
    | some time => rfl

lemma findSome?_of_silent (hsi : Silent now layers) : layers.findSome? (visible now) = none :=
  findSome?_eq_none_iff.mpr hsi

lemma read_of_settled {last : Option (Item V)} (hse : Settled now layers last) :
    read now layers = expected now last := by
  rcases hse with ⟨hg, hsi⟩ | ⟨i, s, t, rfl, rfl, hs, hsl⟩
  · rw [read, expected, hg, findSome?_of_silent hsi]
  · rw [read, expected, findSome?_append, findSome?_of_silent hs, Option.none_or, findSome?_cons]
    rcases isLive_or_expiry now i with ha | ⟨hdd, es⟩
    · rw [visible_some_of_isLive ha]
    · rw [hdd, findSome?_of_silent (hsl es)]

lemma visible_none_later {l : Int} (le : now ≤ l) (hg : visible now layer = none) :
    visible l layer = none := by
  cases layer with
  | none => rfl
  | some i =>
    rcases isLive_or_expiry l i with ha | ⟨hdd, -⟩
    · exfalso
      have s : i.isLive now = true := by
        rw [Item.isLive] at ha ⊢
        cases he : i.expiry with
        | none => rfl
        | some time =>
          simp only [he, Option.all_some, decide_eq_true_eq] at ha ⊢
          omega
      rw [visible_some_of_isLive s] at hg
      cases hg
    · exact hdd

lemma Silent.later {l : Int} (hsi : Silent now layers) (le : now ≤ l) : Silent l layers :=
  fun layer mem => visible_none_later le (hsi layer mem)

lemma Settled.later {l : Int} {last : Option (Item V)} (hse : Settled now layers last)
    (le : now ≤ l) : Settled l layers last := by
  rcases hse with ⟨hg, hsi⟩ | ⟨i, s, t, rfl, rfl, hs, hsl⟩
  · exact .inl ⟨visible_none_later le hg, hsi.later le⟩
  · exact .inr ⟨i, s, t, rfl, rfl, hs.later le, fun es => (hsl es).later le⟩

lemma silent_append_cons : Silent now (s ++ layer :: t) ↔
      Silent now s ∧ visible now layer = none ∧ Silent now t := by
  simp only [Silent, mem_append, mem_cons]
  constructor
  · intro all
    exact ⟨fun x mem => all x (.inl mem), all layer (.inr (.inl rfl)),
      fun x mem => all x (.inr (.inr mem))⟩
  · rintro ⟨first, hh, l⟩ x (mem | rfl | mem)
    · exact first x mem
    · exact hh
    · exact l x mem

lemma Settled.write {i : Item V} (hw : layer = some i ∨ layer = none ∧ visible now (some i) = none)
    (hs : Silent now s) (hsl : i.expiry.isSome → Silent now t) :
    Settled now (s ++ layer :: t) (some i) := by
  rcases hw with rfl | ⟨rfl, hdd⟩
  · exact .inr ⟨i, s, t, rfl, rfl, hs, hsl⟩
  · rcases isLive_or_expiry now i with ha | ⟨-, es⟩
    · rw [visible_some_of_isLive ha] at hdd
      cases hdd
    · exact .inl ⟨hdd, silent_append_cons.mpr ⟨hs, rfl, hsl es⟩⟩

lemma Settled.forget (hsi : Silent now layers) : Settled now layers none := .inl ⟨rfl, hsi⟩

lemma Settled.purge {last : Option (Item V)} (hse : Settled now (layer :: t) last)
    (gone : visible now layer = none) : Settled now (none :: t) last := by
  rcases hse with ⟨dead, hsi⟩ | ⟨item, s, rest, rfl, split, silentBefore, silentRest⟩
  · refine .inl ⟨dead, ?_⟩
    rw [← nil_append (none :: t), silent_append_cons]
    rw [← nil_append (layer :: t), silent_append_cons] at hsi
    exact ⟨hsi.1, rfl, hsi.2.2⟩
  · cases s with
    | nil =>
      obtain ⟨rfl, rfl⟩ := cons.inj split
      exact .write (.inr ⟨rfl, gone⟩) silentBefore silentRest
    | cons first s =>
      obtain ⟨rfl, rfl⟩ := cons.inj split
      refine .inr ⟨item, none :: s, rest, rfl, rfl, ?_, silentRest⟩
      intro x mem
      rcases mem_cons.mp mem with rfl | hin
      · rfl
      · exact silentBefore x (mem_cons_of_mem _ hin)

end LayeredStore
