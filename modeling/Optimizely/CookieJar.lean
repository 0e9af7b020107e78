import Mathlib.Data.List.TakeWhile
import Optimizely.OrderedMap

/-!
# Cookies

A page assigns the text of one cookie to `document.cookie` and reads all as one text. To find a
cookie it splits that text at the name, which works for names without separators. Cookies without a
name are not kept, and attributes other than the expiry do not matter here.
-/

namespace CookieJar

open List Option OrderedMap

def onHead {α : Type*} (f : α → α) : List α → List α
  | [] => []
  | first :: rest => f first :: rest

/-- The pieces of a text between the occurrences of a separator, of which `skip` characters are
still to be left out. -/
def splitFrom (separator : List Char) : Nat → List Char → List (List Char)
  | _, [] => [[]]
  | skip + 1, _ :: rest => splitFrom separator skip rest
  | 0, c :: rest =>
    if separator.isPrefixOf (c :: rest) then [] :: splitFrom separator (separator.length - 1) rest
    else onHead (c :: ·) (splitFrom separator 0 rest)

/-- `String.prototype.split` with a separator that is not empty. -/
def split (separator text : List Char) : List (List Char) := splitFrom separator 0 text

lemma ne_of_not_mem {c : Char} {t : List Char} (hab : c ∉ t) : ∀ d ∈ t, decide (d ≠ c) = true := by
  intro d mem
  rw [decide_eq_true_eq]
  rintro rfl
  exact hab mem

section

variable {k : List Char}

lemma splitFrom_append {first : Char} (sep : List Char) {p : List Char}
    (hab : first ∉ p) (t : List Char) : splitFrom (first :: sep) 0 (p ++ t) =
      onHead (p ++ ·) (splitFrom (first :: sep) 0 t) := by
  induction p with
  | nil =>
    rw [nil_append]
    cases splitFrom (first :: sep) 0 t <;> rfl
  | cons c p ih =>
    simp only [mem_cons, not_or] at hab
    have x : (first :: sep).isPrefixOf (c :: (p ++ t)) = false := by
      simp [isPrefixOf, hab.1]
    rw [cons_append, splitFrom, x, ih hab.2]
    cases splitFrom (first :: sep) 0 t <;> rfl

lemma splitFrom_skip (sep p text : List Char) :
    splitFrom sep p.length (p ++ text) = splitFrom sep 0 text := by
  induction p with
  | nil => rfl
  | cons c p ih => exact ih

/-- Items that are each written after a semicolon and a blank. -/
def written (items : List (List Char)) : List Char := items.flatMap fun item => ';' :: ' ' :: item

variable {items : List (List Char)} {v : List Char}

lemma written_eq (hn : items ≠ []) :
    written items = "; ".toList ++ "; ".toList.intercalate items := by
  induction items with
  | nil => exact absurd rfl hn
  | cons item items ih =>
    cases items with
    | nil => simp [written]
    | cons next items =>
      rw [intercalate_cons_cons, append_assoc, ← ih (by simp)]
      simp [written]

lemma isPrefixOf_written (hs : ';' ∉ k) (item : List Char) (xs : List (List Char)) :
    k.isPrefixOf (item ++ written xs) = k.isPrefixOf item := by
  rw [Bool.eq_iff_iff, isPrefixOf_iff_prefix, isPrefixOf_iff_prefix]
  constructor
  · intro s
    by_cases hsh : k.length ≤ item.length
    · exact prefix_of_prefix_length_le s (prefix_append _ _) hsh
    · -- the key would reach into the next item, past its semicolon
      exfalso
      have hi : item <+: k := prefix_of_prefix_length_le (prefix_append _ _) s (by omega)
      obtain ⟨r, rfl⟩ := hi
      rw [prefix_append_right_inj] at s
      cases xs with
      | nil =>
        rw [prefix_nil.mp s, append_nil] at hsh
        omega
      | cons next xs =>
        cases r with
        | nil => simp at hsh
        | cons c r =>
          have hsm := (cons_prefix_cons.mp s).1
          exact hs (mem_append_right _ (hsm ▸ mem_cons_self))
  · exact fun s => s.trans (prefix_append _ _)

lemma split_written_cons (hsm : ';' ∉ k) {item : List Char} (hp : ';' ∉ item)
    (xs : List (List Char)) : split (';' :: ' ' :: k) (written (item :: xs)) =
      if k.isPrefixOf item then
        [] :: onHead (item.drop k.length ++ ·) (split (';' :: ' ' :: k) (written xs))
      else onHead (';' :: ' ' :: item ++ ·) (split (';' :: ' ' :: k) (written xs)) := by
  have hsh : written (item :: xs) = ';' :: ' ' :: (item ++ written xs) := rfl
  have hf : (';' :: ' ' :: k).isPrefixOf (';' :: ' ' :: (item ++ written xs)) =
      k.isPrefixOf item := by
    rw [← isPrefixOf_written hsm item xs]
    simp [isPrefixOf]
  rw [split, hsh, splitFrom, hf]
  split
  · rename_i s
    obtain ⟨v, rfl⟩ := isPrefixOf_iff_prefix.mp s
    have ht : ';' ∉ v := fun mem => hp (mem_append_right _ mem)
    have hs : splitFrom (';' :: ' ' :: k) ((' ' :: k).length) ((' ' :: k) ++ (v ++ written xs)) =
        splitFrom (';' :: ' ' :: k) 0 (v ++ written xs) :=
      splitFrom_skip _ _ _
    rw [splitFrom_append _ ht] at hs
    simpa [split] using hs
  · have hr : ';' ∉ ' ' :: item := by simpa using hp
    have hi := splitFrom_append (' ' :: k) hr (written xs)
    rw [cons_append] at hi
    rw [hi, split]
    cases splitFrom (';' :: ' ' :: k) 0 (written xs) <;> rfl

lemma split_written_of_none (hs : ';' ∉ k)
    (hp : ∀ i ∈ items, ';' ∉ i) (none : ∀ i ∈ items, k.isPrefixOf i = false) :
    split (';' :: ' ' :: k) (written items) = [written items] := by
  induction items with
  | nil => rfl
  | cons i items ih =>
    rw [split_written_cons hs (hp i mem_cons_self), none i mem_cons_self,
      ih (fun x mem => hp x (mem_cons_of_mem _ mem)) (fun x mem => none x (mem_cons_of_mem _ mem))]
    rfl

/-- One item begins with the key: the last piece begins with the rest of this item. -/
lemma split_written_of_one (hs : ';' ∉ k) {s t : List (List Char)}
    (hp : ∀ i ∈ s ++ (k ++ v) :: t, ';' ∉ i) (hn : ∀ i ∈ s, k.isPrefixOf i = false)
    (hnn : ∀ i ∈ t, k.isPrefixOf i = false) :
    split (';' :: ' ' :: k) (written (s ++ (k ++ v) :: t)) = [written s, v ++ written t] := by
  induction s with
  | nil =>
    have hh : k.isPrefixOf (k ++ v) = true := isPrefixOf_iff_prefix.mpr (prefix_append _ _)
    rw [nil_append] at hp ⊢
    rw [split_written_cons hs (hp _ mem_cons_self), hh,
      split_written_of_none hs (fun i mem => hp i (mem_cons_of_mem _ mem)) hnn, drop_left]
    rfl
  | cons i s ih =>
    rw [cons_append] at hp ⊢
    rw [split_written_cons hs (hp i mem_cons_self), hn i mem_cons_self,
      ih (fun x mem => hp x (mem_cons_of_mem _ mem)) (fun x mem => hn x (mem_cons_of_mem _ mem))]
    rfl

lemma takeWhile_written (hp : ';' ∉ v) (xs : List (List Char)) :
    (v ++ written xs).takeWhile (· ≠ ';') = v := by
  rw [takeWhile_append_of_pos (ne_of_not_mem hp)]
  cases xs with
  | nil | cons _ _ => simp [written]

end

/-- The characters that browsers trim. -/
def isBlank (c : Char) : Bool := c = ' ' || c = '\t'

def isControl (c : Char) : Bool := c.toNat < 32 && c ≠ '\t' || c.toNat = 127

def trim (text : List Char) : List Char :=
  ((text.dropWhile isBlank).reverse.dropWhile isBlank).reverse

structure Content where
  value : List Char
  expires : Option Int
  deriving DecidableEq

/-- A jar has one cookie for a name. -/
structure Jar where
  cookies : OrderedMap (List Char) Content
  wellFormed : ∀ name content, cookies.get? name = some content →
    (name ≠ [] ∧ '=' ∉ name ∧ ';' ∉ name) ∧ ';' ∉ content.value

namespace Jar

def empty : Jar := ⟨.empty, fun _ _ found => by cases found⟩

def isLive (now : Int) (content : Content) : Bool := content.expires.all (now < ·)

def pair (cookie : List Char × Content) : List Char := cookie.1 ++ '=' :: cookie.2.value

def live (jar : Jar) (now : Int) : List (List Char × Content) :=
  jar.cookies.entries.filter fun cookie => isLive now cookie.2

/-- `document.cookie`. -/
def text (jar : Jar) (now : Int) : List Char :=
  "; ".toList.intercalate ((jar.live now).map pair)

/-- The name and the value in an assigned text, which end with the first semicolon. -/
def nameOf (assigned : List Char) : List Char :=
  trim ((assigned.takeWhile (· ≠ ';')).takeWhile (· ≠ '='))

def valueOf (assigned : List Char) : List Char :=
  trim (((assigned.takeWhile (· ≠ ';')).dropWhile (· ≠ '=')).drop 1)

/-- A text without an equals sign is a value without a name. -/
def isNamed (assigned : List Char) : Bool :=
  '=' ∈ assigned.takeWhile (· ≠ ';') && nameOf assigned ≠ [] && !assigned.any isControl

end Jar

variable {text : List Char}

lemma trim_of_no_blank (none : ∀ c ∈ text, isBlank c = false) : trim text = text := by
  have hk : ∀ {part : List Char}, (∀ c ∈ part, isBlank c = false) →
      part.dropWhile isBlank = part := by
    intro part hc
    cases part with
    | nil => rfl
    | cons c part => exact dropWhile_cons_of_neg (by simp [hc c mem_cons_self])
  rw [trim, hk none, hk fun c mem => none c (mem_reverse.mp mem), reverse_reverse]

lemma mem_of_mem_trim {c : Char} (mem : c ∈ trim text) : c ∈ text := by
  rw [trim, mem_reverse] at mem
  have hi := (dropWhile_sublist isBlank).mem mem
  rw [mem_reverse] at hi
  exact (dropWhile_sublist isBlank).mem hi

namespace Jar

lemma nameOf_wellFormed (xs : List Char) : '=' ∉ nameOf xs ∧ ';' ∉ nameOf xs := by
  constructor
  · intro mem
    simpa using mem_takeWhile_imp (mem_of_mem_trim mem)
  · intro mem
    have hi := (takeWhile_sublist _).mem (mem_of_mem_trim mem)
    simpa using mem_takeWhile_imp hi

lemma valueOf_wellFormed (xs : List Char) : ';' ∉ valueOf xs := by
  intro mem
  have hi := mem_of_mem_drop (mem_of_mem_trim mem)
  have first := (dropWhile_sublist _).mem hi
  simpa using mem_takeWhile_imp first

def erase (jar : Jar) (name : List Char) : Jar where
  cookies := jar.cookies.erase name
  wellFormed other content found := by
    rw [OrderedMap.get?_erase] at found
    split at found
    · cases found
    · exact jar.wellFormed other content found

def put (jar : Jar) (assigned : List Char) (named : isNamed assigned = true)
    (expires : Option Int) : Jar where
  cookies := jar.cookies.set (nameOf assigned) ⟨valueOf assigned, expires⟩
  wellFormed name content found := by
    rw [OrderedMap.get?_set] at found
    split at found
    · rename_i same
      cases found
      simp only [isNamed, Bool.and_eq_true, decide_eq_true_eq] at named
      rw [← same]
      exact ⟨⟨named.1.2, nameOf_wellFormed assigned⟩, valueOf_wellFormed assigned⟩
    · exact jar.wellFormed name content found

/-- An assignment to `document.cookie`, with its `expires` attribute. -/
def assign (jar : Jar) (now : Int) (assigned : List Char) (expires : Option Int) : Jar :=
  if named : isNamed assigned = true then
    if expires.all (now < ·) then jar.put assigned named expires else jar.erase (nameOf assigned)
  else jar

/-- The names that a browser takes as they are. -/
def isSafe (name : List Char) : Bool :=
  name ≠ [] && '=' ∉ name && ';' ∉ name && trim name = name && !name.any isControl

lemma isSafe_iff {name : List Char} : isSafe name = true ↔
    name ≠ [] ∧ '=' ∉ name ∧ ';' ∉ name ∧ trim name = name ∧ name.any isControl = false := by
  simp only [isSafe, Bool.and_eq_true, decide_eq_true_eq, Bool.not_eq_true', and_assoc]

section

variable {name v : List Char} (safe : isSafe name = true)
include safe

lemma takeWhile_assigned (hp : ';' ∉ v) :
    (name ++ '=' :: v).takeWhile (· ≠ ';') = name ++ '=' :: v := by
  rw [takeWhile_eq_self_iff]
  apply ne_of_not_mem
  obtain ⟨-, -, hn, -⟩ := isSafe_iff.mp safe
  simp [hn, hp]

lemma before_equals : ∀ c ∈ name, decide (c ≠ '=') = true := ne_of_not_mem (isSafe_iff.mp safe).2.1

lemma nameOf_assigned (hp : ';' ∉ v) : nameOf (name ++ '=' :: v) = name := by
  rw [nameOf, takeWhile_assigned safe hp, takeWhile_append_of_pos (before_equals safe),
    takeWhile_cons_of_neg (by simp), append_nil]
  exact (isSafe_iff.mp safe).2.2.2.1

lemma valueOf_assigned (hp : ';' ∉ v) : valueOf (name ++ '=' :: v) = trim v := by
  rw [valueOf, takeWhile_assigned safe hp, dropWhile_append_of_pos (before_equals safe),
    dropWhile_cons_of_neg (by simp), drop_one, tail_cons]

lemma isNamed_assigned (hpl : ';' ∉ v) (hp : v.any isControl = false) :
    isNamed (name ++ '=' :: v) = true := by
  obtain ⟨hn, -, -, -, hc⟩ := isSafe_iff.mp safe
  rw [isNamed, takeWhile_assigned safe hpl, nameOf_assigned safe hpl, any_append, any_cons, hc, hp]
  simp [hn]
  decide

lemma get?_assign (jar : Jar) (now : Int) (hpl : ';' ∉ v) (hp : v.any isControl = false)
    (es : Option Int) (x : List Char) : (jar.assign now (name ++ '=' :: v) es).cookies.get? x =
      if name = x then (if es.all (now < ·) then some ⟨trim v, es⟩ else none)
      else jar.cookies.get? x := by
  rw [assign, dif_pos (isNamed_assigned safe hpl hp)]
  split
  · rw [put, get?_set, nameOf_assigned safe hpl, valueOf_assigned safe hpl]
  · rw [erase, get?_erase, nameOf_assigned safe hpl]

end

end Jar

/-- How a page finds the value for a name in `document.cookie`. -/
def find (cookies name : List Char) : Option (List Char) :=
  match split (';' :: ' ' :: (name ++ ['='])) ("; ".toList ++ cookies) with
  | [_, rest] => some (rest.takeWhile (· ≠ ';'))
  | _ => none

namespace Jar

variable {cookie : List Char × Content} {name : List Char}

lemma isPrefixOf_pair (hs : '=' ∉ name) (hn : '=' ∉ cookie.1) :
    (name ++ ['=']).isPrefixOf (pair cookie) = true ↔ cookie.1 = name := by
  rw [ isPrefixOf_iff_prefix, pair]
  constructor
  · rintro ⟨rest, hsm⟩
    rw [append_assoc] at hsm
    have first : ∀ {text : List Char}, '=' ∉ text → ∀ t : List Char,
        (text ++ '=' :: t).takeWhile (· ≠ '=') = text := by
      intro text hab t
      rw [takeWhile_append_of_pos (ne_of_not_mem hab)]
      simp
    have hb := congrArg (takeWhile (· ≠ '=')) hsm
    rw [cons_append, first hs, first hn] at hb
    exact hb.symm
  · rintro rfl
    exact ⟨cookie.2.value, by simp⟩

lemma not_mem_pair {jar : Jar} {now : Int}
    (mem : cookie ∈ jar.live now) : '=' ∉ cookie.1 ∧ ';' ∉ pair cookie := by
  have hf := get?_of_mem (mem_of_mem_filter mem)
  obtain ⟨⟨-, hnq, hn⟩, v⟩ := jar.wellFormed _ _ hf
  refine ⟨hnq, ?_⟩
  rw [pair, mem_append, mem_cons, not_or, not_or]
  exact ⟨hn, by decide, v⟩

/-- A page finds the live cookie with a name that has none of the separators. -/
lemma find_text (jar : Jar) (now : Int) (hnq : '=' ∉ name) (hns : ';' ∉ name) :
    find (jar.text now) name = ((jar.cookies.get? name).filter (isLive now)).map (·.value) := by
  have hs : ';' ∉ name ++ ['='] := by simpa using hns
  have items : ∀ item ∈ (jar.live now).map pair, ';' ∉ item := by
    intro item mem
    obtain ⟨cookie, hl, rfl⟩ := mem_map.mp mem
    exact (not_mem_pair hl).2
  have x : ∀ cs : List (List Char × Content), (∀ cookie ∈ cs, cookie ∈ jar.live now) →
      name ∉ cs.map Prod.fst → ∀ item ∈ cs.map pair, (name ++ ['=']).isPrefixOf item = false := by
    intro cs hl hab item mem
    obtain ⟨cookie, hin, rfl⟩ := mem_map.mp mem
    rw [← Bool.not_eq_true, isPrefixOf_pair hnq (not_mem_pair (hl cookie hin)).1]
    rintro rfl
    exact hab (mem_map_of_mem hin)
  have hd : ((jar.live now).map Prod.fst).Nodup := jar.cookies.nodup.sublist (filter_sublist.map _)
  by_cases hp : name ∈ (jar.live now).map Prod.fst
  · obtain ⟨⟨l, c⟩, mem, rfl⟩ := mem_map.mp hp
    obtain ⟨s, t, split⟩ := append_of_mem mem
    have hf := get?_of_mem (mem_of_mem_filter mem)
    have hal : isLive now c = true := (mem_filter.mp mem).2
    have hv : ';' ∉ c.value := (jar.wellFormed _ _ hf).2
    rw [split, map_append, map_cons] at hd
    have hap := nodup_append.mp hd
    have hb := x s (fun cookie hin => split ▸ mem_append_left _ hin)
      (fun hin => hap.2.2 _ hin _ mem_cons_self rfl)
    have ha := x t (fun cookie hin => split ▸ mem_append_right _ (mem_cons_of_mem _ hin))
      (nodup_cons.mp hap.2.1).1
    have hsh : (jar.live now).map pair =
        s.map pair ++ ((l ++ ['=']) ++ c.value) :: t.map pair := by
      rw [split, map_append, map_cons, pair, append_assoc]
      rfl
    have hn : (jar.live now).map pair ≠ [] := by simp [hsh]
    rw [find, text, ← written_eq hn, hsh, split_written_of_one hs (hsh ▸ items) hb ha]
    simp only [takeWhile_written hv, hf, filter_some, hal, if_true, map_some]
  · have none : ((jar.cookies.get? name).filter (isLive now)).map (·.value) = none := by
      rw [map_eq_none_iff, filter_eq_none_iff]
      intro c hf hal
      have mem : (name, c) ∈ jar.live now := mem_filter.mpr ⟨mem_of_get? hf, hal⟩
      exact hp (mem_map_of_mem mem)
    rw [none, find, text]
    by_cases hn : (jar.live now).map pair = []
    · rw [hn]
      cases name <;> simp [split, splitFrom, isPrefixOf, onHead]
    · rw [← written_eq hn, split_written_of_none hs items (x _ (fun _ mem => mem) hp)]

end Jar

end CookieJar
