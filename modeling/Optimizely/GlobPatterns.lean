import Mathlib.Data.List.Infix

/-!
# Glob patterns of Redis

`*` stands for any text, `?` for any character, brackets for a set of characters with ranges, and a
backslash takes the next character as it is.
-/

namespace GlobPatterns

open List

inductive Token where
  | star
  | any
  | literal (c : Char)
  | oneOf (negated : Bool) (ranges : List (Char × Char))

/-- The tokens of a pattern, given the bracket that is open. A bracket that is never closed ends
with the pattern. -/
def parse : Option (Bool × List (Char × Char)) → List Char → List Token
  | none, [] => []
  | none, '*' :: rest => .star :: parse none rest
  | none, '?' :: rest => .any :: parse none rest
  | none, '[' :: '^' :: rest => parse (some (true, [])) rest
  | none, '[' :: rest => parse (some (false, [])) rest
  | none, '\\' :: c :: rest => .literal c :: parse none rest
  | none, c :: rest => .literal c :: parse none rest
  | some (negated, ranges), [] => [.oneOf negated ranges]
  | some (negated, ranges), '\\' :: c :: rest => parse (some (negated, (c, c) :: ranges)) rest
  | some (negated, ranges), ']' :: rest => .oneOf negated ranges :: parse none rest
  | some (negated, ranges), low :: '-' :: high :: rest =>
    parse (some (negated, (low, high) :: ranges)) rest
  | some (negated, ranges), c :: rest => parse (some (negated, (c, c) :: ranges)) rest

/-- The ends of a range may stand in either order. -/
def inRange (c : Char) (range : Char × Char) : Bool :=
  (range.1 ≤ c && c ≤ range.2) || (range.2 ≤ c && c ≤ range.1)

def Token.accepts (c : Char) : Token → Bool
  | .star => true
  | .any => true
  | .literal expected => c = expected
  | .oneOf negated ranges => ranges.any (inRange c) != negated

def accepts : List Token → List Char → Bool
  | [], text => text.isEmpty
  | .star :: tokens, text => text.tails.any (accepts tokens)
  | token :: tokens, text => match text with
    | [] => false
    | c :: text => token.accepts c && accepts tokens text

def globMatches (pattern text : String) : Bool :=
  accepts (parse none pattern.toList) text.toList

/-- The character stands for itself. -/
def Plain (c : Char) : Prop := c ∉ ['*', '?', '[', '\\']

deriving instance Decidable for Plain

lemma plain_of_all {s : String} (h : s.toList.all (Plain ·) = true) : ∀ c ∈ s.toList, Plain c := by
  simpa using h

lemma parse_plain {s : List Char} (hp : ∀ c ∈ s, Plain c) (rest : List Char) :
    parse none (s ++ rest) = s.map .literal ++ parse none rest := by
  induction s with
  | nil => rfl
  | cons c s ih =>
    have first : Plain c := hp c mem_cons_self
    simp only [Plain, mem_cons, not_mem_nil, or_false, not_or] at first
    rw [cons_append, parse, ih fun c mem => hp c (mem_cons_of_mem _ mem)]
    · rfl
    all_goals grind

lemma accepts_literals (s t : List Char) (tks : List Token) :
    accepts (s.map .literal ++ tks) t = true ↔ ∃ r, t = s ++ r ∧ accepts tks r = true := by
  induction s generalizing t with
  | nil => simp
  | cons c s ih =>
    cases t with
    | nil => simp [accepts]
    | cons first t => simp [accepts, Token.accepts, ih, and_assoc]

/-- A pattern of plain characters before a last star accepts the texts that begin with them. -/
lemma globMatches_stem {s : String} (hp : ∀ c ∈ s.toList, Plain c) (t : String) :
    globMatches (s ++ "*") t = true ↔ s.toList <+: t.toList := by
  have hs : ∀ r : List Char, accepts (parse none ['*']) r = true := by
    intro r
    exact any_eq_true.mpr ⟨[], (mem_tails _ _).mpr nil_suffix, rfl⟩
  rw [globMatches, String.toList_append, parse_plain hp, accepts_literals]
  constructor
  · rintro ⟨r, hsm, -⟩
    exact ⟨r, hsm.symm⟩
  · rintro ⟨r, hsm⟩
    exact ⟨r, hsm.symm, hs r⟩

end GlobPatterns
