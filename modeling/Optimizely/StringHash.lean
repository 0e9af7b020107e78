import Optimizely.BrowserSession
import Optimizely.UniversalABTesting

/-!
# The string hash

Four copies of one loop bucket visitors and fingerprint browsers. Each cuts every step to 32 bits;
before the cut it computes with doubles, which are exact up to `2 ^ 53`.
-/

namespace StringHash

open ABTesting (toInt32)
open Utf16 (CodeUnit Text)

/-- What one round of the loop cuts to 32 bits. -/
def unreduced (hash : Int) (char : CodeUnit) : Int := toInt32 (hash * 2 ^ 5) - hash + char.toNat

def loop (str : Text) : Int := str.foldl (fun hash char => toInt32 (unreduced hash char)) 0

/-- The copy in the utilities of the tracker. -/
def simpleHash (str : Text) : Nat := if str.length = 0 then 0 else (loop str).natAbs

/-- The sum of `c_i * 31 ^ (n - 1 - i)` over the code units. -/
def polynomial : Text → Int
  | [] => 0
  | c :: cs => c.toNat * 31 ^ cs.length + polynomial cs

lemma polynomial_concat (s : Text) (c : CodeUnit) :
    polynomial (s ++ [c]) = 31 * polynomial s + c.toNat := by
  induction s with
  | nil => simp [polynomial]
  | cons d s ih =>
    rw [List.cons_append, polynomial, polynomial, ih, List.length_append, List.length_singleton,
      Int.pow_succ, ← Int.mul_assoc]
    omega

lemma loop_eq (str : Text) : loop str = toInt32 (polynomial str) := by
  induction str using List.reverseRecOn with
  | nil => rfl
  | append_singleton s c ih =>
    have hs : loop (s ++ [c]) = toInt32 (unreduced (loop s) c) := by simp [loop]
    have hr : polynomial s * 2 ^ 5 - polynomial s = 31 * polynomial s := by omega
    rw [hs, ih, polynomial_concat, unreduced, toInt32, toInt32, toInt32, Int.bmod_mul_bmod]
    rw [← Int.bmod_add_bmod, Int.bmod_sub_bmod, Int.sub_bmod_bmod, Int.bmod_add_bmod, hr]
    rfl

lemma toInt32_bounds (x : Int) : -2 ^ 31 ≤ toInt32 x ∧ toInt32 x < 2 ^ 31 := by
  constructor
  · exact Int.le_bmod (by decide)
  · exact Int.bmod_lt (by decide)

/-- The loop over 32-bit words. -/
lemma words_eq (str : Text) : str.foldl (fun (a : BitVec 32) unit =>
    (a <<< 5) - a + BitVec.ofNat 32 unit.toNat) 0 = BitVec.ofInt 32 (polynomial str) := by
  induction str using List.reverseRecOn with
  | nil => rfl
  | append_singleton s c ih =>
    have hs (v : BitVec 32) : v <<< 5 - v = 31 * v := by bv_omega
    rw [List.foldl_concat, ih, polynomial_concat, hs, BitVec.ofInt_add, BitVec.ofInt_mul]
    rfl

theorem hash_eq_polynomial (str : Text) :
    ABTesting.simpleHash str = (toInt32 (polynomial str)).natAbs ∧
    ABTesting.simpleHash str ≤ 2 ^ 31 ∧ ABTesting.simpleHash str % 100 ≤ 99 ∧
    UniversalABTesting.hashString str = ABTesting.simpleHash str ∧
    simpleHash str = ABTesting.simpleHash str ∧
    BrowserSession.hashUnits str = ABTesting.simpleHash str ∧
    ∀ s ch, (unreduced (loop s) ch).natAbs ≤ 2 ^ 53 := by
  have first : ABTesting.simpleHash str = (loop str).natAbs := rfl
  have bounds := toInt32_bounds (polynomial str)
  rw [first, loop_eq]
  refine ⟨rfl, by omega, by omega, ?_, ?_, ?_, fun s ch => ?_⟩
  · exact congrArg Int.natAbs (loop_eq str)
  · cases str with
    | nil => rfl
    | cons c cs => exact congrArg Int.natAbs (loop_eq _)
  · rw [BrowserSession.hashUnits, words_eq, BitVec.toInt_ofInt]
    rfl
  · have ha := toInt32_bounds (polynomial s)
    have shifted := toInt32_bounds (loop s * 2 ^ 5)
    have unit := ch.toNat_lt
    rw [← loop_eq] at ha
    rw [unreduced]
    omega

end StringHash
