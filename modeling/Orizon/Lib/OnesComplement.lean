import Mathlib.Data.Nat.ModEq
import Mathlib.Tactic.Common

/-!
# Orizon.Lib.OnesComplement

Sums in one's complement: numbers of `w` bits are added with the carry brought round to the
lowest bit.

Such a sum is the plain sum up to multiples of `2^w - 1`, and 0 only if that is
(`onesSum_eq_onesNorm`).  So it does not matter when the carries are brought round, and a sum
with the complement of the rest in it is all ones (`onesNorm_add_complement`).
-/

namespace Orizon

/-- The sum of two numbers with the carry brought round. -/
def onesAdd (w a b : Nat) : Nat := (a + b) % 2 ^ w + (a + b) / 2 ^ w

/-- The sum of numbers, one behind the other. -/
def onesSum (w : Nat) (words : List Nat) : Nat := words.foldl (onesAdd w) 0

/-- The number of `w` bits that stands for `n`: 0 only for 0. -/
def onesNorm (w n : Nat) : Nat := if n = 0 then 0 else (n - 1) % (2 ^ w - 1) + 1

variable {w m n s : Nat} {words : List Nat}

theorem onesNorm_eq_zero : onesNorm w n = 0 ↔ n = 0 := by
  unfold onesNorm
  split <;> simp_all

theorem onesNorm_modEq (w n : Nat) : onesNorm w n ≡ n [MOD 2 ^ w - 1] := by
  unfold onesNorm
  split
  next h => rw [h]
  next h =>
    have hmod : (n - 1) % (2 ^ w - 1) + 1 ≡ n - 1 + 1 [MOD 2 ^ w - 1] := (Nat.mod_modEq _ _).add_right 1
    rwa [Nat.sub_add_cancel (by omega)] at hmod

theorem onesNorm_congr (h : m ≡ n [MOD 2 ^ w - 1]) (hzero : m = 0 ↔ n = 0) : onesNorm w m = onesNorm w n := by
  unfold onesNorm
  by_cases hm : m = 0
  · rw [if_pos hm, if_pos (hzero.mp hm)]
  · have hn : n ≠ 0 := fun hn => hm (hzero.mpr hn)
    have hpred : m - 1 ≡ n - 1 [MOD 2 ^ w - 1] := by
      apply Nat.ModEq.add_right_cancel' 1
      rwa [Nat.sub_add_cancel (by omega), Nat.sub_add_cancel (by omega)]
    rw [if_neg hm, if_neg hn, hpred]

theorem onesNorm_lt (hw : 0 < w) (n : Nat) : onesNorm w n < 2 ^ w := by
  have hpow : 2 ^ 1 ≤ 2 ^ w := Nat.pow_le_pow_right (by decide) hw
  have hmod := Nat.mod_lt (n - 1) (show 0 < 2 ^ w - 1 by omega)
  unfold onesNorm
  split <;> omega

/-- A number of `w` bits stands for itself. -/
theorem onesNorm_of_lt (h : n < 2 ^ w) : onesNorm w n = n := by
  unfold onesNorm
  split
  next hn => exact hn.symm
  next hn =>
    rw [Nat.mod_eq_of_lt (by omega)]
    omega

theorem onesNorm_fold (hw : 0 < w) (n : Nat) : onesNorm w (n % 2 ^ w + n / 2 ^ w) = onesNorm w n := by
  have hpow : 2 ^ 1 ≤ 2 ^ w := Nat.pow_le_pow_right (by decide) hw
  have hdiv := Nat.div_add_mod n (2 ^ w)
  have hsplit : n = n % 2 ^ w + n / 2 ^ w + (2 ^ w - 1) * (n / 2 ^ w) := by
    have hmul : 2 ^ w * (n / 2 ^ w) = (2 ^ w - 1) * (n / 2 ^ w) + n / 2 ^ w := by
      rw [← Nat.succ_mul, Nat.succ_eq_add_one, Nat.sub_add_cancel (by omega)]
    omega
  have hzero : n % 2 ^ w + n / 2 ^ w = 0 ↔ n = 0 := by
    constructor
    · intro h
      rw [hsplit, h, Nat.eq_zero_of_add_eq_zero_left h, Nat.mul_zero]
    · rintro rfl
      simp
  refine onesNorm_congr ?_ hzero
  conv_rhs => rw [hsplit]
  exact (Nat.modEq_add_modulus_mul_iff.mpr rfl)

/-- A sum of numbers that were brought round is the sum brought round. -/
theorem onesAdd_onesNorm (hw : 0 < w) (h : n < 2 ^ w) : onesAdd w (onesNorm w m) n = onesNorm w (m + n) := by
  have hm := onesNorm_lt hw m
  have hsmall : onesAdd w (onesNorm w m) n < 2 ^ w := by
    unfold onesAdd
    by_cases hcarry : onesNorm w m + n < 2 ^ w
    · rw [Nat.mod_eq_of_lt hcarry, Nat.div_eq_of_lt hcarry]
      omega
    · rw [Nat.mod_eq_sub_mod (by omega), Nat.mod_eq_of_lt (by omega),
        Nat.div_eq_of_lt_le (k := 1) (by omega) (by omega)]
      omega
  rw [← onesNorm_of_lt hsmall, onesAdd, onesNorm_fold hw]
  have hzero := onesNorm_eq_zero (w := w) (n := m)
  exact onesNorm_congr ((onesNorm_modEq w m).add_right n) (by omega)

/-- A sum in one's complement is the plain sum with all carries brought round. -/
theorem onesSum_eq_onesNorm (hw : 0 < w) (h : ∀ x ∈ words, x < 2 ^ w) : onesSum w words = onesNorm w words.sum := by
  have hfold : ∀ (words : List Nat) (start : Nat), (∀ x ∈ words, x < 2 ^ w) →
      words.foldl (onesAdd w) (onesNorm w start) = onesNorm w (start + words.sum) := by
    intro words
    induction words with
    | nil => intro start _; rfl
    | cons x words ih =>
        intro start hwords
        rw [List.foldl_cons, onesAdd_onesNorm hw (hwords x (by simp)), ih _ fun y hy => hwords y (by simp [hy]),
          List.sum_cons, Nat.add_assoc]
  have hzero : onesNorm w 0 = 0 := onesNorm_eq_zero.mpr rfl
  rw [onesSum, ← hzero, hfold words 0 h, Nat.zero_add]

theorem onesNorm_add_complement (hw : 0 < w) (n : Nat) :
    onesNorm w (n + (2 ^ w - 1 - onesNorm w n)) = 2 ^ w - 1 := by
  have hn := onesNorm_lt hw n
  have hpow : 2 ^ 1 ≤ 2 ^ w := Nat.pow_le_pow_right (by decide) hw
  have hzero := onesNorm_eq_zero (w := w) (n := n)
  have hmod : n + (2 ^ w - 1 - onesNorm w n) ≡ 2 ^ w - 1 [MOD 2 ^ w - 1] := by
    have h := (onesNorm_modEq w n).symm.add_right (2 ^ w - 1 - onesNorm w n)
    rwa [Nat.add_sub_cancel' (by omega)] at h
  rw [onesNorm_congr hmod (by omega), onesNorm_of_lt (by omega)]

end Orizon
