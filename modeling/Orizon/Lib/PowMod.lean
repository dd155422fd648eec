import Mathlib.Data.Nat.ModEq
import Mathlib.NumberTheory.LucasPrimality

/-!
# Orizon.Lib.PowMod

Modular powers by repeated squaring, which evaluate, and primality by Lucas's
test on them.
-/

namespace Orizon

/-- `b ^ e % m` by the `k` bits of `e`. -/
def powMod (m b : Nat) : Nat → Nat → Nat
  | 0, _ => 1 % m
  | k + 1, e =>
      let root := powMod m b k (e / 2)
      if e % 2 = 1 then root * root % m * b % m else root * root % m

theorem powMod_eq {m b k e : Nat} (h : e < 2 ^ k) : powMod m b k e = b ^ e % m := by
  induction k generalizing e with
  | zero =>
      obtain rfl : e = 0 := by omega
      rfl
  | succ k ih =>
      have hroot := ih (e := e / 2) (by omega)
      have hsquare : powMod m b k (e / 2) * powMod m b k (e / 2) % m = b ^ (2 * (e / 2)) % m := by
        rw [hroot, ← Nat.mul_mod, ← pow_add, two_mul]
      unfold powMod
      dsimp only
      rw [hsquare]
      split
      · next hodd =>
          have he : e = 2 * (e / 2) + 1 := by omega
          conv_rhs => rw [he, pow_succ]
          rw [Nat.mod_mul_mod]
      · next heven =>
          have he : e = 2 * (e / 2) := by omega
          conv_rhs => rw [he]

/-- Lucas's test for a prime below `2 ^ k` that is one more than `c * 2 ^ m`, with
`c` prime. -/
theorem prime_of_powMod {c m k : Nat} (hc : c.Prime) (a : Nat) (hm : 0 < m)
    (hk : c * 2 ^ m < 2 ^ k) (hfull : powMod (c * 2 ^ m + 1) a k (c * 2 ^ m) = 1)
    (htwo : powMod (c * 2 ^ m + 1) a k (c * 2 ^ (m - 1)) ≠ 1)
    (hodd : powMod (c * 2 ^ m + 1) a k (2 ^ m) ≠ 1) : (c * 2 ^ m + 1).Prime := by
  have hone : 1 % (c * 2 ^ m + 1) = 1 :=
    Nat.mod_eq_of_lt (Nat.lt_add_of_pos_left (Nat.mul_pos hc.pos (Nat.two_pow_pos m)))
  have hcast : ∀ e, e < 2 ^ k →
      ((a : ZMod (c * 2 ^ m + 1)) ^ e = 1 ↔ powMod (c * 2 ^ m + 1) a k e = 1) := by
    intro e he
    have hiff := ZMod.natCast_eq_natCast_iff' (a ^ e) 1 (c * 2 ^ m + 1)
    rw [hone, Nat.cast_pow, Nat.cast_one] at hiff
    rw [hiff, powMod_eq he]
  have hhalf : c * 2 ^ m / 2 = c * 2 ^ (m - 1) := by
    obtain ⟨j, rfl⟩ := Nat.exists_eq_succ_of_ne_zero hm.ne'
    rw [Nat.succ_sub_one, Nat.pow_succ, ← Nat.mul_assoc, Nat.mul_div_cancel _ Nat.two_pos]
  refine lucas_primality _ (a : ZMod (c * 2 ^ m + 1)) ?_ fun r hr hdvd => ?_
  · rw [Nat.add_sub_cancel, hcast _ hk]
    exact hfull
  · rw [Nat.add_sub_cancel] at hdvd ⊢
    rw [Ne, hcast _ (lt_of_le_of_lt (Nat.div_le_self _ _) hk)]
    obtain hdvd | hdvd := (Nat.Prime.dvd_mul hr).mp hdvd
    · obtain rfl := (Nat.prime_dvd_prime_iff_eq hr hc).mp hdvd
      rwa [Nat.mul_div_cancel_left _ hc.pos]
    · obtain rfl := (Nat.prime_dvd_prime_iff_eq hr Nat.prime_two).mp (hr.dvd_of_dvd_pow hdvd)
      rwa [hhalf]

end Orizon
