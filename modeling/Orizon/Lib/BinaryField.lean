import Mathlib.Algebra.Polynomial.Monic
import Mathlib.Data.ZMod.Basic
import Mathlib.RingTheory.AdjoinRoot
import Mathlib.Tactic.Ring

/-!
# Orizon.Lib.BinaryField

Bit strings as elements of a ring of characteristic two: bit `i` is the
coefficient of `α ^ i`.

A machine multiplies such strings serially: it goes through the bits of one
factor, adds the other where a bit is set, and multiplies the other by `α`.
What it computes is the product in the ring (`serial_product`).  In the ring of
polynomials modulo a monic polynomial the string can be told from its value
(`bitValue_injective`).
-/

namespace Orizon

section BitValue

variable {R : Type*} [CommRing R]

/-- The value at `α` of the bit string `bit 0 … bit (n - 1)`. -/
def bitValue (α : R) (n : ℕ) (bit : ℕ → Bool) : R :=
  ∑ i ∈ Finset.range n, if bit i then α ^ i else 0

variable (α : R) (n : ℕ)

theorem bitValue_congr {a b : ℕ → Bool} (h : ∀ i < n, a i = b i) :
    bitValue α n a = bitValue α n b :=
  Finset.sum_congr rfl fun i hi => by rw [h i (Finset.mem_range.mp hi)]

@[simp] theorem bitValue_zero : bitValue α n (fun _ => false) = 0 := by simp [bitValue]

theorem bitValue_succ (bit : ℕ → Bool) :
    bitValue α (n + 1) bit = bitValue α n bit + if bit n then α ^ n else 0 :=
  Finset.sum_range_succ _ n

/-- In characteristic two, combining bits by exclusive or adds the values. -/
theorem bitValue_xor (h2 : (2 : R) = 0) (a b : ℕ → Bool) :
    bitValue α n (fun i => a i ^^ b i) = bitValue α n a + bitValue α n b := by
  rw [bitValue, bitValue, bitValue, ← Finset.sum_add_distrib]
  refine Finset.sum_congr rfl fun i _ => ?_
  cases a i <;> cases b i <;> simp [← two_mul, h2]

/-- Bits that are not set above `m` do not count. -/
theorem bitValue_le {m : ℕ} (hm : m ≤ n) {bit : ℕ → Bool} (h : ∀ i, m ≤ i → i < n → bit i = false) :
    bitValue α n bit = bitValue α m bit := by
  refine (Finset.sum_subset (Finset.range_subset_range.mpr hm) fun i hi hlow => ?_).symm
  rw [h i (by simpa using hlow) (by simpa using hi)]
  rfl

/-- Moving every bit one place up multiplies by `α`, but for the bit that falls out. -/
theorem bitValue_shift {a b : ℕ → Bool} (h0 : b 0 = false) (hsucc : ∀ i < n, b (i + 1) = a i) :
    bitValue α (n + 1) b + (if a n then α ^ (n + 1) else 0) = α * bitValue α (n + 1) a := by
  have hb : bitValue α (n + 1) b = α * bitValue α n a := by
    rw [bitValue, Finset.sum_range_succ', h0, bitValue, Finset.mul_sum]
    simp only [Bool.false_eq_true, if_false, add_zero]
    refine Finset.sum_congr rfl fun i hi => ?_
    rw [hsucc i (Finset.mem_range.mp hi)]
    cases a i <;> simp [pow_succ']
  rw [hb, bitValue_succ, mul_add]
  cases a n <;> simp [pow_succ']

/-- The product by a serial multiplier: the state is the sum so far and the shifted
factor, and step `i` adds the factor if bit `i` is set and then multiplies it by `α`. -/
theorem serial_product {S : Type*} (val : S → R) (step : S × S → ℕ → S × S) (x : ℕ → Bool)
    (hsum : ∀ s i, val (step s i).1 = val s.1 + if x i then val s.2 else 0)
    (hshift : ∀ s i, val (step s i).2 = α * val s.2) (s : S × S) :
    val ((List.range n).foldl step s).1 = val s.1 + bitValue α n x * val s.2 := by
  have hfactor : ∀ k, val ((List.range k).foldl step s).2 = α ^ k * val s.2 := by
    intro k
    induction k with
    | zero => simp
    | succ k ih => rw [List.range_succ, List.foldl_append, List.foldl_cons, List.foldl_nil, hshift, ih,
        pow_succ', mul_assoc]
  induction n with
  | zero => simp [bitValue]
  | succ k ih =>
      rw [List.range_succ, List.foldl_append, List.foldl_cons, List.foldl_nil, hsum, ih, hfactor,
        bitValue_succ]
      cases x k with
      | false => simp
      | true =>
          simp only [if_true]
          ring

end BitValue

section Quotient

open Polynomial

variable {R : Type*} [CommRing R]

theorem coeff_bitValue_X (n : ℕ) (bit : ℕ → Bool) {i : ℕ} (hi : i < n) :
    (bitValue (X : R[X]) n bit).coeff i = if bit i then 1 else 0 := by
  rw [bitValue, finsetSum_coeff, Finset.sum_eq_single i]
  · cases bit i <;> simp
  · intro j _ hj
    cases bit j <;> simp [coeff_X_pow, hj.symm]
  · intro hmem
    exact absurd (Finset.mem_range.mpr hi) hmem

theorem degree_bitValue_X (n : ℕ) (bit : ℕ → Bool) : (bitValue (X : R[X]) n bit).degree < n := by
  refine (degree_lt_iff_coeff_zero _ _).mpr fun m hm => ?_
  rw [bitValue, finsetSum_coeff]
  refine Finset.sum_eq_zero fun j hj => ?_
  have hne : m ≠ j := by
    have := Finset.mem_range.mp hj
    omega
  cases bit j <;> simp [coeff_X_pow, hne]

/-- Below the degree of a monic modulus, the bits can be had back from the value. -/
theorem bitValue_injective [Nontrivial R] {g : R[X]} (hg : g.Monic) {n : ℕ} (hn : g.natDegree = n)
    {a b : ℕ → Bool} (h : bitValue (AdjoinRoot.root g) n a = bitValue (AdjoinRoot.root g) n b) :
    ∀ i < n, a i = b i := by
  have hmk : ∀ bit, bitValue (AdjoinRoot.root g) n bit = AdjoinRoot.mk g (bitValue X n bit) := by
    intro bit
    simp only [bitValue, map_sum]
    refine Finset.sum_congr rfl fun i _ => ?_
    cases bit i <;> simp
  rw [hmk, hmk, AdjoinRoot.mk_eq_mk] at h
  have hzero : bitValue (X : R[X]) n a - bitValue X n b = 0 := by
    by_contra hne
    refine hg.not_dvd_of_degree_lt hne ?_ h
    rw [degree_eq_natDegree hg.ne_zero, hn]
    exact lt_of_le_of_lt (degree_sub_le _ _)
      (max_lt (degree_bitValue_X n a) (degree_bitValue_X n b))
  intro i hi
  have hcoeff := congrArg (fun p => coeff p i) (sub_eq_zero.mp hzero)
  simp only [coeff_bitValue_X n _ hi] at hcoeff
  cases ha : a i <;> cases hb : b i <;> simp_all

end Quotient

end Orizon
