import Orizon.Lib.BinaryField
import Mathlib.Algebra.Field.ZMod

/-!
# Orizon.Lib.Crc

Cyclic redundancy checks with the least significant bit first.

Such a check is the remainder of the message, as a polynomial over the field of two
elements, modulo a generator of degree `w` (`IsCrc`): the register begins and ends
complemented, and its most significant bit is the coefficient of 1.  A register that
takes the message byte by byte, and shifts, computes it (`isCrc_iff`).
-/

namespace Orizon

/-! ## The register -/

section Register

variable {w : Nat}

/-- The register shifted by one bit; the bit that falls out adds the generator. -/
def crcShift (poly r : BitVec w) : BitVec w := (r >>> 1) ^^^ (if r.getLsbD 0 then poly else 0)

/-- The register after a byte. -/
def crcByte (poly r : BitVec w) (byte : BitVec 8) : BitVec w :=
  (crcShift poly)^[8] (r ^^^ byte.setWidth w)

/-- The register after a message. -/
def crcBytes (poly r : BitVec w) (bytes : List (BitVec 8)) : BitVec w := bytes.foldl (crcByte poly) r

end Register

/-! ## Values -/

section Value

variable {R : Type*} [CommRing R] (α : R)

/-- The value of a register at `α`. -/
def crcValue {w : Nat} (r : BitVec w) : R := bitValue α w r.getMsbD

/-- The value of a message, its first bit with the highest power. -/
def messageValue : List (BitVec 8) → R
  | [] => 0
  | byte :: bytes => α ^ (8 * bytes.length) * crcValue α byte + messageValue bytes

variable {α} {w : Nat}

theorem crcValue_xor (h2 : (2 : R) = 0) (a b : BitVec w) :
    crcValue α (a ^^^ b) = crcValue α a + crcValue α b := by
  unfold crcValue
  rw [← bitValue_xor α w h2]
  exact bitValue_congr α w fun i _ => BitVec.getMsbD_xor

theorem crcValue_zero : crcValue α (0 : BitVec w) = 0 := by
  unfold crcValue
  rw [← bitValue_zero α w]
  exact bitValue_congr α w fun i _ => by simp

/-- A shift multiplies by `α`, where `α` is a root of the generator. -/
theorem crcValue_shift (h2 : (2 : R) = 0) {poly : BitVec (w + 1)}
    (hα : α ^ (w + 1) = crcValue α poly) (r : BitVec (w + 1)) :
    crcValue α (crcShift poly r) = α * crcValue α r := by
  have hshift := @bitValue_shift R _ α w r.getMsbD (r >>> 1).getMsbD
    (by simp) (fun i hi => by simp; omega)
  have hlow : r.getMsbD w = r.getLsbD 0 := by simp [BitVec.getMsbD_eq_getLsbD]
  unfold crcShift
  rw [crcValue_xor h2]
  unfold crcValue at hα ⊢
  rw [← hshift, hlow]
  cases r.getLsbD 0 with
  | false => exact congrArg _ crcValue_zero
  | true =>
      rw [if_pos rfl, if_pos rfl, hα]

theorem bitValue_above (k m : Nat) (bit : Nat → Bool) :
    bitValue α (k + m) (fun i => decide (k ≤ i) && bit (i - k)) = α ^ k * bitValue α m bit := by
  unfold bitValue
  rw [Finset.sum_range_add, Finset.mul_sum]
  have hlow : ∑ i ∈ Finset.range k, (if (decide (k ≤ i) && bit (i - k)) = true then α ^ i else 0) = 0 := by
    refine Finset.sum_eq_zero fun i hi => ?_
    have hlt := Finset.mem_range.mp hi
    simp [Nat.not_le.mpr hlt]
  rw [hlow, zero_add]
  refine Finset.sum_congr rfl fun i _ => ?_
  cases hbit : bit i <;> simp [hbit, pow_add]

theorem crcValue_setWidth (k : Nat) (byte : BitVec 8) :
    crcValue α (byte.setWidth (k + 8)) = α ^ k * crcValue α byte := by
  unfold crcValue
  rw [← bitValue_above k 8 byte.getMsbD]
  refine bitValue_congr α _ fun i _ => ?_
  rw [BitVec.getMsbD_setWidth]
  congr 2
  simp

theorem crcValue_byte (h2 : (2 : R) = 0) {k : Nat} {poly : BitVec (k + 8)}
    (hα : α ^ (k + 8) = crcValue α poly) (r : BitVec (k + 8)) (byte : BitVec 8) :
    crcValue α (crcByte poly r byte) = α ^ 8 * crcValue α r + α ^ (k + 8) * crcValue α byte := by
  have hshifts : ∀ n (r : BitVec (k + 8)), crcValue α ((crcShift poly)^[n] r) = α ^ n * crcValue α r := by
    intro n
    induction n with
    | zero => simp
    | succ n ih =>
        intro r
        rw [Function.iterate_succ_apply, ih, crcValue_shift h2 hα, pow_succ, mul_assoc]
  unfold crcByte
  rw [hshifts, crcValue_xor h2, crcValue_setWidth]
  ring

/-- The register holds what it began with and the message, both shifted past the
message. -/
theorem crcValue_bytes (h2 : (2 : R) = 0) {k : Nat} {poly : BitVec (k + 8)}
    (hα : α ^ (k + 8) = crcValue α poly) (r : BitVec (k + 8)) (bytes : List (BitVec 8)) :
    crcValue α (crcBytes poly r bytes) =
      α ^ (8 * bytes.length) * crcValue α r + α ^ (k + 8) * messageValue α bytes := by
  induction bytes generalizing r with
  | nil => simp [crcBytes, messageValue]
  | cons byte bytes ih =>
      have hstep : crcBytes poly r (byte :: bytes) = crcBytes poly (crcByte poly r byte) bytes := rfl
      rw [hstep, ih, crcValue_byte h2 hα, messageValue, List.length_cons]
      ring

end Value

/-! ## The check -/

section Check

open Polynomial

variable {w : Nat}

/-- The polynomial of a register. -/
noncomputable def crcPoly (poly : BitVec w) : (ZMod 2)[X] := @crcValue _ Polynomial.commRing X w poly

/-- The generator `X ^ w + …` whose lower coefficients are the bits of `poly`. -/
noncomputable def crcModulus (poly : BitVec w) : (ZMod 2)[X] := X ^ w + crcPoly poly

/-- The check of a message: its complement is the remainder of the message times
`X ^ w`, the first `w` bits complemented. -/
def IsCrc (poly : BitVec w) (bytes : List (BitVec 8)) (crc : BitVec w) : Prop :=
  crcValue (AdjoinRoot.root (crcModulus poly)) (~~~crc) =
    AdjoinRoot.root (crcModulus poly) ^ (8 * bytes.length) *
        crcValue (AdjoinRoot.root (crcModulus poly)) (BitVec.allOnes w) +
      AdjoinRoot.root (crcModulus poly) ^ w * messageValue (AdjoinRoot.root (crcModulus poly)) bytes

theorem degree_crcPoly (poly : BitVec w) : (crcPoly poly).degree < w :=
  degree_bitValue_X w poly.getMsbD

theorem crcRoot_two (poly : BitVec w) : (2 : AdjoinRoot (crcModulus poly)) = 0 := by
  rw [← map_ofNat (AdjoinRoot.of (crcModulus poly)) 2, show (2 : ZMod 2) = 0 from rfl, map_zero]

theorem natDegree_crcModulus (poly : BitVec w) : (crcModulus poly).natDegree = w := by
  have hlow : (crcPoly poly).degree < (X ^ w : (ZMod 2)[X]).degree := by
    rw [degree_X_pow]
    exact degree_crcPoly poly
  unfold crcModulus
  rw [natDegree_add_eq_left_of_degree_lt hlow, natDegree_X_pow]

theorem crcValue_root (poly : BitVec w) : AdjoinRoot.root (crcModulus poly) ^ w =
    crcValue (AdjoinRoot.root (crcModulus poly)) poly := by
  have hmk : AdjoinRoot.mk (crcModulus poly) (crcPoly poly) =
      crcValue (AdjoinRoot.root (crcModulus poly)) poly := by
    unfold crcPoly crcValue bitValue
    rw [map_sum]
    refine Finset.sum_congr rfl fun i _ => ?_
    cases poly.getMsbD i <;> simp
  have hzero : AdjoinRoot.root (crcModulus poly) ^ w +
      crcValue (AdjoinRoot.root (crcModulus poly)) poly = 0 := by
    have hself := AdjoinRoot.mk_self (f := crcModulus poly)
    unfold crcModulus at hself hmk ⊢
    rw [map_add, hmk, map_pow, AdjoinRoot.mk_X] at hself
    exact hself
  have htwice : crcValue (AdjoinRoot.root (crcModulus poly)) poly +
      crcValue (AdjoinRoot.root (crcModulus poly)) poly = 0 := by
    rw [← two_mul, crcRoot_two, zero_mul]
  exact (eq_neg_of_add_eq_zero_left hzero).trans (eq_neg_of_add_eq_zero_left htwice).symm

/-- A register that begins and ends complemented computes the check, and the check has
no other value. -/
theorem isCrc_iff {k : Nat} (poly : BitVec (k + 8)) (bytes : List (BitVec 8)) (crc : BitVec (k + 8)) :
    IsCrc poly bytes crc ↔ crc = ~~~(crcBytes poly (BitVec.allOnes (k + 8)) bytes) := by
  have hmonic : (crcModulus poly).Monic := monic_X_pow_add (degree_crcPoly poly)
  unfold IsCrc
  rw [← crcValue_bytes (crcRoot_two poly) (crcValue_root poly)]
  constructor
  · intro heq
    have hbits := bitValue_injective hmonic (natDegree_crcModulus poly) heq
    rw [← BitVec.eq_of_getMsbD_eq hbits, BitVec.not_not]
  · rintro rfl
    rw [BitVec.not_not]

end Check

end Orizon
