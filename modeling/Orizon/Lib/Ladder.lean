import Orizon.Lib.Digits
import Mathlib.Algebra.Group.Basic
import Mathlib.Algebra.Module.NatInt

/-!
# Orizon.Lib.Ladder

The three bit-scanning loops of multiprecision arithmetic, over arbitrary
monoids: square-and-multiply and double-and-add from the most significant
bit, and shift-and-add from the least significant bit.  Each lemma gives
the loop's result as a power (or a multiple) by the number its bits denote;
a machine loop is then related to the abstract one with `List.foldl_rel`.
-/

namespace Orizon

/-! ## Bits from the most significant end -/

/-- The number a big-endian bit string denotes. -/
def beBits (bits : List Bool) : Nat := leBits bits.reverse

@[simp] theorem beBits_nil : beBits [] = 0 := rfl

theorem beBits_append (xs ys : List Bool) :
    beBits (xs ++ ys) = beBits xs * 2 ^ ys.length + beBits ys := by
  rw [beBits, List.reverse_append, leBits_append, List.length_reverse, beBits, beBits]
  ring

@[simp] theorem beBits_cons (b : Bool) (bits : List Bool) :
    beBits (b :: bits) = b.toNat * 2 ^ bits.length + beBits bits := by
  have h := beBits_append [b] bits
  simpa [beBits] using h

/-- The bits of a byte string, most significant first. -/
def bytesBitsMsb (bs : List UInt8) : List Bool := bs.flatMap fun b => (byteBits b).reverse

/-- The bits of a byte string read from its end, least significant first. -/
def bytesBitsLsb (bs : List UInt8) : List Bool := bs.flatMap byteBits

private theorem length_bytesBitsMsb (bs : List UInt8) : (bytesBitsMsb bs).length = 8 * bs.length := by
  induction bs with
  | nil => rfl
  | cons b bs ih =>
      rw [bytesBitsMsb, List.flatMap_cons, List.length_append, ← bytesBitsMsb, ih]
      simp; omega

theorem beBits_bytesBitsMsb (bs : List UInt8) : beBits (bytesBitsMsb bs) = beNat bs := by
  induction bs with
  | nil => rfl
  | cons b bs ih =>
      rw [bytesBitsMsb, List.flatMap_cons, beBits_append, ← bytesBitsMsb, ih,
        length_bytesBitsMsb, beNat_cons, beBits, List.reverse_reverse, leBits_byteBits,
        Nat.pow_mul]

theorem leBits_bytesBitsLsb (bs : List UInt8) : leBits (bytesBitsLsb bs) = leNat bs := by
  induction bs with
  | nil => rfl
  | cons b bs ih =>
      rw [bytesBitsLsb, List.flatMap_cons, leBits_append, ← bytesBitsLsb, ih, leBits_byteBits,
        length_byteBits, leNat_cons]
      norm_num

/-! ## The loops -/

theorem foldl_square_multiply {M : Type*} [Monoid M] (x : M) (bits : List Bool) (k : Nat) :
    bits.foldl (fun r b => if b then r * r * x else r * r) (x ^ k) =
      x ^ (k * 2 ^ bits.length + beBits bits) := by
  induction bits generalizing k with
  | nil => simp
  | cons b bits ih =>
      have hstep : (if b then x ^ k * x ^ k * x else x ^ k * x ^ k) = x ^ (2 * k + b.toNat) := by
        cases b <;> simp [← pow_add, ← pow_succ, two_mul]
      rw [List.foldl_cons, hstep, ih, beBits_cons, List.length_cons, Nat.pow_succ]
      congr 1
      ring

theorem foldl_double_add {M : Type*} [AddCommMonoid M] (y : M) (bits : List Bool) (k : Nat) :
    bits.foldl (fun r b => if b then r + r + y else r + r) (k • y) =
      (k * 2 ^ bits.length + beBits bits) • y := by
  induction bits generalizing k with
  | nil => simp
  | cons b bits ih =>
      have hstep : (if b then k • y + k • y + y else k • y + k • y) = (2 * k + b.toNat) • y := by
        cases b <;> simp [add_nsmul, two_mul]
      rw [List.foldl_cons, hstep, ih, beBits_cons, List.length_cons, Nat.pow_succ]
      congr 1
      ring

/-- Shift-and-add: the accumulator collects the multiple the bits denote
while the addend is doubled at every bit. -/
theorem foldl_shift_add {M : Type*} [AddCommMonoid M] (bits : List Bool) (acc t : M) :
    bits.foldl (fun (s : M × M) b => (if b then s.1 + s.2 else s.1, s.2 + s.2)) (acc, t) =
      (acc + leBits bits • t, 2 ^ bits.length • t) := by
  induction bits generalizing acc t with
  | nil => simp
  | cons b bits ih =>
      have hacc : (if b then acc + t else acc) = acc + b.toNat • t := by cases b <;> simp
      rw [List.foldl_cons, ih, hacc, leBits_cons, List.length_cons, Nat.pow_succ, ← two_nsmul,
        add_nsmul, mul_comm 2, mul_nsmul', mul_nsmul', add_assoc]

end Orizon
