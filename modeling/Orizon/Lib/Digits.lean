import Mathlib.Data.Nat.Digits.Lemmas
import Mathlib.Tactic.Ring
import Mathlib.Tactic.Linarith

/-!
# Orizon.Lib.Digits

Byte strings as natural numbers, in both byte orders, and bit strings as
natural numbers.  `leNat` is Mathlib's `Nat.ofDigits` at base 256 and
`beNat` reads the same digits from the other end, so every fact about byte
values is derived from the `ofDigits` library.

Nothing here mentions a program; the arithmetic modules read their
buffers through these two functions only.
-/

namespace Orizon

/-! ## Byte strings -/

/-- The number a little-endian byte string denotes. -/
def leNat (bs : List UInt8) : Nat := Nat.ofDigits 256 (bs.map UInt8.toNat)

/-- The number a big-endian byte string denotes. -/
def beNat (bs : List UInt8) : Nat := leNat bs.reverse

/-- The `k` low bytes of `n`, little-endian. -/
def leBytes : Nat → Nat → List UInt8
  | 0, _ => []
  | k + 1, n => UInt8.ofNat n :: leBytes k (n / 256)

/-- The `k` low bytes of `n`, big-endian. -/
def beBytes (k n : Nat) : List UInt8 := (leBytes k n).reverse

@[simp] theorem leNat_nil : leNat [] = 0 := rfl

@[simp] theorem leNat_cons (b : UInt8) (bs : List UInt8) :
    leNat (b :: bs) = b.toNat + 256 * leNat bs := by
  simp [leNat, Nat.ofDigits_cons]

theorem leNat_append (xs ys : List UInt8) :
    leNat (xs ++ ys) = leNat xs + 256 ^ xs.length * leNat ys := by
  simp [leNat, Nat.ofDigits_append]

theorem leNat_lt (bs : List UInt8) : leNat bs < 256 ^ bs.length := by
  have h := Nat.ofDigits_lt_base_pow_length (b := 256) (l := bs.map UInt8.toNat) (by decide)
    (by intro x hx; obtain ⟨b, _, rfl⟩ := List.mem_map.mp hx; exact b.toNat_lt)
  simpa [leNat] using h

theorem leNat_replicate_zero (k : Nat) : leNat (List.replicate k 0) = 0 := by
  induction k with
  | zero => rfl
  | succ k ih => simp [List.replicate_succ, ih]

/-- Byte strings of one length are equal when they denote equal numbers. -/
theorem leNat_inj {xs ys : List UInt8} (hlen : xs.length = ys.length) (h : leNat xs = leNat ys) :
    xs = ys := by
  induction xs generalizing ys with
  | nil => exact (List.length_eq_zero_iff.mp hlen.symm).symm
  | cons x xs ih =>
      cases ys with
      | nil => simp at hlen
      | cons y ys =>
          simp only [leNat_cons] at h
          have hx := x.toNat_lt
          have hy := y.toNat_lt
          have hhead : x.toNat = y.toNat := by omega
          have htail : leNat xs = leNat ys := by omega
          rw [UInt8.toNat_inj.mp hhead, ih (by simpa using hlen) htail]

theorem leNat_drop (k : Nat) (bs : List UInt8) : leNat (bs.drop k) = leNat bs / 256 ^ k := by
  induction k generalizing bs with
  | zero => simp
  | succ k ih =>
      cases bs with
      | nil => simp
      | cons b bs =>
          have hb := b.toNat_lt
          rw [List.drop_succ_cons, ih, leNat_cons, Nat.pow_succ', ← Nat.div_div_eq_div_mul]
          congr 1
          omega

theorem leNat_take (k : Nat) (bs : List UInt8) : leNat (bs.take k) = leNat bs % 256 ^ k := by
  rcases Nat.le_total k bs.length with hk | hk
  · have hlt := leNat_lt (bs.take k)
    have happ := leNat_append (bs.take k) (bs.drop k)
    rw [List.length_take, Nat.min_eq_left hk] at hlt happ
    rw [List.take_append_drop] at happ
    rw [happ, Nat.add_mul_mod_self_left, Nat.mod_eq_of_lt hlt]
  · have hlt := leNat_lt bs
    rw [List.take_of_length_le hk,
      Nat.mod_eq_of_lt (Nat.lt_of_lt_of_le hlt (Nat.pow_le_pow_right (by decide) hk))]

@[simp] theorem length_leBytes (k n : Nat) : (leBytes k n).length = k := by
  induction k generalizing n with
  | zero => rfl
  | succ k ih => simp [leBytes, ih]

theorem leBytes_eq_map (k n : Nat) :
    leBytes k n = (List.range k).map fun i => UInt8.ofNat (n / 256 ^ i) := by
  induction k generalizing n with
  | zero => rfl
  | succ k ih =>
      rw [leBytes, ih, List.range_succ_eq_map, List.map_cons, List.map_map]
      simp only [pow_zero, Nat.div_one, Function.comp_def, Nat.div_div_eq_div_mul, pow_succ']

/-- Writing a number that fits and reading it back gives the number. -/
theorem leNat_leBytes {k n : Nat} (h : n < 256 ^ k) : leNat (leBytes k n) = n := by
  induction k generalizing n with
  | zero => simp at h; simp [leBytes, h]
  | succ k ih =>
      have hdiv : n / 256 < 256 ^ k := by
        rw [Nat.div_lt_iff_lt_mul (by decide)]
        rwa [Nat.pow_succ] at h
      rw [leBytes, leNat_cons, ih hdiv, UInt8.toNat_ofNat']
      omega

theorem leBytes_leNat (bs : List UInt8) : leBytes bs.length (leNat bs) = bs :=
  leNat_inj (length_leBytes _ _) (leNat_leBytes (leNat_lt bs))

@[simp] theorem beNat_nil : beNat [] = 0 := rfl

theorem beNat_append (xs ys : List UInt8) :
    beNat (xs ++ ys) = beNat xs * 256 ^ ys.length + beNat ys := by
  rw [beNat, List.reverse_append, leNat_append, List.length_reverse, beNat, beNat]
  ring

@[simp] theorem beNat_cons (b : UInt8) (bs : List UInt8) :
    beNat (b :: bs) = b.toNat * 256 ^ bs.length + beNat bs := by
  have h := beNat_append [b] bs
  simpa [beNat] using h

theorem beNat_lt (bs : List UInt8) : beNat bs < 256 ^ bs.length := by
  simpa [beNat] using leNat_lt bs.reverse

theorem beNat_replicate_zero (k : Nat) : beNat (List.replicate k 0) = 0 := by
  rw [beNat, List.reverse_replicate, leNat_replicate_zero]

theorem beNat_inj {xs ys : List UInt8} (hlen : xs.length = ys.length) (h : beNat xs = beNat ys) :
    xs = ys :=
  List.reverse_injective (leNat_inj (by simpa using hlen) h)

@[simp] theorem length_beBytes (k n : Nat) : (beBytes k n).length = k := by
  simp [beBytes]

theorem beNat_beBytes {k n : Nat} (h : n < 256 ^ k) : beNat (beBytes k n) = n := by
  rw [beNat, beBytes, List.reverse_reverse, leNat_leBytes h]

theorem beBytes_beNat (bs : List UInt8) : beBytes bs.length (beNat bs) = bs :=
  beNat_inj (length_beBytes _ _) (beNat_beBytes (beNat_lt bs))

theorem leBytes_mod (k n : Nat) : leBytes k (n % 256 ^ k) = leBytes k n := by
  induction k generalizing n with
  | zero => rfl
  | succ k ih =>
      have hlow : UInt8.ofNat (n % 256 ^ (k + 1)) = UInt8.ofNat n := by
        rw [← UInt8.toNat_inj, UInt8.toNat_ofNat', UInt8.toNat_ofNat', Nat.pow_succ']
        exact Nat.mod_mul_right_mod n 256 (256 ^ k)
      rw [leBytes, leBytes, hlow, Nat.pow_succ', Nat.mod_mul_right_div_self, ih]

theorem beNat_beBytes_mod (k n : Nat) : beNat (beBytes k n) = n % 256 ^ k := by
  rw [beBytes, ← leBytes_mod, ← beBytes, beNat_beBytes (Nat.mod_lt _ (Nat.pow_pos (by decide)))]

theorem beBytes_eq_iff {k m n : Nat} : beBytes k m = beBytes k n ↔ m % 256 ^ k = n % 256 ^ k := by
  rw [← beNat_beBytes_mod, ← beNat_beBytes_mod]
  exact ⟨congrArg beNat, beNat_inj (by simp)⟩

/-! ## Words of two bytes -/

theorem be16_split (v : UInt16) :
    ((v >>> 8).toUInt8.toUInt16 <<< 8) ||| v.toUInt8.toUInt16 = v := by
  have hv := v.toNat_lt
  have h8 : (8 : UInt16).toNat % 16 = 8 := rfl
  rw [← UInt16.toNat_inj, UInt16.toNat_or, UInt16.toNat_shiftLeft, h8]
  simp only [UInt8.toNat_toUInt16, UInt16.toNat_toUInt8, UInt16.toNat_shiftRight, h8,
    Nat.shiftRight_eq_div_pow, Nat.shiftLeft_eq]
  have hlow : v.toNat % 2 ^ 8 < 2 ^ 8 := Nat.mod_lt _ (by decide)
  have hor := Nat.shiftLeft_add_eq_or_of_lt hlow (v.toNat / 2 ^ 8)
  rw [Nat.shiftLeft_eq] at hor
  rw [Nat.mod_eq_of_lt (a := v.toNat / 2 ^ 8) (by omega), Nat.mod_eq_of_lt (by omega), ← hor]
  omega

theorem be16_join (a b : UInt8) :
    (((a.toUInt16 <<< 8) ||| b.toUInt16) >>> 8).toUInt8 = a ∧
      ((a.toUInt16 <<< 8) ||| b.toUInt16).toUInt8 = b := by
  have ha := a.toNat_lt
  have hb := b.toNat_lt
  have h8 : (8 : UInt16).toNat % 16 = 8 := rfl
  have hor := Nat.shiftLeft_add_eq_or_of_lt hb a.toNat
  rw [Nat.shiftLeft_eq] at hor
  have hjoin : ((a.toUInt16 <<< 8) ||| b.toUInt16).toNat = a.toNat * 2 ^ 8 + b.toNat := by
    rw [UInt16.toNat_or, UInt16.toNat_shiftLeft, h8, UInt8.toNat_toUInt16, UInt8.toNat_toUInt16,
      Nat.shiftLeft_eq, Nat.mod_eq_of_lt (by omega), ← hor]
  rw [← UInt8.toNat_inj, ← UInt8.toNat_inj, UInt16.toNat_toUInt8, UInt16.toNat_toUInt8,
    UInt16.toNat_shiftRight, h8, hjoin, Nat.shiftRight_eq_div_pow]
  omega

/-! ## Bit strings -/

/-- The number a little-endian bit string denotes. -/
def leBits (bits : List Bool) : Nat := Nat.ofDigits 2 (bits.map Bool.toNat)

@[simp] theorem leBits_nil : leBits [] = 0 := rfl

@[simp] theorem leBits_cons (b : Bool) (bits : List Bool) :
    leBits (b :: bits) = b.toNat + 2 * leBits bits := by
  simp [leBits, Nat.ofDigits_cons]

theorem leBits_append (xs ys : List Bool) :
    leBits (xs ++ ys) = leBits xs + 2 ^ xs.length * leBits ys := by
  simp [leBits, Nat.ofDigits_append]

/-- The bits of a byte, least significant first. -/
def byteBits (b : UInt8) : List Bool := (List.range 8).map b.toNat.testBit

@[simp] theorem length_byteBits (b : UInt8) : (byteBits b).length = 8 := by
  simp [byteBits]

private theorem leBits_testBit (k n : Nat) :
    leBits ((List.range k).map n.testBit) = n % 2 ^ k := by
  induction k with
  | zero => simp [Nat.mod_one]
  | succ k ih =>
      rw [List.range_succ, List.map_append, leBits_append, ih]
      simp only [List.length_map, List.length_range, List.map_cons, List.map_nil, leBits_cons,
        leBits_nil, Nat.mul_zero, Nat.add_zero]
      rw [Nat.toNat_testBit, Nat.mod_pow_succ]

theorem leBits_byteBits (b : UInt8) : leBits (byteBits b) = b.toNat := by
  rw [byteBits, leBits_testBit]
  exact Nat.mod_eq_of_lt b.toNat_lt

/-- Bit `i` of a little-endian byte string is bit `i % 8` of byte `i / 8`. -/
theorem testBit_leNat (bs : List UInt8) (i : Nat) :
    (leNat bs).testBit i = ((bs.getD (i / 8) 0).toNat).testBit (i % 8) := by
  induction bs generalizing i with
  | nil => simp
  | cons b bs ih =>
      have hb := b.toNat_lt
      have hcons : leNat (b :: bs) = 2 ^ 8 * leNat bs + b.toNat := by
        rw [leNat_cons]
        omega
      rw [hcons, Nat.testBit_two_pow_mul_add _ hb]
      split
      · next hi => rw [Nat.div_eq_of_lt hi, Nat.mod_eq_of_lt hi, List.getD_cons_zero]
      · next hi =>
          rw [ih, show i / 8 = (i - 8) / 8 + 1 by omega, List.getD_cons_succ,
            show (i - 8) % 8 = i % 8 by omega]

end Orizon
