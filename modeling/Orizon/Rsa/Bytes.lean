import Orizon.Lib.Digits
import Mathlib.Tactic.LinearCombination

/-!
# Orizon.Rsa.Bytes

The byte-wise big-endian arithmetic of `lib/rsa.c`: comparison, in-place
subtraction with borrow, and addition with carry.  A buffer with its length
is a `List UInt8`, most significant byte first; a C loop that runs from the
last index down to the first is a recursion that handles the tail before
the head.  The `uint16_t` temporaries hold at most `511`, so they are `Nat`s
and only the casts back to `uint8_t` reduce.

Each function has one lemma giving its value as a number; the modular layer
(`Orizon.Rsa.Modular`) uses nothing else.
-/

namespace Orizon

/-- Bytes of the largest modulus (`RSA_MAX_BYTES`). -/
def rsaMaxBytes : Nat := 256

/-! ## Comparison -/

/-- `rsa_ge_bytes`: is `a ≥ b`, most significant byte first. -/
def rsaGeBytes : List UInt8 → List UInt8 → Bool
  | a :: as, b :: bs => if a > b then true else if a < b then false else rsaGeBytes as bs
  | _, _ => true

theorem rsaGeBytes_iff {a b : List UInt8} (hlen : a.length = b.length) :
    rsaGeBytes a b = true ↔ beNat b ≤ beNat a := by
  induction a generalizing b with
  | nil =>
      obtain rfl : b = [] := List.length_eq_zero_iff.mp hlen.symm
      simp [rsaGeBytes]
  | cons x a ih =>
      cases b with
      | nil => simp at hlen
      | cons y b =>
          have hlen' : a.length = b.length := by simpa using hlen
          have ha := beNat_lt a
          have hb := beNat_lt b
          rw [beNat_cons, beNat_cons, rsaGeBytes, hlen']
          rw [hlen'] at ha
          by_cases hgt : x > y
          · have hxy : y.toNat + 1 ≤ x.toNat := UInt8.lt_iff_toNat_lt.mp hgt
            have hmul := Nat.mul_le_mul_right (256 ^ b.length) hxy
            rw [Nat.add_mul] at hmul
            simp only [hgt, if_true, true_iff]
            omega
          · by_cases hlt : x < y
            · have hxy : x.toNat + 1 ≤ y.toNat := UInt8.lt_iff_toNat_lt.mp hlt
              have hmul := Nat.mul_le_mul_right (256 ^ b.length) hxy
              rw [Nat.add_mul] at hmul
              simp only [hgt, hlt, if_true, if_false, Bool.false_eq_true, false_iff]
              omega
            · have hxy : x = y := UInt8.le_antisymm (UInt8.not_lt.mp hgt) (UInt8.not_lt.mp hlt)
              rw [if_neg hgt, if_neg hlt, ih hlen', hxy]
              omega

/-! ## Subtraction -/

/-- One byte of a subtraction: the byte and the borrow out. -/
def subByte (av bv : Nat) : UInt8 × Nat :=
  if av < bv then (UInt8.ofNat (av + 256 - bv), 1) else (UInt8.ofNat (av - bv), 0)

/-- The loop of `rsa_sub_inplace`: the difference and the borrow out of the
first byte. -/
def subBorrow : List UInt8 → List UInt8 → List UInt8 × Nat
  | a :: as, b :: bs =>
      let rest := subBorrow as bs
      let byte := subByte a.toNat (b.toNat + rest.2)
      (byte.1 :: rest.1, byte.2)
  | _, _ => ([], 0)

/-- `rsa_sub_inplace`: `a - b`; the last borrow is dropped. -/
def rsaSubInplace (a b : List UInt8) : List UInt8 := (subBorrow a b).1

private theorem subByte_spec {av bv : Nat} (ha : av < 256) (hb : bv ≤ 256) :
    (subByte av bv).1.toNat + bv = av + 256 * (subByte av bv).2 ∧ (subByte av bv).2 ≤ 1 := by
  unfold subByte
  split <;> simp only [UInt8.toNat_ofNat'] <;> omega

theorem subBorrow_spec {a b : List UInt8} (hlen : a.length = b.length) :
    (subBorrow a b).1.length = a.length ∧ (subBorrow a b).2 ≤ 1 ∧
      beNat (subBorrow a b).1 + beNat b = beNat a + 256 ^ a.length * (subBorrow a b).2 := by
  induction a generalizing b with
  | nil =>
      obtain rfl : b = [] := List.length_eq_zero_iff.mp hlen.symm
      simp [subBorrow]
  | cons x a ih =>
      cases b with
      | nil => simp at hlen
      | cons y b =>
          have hlen' : a.length = b.length := by simpa using hlen
          obtain ⟨hl, hc, hv⟩ := ih hlen'
          have hy := y.toNat_lt
          have hle : y.toNat + (subBorrow a b).2 ≤ 256 := by omega
          obtain ⟨hbyte, hborrow⟩ := subByte_spec x.toNat_lt hle
          refine ⟨by simp [subBorrow, hl], hborrow, ?_⟩
          simp only [subBorrow, beNat_cons, hl, ← hlen', List.length_cons, pow_succ 256]
          linear_combination hv + 256 ^ a.length * hbyte

theorem beNat_rsaSubInplace {a b : List UInt8} (hlen : a.length = b.length)
    (hle : beNat b ≤ beNat a) : beNat (rsaSubInplace a b) = beNat a - beNat b := by
  obtain ⟨hl, hc, hv⟩ := subBorrow_spec hlen
  have hlt := beNat_lt (subBorrow a b).1
  rw [hl] at hlt
  rcases Nat.le_one_iff_eq_zero_or_eq_one.mp hc with h0 | h1
  · rw [h0] at hv
    unfold rsaSubInplace
    omega
  · rw [h1, Nat.mul_one] at hv
    omega

@[simp] theorem length_rsaSubInplace {a b : List UInt8} (hlen : a.length = b.length) :
    (rsaSubInplace a b).length = a.length := (subBorrow_spec hlen).1

/-! ## Numbers with one byte more than the modulus -/

/-- `rsa_ge_ext`: comparison of a `len + 1` byte number with the modulus. -/
def rsaGeExt : List UInt8 → List UInt8 → Bool
  | top :: tmp, mod => if top ≠ 0 then true else rsaGeBytes tmp mod
  | [], _ => true

/-- `rsa_sub_ext`: subtracts the modulus from a `len + 1` byte number. -/
def rsaSubExt : List UInt8 → List UInt8 → List UInt8
  | top :: tmp, mod =>
      let rest := subBorrow tmp mod
      (if rest.2 ≠ 0 then top - 1 else top) :: rest.1
  | [], _ => []

theorem rsaGeExt_iff {tmp mod : List UInt8} (hlen : tmp.length = mod.length + 1) :
    rsaGeExt tmp mod = true ↔ beNat mod ≤ beNat tmp := by
  cases tmp with
  | nil => simp at hlen
  | cons top tmp =>
      have hlen' : tmp.length = mod.length := by simpa using hlen
      have hmod := beNat_lt mod
      rw [beNat_cons, hlen', rsaGeExt]
      by_cases htop : top = 0
      · simp [htop, rsaGeBytes_iff hlen']
      · have hpos : 0 < top.toNat :=
          Nat.pos_of_ne_zero fun h => htop (UInt8.toNat_inj.mp h)
        have hmul := Nat.mul_le_mul_right (256 ^ mod.length) hpos
        simp only [ne_eq, htop, not_false_eq_true, if_true, true_iff]
        omega

theorem rsaSubExt_spec {tmp mod : List UInt8} (hlen : tmp.length = mod.length + 1)
    (hle : beNat mod ≤ beNat tmp) :
    (rsaSubExt tmp mod).length = tmp.length ∧
      beNat (rsaSubExt tmp mod) = beNat tmp - beNat mod := by
  cases tmp with
  | nil => simp at hlen
  | cons top tmp =>
      have hlen' : tmp.length = mod.length := by simpa using hlen
      obtain ⟨hl, hc, hv⟩ := subBorrow_spec hlen'
      have hs := beNat_lt (subBorrow tmp mod).1
      rw [hl, hlen'] at hs
      rw [hlen'] at hv
      rw [beNat_cons, hlen'] at hle
      refine ⟨by simp [rsaSubExt, hl], ?_⟩
      rcases Nat.le_one_iff_eq_zero_or_eq_one.mp hc with h0 | h1
      · simp only [rsaSubExt, h0, ne_eq, not_true_eq_false, if_false, beNat_cons, hl, hlen']
        rw [h0] at hv
        omega
      · rw [h1, Nat.mul_one] at hv
        -- the borrow comes out of a top byte that is not zero
        have hpos : 1 ≤ top.toNat := by
          rcases Nat.eq_zero_or_pos top.toNat with hz | hp
          · rw [hz] at hle; omega
          · exact hp
        have htop : (top - 1).toNat = top.toNat - 1 :=
          UInt8.toNat_sub_of_le top 1 (UInt8.le_iff_toNat_le.mpr hpos)
        have hmul : top.toNat * 256 ^ mod.length =
            (top.toNat - 1) * 256 ^ mod.length + 256 ^ mod.length := by
          rw [← Nat.succ_mul, Nat.succ_eq_add_one, Nat.sub_add_cancel hpos]
        simp only [rsaSubExt, h1, ne_eq, one_ne_zero, not_false_eq_true, if_true, beNat_cons, hl,
          hlen', htop]
        omega

theorem beNat_tail_mod {tmp : List UInt8} {k : Nat} (hlen : tmp.length = k + 1) :
    tmp.tail.length = k ∧ beNat tmp.tail = beNat tmp % 256 ^ k := by
  cases tmp with
  | nil => simp at hlen
  | cons top tmp =>
      have hlen' : tmp.length = k := by simpa using hlen
      have hlt := beNat_lt tmp
      rw [hlen'] at hlt
      rw [beNat_cons, hlen', List.tail_cons, Nat.mul_add_mod_self_right, Nat.mod_eq_of_lt hlt]
      exact ⟨hlen', rfl⟩

/-! ## Addition -/

/-- The loop of `rsa_add_mod`: the sum and the carry out of the first byte. -/
def addCarry : List UInt8 → List UInt8 → List UInt8 × Nat
  | a :: as, b :: bs =>
      let rest := addCarry as bs
      let sum := a.toNat + b.toNat + rest.2
      (UInt8.ofNat sum :: rest.1, sum / 256)
  | _, _ => ([], 0)

theorem addCarry_spec {a b : List UInt8} (hlen : a.length = b.length) :
    (addCarry a b).1.length = a.length ∧ (addCarry a b).2 ≤ 1 ∧
      beNat (addCarry a b).1 + 256 ^ a.length * (addCarry a b).2 = beNat a + beNat b := by
  induction a generalizing b with
  | nil =>
      obtain rfl : b = [] := List.length_eq_zero_iff.mp hlen.symm
      simp [addCarry]
  | cons x a ih =>
      cases b with
      | nil => simp at hlen
      | cons y b =>
          have hlen' : a.length = b.length := by simpa using hlen
          obtain ⟨hl, hc, hv⟩ := ih hlen'
          have hx := x.toNat_lt
          have hy := y.toNat_lt
          refine ⟨by simp [addCarry, hl], by simp only [addCarry]; omega, ?_⟩
          have hsum : (x.toNat + y.toNat + (addCarry a b).2) % 256 +
              256 * ((x.toNat + y.toNat + (addCarry a b).2) / 256) =
              x.toNat + y.toNat + (addCarry a b).2 := Nat.mod_add_div _ _
          simp only [addCarry, beNat_cons, hl, ← hlen', List.length_cons, pow_succ 256,
            UInt8.toNat_ofNat', Nat.reducePow]
          linear_combination hv + 256 ^ a.length * hsum

end Orizon
