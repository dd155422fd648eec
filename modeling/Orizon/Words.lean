import Mathlib.Data.List.GetD
import Mathlib.Tactic.IntervalCases
import Mathlib.Tactic.NormNum
import Mathlib.Tactic.Ring
import Orizon.Lib.Digits
import Orizon.Sha256

/-!
# Orizon.Words

Words of four and eight bytes, most significant byte first, as `read_be32`,
`write_be32` and `write_be64` read and write them.
-/

namespace Orizon

/-! ## Four bytes -/

@[simp] theorem length_writeBe32 (v : UInt32) : (writeBe32 v).length = 4 := rfl

theorem toNat_readBe32 (p : List UInt8) (off : Nat) :
    (readBe32 p off).toNat = (p.getD off 0).toNat * 2 ^ 24 + (p.getD (off + 1) 0).toNat * 2 ^ 16 +
      (p.getD (off + 2) 0).toNat * 2 ^ 8 + (p.getD (off + 3) 0).toNat := by
  unfold readBe32
  have ha := (p.getD off 0).toNat_lt
  have hb := (p.getD (off + 1) 0).toNat_lt
  have hc := (p.getD (off + 2) 0).toNat_lt
  have hd := (p.getD (off + 3) 0).toNat_lt
  generalize p.getD off 0 = a at *
  generalize p.getD (off + 1) 0 = b at *
  generalize p.getD (off + 2) 0 = c at *
  generalize p.getD (off + 3) 0 = d at *
  rw [UInt32.toNat_or, UInt32.toNat_or, UInt32.toNat_or, UInt32.toNat_shiftLeft,
    UInt32.toNat_shiftLeft, UInt32.toNat_shiftLeft]
  simp only [UInt8.toNat_toUInt32]
  have h24 : (24 : UInt32).toNat % 32 = 24 := rfl
  have h16 : (16 : UInt32).toNat % 32 = 16 := rfl
  have h8 : (8 : UInt32).toNat % 32 = 8 := rfl
  rw [h24, h16, h8, Nat.mod_eq_of_lt (by rw [Nat.shiftLeft_eq]; omega),
    Nat.mod_eq_of_lt (by rw [Nat.shiftLeft_eq]; omega),
    Nat.mod_eq_of_lt (by rw [Nat.shiftLeft_eq]; omega)]
  have hcd := Nat.shiftLeft_add_eq_or_of_lt (a := c.toNat) (by omega : d.toNat < 2 ^ 8)
  have hbcd := Nat.shiftLeft_add_eq_or_of_lt (a := b.toNat) (i := 16)
    (by rw [Nat.shiftLeft_eq]; omega : c.toNat <<< 8 + d.toNat < 2 ^ 16)
  have habcd := Nat.shiftLeft_add_eq_or_of_lt (a := a.toNat) (i := 24)
    (by simp only [Nat.shiftLeft_eq]; omega : b.toNat <<< 16 + (c.toNat <<< 8 + d.toNat) < 2 ^ 24)
  rw [Nat.or_assoc, Nat.or_assoc, ← hcd, ← hbcd, ← habcd]
  simp only [Nat.shiftLeft_eq]
  omega

theorem readBe32_writeBe32 (v : UInt32) (rest : List UInt8) : readBe32 (writeBe32 v ++ rest) 0 = v := by
  rw [← UInt32.toNat_inj, toNat_readBe32]
  have hlt := v.toNat_lt
  have h24 : (24 : UInt32).toNat % 32 = 24 := rfl
  have h16 : (16 : UInt32).toNat % 32 = 16 := rfl
  have h8 : (8 : UInt32).toNat % 32 = 8 := rfl
  have hff : (0xff : UInt32).toNat = 2 ^ 8 - 1 := rfl
  simp only [writeBe32, List.cons_append, List.getD_cons_zero, List.getD_cons_succ, Nat.zero_add,
    UInt32.toNat_toUInt8, UInt32.toNat_shiftRight, UInt32.toNat_and, h24, h16, h8, hff,
    Nat.and_two_pow_sub_one_eq_mod, Nat.shiftRight_eq_div_pow]
  omega

theorem readBe32_drop (p : List UInt8) (off : Nat) : readBe32 (p.drop off) 0 = readBe32 p off := by
  simp [readBe32, List.getD_eq_getElem?_getD, List.getElem?_drop]

theorem writeBe32_readBe32 {p : List UInt8} {off : Nat} (h : off + 4 ≤ p.length) :
    writeBe32 (readBe32 p off) = (p.drop off).take 4 := by
  obtain ⟨a, b, c, d, rest, hp⟩ : ∃ a b c d rest, p.drop off = a :: b :: c :: d :: rest := by
    have hlen : 4 ≤ (p.drop off).length := by rw [List.length_drop]; omega
    match hq : p.drop off, hlen with
    | a :: b :: c :: d :: rest, _ => exact ⟨a, b, c, d, rest, rfl⟩
  have hval := toNat_readBe32 (p.drop off) 0
  rw [readBe32_drop] at hval
  rw [hp] at hval ⊢
  have ha := a.toNat_lt
  have hb := b.toNat_lt
  have hc := c.toNat_lt
  have hd := d.toNat_lt
  have h24 : (24 : UInt32).toNat % 32 = 24 := rfl
  have h16 : (16 : UInt32).toNat % 32 = 16 := rfl
  have h8 : (8 : UInt32).toNat % 32 = 8 := rfl
  have hff : (0xff : UInt32).toNat = 2 ^ 8 - 1 := rfl
  simp only [List.getD_cons_zero, List.getD_cons_succ, Nat.zero_add] at hval
  simp only [writeBe32, List.take_succ_cons, List.take_zero, List.cons.injEq, and_true,
    ← UInt8.toNat_inj, UInt32.toNat_toUInt8, UInt32.toNat_shiftRight, UInt32.toNat_and, h24, h16,
    h8, hff, Nat.and_two_pow_sub_one_eq_mod, Nat.shiftRight_eq_div_pow]
  omega

theorem writeBe32_eq (v : UInt32) : writeBe32 v = beBytes 4 v.toNat := by
  have h24 : (24 : UInt32).toNat % 32 = 24 := rfl
  have h16 : (16 : UInt32).toNat % 32 = 16 := rfl
  have h8 : (8 : UInt32).toNat % 32 = 8 := rfl
  have hff : (0xff : UInt32).toNat = 2 ^ 8 - 1 := rfl
  simp only [writeBe32, beBytes, leBytes, List.reverse_cons, List.reverse_nil, List.nil_append, List.cons_append,
    List.cons.injEq, and_true, ← UInt8.toNat_inj, UInt32.toNat_toUInt8, UInt32.toNat_shiftRight, UInt32.toNat_and,
    h24, h16, h8, hff, Nat.and_two_pow_sub_one_eq_mod, Nat.shiftRight_eq_div_pow, UInt8.toNat_ofNat']
  omega

theorem readBe32_eq {p : List UInt8} {off : Nat} (h : off + 4 ≤ p.length) :
    readBe32 p off = UInt32.ofNat (beNat ((p.drop off).take 4)) := by
  have hv := (readBe32 p off).toNat_lt
  rw [← writeBe32_readBe32 h, writeBe32_eq, beNat_beBytes (by omega), UInt32.ofNat_toNat]

/-! ## Eight bytes -/

@[simp] theorem length_writeBe64 (v : UInt64) : (writeBe64 v).length = 8 := rfl

theorem writeBe64_inj {v w : UInt64} (h : writeBe64 v = writeBe64 w) : v = w := by
  have hv := v.toNat_lt
  have hw := w.toNat_lt
  simp [writeBe64, List.range, List.range.loop, ← UInt8.toNat_inj, UInt64.toNat_toUInt8,
    UInt64.toNat_shiftRight, Nat.shiftRight_eq_div_pow] at h
  rw [← UInt64.toNat_inj]
  omega

theorem writeBe64_lengthBits (n : Nat) : writeBe64 (UInt64.ofNat n * 8) = beBytes 8 (8 * n) := by
  have hbyte : ∀ i < 8, ((UInt64.ofNat n * 8) >>> UInt64.ofNat (i * 8)).toUInt8 =
      UInt8.ofNat (8 * n / 256 ^ i) := by
    intro i hi
    refine UInt8.toNat_inj.mp ?_
    have h8 : (8 : UInt64).toNat = 8 := rfl
    simp only [UInt64.toNat_toUInt8, UInt64.toNat_shiftRight, UInt64.toNat_mul, UInt64.toNat_ofNat',
      UInt8.toNat_ofNat', h8]
    interval_cases i <;> norm_num [Nat.shiftRight_eq_div_pow] <;> omega
  rw [writeBe64, List.map_reverse, beBytes, leBytes_eq_map]
  exact congrArg List.reverse (List.map_congr_left fun i hi => hbyte i (by simpa using hi))

end Orizon
