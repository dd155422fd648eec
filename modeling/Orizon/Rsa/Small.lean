import Orizon.Rsa.Bytes
import Mathlib.Data.Int.ModEq
import Mathlib.Data.Nat.Prime.Basic
import Mathlib.Tactic.NormNum.Prime

/-!
# Orizon.Rsa.Small

The operations of `lib/rsa.c` with a 32-bit operand: tests, subtraction, halving,
remainder, and the inverse of 65537 modulo a long number.

The inverse of `e` modulo `m` is `(m * k + 1) / e` for the `k` below `e` that makes
the division exact: it takes one inverse modulo `e`, of a single word.
-/

namespace Orizon

/-! ## Tests -/

/-- `rsa_is_zero`. -/
def rsaIsZero (a : List UInt8) : Bool := a.all (· = 0)

/-- `rsa_is_one`. -/
def rsaIsOne (a : List UInt8) : Bool :=
  if a.length = 0 ∨ a.getD (a.length - 1) 0 ≠ 1 then false else a.dropLast.all (· = 0)

/-- `rsa_is_even`. -/
def rsaIsEven (a : List UInt8) : Bool :=
  a.length = 0 ∨ a.getD (a.length - 1) 0 &&& 1 = 0

/-! ## Subtraction, halving and remainder -/

/-- The loop of `rsa_sub_small`; it ends early when the borrow is 0, which
subtracts nothing. -/
def subSmallBorrow : List UInt8 → Nat → List UInt8 × Nat
  | [], borrow => ([], borrow)
  | a :: as, borrow =>
      let rest := subSmallBorrow as borrow
      let byteBorrow := rest.2 % 256
      if a.toNat < byteBorrow then
        (UInt8.ofNat (a.toNat + 256 - byteBorrow) :: rest.1, rest.2 / 256 + 1)
      else (UInt8.ofNat (a.toNat - byteBorrow) :: rest.1, rest.2 / 256)

/-- `rsa_sub_small`. -/
def rsaSubSmall (a : List UInt8) (value : Nat) : List UInt8 := (subSmallBorrow a value).1

/-- The loop of `rsa_shift_right_one`, from the carry into the first byte. -/
def shiftRightCarry (carry : UInt8) : List UInt8 → List UInt8
  | [] => []
  | a :: as => ((a >>> 1) ||| (carry <<< 7)) :: shiftRightCarry (a &&& 1) as

/-- `rsa_shift_right_one`. -/
def rsaShiftRightOne (a : List UInt8) : List UInt8 := shiftRightCarry 0 a

/-- `rsa_set_u32`: the byte `i` from the end is byte `i` of the value. -/
def rsaSetU32 (len value : Nat) : List UInt8 :=
  ((List.range len).map fun i => if i < 4 then UInt8.ofNat (value >>> (i * 8)) else 0).reverse

/-- `rsa_mod_u32`. -/
def rsaModU32 (a : List UInt8) (mod : Nat) : Nat :=
  if mod = 0 then 0 else a.foldl (fun rem byte => (rem * 256 + byte.toNat) % mod) 0

section Values

variable {a : List UInt8}

theorem beNat_concat (a : List UInt8) (b : UInt8) : beNat (a ++ [b]) = beNat a * 256 + b.toNat := by
  rw [beNat_append]
  simp

theorem beNat_eq_zero_iff : beNat a = 0 ↔ ∀ b ∈ a, b = 0 := by
  induction a with
  | nil => simp
  | cons x a ih =>
      have hpos : 0 < 256 ^ a.length := Nat.pow_pos (by decide)
      have hx : x = 0 ↔ x.toNat = 0 := by rw [← UInt8.toNat_inj]; rfl
      rw [beNat_cons, List.forall_mem_cons, ← ih, hx, Nat.add_eq_zero_iff, Nat.mul_eq_zero]
      omega

theorem rsaIsZero_iff : rsaIsZero a = true ↔ beNat a = 0 := by
  rw [rsaIsZero, beNat_eq_zero_iff]
  simp

/-- A buffer is empty, or all of it but the last byte and that byte. -/
theorem getD_last (a : List UInt8) (b : UInt8) : (a ++ [b]).getD ((a ++ [b]).length - 1) 0 = b := by
  simp

theorem rsaIsEven_iff : rsaIsEven a = true ↔ beNat a % 2 = 0 := by
  obtain rfl | ⟨init, last, rfl⟩ := List.eq_nil_or_concat' a
  · decide
  · have hbit : last &&& 1 = 0 ↔ last.toNat % 2 = 0 := by
      rw [← UInt8.toNat_inj, UInt8.toNat_and]
      simp [Nat.and_one_is_mod]
    rw [rsaIsEven, getD_last, beNat_concat]
    simp only [List.length_append, List.length_singleton, Nat.add_eq_zero_iff, one_ne_zero,
      and_false, false_or, decide_eq_true_eq, hbit]
    omega

theorem rsaIsOne_iff : rsaIsOne a = true ↔ beNat a = 1 := by
  obtain rfl | ⟨init, last, rfl⟩ := List.eq_nil_or_concat' a
  · decide
  · have hlast : last = 1 ↔ last.toNat = 1 := by rw [← UInt8.toNat_inj]; rfl
    have hlt := last.toNat_lt
    have hzero := beNat_eq_zero_iff (a := init)
    rw [rsaIsOne, getD_last, beNat_concat, List.dropLast_concat]
    simp only [List.length_append, List.length_singleton, Nat.add_eq_zero_iff, one_ne_zero,
      and_false, false_or, ne_eq]
    by_cases h1 : last = 1
    · rw [if_neg (not_not.mpr h1), List.all_eq_true]
      simp only [decide_eq_true_eq]
      rw [← hzero]
      have := hlast.mp h1
      omega
    · rw [if_pos h1]
      have := mt hlast.mpr h1
      simp only [Bool.false_eq_true, false_iff]
      omega

theorem subSmallBorrow_spec (a : List UInt8) (value : Nat) :
    (subSmallBorrow a value).1.length = a.length ∧
      beNat (subSmallBorrow a value).1 + value =
        beNat a + 256 ^ a.length * (subSmallBorrow a value).2 := by
  induction a with
  | nil => simp [subSmallBorrow]
  | cons x a ih =>
      obtain ⟨hl, hv⟩ := ih
      have hx := x.toNat_lt
      have hmod := Nat.mod_lt (subSmallBorrow a value).2 (y := 256) (by decide)
      have hdiv := Nat.mod_add_div (subSmallBorrow a value).2 256
      -- one byte: the borrow is what the byte lends and what the bytes before it owe
      have hbyte : ∃ b : UInt8, ∃ o, subSmallBorrow (x :: a) value =
          (b :: (subSmallBorrow a value).1, o) ∧
          b.toNat + (subSmallBorrow a value).2 = x.toNat + 256 * o := by
        simp only [subSmallBorrow]
        split
        · refine ⟨_, _, rfl, ?_⟩
          rw [UInt8.toNat_ofNat']
          omega
        · refine ⟨_, _, rfl, ?_⟩
          rw [UInt8.toNat_ofNat']
          omega
      obtain ⟨b, o, heq, hsum⟩ := hbyte
      rw [heq]
      refine ⟨by simp [hl], ?_⟩
      simp only [beNat_cons, hl, List.length_cons, pow_succ 256]
      linear_combination hv + 256 ^ a.length * hsum

/-- `rsa_sub_small` subtracts a number that is not larger. -/
theorem rsaSubSmall_spec {value : Nat} (hle : value ≤ beNat a) :
    (rsaSubSmall a value).length = a.length ∧ beNat (rsaSubSmall a value) = beNat a - value := by
  obtain ⟨hl, hv⟩ := subSmallBorrow_spec a value
  refine ⟨hl, ?_⟩
  have hlt := beNat_lt (subSmallBorrow a value).1
  rw [hl] at hlt
  have hborrow : (subSmallBorrow a value).2 = 0 := by
    by_contra hne
    have hpos := Nat.mul_le_mul_left (256 ^ a.length) (Nat.one_le_iff_ne_zero.mpr hne)
    omega
  rw [hborrow] at hv
  unfold rsaSubSmall
  omega

theorem shiftRightCarry_spec {carry : UInt8} (hc : carry.toNat ≤ 1) (a : List UInt8) :
    (shiftRightCarry carry a).length = a.length ∧
      beNat (shiftRightCarry carry a) = (carry.toNat * 256 ^ a.length + beNat a) / 2 := by
  induction a generalizing carry with
  | nil => simp [shiftRightCarry]; omega
  | cons x a ih =>
      have hx := x.toNat_lt
      have hbit : (x &&& 1).toNat = x.toNat % 2 := by
        rw [UInt8.toNat_and]
        simp [Nat.and_one_is_mod]
      obtain ⟨hl, hv⟩ := @ih (x &&& 1) (by omega)
      refine ⟨by simp [shiftRightCarry, hl], ?_⟩
      have hbyte : ((x >>> 1) ||| (carry <<< 7)).toNat = x.toNat / 2 + 128 * carry.toNat := by
        have hlow : x.toNat / 2 < 2 ^ 7 := by omega
        have hor := Nat.two_pow_add_eq_or_of_lt hlow carry.toNat
        rw [UInt8.toNat_or, UInt8.toNat_shiftRight, UInt8.toNat_shiftLeft]
        have h1 : (1 : UInt8).toNat % 8 = 1 := rfl
        have h7 : (7 : UInt8).toNat % 8 = 7 := rfl
        rw [h1, h7, Nat.shiftRight_eq_div_pow, Nat.shiftLeft_eq, Nat.mod_eq_of_lt (by omega),
          Nat.or_comm, Nat.mul_comm, ← hor]
        omega
      have heven : (carry.toNat * (256 ^ a.length * 256) + (x.toNat * 256 ^ a.length + beNat a)) =
          2 * ((x.toNat / 2 + 128 * carry.toNat) * 256 ^ a.length) +
            (x.toNat % 2 * 256 ^ a.length + beNat a) := by
        have hdiv := Nat.mod_add_div x.toNat 2
        linear_combination 256 ^ a.length * hdiv.symm
      simp only [shiftRightCarry, beNat_cons, hl, hbyte, hv, hbit, List.length_cons, pow_succ 256]
      rw [heven, Nat.mul_add_div (by decide)]

/-- `rsa_shift_right_one` halves. -/
theorem rsaShiftRightOne_spec (a : List UInt8) :
    (rsaShiftRightOne a).length = a.length ∧ beNat (rsaShiftRightOne a) = beNat a / 2 := by
  obtain ⟨hl, hv⟩ := @shiftRightCarry_spec 0 (by decide) a
  rw [UInt8.toNat_zero, Nat.zero_mul, Nat.zero_add] at hv
  exact ⟨hl, hv⟩

theorem beNat_rsaSetU32 {len value : Nat} (hlen : 4 ≤ len) (hv : value < 2 ^ 32) :
    (rsaSetU32 len value).length = len ∧ beNat (rsaSetU32 len value) = value := by
  obtain ⟨k, rfl⟩ := Nat.exists_eq_add_of_le hlen
  have hhigh : (List.range k).map ((fun i => if i < 4 then UInt8.ofNat (value >>> (i * 8)) else 0) ∘
      (4 + ·)) = List.replicate k 0 := by
    rw [List.eq_replicate_iff]
    refine ⟨by simp, fun b hb => ?_⟩
    obtain ⟨i, -, rfl⟩ := List.mem_map.mp hb
    exact if_neg (Nat.not_lt.mpr (Nat.le_add_right 4 i))
  refine ⟨by simp [rsaSetU32], ?_⟩
  rw [rsaSetU32, beNat, List.reverse_reverse, List.range_add, List.map_append, List.map_map, hhigh,
    leNat_append, leNat_replicate_zero]
  simp [List.range_succ, Nat.shiftRight_eq_div_pow]
  omega

theorem foldl_mod_beNat (mod rem : Nat) (a : List UInt8) :
    a.foldl (fun rem byte => (rem * 256 + byte.toNat) % mod) (rem % mod) =
      (rem * 256 ^ a.length + beNat a) % mod := by
  induction a generalizing rem with
  | nil => simp
  | cons x a ih =>
      have hstep : (rem % mod * 256 + x.toNat) % mod = (rem * 256 + x.toNat) % mod := by
        rw [Nat.add_mod, Nat.mod_mul_mod, ← Nat.add_mod]
      rw [List.foldl_cons, hstep, ih, beNat_cons, List.length_cons, pow_succ]
      congr 1
      ring

/-- `rsa_mod_u32` is the remainder. -/
theorem rsaModU32_eq {mod : Nat} (hmod : 0 < mod) : rsaModU32 a mod = beNat a % mod := by
  have h := foldl_mod_beNat mod 0 a
  rw [Nat.zero_mod, Nat.zero_mul, Nat.zero_add] at h
  rw [rsaModU32, if_neg (by omega), h]

end Values

/-! ## The inverse of 65537 -/

/-- The loop of `rsa_inv_mod_u32`: the `r` and `t` where it ends.  The `int64_t`
values stay below `2 ^ 33` in size (`InvInvariant`). -/
def rsaInvLoop (t newT : Int) (r newR : Nat) : Nat × Int :=
  if newR = 0 then (r, t)
  else
    let q := r / newR
    rsaInvLoop newT (t - q * newT) newR (r - q * newR)
termination_by newR
decreasing_by
  have hdiv := Nat.mod_add_div r newR
  have hlt := Nat.mod_lt r (y := newR) (by omega)
  rw [Nat.mul_comm]
  omega

/-- `rsa_inv_mod_u32`; 0 when there is no inverse. -/
def rsaInvModU32 (a mod : Nat) : Nat :=
  match rsaInvLoop 0 1 mod (a % mod) with
  | (r, t) => if r ≠ 1 then 0 else if t < 0 then (t + mod).toNat else t.toNat

/-- The product loop of `rsa_mul_small_add_one_div_small`: the low bytes of
`m * mul`, and the carry. -/
def mulSmallCarry (mul : Nat) : List UInt8 → List UInt8 × Nat
  | [] => ([], 0)
  | m :: ms =>
      let rest := mulSmallCarry mul ms
      let v := (m.toNat * mul + rest.2) % 2 ^ 32
      (UInt8.ofNat v :: rest.1, v / 256)

/-- The loop that adds 1, up to the first byte that does not become 0; the flag says
that there was none. -/
def addOneCarry : List UInt8 → List UInt8 × Bool
  | [] => ([], true)
  | p :: ps =>
      let rest := addOneCarry ps
      if rest.2 then ((p + 1) :: rest.1, p + 1 = 0) else (p :: rest.1, false)

/-- The division loop: the quotient's bytes and the remainder. -/
def divSmall (div : Nat) : Nat → List UInt8 → List UInt8 × Nat
  | rem, [] => ([], rem)
  | rem, p :: ps =>
      let acc := (rem * 256 + p.toNat) % 2 ^ 32
      let rest := divSmall div (acc % div) ps
      (UInt8.ofNat (acc / div) :: rest.1, rest.2)

/-- `rsa_mul_small_add_one_div_small`: `(m * mul + 1) / div`; `none` is the `-1`
return. -/
def rsaMulSmallAddOneDivSmall (m : List UInt8) (mul div : Nat) : Option (List UInt8) :=
  if m.length = 0 ∨ m.length > rsaMaxBytes ∨ div = 0 then none
  else
    let low := mulSmallCarry mul m
    let product := UInt8.ofNat (low.2 / 256) :: UInt8.ofNat low.2 :: low.1
    let product := (addOneCarry product).1
    let quotient := divSmall div 0 product
    if quotient.2 ≠ 0 ∨ quotient.1.getD 0 0 ≠ 0 ∨ quotient.1.getD 1 0 ≠ 0 then none
    else some (quotient.1.drop 2)

/-- `rsa_inverse_of_65537`; `none` is the `-1` return. -/
def rsaInverseOf65537 (mod : List UInt8) : Option (List UInt8) :=
  if mod.length = 0 ∨ mod.length > rsaMaxBytes then none
  else
    let e := 65537
    let modE := rsaModU32 mod e
    if modE = 0 then none
    else
      let inv := rsaInvModU32 modE e
      if inv = 0 then none
      else
        let k := if e - inv = e then 0 else e - inv
        rsaMulSmallAddOneDivSmall mod k e

/-- What the rounds of the extended Euclidean algorithm keep. -/
structure InvInvariant (a m : Nat) (t newT : Int) (r newR : Nat) : Prop where
  cong : t * a ≡ r [ZMOD m]
  newCong : newT * a ≡ newR [ZMOD m]
  lt : newR < r
  size : r * newT.natAbs + newR * t.natAbs ≤ m
  half : 2 * t.natAbs ≤ m
  gcd : Nat.gcd r newR = Nat.gcd m a

namespace InvInvariant

variable {a m : Nat} {t newT : Int} {r newR : Nat}

theorem init (hm : 1 < m) : InvInvariant a m 0 1 m (a % m) where
  cong := by
    rw [zero_mul]
    exact (Int.modEq_zero_iff_dvd.mpr dvd_rfl).symm
  newCong := by
    rw [one_mul, Int.natCast_mod]
    exact (Int.mod_modEq _ _).symm
  lt := Nat.mod_lt _ (by omega)
  size := by simp
  half := by simp
  gcd := by rw [Nat.gcd_comm m (a % m), ← Nat.gcd_rec]

theorem step (h : InvInvariant a m t newT r newR) (hnew : newR ≠ 0) :
    InvInvariant a m newT (t - (r / newR : Nat) * newT) newR (r - r / newR * newR) := by
  have hdiv := Nat.mod_add_div r newR
  rw [Nat.mul_comm] at hdiv
  have hrem : r - r / newR * newR = r % newR := by omega
  have hlt := h.lt
  refine ⟨h.newCong, ?_, ?_, ?_, ?_, ?_⟩
  · rw [sub_mul, Nat.cast_sub (by omega), Nat.cast_mul, mul_assoc]
    exact h.cong.sub (h.newCong.mul_left _)
  · rw [hrem]
    exact Nat.mod_lt _ (by omega)
  · have habs : (t - (r / newR : Nat) * newT).natAbs ≤ t.natAbs + r / newR * newT.natAbs := by
      calc (t - (r / newR : Nat) * newT).natAbs ≤ t.natAbs + ((r / newR : Nat) * newT).natAbs :=
            Int.natAbs_sub_le _ _
        _ = t.natAbs + r / newR * newT.natAbs := by rw [Int.natAbs_mul, Int.natAbs_natCast]
    have hsize := h.size
    calc newR * (t - (r / newR : Nat) * newT).natAbs + (r - r / newR * newR) * newT.natAbs
        ≤ newR * (t.natAbs + r / newR * newT.natAbs) + (r % newR) * newT.natAbs := by
          rw [hrem]
          exact Nat.add_le_add_right (Nat.mul_le_mul_left _ habs) _
      _ = (r % newR + r / newR * newR) * newT.natAbs + newR * t.natAbs := by ring
      _ ≤ m := by rwa [hdiv]
  · have htwo : 2 * newT.natAbs ≤ r * newT.natAbs := Nat.mul_le_mul_right _ (by omega)
    have hsize := h.size
    omega
  · rw [hrem, Nat.gcd_comm, ← h.gcd, Nat.gcd_comm r newR, Nat.gcd_rec newR r]

end InvInvariant

/-- The loop ends with the greatest common divisor and its cofactor. -/
theorem rsaInvLoop_spec {a m : Nat} {t newT : Int} {r newR : Nat}
    (h : InvInvariant a m t newT r newR) : (rsaInvLoop t newT r newR).1 = Nat.gcd m a ∧
      (rsaInvLoop t newT r newR).2 * a ≡ (Nat.gcd m a : Nat) [ZMOD m] ∧
      2 * (rsaInvLoop t newT r newR).2.natAbs ≤ m := by
  fun_induction rsaInvLoop t newT r newR with
  | case1 t newT r =>
      have hgcd := h.gcd
      rw [Nat.gcd_zero_right] at hgcd
      exact ⟨hgcd, hgcd ▸ h.cong, h.half⟩
  | case2 t newT r newR hnew q ih => exact ih (h.step hnew)

/-- `rsa_inv_mod_u32` inverts. -/
theorem rsaInvModU32_spec {a m : Nat} (hm : 1 < m) (hcop : Nat.Coprime m a) :
    rsaInvModU32 a m * a % m = 1 ∧ rsaInvModU32 a m < m := by
  obtain ⟨hr, hcong, hhalf⟩ := rsaInvLoop_spec (InvInvariant.init (a := a) hm)
  rw [hcop] at hr hcong
  obtain ⟨inv, hinv, hval⟩ : ∃ inv : Nat, rsaInvModU32 a m = inv ∧
      ((inv : Int) = (rsaInvLoop 0 1 m (a % m)).2 ∨
        (inv : Int) = (rsaInvLoop 0 1 m (a % m)).2 + m) ∧ inv < m := by
    refine ⟨_, rfl, ?_⟩
    simp only [rsaInvModU32, hr, ne_eq, not_true_eq_false, if_false]
    split <;> omega
  rw [hinv]
  refine ⟨?_, hval.2⟩
  have hmod : (inv : Int) * a ≡ 1 [ZMOD m] := by
    obtain heq | heq := hval.1
    · rw [heq]
      exact hcong
    · rw [heq, add_mul]
      simpa using hcong.add ((Int.modEq_zero_iff_dvd.mpr (Dvd.intro (a : Int) rfl)))
  have hnat : inv * a ≡ 1 [MOD m] := by exact_mod_cast hmod
  rw [hnat, Nat.mod_eq_of_lt hm]

section Division

variable {m : List UInt8} {mul div : Nat}

private theorem toNat_ofNat_byte (n : Nat) : (UInt8.ofNat n).toNat = n % 256 := UInt8.toNat_ofNat'

/-- The multiplier is at most `2 ^ 16`, so the `uint32_t` sums do not wrap. -/
theorem mulSmallCarry_spec (hmul : mul ≤ 65536) (m : List UInt8) :
    (mulSmallCarry mul m).1.length = m.length ∧ (mulSmallCarry mul m).2 ≤ 65535 ∧
      beNat (mulSmallCarry mul m).1 + 256 ^ m.length * (mulSmallCarry mul m).2 =
        beNat m * mul := by
  induction m with
  | nil => simp [mulSmallCarry]
  | cons x m ih =>
      obtain ⟨hl, hc, hv⟩ := ih
      have hx := x.toNat_lt
      have hprod : x.toNat * mul ≤ 255 * 65536 := Nat.mul_le_mul (by omega) hmul
      have hnowrap : (x.toNat * mul + (mulSmallCarry mul m).2) % 2 ^ 32 =
          x.toNat * mul + (mulSmallCarry mul m).2 := Nat.mod_eq_of_lt (by omega)
      have hsum := Nat.mod_add_div (x.toNat * mul + (mulSmallCarry mul m).2) 256
      refine ⟨by simp [mulSmallCarry, hl], ?_, ?_⟩
      · simp only [mulSmallCarry, hnowrap]
        omega
      · simp only [mulSmallCarry, hnowrap, beNat_cons, hl, List.length_cons, pow_succ 256,
          toNat_ofNat_byte]
        linear_combination hv + 256 ^ m.length * hsum

theorem addOneCarry_spec (p : List UInt8) :
    (addOneCarry p).1.length = p.length ∧
      beNat (addOneCarry p).1 + 256 ^ p.length * (addOneCarry p).2.toNat = beNat p + 1 := by
  induction p with
  | nil => simp [addOneCarry]
  | cons x p ih =>
      obtain ⟨hl, hv⟩ := ih
      have hx := x.toNat_lt
      rw [addOneCarry]
      cases hflag : (addOneCarry p).2
      · rw [hflag] at hv
        refine ⟨by simp [hl], ?_⟩
        simp only [Bool.false_eq_true, if_false, beNat_cons, hl, Bool.toNat_false] at hv ⊢
        omega
      · rw [hflag] at hv
        refine ⟨by simp [hl], ?_⟩
        have hbyte : (x + 1).toNat + 256 * (decide (x + 1 = 0)).toNat = x.toNat + 1 := by
          have hadd : (x + 1).toNat = (x.toNat + 1) % 256 := UInt8.toNat_add x 1
          have hzero : x + 1 = 0 ↔ (x + 1).toNat = 0 := by rw [← UInt8.toNat_inj]; rfl
          by_cases h0 : x + 1 = 0
          · have := hzero.mp h0
            simp only [h0, decide_true, Bool.toNat_true, UInt8.toNat_zero]
            omega
          · have := mt hzero.mpr h0
            simp only [h0, decide_false, Bool.toNat_false]
            omega
        simp only [if_true, beNat_cons, hl, Bool.toNat_true, List.length_cons, pow_succ 256] at hv ⊢
        linear_combination hv + 256 ^ p.length * hbyte

/-- The divisor is at most `2 ^ 16 + 1`, so the `uint32_t` sums do not wrap and every
quotient is a byte. -/
theorem divSmall_spec (hdiv : 0 < div) (hmax : div ≤ 65537) {rem : Nat} (hrem : rem < div)
    (p : List UInt8) : (divSmall div rem p).1.length = p.length ∧ (divSmall div rem p).2 < div ∧
      beNat (divSmall div rem p).1 * div + (divSmall div rem p).2 =
        rem * 256 ^ p.length + beNat p := by
  induction p generalizing rem with
  | nil => simpa [divSmall] using hrem
  | cons x p ih =>
      have hx := x.toNat_lt
      have hnowrap : (rem * 256 + x.toNat) % 2 ^ 32 = rem * 256 + x.toNat :=
        Nat.mod_eq_of_lt (by omega)
      obtain ⟨hl, hlt, hv⟩ := ih (Nat.mod_lt (rem * 256 + x.toNat) hdiv)
      have hbyte : (rem * 256 + x.toNat) / div < 256 := by
        rw [Nat.div_lt_iff_lt_mul hdiv]
        omega
      have hsum := Nat.mod_add_div (rem * 256 + x.toNat) div
      simp only [divSmall, hnowrap]
      refine ⟨by simp [hl], hlt, ?_⟩
      rw [beNat_cons, beNat_cons, hl, List.length_cons, pow_succ, UInt8.toNat_ofNat',
        Nat.mod_eq_of_lt hbyte]
      linear_combination hv + 256 ^ p.length * hsum

theorem head_eq_zero_of_beNat_lt {b : UInt8} {bs : List UInt8}
    (h : beNat (b :: bs) < 256 ^ bs.length) : b = 0 := by
  rw [beNat_cons] at h
  by_contra hne
  have hpos : b.toNat ≠ 0 := fun h0 => hne (UInt8.toNat_inj.mp h0)
  have := Nat.mul_le_mul_right (256 ^ bs.length) (Nat.one_le_iff_ne_zero.mpr hpos)
  omega

/-- `rsa_mul_small_add_one_div_small` divides exactly, when the quotient fits. -/
theorem rsaMulSmallAddOneDivSmall_spec (hlen : 0 < m.length) (hmax : m.length ≤ rsaMaxBytes)
    (hmul : mul ≤ 65536) (hdiv : 0 < div) (hdmax : div ≤ 65537) {x : Nat}
    (hexact : beNat m * mul + 1 = div * x) (hfit : x < 256 ^ m.length) :
    ∃ out, rsaMulSmallAddOneDivSmall m mul div = some out ∧ out.length = m.length ∧
      beNat out = x := by
  obtain ⟨hll, hlc, hlv⟩ := mulSmallCarry_spec hmul m
  obtain ⟨product, hproduct⟩ : ∃ product, product = UInt8.ofNat ((mulSmallCarry mul m).2 / 256) ::
    UInt8.ofNat (mulSmallCarry mul m).2 :: (mulSmallCarry mul m).1 := ⟨_, rfl⟩
  have hplen : product.length = m.length + 2 := by rw [hproduct]; simp [hll]
  have hpval : beNat product = beNat m * mul := by
    have hsplit := Nat.mod_add_div (mulSmallCarry mul m).2 256
    rw [hproduct, beNat_cons, beNat_cons, List.length_cons, hll, toNat_ofNat_byte, toNat_ofNat_byte,
      ← hlv, pow_succ, Nat.mod_eq_of_lt (show (mulSmallCarry mul m).2 / 256 < 256 by omega)]
    linear_combination 256 ^ m.length * hsplit
  obtain ⟨hal, hav⟩ := addOneCarry_spec product
  -- the product and the 1 fit in two more bytes
  have hnocarry : (addOneCarry product).2.toNat = 0 := by
    have hbound : beNat m * mul + 1 < 256 ^ product.length := by
      have hm := beNat_lt m
      have hprod := Nat.mul_le_mul (Nat.le_sub_one_of_lt hm) hmul
      rw [Nat.sub_mul] at hprod
      rw [hplen, pow_add]
      omega
    by_contra hne
    have hpos := Nat.mul_le_mul_left (256 ^ product.length) (Nat.one_le_iff_ne_zero.mpr hne)
    omega
  obtain ⟨quotient, hquot⟩ : ∃ quotient, quotient = divSmall div 0 (addOneCarry product).1 :=
    ⟨_, rfl⟩
  obtain ⟨hql, hqr, hqv⟩ := divSmall_spec hdiv hdmax hdiv (addOneCarry product).1
  rw [← hquot] at hql hqr hqv
  rw [hnocarry, hpval, hexact, Nat.mul_zero, Nat.add_zero] at hav
  rw [hav, Nat.zero_mul, Nat.zero_add, Nat.mul_comm] at hqv
  have hrem : quotient.2 = 0 := by
    have hmod := congrArg (· % div) hqv
    simpa [Nat.mod_eq_of_lt hqr] using hmod
  have hx : beNat quotient.1 = x := by
    rw [hrem, Nat.add_zero] at hqv
    exact Nat.eq_of_mul_eq_mul_left hdiv hqv
  rw [hal, hplen] at hql
  -- the quotient has its value in the last bytes
  obtain ⟨q0, q1, low, hlow⟩ : ∃ q0 q1 low, quotient.1 = q0 :: q1 :: low := by
    match hq : quotient.1 with
    | [] | [_] => rw [hq] at hql; simp at hql
    | q0 :: q1 :: low => exact ⟨q0, q1, low, rfl⟩
  rw [hlow] at hql hx
  have hlowlen : low.length = m.length := by simpa using hql
  have h0 : q0 = 0 := by
    refine @head_eq_zero_of_beNat_lt _ (q1 :: low) ?_
    rw [hx, List.length_cons, hlowlen, pow_succ]
    omega
  rw [h0, beNat_cons, UInt8.toNat_zero, Nat.zero_mul, Nat.zero_add] at hx
  have h1 : q1 = 0 := head_eq_zero_of_beNat_lt (by rw [hx, hlowlen]; exact hfit)
  rw [h1, beNat_cons, UInt8.toNat_zero, Nat.zero_mul, Nat.zero_add] at hx
  refine ⟨low, ?_, hlowlen, hx⟩
  unfold rsaMulSmallAddOneDivSmall
  rw [if_neg (by omega)]
  simp only
  rw [← hproduct, ← hquot, hrem, hlow, h0, h1]
  rfl

/-- `rsa_inverse_of_65537` finds the inverse whenever there is one. -/
theorem rsaInverseOf65537_spec {mod : List UInt8} (hmax : mod.length ≤ rsaMaxBytes)
    (hone : 1 < beNat mod) (hmod : beNat mod % 65537 ≠ 0) :
    ∃ out, rsaInverseOf65537 mod = some out ∧ out.length = mod.length ∧
      beNat out < beNat mod ∧ 65537 * beNat out % beNat mod = 1 := by
  have hprime : Nat.Prime 65537 := by norm_num
  have hlen : 0 < mod.length := by
    rw [List.length_pos_iff]
    rintro rfl
    exact hmod rfl
  have hlt65537 := Nat.mod_lt (beNat mod) (y := 65537) (by decide)
  obtain ⟨hinv, hlt⟩ := rsaInvModU32_spec (by decide : 1 < 65537)
    (Nat.coprime_of_lt_prime hmod hlt65537 hprime)
  obtain ⟨inv, hinveq⟩ : ∃ inv, inv = rsaInvModU32 (beNat mod % 65537) 65537 := ⟨_, rfl⟩
  rw [← hinveq] at hinv hlt
  have hinv0 : inv ≠ 0 := by
    rintro rfl
    simp at hinv
  have hfull : beNat mod * inv % 65537 = 1 := by
    rw [Nat.mul_comm, ← hinv]
    exact ((Nat.mod_modEq (beNat mod) 65537).mul_left inv).symm
  have hquot := Nat.mod_add_div (beNat mod * inv) 65537
  rw [hfull] at hquot
  have hadd : beNat mod * (65537 - inv) + beNat mod * inv = beNat mod * 65537 := by
    rw [← Nat.mul_add, Nat.sub_add_cancel hlt.le]
  have hquotpos : 0 < beNat mod * inv / 65537 := by
    refine Nat.div_pos ?_ (by decide)
    by_contra hsmall
    rw [Nat.mod_eq_of_lt (by omega)] at hfull
    have := Nat.le_mul_of_pos_right (beNat mod) (Nat.pos_of_ne_zero hinv0)
    omega
  have hexact : beNat mod * (65537 - inv) + 1 =
      65537 * (beNat mod - beNat mod * inv / 65537) := by omega
  obtain ⟨out, hout, holen, hoval⟩ := rsaMulSmallAddOneDivSmall_spec hlen hmax
    (by omega : 65537 - inv ≤ 65536) (by decide) le_rfl hexact
    (lt_of_le_of_lt (Nat.sub_le _ _) (beNat_lt mod))
  refine ⟨out, ?_, holen, by omega, ?_⟩
  · unfold rsaInverseOf65537
    rw [if_neg (by omega)]
    simp only
    rw [rsaModU32_eq (by decide), if_neg hmod, ← hinveq, if_neg hinv0, if_neg (by omega), hout]
  · rw [hoval, ← hexact, Nat.mul_add_mod, Nat.mod_eq_of_lt hone]

end Division

end Orizon
