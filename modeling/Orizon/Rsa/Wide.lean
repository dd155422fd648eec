import Orizon.Rsa.Modular

/-!
# Orizon.Rsa.Wide

The arithmetic of `lib/rsa.c` on plain numbers: subtraction of residues,
schoolbook multiplication and right-aligned addition.

As in `Orizon.Rsa.Bytes`, a loop that runs from the last byte to the first
handles the tail before the head, and each function has one lemma giving its
value.  The `uint32_t` sums stay below `2 ^ 25`, so they are `Nat`s.
-/

namespace Orizon

/-! ## Subtraction of residues -/

/-- `rsa_mod_sub`: `a - b`, or `mod - (b - a)` when `b` is larger; the last
borrow is dropped. -/
def rsaModSub (a b mod : List UInt8) : List UInt8 :=
  if rsaGeBytes a b then rsaSubInplace a b
  else rsaSubInplace mod (rsaSubInplace b a)

section ModSub

variable {a b mod : List UInt8}

/-- The difference, when it does not fall below `-mod`. -/
theorem beNat_rsaModSub (hlen : a.length = b.length) (hmod : a.length = mod.length)
    (hle : beNat b ≤ beNat a + beNat mod) :
    (rsaModSub a b mod).length = mod.length ∧
      beNat (rsaModSub a b mod) =
        if beNat b ≤ beNat a then beNat a - beNat b else beNat a + beNat mod - beNat b := by
  have hge := rsaGeBytes_iff hlen
  unfold rsaModSub
  by_cases hb : beNat b ≤ beNat a
  · rw [if_pos (hge.mpr hb), if_pos hb]
    exact ⟨by rw [length_rsaSubInplace hlen, hmod], beNat_rsaSubInplace hlen hb⟩
  · have hdiff := beNat_rsaSubInplace hlen.symm (Nat.le_of_not_le hb)
    have hdlen := length_rsaSubInplace hlen.symm
    have hmlen : mod.length = (rsaSubInplace b a).length := by rw [hdlen, ← hlen, hmod]
    rw [if_neg (mt hge.mp hb), if_neg hb]
    refine ⟨length_rsaSubInplace hmlen, ?_⟩
    rw [beNat_rsaSubInplace hmlen (by omega), hdiff]
    omega

/-- Below `-mod` the borrow out of the first byte is lost: the result is
`256 ^ len` too large. -/
theorem beNat_rsaModSub_wrap (hlen : a.length = b.length) (hmod : a.length = mod.length)
    (hlt : beNat a + beNat mod < beNat b) :
    (rsaModSub a b mod).length = mod.length ∧
      beNat (rsaModSub a b mod) + beNat b = beNat a + beNat mod + 256 ^ mod.length := by
  have hb : ¬ beNat b ≤ beNat a := by omega
  have hge := rsaGeBytes_iff hlen
  have hdiff := beNat_rsaSubInplace hlen.symm (Nat.le_of_not_le hb)
  have hdlen := length_rsaSubInplace hlen.symm
  have hmlen : mod.length = (rsaSubInplace b a).length := by rw [hdlen, ← hlen, hmod]
  unfold rsaModSub
  rw [if_neg (mt hge.mp hb)]
  refine ⟨length_rsaSubInplace hmlen, ?_⟩
  obtain ⟨hl, hc, hv⟩ := subBorrow_spec hmlen
  have hs := beNat_lt (subBorrow mod (rsaSubInplace b a)).1
  rw [hl] at hs
  rw [hdiff] at hv
  have hval : rsaSubInplace mod (rsaSubInplace b a) = (subBorrow mod (rsaSubInplace b a)).1 := rfl
  rw [hval]
  obtain h0 | h1 := Nat.le_one_iff_eq_zero_or_eq_one.mp hc
  · rw [h0] at hv
    omega
  · rw [h1] at hv
    omega

end ModSub

/-! ## Multiplication -/

/-- The inner loop of `rsa_plain_mul`: `out + m * b` over the bytes of `b`, and
the carry out of the first of them. -/
def mulCarry (m : Nat) : List UInt8 → List UInt8 → List UInt8 × Nat
  | o :: os, b :: bs =>
      let rest := mulCarry m os bs
      let product := o.toNat + m * b.toNat + rest.2
      (UInt8.ofNat product :: rest.1, product / 256)
  | _, _ => ([], 0)

/-- The carry loop of `rsa_plain_mul`; it ends early when the carry is 0, which
adds nothing. -/
def propagateCarry : List UInt8 → Nat → List UInt8 × Nat
  | [], carry => ([], carry)
  | o :: os, carry =>
      let rest := propagateCarry os carry
      let sum := o.toNat + rest.2
      (UInt8.ofNat sum :: rest.1, sum / 256)

/-- One round of `rsa_plain_mul`, for the byte `av` at index `i - 1` of `a`: the
bytes of `b` go to `out[i ..]`, the carry to the bytes before. -/
def rsaPlainMulRow (b out : List UInt8) (i : Nat) (av : UInt8) : List UInt8 :=
  let row := mulCarry av.toNat ((out.drop i).take b.length) b
  (propagateCarry (out.take i) row.2).1 ++ row.1 ++ out.drop (i + b.length)

/-- `rsa_plain_mul` into `outLen` bytes. -/
def rsaPlainMul (outLen : Nat) (a b : List UInt8) : List UInt8 :=
  (List.range a.length).reverse.foldl (fun out i => rsaPlainMulRow b out (i + 1) (a.getD i 0))
    (List.replicate outLen 0)

theorem mulCarry_spec {m : Nat} {out b : List UInt8} (hlen : out.length = b.length) :
    (mulCarry m out b).1.length = b.length ∧
      beNat (mulCarry m out b).1 + 256 ^ b.length * (mulCarry m out b).2 =
        beNat out + m * beNat b := by
  induction out generalizing b with
  | nil =>
      obtain rfl : b = [] := List.length_eq_zero_iff.mp hlen.symm
      simp [mulCarry]
  | cons o out ih =>
      cases b with
      | nil => simp at hlen
      | cons x b =>
          have hlen' : out.length = b.length := by simpa using hlen
          obtain ⟨hl, hv⟩ := ih hlen'
          refine ⟨by simp [mulCarry, hl], ?_⟩
          have hsum := Nat.mod_add_div (o.toNat + m * x.toNat + (mulCarry m out b).2) 256
          simp only [mulCarry, beNat_cons, hl, hlen', List.length_cons, pow_succ 256,
            UInt8.toNat_ofNat', Nat.reducePow]
          linear_combination hv + 256 ^ b.length * hsum

theorem propagateCarry_spec (out : List UInt8) (carry : Nat) :
    (propagateCarry out carry).1.length = out.length ∧
      beNat (propagateCarry out carry).1 + 256 ^ out.length * (propagateCarry out carry).2 =
        beNat out + carry := by
  induction out with
  | nil => simp [propagateCarry]
  | cons o out ih =>
      obtain ⟨hl, hv⟩ := ih
      refine ⟨by simp [propagateCarry, hl], ?_⟩
      have hsum := Nat.mod_add_div (o.toNat + (propagateCarry out carry).2) 256
      simp only [propagateCarry, beNat_cons, hl, List.length_cons, pow_succ 256,
        UInt8.toNat_ofNat', Nat.reducePow]
      linear_combination hv + 256 ^ out.length * hsum

section PlainMul

variable {a b out : List UInt8} {i k : Nat} {av : UInt8}

/-- A row adds `av * b`, shifted to its place, when the sum fits. -/
theorem rsaPlainMulRow_spec (hlen : out.length = i + b.length + k)
    (hfit : beNat out + av.toNat * beNat b * 256 ^ k < 256 ^ out.length) :
    (rsaPlainMulRow b out i av).length = out.length ∧
      beNat (rsaPlainMulRow b out i av) = beNat out + av.toNat * beNat b * 256 ^ k := by
  have hwindow : ((out.drop i).take b.length).length = b.length := by
    rw [List.length_take, List.length_drop]
    omega
  have htail : (out.drop (i + b.length)).length = k := by
    rw [List.length_drop]
    omega
  have hhead : (out.take i).length = i := by
    rw [List.length_take]
    omega
  obtain ⟨hrl, hrv⟩ := mulCarry_spec (m := av.toNat) hwindow
  obtain ⟨hpl, hpv⟩ := propagateCarry_spec (out.take i)
    (mulCarry av.toNat ((out.drop i).take b.length) b).2
  rw [hhead] at hpl hpv
  have hsplit : beNat out = (beNat (out.take i) * 256 ^ b.length +
      beNat ((out.drop i).take b.length)) * 256 ^ k + beNat (out.drop (i + b.length)) := by
    have houter : out = out.take i ++ (out.drop i).take b.length ++ out.drop (i + b.length) := by
      rw [List.append_assoc, ← List.drop_drop, List.take_append_drop, List.take_append_drop]
    conv_lhs => rw [houter]
    rw [beNat_append, beNat_append, htail, hwindow]
  have hrow : (rsaPlainMulRow b out i av).length = out.length := by
    simp only [rsaPlainMulRow, List.length_append, hpl, hrl, htail]
    omega
  have hvalue : beNat (rsaPlainMulRow b out i av) + 256 ^ out.length *
      (propagateCarry (out.take i) (mulCarry av.toNat ((out.drop i).take b.length) b).2).2 =
      beNat out + av.toNat * beNat b * 256 ^ k := by
    simp only [rsaPlainMulRow, beNat_append, htail, hrl]
    rw [hsplit, hlen, pow_add, pow_add]
    linear_combination 256 ^ b.length * 256 ^ k * hpv + 256 ^ k * hrv
  refine ⟨hrow, ?_⟩
  -- the carry out of the first byte is zero: the sum fits
  have hcarry : (propagateCarry (out.take i)
      (mulCarry av.toNat ((out.drop i).take b.length) b).2).2 = 0 := by
    by_contra hne
    have hpos := Nat.mul_le_mul_left (256 ^ out.length) (Nat.one_le_iff_ne_zero.mpr hne)
    omega
  rw [hcarry] at hvalue
  omega

/-- `rsa_plain_mul` multiplies. -/
theorem rsaPlainMul_spec (a b : List UInt8) :
    (rsaPlainMul (a.length + b.length) a b).length = a.length + b.length ∧
      beNat (rsaPlainMul (a.length + b.length) a b) = beNat a * beNat b := by
  -- before the round for index `i` the buffer holds the product with the bytes after it
  have hrounds : ∀ n, n ≤ a.length → ∀ out : List UInt8, out.length = a.length + b.length →
      beNat out = beNat (a.drop n) * beNat b →
      ((List.range n).reverse.foldl
          (fun out i => rsaPlainMulRow b out (i + 1) (a.getD i 0)) out).length =
          a.length + b.length ∧
        beNat ((List.range n).reverse.foldl
          (fun out i => rsaPlainMulRow b out (i + 1) (a.getD i 0)) out) = beNat a * beNat b := by
    intro n
    induction n with
    | zero => exact fun _ out hlen hval => ⟨hlen, hval⟩
    | succ n ih =>
        intro hn out hlen hval
        have hdrop : a.drop n = a.getD n 0 :: a.drop (n + 1) := by
          rw [List.getD_eq_getElem?_getD, List.getElem?_eq_getElem (by omega), Option.getD_some]
          exact List.drop_eq_getElem_cons (by omega)
        have hnext : beNat (a.drop n) =
            (a.getD n 0).toNat * 256 ^ (a.length - (n + 1)) + beNat (a.drop (n + 1)) := by
          rw [hdrop, beNat_cons, List.length_drop]
        have hsum : beNat out + (a.getD n 0).toNat * beNat b * 256 ^ (a.length - (n + 1)) =
            beNat (a.drop n) * beNat b := by
          rw [hval, hnext]
          ring
        have hlt : beNat (a.drop n) * beNat b < 256 ^ (a.length + b.length) := by
          have ha := beNat_lt (a.drop n)
          have hb := beNat_lt b
          have hpow : 256 ^ (a.drop n).length ≤ 256 ^ a.length :=
            Nat.pow_le_pow_right (by decide) (by rw [List.length_drop]; omega)
          rw [pow_add]
          exact Nat.mul_lt_mul'' (lt_of_lt_of_le ha hpow) hb
        obtain ⟨hrl, hrv⟩ := @rsaPlainMulRow_spec b out (n + 1) (a.length - (n + 1))
          (a.getD n 0) (by omega) (by rw [hsum, hlen]; exact hlt)
        rw [List.range_succ, List.reverse_append, List.reverse_singleton, List.singleton_append,
          List.foldl_cons]
        exact ih (by omega) _ (hrl.trans hlen) (hrv.trans hsum)
  refine hrounds a.length le_rfl _ List.length_replicate ?_
  rw [beNat_replicate_zero, List.drop_length, beNat_nil, Nat.zero_mul]

end PlainMul

/-! ## Right-aligned addition -/

/-- `rsa_add_right_aligned`: the bytes `input` does not have count as 0. -/
def rsaAddRightAligned (out input : List UInt8) : List UInt8 :=
  (addCarry out (List.replicate (out.length - input.length) 0 ++ input)).1

theorem rsaAddRightAligned_spec {out input : List UInt8} (hlen : input.length ≤ out.length)
    (hfit : beNat out + beNat input < 256 ^ out.length) :
    (rsaAddRightAligned out input).length = out.length ∧
      beNat (rsaAddRightAligned out input) = beNat out + beNat input := by
  have hpad : out.length = (List.replicate (out.length - input.length) 0 ++ input).length := by
    rw [List.length_append, List.length_replicate]
    omega
  obtain ⟨hl, hc, hv⟩ := addCarry_spec hpad
  rw [beNat_append, beNat_replicate_zero, Nat.zero_mul, Nat.zero_add] at hv
  refine ⟨hl, ?_⟩
  unfold rsaAddRightAligned
  obtain h0 | h1 := Nat.le_one_iff_eq_zero_or_eq_one.mp hc
  · rw [h0] at hv
    omega
  · rw [h1] at hv
    omega

end Orizon
