import Orizon.Lib.Digits
import Orizon.Lib.Ladder
import Orizon.Lib.Word
import Mathlib.Data.ZMod.Basic
import Mathlib.Tactic.LinearCombination

/-!
# Orizon.X25519.Field

The field arithmetic of `lib/x25519.c`: elements of GF(2²⁵⁵ − 19) in five
limbs of 51 bits.

The functions are written against `Orizon.Lib.Word`: every limb sum,
every product sum and every narrowing of a carry is a `word` of the width
the source gives it, so a run in `Option` aborts as soon as one of them
leaves its width.  The shifts and masks that drop bits on purpose are plain.

`Represents h x` says that `h` is a reduced representation of `x`: limbs
below `2 ^ 51`, value `x` in `ZMod`.  Each function has one lemma: on
represented arguments it returns, and returns a representation of the field
operation's result.
-/

namespace Orizon

/-- `fe51`: five 64-bit limbs. -/
structure Fe51 where
  h0 : Nat
  h1 : Nat
  h2 : Nat
  h3 : Nat
  h4 : Nat
  deriving DecidableEq, Repr

/-- `FE51_MASK`. -/
def fe51Mask : Nat := 2 ^ 51 - 1

/-- The limbs of the prime (`p` in `fe51_ge_p` and `fe51_sub_p`). -/
def fe51P : Fe51 := ⟨fe51Mask - 18, fe51Mask, fe51Mask, fe51Mask, fe51Mask⟩

/-- `fe51_1`. -/
def fe51One : Fe51 := ⟨1, 0, 0, 0, 0⟩

/-- `fe51_0`. -/
def fe51Zero : Fe51 := ⟨0, 0, 0, 0, 0⟩

/-! ## The functions -/

section Functions

variable {m : Type → Type} [Monad m] [WordOps m]

/-- One round of `fe51_reduce`. -/
def fe51ReduceRound (h : Fe51) : m Fe51 := do
  let c := h.h0 >>> 51
  let h0 := h.h0 &&& fe51Mask
  let h1 ← word 64 (h.h1 + c)
  let c := h1 >>> 51
  let h1 := h1 &&& fe51Mask
  let h2 ← word 64 (h.h2 + c)
  let c := h2 >>> 51
  let h2 := h2 &&& fe51Mask
  let h3 ← word 64 (h.h3 + c)
  let c := h3 >>> 51
  let h3 := h3 &&& fe51Mask
  let h4 ← word 64 (h.h4 + c)
  let c := h4 >>> 51
  let h4 := h4 &&& fe51Mask
  let c ← word 64 (c * 19)
  let h0 ← word 64 (h0 + c)
  pure ⟨h0, h1, h2, h3, h4⟩

/-- `fe51_reduce`: two rounds. -/
def fe51Reduce (h : Fe51) : m Fe51 := do
  let h ← fe51ReduceRound h
  fe51ReduceRound h

/-- `fe51_add`. -/
def fe51Add (a b : Fe51) : m Fe51 := do
  let h0 ← word 64 (a.h0 + b.h0)
  let h1 ← word 64 (a.h1 + b.h1)
  let h2 ← word 64 (a.h2 + b.h2)
  let h3 ← word 64 (a.h3 + b.h3)
  let h4 ← word 64 (a.h4 + b.h4)
  fe51Reduce ⟨h0, h1, h2, h3, h4⟩

/-- One limb of `fe51_sub`: `a + 4p - b`. -/
def fe51SubLimb (a p4 b : Nat) : m Nat := do
  let t ← word 64 (a + p4)
  wsub 64 t b

/-- `fe51_sub`. -/
def fe51Sub (a b : Fe51) : m Fe51 := do
  let h0 ← fe51SubLimb a.h0 ((fe51Mask - 18) * 4) b.h0
  let h1 ← fe51SubLimb a.h1 (fe51Mask * 4) b.h1
  let h2 ← fe51SubLimb a.h2 (fe51Mask * 4) b.h2
  let h3 ← fe51SubLimb a.h3 (fe51Mask * 4) b.h3
  let h4 ← fe51SubLimb a.h4 (fe51Mask * 4) b.h4
  fe51Reduce ⟨h0, h1, h2, h3, h4⟩

/-- `fe51_mul`.  The products and partial sums of a limb are bounded by the
128-bit sum they build, so the sum is the only word of that width checked. -/
def fe51Mul (f g : Fe51) : m Fe51 := do
  let h0 ← word 128 (f.h0 * g.h0 +
    19 * (f.h1 * g.h4 + f.h2 * g.h3 + f.h3 * g.h2 + f.h4 * g.h1))
  let h1 ← word 128 (f.h0 * g.h1 + f.h1 * g.h0 +
    19 * (f.h2 * g.h4 + f.h3 * g.h3 + f.h4 * g.h2))
  let h2 ← word 128 (f.h0 * g.h2 + f.h1 * g.h1 + f.h2 * g.h0 +
    19 * (f.h3 * g.h4 + f.h4 * g.h3))
  let h3 ← word 128 (f.h0 * g.h3 + f.h1 * g.h2 + f.h2 * g.h1 + f.h3 * g.h0 +
    19 * f.h4 * g.h4)
  let h4 ← word 128 (f.h0 * g.h4 + f.h1 * g.h3 + f.h2 * g.h2 + f.h3 * g.h1 + f.h4 * g.h0)
  let out0 := h0 % 2 ^ 64 &&& fe51Mask
  let h1 ← word 128 (h1 + h0 >>> 51)
  let out1 := h1 % 2 ^ 64 &&& fe51Mask
  let h2 ← word 128 (h2 + h1 >>> 51)
  let out2 := h2 % 2 ^ 64 &&& fe51Mask
  let h3 ← word 128 (h3 + h2 >>> 51)
  let out3 := h3 % 2 ^ 64 &&& fe51Mask
  let h4 ← word 128 (h4 + h3 >>> 51)
  let out4 := h4 % 2 ^ 64 &&& fe51Mask
  let c ← word 64 (h4 >>> 51)
  let c ← word 64 (c * 19)
  let out0 ← word 64 (out0 + c)
  fe51Reduce ⟨out0, out1, out2, out3, out4⟩

/-- `fe51_sq`. -/
def fe51Sq (a : Fe51) : m Fe51 := fe51Mul a a

/-- `exponent_pminus2_bit`. -/
def exponentPminus2Bit (bit : Nat) : Bool :=
  if bit = 2 ∨ bit = 4 ∨ bit ≥ 255 then false else true

/-- The loop body of `fe51_inv`. -/
def fe51InvStep (base result : Fe51) (bit : Nat) : m Fe51 := do
  let result ← fe51Sq result
  if exponentPminus2Bit bit then fe51Mul result base else pure result

/-- `fe51_inv`: `z ^ (p - 2)`, bits 254 down to 0. -/
def fe51Inv (z : Fe51) : m Fe51 :=
  (List.range 255).reverse.foldlM (fe51InvStep z) fe51One

end Functions

/-! ## Values -/

/-- The prime `2 ^ 255 - 19`. -/
def p25519 : Nat := 2 ^ 255 - 19

/-- The number the limbs denote. -/
def Fe51.value (h : Fe51) : Nat :=
  h.h0 + 2 ^ 51 * h.h1 + 2 ^ 102 * h.h2 + 2 ^ 153 * h.h3 + 2 ^ 204 * h.h4

/-- All limbs are below `2 ^ k`. -/
structure Fe51.Below (k : Nat) (h : Fe51) : Prop where
  h0 : h.h0 < 2 ^ k
  h1 : h.h1 < 2 ^ k
  h2 : h.h2 < 2 ^ k
  h3 : h.h3 < 2 ^ k
  h4 : h.h4 < 2 ^ k

/-- `h` is a reduced representation of the field element `x`. -/
structure Represents (h : Fe51) (x : ZMod p25519) : Prop where
  below : h.Below 51
  cast_eq : (h.value : ZMod p25519) = x

theorem and_fe51Mask (x : Nat) : x &&& fe51Mask = x % 2 ^ 51 :=
  Nat.and_two_pow_sub_one_eq_mod x 51

private theorem low64_and_fe51Mask (x : Nat) : x % 2 ^ 64 &&& fe51Mask = x % 2 ^ 51 := by
  rw [and_fe51Mask]
  exact Nat.mod_mod_of_dvd x (by decide)

/-- Folding the carry out of the top limb back in: `2 ^ 255` is 19. -/
theorem two_pow_255 : (2 : ZMod p25519) ^ 255 = 19 := by
  have h : ((2 ^ 255 : Nat) : ZMod p25519) = ((19 : Nat) : ZMod p25519) := by
    rw [ZMod.natCast_eq_natCast_iff']
    decide
  exact_mod_cast h

/-! ## Carries -/

namespace Fe51

/-- The limbs after a carry chain from `h0` to `h4`. -/
def carry (h : Fe51) : Fe51 :=
  let t1 := h.h1 + h.h0 / 2 ^ 51
  let t2 := h.h2 + t1 / 2 ^ 51
  let t3 := h.h3 + t2 / 2 ^ 51
  let t4 := h.h4 + t3 / 2 ^ 51
  ⟨h.h0 % 2 ^ 51, t1 % 2 ^ 51, t2 % 2 ^ 51, t3 % 2 ^ 51, t4 % 2 ^ 51⟩

/-- The carry out of the top limb. -/
def carryOut (h : Fe51) : Nat :=
  (h.h4 + (h.h3 + (h.h2 + (h.h1 + h.h0 / 2 ^ 51) / 2 ^ 51) / 2 ^ 51) / 2 ^ 51) / 2 ^ 51

/-- A carry chain whose top carry comes back in at weight 19. -/
def fold (h : Fe51) : Fe51 := { h.carry with h0 := h.carry.h0 + h.carryOut * 19 }

theorem carry_below (h : Fe51) : h.carry.Below 51 := by
  constructor <;> exact Nat.mod_lt _ (by decide)

/-- What leaves the top limb weighs `2 ^ 255`. -/
theorem carry_value (h : Fe51) : h.carry.value + 2 ^ 255 * h.carryOut = h.value := by
  simp only [value, carry, carryOut]
  omega

theorem fold_cast (h : Fe51) : (h.fold.value : ZMod p25519) = h.value := by
  have hfold : h.fold.value = h.carry.value + 19 * h.carryOut := by
    simp only [value, fold]
    ring
  rw [hfold, ← carry_value h]
  simp only [Nat.cast_add, Nat.cast_mul, Nat.cast_pow, Nat.cast_ofNat, two_pow_255]

end Fe51

section Specs

variable {m : Type → Type} [Monad m] [LawfulMonad m] [WordOps m] [LawfulWordOps m]

private theorem fe51ReduceRound_eq {h : Fe51} (hb : h.Below 63) :
    fe51ReduceRound h = (pure h.fold : m Fe51) := by
  obtain ⟨b0, b1, b2, b3, b4⟩ := hb
  simp only [fe51ReduceRound, and_fe51Mask, Nat.shiftRight_eq_div_pow, Fe51.fold, Fe51.carry,
    Fe51.carryOut]
  rw [word_of_lt (by omega), pure_bind, word_of_lt (by omega), pure_bind,
    word_of_lt (by omega), pure_bind, word_of_lt (by omega), pure_bind,
    word_of_lt (by omega), pure_bind, word_of_lt (by omega), pure_bind]

private theorem fold_bounds {h : Fe51} (hb : h.Below 63) :
    h.fold.h0 < 2 ^ 51 + 2 ^ 18 ∧ h.fold.h1 < 2 ^ 51 ∧ h.fold.h2 < 2 ^ 51 ∧
      h.fold.h3 < 2 ^ 51 ∧ h.fold.h4 < 2 ^ 51 := by
  obtain ⟨b0, b1, b2, b3, b4⟩ := hb
  simp only [Fe51.fold, Fe51.carry, Fe51.carryOut]
  omega

/-- After one round only the low limb can exceed 51 bits, and by so little
that a carry which runs through all limbs leaves a small low limb behind. -/
private theorem fold_below {h : Fe51} (h0 : h.h0 < 2 ^ 51 + 2 ^ 18) (h1 : h.h1 < 2 ^ 51)
    (h2 : h.h2 < 2 ^ 51) (h3 : h.h3 < 2 ^ 51) (h4 : h.h4 < 2 ^ 51) : h.fold.Below 51 := by
  refine ⟨?_, h.carry_below.h1, h.carry_below.h2, h.carry_below.h3, h.carry_below.h4⟩
  simp only [Fe51.fold, Fe51.carry, Fe51.carryOut]
  omega

/-- Two rounds of reduction bring every limb below `2 ^ 51`. -/
theorem fe51Reduce_spec {h : Fe51} (hb : h.Below 63) :
    ∃ r, fe51Reduce h = (pure r : m Fe51) ∧ r.Below 51 ∧
      (r.value : ZMod p25519) = h.value := by
  obtain ⟨b0, b1, b2, b3, b4⟩ := fold_bounds hb
  have hb' : h.fold.Below 63 := ⟨by omega, by omega, by omega, by omega, by omega⟩
  refine ⟨h.fold.fold, ?_, fold_below b0 b1 b2 b3 b4, by rw [Fe51.fold_cast, Fe51.fold_cast]⟩
  rw [fe51Reduce, fe51ReduceRound_eq hb, pure_bind, fe51ReduceRound_eq hb']

/-! ## Field operations -/

variable {a b : Fe51} {x y : ZMod p25519}

/-- Reduction of limbs that denote `x`. -/
private theorem represents_reduce {h : Fe51} (hb : h.Below 63)
    (hx : (h.value : ZMod p25519) = x) :
    ∃ r, fe51Reduce h = (pure r : m Fe51) ∧ Represents r x := by
  obtain ⟨r, hr, hbelow, hval⟩ := fe51Reduce_spec (m := m) hb
  exact ⟨r, hr, hbelow, hval.trans hx⟩

private theorem below_mk {k h0 h1 h2 h3 h4 : Nat} (b0 : h0 < 2 ^ k) (b1 : h1 < 2 ^ k)
    (b2 : h2 < 2 ^ k) (b3 : h3 < 2 ^ k) (b4 : h4 < 2 ^ k) :
    (Fe51.mk h0 h1 h2 h3 h4).Below k := ⟨b0, b1, b2, b3, b4⟩

theorem Represents.add (ha : Represents a x) (hb : Represents b y) :
    ∃ r, fe51Add a b = (pure r : m Fe51) ∧ Represents r (x + y) := by
  obtain ⟨⟨a0, a1, a2, a3, a4⟩, rfl⟩ := ha
  obtain ⟨⟨b0, b1, b2, b3, b4⟩, rfl⟩ := hb
  have hval : (Fe51.mk (a.h0 + b.h0) (a.h1 + b.h1) (a.h2 + b.h2) (a.h3 + b.h3)
      (a.h4 + b.h4)).value = a.value + b.value := by
    simp only [Fe51.value]
    ring
  obtain ⟨r, hr, hrep⟩ := represents_reduce (m := m)
    (below_mk (by omega) (by omega) (by omega) (by omega) (by omega))
    (congrArg (Nat.cast : Nat → ZMod p25519) hval)
  refine ⟨r, ?_, by simpa using hrep⟩
  rw [fe51Add, word_of_lt (by omega), pure_bind, word_of_lt (by omega), pure_bind,
    word_of_lt (by omega), pure_bind, word_of_lt (by omega), pure_bind,
    word_of_lt (by omega), pure_bind, hr]

private theorem fe51SubLimb_eq {u p4 v : Nat} (hu : u < 2 ^ 51) (hv : v ≤ p4)
    (hp : p4 < 2 ^ 54) : fe51SubLimb u p4 v = (pure (u + p4 - v) : m Nat) := by
  rw [fe51SubLimb, word_of_lt (by omega), pure_bind, wsub_of_le (by omega) (by omega)]

/-- The multiple of the prime that `fe51_sub` adds keeps every limb
non-negative. -/
theorem Represents.sub (ha : Represents a x) (hb : Represents b y) :
    ∃ r, fe51Sub a b = (pure r : m Fe51) ∧ Represents r (x - y) := by
  obtain ⟨⟨a0, a1, a2, a3, a4⟩, rfl⟩ := ha
  obtain ⟨⟨b0, b1, b2, b3, b4⟩, rfl⟩ := hb
  have hmask : fe51Mask = 2 ^ 51 - 1 := rfl
  have hval : (Fe51.mk (a.h0 + (fe51Mask - 18) * 4 - b.h0) (a.h1 + fe51Mask * 4 - b.h1)
      (a.h2 + fe51Mask * 4 - b.h2) (a.h3 + fe51Mask * 4 - b.h3)
      (a.h4 + fe51Mask * 4 - b.h4)).value + b.value = a.value + 4 * p25519 := by
    simp only [Fe51.value, p25519]
    omega
  have hcast := congrArg (Nat.cast : Nat → ZMod p25519) hval
  rw [Nat.cast_add, Nat.cast_add, Nat.cast_mul, ZMod.natCast_self, mul_zero, add_zero] at hcast
  obtain ⟨r, hr, hrep⟩ := represents_reduce (m := m)
    (below_mk (by omega) (by omega) (by omega) (by omega) (by omega))
    (eq_sub_of_add_eq hcast)
  refine ⟨r, ?_, hrep⟩
  rw [fe51Sub, fe51SubLimb_eq a0 (by omega) (by omega), pure_bind,
    fe51SubLimb_eq a1 (by omega) (by omega), pure_bind, fe51SubLimb_eq a2 (by omega) (by omega),
    pure_bind, fe51SubLimb_eq a3 (by omega) (by omega), pure_bind,
    fe51SubLimb_eq a4 (by omega) (by omega), pure_bind, hr]

/-- The product sums of `fe51_mul` before the carries. -/
def mulSums (f g : Fe51) : Fe51 where
  h0 := f.h0 * g.h0 + 19 * (f.h1 * g.h4 + f.h2 * g.h3 + f.h3 * g.h2 + f.h4 * g.h1)
  h1 := f.h0 * g.h1 + f.h1 * g.h0 + 19 * (f.h2 * g.h4 + f.h3 * g.h3 + f.h4 * g.h2)
  h2 := f.h0 * g.h2 + f.h1 * g.h1 + f.h2 * g.h0 + 19 * (f.h3 * g.h4 + f.h4 * g.h3)
  h3 := f.h0 * g.h3 + f.h1 * g.h2 + f.h2 * g.h1 + f.h3 * g.h0 + 19 * f.h4 * g.h4
  h4 := f.h0 * g.h4 + f.h1 * g.h3 + f.h2 * g.h2 + f.h3 * g.h1 + f.h4 * g.h0

/-- Each product sum is at most 77 limb products, far inside 128 bits. -/
private theorem mulSums_below {f g : Fe51} (hf : f.Below 51) (hg : g.Below 51) :
    (mulSums f g).Below 109 := by
  obtain ⟨f0, f1, f2, f3, f4⟩ := hf
  obtain ⟨g0, g1, g2, g3, g4⟩ := hg
  have hmul : ∀ {u v : Nat}, u < 2 ^ 51 → v < 2 ^ 51 → u * v < 2 ^ 102 := fun {u v} hu hv =>
    calc u * v < 2 ^ 51 * 2 ^ 51 := Nat.mul_lt_mul'' hu hv
      _ = 2 ^ 102 := by norm_num
  constructor <;> simp only [mulSums, Nat.mul_assoc]
  · have := hmul f0 g0; have := hmul f1 g4; have := hmul f2 g3; have := hmul f3 g2
    have := hmul f4 g1
    omega
  · have := hmul f0 g1; have := hmul f1 g0; have := hmul f2 g4; have := hmul f3 g3
    have := hmul f4 g2
    omega
  · have := hmul f0 g2; have := hmul f1 g1; have := hmul f2 g0; have := hmul f3 g4
    have := hmul f4 g3
    omega
  · have := hmul f0 g3; have := hmul f1 g2; have := hmul f2 g1; have := hmul f3 g0
    have := hmul f4 g4
    omega
  · have := hmul f0 g4; have := hmul f1 g3; have := hmul f2 g2; have := hmul f3 g1
    have := hmul f4 g0
    omega

/-- The product sums denote the product: the products of weight `2 ^ 255`
and up come back in at weight 19. -/
private theorem mulSums_cast (f g : Fe51) :
    ((mulSums f g).value : ZMod p25519) = f.value * g.value := by
  simp only [mulSums, Fe51.value, Nat.cast_add, Nat.cast_mul, Nat.cast_pow, Nat.cast_ofNat]
  linear_combination -((f.h1 * g.h4 + f.h2 * g.h3 + f.h3 * g.h2 + f.h4 * g.h1 : ZMod p25519) +
    2 ^ 51 * (f.h2 * g.h4 + f.h3 * g.h3 + f.h4 * g.h2) +
    2 ^ 102 * (f.h3 * g.h4 + f.h4 * g.h3) + 2 ^ 153 * (f.h4 * g.h4)) * two_pow_255

private theorem fe51Mul_eq {f g : Fe51} (hf : f.Below 51) (hg : g.Below 51) :
    fe51Mul f g = (fe51Reduce (mulSums f g).fold : m Fe51) ∧ (mulSums f g).fold.Below 63 := by
  obtain ⟨b0, b1, b2, b3, b4⟩ := mulSums_below hf hg
  constructor
  · simp only [fe51Mul, low64_and_fe51Mask, Nat.shiftRight_eq_div_pow, Fe51.fold, Fe51.carry,
      Fe51.carryOut]
    simp only [mulSums] at b0 b1 b2 b3 b4 ⊢
    rw [word_of_lt (by omega), pure_bind, word_of_lt (by omega), pure_bind,
      word_of_lt (by omega), pure_bind, word_of_lt (by omega), pure_bind,
      word_of_lt (by omega), pure_bind, word_of_lt (by omega), pure_bind,
      word_of_lt (by omega), pure_bind, word_of_lt (by omega), pure_bind,
      word_of_lt (by omega), pure_bind, word_of_lt (by omega), pure_bind,
      word_of_lt (by omega), pure_bind, word_of_lt (by omega), pure_bind]
  · constructor <;> simp only [Fe51.fold, Fe51.carry, Fe51.carryOut] <;> omega

theorem Represents.mul (ha : Represents a x) (hb : Represents b y) :
    ∃ r, fe51Mul a b = (pure r : m Fe51) ∧ Represents r (x * y) := by
  obtain ⟨heq, hbelow⟩ := fe51Mul_eq (m := m) ha.below hb.below
  rw [heq]
  exact represents_reduce hbelow (by rw [Fe51.fold_cast, mulSums_cast, ha.cast_eq, hb.cast_eq])

theorem Represents.sq (ha : Represents a x) :
    ∃ r, fe51Sq a = (pure r : m Fe51) ∧ Represents r (x * x) := ha.mul ha

theorem represents_one : Represents fe51One 1 :=
  ⟨below_mk (by decide) (by decide) (by decide) (by decide) (by decide), by
    simp [Fe51.value, fe51One]⟩

theorem represents_zero : Represents fe51Zero 0 :=
  ⟨below_mk (by decide) (by decide) (by decide) (by decide) (by decide), by
    simp [Fe51.value, fe51Zero]⟩

/-- `fe51_inv` raises to the power `p - 2`. -/
theorem Represents.inv (ha : Represents a x) :
    ∃ r, fe51Inv a = (pure r : m Fe51) ∧ Represents r (x ^ (p25519 - 2)) := by
  have hloop := foldlM_pure_rel (m := m) (r := Represents) (f := fe51InvStep a)
    (g := fun (r : ZMod p25519) bit => if exponentPminus2Bit bit then r * r * x else r * r)
    (List.range 255).reverse
    (fun bit _ b c h => by
      obtain ⟨s, hs, hrep⟩ := h.sq (m := m)
      rw [fe51InvStep, hs, pure_bind]
      cases exponentPminus2Bit bit
      · exact ⟨s, rfl, hrep⟩
      · exact hrep.mul ha)
    (b := fe51One) (c := x ^ 0) (by rw [pow_zero]; exact represents_one)
  have hpow : (List.range 255).reverse.foldl
      (fun (r : ZMod p25519) bit => if exponentPminus2Bit bit then r * r * x else r * r) (x ^ 0) =
      x ^ (p25519 - 2) := by
    have hbits : beBits ((List.range 255).reverse.map exponentPminus2Bit) = p25519 - 2 := by
      decide +kernel
    have hfold := foldl_square_multiply x ((List.range 255).reverse.map exponentPminus2Bit) 0
    rwa [List.foldl_map, hbits, Nat.zero_mul, Nat.zero_add] at hfold
  rw [hpow] at hloop
  exact hloop

end Specs

end Orizon
