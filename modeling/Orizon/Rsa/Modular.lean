import Orizon.Lib.Ladder
import Orizon.Rsa.Bytes
import Mathlib.Data.ZMod.Basic

/-!
# Orizon.Rsa.Modular

The modular layer of `lib/rsa.c`: addition and doubling with one
conditional subtraction, double-and-add multiplication, bit-serial
reduction and left-to-right exponentiation.

A buffer is related to the residue it stands for by `Residue mod x bs`:
`bs` has the modulus's length, its value is below the modulus, and it is
`x` in `ZMod`.  Every operation keeps the relation, so the loops are
computed in the ring by the lemmas of `Orizon.Lib.Ladder`.
-/

namespace Orizon

/-! ## The functions -/

/-- `rsa_add_mod`: the sum in `len + 1` bytes, less the modulus once if the
sum reaches it. -/
def rsaAddMod (a b mod : List UInt8) : List UInt8 :=
  let sum := addCarry a b
  let tmp := UInt8.ofNat sum.2 :: sum.1
  let tmp := if rsaGeExt tmp mod then rsaSubExt tmp mod else tmp
  tmp.tail

/-- `rsa_double_mod`. -/
def rsaDoubleMod (a mod : List UInt8) : List UInt8 := rsaAddMod a a mod

/-- One bit of `rsa_mul_mod`'s loop on `(result, temp)`. -/
def rsaMulModBit (mod : List UInt8) (s : List UInt8 × List UInt8) (bit : Bool) :
    List UInt8 × List UInt8 :=
  (if bit then rsaAddMod s.1 s.2 mod else s.1, rsaDoubleMod s.2 mod)

/-- `rsa_mul_mod`: the bytes of `b` from the last to the first, the bits of
each from bit 0 to bit 7. -/
def rsaMulMod (a b mod : List UInt8) : List UInt8 :=
  let temp := if rsaGeBytes a mod then rsaSubInplace a mod else a
  (b.reverse.foldl (fun s byte => (byteBits byte).foldl (rsaMulModBit mod) s)
    (List.replicate mod.length 0, temp)).1

/-- The buffer of `len` bytes whose last byte is 1 (`one` in
`rsa_add_one_mod`, the first `result` of `rsa_modexp`). -/
def rsaOne (len : Nat) : List UInt8 := List.replicate (len - 1) 0 ++ [1]

/-- `rsa_add_one_mod`. -/
def rsaAddOneMod (a mod : List UInt8) : List UInt8 := rsaAddMod a (rsaOne mod.length) mod

/-- One bit of `rsa_reduce`'s loop. -/
def rsaReduceBit (mod out : List UInt8) (bit : Bool) : List UInt8 :=
  let tmp := rsaDoubleMod out mod
  if bit then rsaAddOneMod tmp mod else tmp

/-- `rsa_reduce`: the bytes of `input` from the first to the last, the bits
of each from bit 7 to bit 0. -/
def rsaReduce (input mod : List UInt8) : List UInt8 :=
  input.foldl (fun out byte => (byteBits byte).reverse.foldl (rsaReduceBit mod) out)
    (List.replicate mod.length 0)

/-- One exponent bit of `rsa_modexp`'s loop. -/
def rsaModexpBit (b mod result : List UInt8) (bit : Bool) : List UInt8 :=
  let result := rsaMulMod result result mod
  if bit then rsaMulMod result b mod else result

/-- `rsa_modexp`; `none` is the `-1` return. -/
def rsaModexp (base exp mod : List UInt8) : Option (List UInt8) :=
  if mod.length = 0 ∨ mod.length > rsaMaxBytes ∨ exp.length > rsaMaxBytes then none
  else
    let b := rsaReduce base mod
    some (exp.foldl (fun r byte => (byteBits byte).reverse.foldl (rsaModexpBit b mod) r)
      (rsaOne mod.length))

/-- `rsa_modexp65537`. -/
def rsaModexp65537 (base mod : List UInt8) : Option (List UInt8) :=
  rsaModexp base [0x01, 0x00, 0x01] mod

/-! ## Buffers as residues -/

/-- The buffer `bs` holds the residue `x`, reduced and at full width. -/
structure Residue (mod : List UInt8) (x : ZMod (beNat mod)) (bs : List UInt8) : Prop where
  length_eq : bs.length = mod.length
  lt : beNat bs < beNat mod
  cast_eq : (beNat bs : ZMod (beNat mod)) = x

namespace Residue

variable {mod : List UInt8} {x y : ZMod (beNat mod)} {a b : List UInt8}

theorem of_lt (hlen : a.length = mod.length) (hlt : beNat a < beNat mod) :
    Residue mod (beNat a : ZMod (beNat mod)) a := ⟨hlen, hlt, rfl⟩

theorem beNat_eq {k : Nat} (h : Residue mod (k : ZMod (beNat mod)) a) :
    beNat a = k % beNat mod := by
  have hmod := (ZMod.natCast_eq_natCast_iff' _ _ _).mp h.cast_eq
  rwa [Nat.mod_eq_of_lt h.lt] at hmod

theorem zero (hmod : 0 < beNat mod) : Residue mod 0 (List.replicate mod.length 0) where
  length_eq := List.length_replicate
  lt := by rwa [beNat_replicate_zero]
  cast_eq := by rw [beNat_replicate_zero, Nat.cast_zero]

theorem length_pos (hmod : 1 < beNat mod) : 0 < mod.length := by
  rcases Nat.eq_zero_or_pos mod.length with h0 | hpos
  · rw [List.length_eq_zero_iff.mp h0] at hmod
    simp at hmod
  · exact hpos

theorem one (hmod : 1 < beNat mod) : Residue mod 1 (rsaOne mod.length) := by
  have hpos := length_pos hmod
  have hval : beNat (rsaOne mod.length) = 1 := by
    rw [rsaOne, beNat_append, beNat_replicate_zero]
    simp
  refine ⟨?_, by rwa [hval], by rw [hval, Nat.cast_one]⟩
  simp only [rsaOne, List.length_append, List.length_replicate, List.length_cons, List.length_nil]
  omega

end Residue

/-- The sum and carry of `rsa_add_mod` as one `len + 1` byte number. -/
private theorem addCarry_ext {a b : List UInt8} (hlen : a.length = b.length) :
    (UInt8.ofNat (addCarry a b).2 :: (addCarry a b).1).length = a.length + 1 ∧
      beNat (UInt8.ofNat (addCarry a b).2 :: (addCarry a b).1) = beNat a + beNat b := by
  obtain ⟨hl, hc, hv⟩ := addCarry_spec hlen
  refine ⟨by simp [hl], ?_⟩
  rw [beNat_cons, hl, UInt8.toNat_ofNat', Nat.mod_eq_of_lt (by omega), ← hv]
  ring

/-- `rsa_add_mod` whatever the summands are: the modulus is taken away once and the first byte is
dropped. -/
theorem rsaAddMod_value {a b mod : List UInt8} (ha : a.length = mod.length)
    (hb : b.length = mod.length) :
    (rsaAddMod a b mod).length = mod.length ∧
      beNat (rsaAddMod a b mod) =
        (if beNat mod ≤ beNat a + beNat b then beNat a + beNat b - beNat mod
        else beNat a + beNat b) % 256 ^ mod.length := by
  obtain ⟨hl, hv⟩ := addCarry_ext (ha.trans hb.symm)
  rw [ha] at hl
  have hge := rsaGeExt_iff hl
  rw [hv] at hge
  unfold rsaAddMod
  by_cases hle : beNat mod ≤ beNat a + beNat b
  · obtain ⟨hsl, hsv⟩ := rsaSubExt_spec hl (by rw [hv]; exact hle)
    rw [hv] at hsv
    have htail := beNat_tail_mod (hsl.trans hl)
    rw [hsv] at htail
    simpa [hge.mpr hle, hle] using htail
  · have htail := beNat_tail_mod hl
    rw [hv] at htail
    have hnge : ¬ rsaGeExt (UInt8.ofNat (addCarry a b).2 :: (addCarry a b).1) mod = true :=
      fun h => hle (hge.mp h)
    simpa [hnge, hle] using htail

/-- `rsa_add_mod` on summands whose sum is below twice the modulus. -/
theorem rsaAddMod_spec {a b mod : List UInt8} (ha : a.length = mod.length)
    (hb : b.length = mod.length) (hsum : beNat a + beNat b < 2 * beNat mod) :
    (rsaAddMod a b mod).length = mod.length ∧
      beNat (rsaAddMod a b mod) =
        if beNat mod ≤ beNat a + beNat b then beNat a + beNat b - beNat mod
        else beNat a + beNat b := by
  obtain ⟨hlen, hval⟩ := rsaAddMod_value ha hb
  have hmod := beNat_lt mod
  refine ⟨hlen, hval.trans (Nat.mod_eq_of_lt ?_)⟩
  split <;> omega

/-! ## The loops, over any relation -/

/-- A relation between residues and buffers that holds of zero, that `rsa_add_mod` keeps and that
a first subtraction of the modulus does not break: all that the loops need. -/
structure ModularBuffers (mod : List UInt8) (M : Nat) (R : ZMod M → List UInt8 → Prop) : Prop where
  zero : R 0 (List.replicate mod.length 0)
  add : ∀ {x y a b}, R x a → R y b → R (x + y) (rsaAddMod a b mod)
  cast_eq : ∀ {x a}, R x a → (beNat a : ZMod M) = x
  reduced : ∀ {x a}, R x a → R x (if rsaGeBytes a mod then rsaSubInplace a mod else a)

namespace ModularBuffers

variable {mod : List UInt8} {M : Nat} {R : ZMod M → List UInt8 → Prop} {x y : ZMod M} {a b : List UInt8}

/-- `rsa_mul_mod` multiplies. -/
theorem mul (h : ModularBuffers mod M R) (ha : R x a) (hb : R y b) : R (x * y) (rsaMulMod a b mod) := by
  have hloop := List.foldl_rel (l := bytesBitsLsb b.reverse) (f := rsaMulModBit mod)
    (g := fun (s : ZMod M × ZMod M) bit => (if bit then s.1 + s.2 else s.1, s.2 + s.2))
    (r := fun s t => R t.1 s.1 ∧ R t.2 s.2)
    (a := (List.replicate mod.length 0, if rsaGeBytes a mod then rsaSubInplace a mod else a)) (b := (0, x))
    ⟨h.zero, h.reduced ha⟩
    (fun bit _ s t hst => by
      refine ⟨?_, h.add hst.2 hst.2⟩
      cases bit
      · exact hst.1
      · exact h.add hst.1 hst.2)
  rw [foldl_shift_add, leBits_bytesBitsLsb] at hloop
  have hy : leNat b.reverse • x = x * y := by
    rw [nsmul_eq_mul, mul_comm, ← h.cast_eq hb]
    rfl
  rw [zero_add, hy] at hloop
  rw [bytesBitsLsb, List.foldl_flatMap] at hloop
  exact hloop.1

/-- `rsa_reduce` reduces a buffer of any length. -/
theorem reduce (h : ModularBuffers mod M R) (hone : R 1 (rsaOne mod.length)) (input : List UInt8) :
    R (beNat input : ZMod M) (rsaReduce input mod) := by
  have hloop := List.foldl_rel (l := bytesBitsMsb input) (f := rsaReduceBit mod)
    (g := fun (r : ZMod M) bit => if bit then r + r + 1 else r + r)
    (r := fun out r => R r out)
    (a := List.replicate mod.length 0) (b := 0 • 1)
    (by rw [zero_nsmul]; exact h.zero)
    (fun bit _ out r hr => by
      cases bit
      · exact h.add hr hr
      · exact h.add (h.add hr hr) hone)
  rw [foldl_double_add, beBits_bytesBitsMsb, Nat.zero_mul, Nat.zero_add, nsmul_one] at hloop
  rwa [bytesBitsMsb, List.foldl_flatMap] at hloop

/-- `rsa_modexp` raises a buffer of any length to the power its exponent bytes denote. -/
theorem modexp (h : ModularBuffers mod M R) (hone : R 1 (rsaOne mod.length)) (hpos : 0 < mod.length)
    (hlen : mod.length ≤ rsaMaxBytes) (base : List UInt8) {exp : List UInt8} (hexp : exp.length ≤ rsaMaxBytes) :
    ∃ out, rsaModexp base exp mod = some out ∧ R ((beNat base : ZMod M) ^ beNat exp) out := by
  have hb := h.reduce hone base
  have hloop := List.foldl_rel (l := bytesBitsMsb exp)
    (f := rsaModexpBit (rsaReduce base mod) mod)
    (g := fun (r : ZMod M) bit => if bit then r * r * (beNat base : ZMod M) else r * r)
    (r := fun out r => R r out)
    (a := rsaOne mod.length) (b := (beNat base : ZMod M) ^ 0)
    (by rw [pow_zero]; exact hone)
    (fun bit _ out r hr => by
      cases bit
      · exact h.mul hr hr
      · exact h.mul (h.mul hr hr) hb)
  rw [foldl_square_multiply, beBits_bytesBitsMsb, Nat.zero_mul, Nat.zero_add, bytesBitsMsb,
    List.foldl_flatMap] at hloop
  refine ⟨_, ?_, hloop⟩
  rw [rsaModexp, if_neg (by omega)]

end ModularBuffers

/-! ## The loops on residues -/

section Loops

variable {mod : List UInt8} {x y : ZMod (beNat mod)} {a b : List UInt8}

theorem Residue.add (ha : Residue mod x a) (hb : Residue mod y b) :
    Residue mod (x + y) (rsaAddMod a b mod) := by
  have hla := ha.lt
  have hlb := hb.lt
  obtain ⟨hlen, hval⟩ := rsaAddMod_spec ha.length_eq hb.length_eq (by omega)
  refine ⟨hlen, by rw [hval]; split <;> omega, ?_⟩
  rw [hval, ← ha.cast_eq, ← hb.cast_eq]
  split
  · next hle => rw [Nat.cast_sub hle, Nat.cast_add, ZMod.natCast_self, sub_zero]
  · rw [Nat.cast_add]

theorem residueBuffers (hmod : 0 < beNat mod) : ModularBuffers mod (beNat mod) (Residue mod) where
  zero := Residue.zero hmod
  add := Residue.add
  cast_eq := Residue.cast_eq
  reduced := fun {_ a} ha => by
    have hnge : ¬ rsaGeBytes a mod = true := by
      rw [rsaGeBytes_iff ha.length_eq]
      exact Nat.not_le.mpr ha.lt
    rwa [if_neg hnge]

/-- `rsa_mul_mod` multiplies residues. -/
theorem Residue.mul (ha : Residue mod x a) (hb : Residue mod y b) :
    Residue mod (x * y) (rsaMulMod a b mod) :=
  (residueBuffers (Nat.lt_of_le_of_lt (Nat.zero_le _) ha.lt)).mul ha hb

/-- `rsa_modexp` raises a buffer of any length to the power its exponent
bytes denote. -/
theorem residue_rsaModexp (hmod : 1 < beNat mod) (hlen : mod.length ≤ rsaMaxBytes)
    (base : List UInt8) {exp : List UInt8} (hexp : exp.length ≤ rsaMaxBytes) :
    ∃ out, rsaModexp base exp mod = some out ∧
      Residue mod ((beNat base : ZMod (beNat mod)) ^ beNat exp) out :=
  (residueBuffers (by omega)).modexp (Residue.one hmod) (Residue.length_pos hmod) hlen base hexp

end Loops

end Orizon
