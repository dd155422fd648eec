import Orizon.X25519.Field

/-!
# Orizon.X25519.Packing

Byte packing of field elements (`fe51_frombytes`, `fe51_tobytes`).  Reading
takes the low 255 bits of 32 little-endian bytes; writing reduces, subtracts
the prime once if the value reaches it, and stores the canonical
representative.
-/

namespace Orizon

/-! ## The functions -/

/-- `load_le64`: the bytes from the last to the first. -/
def loadLe64 (p : List UInt8) : Nat :=
  (p.take 8).reverse.foldl (fun v b => v <<< 8 % 2 ^ 64 ||| b.toNat) 0

/-- `store_le64`. -/
def storeLe64 (v : Nat) : List UInt8 := (List.range 8).map fun i => UInt8.ofNat (v >>> (8 * i))

/-- `fe51_frombytes`. -/
def fe51FromBytes (bs : List UInt8) : Fe51 where
  h0 := loadLe64 bs &&& fe51Mask
  h1 := loadLe64 (bs.drop 6) >>> 3 &&& fe51Mask
  h2 := loadLe64 (bs.drop 12) >>> 6 &&& fe51Mask
  h3 := loadLe64 (bs.drop 19) >>> 1 &&& fe51Mask
  h4 := loadLe64 (bs.drop 24) >>> 12 &&& fe51Mask

/-- The comparison loop of `fe51_ge_p` over pairs of limbs, most significant
first. -/
def limbsGe : List (Nat × Nat) → Bool
  | [] => true
  | (h, p) :: rest => if h > p then true else if h < p then false else limbsGe rest

/-- `fe51_ge_p`. -/
def fe51GeP (h : Fe51) : Bool :=
  limbsGe [(h.h4, fe51P.h4), (h.h3, fe51P.h3), (h.h2, fe51P.h2), (h.h1, fe51P.h1),
    (h.h0, fe51P.h0)]

/-- The stores at the end of `fe51_tobytes`. -/
def fe51Store (h : Fe51) : List UInt8 :=
  (storeLe64 (h.h0 ||| h.h1 <<< 51 % 2 ^ 64) ++ storeLe64 (h.h1 >>> 13 ||| h.h2 <<< 38 % 2 ^ 64) ++
    storeLe64 (h.h2 >>> 26 ||| h.h3 <<< 25 % 2 ^ 64) ++
    storeLe64 (h.h3 >>> 39 ||| h.h4 <<< 12 % 2 ^ 64)).modify 31 (· &&& 0x7f)

section Functions

variable {m : Type → Type} [Monad m] [WordOps m]

/-- The loop body of `fe51_sub_p`: a limb of the difference and the borrow. -/
def fe51SubPLimb (old p borrow : Nat) : m (Nat × Nat) := do
  let sub ← word 64 (p + borrow)
  let r ← wsub 64 old sub
  pure (r, (decide (old < sub)).toNat)

/-- `fe51_sub_p`: limb-wise subtraction of the prime. -/
def fe51SubP (h : Fe51) : m Fe51 := do
  let r0 ← fe51SubPLimb h.h0 fe51P.h0 0
  let r1 ← fe51SubPLimb h.h1 fe51P.h1 r0.2
  let r2 ← fe51SubPLimb h.h2 fe51P.h2 r1.2
  let r3 ← fe51SubPLimb h.h3 fe51P.h3 r2.2
  let r4 ← fe51SubPLimb h.h4 fe51P.h4 r3.2
  pure ⟨r0.1, r1.1, r2.1, r3.1, r4.1⟩

/-- `fe51_tobytes`. -/
def fe51ToBytes (a : Fe51) : m (List UInt8) := do
  let h ← fe51Reduce a
  let h ← (if fe51GeP h then fe51SubP h else pure h)
  pure (fe51Store h)

end Functions

/-! ## Words -/

private theorem foldl_load {bs : List UInt8} (hlen : bs.length ≤ 8) :
    bs.reverse.foldl (fun v b => v <<< 8 % 2 ^ 64 ||| b.toNat) 0 = leNat bs := by
  induction bs with
  | nil => rfl
  | cons b bs ih =>
      have hlen' : bs.length ≤ 7 := by simpa [Nat.lt_succ_iff] using hlen
      have hlt : leNat bs < 256 ^ 7 :=
        Nat.lt_of_lt_of_le (leNat_lt bs) (Nat.pow_le_pow_right (by decide) hlen')
      have hshift : leNat bs <<< 8 % 2 ^ 64 = leNat bs <<< 8 := by
        rw [Nat.shiftLeft_eq]
        exact Nat.mod_eq_of_lt (by omega)
      rw [List.reverse_cons, List.foldl_append, ih (by omega), List.foldl_cons, List.foldl_nil,
        hshift, ← Nat.shiftLeft_add_eq_or_of_lt b.toNat_lt, Nat.shiftLeft_eq, leNat_cons]
      omega

/-- `load_le64` reads eight bytes. -/
theorem loadLe64_drop (bs : List UInt8) (k : Nat) :
    loadLe64 (bs.drop k) = leNat bs / 256 ^ k % 2 ^ 64 := by
  rw [loadLe64, foldl_load (List.length_take_le 8 _), leNat_take, leNat_drop]
  norm_num

theorem storeLe64_eq (v : Nat) : storeLe64 v = leBytes 8 v := by
  simp [storeLe64, leBytes, List.range_succ, Nat.shiftRight_eq_div_pow, Nat.div_div_eq_div_mul]

/-- Or-ing in a word shifted past `a` adds the bits that stay below 64. -/
private theorem or_shiftLeft {a b i : Nat} (ha : a < 2 ^ i) (hi : i ≤ 64) :
    a ||| b <<< i % 2 ^ 64 = a + 2 ^ i * (b % 2 ^ (64 - i)) := by
  have hmod : b <<< i % 2 ^ 64 = (b % 2 ^ (64 - i)) <<< i := by
    rw [Nat.shiftLeft_eq, Nat.shiftLeft_eq, ← Nat.mul_mod_mul_right, ← pow_add,
      Nat.sub_add_cancel hi]
  rw [hmod, Nat.or_comm, ← Nat.shiftLeft_add_eq_or_of_lt ha, Nat.shiftLeft_eq]
  ring

theorem modify_length_append (lo : List UInt8) (hi : UInt8) (f : UInt8 → UInt8) :
    (lo ++ [hi]).modify lo.length f = lo ++ [f hi] := by
  induction lo with
  | nil => rfl
  | cons b lo ih => simp [ih]

theorem leNat_modify_31 {bs : List UInt8} (hlen : bs.length = 32) :
    leNat (bs.modify 31 (· &&& 0x7f)) = leNat bs % 2 ^ 255 := by
  obtain ⟨lo, hi, rfl, hlo⟩ : ∃ lo hi, bs = lo ++ [hi] ∧ lo.length = 31 := by
    have hne : bs ≠ [] := by rintro rfl; simp at hlen
    exact ⟨bs.dropLast, bs.getLast hne, (List.dropLast_append_getLast hne).symm, by simp [hlen]⟩
  have hmod : (lo ++ [hi]).modify 31 (· &&& 0x7f) = lo ++ [hi &&& 0x7f] := by
    rw [← hlo]
    exact modify_length_append lo hi _
  have hand : (hi &&& 0x7f).toNat = hi.toNat % 2 ^ 7 := by
    rw [UInt8.toNat_and]
    exact Nat.and_two_pow_sub_one_eq_mod hi.toNat 7
  have hlt := leNat_lt lo
  have hhi := hi.toNat_lt
  rw [hmod, leNat_append, leNat_append, hlo]
  rw [hlo] at hlt
  simp only [leNat_cons, leNat_nil, hand, Nat.mul_zero, Nat.add_zero]
  omega

/-! ## Reading -/

/-- `fe51_frombytes` splits the low 255 bits into limbs. -/
theorem fe51FromBytes_spec (bs : List UInt8) :
    (fe51FromBytes bs).Below 51 ∧ (fe51FromBytes bs).value = leNat bs % 2 ^ 255 := by
  have h0 : loadLe64 bs = leNat bs % 2 ^ 64 := by simpa using loadLe64_drop bs 0
  constructor
  · constructor <;> simp only [fe51FromBytes, and_fe51Mask] <;> exact Nat.mod_lt _ (by decide)
  · simp only [Fe51.value, fe51FromBytes, and_fe51Mask, h0, loadLe64_drop,
      Nat.shiftRight_eq_div_pow]
    omega

/-! ## Writing -/

theorem Fe51.Below.value_lt {h : Fe51} (hb : h.Below 51) : h.value < 2 ^ 255 := by
  obtain ⟨b0, b1, b2, b3, b4⟩ := hb
  simp only [Fe51.value]
  omega

theorem length_fe51Store (h : Fe51) : (fe51Store h).length = 32 := by
  simp [fe51Store, storeLe64]

theorem leNat_fe51Store {h : Fe51} (hb : h.Below 51) : leNat (fe51Store h) = h.value := by
  have hlt := hb.value_lt
  obtain ⟨b0, b1, b2, b3, b4⟩ := hb
  rw [fe51Store, leNat_modify_31 (by simp [storeLe64])]
  simp only [storeLe64_eq, leNat_append, length_leBytes, List.length_append,
    Nat.shiftRight_eq_div_pow]
  rw [or_shiftLeft b0 (by decide), or_shiftLeft (i := 38) (by omega) (by decide),
    or_shiftLeft (i := 25) (by omega) (by decide), or_shiftLeft (i := 12) (by omega) (by decide)]
  rw [leNat_leBytes (by omega), leNat_leBytes (by omega), leNat_leBytes (by omega),
    leNat_leBytes (by omega)]
  simp only [Fe51.value] at hlt ⊢
  omega

private theorem limbsGe_cons (h p : Nat) (rest : List (Nat × Nat)) :
    limbsGe ((h, p) :: rest) = true ↔ p < h ∨ h = p ∧ limbsGe rest = true := by
  rw [limbsGe]
  split
  · simp_all
  · split
    · simp; omega
    · next hgt hlt =>
        have heq : h = p := by omega
        simp [heq]

private theorem mul_add_le_iff {h p m rh rp : Nat} (hrh : rh < m) (hrp : rp < m) :
    p * m + rp ≤ h * m + rh ↔ p < h ∨ h = p ∧ rp ≤ rh := by
  rcases Nat.lt_trichotomy p h with hlt | rfl | hgt
  · have hmul : (p + 1) * m ≤ h * m := Nat.mul_le_mul_right m hlt
    rw [Nat.add_mul] at hmul
    omega
  · omega
  · have hmul : (h + 1) * m ≤ p * m := Nat.mul_le_mul_right m hgt
    rw [Nat.add_mul] at hmul
    omega

theorem fe51GeP_iff {h : Fe51} (hb : h.Below 51) : fe51GeP h = true ↔ p25519 ≤ h.value := by
  obtain ⟨b0, b1, b2, b3, b4⟩ := hb
  have hp : p25519 = (2 ^ 51 - 1) * 2 ^ 204 + ((2 ^ 51 - 1) * 2 ^ 153 + ((2 ^ 51 - 1) * 2 ^ 102 +
      ((2 ^ 51 - 1) * 2 ^ 51 + (2 ^ 51 - 19)))) := by decide
  have hv : h.value = h.h4 * 2 ^ 204 + (h.h3 * 2 ^ 153 + (h.h2 * 2 ^ 102 +
      (h.h1 * 2 ^ 51 + h.h0))) := by
    simp only [Fe51.value]
    omega
  rw [hp, hv, mul_add_le_iff (by omega) (by decide), mul_add_le_iff (by omega) (by decide),
    mul_add_le_iff (by omega) (by decide), mul_add_le_iff (by omega) (by decide)]
  rw [fe51GeP, limbsGe_cons, limbsGe_cons, limbsGe_cons, limbsGe_cons, limbsGe_cons]
  simp only [limbsGe, fe51P, fe51Mask, and_true]
  have hlow : (2 ^ 51 - 1 - 18 < h.h0 ∨ h.h0 = 2 ^ 51 - 1 - 18) ↔ 2 ^ 51 - 19 ≤ h.h0 := by
    omega
  rw [hlow]

section Specs

variable {m : Type → Type} [Monad m] [LawfulMonad m] [WordOps m] [LawfulWordOps m]

private theorem fe51SubPLimb_eq {old p borrow : Nat} (hle : p + borrow ≤ old)
    (hlt : old < 2 ^ 64) :
    fe51SubPLimb old p borrow = (pure (old - (p + borrow), 0) : m (Nat × Nat)) := by
  have hnlt : decide (old < p + borrow) = false := by simpa using hle
  rw [fe51SubPLimb, word_of_lt (by omega), pure_bind, wsub_of_le hle hlt, pure_bind, hnlt]
  rfl

/-- A reduced value that reaches the prime exceeds it by at most 18, so the
subtraction never borrows. -/
theorem fe51SubP_spec {h : Fe51} (hb : h.Below 51) (hge : p25519 ≤ h.value) :
    ∃ r, fe51SubP h = (pure r : m Fe51) ∧ r.Below 51 ∧ r.value + p25519 = h.value := by
  obtain ⟨b0, b1, b2, b3, b4⟩ := hb
  obtain ⟨h0, h1, h2, h3, h4⟩ := h
  simp only [Fe51.value, p25519] at b0 b1 b2 b3 b4 hge
  obtain rfl : h4 = 2 ^ 51 - 1 := by omega
  obtain rfl : h3 = 2 ^ 51 - 1 := by omega
  obtain rfl : h2 = 2 ^ 51 - 1 := by omega
  obtain rfl : h1 = 2 ^ 51 - 1 := by omega
  have hge0 : 2 ^ 51 - 19 ≤ h0 := by omega
  refine ⟨⟨h0 - (2 ^ 51 - 19), 0, 0, 0, 0⟩, ?_, ?_, ?_⟩
  · simp only [fe51SubP, fe51P, fe51Mask]
    rw [fe51SubPLimb_eq (show 2 ^ 51 - 1 - 18 + 0 ≤ h0 from hge0) (by omega), pure_bind]
    rw [fe51SubPLimb_eq (Nat.le_refl (2 ^ 51 - 1)) (by omega), pure_bind]
    rw [fe51SubPLimb_eq (Nat.le_refl (2 ^ 51 - 1)) (by omega), pure_bind]
    rw [fe51SubPLimb_eq (Nat.le_refl (2 ^ 51 - 1)) (by omega), pure_bind]
    rw [fe51SubPLimb_eq (Nat.le_refl (2 ^ 51 - 1)) (by omega), pure_bind]
    simp
  · have hlt : h0 - (2 ^ 51 - 19) < 2 ^ 51 := by omega
    exact ⟨hlt, Nat.two_pow_pos 51, Nat.two_pow_pos 51, Nat.two_pow_pos 51, Nat.two_pow_pos 51⟩
  · simp only [Fe51.value, p25519]
    omega

/-- `fe51_tobytes` writes the canonical representative. -/
theorem Represents.toBytes {a : Fe51} {x : ZMod p25519} (ha : Represents a x) :
    fe51ToBytes a = (pure (leBytes 32 x.val) : m (List UInt8)) := by
  have h63 : a.Below 63 := by
    obtain ⟨b0, b1, b2, b3, b4⟩ := ha.below
    exact ⟨by omega, by omega, by omega, by omega, by omega⟩
  obtain ⟨r, hr, hbelow, hval⟩ := fe51Reduce_spec (m := m) h63
  have hcanon : ∃ s, (if fe51GeP r then fe51SubP r else pure r) = (pure s : m Fe51) ∧
      s.Below 51 ∧ s.value < p25519 ∧ (s.value : ZMod p25519) = x := by
    have hlt := hbelow.value_lt
    by_cases hge : fe51GeP r = true
    · obtain ⟨s, hs, hsb, hsv⟩ := fe51SubP_spec (m := m) hbelow ((fe51GeP_iff hbelow).mp hge)
      have hcast := congrArg (Nat.cast : Nat → ZMod p25519) hsv
      rw [Nat.cast_add, ZMod.natCast_self, add_zero, hval, ha.cast_eq] at hcast
      exact ⟨s, by rw [if_pos hge, hs], hsb, by have hp : p25519 = 2 ^ 255 - 19 := rfl; omega, hcast⟩
    · have hnge : ¬ p25519 ≤ r.value := fun h => hge ((fe51GeP_iff hbelow).mpr h)
      exact ⟨r, by rw [if_neg hge], hbelow, by omega, by rw [hval, ha.cast_eq]⟩
  obtain ⟨s, hs, hsb, hslt, hsx⟩ := hcanon
  rw [fe51ToBytes, hr, pure_bind, hs, pure_bind]
  congr 1
  refine leNat_inj (by rw [length_fe51Store, length_leBytes]) ?_
  have hxval : x.val = s.value := by rw [← hsx, ZMod.val_natCast_of_lt hslt]
  rw [leNat_fe51Store hsb, hxval, leNat_leBytes]
  exact Nat.lt_trans hsb.value_lt (by decide)

end Specs

end Orizon
