import Orizon.X25519.Packing

/-!
# Orizon.X25519.Ladder

`x25519_shared_secret` computes the X25519 function of RFC 7748.

The abstract side is the RFC's pseudocode over an arbitrary commutative ring
(`rfcLadderStep`) with the RFC's decodings and encoding around it
(`rfc7748X25519`).  The code's state after every ladder step represents the
abstract state (`LadderRel`), so the loop and the final inversion are carried
over step by step.
-/

namespace Orizon

/-! ## The functions -/

/-- `x25519_clamp_private`. -/
def x25519ClampPrivate (scalar : List UInt8) : List UInt8 :=
  ((scalar.modify 0 (· &&& 248)).modify 31 (· &&& 127)).modify 31 (· ||| 64)

/-- `fe51_cswap` on one limb. -/
def cswapLimb (mask a b : Nat) : Nat × Nat :=
  let t := mask &&& (a ^^^ b)
  (a ^^^ t, b ^^^ t)

/-- `fe51_cswap`; the mask `0 - swap` wraps on purpose. -/
def fe51Cswap (a b : Fe51) (swap : Nat) : Fe51 × Fe51 :=
  let mask := (2 ^ 64 - swap) % 2 ^ 64
  let l0 := cswapLimb mask a.h0 b.h0
  let l1 := cswapLimb mask a.h1 b.h1
  let l2 := cswapLimb mask a.h2 b.h2
  let l3 := cswapLimb mask a.h3 b.h3
  let l4 := cswapLimb mask a.h4 b.h4
  (⟨l0.1, l1.1, l2.1, l3.1, l4.1⟩, ⟨l0.2, l1.2, l2.2, l3.2, l4.2⟩)

/-- The variables the ladder loop carries. -/
structure X25519State where
  x2 : Fe51
  z2 : Fe51
  x3 : Fe51
  z3 : Fe51
  swap : Nat

section Functions

variable {m : Type → Type} [Monad m] [WordOps m]

/-- The loop body of `x25519_shared_secret` at bit `t`. -/
def x25519Step (scalar : List UInt8) (x1 : Fe51) (s : X25519State) (t : Nat) :
    m X25519State := do
  let kt := ((scalar.getD (t >>> 3) 0).toNat >>> (t &&& 7)) &&& 1
  let swap := s.swap ^^^ kt
  let (x2, x3) := fe51Cswap s.x2 s.x3 swap
  let (z2, z3) := fe51Cswap s.z2 s.z3 swap
  let a ← fe51Add x2 z2
  let aa ← fe51Sq a
  let b ← fe51Sub x2 z2
  let bb ← fe51Sq b
  let e ← fe51Sub aa bb
  let c ← fe51Add x3 z3
  let d ← fe51Sub x3 z3
  let da ← fe51Mul d a
  let cb ← fe51Mul c b
  let tmp0 ← fe51Add da cb
  let x3 ← fe51Sq tmp0
  let tmp0 ← fe51Sub da cb
  let tmp1 ← fe51Sq tmp0
  let z3 ← fe51Mul tmp1 x1
  let x2 ← fe51Mul aa bb
  let tmp0 ← fe51Mul e ⟨121665, 0, 0, 0, 0⟩
  let tmp0 ← fe51Add aa tmp0
  let z2 ← fe51Mul e tmp0
  pure ⟨x2, z2, x3, z3, kt⟩

/-- `x25519_shared_secret`. -/
def x25519SharedSecret (scalarIn pointIn : Vector UInt8 32) : m (List UInt8) := do
  let scalar := x25519ClampPrivate scalarIn.toList
  let point := pointIn.toList.modify 31 (· &&& 0x7f)
  let x1 := fe51FromBytes point
  let s ← (List.range 255).reverse.foldlM (x25519Step scalar x1)
    ⟨fe51One, fe51Zero, x1, fe51One, 0⟩
  let (x2, _) := fe51Cswap s.x2 s.x3 s.swap
  let (z2, _) := fe51Cswap s.z2 s.z3 s.swap
  let z2 ← fe51Inv z2
  let x2 ← fe51Mul x2 z2
  fe51ToBytes x2

/-- `x25519_public_from_private`. -/
def x25519PublicFromPrivate (scalar : Vector UInt8 32) : m (List UInt8) :=
  x25519SharedSecret scalar ⟨(9 :: List.replicate 31 0).toArray, by simp⟩

end Functions

/-! ## RFC 7748 -/

/-- The variables of the RFC's ladder. -/
structure RfcState (F : Type*) where
  x2 : F
  z2 : F
  x3 : F
  z3 : F
  swap : Bool

/-- `cswap(swap, a, b)` (RFC 7748, section 5). -/
def rfcCswap {F : Type*} (swap : Bool) (a b : F) : F × F := if swap then (b, a) else (a, b)

/-- One iteration of the RFC's ladder with key bit `kt`; `a24` is 121665. -/
def rfcLadderStep {F : Type*} [CommRing F] (x1 : F) (s : RfcState F) (kt : Bool) : RfcState F :=
  let swap := s.swap ^^ kt
  let (x2, x3) := rfcCswap swap s.x2 s.x3
  let (z2, z3) := rfcCswap swap s.z2 s.z3
  let A := x2 + z2
  let AA := A ^ 2
  let B := x2 - z2
  let BB := B ^ 2
  let E := AA - BB
  let C := x3 + z3
  let D := x3 - z3
  let DA := D * A
  let CB := C * B
  { x3 := (DA + CB) ^ 2
    z3 := x1 * (DA - CB) ^ 2
    x2 := AA * BB
    z2 := E * (AA + 121665 * E)
    swap := kt }

/-- `decodeScalar25519`: clear bits 0, 1, 2 and 255, set bit 254. -/
def rfcDecodeScalar (k : List UInt8) : Nat := 2 ^ 254 + 8 * (leNat k / 8 % 2 ^ 251)

/-- `decodeUCoordinate`: the low 255 bits. -/
def rfcDecodeUCoordinate (u : List UInt8) : Nat := leNat u % 2 ^ 255

/-- The ladder over the bits 254 to 0 of `k`. -/
def rfcLadder {F : Type*} [CommRing F] (k : Nat) (u : F) : RfcState F :=
  (List.range 255).reverse.foldl (fun s t => rfcLadderStep u s (k.testBit t)) ⟨1, 0, u, 1, false⟩

/-- The X25519 function: the ladder, `x_2 * z_2 ^ (p - 2)`, and the canonical
little-endian encoding. -/
def rfc7748X25519 (k u : List UInt8) : List UInt8 :=
  let s := rfcLadder (rfcDecodeScalar k) (rfcDecodeUCoordinate u : ZMod p25519)
  let x2 := (rfcCswap s.swap s.x2 s.x3).1
  let z2 := (rfcCswap s.swap s.z2 s.z3).1
  leBytes 32 (x2 * z2 ^ (p25519 - 2)).val

/-! ## Clamping -/

private theorem toNat_and_248 (b : UInt8) : (b &&& 248).toNat = 8 * (b.toNat / 8) := by
  have hand : ∀ n < 256, n &&& 248 = 8 * (n / 8) := by decide +kernel
  rw [UInt8.toNat_and]
  exact hand b.toNat b.toNat_lt

private theorem toNat_clampLast (b : UInt8) : (b &&& 127 ||| 64).toNat = 64 + b.toNat % 64 := by
  have hor : ∀ n < 256, n &&& 127 ||| 64 = 64 + n % 64 := by decide +kernel
  rw [UInt8.toNat_or, UInt8.toNat_and]
  exact hor b.toNat b.toNat_lt

theorem leNat_x25519ClampPrivate {k : List UInt8} (hlen : k.length = 32) :
    leNat (x25519ClampPrivate k) = rfcDecodeScalar k := by
  obtain ⟨b0, tail, rfl⟩ : ∃ b0 tail, k = b0 :: tail := by
    cases k with
    | nil => simp at hlen
    | cons b0 tail => exact ⟨b0, tail, rfl⟩
  have hne : tail ≠ [] := by rintro rfl; simp at hlen
  obtain ⟨mid, b31, rfl⟩ : ∃ mid b31, tail = mid ++ [b31] :=
    ⟨tail.dropLast, tail.getLast hne, (List.dropLast_append_getLast hne).symm⟩
  have hmid : mid.length = 30 := by simpa using hlen
  have hclamp : x25519ClampPrivate (b0 :: (mid ++ [b31])) =
      (b0 &&& 248) :: (mid ++ [b31 &&& 127 ||| 64]) := by
    rw [x25519ClampPrivate]
    simp only [List.modify_zero_cons, List.modify_succ_cons, ← hmid, modify_length_append]
  have hlt := leNat_lt mid
  have h31 := b31.toNat_lt
  rw [hmid] at hlt
  rw [hclamp, rfcDecodeScalar]
  simp only [leNat_cons, leNat_append, leNat_nil, hmid, toNat_and_248, toNat_clampLast]
  have hdiv : ∀ rest, (b0.toNat + 256 * rest) / 8 = b0.toNat / 8 + 32 * rest := by
    intro rest
    omega
  rw [hdiv]
  have hmod : (b31.toNat % 64 * 256 ^ 30 + leNat mid) * 32 + b0.toNat / 8 < 2 ^ 251 := by
    have h0 := b0.toNat_lt
    omega
  omega

/-! ## Conditional swap -/

private theorem cswapLimb_eq {a b : Nat} (swap : Bool) (ha : a < 2 ^ 51) (hb : b < 2 ^ 51) :
    cswapLimb ((2 ^ 64 - swap.toNat) % 2 ^ 64) a b = rfcCswap swap a b := by
  have hxor : a ^^^ b < 2 ^ 51 := Nat.xor_lt_two_pow ha hb
  cases swap with
  | false => simp [cswapLimb, rfcCswap]
  | true =>
      have hmask : (2 ^ 64 - true.toNat) % 2 ^ 64 &&& (a ^^^ b) = a ^^^ b := by
        rw [Nat.and_comm]
        exact (Nat.and_two_pow_sub_one_eq_mod _ 64).trans (Nat.mod_eq_of_lt (by omega))
      rw [cswapLimb, hmask, ← Nat.xor_assoc, Nat.xor_self, Nat.zero_xor, Nat.xor_comm a b,
        ← Nat.xor_assoc, Nat.xor_self, Nat.zero_xor]
      rfl

/-- `fe51_cswap` swaps or keeps. -/
theorem fe51Cswap_eq {a b : Fe51} (swap : Bool) (ha : a.Below 51) (hb : b.Below 51) :
    fe51Cswap a b swap.toNat = rfcCswap swap a b := by
  simp only [fe51Cswap, cswapLimb_eq swap ha.h0 hb.h0, cswapLimb_eq swap ha.h1 hb.h1,
    cswapLimb_eq swap ha.h2 hb.h2, cswapLimb_eq swap ha.h3 hb.h3, cswapLimb_eq swap ha.h4 hb.h4]
  cases swap <;> rfl

theorem Represents.cswap {a b : Fe51} {x y : ZMod p25519} (swap : Bool) (ha : Represents a x)
    (hb : Represents b y) :
    Represents (rfcCswap swap a b).1 (rfcCswap swap x y).1 ∧
      Represents (rfcCswap swap a b).2 (rfcCswap swap x y).2 := by
  cases swap
  · exact ⟨ha, hb⟩
  · exact ⟨hb, ha⟩

/-! ## The loop -/

/-- The code's state represents the RFC's. -/
structure LadderRel (s : X25519State) (r : RfcState (ZMod p25519)) : Prop where
  x2 : Represents s.x2 r.x2
  z2 : Represents s.z2 r.z2
  x3 : Represents s.x3 r.x3
  z3 : Represents s.z3 r.z3
  swap : s.swap = r.swap.toNat

private theorem keyBit_eq (scalar : List UInt8) (t : Nat) :
    ((scalar.getD (t >>> 3) 0).toNat >>> (t &&& 7)) &&& 1 = ((leNat scalar).testBit t).toNat := by
  have hdiv : t >>> 3 = t / 8 := Nat.shiftRight_eq_div_pow t 3
  have hmod : t &&& 7 = t % 8 := Nat.and_two_pow_sub_one_eq_mod t 3
  rw [hdiv, hmod, testBit_leNat, Nat.toNat_testBit, Nat.shiftRight_eq_div_pow]
  exact Nat.and_two_pow_sub_one_eq_mod _ 1

private theorem xor_toNat (a b : Bool) : a.toNat ^^^ b.toNat = (a ^^ b).toNat := by
  cases a <;> cases b <;> rfl

private theorem represents_a24 : Represents ⟨121665, 0, 0, 0, 0⟩ 121665 := by
  refine ⟨⟨by decide, by decide, by decide, by decide, by decide⟩, ?_⟩
  simp [Fe51.value]

section Specs

variable {m : Type → Type} [Monad m] [LawfulMonad m] [WordOps m] [LawfulWordOps m]

theorem x25519Step_rel {scalar : List UInt8} {x1 : Fe51} {u : ZMod p25519}
    (hu : Represents x1 u) (t : Nat) {s : X25519State} {r : RfcState (ZMod p25519)}
    (h : LadderRel s r) :
    ∃ s', x25519Step scalar x1 s t = (pure s' : m X25519State) ∧
      LadderRel s' (rfcLadderStep u r ((leNat scalar).testBit t)) := by
  set kt := (leNat scalar).testBit t with hkt
  obtain ⟨hx2, hx3⟩ := h.x2.cswap (r.swap ^^ kt) h.x3
  obtain ⟨hz2, hz3⟩ := h.z2.cswap (r.swap ^^ kt) h.z3
  obtain ⟨a, ea, ha⟩ := hx2.add (m := m) hz2
  obtain ⟨aa, eaa, haa⟩ := ha.sq (m := m)
  obtain ⟨b, eb, hb⟩ := hx2.sub (m := m) hz2
  obtain ⟨bb, ebb, hbb⟩ := hb.sq (m := m)
  obtain ⟨e, ee, he⟩ := haa.sub (m := m) hbb
  obtain ⟨c, ec, hc⟩ := hx3.add (m := m) hz3
  obtain ⟨d, ed, hd⟩ := hx3.sub (m := m) hz3
  obtain ⟨da, eda, hda⟩ := hd.mul (m := m) ha
  obtain ⟨cb, ecb, hcb⟩ := hc.mul (m := m) hb
  obtain ⟨sum, esum, hsum⟩ := hda.add (m := m) hcb
  obtain ⟨x3, ex3, hx3'⟩ := hsum.sq (m := m)
  obtain ⟨dif, edif, hdif⟩ := hda.sub (m := m) hcb
  obtain ⟨sq, esq, hsq⟩ := hdif.sq (m := m)
  obtain ⟨z3, ez3, hz3'⟩ := hsq.mul (m := m) hu
  obtain ⟨x2, ex2, hx2'⟩ := haa.mul (m := m) hbb
  obtain ⟨ea24, eea24, hea24⟩ := he.mul (m := m) represents_a24
  obtain ⟨tot, etot, htot⟩ := haa.add (m := m) hea24
  obtain ⟨z2, ez2, hz2'⟩ := he.mul (m := m) htot
  refine ⟨⟨x2, z2, x3, z3, kt.toNat⟩, ?_, ?_, ?_, ?_, ?_, rfl⟩
  · simp only [x25519Step, keyBit_eq, ← hkt, h.swap, xor_toNat,
      fe51Cswap_eq _ h.x2.below h.x3.below, fe51Cswap_eq _ h.z2.below h.z3.below]
    rw [ea, pure_bind, eaa, pure_bind, eb, pure_bind, ebb, pure_bind, ee, pure_bind, ec,
      pure_bind, ed, pure_bind, eda, pure_bind, ecb, pure_bind, esum, pure_bind, ex3, pure_bind,
      edif, pure_bind, esq, pure_bind, ez3, pure_bind, ex2, pure_bind, eea24, pure_bind, etot,
      pure_bind, ez2, pure_bind]
  · simpa only [rfcLadderStep, pow_two] using hx2'
  · simpa only [rfcLadderStep, pow_two, mul_comm (121665 : ZMod p25519)] using hz2'
  · simpa only [rfcLadderStep, pow_two] using hx3'
  · simpa only [rfcLadderStep, pow_two, mul_comm u] using hz3'

/-- In any arithmetic that is exact on in-range results, the code returns the
X25519 function. -/
theorem x25519SharedSecret_eq_pure (scalar point : Vector UInt8 32) :
    x25519SharedSecret scalar point =
      (pure (rfc7748X25519 scalar.toList point.toList) : m (List UInt8)) := by
  obtain ⟨hbelow, hval⟩ := fe51FromBytes_spec (point.toList.modify 31 (· &&& 0x7f))
  have hu : Represents (fe51FromBytes (point.toList.modify 31 (· &&& 0x7f)))
      (rfcDecodeUCoordinate point.toList : ZMod p25519) := by
    refine ⟨hbelow, ?_⟩
    rw [hval, leNat_modify_31 (by simp), Nat.mod_mod, rfcDecodeUCoordinate]
  obtain ⟨s, hs, hrel⟩ := foldlM_pure_rel (m := m) (r := LadderRel)
    (f := x25519Step (x25519ClampPrivate scalar.toList)
      (fe51FromBytes (point.toList.modify 31 (· &&& 0x7f))))
    (g := fun r t => rfcLadderStep (rfcDecodeUCoordinate point.toList : ZMod p25519) r
      ((rfcDecodeScalar scalar.toList).testBit t))
    (List.range 255).reverse
    (fun t _ s r h => by
      rw [← leNat_x25519ClampPrivate (by simp)]
      exact x25519Step_rel hu t h)
    (b := ⟨fe51One, fe51Zero, fe51FromBytes (point.toList.modify 31 (· &&& 0x7f)), fe51One, 0⟩)
    (c := ⟨1, 0, (rfcDecodeUCoordinate point.toList : ZMod p25519), 1, false⟩)
    ⟨represents_one, represents_zero, hu, represents_one, rfl⟩
  obtain ⟨hx2, -⟩ := hrel.x2.cswap (rfcLadder (rfcDecodeScalar scalar.toList)
    (rfcDecodeUCoordinate point.toList : ZMod p25519)).swap hrel.x3
  obtain ⟨hz2, -⟩ := hrel.z2.cswap (rfcLadder (rfcDecodeScalar scalar.toList)
    (rfcDecodeUCoordinate point.toList : ZMod p25519)).swap hrel.z3
  obtain ⟨inv, einv, hinv⟩ := hz2.inv (m := m)
  obtain ⟨x2, ex2, hx2'⟩ := hx2.mul (m := m) hinv
  rw [x25519SharedSecret, hs, pure_bind]
  simp only [hrel.swap, fe51Cswap_eq _ hrel.x2.below hrel.x3.below,
    fe51Cswap_eq _ hrel.z2.below hrel.z3.below]
  rw [show (List.foldl _ _ _ : RfcState (ZMod p25519)) = rfcLadder _ _ from rfl, einv, pure_bind,
    ex2, pure_bind, hx2'.toBytes]
  rfl

end Specs

/-- The hardware computes the X25519 function of RFC 7748, and no limb, no
carry and no 128-bit product sum of the run leaves its machine width: the run
that aborts on the first such overflow succeeds with the same bytes. -/
theorem x25519SharedSecret_rfc7748 (scalar point : Vector UInt8 32) :
    x25519SharedSecret (m := Id) scalar point = rfc7748X25519 scalar.toList point.toList ∧
      x25519SharedSecret (m := Option) scalar point =
        some (rfc7748X25519 scalar.toList point.toList) :=
  ⟨x25519SharedSecret_eq_pure scalar point, x25519SharedSecret_eq_pure scalar point⟩

end Orizon
