import Orizon.Lib.Diff
import Orizon.Rsa.Modular
import Orizon.Sha256

/-!
# Orizon.Rsa.Verify

PKCS#1 v1.5 verification with SHA-256 (`rsa_pkcs1v15_sha256_verify`) against
RFC 8017.

The verifier raises the signature to 65537 modulo `n` and compares the
result with the encoded digest.  `rsa_reduce` brings any base below the
modulus first, so the comparison is exactly `s ^ 65537 mod n = EM`
(`rsaPkcs1v15Sha256Verify_eq_zero_iff`).  RFC 8017 asks in addition that the
signature representative be below `n`; the verifier in `netstack.c` checks
this (`rsa_ge_bytes(base, mod, mod_len)`) and this one does not.
-/

namespace Orizon

/-! ## The functions -/

/-- `sha256_digest_info_prefix`. -/
def sha256DigestInfoPrefix : List UInt8 :=
  [0x30, 0x31, 0x30, 0x0d, 0x06, 0x09, 0x60, 0x86, 0x48, 0x01,
    0x65, 0x03, 0x04, 0x02, 0x01, 0x05, 0x00, 0x04, 0x20]

/-- `rsa_encode_pkcs1_sha256`; `none` is the `-1` return. -/
def rsaEncodePkcs1Sha256 (outLen : Nat) (digest : Sha256Digest) : Option (List UInt8) :=
  let tailLen := sha256DigestInfoPrefix.length + 32
  if outLen < 3 + 8 + tailLen ∨ outLen > rsaMaxBytes then none
  else
    let psLen := outLen - 3 - tailLen
    some ([0x00, 0x01] ++ List.replicate psLen 0xff ++ [0x00] ++ sha256DigestInfoPrefix ++
      digest.toList)

/-- The comparison loop: the differences of the two buffers, or-ed together. -/
def rsaDiff (decoded expected : List UInt8) : UInt8 :=
  (List.zipWith (· ^^^ ·) decoded expected).foldl (· ||| ·) 0

/-- `rsa_pkcs1v15_sha256_verify`. -/
def rsaPkcs1v15Sha256Verify (signature : List UInt8) (digest : Sha256Digest)
    (n : List UInt8) : Int :=
  if signature.length = 0 ∨ signature.length ≠ n.length ∨ n.length > rsaMaxBytes then -1
  else
    match rsaModexp65537 signature n, rsaEncodePkcs1Sha256 n.length digest with
    | some decoded, some expected => if rsaDiff decoded expected = 0 then 0 else -1
    | _, _ => -1

/-! ## RFC 8017 -/

/-- EMSA-PKCS1-v1_5 with SHA-256 in `emLen` bytes: `00 01 ff … ff 00 T`
where `T` is the DigestInfo of the digest (RFC 8017, section 9.2). -/
def emsaPkcs1v15Sha256 (emLen : Nat) (digest : Sha256Digest) : List UInt8 :=
  let t := sha256DigestInfoPrefix ++ digest.toList
  0x00 :: 0x01 :: (List.replicate (emLen - t.length - 3) 0xff ++ 0x00 :: t)

/-- RSASSA-PKCS1-v1_5 verification with public exponent 65537 (RFC 8017,
section 8.2.2): the signature representative is in range and its power is
the representative of the encoded digest. -/
def Rfc8017Accepts (signature : List UInt8) (digest : Sha256Digest) (n : List UInt8) : Prop :=
  beNat signature < beNat n ∧
    beNat signature ^ 65537 % beNat n = beNat (emsaPkcs1v15Sha256 n.length digest)

instance (signature : List UInt8) (digest : Sha256Digest) (n : List UInt8) :
    Decidable (Rfc8017Accepts signature digest n) := inferInstanceAs (Decidable (_ ∧ _))

/-! ## The comparison -/

theorem rsaDiff_eq_zero_iff {a b : List UInt8} (hlen : a.length = b.length) :
    rsaDiff a b = 0 ↔ a = b := bytesDiff_eq_zero_iff hlen

/-! ## Encoding -/

theorem length_emsaPkcs1v15Sha256 {emLen : Nat} (h : 62 ≤ emLen) (digest : Sha256Digest) :
    (emsaPkcs1v15Sha256 emLen digest).length = emLen := by
  simp [emsaPkcs1v15Sha256, sha256DigestInfoPrefix]
  omega

theorem rsaEncodePkcs1Sha256_eq {outLen : Nat} (h : 62 ≤ outLen) (hmax : outLen ≤ rsaMaxBytes)
    (digest : Sha256Digest) :
    rsaEncodePkcs1Sha256 outLen digest = some (emsaPkcs1v15Sha256 outLen digest) := by
  have hpre : sha256DigestInfoPrefix.length = 19 := rfl
  rw [rsaEncodePkcs1Sha256, if_neg (by omega)]
  simp only [emsaPkcs1v15Sha256, List.length_append, hpre, Vector.length_toList]
  rw [show outLen - 3 - (19 + 32) = outLen - (19 + 32) - 3 by omega]
  simp

/-! ## Any modulus -/

/-- What the arithmetic of `lib/rsa.c` works modulo.  With a modulus of zero the subtraction takes
nothing away, and what the buffer does not hold is dropped. -/
def rsaModulus (n : List UInt8) : Nat := if beNat n = 0 then 256 ^ n.length else beNat n

theorem natCast_modulus (n : List UInt8) : (beNat n : ZMod (rsaModulus n)) = 0 := by
  by_cases hn : beNat n = 0
  · simp [hn]
  · rw [rsaModulus, if_neg hn, ZMod.natCast_self]

/-- Dropping what the buffer does not hold changes nothing in that ring. -/
theorem natCast_mod_width {n : List UInt8} {k : Nat} (hk : beNat n = 0 ∨ k < 256 ^ n.length) :
    ((k % 256 ^ n.length : Nat) : ZMod (rsaModulus n)) = k := by
  by_cases hn : beNat n = 0
  · rw [rsaModulus, if_pos hn, ZMod.natCast_mod]
  · rw [Nat.mod_eq_of_lt (hk.resolve_left hn)]

/-- The buffer `bs` stands for `x`, also where the modulus is 0 or 1: below the modulus, but for
the 1 that `rsa_modexp` starts from, and anything where the modulus is 0. -/
structure StandsFor (n : List UInt8) (x : ZMod (rsaModulus n)) (bs : List UInt8) : Prop where
  length_eq : bs.length = n.length
  lt : 0 < beNat n → beNat bs < max (beNat n) 2
  cast_eq : (beNat bs : ZMod (rsaModulus n)) = x

section StandsFor

variable {n a b : List UInt8} {x y : ZMod (rsaModulus n)}

theorem standsFor_one (hpos : 0 < n.length) : StandsFor n 1 (rsaOne n.length) := by
  have hval : beNat (rsaOne n.length) = 1 := by
    rw [rsaOne, beNat_append, beNat_replicate_zero]
    simp
  refine ⟨?_, fun _ => by rw [hval]; omega, by rw [hval, Nat.cast_one]⟩
  simp only [rsaOne, List.length_append, List.length_replicate, List.length_cons, List.length_nil]
  omega

theorem StandsFor.add (hpos : 0 < n.length) (ha : StandsFor n x a) (hb : StandsFor n y b) :
    StandsFor n (x + y) (rsaAddMod a b n) := by
  obtain ⟨hlen, hval⟩ := rsaAddMod_value ha.length_eq hb.length_eq
  have hwidth : 256 ≤ 256 ^ n.length := Nat.le_self_pow hpos.ne' 256
  have hn := beNat_lt n
  have hla := ha.lt
  have hlb := hb.lt
  refine ⟨hlen, fun hmod => ?_, ?_⟩
  · rw [hval]
    refine lt_of_le_of_lt (Nat.mod_le _ _) ?_
    split <;> omega
  · rw [hval, natCast_mod_width]
    · split
      · next hle => rw [Nat.cast_sub hle, natCast_modulus, sub_zero, Nat.cast_add, ha.cast_eq, hb.cast_eq]
      · rw [Nat.cast_add, ha.cast_eq, hb.cast_eq]
    · by_cases hmod : beNat n = 0
      · exact .inl hmod
      · right
        split <;> omega

/-- `lib/rsa.c` computes modulo `rsaModulus`, whatever the modulus is. -/
theorem standsForBuffers (hpos : 0 < n.length) : ModularBuffers n (rsaModulus n) (StandsFor n) where
  zero := ⟨List.length_replicate, fun _ => by rw [beNat_replicate_zero]; omega, by
    rw [beNat_replicate_zero, Nat.cast_zero]⟩
  add := StandsFor.add hpos
  cast_eq := StandsFor.cast_eq
  reduced := fun {_ a} ha => by
    by_cases hge : rsaGeBytes a n = true
    · have hle := (rsaGeBytes_iff ha.length_eq).mp hge
      have hval := beNat_rsaSubInplace ha.length_eq hle
      rw [if_pos hge]
      refine ⟨(length_rsaSubInplace ha.length_eq).trans ha.length_eq, fun hmod => ?_, ?_⟩
      · have hlt := ha.lt hmod
        omega
      · rw [hval, Nat.cast_sub hle, natCast_modulus, sub_zero, ha.cast_eq]
    · rwa [if_neg hge]

/-- The value of a buffer that stands for a number, with any modulus but 1. -/
theorem StandsFor.beNat_eq {k : Nat} (h : StandsFor n (k : ZMod (rsaModulus n)) a) (hn : beNat n ≠ 1) :
    beNat a = k % rsaModulus n := by
  have hmod := (ZMod.natCast_eq_natCast_iff' _ _ _).mp h.cast_eq
  rw [← hmod, Nat.mod_eq_of_lt]
  have hlt := beNat_lt a
  rw [h.length_eq] at hlt
  have hle := h.lt
  rw [rsaModulus]
  split <;> omega

end StandsFor

/-! ## Verification -/

section Verification

variable {signature n : List UInt8} (digest : Sha256Digest)

theorem one_lt_beNat_emsaPkcs1v15Sha256 {emLen : Nat} (h : 62 ≤ emLen) :
    1 < beNat (emsaPkcs1v15Sha256 emLen digest) := by
  have hlen := length_emsaPkcs1v15Sha256 h digest
  rw [emsaPkcs1v15Sha256] at hlen ⊢
  generalize List.replicate (emLen - (sha256DigestInfoPrefix ++ digest.toList).length - 3) (0xff : UInt8) ++
    0x00 :: (sha256DigestInfoPrefix ++ digest.toList) = tail at hlen ⊢
  simp only [List.length_cons] at hlen
  have hpow : 256 ≤ 256 ^ tail.length := Nat.le_self_pow (by omega) 256
  rw [beNat_cons, beNat_cons, UInt8.toNat_zero, UInt8.toNat_one]
  omega

/-- What the verifier computes, for every modulus: it accepts exactly the signatures of the
modulus's length whose power is the encoded digest, whatever their size. -/
theorem rsaPkcs1v15Sha256Verify_iff (hmin : 62 ≤ n.length) (hmax : n.length ≤ rsaMaxBytes) :
    rsaPkcs1v15Sha256Verify signature digest n = 0 ↔
      signature.length = n.length ∧
        beNat signature ^ 65537 % rsaModulus n = beNat (emsaPkcs1v15Sha256 n.length digest) := by
  have hpos : 0 < n.length := by omega
  by_cases hlen : signature.length = n.length
  · have hexplen : [(0x01 : UInt8), 0x00, 0x01].length ≤ rsaMaxBytes := by decide
    obtain ⟨decoded, hdec, hres⟩ :=
      (standsForBuffers hpos).modexp (standsFor_one hpos) hpos hmax signature hexplen
    have hexp : beNat [0x01, 0x00, 0x01] = 65537 := by decide
    rw [hexp, ← Nat.cast_pow] at hres
    have hem := length_emsaPkcs1v15Sha256 hmin digest
    have hdlen : decoded.length = (emsaPkcs1v15Sha256 n.length digest).length :=
      hres.length_eq.trans hem.symm
    have hverify : rsaPkcs1v15Sha256Verify signature digest n =
        if rsaDiff decoded (emsaPkcs1v15Sha256 n.length digest) = 0 then 0 else -1 := by
      rw [rsaPkcs1v15Sha256Verify, if_neg (by omega), rsaModexp65537, hdec,
        rsaEncodePkcs1Sha256_eq hmin hmax]
    have hvalue : beNat decoded = beNat (emsaPkcs1v15Sha256 n.length digest) ↔
        beNat signature ^ 65537 % rsaModulus n = beNat (emsaPkcs1v15Sha256 n.length digest) := by
      by_cases hn : beNat n = 1
      · -- modulo 1 there is nothing to compare, and the buffer holds at most 1
        have hlarge := one_lt_beNat_emsaPkcs1v15Sha256 digest hmin
        have hsmall := hres.lt (by omega)
        rw [rsaModulus, if_neg (by omega), hn, Nat.mod_one]
        omega
      · rw [hres.beNat_eq hn]
    rw [hverify, ← hvalue]
    constructor
    · intro h
      split at h
      · next hdiff => exact ⟨hlen, congrArg beNat ((rsaDiff_eq_zero_iff hdlen).mp hdiff)⟩
      · contradiction
    · rintro ⟨-, h⟩
      rw [if_pos ((rsaDiff_eq_zero_iff hdlen).mpr (beNat_inj hdlen h))]
  · rw [rsaPkcs1v15Sha256Verify, if_pos (by omega)]
    simp [hlen]

/-- With a modulus above 1 these are the powers modulo `n`. -/
theorem rsaPkcs1v15Sha256Verify_eq_zero_iff (hmin : 62 ≤ n.length)
    (hmax : n.length ≤ rsaMaxBytes) (hn : 1 < beNat n) (hlen : signature.length = n.length) :
    rsaPkcs1v15Sha256Verify signature digest n = 0 ↔
      beNat signature ^ 65537 % beNat n = beNat (emsaPkcs1v15Sha256 n.length digest) := by
  rw [rsaPkcs1v15Sha256Verify_iff digest hmin hmax, rsaModulus, if_neg (by omega)]
  simp [hlen]

/-- The verifier agrees with RFC 8017 on a signature exactly when the
signature is in range or its power is not the encoded digest: what it
wrongly accepts are the representatives `s ≥ n` of valid signatures. -/
theorem rsaPkcs1v15Sha256Verify_agrees_iff (hmin : 62 ≤ n.length) (hmax : n.length ≤ 256)
    (hn : 1 < beNat n) (hlen : signature.length = n.length) :
    (rsaPkcs1v15Sha256Verify signature digest n = 0 ↔ Rfc8017Accepts signature digest n) ↔
      (beNat signature < beNat n ∨
        beNat signature ^ 65537 % beNat n ≠ beNat (emsaPkcs1v15Sha256 n.length digest)) := by
  rw [rsaPkcs1v15Sha256Verify_eq_zero_iff digest hmin hmax hn hlen, Rfc8017Accepts]
  tauto

end Verification

/-! ## A signature out of range -/

/-- A 490-bit modulus in 62 bytes, the product of two 245-bit primes. -/
def sampleModulus : Nat :=
  0x2d9ecc881f7414853e9db4cb68f58d62e2697f3b600dd7b1a22e0c2f6bbc55a811f9718d2b3c7ebe56fffc8a18bc21a68103278c8303ff73fab2c87b6ed

/-- A valid signature of the all-zero digest under `sampleModulus`, plus the
modulus. -/
def sampleSignature : Nat :=
  0x59f64c4452c1601f8868d1125c0d5a190c12bd6e352996689bf37ce17d856b35e5217c7dd498abd874d837bb221b3a5c388894849849cab72b37b5ca357

/-- `x ^ (2 ^ k) mod n` by `k` squarings. -/
private def squareMod (n : Nat) : Nat → Nat → Nat
  | 0, x => x % n
  | k + 1, x => squareMod n k (x * x % n)

private theorem squareMod_eq (n k x : Nat) : squareMod n k x = x ^ 2 ^ k % n := by
  induction k generalizing x with
  | zero => simp [squareMod]
  | succ k ih =>
      rw [squareMod, ih, ← Nat.pow_mod, ← Nat.pow_two, ← Nat.pow_mul, ← Nat.pow_succ']

theorem sampleSignature_pow :
    sampleSignature ^ 65537 % sampleModulus =
      beNat (emsaPkcs1v15Sha256 62 (Vector.replicate 32 0)) := by
  rw [show 65537 = 2 ^ 16 + 1 by rfl, Nat.pow_succ, Nat.mul_mod, ← squareMod_eq]
  decide

/-- The verifier accepts a signature that RFC 8017 rejects: it equals a
valid one plus the modulus. -/
theorem rsaPkcs1v15Sha256Verify_accepts_out_of_range :
    rsaPkcs1v15Sha256Verify (beBytes 62 sampleSignature) (Vector.replicate 32 0)
        (beBytes 62 sampleModulus) = 0 ∧
      ¬ Rfc8017Accepts (beBytes 62 sampleSignature) (Vector.replicate 32 0)
        (beBytes 62 sampleModulus) := by
  have hn : beNat (beBytes 62 sampleModulus) = sampleModulus := beNat_beBytes (by decide)
  have hs : beNat (beBytes 62 sampleSignature) = sampleSignature := beNat_beBytes (by decide)
  constructor
  · rw [rsaPkcs1v15Sha256Verify_eq_zero_iff _ (by simp) (by simp [rsaMaxBytes])
      (by rw [hn]; decide) (by simp), hn, hs, length_beBytes]
    exact sampleSignature_pow
  · rintro ⟨hlt, -⟩
    rw [hn, hs] at hlt
    exact absurd hlt (by decide)

/-- Below the modulus the verifier and RFC 8017 agree: here on the all-zero
signature. -/
theorem rsaPkcs1v15Sha256Verify_agrees_zero :
    (rsaPkcs1v15Sha256Verify (List.replicate 62 0) (Vector.replicate 32 0)
        (beBytes 62 sampleModulus) = 0 ↔
      Rfc8017Accepts (List.replicate 62 0) (Vector.replicate 32 0) (beBytes 62 sampleModulus)) := by
  have hn : beNat (beBytes 62 sampleModulus) = sampleModulus := beNat_beBytes (by decide)
  refine (rsaPkcs1v15Sha256Verify_agrees_iff (Vector.replicate 32 0) (by simp) (by simp)
    (by rw [hn]; decide) (by simp)).mpr (Or.inl ?_)
  rw [hn, beNat_replicate_zero]
  decide

end Orizon
