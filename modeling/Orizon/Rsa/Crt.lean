import Orizon.Lib.PowMod
import Orizon.Rsa.Verify
import Orizon.Rsa.Wide
import Mathlib.FieldTheory.Finite.Basic
import Mathlib.Tactic.NormNum.Prime

/-!
# Orizon.Rsa.Crt

PKCS#1 v1.5 signing with SHA-256 (`rsa_pkcs1v15_sha256_sign_crt`): with the
private exponent, or with the primes by Garner's recombination.

Both branches check their result, so each succeeds exactly when its result is
the signature.  The recombination subtracts the residue modulo `q` from the
one modulo `p`: `rsa_mod_sub` adds `p` once, so it is right down to a
difference of `-p`, which a `q` larger than `p` can exceed
(`not_crtAgrees_of_wrap`).
-/

namespace Orizon

/-! ## The functions -/

/-- `rsa_crt_private_key_t`: a `NULL` pointer is `none`. -/
structure RsaCrtPrivateKey where
  n : Option (List UInt8)
  d : Option (List UInt8)
  p : Option (List UInt8)
  q : Option (List UInt8)
  dmp1 : Option (List UInt8)
  dmq1 : Option (List UInt8)
  iqmp : Option (List UInt8)

/-- The check at the end of both branches: the signature to the power 65537 is
the encoded digest. -/
def rsaCheckSignature (signature em n : List UInt8) : Option (List UInt8) :=
  match rsaModexp65537 signature n with
  | none => none
  | some verified => if verified = em then some signature else none

/-- The branch with the private exponent. -/
def rsaSignPlain (em d n : List UInt8) : Option (List UInt8) :=
  match rsaModexp em d n with
  | none => none
  | some signature => rsaCheckSignature signature em n

/-- The branch with the primes; `rsa_mul_mod` reads `p_len` bytes of `iqmp`. -/
def rsaSignPrimes (em n p q dmp1 dmq1 iqmp : List UInt8) : Option (List UInt8) :=
  if p.length = 0 ∨ p.length > rsaMaxBytes ∨ q.length = 0 ∨ q.length > rsaMaxBytes ∨
      p.length ≠ q.length ∨ n.length ≠ p.length + q.length then none
  else
    match rsaModexp em dmp1 p, rsaModexp em dmq1 q with
    | some m1, some m2 =>
        let diff := rsaModSub m1 m2 p
        let h := rsaMulMod diff (iqmp.take p.length) p
        let qh := rsaPlainMul n.length q h
        let qh := rsaAddRightAligned qh m2
        let qh := if rsaGeBytes qh n then rsaSubInplace qh n else qh
        rsaCheckSignature qh em n
    | _, _ => none

/-- `rsa_pkcs1v15_sha256_sign_crt`; `none` is -1. -/
def rsaPkcs1v15Sha256SignCrt (signatureLen : Nat) (digest : Sha256Digest)
    (key : RsaCrtPrivateKey) : Option (List UInt8) :=
  match key.n with
  | none => none
  | some n =>
      if n.length = 0 ∨ n.length > rsaMaxBytes ∨ signatureLen ≠ n.length then none
      else
        match rsaEncodePkcs1Sha256 n.length digest with
        | none => none
        | some em =>
            match key.d.filter (fun d => decide (d.length = n.length)) with
            | some d => rsaSignPlain em d n
            | none =>
                match key.p, key.q, key.dmp1, key.dmq1, key.iqmp with
                | some p, some q, some dmp1, some dmq1, some iqmp =>
                    rsaSignPrimes em n p q dmp1 dmq1 iqmp
                | _, _, _, _, _ => none

/-! ## Exponents -/

section Exponents

variable {p k d : Nat} [Fact p.Prime] {x y : ZMod p}

/-- Exponents that are 1 modulo `p - 1` change nothing modulo `p`. -/
theorem zmod_pow_eq_self (hk : k % (p - 1) = 1) : x ^ k = x := by
  have hdecomp := Nat.div_add_mod k (p - 1)
  rw [hk] at hdecomp
  rw [← hdecomp, pow_succ, pow_mul]
  by_cases hx : x = 0
  · rw [hx, mul_zero]
  · rw [ZMod.pow_card_sub_one_eq_one hx, one_pow, one_mul]

theorem zmod_pow_injective (hd : 65537 * d % (p - 1) = 1) (h : x ^ 65537 = y ^ 65537) : x = y := by
  have hx := zmod_pow_eq_self (x := x) hd
  have hy := zmod_pow_eq_self (x := y) hd
  rw [← hx, pow_mul, h, ← pow_mul, hy]

theorem zmod_pow_pow (hd : 65537 * d % (p - 1) = 1) : (x ^ d) ^ 65537 = x := by
  rw [← pow_mul, Nat.mul_comm, zmod_pow_eq_self hd]

end Exponents

theorem prime_ne_two_of_mod {p k : Nat} (h : k % (p - 1) = 1) : p ≠ 2 := by
  rintro rfl
  omega

/-! ## Residues modulo a product of two primes -/

section Product

variable {n p q : Nat} (hn : n = p * q)

include hn

/-- A number's residue modulo `n` has its residue modulo `p`. -/
theorem natCast_mod_left (x : Nat) : ((x % n : Nat) : ZMod p) = x := by
  rw [ZMod.natCast_eq_natCast_iff', hn, Nat.mod_mul_right_mod]

/-- A number's residue modulo `n` has its residue modulo `q`. -/
theorem natCast_mod_right (x : Nat) : ((x % n : Nat) : ZMod q) = x := by
  rw [ZMod.natCast_eq_natCast_iff', hn, Nat.mod_mul_left_mod]

/-- A number is determined below `n` by its residues modulo `p` and `q`. -/
theorem eq_of_residues (hcop : Nat.Coprime p q) {x y : Nat} (hx : x < n) (hy : y < n)
    (hp : (x : ZMod p) = y) (hq : (x : ZMod q) = y) : x = y := by
  have hmodp := (ZMod.natCast_eq_natCast_iff _ _ _).mp hp
  have hmodq := (ZMod.natCast_eq_natCast_iff _ _ _).mp hq
  have hmod := (Nat.modEq_and_modEq_iff_modEq_mul hcop).mp ⟨hmodp, hmodq⟩
  rw [← hn] at hmod
  exact hmod.eq_of_lt_of_lt hx hy

end Product

/-! ## The check -/

section Check

variable {n s em : List UInt8}

/-- The check passes when the signature's power is the encoded digest. -/
theorem rsaCheckSignature_eq (hn : 1 < beNat n) (hmax : n.length ≤ rsaMaxBytes)
    (hem : em.length = n.length) : rsaCheckSignature s em n =
      if beNat s ^ 65537 % beNat n = beNat em then some s else none := by
  have hexplen : [(0x01 : UInt8), 0x00, 0x01].length ≤ rsaMaxBytes := by decide
  obtain ⟨verified, hpow, hres⟩ := residue_rsaModexp hn hmax s hexplen
  have hexp : beNat [0x01, 0x00, 0x01] = 65537 := by decide
  rw [hexp, ← Nat.cast_pow] at hres
  have hval := hres.beNat_eq
  have hiff : verified = em ↔ beNat s ^ 65537 % beNat n = beNat em := by
    rw [← hval]
    exact ⟨fun h => by rw [h], beNat_inj (hres.length_eq.trans hem.symm)⟩
  unfold rsaCheckSignature rsaModexp65537
  rw [hpow]
  simp only [hiff]

/-- The branch with the private exponent succeeds exactly on an encoded digest
below the modulus. -/
theorem rsaSignPlain_spec {d : List UInt8} {p q : Nat} (hp : p.Prime) (hq : q.Prime) (hne : p ≠ q)
    (hnpq : beNat n = p * q) (hmax : n.length ≤ rsaMaxBytes) (hem : em.length = n.length)
    (hdlen : d.length ≤ rsaMaxBytes) (hdp : 65537 * beNat d % (p - 1) = 1)
    (hdq : 65537 * beNat d % (q - 1) = 1) : ∃ signature : List UInt8,
      signature.length = n.length ∧ beNat signature = beNat em ^ beNat d % beNat n ∧
      rsaSignPlain em d n = if beNat em < beNat n then some signature else none := by
  have hn : 1 < beNat n := by
    rw [hnpq]
    exact Nat.lt_of_lt_of_le hp.one_lt (Nat.le_mul_of_pos_right _ hq.pos)
  have hpos : 0 < beNat n := lt_trans Nat.zero_lt_one hn
  obtain ⟨signature, hpow, hres⟩ := residue_rsaModexp hn hmax em hdlen
  rw [← Nat.cast_pow] at hres
  have hval := hres.beNat_eq
  have := Fact.mk hp
  have := Fact.mk hq
  refine ⟨signature, hres.length_eq, hval, ?_⟩
  rw [rsaSignPlain, hpow]
  dsimp only
  rw [rsaCheckSignature_eq hn hmax hem]
  by_cases hrange : beNat em < beNat n
  · have hcheck : beNat signature ^ 65537 % beNat n = beNat em := by
      refine eq_of_residues hnpq ((Nat.coprime_primes hp hq).mpr hne) (Nat.mod_lt _ hpos) hrange
        ?_ ?_
      · rw [natCast_mod_left hnpq, hval, Nat.cast_pow, natCast_mod_left hnpq, Nat.cast_pow,
          zmod_pow_pow hdp]
      · rw [natCast_mod_right hnpq, hval, Nat.cast_pow, natCast_mod_right hnpq, Nat.cast_pow,
          zmod_pow_pow hdq]
    rw [if_pos hrange, if_pos hcheck]
  · rw [if_neg hrange, if_neg]
    intro hcheck
    exact hrange (hcheck ▸ Nat.mod_lt _ hpos)

end Check

/-! ## The difference of the residues -/

section Difference

variable {a b mod : List UInt8} {y : ZMod (beNat mod)}

/-- The difference of a residue and a number at most `mod` above it. -/
theorem Residue.modSub (ha : a.length = mod.length) (hlt : beNat a < beNat mod)
    (hb : b.length = mod.length) (hclose : beNat b ≤ beNat a + beNat mod) :
    Residue mod ((beNat a : ZMod (beNat mod)) - beNat b) (rsaModSub a b mod) := by
  obtain ⟨hlen, hval⟩ := beNat_rsaModSub (ha.trans hb.symm) ha hclose
  refine ⟨hlen, ?_, ?_⟩
  · rw [hval]
    split <;> omega
  · rw [hval]
    split
    · next hle => rw [Nat.cast_sub hle]
    · rw [Nat.cast_sub hclose, Nat.cast_add, ZMod.natCast_self, add_zero]

/-- A number further above it, when the modulus is at least half of what its bytes
can hold: the difference is off by `256 ^ len`. -/
theorem Residue.mul_modSub_wrap (ha : a.length = mod.length) (hb : b.length = mod.length)
    (hwrap : beNat a + beNat mod < beNat b) (htop : 256 ^ mod.length ≤ 2 * beNat mod) {c : List UInt8}
    (hc : Residue mod y c) :
    Residue mod (((beNat a : ZMod (beNat mod)) - beNat b + ((256 ^ mod.length : Nat) :
      ZMod (beNat mod))) * y) (rsaMulMod (rsaModSub a b mod) c mod) := by
  obtain ⟨hlen, hval⟩ := beNat_rsaModSub_wrap (ha.trans hb.symm) ha hwrap
  have hblt := beNat_lt b
  rw [hb] at hblt
  have hge : beNat mod ≤ beNat (rsaModSub a b mod) := by omega
  have hslen := length_rsaSubInplace hlen
  have hsval := beNat_rsaSubInplace hlen hge
  have hreduced : Residue mod ((beNat a : ZMod (beNat mod)) - beNat b +
      ((256 ^ mod.length : Nat) : ZMod (beNat mod)))
      (rsaSubInplace (rsaModSub a b mod) mod) := by
    refine ⟨hslen.trans hlen, by omega, ?_⟩
    have hnat : beNat (rsaSubInplace (rsaModSub a b mod) mod) + beNat b =
        beNat a + 256 ^ mod.length := by omega
    have hcast := congrArg (Nat.cast (R := ZMod (beNat mod))) hnat
    rw [Nat.cast_add, Nat.cast_add] at hcast
    linear_combination hcast
  have hsame : rsaMulMod (rsaModSub a b mod) c mod =
      rsaMulMod (rsaSubInplace (rsaModSub a b mod) mod) c mod := by
    have hnge : ¬ rsaGeBytes (rsaSubInplace (rsaModSub a b mod) mod) mod = true := by
      rw [rsaGeBytes_iff hreduced.length_eq]
      exact Nat.not_le.mpr hreduced.lt
    unfold rsaMulMod
    rw [if_pos ((rsaGeBytes_iff hlen).mpr hge), if_neg hnge]
  rw [hsame]
  exact hreduced.mul hc

end Difference

/-! ## Keys -/

/-- A private key with all of its parts: distinct primes in buffers of one length,
and the exponents and the coefficient that belong to them. -/
structure RsaCrtKey where
  n : List UInt8
  d : List UInt8
  p : List UInt8
  q : List UInt8
  dmp1 : List UInt8
  dmq1 : List UInt8
  iqmp : List UInt8
  p_prime : (beNat p).Prime
  q_prime : (beNat q).Prime
  distinct : beNat p ≠ beNat q
  length_eq : p.length = q.length
  n_eq : beNat n = beNat p * beNat q
  d_length : d.length = n.length
  d_p : 65537 * beNat d % (beNat p - 1) = 1
  d_q : 65537 * beNat d % (beNat q - 1) = 1
  dmp1_length : dmp1.length ≤ rsaMaxBytes
  dmp1_inv : 65537 * beNat dmp1 % (beNat p - 1) = 1
  dmq1_length : dmq1.length ≤ rsaMaxBytes
  dmq1_inv : 65537 * beNat dmq1 % (beNat q - 1) = 1
  iqmp_length : iqmp.length = p.length
  iqmp_lt : beNat iqmp < beNat p
  iqmp_inv : beNat iqmp * beNat q % beNat p = 1

namespace RsaCrtKey

variable (key : RsaCrtKey) (digest : Sha256Digest)

/-- The key without its private exponent: it is signed with by the primes. -/
def primes : RsaCrtPrivateKey :=
  ⟨some key.n, none, some key.p, some key.q, some key.dmp1, some key.dmq1, some key.iqmp⟩

/-- The key with its private exponent. -/
def full : RsaCrtPrivateKey := { key.primes with d := some key.d }

/-- The encoded digest under the key. -/
def em : List UInt8 := emsaPkcs1v15Sha256 key.n.length digest

/-- Both branches sign the digest, with the same signature, and it verifies. -/
def CrtAgrees : Prop := ∃ signature,
  rsaPkcs1v15Sha256SignCrt key.n.length digest key.primes = some signature ∧
    rsaPkcs1v15Sha256SignCrt key.n.length digest key.full = some signature ∧
    rsaPkcs1v15Sha256Verify signature digest key.n = 0

/-- The sizes the signer takes, an encoded digest below the modulus, and residues
that do not lie more than `p` apart the wrong way. -/
structure CrtFits : Prop where
  size : 62 ≤ key.n.length
  max : key.n.length ≤ rsaMaxBytes
  split : key.n.length = key.p.length + key.q.length
  range : beNat (key.em digest) < beNat key.n
  close : beNat (key.em digest) ^ beNat key.dmq1 % beNat key.q ≤
    beNat (key.em digest) ^ beNat key.dmp1 % beNat key.p + beNat key.p

section Signing

variable {key digest}

theorem n_gt_one : 1 < beNat key.n := by
  rw [key.n_eq]
  exact Nat.lt_of_lt_of_le key.p_prime.one_lt
    (Nat.le_mul_of_pos_right _ key.q_prime.pos)

theorem coprime : Nat.Coprime (beNat key.p) (beNat key.q) :=
  (Nat.coprime_primes key.p_prime key.q_prime).mpr key.distinct

theorem length_em (hsize : 62 ≤ key.n.length) : (key.em digest).length = key.n.length :=
  length_emsaPkcs1v15Sha256 hsize digest

theorem signCrt_full_eq (hsize : 62 ≤ key.n.length) (hmax : key.n.length ≤ rsaMaxBytes) :
    rsaPkcs1v15Sha256SignCrt key.n.length digest key.full =
      rsaSignPlain (key.em digest) key.d key.n := by
  have hfilter : (some key.d).filter (fun d => decide (d.length = key.n.length)) = some key.d := by
    rw [Option.filter_some, if_pos (by simp [key.d_length])]
  simp only [rsaPkcs1v15Sha256SignCrt, full, primes]
  rw [if_neg (by omega), rsaEncodePkcs1Sha256_eq hsize hmax, hfilter]
  rfl

/-- The key with its private exponent signs exactly the encoded digests below the
modulus. -/
theorem signCrt_full_iff (hsize : 62 ≤ key.n.length) (hmax : key.n.length ≤ rsaMaxBytes) :
    ∃ signature : List UInt8, signature.length = key.n.length ∧
      beNat signature = beNat (key.em digest) ^ beNat key.d % beNat key.n ∧
      rsaPkcs1v15Sha256SignCrt key.n.length digest key.full =
        if beNat (key.em digest) < beNat key.n then some signature else none := by
  rw [signCrt_full_eq hsize hmax]
  exact rsaSignPlain_spec key.p_prime key.q_prime key.distinct key.n_eq hmax (length_em hsize)
    (key.d_length.le.trans hmax) key.d_p key.d_q

theorem residue_iqmp : Residue key.p (beNat key.iqmp : ZMod (beNat key.p)) key.iqmp :=
  Residue.of_lt key.iqmp_length key.iqmp_lt

/-- Garner's recombination stays below `n`. -/
theorem recombine_spec (hsplit : key.n.length = key.p.length + key.q.length) {h m2 : List UInt8}
    (hlen : h.length = key.p.length) (hlt : beNat h < beNat key.p)
    (hm2len : m2.length = key.q.length) (hm2 : beNat m2 < beNat key.q) :
    (rsaAddRightAligned (rsaPlainMul key.n.length key.q h) m2).length = key.n.length ∧
      beNat (rsaAddRightAligned (rsaPlainMul key.n.length key.q h) m2) =
        beNat key.q * beNat h + beNat m2 ∧
      beNat key.q * beNat h + beNat m2 < beNat key.n := by
  have hn : key.n.length = key.q.length + h.length := by omega
  obtain ⟨hml, hmv⟩ := rsaPlainMul_spec key.q h
  rw [← hn] at hml hmv
  have hbound : beNat key.q * beNat h + beNat m2 < beNat key.n := by
    have hmul := Nat.mul_le_mul_left (beNat key.q) (Nat.succ_le_of_lt hlt)
    rw [key.n_eq, Nat.mul_comm (beNat key.p)]
    rw [Nat.mul_succ] at hmul
    omega
  have hnlt := beNat_lt key.n
  obtain ⟨hal, hav⟩ := @rsaAddRightAligned_spec (rsaPlainMul key.n.length key.q h) m2
    (by rw [hml]; omega) (by rw [hmv, hml]; omega)
  rw [hmv] at hav
  exact ⟨hal.trans hml, hav, hbound⟩

/-- The branch with the primes: the residues, and the check of what they
recombine to. -/
theorem signCrt_primes (hsize : 62 ≤ key.n.length) (hmax : key.n.length ≤ rsaMaxBytes)
    (hsplit : key.n.length = key.p.length + key.q.length) : ∃ m1 m2,
      Residue key.p ((beNat (key.em digest) : ZMod (beNat key.p)) ^ beNat key.dmp1) m1 ∧
      Residue key.q ((beNat (key.em digest) : ZMod (beNat key.q)) ^ beNat key.dmq1) m2 ∧
      ∀ x, Residue key.p x (rsaMulMod (rsaModSub m1 m2 key.p) key.iqmp key.p) →
        ∃ s, s.length = key.n.length ∧ beNat s < beNat key.n ∧
          (beNat s : ZMod (beNat key.p)) = beNat key.q * x + beNat m2 ∧
          (beNat s : ZMod (beNat key.q)) = beNat m2 ∧
          rsaPkcs1v15Sha256SignCrt key.n.length digest key.primes =
            if beNat s ^ 65537 % beNat key.n = beNat (key.em digest) then some s else none := by
  have hp := key.p_prime.one_lt
  have hq := key.q_prime.one_lt
  have hlen := key.length_eq
  obtain ⟨m1, hpow1, hres1⟩ :=
    residue_rsaModexp hp (by omega) (key.em digest) key.dmp1_length
  obtain ⟨m2, hpow2, hres2⟩ :=
    residue_rsaModexp hq (by omega) (key.em digest) key.dmq1_length
  refine ⟨m1, m2, hres1, hres2, fun x hx => ?_⟩
  obtain ⟨hslen, hsval, hslt⟩ := recombine_spec hsplit hx.length_eq hx.lt hres2.length_eq hres2.lt
  have hnge : ¬ rsaGeBytes (rsaAddRightAligned (rsaPlainMul key.n.length key.q
      (rsaMulMod (rsaModSub m1 m2 key.p) key.iqmp key.p)) m2) key.n = true := by
    rw [rsaGeBytes_iff hslen, hsval]
    exact Nat.not_le.mpr hslt
  refine ⟨_, hslen, by rw [hsval]; exact hslt, ?_, ?_, ?_⟩
  · rw [hsval, Nat.cast_add, Nat.cast_mul, hx.cast_eq]
  · rw [hsval, Nat.cast_add, Nat.cast_mul, ZMod.natCast_self, zero_mul, zero_add]
  · rw [← rsaCheckSignature_eq n_gt_one hmax (length_em hsize)]
    have htake : key.iqmp.take key.p.length = key.iqmp :=
      List.take_of_length_le key.iqmp_length.le
    have hbranch : rsaPkcs1v15Sha256SignCrt key.n.length digest key.primes =
        rsaSignPrimes (key.em digest) key.n key.p key.q key.dmp1 key.dmq1 key.iqmp := by
      simp only [rsaPkcs1v15Sha256SignCrt, primes, Option.filter_none]
      rw [if_neg (by omega), rsaEncodePkcs1Sha256_eq hsize hmax]
      rfl
    rw [hbranch, rsaSignPrimes, if_neg (by omega), hpow1, hpow2]
    dsimp only
    rw [htake, if_neg hnge]

/-- The coefficient inverts `q` modulo `p`. -/
theorem cast_iqmp : (beNat key.iqmp : ZMod (beNat key.p)) * beNat key.q = 1 := by
  have hinv := congrArg (Nat.cast (R := ZMod (beNat key.p))) key.iqmp_inv
  rw [ZMod.natCast_mod, Nat.cast_mul, Nat.cast_one] at hinv
  exact hinv

theorem crtAgrees_of_fits (h : key.CrtFits digest) : key.CrtAgrees digest := by
  obtain ⟨m1, m2, hres1, hres2, hbranch⟩ := @signCrt_primes key digest h.size h.max h.split
  obtain ⟨full, hflen, hfval, hfull⟩ := @signCrt_full_iff key digest h.size h.max
  rw [if_pos h.range] at hfull
  have := Fact.mk key.p_prime
  have := Fact.mk key.q_prime
  have hm1 := hres1
  have hm2 := hres2
  rw [← Nat.cast_pow] at hm1 hm2
  have hclose : beNat m2 ≤ beNat m1 + beNat key.p := by
    rw [hm1.beNat_eq, hm2.beNat_eq]
    exact h.close
  have hdiff := Residue.modSub hres1.length_eq hres1.lt (hres2.length_eq.trans key.length_eq.symm)
    hclose
  obtain ⟨s, hslen, hslt, hsp, hsq, hsign⟩ := hbranch _ (hdiff.mul residue_iqmp)
  -- modulo p the recombined number is m1, modulo q it is m2
  have hsp' : (beNat s : ZMod (beNat key.p)) =
      (beNat (key.em digest) : ZMod (beNat key.p)) ^ beNat key.dmp1 := by
    rw [hsp, ← hres1.cast_eq]
    linear_combination ((beNat m1 : ZMod (beNat key.p)) - beNat m2) * @cast_iqmp key
  have hsq' : (beNat s : ZMod (beNat key.q)) =
      (beNat (key.em digest) : ZMod (beNat key.q)) ^ beNat key.dmq1 := by
    rw [hsq, hres2.cast_eq]
  have hpos : 0 < beNat key.n := lt_trans Nat.zero_lt_one n_gt_one
  have hcheck : beNat s ^ 65537 % beNat key.n = beNat (key.em digest) := by
    refine eq_of_residues key.n_eq coprime (Nat.mod_lt _ hpos) h.range ?_ ?_
    · rw [natCast_mod_left key.n_eq, Nat.cast_pow, hsp', zmod_pow_pow key.dmp1_inv]
    · rw [natCast_mod_right key.n_eq, Nat.cast_pow, hsq', zmod_pow_pow key.dmq1_inv]
  have hsame : s = full := by
    refine beNat_inj (hslen.trans hflen.symm) ?_
    rw [hfval]
    refine eq_of_residues key.n_eq coprime hslt (Nat.mod_lt _ hpos) ?_ ?_
    · rw [natCast_mod_left key.n_eq, Nat.cast_pow]
      refine zmod_pow_injective key.d_p ?_
      rw [hsp', zmod_pow_pow key.dmp1_inv, zmod_pow_pow key.d_p]
    · rw [natCast_mod_right key.n_eq, Nat.cast_pow]
      refine zmod_pow_injective key.d_q ?_
      rw [hsq', zmod_pow_pow key.dmq1_inv, zmod_pow_pow key.d_q]
  rw [if_pos hcheck] at hsign
  refine ⟨s, hsign, by rw [hsame]; exact hfull, ?_⟩
  exact (rsaPkcs1v15Sha256Verify_eq_zero_iff digest h.size h.max n_gt_one hslen).mpr hcheck

theorem sizes_of_signCrt_primes {signature : List UInt8}
    (h : rsaPkcs1v15Sha256SignCrt key.n.length digest key.primes = some signature) :
    62 ≤ key.n.length ∧ key.n.length ≤ rsaMaxBytes ∧
      key.n.length = key.p.length + key.q.length := by
  simp only [rsaPkcs1v15Sha256SignCrt, primes, Option.filter_none] at h
  by_cases hlen : key.n.length = 0 ∨ key.n.length > rsaMaxBytes ∨ key.n.length ≠ key.n.length
  · rw [if_pos hlen] at h
    cases h
  rw [if_neg hlen] at h
  by_cases hsize : 62 ≤ key.n.length
  · rw [rsaEncodePkcs1Sha256_eq hsize (by omega)] at h
    dsimp only at h
    unfold rsaSignPrimes at h
    split at h
    · cases h
    · next hsplit => exact ⟨hsize, by omega, by omega⟩
  · have hnone : rsaEncodePkcs1Sha256 key.n.length digest = none := by
      have hpre : sha256DigestInfoPrefix.length = 19 := rfl
      unfold rsaEncodePkcs1Sha256
      exact if_pos (Or.inl (by omega))
    rw [hnone] at h
    cases h

/-- When the residue modulo `q` lies more than `p` above the one modulo `p`, the
recombined number is not the signature, and the branch fails. -/
theorem not_crtAgrees_of_wrap (htop : 256 ^ key.p.length ≤ 2 * beNat key.p)
    (hwrap : beNat (key.em digest) ^ beNat key.dmp1 % beNat key.p + beNat key.p <
      beNat (key.em digest) ^ beNat key.dmq1 % beNat key.q) : ¬ key.CrtAgrees digest := by
  rintro ⟨signature, hprimes, -, -⟩
  obtain ⟨hsize, hmax, hsplit⟩ := sizes_of_signCrt_primes hprimes
  obtain ⟨m1, m2, hres1, hres2, hbranch⟩ := @signCrt_primes key digest hsize hmax hsplit
  have := Fact.mk key.p_prime
  have hm1 := hres1
  have hm2 := hres2
  rw [← Nat.cast_pow] at hm1 hm2
  rw [← hm1.beNat_eq, ← hm2.beNat_eq] at hwrap
  obtain ⟨s, -, -, hsp, -, hsign⟩ := hbranch _ (Residue.mul_modSub_wrap hres1.length_eq
    (hres2.length_eq.trans key.length_eq.symm) hwrap htop residue_iqmp)
  rw [hsign] at hprimes
  split at hprimes
  · next hcheck =>
      -- the check makes s the root of the digest modulo p, so 256 ^ len is 0 there
      have hpow : ((beNat s : ZMod (beNat key.p))) ^ 65537 = beNat (key.em digest) := by
        rw [← Nat.cast_pow, ← natCast_mod_left key.n_eq, hcheck]
      have hroot : (beNat s : ZMod (beNat key.p)) = beNat m1 := by
        refine zmod_pow_injective key.dmp1_inv ?_
        rw [hpow, hres1.cast_eq, zmod_pow_pow key.dmp1_inv]
      rw [hroot] at hsp
      have hzero : ((256 ^ key.p.length : Nat) : ZMod (beNat key.p)) = 0 := by
        linear_combination -hsp - ((beNat m1 : ZMod (beNat key.p)) - beNat m2 +
          ((256 ^ key.p.length : Nat) : ZMod (beNat key.p))) * @cast_iqmp key
      rw [ZMod.natCast_eq_zero_iff] at hzero
      have htwo : beNat key.p ∣ 2 := by
        have h256 := key.p_prime.dvd_of_dvd_pow hzero
        rw [show 256 = 2 ^ 8 by rfl] at h256
        exact key.p_prime.dvd_of_dvd_pow h256
      exact prime_ne_two_of_mod key.dmp1_inv ((Nat.prime_dvd_prime_iff_eq key.p_prime
        Nat.prime_two).mp htwo)
  · cases hprimes

/-- For every key and digest: when the parts fit, both branches give the same
signature and it verifies; and when the first bit of `p` is set, only then. -/
theorem crtAgrees_iff_fits (key : RsaCrtKey) (digest : Sha256Digest) :
    (key.CrtFits digest → key.CrtAgrees digest) ∧
      (256 ^ key.p.length ≤ 2 * beNat key.p → key.CrtAgrees digest → key.CrtFits digest) := by
  refine ⟨crtAgrees_of_fits, fun htop hagrees => ?_⟩
  obtain ⟨signature, hprimes, hfull, -⟩ := id hagrees
  obtain ⟨hsize, hmax, hsplit⟩ := sizes_of_signCrt_primes hprimes
  refine ⟨hsize, hmax, hsplit, ?_, ?_⟩
  · obtain ⟨_, -, -, hsign⟩ := @signCrt_full_iff key digest hsize hmax
    by_contra hrange
    rw [hsign, if_neg hrange] at hfull
    cases hfull
  · by_contra hfar
    exact not_crtAgrees_of_wrap htop (by omega) hagrees

end Signing

end RsaCrtKey

/-! ## A key with `p < q` -/

/-- Two 248-bit primes. -/
def smallPrime : Nat := 131113 * 2 ^ 230 + 1

/-- The larger of the two. -/
def largePrime : Nat := 245899 * 2 ^ 230 + 1

private theorem smallPrime_prime : smallPrime.Prime :=
  prime_of_powMod (c := 131113) (k := 248) (by norm_num) 3 (by decide) (by decide)
    (by decide +kernel) (by decide +kernel) (by decide +kernel)

private theorem largePrime_prime : largePrime.Prime :=
  prime_of_powMod (c := 245899) (k := 248) (by norm_num) 3 (by decide) (by decide)
    (by decide +kernel) (by decide +kernel) (by decide +kernel)

/-- The numbers of a key fit their buffers and belong together. -/
structure RsaNumbersOk (len p q d dmp1 dmq1 iqmp : Nat) : Prop where
  distinct : p ≠ q
  len_le : len ≤ rsaMaxBytes
  p_lt : p < 256 ^ len
  q_lt : q < 256 ^ len
  d_lt : d < 256 ^ (len + len)
  dmp1_lt : dmp1 < 256 ^ len
  dmq1_lt : dmq1 < 256 ^ len
  iqmp_lt : iqmp < p
  d_p : 65537 * d % (p - 1) = 1
  d_q : 65537 * d % (q - 1) = 1
  dmp1_inv : 65537 * dmp1 % (p - 1) = 1
  dmq1_inv : 65537 * dmq1 % (q - 1) = 1
  iqmp_inv : iqmp * q % p = 1

/-- The key of some numbers, with primes of `len` bytes. -/
def RsaCrtKey.ofNumbers (len p q d dmp1 dmq1 iqmp : Nat) (hp : p.Prime) (hq : q.Prime)
    (h : RsaNumbersOk len p q d dmp1 dmq1 iqmp) : RsaCrtKey where
  n := beBytes (len + len) (p * q)
  d := beBytes (len + len) d
  p := beBytes len p
  q := beBytes len q
  dmp1 := beBytes len dmp1
  dmq1 := beBytes len dmq1
  iqmp := beBytes len iqmp
  p_prime := by rwa [beNat_beBytes h.p_lt]
  q_prime := by rwa [beNat_beBytes h.q_lt]
  distinct := by
    rw [beNat_beBytes h.p_lt, beNat_beBytes h.q_lt]
    exact h.distinct
  length_eq := by simp
  n_eq := by
    have hn : p * q < 256 ^ (len + len) := by
      rw [pow_add]
      exact Nat.mul_lt_mul'' h.p_lt h.q_lt
    rw [beNat_beBytes hn, beNat_beBytes h.p_lt, beNat_beBytes h.q_lt]
  d_length := by simp
  d_p := by
    rw [beNat_beBytes h.d_lt, beNat_beBytes h.p_lt]
    exact h.d_p
  d_q := by
    rw [beNat_beBytes h.d_lt, beNat_beBytes h.q_lt]
    exact h.d_q
  dmp1_length := by simpa using h.len_le
  dmp1_inv := by
    rw [beNat_beBytes h.dmp1_lt, beNat_beBytes h.p_lt]
    exact h.dmp1_inv
  dmq1_length := by simpa using h.len_le
  dmq1_inv := by
    rw [beNat_beBytes h.dmq1_lt, beNat_beBytes h.q_lt]
    exact h.dmq1_inv
  iqmp_length := by simp
  iqmp_lt := by
    rw [beNat_beBytes (lt_trans h.iqmp_lt h.p_lt), beNat_beBytes h.p_lt]
    exact h.iqmp_lt
  iqmp_inv := by
    rw [beNat_beBytes (lt_trans h.iqmp_lt h.p_lt), beNat_beBytes h.p_lt, beNat_beBytes h.q_lt]
    exact h.iqmp_inv

/-- The private exponent of the two primes. -/
def sampleExponent : Nat :=
  0x6384097ca000ffff0000ffff0000ffff0000ffff0000ffff0000ffff0000ffff0000ffff0000ffff0000ffff0000ffff0000ffff0000ffff0000ffff0001

/-- A key with the smaller prime first. -/
def smallFirstKey : RsaCrtKey :=
  .ofNumbers 31 smallPrime largePrime sampleExponent
    0xd2f00ffff0000ffff0000ffff0000ffff0000ffff0000ffff0000ffff0001
    0x1aa900ffff0000ffff0000ffff0000ffff0000ffff0000ffff0000ffff0001
    0x12489bb4a756d2b8c3030e305324ab68380f2a659535133f37e2a1da4f1a1f
    smallPrime_prime largePrime_prime
    ⟨by decide, by decide, by decide, by decide, by decide, by decide, by decide, by decide,
      by decide, by decide, by decide, by decide, by decide⟩

/-- The same primes the other way round. -/
def largeFirstKey : RsaCrtKey :=
  .ofNumbers 31 largePrime smallPrime sampleExponent
    0x1aa900ffff0000ffff0000ffff0000ffff0000ffff0000ffff0000ffff0001
    0xd2f00ffff0000ffff0000ffff0000ffff0000ffff0000ffff0000ffff0001
    0xcdd8644b58a92d473cfcf1cfacdb5497c7f0d59a6acaecc0c81d5e25b0e5e3
    largePrime_prime smallPrime_prime
    ⟨by decide, by decide, by decide, by decide, by decide, by decide, by decide, by decide,
      by decide, by decide, by decide, by decide, by decide⟩

/-- With the larger prime first the branches agree. -/
theorem crtAgrees_largeFirstKey : largeFirstKey.CrtAgrees (Vector.replicate 32 0) := by
  refine (RsaCrtKey.crtAgrees_iff_fits largeFirstKey (Vector.replicate 32 0)).1
    ⟨by decide, by decide, by decide, by decide +kernel, ?_⟩
  have hq := Nat.mod_lt (beNat (largeFirstKey.em (Vector.replicate 32 0)) ^
    beNat largeFirstKey.dmq1) largeFirstKey.q_prime.pos
  have hlt : beNat largeFirstKey.q < beNat largeFirstKey.p := by decide +kernel
  omega

/-- On the all-zero digest the residues lie more than `p` apart: the branch with
the primes fails. -/
theorem crtAgrees_fails : ¬ ∀ (key : RsaCrtKey) (digest : Sha256Digest),
    62 ≤ key.n.length → key.n.length ≤ rsaMaxBytes →
    key.n.length = key.p.length + key.q.length →
    beNat (key.em digest) < beNat key.n → key.CrtAgrees digest := by
  intro h
  refine @RsaCrtKey.not_crtAgrees_of_wrap smallFirstKey (Vector.replicate 32 0)
    (by decide +kernel) ?_ (h _ _ (by decide) (by decide) (by decide) (by decide +kernel))
  rw [← powMod_eq (k := 248) (by decide +kernel), ← powMod_eq (k := 248) (by decide +kernel)]
  decide +kernel

end Orizon
