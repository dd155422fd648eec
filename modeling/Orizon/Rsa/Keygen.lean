import Orizon.Rsa.Crt
import Orizon.Rsa.Prime
import Mathlib.Data.Nat.Bitwise

/-!
# Orizon.Rsa.Keygen

Generation of the 1024-bit host key (`rsa_generate_private_key_1024`) from a
32-byte seed.

The primes' candidates are hashes of the seed.  The exponents are the inverses of
65537, which exist because a candidate that is 1 modulo 65537 is passed over: once
two distinct primes are found the derivation never fails
(`rsaGeneratePrivateKey1024_of_primes`), and the key it gives is right
(`rsaGeneratePrivateKey1024_ok`) whether or not the probable primes are primes.
-/

namespace Orizon

/-! ## The functions -/

/-- The digest of one block of `rsa_seed_expand`; the counters are hashed as they
lie in memory. -/
def rsaSeedBlock (seed : Sha256Digest) (label : String) (attempt block : Nat) : Sha256Digest :=
  let ctx := sha256Init
  let ctx := sha256Update ctx (asciiBytes "orizon-rsa-keygen-v1")
  let ctx := sha256Update ctx seed.toList
  let ctx := sha256Update ctx (asciiBytes label)
  let ctx := sha256Update ctx (leBytes 4 attempt)
  let ctx := sha256Update ctx (leBytes 4 block)
  sha256Final ctx

/-- `rsa_seed_expand`. -/
def rsaSeedExpand (seed : Sha256Digest) (label : String) (attempt outLen : Nat) : List UInt8 :=
  ((List.range ((outLen + 31) / 32)).flatMap fun block =>
    (rsaSeedBlock seed label attempt block).toList).take outLen

/-- `rsa_make_prime_candidate`: the first two bits and the last are set. -/
def rsaMakePrimeCandidate (seed : Sha256Digest) (label : String) (attempt : Nat) : List UInt8 :=
  let out := rsaSeedExpand seed label attempt 64
  let out := out.set 0 (out.getD 0 0 ||| 0xc0)
  out.set 63 (out.getD 63 0 ||| 1)

/-- One round of `rsa_generate_prime_512`, with the number of attempts so far. -/
def rsaPrimeAttempt (seed : Sha256Digest) (label : String) (attempt : Nat) :
    Option (List UInt8 × Nat) :=
  let out := rsaMakePrimeCandidate seed label attempt
  if rsaModU32 out 65537 = 1 then none
  else if rsaProbablePrime512 out then some (out, attempt + 1)
  else none

/-- `rsa_generate_prime_512`; `none` is the `-1` return. -/
def rsaGeneratePrime512 (seed : Sha256Digest) (label : String) : Option (List UInt8 × Nat) :=
  (List.range 8192).findSome? (rsaPrimeAttempt seed label)

/-- `rsa_generated_private_key_t`. -/
structure RsaGeneratedPrivateKey where
  n : List UInt8
  d : List UInt8
  p : List UInt8
  q : List UInt8
  dmp1 : List UInt8
  dmq1 : List UInt8

/-- `rsa_generate_private_key_1024` after the two searches: the key and the report,
or the report of the `-1` return. -/
def rsaKeyOfPrimes :
    Option (List UInt8 × Nat) → Option (List UInt8 × Nat) →
      Except String (RsaGeneratedPrivateKey × String)
  | none, _ => .error "rsa: p prime generation failed"
  | some _, none => .error "rsa: q prime generation failed"
  | some (p, pAttempts), some (q, qAttempts) =>
      if p = q then .error "rsa: q prime generation failed"
      else
        let pMinusOne := rsaSubSmall p 1
        let qMinusOne := rsaSubSmall q 1
        let n := rsaPlainMul 128 p q
        let phi := rsaPlainMul 128 pMinusOne qMinusOne
        if n.getD 0 0 &&& 0x80 = 0 then .error "rsa: private exponent derivation failed"
        else
          match rsaInverseOf65537 phi, rsaInverseOf65537 pMinusOne,
              rsaInverseOf65537 qMinusOne with
          | some d, some dmp1, some dmq1 =>
              .ok (⟨n, d, p, q, dmp1, dmq1⟩, "rsa: generated 1024-bit key p-attempts=" ++
                toString pAttempts ++ " q-attempts=" ++ toString qAttempts)
          | _, _, _ => .error "rsa: private exponent derivation failed"

/-- `rsa_generate_private_key_1024`. -/
def rsaGeneratePrivateKey1024 (seed : Sha256Digest) :
    Except String (RsaGeneratedPrivateKey × String) :=
  rsaKeyOfPrimes (rsaGeneratePrime512 seed "p") (rsaGeneratePrime512 seed "q")

/-! ## Candidates -/

/-- What is left of a candidate: 64 bytes, the first two bits and the last set. -/
structure RsaCandidateOk (p : List UInt8) : Prop where
  length_eq : p.length = 64
  ge : 0xc0 * 256 ^ 63 ≤ beNat p
  mod_ne : beNat p % 65537 ≠ 1

theorem length_rsaSeedExpand (seed : Sha256Digest) (label : String) (attempt : Nat) :
    (rsaSeedExpand seed label attempt 64).length = 64 := by
  simp [rsaSeedExpand, List.length_flatMap]

theorem length_rsaMakePrimeCandidate (seed : Sha256Digest) (label : String) (attempt : Nat) :
    (rsaMakePrimeCandidate seed label attempt).length = 64 := by
  simp [rsaMakePrimeCandidate, length_rsaSeedExpand]

theorem ge_rsaMakePrimeCandidate (seed : Sha256Digest) (label : String) (attempt : Nat) :
    0xc0 * 256 ^ 63 ≤ beNat (rsaMakePrimeCandidate seed label attempt) := by
  have hlen := length_rsaMakePrimeCandidate seed label attempt
  have hhead : 0xc0 ≤ ((rsaMakePrimeCandidate seed label attempt).getD 0 0).toNat := by
    have hor : (rsaMakePrimeCandidate seed label attempt).getD 0 0 =
        (rsaSeedExpand seed label attempt 64).getD 0 0 ||| 0xc0 := by
      simp [rsaMakePrimeCandidate, List.getD_eq_getElem?_getD, length_rsaSeedExpand]
    rw [hor, UInt8.toNat_or]
    exact Nat.right_le_or
  match hp : rsaMakePrimeCandidate seed label attempt with
  | [] => rw [hp] at hlen; simp at hlen
  | b :: bs =>
      rw [hp] at hlen hhead
      have hbs : bs.length = 63 := by simpa using hlen
      rw [beNat_cons, hbs]
      exact le_trans (Nat.mul_le_mul_right _ (by simpa using hhead)) (Nat.le_add_right _ _)

theorem rsaGeneratePrime512_ok {seed : Sha256Digest} {label : String} {p : List UInt8}
    {attempts : Nat} (h : rsaGeneratePrime512 seed label = some (p, attempts)) :
    RsaCandidateOk p := by
  obtain ⟨attempt, -, hsome⟩ := List.exists_of_findSome?_eq_some h
  dsimp only [rsaPrimeAttempt] at hsome
  split at hsome
  · cases hsome
  · next hmod =>
      split at hsome
      · obtain ⟨rfl, -⟩ := Prod.mk.inj (Option.some.inj hsome)
        rw [rsaModU32_eq (by decide)] at hmod
        exact ⟨length_rsaMakePrimeCandidate _ _ _, ge_rsaMakePrimeCandidate _ _ _, hmod⟩
      · cases hsome

/-! ## The derived numbers -/

/-- What the claims on a key ask: the modulus, and the exponents below their
moduli. -/
structure RsaGeneratedPrivateKey.Ok (key : RsaGeneratedPrivateKey) : Prop where
  n_length : key.n.length = 128
  n_eq : beNat key.n = beNat key.p * beNat key.q
  n_ge : 2 ^ 1023 ≤ beNat key.n
  d_length : key.d.length = 128
  d_lt : beNat key.d < (beNat key.p - 1) * (beNat key.q - 1)
  d_inv : 65537 * beNat key.d % ((beNat key.p - 1) * (beNat key.q - 1)) = 1
  dmp1_lt : beNat key.dmp1 < beNat key.p - 1
  dmp1_inv : 65537 * beNat key.dmp1 % (beNat key.p - 1) = 1
  dmq1_lt : beNat key.dmq1 < beNat key.q - 1
  dmq1_inv : 65537 * beNat key.dmq1 % (beNat key.q - 1) = 1

theorem rsaWidths : 2 ^ 1023 ≤ 0xc0 * 256 ^ 63 * (0xc0 * 256 ^ 63) ∧ 2 ^ 1023 = 128 * 256 ^ 127 ∧
    256 ^ 126 + 256 ^ 126 < 2 ^ 1023 ∧ 256 ^ 64 = 2 ^ 512 := by
  decide +kernel

namespace RsaCandidateOk

variable {p q : List UInt8}

theorem two_lt (hp : RsaCandidateOk p) : 2 < beNat p := by
  have := hp.ge
  omega

theorem sub_one (hp : RsaCandidateOk p) :
    (rsaSubSmall p 1).length = 64 ∧ beNat (rsaSubSmall p 1) = beNat p - 1 ∧
      (beNat p - 1) % 65537 ≠ 0 := by
  have hgt := hp.two_lt
  have hmod := hp.mod_ne
  obtain ⟨hl, hv⟩ := @rsaSubSmall_spec p 1 (by omega)
  exact ⟨hl.trans hp.length_eq, hv, by omega⟩

/-- The modulus: two numbers with their first two bits set have a product with its
first bit set. -/
theorem modulus (hp : RsaCandidateOk p) (hq : RsaCandidateOk q) :
    (rsaPlainMul 128 p q).length = 128 ∧ beNat (rsaPlainMul 128 p q) = beNat p * beNat q ∧
      2 ^ 1023 ≤ beNat p * beNat q := by
  have hlen : 128 = p.length + q.length := by rw [hp.length_eq, hq.length_eq]
  obtain ⟨hl, hv⟩ := rsaPlainMul_spec p q
  rw [← hlen] at hl hv
  exact ⟨hl, hv, le_trans rsaWidths.1 (Nat.mul_le_mul hp.ge hq.ge)⟩

theorem exponents (hp : RsaCandidateOk p) (hq : RsaCandidateOk q) :
    ∃ d dmp1 dmq1, rsaInverseOf65537 (rsaPlainMul 128 (rsaSubSmall p 1) (rsaSubSmall q 1)) = some d ∧
      rsaInverseOf65537 (rsaSubSmall p 1) = some dmp1 ∧
      rsaInverseOf65537 (rsaSubSmall q 1) = some dmq1 ∧
      RsaGeneratedPrivateKey.Ok ⟨rsaPlainMul 128 p q, d, p, q, dmp1, dmq1⟩ := by
  obtain ⟨hpl, hpv, hpmod⟩ := hp.sub_one
  obtain ⟨hql, hqv, hqmod⟩ := hq.sub_one
  obtain ⟨hnl, hnv, hnge⟩ := hp.modulus hq
  have hpgt := hp.two_lt
  have hqgt := hq.two_lt
  obtain ⟨hphil, hphiv⟩ := rsaPlainMul_spec (rsaSubSmall p 1) (rsaSubSmall q 1)
  rw [hpl, hql, hpv, hqv] at hphiv
  rw [hpl, hql] at hphil
  have hphigt : 1 < (beNat p - 1) * (beNat q - 1) :=
    Nat.lt_of_lt_of_le (by omega) (Nat.le_mul_of_pos_right (beNat p - 1) (by omega))
  have hphimod : (beNat p - 1) * (beNat q - 1) % 65537 ≠ 0 := by
    have hprime : Nat.Prime 65537 := by norm_num
    intro h0
    obtain hdvd | hdvd := hprime.dvd_mul.mp (Nat.dvd_of_mod_eq_zero h0)
    · exact hpmod (Nat.mod_eq_zero_of_dvd hdvd)
    · exact hqmod (Nat.mod_eq_zero_of_dvd hdvd)
  obtain ⟨d, hd, hdl, hdlt, hdinv⟩ := @rsaInverseOf65537_spec
    (rsaPlainMul 128 (rsaSubSmall p 1) (rsaSubSmall q 1)) (by rw [hphil]; decide)
    (by rw [hphiv]; exact hphigt) (by rw [hphiv]; exact hphimod)
  obtain ⟨dmp1, hdmp1, -, hdmp1lt, hdmp1inv⟩ := @rsaInverseOf65537_spec
    (rsaSubSmall p 1) (by rw [hpl]; decide) (by omega) (by rw [hpv]; exact hpmod)
  obtain ⟨dmq1, hdmq1, -, hdmq1lt, hdmq1inv⟩ := @rsaInverseOf65537_spec
    (rsaSubSmall q 1) (by rw [hql]; decide) (by omega) (by rw [hqv]; exact hqmod)
  rw [hphiv] at hdlt hdinv
  rw [hpv] at hdmp1lt hdmp1inv
  rw [hqv] at hdmq1lt hdmq1inv
  exact ⟨d, dmp1, dmq1, hd, hdmp1, hdmq1, hnl, hnv, hnv ▸ hnge, hdl.trans hphil, hdlt, hdinv,
    hdmp1lt, hdmp1inv, hdmq1lt, hdmq1inv⟩

theorem first_bit (hp : RsaCandidateOk p) (hq : RsaCandidateOk q) :
    (rsaPlainMul 128 p q).getD 0 0 &&& 0x80 ≠ 0 := by
  obtain ⟨hnl, hnv, hnge⟩ := hp.modulus hq
  rw [← hnv] at hnge
  match hn : rsaPlainMul 128 p q with
  | [] => rw [hn] at hnl; simp at hnl
  | b :: bs =>
      rw [hn, beNat_cons] at hnge
      have hbs : bs.length = 127 := by rw [hn] at hnl; simpa using hnl
      have hlow := beNat_lt bs
      rw [hbs] at hlow hnge
      have hb : 128 ≤ b.toNat := by
        have hpow : (2 : Nat) ^ 1023 = 128 * 256 ^ 127 := rsaWidths.2.1
        by_contra hlt
        have := Nat.mul_le_mul_right (256 ^ 127) (show b.toNat ≤ 127 by omega)
        omega
      have hbit : (b &&& 0x80).toNat = 128 := by
        have hand := Nat.and_two_pow b.toNat 7
        have hlt := b.toNat_lt
        have htest : b.toNat.testBit 7 = true := by
          rw [Nat.testBit_eq_decide_div_mod_eq, decide_eq_true_eq]
          omega
        rw [htest] at hand
        rw [UInt8.toNat_and]
        exact hand
      intro h0
      rw [List.getD_cons_zero] at h0
      rw [h0] at hbit
      cases hbit

end RsaCandidateOk

/-- Two distinct candidates give a key: the derivation does not fail. -/
theorem rsaKeyOfPrimes_ok {p q : List UInt8} (hp : RsaCandidateOk p) (hq : RsaCandidateOk q)
    (hne : p ≠ q) (i j : Nat) :
    ∃ key report, rsaKeyOfPrimes (some (p, i)) (some (q, j)) = .ok (key, report) ∧
      key.p = p ∧ key.q = q ∧ key.Ok := by
  obtain ⟨d, dmp1, dmq1, hd, hdmp1, hdmq1, hok⟩ := hp.exponents hq
  refine ⟨_, "rsa: generated 1024-bit key p-attempts=" ++ toString i ++ " q-attempts=" ++ toString j,
    ?_, rfl, rfl, hok⟩
  rw [rsaKeyOfPrimes, if_neg hne]
  dsimp only
  rw [if_neg (hp.first_bit hq), hd, hdmp1, hdmq1]

theorem rsaGeneratePrivateKey1024_of_primes {seed : Sha256Digest} {p q : List UInt8} {i j : Nat}
    (hp : rsaGeneratePrime512 seed "p" = some (p, i))
    (hq : rsaGeneratePrime512 seed "q" = some (q, j)) (hne : p ≠ q) :
    ∃ key report, rsaGeneratePrivateKey1024 seed = .ok (key, report) := by
  obtain ⟨key, report, hkey, -⟩ := rsaKeyOfPrimes_ok (rsaGeneratePrime512_ok hp)
    (rsaGeneratePrime512_ok hq) hne i j
  exact ⟨key, report, by rw [rsaGeneratePrivateKey1024, hp, hq, hkey]⟩

theorem rsaGeneratePrivateKey1024_cases {seed : Sha256Digest} {key : RsaGeneratedPrivateKey}
    {report : String} (h : rsaGeneratePrivateKey1024 seed = .ok (key, report)) :
    beNat key.p ≠ beNat key.q ∧ key.Ok := by
  rw [rsaGeneratePrivateKey1024] at h
  obtain hp | ⟨⟨p, i⟩, hp⟩ := Option.eq_none_or_eq_some (rsaGeneratePrime512 seed "p")
  · rw [hp] at h
    cases h
  obtain hq | ⟨⟨q, j⟩, hq⟩ := Option.eq_none_or_eq_some (rsaGeneratePrime512 seed "q")
  · rw [hp, hq] at h
    cases h
  rw [hp, hq] at h
  by_cases hne : p = q
  · rw [rsaKeyOfPrimes, if_pos hne] at h
    cases h
  have hpok := rsaGeneratePrime512_ok hp
  have hqok := rsaGeneratePrime512_ok hq
  obtain ⟨key', report', hkey, hkp, hkq, hok⟩ := rsaKeyOfPrimes_ok hpok hqok hne i j
  rw [hkey] at h
  obtain ⟨rfl, -⟩ := Prod.mk.inj (Except.ok.inj h)
  rw [hkp, hkq]
  exact ⟨fun heq => hne (beNat_inj (hpok.length_eq.trans hqok.length_eq.symm) heq), hok⟩

/-! ## Signing -/

/-- An encoded digest starts with `00 01`. -/
theorem beNat_emsaPkcs1v15Sha256_lt (digest : Sha256Digest) :
    beNat (emsaPkcs1v15Sha256 128 digest) < 2 ^ 1023 := by
  have hlen := length_emsaPkcs1v15Sha256 (by decide : 62 ≤ 128) digest
  obtain ⟨rest, hrest⟩ : ∃ rest, emsaPkcs1v15Sha256 128 digest = 0 :: 1 :: rest := ⟨_, rfl⟩
  rw [hrest] at hlen ⊢
  have hlow := beNat_lt rest
  have hrlen : rest.length = 126 := by simpa using hlen
  rw [hrlen] at hlow
  rw [beNat_cons, beNat_cons, hrlen, UInt8.toNat_zero, UInt8.toNat_one, Nat.zero_mul, Nat.zero_add,
    Nat.one_mul]
  exact lt_trans (Nat.add_lt_add_left hlow _) rsaWidths.2.2.1

/-- The power of a signature that `rsaSignPlain` returns. -/
theorem pow_of_rsaSignPlain {em d n signature : List UInt8} (hn : 1 < beNat n)
    (hmax : n.length ≤ rsaMaxBytes) (hem : em.length = n.length)
    (h : rsaSignPlain em d n = some signature) :
    beNat signature ^ 65537 % beNat n = beNat em := by
  unfold rsaSignPlain at h
  split at h
  · cases h
  · rw [rsaCheckSignature_eq hn hmax hem] at h
    split at h
    · next hpow => rwa [← Option.some.inj h]
    · cases h

/-- A right key with prime factors signs every digest, whatever its other parts, and
the signature verifies. -/
theorem RsaGeneratedPrivateKey.Ok.signs {key : RsaGeneratedPrivateKey} (hkey : key.Ok)
    (hne : beNat key.p ≠ beNat key.q) (hp : (beNat key.p).Prime) (hq : (beNat key.q).Prime)
    (digest : Sha256Digest) {parts : RsaCrtPrivateKey} (hn : parts.n = some key.n)
    (hd : parts.d = some key.d) : ∃ signature,
      rsaPkcs1v15Sha256SignCrt 128 digest parts = some signature ∧
        rsaPkcs1v15Sha256Verify signature digest key.n = 0 := by
  have hnl := hkey.n_length
  have hdl := hkey.d_length
  have hmax : key.n.length ≤ rsaMaxBytes := by rw [hnl]; decide
  have hngt : 1 < beNat key.n := lt_of_lt_of_le (Nat.one_lt_two_pow (by decide)) hkey.n_ge
  have hem : (emsaPkcs1v15Sha256 128 digest).length = key.n.length :=
    (length_emsaPkcs1v15Sha256 (by decide) digest).trans hnl.symm
  have hp2 : 1 < beNat key.p - 1 := by
    have h0 := hkey.dmp1_inv
    have h1 := hkey.dmp1_lt
    by_contra hle
    obtain h2 : beNat key.p - 1 = 1 := by omega
    rw [h2, Nat.mod_one] at h0
    cases h0
  have hq2 : 1 < beNat key.q - 1 := by
    have h0 := hkey.dmq1_inv
    have h1 := hkey.dmq1_lt
    by_contra hle
    obtain h2 : beNat key.q - 1 = 1 := by omega
    rw [h2, Nat.mod_one] at h0
    cases h0
  have hdp : 65537 * beNat key.d % (beNat key.p - 1) = 1 := by
    rw [← Nat.mod_mul_right_mod _ _ (beNat key.q - 1), hkey.d_inv, Nat.mod_eq_of_lt hp2]
  have hdq : 65537 * beNat key.d % (beNat key.q - 1) = 1 := by
    rw [← Nat.mod_mul_left_mod _ (beNat key.p - 1), hkey.d_inv, Nat.mod_eq_of_lt hq2]
  obtain ⟨signature, hslen, -, hsign⟩ := rsaSignPlain_spec hp hq hne hkey.n_eq hmax hem
    (hdl.trans hnl.symm |>.le.trans hmax) hdp hdq
  rw [if_pos (lt_of_lt_of_le (beNat_emsaPkcs1v15Sha256_lt digest) hkey.n_ge)] at hsign
  refine ⟨signature, ?_, ?_⟩
  · have hfilter : (some key.d).filter (fun d => decide (d.length = key.n.length)) =
        some key.d := by
      rw [Option.filter_some, if_pos (by simp [hdl, hnl])]
    rw [rsaPkcs1v15Sha256SignCrt, hn, hd]
    dsimp only
    rw [if_neg (by omega), hnl, rsaEncodePkcs1Sha256_eq (by decide) (by decide), ← hnl, hfilter]
    dsimp only
    rw [hnl, hsign]
  · rw [rsaPkcs1v15Sha256Verify_eq_zero_iff digest (by omega) hmax hngt hslen, hnl]
    exact pow_of_rsaSignPlain hngt hmax hem hsign

/-- Whenever the generator returns a key, for any seed: the modulus is the product
and has 1024 bits, the exponents are the inverses of 65537 below their moduli, and if
the factors are primes every digest is signed and the signature verifies. -/
theorem rsaGeneratePrivateKey1024_spec {seed : Sha256Digest} {key : RsaGeneratedPrivateKey}
    {report : String} (h : rsaGeneratePrivateKey1024 seed = .ok (key, report)) :
    key.Ok ∧ ((beNat key.p).Prime → (beNat key.q).Prime →
      ∀ (digest : Sha256Digest) (parts : RsaCrtPrivateKey),
        parts.n = some key.n → parts.d = some key.d → ∃ signature,
          rsaPkcs1v15Sha256SignCrt 128 digest parts = some signature ∧
            rsaPkcs1v15Sha256Verify signature digest key.n = 0) := by
  obtain ⟨hne, hok⟩ := rsaGeneratePrivateKey1024_cases h
  exact ⟨hok, fun hp hq digest parts hn hd => hok.signs hne hp hq digest hn hd⟩

/-! ## A seed -/

/-- A number that is 3 modulo 4 passes a round when the power is 1 or `-1`. -/
theorem strongProbablePrime_of_powMod {n b : Nat} (hmod : n % 4 = 3) (hlt : n < 256 ^ 64)
    (hpow : powMod n b 512 (n / 2) = 1 ∨ powMod n b 512 (n / 2) = n - 1) :
    StrongProbablePrime n b := by
  have hbits : n / 2 < 2 ^ 512 :=
    lt_of_le_of_lt (Nat.div_le_self n 2) (hlt.trans_eq rsaWidths.2.2.2)
  rw [powMod_eq hbits] at hpow
  refine ⟨1, n / 2, by omega, by omega, ?_⟩
  obtain h1 | hminus := hpow
  · exact Or.inl h1
  · exact Or.inr ⟨0, by decide, by simpa using hminus⟩

theorem rsaGeneratePrime512_of_first {seed : Sha256Digest} {label : String} {p : List UInt8}
    (hp : rsaMakePrimeCandidate seed label 0 = p) (hmod : rsaModU32 p 65537 ≠ 1)
    (hprime : rsaProbablePrime512 p = true) :
    rsaGeneratePrime512 seed label = some (p, 1) := by
  have hfirst : rsaPrimeAttempt seed label 0 = some (p, 1) := by
    rw [rsaPrimeAttempt, hp, if_neg hmod, if_pos hprime]
  have hrange : List.range 8192 = 0 :: (List.range 8191).map Nat.succ := List.range_succ_eq_map
  rw [rsaGeneratePrime512, hrange, List.findSome?_cons_of_isSome (by rw [hfirst]; rfl), hfirst]

/-- A seed whose first candidates are probable primes. -/
def sampleSeed : Sha256Digest := ⟨(beBytes 32 202287).toArray, by simp⟩

/-- Its first candidate for `p`. -/
def sampleP : Nat :=
  0xcf435fdb76478c725553593e10ee478354647f819e086cfbcfb9629d13d4432876bb132663be8ca0fc8c8eddeb1b6c5f8feefa9c83f7feb5f4037532d82d4873

/-- Its first candidate for `q`. -/
def sampleQ : Nat :=
  0xed2e45a4d3785b2f0f693324b5a7fb6109977af2867c01717284f552dd9fa62029108d544f710aaeb8a9dd8bfd9997bbc2075bef827257537923afc7ef133b9b

private theorem probablePrime_of_powMod {n : Nat} (hmod : n % 4 = 3) (hlt : n < 256 ^ 64)
    (hsmall : ∀ p ∈ rsaSmallPrimes, n % p ≠ 0)
    (hpow : ∀ b ∈ rsaBases, powMod n b 512 (n / 2) = 1 ∨ powMod n b 512 (n / 2) = n - 1) :
    rsaProbablePrime512 (beBytes 64 n) = true := by
  have hval := beNat_beBytes hlt
  rw [rsaProbablePrime512_iff (by rw [length_beBytes]; decide) (by rw [length_beBytes]; decide),
    hval]
  refine ⟨by omega, by omega, hsmall, fun b hb => ?_⟩
  exact strongProbablePrime_of_powMod hmod hlt (hpow b hb)

/-- The first candidates of the sample seed pass, and they differ enough. -/
private theorem sampleSeed_primes :
    rsaGeneratePrime512 sampleSeed "p" = some (beBytes 64 sampleP, 1) ∧
      rsaGeneratePrime512 sampleSeed "q" = some (beBytes 64 sampleQ, 1) ∧
        beBytes 64 sampleP ≠ beBytes 64 sampleQ := by
  refine ⟨?_, ?_, by decide +kernel⟩
  · exact rsaGeneratePrime512_of_first (by decide +kernel) (by decide +kernel)
      (probablePrime_of_powMod (by decide) (by decide +kernel) (by decide +kernel)
        (by decide +kernel))
  · exact rsaGeneratePrime512_of_first (by decide +kernel) (by decide +kernel)
      (probablePrime_of_powMod (by decide) (by decide +kernel) (by decide +kernel)
        (by decide +kernel))

/-- The generator returns a key for that seed. -/
theorem rsaGeneratePrivateKey1024_sampleSeed : ∃ key report,
    rsaGeneratePrivateKey1024 sampleSeed = .ok (key, report) ∧ key.Ok := by
  obtain ⟨hp, hq, hne⟩ := sampleSeed_primes
  obtain ⟨key, report, h⟩ := rsaGeneratePrivateKey1024_of_primes hp hq hne
  exact ⟨key, report, h, (rsaGeneratePrivateKey1024_spec h).1⟩

end Orizon
