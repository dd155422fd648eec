import Orizon.Net.Certificate
import Orizon.Rsa.Verify

/-!
# Orizon.Net.SignatureAgreement

The two PKCS#1 v1.5 verifiers of the kernel, `tls_verify_rsa_sha256_cert_signature` of
`drivers/netstack.c` and `rsa_pkcs1v15_sha256_verify` of `lib/rsa.c`.

Both compare `s ^ 65537` modulo the modulus with the encoded digest
(`tlsVerifyRsaSha256CertSignature_iff`, `rsaPkcs1v15Sha256Verify_iff`), and each has a check that
the other lacks: the first refuses a signature that is not below the modulus, the second one
that has not the length of the modulus.
-/

namespace Orizon

variable {cert : TlsCertSummary} {signature n em : List UInt8} {digest : Sha256Digest}

/-! ## The padding -/

/-- `tls_check_pkcs1_sha256` accepts the encoding of the digest and nothing else. -/
theorem tlsCheckPkcs1Sha256_iff (h : 62 ≤ em.length) :
    tlsCheckPkcs1Sha256 em digest = true ↔ em = emsaPkcs1v15Sha256 em.length digest := by
  have hlength : (tlsDigestInfoPrefix ++ digest.toList).length = 51 := by simp [tlsDigestInfoPrefix]
  have hencoding : emsaPkcs1v15Sha256 em.length digest =
      0x00 :: 0x01 :: (List.replicate (em.length - 54) 0xff ++ (0x00 :: (tlsDigestInfoPrefix ++ digest.toList))) := by
    rw [emsaPkcs1v15Sha256, show sha256DigestInfoPrefix = tlsDigestInfoPrefix from rfl, hlength]
    simp [Nat.sub_sub]
  constructor
  · intro hcheck
    obtain ⟨first, second, rest, rfl⟩ : ∃ first second rest, em = first :: second :: rest := by
      obtain _ | ⟨first, _ | ⟨second, rest⟩⟩ := em
      · contradiction
      · contradiction
      · exact ⟨first, second, rest, rfl⟩
    obtain ⟨ps, hps⟩ : ∃ ps, ps = (first :: second :: rest).length - 54 := ⟨_, rfl⟩
    have hrest : rest.length = ps + 52 := by
      simp only [List.length_cons] at hps h
      omega
    rw [tlsCheckPkcs1Sha256, show (first :: second :: rest).length - 3 - (tlsDigestInfoPrefix.length + 32) = ps by
      rw [hps, Nat.sub_sub]; rfl] at hcheck
    split at hcheck
    · contradiction
    next hstart =>
      simp only [List.getD_cons_zero, List.getD_cons_succ, not_or, not_not] at hstart
      simp only [List.drop_succ_cons, List.drop_zero, Bool.and_eq_true, List.all_eq_true, beq_iff_eq,
        Nat.add_comm _ ps, List.getD_cons_succ] at hcheck
      obtain ⟨⟨hpad, hzero⟩, htail⟩ := hcheck
      have htake : rest.take ps = List.replicate ps 0xff :=
        List.eq_replicate_iff.mpr ⟨by rw [List.length_take]; omega, hpad⟩
      have hdrop : rest.drop ps = 0x00 :: rest.drop (ps + 1) := by
        rw [List.drop_eq_getElem_cons (by omega), ← hzero]
        simp [List.getD_eq_getElem?_getD, List.getElem?_eq_getElem (show ps < rest.length by omega)]
      rw [hencoding, ← hps, hstart.2.1, hstart.2.2, ← htake, ← htail, ← hdrop, List.take_append_drop]
  · intro hem
    rw [hem, hencoding]
    exact tlsCheckPkcs1Sha256_encoded (by omega) digest

/-! ## The signatures each accepts -/

/-- The verifier of `netstack.c` for a certificate with a SHA-256 signature: the signature may be
shorter than the modulus and has to be below it. -/
theorem tlsVerifyRsaSha256CertSignature_iff (halg : cert.signatureSha256Rsa = true)
    (hconsistent : cert.signatureAlgConsistent = true) (hsignature : cert.signatureBytes = some signature)
    (hmin : 62 ≤ n.length) (hmax : n.length ≤ tlsRsaMaxBytes) :
    tlsVerifyRsaSha256CertSignature cert n 65537 = true ↔
      signature.length ≤ n.length ∧ beNat signature < beNat n ∧
        beNat signature ^ 65537 % beNat n = beNat (emsaPkcs1v15Sha256 n.length cert.tbsDigest) := by
  have hguard : ¬ (n.length = 0 ∨ n.length > tlsRsaMaxBytes ∨ (65537 : UInt32) ≠ 65537 ∨
      !cert.signatureSha256Rsa ∨ !cert.signatureAlgConsistent) := by
    have hpos : n ≠ [] := by
      rintro rfl
      simp at hmin
    simp [halg, hconsistent, hpos, hmax]
  rw [tlsVerifyRsaSha256CertSignature, if_neg hguard, hsignature]
  dsimp only
  by_cases hlen : signature.length ≤ n.length
  · by_cases hlt : beNat signature < beNat n
    · obtain ⟨encoded, hencoded, hlength, hvalue⟩ := tlsRsaModexp65537_spec hlen hmax hlt
      have hem := length_emsaPkcs1v15Sha256 hmin cert.tbsDigest
      rw [hencoded]
      dsimp only
      rw [tlsCheckPkcs1Sha256_iff (by omega), hlength, ← hvalue]
      constructor
      · intro h
        exact ⟨hlen, hlt, congrArg beNat h⟩
      · rintro ⟨-, -, h⟩
        exact beNat_inj (hlength.trans hem.symm) h
    · have hpadded : (List.replicate (n.length - signature.length) 0 ++ signature).length = n.length := by
        simp
        omega
      have hge : rsaGeBytes (List.replicate (n.length - signature.length) 0 ++ signature) n = true := by
        rw [rsaGeBytes_iff hpadded, beNat_append, beNat_replicate_zero]
        omega
      rw [tlsRsaModexp65537, if_neg (by omega)]
      simp [hge, hlt]
  · rw [tlsRsaModexp65537, if_pos (by omega)]
    simp [hlen]

/-- Where the two verifiers agree.  They differ on the roots of the encoded digest that have the
modulus's length and are not below it, which `lib/rsa.c` accepts, and on those that are below it
with fewer bytes, which `netstack.c` accepts. -/
theorem rsaVerifiers_agree_iff (halg : cert.signatureSha256Rsa = true)
    (hconsistent : cert.signatureAlgConsistent = true) (hsignature : cert.signatureBytes = some signature)
    (hmin : 62 ≤ n.length) (hmax : n.length ≤ 256) :
    (tlsVerifyRsaSha256CertSignature cert n 65537 = true ↔
        rsaPkcs1v15Sha256Verify signature cert.tbsDigest n = 0) ↔
      (beNat signature ^ 65537 % rsaModulus n ≠ beNat (emsaPkcs1v15Sha256 n.length cert.tbsDigest) ∨
        if signature.length = n.length then beNat signature < beNat n
        else n.length < signature.length ∨ beNat n ≤ beNat signature) := by
  have hmodulus : beNat signature < beNat n → rsaModulus n = beNat n := fun hlt => if_neg (by omega)
  rw [tlsVerifyRsaSha256CertSignature_iff halg hconsistent hsignature hmin (by rw [tlsRsaMaxBytes]; omega),
    rsaPkcs1v15Sha256Verify_iff cert.tbsDigest hmin hmax]
  generalize beNat signature ^ 65537 = power
  by_cases hlt : beNat signature < beNat n
  · rw [hmodulus hlt]
    split <;> grind
  · split <;> grind

/-! ## Where they differ -/

/-- A certificate whose digest is zero, with the signature of `sampleSignature`. -/
def sampleSignedCert : TlsCertSummary :=
  { TlsCertSummary.zero with
    signatureAlgConsistent := true
    signatureSha256Rsa := true
    signatureBytes := some (beBytes 62 sampleSignature) }

/-- A valid signature plus the modulus: `lib/rsa.c` accepts it, `netstack.c` does not. -/
theorem rsaVerifiers_differ :
    rsaPkcs1v15Sha256Verify (beBytes 62 sampleSignature) sampleSignedCert.tbsDigest (beBytes 62 sampleModulus) = 0 ∧
      tlsVerifyRsaSha256CertSignature sampleSignedCert (beBytes 62 sampleModulus) 65537 = false := by
  have hn : beNat (beBytes 62 sampleModulus) = sampleModulus := beNat_beBytes (by decide)
  have hs : beNat (beBytes 62 sampleSignature) = sampleSignature := beNat_beBytes (by decide)
  constructor
  · rw [rsaPkcs1v15Sha256Verify_eq_zero_iff _ (by simp) (by simp [rsaMaxBytes]) (by rw [hn]; decide) (by simp), hn, hs,
      length_beBytes]
    exact sampleSignature_pow
  · rw [Bool.eq_false_iff, ne_eq,
      tlsVerifyRsaSha256CertSignature_iff rfl rfl rfl (by simp) (by simp [tlsRsaMaxBytes]), hn, hs]
    rintro ⟨-, hlt, -⟩
    exact absurd hlt (by decide)

/-- On the signature of zeros they agree. -/
theorem rsaVerifiers_agree_zero :
    tlsVerifyRsaSha256CertSignature { sampleSignedCert with signatureBytes := some (List.replicate 62 0) }
        (beBytes 62 sampleModulus) 65537 = true ↔
      rsaPkcs1v15Sha256Verify (List.replicate 62 0) sampleSignedCert.tbsDigest (beBytes 62 sampleModulus) = 0 := by
  have hn : beNat (beBytes 62 sampleModulus) = sampleModulus := beNat_beBytes (by decide)
  refine (@rsaVerifiers_agree_iff { sampleSignedCert with signatureBytes := some (List.replicate 62 0) } _ _
    rfl rfl rfl (by simp) (by simp)).mpr (.inr ?_)
  rw [if_pos (by simp), hn, beNat_replicate_zero]
  decide

end Orizon
