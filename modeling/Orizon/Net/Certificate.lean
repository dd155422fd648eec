import Orizon.Net.Asn1
import Orizon.Rsa.Modular
import Orizon.Sha256

/-!
# Orizon.Net.Certificate

The two readers of a certificate in `drivers/netstack.c`, and the signature
check on what they find.

* `tls_parse_certificate_names` fills a summary: the hashes of issuer, subject
  and signed part, the algorithms, the RSA key and the signature.
* `tls_parse_leaf_identity` looks for the subject alternative names and compares
  them with the host.

Each reads the DER on its own and gives up on its own conditions.  What only
the report of `tls_probe` prints is left out: lengths, names, dates and the
elliptic curves.
-/

namespace Orizon

/-! ## Names and keys -/

/-- `TLS_RSA_MAX_BYTES`. -/
def tlsRsaMaxBytes : Nat := 512

/-- The names of `tls_signature_oid_name`. -/
inductive TlsSignatureAlg
  | sha256Rsa
  | sha384Rsa
  | ecdsaSha256
  | ecdsaSha384
  | unknown
deriving DecidableEq, Repr

/-- `sha256_rsa`. -/
def tlsOidSha256Rsa : List UInt8 := [0x2a, 0x86, 0x48, 0x86, 0xf7, 0x0d, 0x01, 0x01, 0x0b]

/-- `tls_signature_oid_name`. -/
def tlsSignatureOidName (oid : List UInt8) : TlsSignatureAlg :=
  if oid = tlsOidSha256Rsa then .sha256Rsa
  else if oid = [0x2a, 0x86, 0x48, 0x86, 0xf7, 0x0d, 0x01, 0x01, 0x0c] then .sha384Rsa
  else if oid = [0x2a, 0x86, 0x48, 0xce, 0x3d, 0x04, 0x03, 0x02] then .ecdsaSha256
  else if oid = [0x2a, 0x86, 0x48, 0xce, 0x3d, 0x04, 0x03, 0x03] then .ecdsaSha384
  else .unknown

/-- `tls_public_key_oid_is_rsa`. -/
def tlsPublicKeyOidIsRsa (oid : List UInt8) : Bool :=
  oid == [0x2a, 0x86, 0x48, 0x86, 0xf7, 0x0d, 0x01, 0x01, 0x01]

/-- `tls_cert_summary_t`; the modulus and the signature are there once they are ready. -/
structure TlsCertSummary where
  subjectSha256 : List UInt8
  issuerSha256 : List UInt8
  signatureAlg : Option TlsSignatureAlg
  tbsSignatureAlg : Option TlsSignatureAlg
  signatureAlgConsistent : Bool
  signatureSha256Rsa : Bool
  publicKeyRsa : Bool
  rsaModulus : Option (List UInt8)
  rsaExponent : UInt32
  tbsDigest : Sha256Digest
  signatureBytes : Option (List UInt8)
deriving DecidableEq

/-- A cleared summary. -/
def TlsCertSummary.zero : TlsCertSummary where
  subjectSha256 := []
  issuerSha256 := []
  signatureAlg := none
  tbsSignatureAlg := none
  signatureAlgConsistent := false
  signatureSha256Rsa := false
  publicKeyRsa := false
  rsaModulus := none
  rsaExponent := 0
  tbsDigest := Vector.replicate 32 0
  signatureBytes := none

/-- `tls_parse_algorithm_identifier`: the object identifier; `params` when the caller
asks for the parameters, which then have to be readable. -/
def tlsParseAlgorithmIdentifier (m : List UInt8) (der : Asn1Span) (params : Bool) :
    Option Asn1Span := do
  let (oid, off) ← asn1Expect m der 0 0x06
  if params ∧ off < der.len then
    let _ ← asn1Next m der off
    some oid
  else some oid

/-- `tls_parse_small_uint`. -/
def tlsParseSmallUint (data : List UInt8) : UInt32 :=
  let data := data.dropWhile (· = 0)
  if data.length > 4 then 0
  else data.foldl (fun value b => (value <<< 8) ||| b.toUInt32) 0

/-- `tls_parse_rsa_public_key`: the summary is left as it is when the key cannot be read. -/
def tlsParseRsaPublicKey (m : List UInt8) (bitString : Asn1Span) (summary : TlsCertSummary) :
    TlsCertSummary :=
  if bitString.len < 2 ∨ bitString.byte m 0 ≠ 0 then summary
  else
    let key := do
      let (seq, _) ← asn1Expect m bitString 1 0x30
      let (modulus, p) ← asn1Expect m seq 0 0x02
      let (exponent, _) ← asn1Expect m seq p 0x02
      some (modulus.bytes m, exponent.bytes m)
    match key with
    | none => summary
    | some (modulus, exponent) =>
        let modulus := modulus.dropWhile (· = 0)
        { summary with
          rsaExponent := tlsParseSmallUint exponent
          rsaModulus := if 0 < modulus.length ∧ modulus.length ≤ tlsRsaMaxBytes then some modulus
            else summary.rsaModulus }

/-- `tls_parse_spki`. -/
def tlsParseSpki (m : List UInt8) (der : Asn1Span) (summary : TlsCertSummary) : TlsCertSummary :=
  match asn1Expect m der 0 0x30 with
  | none => summary
  | some (algSeq, off) =>
      match tlsParseAlgorithmIdentifier m algSeq true with
      | none => summary
      | some oid =>
          let summary := { summary with publicKeyRsa := tlsPublicKeyOidIsRsa (oid.bytes m) }
          match asn1Expect m der off 0x03 with
          | none => summary
          | some (spki, _) =>
              if summary.publicKeyRsa then tlsParseRsaPublicKey m spki summary else summary

/-- The optional version field at the start of the signed part: the offset after
it. -/
def tlsSkipVersion (m : List UInt8) (tbs : Asn1Span) : Option UInt64 :=
  if 0 < tbs.len ∧ tbs.byte m 0 = 0xa0 then (asn1Next m tbs 0).map fun r => r.2.2 else some 0

/-- The signature of a certificate after its algorithm. -/
def tlsCertSignature (m : List UInt8) (certSeq : Asn1Span) (off : UInt64) : Option (List UInt8) :=
  match asn1Expect m certSeq off 0x03 with
  | none => none
  | some (value, _) =>
      if value.len > 1 ∧ value.len - 1 ≤ UInt64.ofNat tlsRsaMaxBytes then
        some ((⟨value.pos + 1, value.len - 1⟩ : Asn1Span).bytes m)
      else none

/-- Where `tls_parse_certificate_names` finds the fields: the signed part with its
header, the inner algorithm, issuer, subject and key, the outer algorithm, and
the signature if there is one. -/
structure TlsCertFields where
  tbs : Asn1Span
  alg : Asn1Span
  issuer : Asn1Span
  subject : Asn1Span
  spki : Asn1Span
  outerAlg : Asn1Span
  signature : Option (List UInt8)
deriving DecidableEq

/-- The reads of `tls_parse_certificate_names`; `none` is -1. -/
def tlsCertificateFields (m : List UInt8) (cert : Asn1Span) : Option TlsCertFields := do
  let (certSeq, _) ← asn1Expect m cert 0 0x30
  let (tbs, certOff) ← asn1Expect m certSeq 0 0x30
  let p ← tlsSkipVersion m tbs
  let (_, _, p) ← asn1Next m tbs p
  let (alg, p) ← asn1Expect m tbs p 0x30
  let (issuer, p) ← asn1Expect m tbs p 0x30
  let (_, p) ← asn1Expect m tbs p 0x30
  let (subject, p) ← asn1Expect m tbs p 0x30
  let (spki, _) ← asn1Expect m tbs p 0x30
  let (outerAlg, sigOff) ← asn1Expect m certSeq certOff 0x30
  some ⟨⟨certSeq.pos, certOff⟩, alg, issuer, subject, spki, outerAlg,
    tlsCertSignature m certSeq sigOff⟩

/-- The name of the algorithm in an identifier. -/
def tlsSignatureAlg (m : List UInt8) (alg : Asn1Span) : Option TlsSignatureAlg :=
  (tlsParseAlgorithmIdentifier m alg false).map fun oid => tlsSignatureOidName (oid.bytes m)

/-- The summary of the fields. -/
def tlsCertSummary (m : List UInt8) (f : TlsCertFields) : TlsCertSummary :=
  let tbsSignatureAlg := tlsSignatureAlg m f.alg
  let signatureAlg := tlsSignatureAlg m f.outerAlg
  { tlsParseSpki m f.spki TlsCertSummary.zero with
    tbsDigest := sha256Buffer (f.tbs.bytes m)
    issuerSha256 := sha256BufferHex (f.issuer.bytes m)
    subjectSha256 := sha256BufferHex (f.subject.bytes m)
    tbsSignatureAlg := tbsSignatureAlg
    signatureAlg := signatureAlg
    signatureSha256Rsa := signatureAlg == some .sha256Rsa
    signatureAlgConsistent := signatureAlg.isSome && signatureAlg != some .unknown &&
      signatureAlg == tbsSignatureAlg
    signatureBytes := f.signature }

/-- `tls_parse_certificate_names`; `none` is -1. -/
def tlsParseCertificateNames (m : List UInt8) (cert : Asn1Span) : Option TlsCertSummary :=
  (tlsCertificateFields m cert).map (tlsCertSummary m)

/-! ## The identity of the leaf -/

/-- `lower_ascii`. -/
def lowerAscii (c : UInt8) : UInt8 := if 65 ≤ c ∧ c ≤ 90 then c - 65 + 97 else c

/-- The `n` characters of `host` from `start` are, up to case, those of the span
from `off`. -/
def tlsSameSpan (m : List UInt8) (host : List UInt8) (start n : Nat) (dns : Asn1Span)
    (off : UInt64) : Bool :=
  (List.range n).all fun i =>
    lowerAscii (host.getD (start + i) 0) == lowerAscii (dns.byte m (off + UInt64.ofNat i))

/-- `tls_dns_name_matches` for a host without its terminator. -/
def tlsDnsNameMatches (m : List UInt8) (host : List UInt8) (dns : Asn1Span) : Bool :=
  if dns.len = 0 then false
  else if dns.len > 2 ∧ dns.byte m 0 = 42 ∧ dns.byte m 1 = 46 then
    -- `*.`: one label of the host stands for the star
    let suffixLen := (dns.len - 1).toNat
    if host.length ≤ suffixLen then false
    else
      let prefixLen := host.length - suffixLen
      tlsSameSpan m host prefixLen suffixLen dns 1 && (host.take prefixLen).all (· != 46)
  else host.length == dns.len.toNat && tlsSameSpan m host 0 host.length dns 0

/-- The loop of `tls_parse_subject_alt_names`; `none` when it does not end.  Every
round that reads within the message is at an offset of its own. -/
def tlsSubjectAltNamesLoop (m host : List UInt8) (seq : Asn1Span) :
    Nat → UInt64 → Bool → Option Bool
  | 0, _, _ => none
  | fuel + 1, p, found =>
      if p < seq.len then
        match asn1Next m seq p with
        | none => some found
        | some (tag, name, p) =>
            tlsSubjectAltNamesLoop m host seq fuel p
              (found || (tag == 0x82 && tlsDnsNameMatches m host name))
      else some found

/-- `tls_parse_subject_alt_names`: whether a name has matched. -/
def tlsParseSubjectAltNames (m host : List UInt8) (der : Asn1Span) (found : Bool) : Option Bool :=
  match asn1Expect m der 0 0x30 with
  | none => some found
  | some (seq, _) => tlsSubjectAltNamesLoop m host seq (m.length + 1) 0 found

/-- The value of one extension when it is `subjectAltName`.  A `critical` flag is
skipped, also when it cannot be read. -/
def tlsSanValue (m : List UInt8) (ext : Asn1Span) : Option Asn1Span := do
  let (oid, e) ← asn1Expect m ext 0 0x06
  let e := if e < ext.len ∧ ext.byte m e = 0x01 then (asn1ReadTlv m ext e).off else e
  let (value, _) ← asn1Expect m ext e 0x04
  if oid.bytes m = [0x55, 0x1d, 0x11] then some value else none

/-- The loop of `tls_parse_certificate_extensions`. -/
def tlsExtensionsLoop (m host : List UInt8) (seq : Asn1Span) : Nat → UInt64 → Bool → Option Bool
  | 0, _, _ => none
  | fuel + 1, p, found =>
      if p < seq.len then
        match asn1Expect m seq p 0x30 with
        | none => some found
        | some (ext, p) =>
            match tlsSanValue m ext with
            | none => tlsExtensionsLoop m host seq fuel p found
            | some value =>
                match tlsParseSubjectAltNames m host value found with
                | none => none
                | some found => tlsExtensionsLoop m host seq fuel p found
      else some found

/-- `tls_parse_certificate_extensions`. -/
def tlsParseCertificateExtensions (m host : List UInt8) (der : Asn1Span) : Option Bool :=
  match asn1Expect m der 0 0x30 with
  | none => some false
  | some (seq, _) => tlsExtensionsLoop m host seq (m.length + 1) 0 false

/-- `leaf_identity_parsed` and `leaf_identity_match`. -/
structure TlsLeafIdentity where
  parsed : Bool
  matched : Bool
deriving DecidableEq, Repr

/-- The loop of `tls_parse_leaf_identity` that looks for the extensions. -/
def tlsLeafIdentityLoop (m host : List UInt8) (tbs : Asn1Span) :
    Nat → UInt64 → Option TlsLeafIdentity
  | 0, _ => none
  | fuel + 1, p =>
      if p < tbs.len then
        match asn1Next m tbs p with
        | none => some ⟨false, false⟩
        | some (tag, value, p) =>
            if tag = 0xa3 then
              (tlsParseCertificateExtensions m host value).map fun found => ⟨true, found⟩
            else tlsLeafIdentityLoop m host tbs fuel p
      else some ⟨true, false⟩

/-- The fields of the signed part before the extensions: three of any kind, the
validity, two of any kind. -/
def tlsLeafIdentityStart (m : List UInt8) (cert : Asn1Span) : Option (Asn1Span × UInt64) := do
  let (certSeq, _) ← asn1Expect m cert 0 0x30
  let (tbs, _) ← asn1Expect m certSeq 0 0x30
  let p ← tlsSkipVersion m tbs
  let (_, _, p) ← asn1Next m tbs p
  let (_, _, p) ← asn1Next m tbs p
  let (_, _, p) ← asn1Next m tbs p
  let (_, p) ← asn1Expect m tbs p 0x30
  let (_, _, p) ← asn1Next m tbs p
  let (_, _, p) ← asn1Next m tbs p
  some (tbs, p)

/-- `tls_parse_leaf_identity` of a cleared `tls_parse_info_t`; `none` when it does not
end. -/
def tlsParseLeafIdentity (m host : List UInt8) (cert : Asn1Span) : Option TlsLeafIdentity :=
  match tlsLeafIdentityStart m cert with
  | none => some ⟨false, false⟩
  | some (tbs, p) => tlsLeafIdentityLoop m host tbs (m.length + 1) p

/-! ## Signatures -/

/-- `rsa_modexp65537` of this file, whose byte arithmetic is that of `lib/rsa.c` with
larger buffers; `none` is -1. -/
def tlsRsaModexp65537 (sig mod : List UInt8) : Option (List UInt8) :=
  if mod.length = 0 ∨ mod.length > tlsRsaMaxBytes ∨ sig.length > mod.length then none
  else
    let base := List.replicate (mod.length - sig.length) 0 ++ sig
    if rsaGeBytes base mod then none
    else
      let result := (List.range 16).foldl (fun result _ => rsaMulMod result result mod) base
      some (rsaMulMod result base mod)

/-- `sha256_digest_info_prefix`. -/
def tlsDigestInfoPrefix : List UInt8 :=
  [0x30, 0x31, 0x30, 0x0d, 0x06, 0x09, 0x60, 0x86, 0x48, 0x01, 0x65, 0x03, 0x04, 0x02, 0x01,
    0x05, 0x00, 0x04, 0x20]

/-- `tls_check_pkcs1_sha256`. -/
def tlsCheckPkcs1Sha256 (em : List UInt8) (digest : Sha256Digest) : Bool :=
  let tailLen := tlsDigestInfoPrefix.length + 32
  if em.length < 3 + 8 + tailLen ∨ em.getD 0 0 ≠ 0 ∨ em.getD 1 0 ≠ 1 then false
  else
    let psLen := em.length - 3 - tailLen
    ((em.drop 2).take psLen).all (· == 0xff) && em.getD (2 + psLen) 0 == 0 &&
      em.drop (3 + psLen) == tlsDigestInfoPrefix ++ digest.toList

/-- `tls_verify_rsa_sha256_cert_signature` returns 0. -/
def tlsVerifyRsaSha256CertSignature (cert : TlsCertSummary) (modulus : List UInt8)
    (exponent : UInt32) : Bool :=
  if modulus.length = 0 ∨ modulus.length > tlsRsaMaxBytes ∨ exponent ≠ 65537 ∨
      !cert.signatureSha256Rsa ∨ !cert.signatureAlgConsistent then false
  else
    match cert.signatureBytes with
    | none => false
    | some signature =>
        match tlsRsaModexp65537 signature modulus with
        | none => false
        | some encoded => tlsCheckPkcs1Sha256 encoded cert.tbsDigest

/-- `tls_verify_leaf_signature` of two summaries. -/
def tlsVerifyLeafSignature (leaf issuer : TlsCertSummary) : Bool :=
  match issuer.rsaModulus with
  | none => false
  | some modulus =>
      issuer.publicKeyRsa && issuer.rsaExponent == 65537 &&
        tlsVerifyRsaSha256CertSignature leaf modulus issuer.rsaExponent

/-- The signature representative is raised to 65537 when it is below the modulus. -/
theorem tlsRsaModexp65537_spec {sig mod : List UInt8} (hlen : sig.length ≤ mod.length)
    (hmax : mod.length ≤ tlsRsaMaxBytes) (hlt : beNat sig < beNat mod) :
    ∃ out, tlsRsaModexp65537 sig mod = some out ∧ out.length = mod.length ∧
      beNat out = beNat sig ^ 65537 % beNat mod := by
  obtain ⟨base, hbase⟩ : ∃ base, base = List.replicate (mod.length - sig.length) 0 ++ sig :=
    ⟨_, rfl⟩
  have hbaseLen : base.length = mod.length := by
    simp [hbase]
    omega
  have hbaseVal : beNat base = beNat sig := by
    rw [hbase, beNat_append, beNat_replicate_zero, Nat.zero_mul, Nat.zero_add]
  have hres : Residue mod ((beNat sig : ZMod (beNat mod)) ^ 2 ^ 0) base := by
    have := Residue.of_lt hbaseLen (by rwa [hbaseVal])
    rwa [hbaseVal, ← pow_one (beNat sig : ZMod (beNat mod))] at this
  have hsquare : ∀ k, Residue mod ((beNat sig : ZMod (beNat mod)) ^ 2 ^ k)
      ((List.range k).foldl (fun result _ => rsaMulMod result result mod) base) := by
    intro k
    induction k with
    | zero => exact hres
    | succ k ih =>
        rw [List.range_succ, List.foldl_append, pow_succ, mul_two, pow_add]
        exact ih.mul ih
  have hmul := (hsquare 16).mul hres
  have hpow : (beNat sig : ZMod (beNat mod)) ^ 2 ^ 16 * (beNat sig : ZMod (beNat mod)) ^ 2 ^ 0 =
      ((beNat sig ^ 65537 : Nat) : ZMod (beNat mod)) := by
    rw [← pow_add]
    norm_cast
  rw [hpow] at hmul
  have hge : ¬ rsaGeBytes base mod = true := by
    rw [rsaGeBytes_iff hbaseLen]
    omega
  have hpos : mod.length ≠ 0 := by
    intro hzero
    rw [List.length_eq_zero_iff.mp hzero] at hlt
    simp at hlt
  refine ⟨_, ?_, hmul.length_eq, hmul.beNat_eq⟩
  rw [tlsRsaModexp65537, if_neg (by omega), ← hbase]
  simp [hge]

theorem tlsCheckPkcs1Sha256_encoded {k : Nat} (hk : 8 ≤ k) (digest : Sha256Digest) :
    tlsCheckPkcs1Sha256 (0x00 :: 0x01 :: (List.replicate k 0xff ++
      (0x00 :: (tlsDigestInfoPrefix ++ digest.toList)))) digest = true := by
  have hpre : tlsDigestInfoPrefix.length = 19 := rfl
  have hlen : (0x00 :: 0x01 :: (List.replicate k (0xff : UInt8) ++
      (0x00 :: (tlsDigestInfoPrefix ++ digest.toList)))).length = k + 54 := by
    simp [hpre]
  have hps : k + 54 - 3 - (19 + 32) = k := by omega
  rw [tlsCheckPkcs1Sha256, hlen, hpre]
  simp only [hps, Nat.add_comm 2 k, Nat.add_comm 3 k]
  rw [if_neg (by simp; omega)]
  simp [List.getD_eq_getElem?_getD, List.drop_append]

end Orizon
