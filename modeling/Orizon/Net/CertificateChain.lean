import Orizon.Lib.PowMod
import Orizon.Net.Certificate

/-!
# Orizon.Net.CertificateChain

The `Certificate` message of `drivers/netstack.c`: `tls_parse_certificate`, which
fills the certificate slots and reads the identity of the leaf, the two
signature checks, and `tls_policy_failure`.

The identity is read from the first entry of the message, the signatures are
checked between the first two entries that `tls_parse_certificate_names`
accepts.  So all checks are about one leaf exactly when it accepts the first two
entries (`tlsParseCertificate_sameLeaf_iff`); an entry that has an identity but
no names slips in front of a chain that belongs to somebody else
(`tlsParseCertificate_other_leaf`).
-/

namespace Orizon

/-- `TLS_MAX_CERT_SUMMARIES`. -/
def tlsMaxCertSummaries : Nat := 4

/-- `tls_root_isrg_x1_subject_sha256`. -/
def tlsRootIsrgX1SubjectSha256 : List UInt8 :=
  asciiBytes "bd4d0c449b6e9aa74dce4b9d68b0cd54c042bc67e6ffedc2ecf2bf8479c951d4"

/-- `tls_root_isrg_x1_n`. -/
def tlsRootIsrgX1N : List UInt8 :=
  [0xad, 0xe8, 0x24, 0x73, 0xf4, 0x14, 0x37, 0xf3, 0x9b, 0x9e, 0x2b, 0x57, 0x28, 0x1c, 0x87, 0xbe,
   0xdc, 0xb7, 0xdf, 0x38, 0x90, 0x8c, 0x6e, 0x3c, 0xe6, 0x57, 0xa0, 0x78, 0xf7, 0x75, 0xc2, 0xa2,
   0xfe, 0xf5, 0x6a, 0x6e, 0xf6, 0x00, 0x4f, 0x28, 0xdb, 0xde, 0x68, 0x86, 0x6c, 0x44, 0x93, 0xb6,
   0xb1, 0x63, 0xfd, 0x14, 0x12, 0x6b, 0xbf, 0x1f, 0xd2, 0xea, 0x31, 0x9b, 0x21, 0x7e, 0xd1, 0x33,
   0x3c, 0xba, 0x48, 0xf5, 0xdd, 0x79, 0xdf, 0xb3, 0xb8, 0xff, 0x12, 0xf1, 0x21, 0x9a, 0x4b, 0xc1,
   0x8a, 0x86, 0x71, 0x69, 0x4a, 0x66, 0x66, 0x6c, 0x8f, 0x7e, 0x3c, 0x70, 0xbf, 0xad, 0x29, 0x22,
   0x06, 0xf3, 0xe4, 0xc0, 0xe6, 0x80, 0xae, 0xe2, 0x4b, 0x8f, 0xb7, 0x99, 0x7e, 0x94, 0x03, 0x9f,
   0xd3, 0x47, 0x97, 0x7c, 0x99, 0x48, 0x23, 0x53, 0xe8, 0x38, 0xae, 0x4f, 0x0a, 0x6f, 0x83, 0x2e,
   0xd1, 0x49, 0x57, 0x8c, 0x80, 0x74, 0xb6, 0xda, 0x2f, 0xd0, 0x38, 0x8d, 0x7b, 0x03, 0x70, 0x21,
   0x1b, 0x75, 0xf2, 0x30, 0x3c, 0xfa, 0x8f, 0xae, 0xdd, 0xda, 0x63, 0xab, 0xeb, 0x16, 0x4f, 0xc2,
   0x8e, 0x11, 0x4b, 0x7e, 0xcf, 0x0b, 0xe8, 0xff, 0xb5, 0x77, 0x2e, 0xf4, 0xb2, 0x7b, 0x4a, 0xe0,
   0x4c, 0x12, 0x25, 0x0c, 0x70, 0x8d, 0x03, 0x29, 0xa0, 0xe1, 0x53, 0x24, 0xec, 0x13, 0xd9, 0xee,
   0x19, 0xbf, 0x10, 0xb3, 0x4a, 0x8c, 0x3f, 0x89, 0xa3, 0x61, 0x51, 0xde, 0xac, 0x87, 0x07, 0x94,
   0xf4, 0x63, 0x71, 0xec, 0x2e, 0xe2, 0x6f, 0x5b, 0x98, 0x81, 0xe1, 0x89, 0x5c, 0x34, 0x79, 0x6c,
   0x76, 0xef, 0x3b, 0x90, 0x62, 0x79, 0xe6, 0xdb, 0xa4, 0x9a, 0x2f, 0x26, 0xc5, 0xd0, 0x10, 0xe1,
   0x0e, 0xde, 0xd9, 0x10, 0x8e, 0x16, 0xfb, 0xb7, 0xf7, 0xa8, 0xf7, 0xc7, 0xe5, 0x02, 0x07, 0x98,
   0x8f, 0x36, 0x08, 0x95, 0xe7, 0xe2, 0x37, 0x96, 0x0d, 0x36, 0x75, 0x9e, 0xfb, 0x0e, 0x72, 0xb1,
   0x1d, 0x9b, 0xbc, 0x03, 0xf9, 0x49, 0x05, 0xd8, 0x81, 0xdd, 0x05, 0xb4, 0x2a, 0xd6, 0x41, 0xe9,
   0xac, 0x01, 0x76, 0x95, 0x0a, 0x0f, 0xd8, 0xdf, 0xd5, 0xbd, 0x12, 0x1f, 0x35, 0x2f, 0x28, 0x17,
   0x6c, 0xd2, 0x98, 0xc1, 0xa8, 0x09, 0x64, 0x77, 0x6e, 0x47, 0x37, 0xba, 0xce, 0xac, 0x59, 0x5e,
   0x68, 0x9d, 0x7f, 0x72, 0xd6, 0x89, 0xc5, 0x06, 0x41, 0x29, 0x3e, 0x59, 0x3e, 0xdd, 0x26, 0xf5,
   0x24, 0xc9, 0x11, 0xa7, 0x5a, 0xa3, 0x4c, 0x40, 0x1f, 0x46, 0xa1, 0x99, 0xb5, 0xa7, 0x3a, 0x51,
   0x6e, 0x86, 0x3b, 0x9e, 0x7d, 0x72, 0xa7, 0x12, 0x05, 0x78, 0x59, 0xed, 0x3e, 0x51, 0x78, 0x15,
   0x0b, 0x03, 0x8f, 0x8d, 0xd0, 0x2f, 0x05, 0xb2, 0x3e, 0x7b, 0x4a, 0x1c, 0x4b, 0x73, 0x05, 0x12,
   0xfc, 0xc6, 0xea, 0xe0, 0x50, 0x13, 0x7c, 0x43, 0x93, 0x74, 0xb3, 0xca, 0x74, 0xe7, 0x8e, 0x1f,
   0x01, 0x08, 0xd0, 0x30, 0xd4, 0x5b, 0x71, 0x36, 0xb4, 0x07, 0xba, 0xc1, 0x30, 0x30, 0x5c, 0x48,
   0xb7, 0x82, 0x3b, 0x98, 0xa6, 0x7d, 0x60, 0x8a, 0xa2, 0xa3, 0x29, 0x82, 0xcc, 0xba, 0xbd, 0x83,
   0x04, 0x1b, 0xa2, 0x83, 0x03, 0x41, 0xa1, 0xd6, 0x05, 0xf1, 0x1b, 0xc2, 0xb6, 0xf0, 0xa8, 0x7c,
   0x86, 0x3b, 0x46, 0xa8, 0x48, 0x2a, 0x88, 0xdc, 0x76, 0x9a, 0x76, 0xbf, 0x1f, 0x6a, 0xa5, 0x3d,
   0x19, 0x8f, 0xeb, 0x38, 0xf3, 0x64, 0xde, 0xc8, 0x2b, 0x0d, 0x0a, 0x28, 0xff, 0xf7, 0xdb, 0xe2,
   0x15, 0x42, 0xd4, 0x22, 0xd0, 0x27, 0x5d, 0xe1, 0x79, 0xfe, 0x18, 0xe7, 0x70, 0x88, 0xad, 0x4e,
   0xe6, 0xd9, 0x8b, 0x3a, 0xc6, 0xdd, 0x27, 0x51, 0x6e, 0xff, 0xbc, 0x64, 0xf5, 0x33, 0x43, 0x4f]

/-- The certificate fields of `tls_parse_info_t`. -/
structure TlsCertInfo where
  certificateSeen : Bool
  certificateCount : Nat
  certs : List TlsCertSummary
  chainLinksChecked : Nat
  chainLinksOk : Nat
  leafIdentityParsed : Bool
  leafIdentityMatch : Bool
  leafSignatureVerified : Bool
  rootTrustVerified : Bool
deriving DecidableEq

/-- The fields cleared by `memset`. -/
def TlsCertInfo.zero : TlsCertInfo := ⟨false, 0, [], 0, 0, false, false, false, false⟩

/-- `get_be24` of the three bytes from `off`. -/
def getBe24 (p : List UInt8) (off : Nat) : Nat :=
  (p.getD off 0).toNat * 65536 + (p.getD (off + 1) 0).toNat * 256 + (p.getD (off + 2) 0).toNat

/-- The entries of the message body from `p` to `last`. -/
def tlsCertificateEntriesFrom (body : List UInt8) (last : Nat) : Nat → Nat → List Asn1Span
  | 0, _ => []
  | fuel + 1, p =>
      if p + 3 > last then []
      else
        let certLen := getBe24 body p
        if p + 3 + certLen > last then []
        else ⟨UInt64.ofNat (p + 3), UInt64.ofNat certLen⟩ ::
          tlsCertificateEntriesFrom body last fuel (p + 3 + certLen)

/-- The entries of a `Certificate` message: the certificates `tls_parse_certificate` visits. -/
def tlsCertificateEntries (body : List UInt8) : List Asn1Span :=
  if body.length < 3 ∨ 3 + getBe24 body 0 > body.length then []
  else tlsCertificateEntriesFrom body (3 + getBe24 body 0) body.length 3

/-- The summary of one entry is put into the next free slot. -/
def tlsAddSummary (info : TlsCertInfo) (summary : Option TlsCertSummary) : TlsCertInfo :=
  match summary with
  | none => info
  | some cert =>
      if info.certs.length < tlsMaxCertSummaries then
        match info.certs.getLast? with
        | none => { info with certs := info.certs ++ [cert] }
        | some child =>
            { info with
              certs := info.certs ++ [cert]
              chainLinksChecked := info.chainLinksChecked + 1
              chainLinksOk := info.chainLinksOk +
                if child.issuerSha256 = cert.subjectSha256 then 1 else 0 }
      else info

/-- One entry of the loop; the first one gives the identity of the leaf. -/
def tlsAddCertificate (host body : List UInt8) (info : TlsCertInfo) (cert : Asn1Span) :
    Option TlsCertInfo :=
  let info := tlsAddSummary info (tlsParseCertificateNames body cert)
  if info.certificateCount = 0 then
    (tlsParseLeafIdentity body host cert).map fun identity =>
      { info with
        leafIdentityParsed := identity.parsed
        leafIdentityMatch := identity.matched
        certificateCount := 1 }
  else some { info with certificateCount := info.certificateCount + 1 }

/-- `tls_verify_root_trust` of the issuer. -/
def tlsVerifyRootTrust (issuer : TlsCertSummary) : Bool :=
  issuer.issuerSha256 == tlsRootIsrgX1SubjectSha256 &&
    tlsVerifyRsaSha256CertSignature issuer tlsRootIsrgX1N 65537

/-- The end of `tls_parse_certificate`: `tls_verify_leaf_signature` and
`tls_verify_root_trust`. -/
def tlsVerifyCertificates (info : TlsCertInfo) : TlsCertInfo :=
  if info.certificateCount = 0 then info
  else
    match info.certs with
    | leaf :: issuer :: _ =>
        { info with
          certificateSeen := true
          leafSignatureVerified := info.leafSignatureVerified || tlsVerifyLeafSignature leaf issuer
          rootTrustVerified := info.rootTrustVerified || tlsVerifyRootTrust issuer }
    | _ => { info with certificateSeen := true }

/-- `tls_parse_certificate`; `none` when it does not end. -/
def tlsParseCertificate (host body : List UInt8) (info : TlsCertInfo) : Option TlsCertInfo :=
  ((tlsCertificateEntries body).foldlM (tlsAddCertificate host body) info).map
    tlsVerifyCertificates

/-- `tls_policy_failure`. -/
def tlsPolicyFailure (info : TlsCertInfo) : Option String :=
  if !info.certificateSeen then some "tls certificate missing"
  else if !info.leafIdentityParsed || !info.leafIdentityMatch then
    some "tls host identity mismatch"
  else if info.chainLinksChecked = 0 ∨ info.chainLinksOk ≠ info.chainLinksChecked then
    some "tls certificate chain link mismatch"
  else if !info.leafSignatureVerified then some "tls leaf signature not verified"
  else if !info.rootTrustVerified then some "tls root trust not verified"
  else none

/-! ## One leaf for all checks -/

/-- The first entry is the leaf: it has the name of the host, its signature was
verified with the key of the second entry, and that one is signed by the
trusted root. -/
def TlsSameLeaf (host body : List UInt8) (info : TlsCertInfo) : Prop :=
  ∃ leaf issuer rest leafCert issuerCert,
    tlsCertificateEntries body = leaf :: issuer :: rest ∧
    tlsParseCertificateNames body leaf = some leafCert ∧
    tlsParseCertificateNames body issuer = some issuerCert ∧
    info.certs[0]? = some leafCert ∧ info.certs[1]? = some issuerCert ∧
    tlsParseLeafIdentity body host leaf = some ⟨true, true⟩ ∧
    tlsVerifyLeafSignature leafCert issuerCert = true ∧ tlsVerifyRootTrust issuerCert = true

/-- `tls_parse_certificate_names` accepts the first two entries of the message. -/
def TlsFirstTwoAccepted (body : List UInt8) : Prop :=
  ∃ leaf issuer rest, tlsCertificateEntries body = leaf :: issuer :: rest ∧
    (tlsParseCertificateNames body leaf).isSome ∧ (tlsParseCertificateNames body issuer).isSome

/-- The first two slots and the identity are filled, and nothing is verified yet. -/
structure TlsCertInfo.Filled (info : TlsCertInfo) (leaf issuer : TlsCertSummary)
    (identity : TlsLeafIdentity) : Prop where
  slots : [leaf, issuer] <+: info.certs
  parsed : info.leafIdentityParsed = identity.parsed
  matched : info.leafIdentityMatch = identity.matched
  count : info.certificateCount ≠ 0
  leafOpen : info.leafSignatureVerified = false
  rootOpen : info.rootTrustVerified = false

variable {host body : List UInt8} {info info' : TlsCertInfo} {leaf issuer : TlsCertSummary}
  {identity : TlsLeafIdentity}

theorem TlsCertInfo.Filled.addCertificate (h : info.Filled leaf issuer identity) {cert : Asn1Span}
    (hadd : tlsAddCertificate host body info cert = some info') :
    info'.Filled leaf issuer identity := by
  obtain ⟨hslots, hparsed, hmatched, hcount, hleaf, hroot⟩ := h
  have hsame : ∀ summary, (tlsAddSummary info summary).certificateCount = info.certificateCount ∧
      info.certs <+: (tlsAddSummary info summary).certs ∧
      (tlsAddSummary info summary).leafIdentityParsed = info.leafIdentityParsed ∧
      (tlsAddSummary info summary).leafIdentityMatch = info.leafIdentityMatch ∧
      (tlsAddSummary info summary).leafSignatureVerified = info.leafSignatureVerified ∧
      (tlsAddSummary info summary).rootTrustVerified = info.rootTrustVerified := by
    intro summary
    unfold tlsAddSummary
    split
    · simp
    split
    · split <;> simp
    · simp
  obtain ⟨hcount', hcerts, hp, hm, hl, hr⟩ := hsame (tlsParseCertificateNames body cert)
  simp only [tlsAddCertificate, hcount', if_neg hcount, Option.some.injEq] at hadd
  subst hadd
  exact ⟨hslots.trans hcerts, hp.trans hparsed, hm.trans hmatched, by simp, hl.trans hleaf,
    hr.trans hroot⟩

theorem TlsCertInfo.Filled.entries (h : info.Filled leaf issuer identity) {certs : List Asn1Span}
    (hadd : certs.foldlM (tlsAddCertificate host body) info = some info') :
    info'.Filled leaf issuer identity := by
  induction certs generalizing info with
  | nil =>
      obtain rfl : info = info' := by simpa using hadd
      exact h
  | cons cert certs ih =>
      rw [List.foldlM_cons] at hadd
      obtain ⟨next, hnext, hrest⟩ := Option.bind_eq_some_iff.mp hadd
      exact ih (h.addCertificate hnext) hrest

theorem tlsAddCertificate_two {first second : Asn1Span} {next : TlsCertInfo}
    (hleaf : tlsParseCertificateNames body first = some leaf)
    (hissuer : tlsParseCertificateNames body second = some issuer)
    (hfirst : tlsAddCertificate host body .zero first = some next)
    (hsecond : tlsAddCertificate host body next second = some info) :
    ∃ identity, tlsParseLeafIdentity body host first = some identity ∧
      info.Filled leaf issuer identity := by
  rw [tlsAddCertificate, hleaf] at hfirst
  have hmap : (tlsParseLeafIdentity body host first).map (fun identity : TlsLeafIdentity =>
      (⟨false, 1, [leaf], 0, 0, identity.parsed, identity.matched, false, false⟩ : TlsCertInfo)) =
        some next := hfirst
  obtain ⟨identity, hidentity, rfl⟩ := Option.map_eq_some_iff.mp hmap
  rw [tlsAddCertificate, hissuer] at hsecond
  have hinfo : some (⟨false, 2, [leaf, issuer], 1,
      if leaf.issuerSha256 = issuer.subjectSha256 then 1 else 0, identity.parsed,
      identity.matched, false, false⟩ : TlsCertInfo) = some info := by
    rw [← hsecond]
    simp [tlsAddSummary, tlsMaxCertSummaries]
  obtain rfl := Option.some.inj hinfo
  exact ⟨identity, hidentity, by simp, rfl, rfl, by simp, rfl, rfl⟩

/-- For every message that the policy lets pass: the checks are about one leaf
exactly when the first two entries are accepted by the reader of names. -/
theorem tlsParseCertificate_sameLeaf_iff (host body : List UInt8) (info : TlsCertInfo)
    (hparse : tlsParseCertificate host body .zero = some info)
    (hpolicy : tlsPolicyFailure info = none) :
    TlsSameLeaf host body info ↔ TlsFirstTwoAccepted body := by
  constructor
  · rintro ⟨leaf, issuer, rest, leafCert, issuerCert, hentries, hleaf, hissuer, -⟩
    exact ⟨leaf, issuer, rest, hentries, by simp [hleaf], by simp [hissuer]⟩
  · rintro ⟨leaf, issuer, rest, hentries, hleaf, hissuer⟩
    obtain ⟨leafCert, hleaf⟩ := Option.isSome_iff_exists.mp hleaf
    obtain ⟨issuerCert, hissuer⟩ := Option.isSome_iff_exists.mp hissuer
    obtain ⟨filled, hfold, rfl⟩ := Option.map_eq_some_iff.mp hparse
    rw [hentries, List.foldlM_cons] at hfold
    obtain ⟨first, hfirst, hfold⟩ := Option.bind_eq_some_iff.mp hfold
    rw [List.foldlM_cons] at hfold
    obtain ⟨second, hsecond, hfold⟩ := Option.bind_eq_some_iff.mp hfold
    obtain ⟨identity, hidentity, htwo⟩ := tlsAddCertificate_two hleaf hissuer hfirst hsecond
    have hfilled := htwo.entries hfold
    obtain ⟨more, hcerts⟩ := hfilled.slots
    have hverify : tlsVerifyCertificates filled = { filled with
        certificateSeen := true
        leafSignatureVerified := tlsVerifyLeafSignature leafCert issuerCert
        rootTrustVerified := tlsVerifyRootTrust issuerCert } := by
      rw [tlsVerifyCertificates, if_neg hfilled.count, ← hcerts]
      simp [hfilled.leafOpen, hfilled.rootOpen]
    rw [hverify] at hpolicy ⊢
    simp only [tlsPolicyFailure, hfilled.parsed, hfilled.matched] at hpolicy
    refine ⟨leaf, issuer, rest, leafCert, issuerCert, hentries, hleaf, hissuer, ?_, ?_, ?_, ?_, ?_⟩
    · simp [← hcerts]
    · simp [← hcerts]
    · rw [hidentity]
      grind [TlsLeafIdentity]
    · grind
    · grind

/-! ## A leaf in front of another chain -/

/-- The host the updater asks. -/
def sampleHost : List UInt8 := asciiBytes "raw.githubusercontent.com"

/-- The signed part of the certificate of the trusted root. -/
def sampleRootTbs : List UInt8 :=
  [0x30, 0x82, 0x03, 0x53, 0xa0, 0x03, 0x02, 0x01, 0x02, 0x02, 0x11, 0x00, 0x82, 0x10, 0xcf, 0xb0,
   0xd2, 0x40, 0xe3, 0x59, 0x44, 0x63, 0xe0, 0xbb, 0x63, 0x82, 0x8b, 0x00, 0x30, 0x0d, 0x06, 0x09,
   0x2a, 0x86, 0x48, 0x86, 0xf7, 0x0d, 0x01, 0x01, 0x0b, 0x05, 0x00, 0x30, 0x4f, 0x31, 0x0b, 0x30,
   0x09, 0x06, 0x03, 0x55, 0x04, 0x06, 0x13, 0x02, 0x55, 0x53, 0x31, 0x29, 0x30, 0x27, 0x06, 0x03,
   0x55, 0x04, 0x0a, 0x13, 0x20, 0x49, 0x6e, 0x74, 0x65, 0x72, 0x6e, 0x65, 0x74, 0x20, 0x53, 0x65,
   0x63, 0x75, 0x72, 0x69, 0x74, 0x79, 0x20, 0x52, 0x65, 0x73, 0x65, 0x61, 0x72, 0x63, 0x68, 0x20,
   0x47, 0x72, 0x6f, 0x75, 0x70, 0x31, 0x15, 0x30, 0x13, 0x06, 0x03, 0x55, 0x04, 0x03, 0x13, 0x0c,
   0x49, 0x53, 0x52, 0x47, 0x20, 0x52, 0x6f, 0x6f, 0x74, 0x20, 0x58, 0x31, 0x30, 0x1e, 0x17, 0x0d,
   0x31, 0x35, 0x30, 0x36, 0x30, 0x34, 0x31, 0x31, 0x30, 0x34, 0x33, 0x38, 0x5a, 0x17, 0x0d, 0x33,
   0x35, 0x30, 0x36, 0x30, 0x34, 0x31, 0x31, 0x30, 0x34, 0x33, 0x38, 0x5a, 0x30, 0x4f, 0x31, 0x0b,
   0x30, 0x09, 0x06, 0x03, 0x55, 0x04, 0x06, 0x13, 0x02, 0x55, 0x53, 0x31, 0x29, 0x30, 0x27, 0x06,
   0x03, 0x55, 0x04, 0x0a, 0x13, 0x20, 0x49, 0x6e, 0x74, 0x65, 0x72, 0x6e, 0x65, 0x74, 0x20, 0x53,
   0x65, 0x63, 0x75, 0x72, 0x69, 0x74, 0x79, 0x20, 0x52, 0x65, 0x73, 0x65, 0x61, 0x72, 0x63, 0x68,
   0x20, 0x47, 0x72, 0x6f, 0x75, 0x70, 0x31, 0x15, 0x30, 0x13, 0x06, 0x03, 0x55, 0x04, 0x03, 0x13,
   0x0c, 0x49, 0x53, 0x52, 0x47, 0x20, 0x52, 0x6f, 0x6f, 0x74, 0x20, 0x58, 0x31, 0x30, 0x82, 0x02,
   0x22, 0x30, 0x0d, 0x06, 0x09, 0x2a, 0x86, 0x48, 0x86, 0xf7, 0x0d, 0x01, 0x01, 0x01, 0x05, 0x00,
   0x03, 0x82, 0x02, 0x0f, 0x00, 0x30, 0x82, 0x02, 0x0a, 0x02, 0x82, 0x02, 0x01, 0x00, 0xad, 0xe8,
   0x24, 0x73, 0xf4, 0x14, 0x37, 0xf3, 0x9b, 0x9e, 0x2b, 0x57, 0x28, 0x1c, 0x87, 0xbe, 0xdc, 0xb7,
   0xdf, 0x38, 0x90, 0x8c, 0x6e, 0x3c, 0xe6, 0x57, 0xa0, 0x78, 0xf7, 0x75, 0xc2, 0xa2, 0xfe, 0xf5,
   0x6a, 0x6e, 0xf6, 0x00, 0x4f, 0x28, 0xdb, 0xde, 0x68, 0x86, 0x6c, 0x44, 0x93, 0xb6, 0xb1, 0x63,
   0xfd, 0x14, 0x12, 0x6b, 0xbf, 0x1f, 0xd2, 0xea, 0x31, 0x9b, 0x21, 0x7e, 0xd1, 0x33, 0x3c, 0xba,
   0x48, 0xf5, 0xdd, 0x79, 0xdf, 0xb3, 0xb8, 0xff, 0x12, 0xf1, 0x21, 0x9a, 0x4b, 0xc1, 0x8a, 0x86,
   0x71, 0x69, 0x4a, 0x66, 0x66, 0x6c, 0x8f, 0x7e, 0x3c, 0x70, 0xbf, 0xad, 0x29, 0x22, 0x06, 0xf3,
   0xe4, 0xc0, 0xe6, 0x80, 0xae, 0xe2, 0x4b, 0x8f, 0xb7, 0x99, 0x7e, 0x94, 0x03, 0x9f, 0xd3, 0x47,
   0x97, 0x7c, 0x99, 0x48, 0x23, 0x53, 0xe8, 0x38, 0xae, 0x4f, 0x0a, 0x6f, 0x83, 0x2e, 0xd1, 0x49,
   0x57, 0x8c, 0x80, 0x74, 0xb6, 0xda, 0x2f, 0xd0, 0x38, 0x8d, 0x7b, 0x03, 0x70, 0x21, 0x1b, 0x75,
   0xf2, 0x30, 0x3c, 0xfa, 0x8f, 0xae, 0xdd, 0xda, 0x63, 0xab, 0xeb, 0x16, 0x4f, 0xc2, 0x8e, 0x11,
   0x4b, 0x7e, 0xcf, 0x0b, 0xe8, 0xff, 0xb5, 0x77, 0x2e, 0xf4, 0xb2, 0x7b, 0x4a, 0xe0, 0x4c, 0x12,
   0x25, 0x0c, 0x70, 0x8d, 0x03, 0x29, 0xa0, 0xe1, 0x53, 0x24, 0xec, 0x13, 0xd9, 0xee, 0x19, 0xbf,
   0x10, 0xb3, 0x4a, 0x8c, 0x3f, 0x89, 0xa3, 0x61, 0x51, 0xde, 0xac, 0x87, 0x07, 0x94, 0xf4, 0x63,
   0x71, 0xec, 0x2e, 0xe2, 0x6f, 0x5b, 0x98, 0x81, 0xe1, 0x89, 0x5c, 0x34, 0x79, 0x6c, 0x76, 0xef,
   0x3b, 0x90, 0x62, 0x79, 0xe6, 0xdb, 0xa4, 0x9a, 0x2f, 0x26, 0xc5, 0xd0, 0x10, 0xe1, 0x0e, 0xde,
   0xd9, 0x10, 0x8e, 0x16, 0xfb, 0xb7, 0xf7, 0xa8, 0xf7, 0xc7, 0xe5, 0x02, 0x07, 0x98, 0x8f, 0x36,
   0x08, 0x95, 0xe7, 0xe2, 0x37, 0x96, 0x0d, 0x36, 0x75, 0x9e, 0xfb, 0x0e, 0x72, 0xb1, 0x1d, 0x9b,
   0xbc, 0x03, 0xf9, 0x49, 0x05, 0xd8, 0x81, 0xdd, 0x05, 0xb4, 0x2a, 0xd6, 0x41, 0xe9, 0xac, 0x01,
   0x76, 0x95, 0x0a, 0x0f, 0xd8, 0xdf, 0xd5, 0xbd, 0x12, 0x1f, 0x35, 0x2f, 0x28, 0x17, 0x6c, 0xd2,
   0x98, 0xc1, 0xa8, 0x09, 0x64, 0x77, 0x6e, 0x47, 0x37, 0xba, 0xce, 0xac, 0x59, 0x5e, 0x68, 0x9d,
   0x7f, 0x72, 0xd6, 0x89, 0xc5, 0x06, 0x41, 0x29, 0x3e, 0x59, 0x3e, 0xdd, 0x26, 0xf5, 0x24, 0xc9,
   0x11, 0xa7, 0x5a, 0xa3, 0x4c, 0x40, 0x1f, 0x46, 0xa1, 0x99, 0xb5, 0xa7, 0x3a, 0x51, 0x6e, 0x86,
   0x3b, 0x9e, 0x7d, 0x72, 0xa7, 0x12, 0x05, 0x78, 0x59, 0xed, 0x3e, 0x51, 0x78, 0x15, 0x0b, 0x03,
   0x8f, 0x8d, 0xd0, 0x2f, 0x05, 0xb2, 0x3e, 0x7b, 0x4a, 0x1c, 0x4b, 0x73, 0x05, 0x12, 0xfc, 0xc6,
   0xea, 0xe0, 0x50, 0x13, 0x7c, 0x43, 0x93, 0x74, 0xb3, 0xca, 0x74, 0xe7, 0x8e, 0x1f, 0x01, 0x08,
   0xd0, 0x30, 0xd4, 0x5b, 0x71, 0x36, 0xb4, 0x07, 0xba, 0xc1, 0x30, 0x30, 0x5c, 0x48, 0xb7, 0x82,
   0x3b, 0x98, 0xa6, 0x7d, 0x60, 0x8a, 0xa2, 0xa3, 0x29, 0x82, 0xcc, 0xba, 0xbd, 0x83, 0x04, 0x1b,
   0xa2, 0x83, 0x03, 0x41, 0xa1, 0xd6, 0x05, 0xf1, 0x1b, 0xc2, 0xb6, 0xf0, 0xa8, 0x7c, 0x86, 0x3b,
   0x46, 0xa8, 0x48, 0x2a, 0x88, 0xdc, 0x76, 0x9a, 0x76, 0xbf, 0x1f, 0x6a, 0xa5, 0x3d, 0x19, 0x8f,
   0xeb, 0x38, 0xf3, 0x64, 0xde, 0xc8, 0x2b, 0x0d, 0x0a, 0x28, 0xff, 0xf7, 0xdb, 0xe2, 0x15, 0x42,
   0xd4, 0x22, 0xd0, 0x27, 0x5d, 0xe1, 0x79, 0xfe, 0x18, 0xe7, 0x70, 0x88, 0xad, 0x4e, 0xe6, 0xd9,
   0x8b, 0x3a, 0xc6, 0xdd, 0x27, 0x51, 0x6e, 0xff, 0xbc, 0x64, 0xf5, 0x33, 0x43, 0x4f, 0x02, 0x03,
   0x01, 0x00, 0x01, 0xa3, 0x42, 0x30, 0x40, 0x30, 0x0e, 0x06, 0x03, 0x55, 0x1d, 0x0f, 0x01, 0x01,
   0xff, 0x04, 0x04, 0x03, 0x02, 0x01, 0x06, 0x30, 0x0f, 0x06, 0x03, 0x55, 0x1d, 0x13, 0x01, 0x01,
   0xff, 0x04, 0x05, 0x30, 0x03, 0x01, 0x01, 0xff, 0x30, 0x1d, 0x06, 0x03, 0x55, 0x1d, 0x0e, 0x04,
   0x16, 0x04, 0x14, 0x79, 0xb4, 0x59, 0xe6, 0x7b, 0xb6, 0xe5, 0xe4, 0x01, 0x73, 0x80, 0x08, 0x88,
   0xc8, 0x1a, 0x58, 0xf6, 0xe9, 0x9b, 0x6e]

/-- Issuer and subject of the trusted root. -/
def sampleRootName : List UInt8 :=
  [0x31, 0x0b, 0x30, 0x09, 0x06, 0x03, 0x55, 0x04, 0x06, 0x13, 0x02, 0x55, 0x53, 0x31, 0x29, 0x30,
   0x27, 0x06, 0x03, 0x55, 0x04, 0x0a, 0x13, 0x20, 0x49, 0x6e, 0x74, 0x65, 0x72, 0x6e, 0x65, 0x74,
   0x20, 0x53, 0x65, 0x63, 0x75, 0x72, 0x69, 0x74, 0x79, 0x20, 0x52, 0x65, 0x73, 0x65, 0x61, 0x72,
   0x63, 0x68, 0x20, 0x47, 0x72, 0x6f, 0x75, 0x70, 0x31, 0x15, 0x30, 0x13, 0x06, 0x03, 0x55, 0x04,
   0x03, 0x13, 0x0c, 0x49, 0x53, 0x52, 0x47, 0x20, 0x52, 0x6f, 0x6f, 0x74, 0x20, 0x58, 0x31]

/-- The signature under it. -/
def sampleRootSignature : List UInt8 :=
  [0x55, 0x1f, 0x58, 0xa9, 0xbc, 0xb2, 0xa8, 0x50, 0xd0, 0x0c, 0xb1, 0xd8, 0x1a, 0x69, 0x20, 0x27,
   0x29, 0x08, 0xac, 0x61, 0x75, 0x5c, 0x8a, 0x6e, 0xf8, 0x82, 0xe5, 0x69, 0x2f, 0xd5, 0xf6, 0x56,
   0x4b, 0xb9, 0xb8, 0x73, 0x10, 0x59, 0xd3, 0x21, 0x97, 0x7e, 0xe7, 0x4c, 0x71, 0xfb, 0xb2, 0xd2,
   0x60, 0xad, 0x39, 0xa8, 0x0b, 0xea, 0x17, 0x21, 0x56, 0x85, 0xf1, 0x50, 0x0e, 0x59, 0xeb, 0xce,
   0xe0, 0x59, 0xe9, 0xba, 0xc9, 0x15, 0xef, 0x86, 0x9d, 0x8f, 0x84, 0x80, 0xf6, 0xe4, 0xe9, 0x91,
   0x90, 0xdc, 0x17, 0x9b, 0x62, 0x1b, 0x45, 0xf0, 0x66, 0x95, 0xd2, 0x7c, 0x6f, 0xc2, 0xea, 0x3b,
   0xef, 0x1f, 0xcf, 0xcb, 0xd6, 0xae, 0x27, 0xf1, 0xa9, 0xb0, 0xc8, 0xae, 0xfd, 0x7d, 0x7e, 0x9a,
   0xfa, 0x22, 0x04, 0xeb, 0xff, 0xd9, 0x7f, 0xea, 0x91, 0x2b, 0x22, 0xb1, 0x17, 0x0e, 0x8f, 0xf2,
   0x8a, 0x34, 0x5b, 0x58, 0xd8, 0xfc, 0x01, 0xc9, 0x54, 0xb9, 0xb8, 0x26, 0xcc, 0x8a, 0x88, 0x33,
   0x89, 0x4c, 0x2d, 0x84, 0x3c, 0x82, 0xdf, 0xee, 0x96, 0x57, 0x05, 0xba, 0x2c, 0xbb, 0xf7, 0xc4,
   0xb7, 0xc7, 0x4e, 0x3b, 0x82, 0xbe, 0x31, 0xc8, 0x22, 0x73, 0x73, 0x92, 0xd1, 0xc2, 0x80, 0xa4,
   0x39, 0x39, 0x10, 0x33, 0x23, 0x82, 0x4c, 0x3c, 0x9f, 0x86, 0xb2, 0x55, 0x98, 0x1d, 0xbe, 0x29,
   0x86, 0x8c, 0x22, 0x9b, 0x9e, 0xe2, 0x6b, 0x3b, 0x57, 0x3a, 0x82, 0x70, 0x4d, 0xdc, 0x09, 0xc7,
   0x89, 0xcb, 0x0a, 0x07, 0x4d, 0x6c, 0xe8, 0x5d, 0x8e, 0xc9, 0xef, 0xce, 0xab, 0xc7, 0xbb, 0xb5,
   0x2b, 0x4e, 0x45, 0xd6, 0x4a, 0xd0, 0x26, 0xcc, 0xe5, 0x72, 0xca, 0x08, 0x6a, 0xa5, 0x95, 0xe3,
   0x15, 0xa1, 0xf7, 0xa4, 0xed, 0xc9, 0x2c, 0x5f, 0xa5, 0xfb, 0xff, 0xac, 0x28, 0x02, 0x2e, 0xbe,
   0xd7, 0x7b, 0xbb, 0xe3, 0x71, 0x7b, 0x90, 0x16, 0xd3, 0x07, 0x5e, 0x46, 0x53, 0x7c, 0x37, 0x07,
   0x42, 0x8c, 0xd3, 0xc4, 0x96, 0x9c, 0xd5, 0x99, 0xb5, 0x2a, 0xe0, 0x95, 0x1a, 0x80, 0x48, 0xae,
   0x4c, 0x39, 0x07, 0xce, 0xcc, 0x47, 0xa4, 0x52, 0x95, 0x2b, 0xba, 0xb8, 0xfb, 0xad, 0xd2, 0x33,
   0x53, 0x7d, 0xe5, 0x1d, 0x4d, 0x6d, 0xd5, 0xa1, 0xb1, 0xc7, 0x42, 0x6f, 0xe6, 0x40, 0x27, 0x35,
   0x5c, 0xa3, 0x28, 0xb7, 0x07, 0x8d, 0xe7, 0x8d, 0x33, 0x90, 0xe7, 0x23, 0x9f, 0xfb, 0x50, 0x9c,
   0x79, 0x6c, 0x46, 0xd5, 0xb4, 0x15, 0xb3, 0x96, 0x6e, 0x7e, 0x9b, 0x0c, 0x96, 0x3a, 0xb8, 0x52,
   0x2d, 0x3f, 0xd6, 0x5b, 0xe1, 0xfb, 0x08, 0xc2, 0x84, 0xfe, 0x24, 0xa8, 0xa3, 0x89, 0xda, 0xac,
   0x6a, 0xe1, 0x18, 0x2a, 0xb1, 0xa8, 0x43, 0x61, 0x5b, 0xd3, 0x1f, 0xdc, 0x3b, 0x8d, 0x76, 0xf2,
   0x2d, 0xe8, 0x8d, 0x75, 0xdf, 0x17, 0x33, 0x6c, 0x3d, 0x53, 0xfb, 0x7b, 0xcb, 0x41, 0x5f, 0xff,
   0xdc, 0xa2, 0xd0, 0x61, 0x38, 0xe1, 0x96, 0xb8, 0xac, 0x5d, 0x8b, 0x37, 0xd7, 0x75, 0xd5, 0x33,
   0xc0, 0x99, 0x11, 0xae, 0x9d, 0x41, 0xc1, 0x72, 0x75, 0x84, 0xbe, 0x02, 0x41, 0x42, 0x5f, 0x67,
   0x24, 0x48, 0x94, 0xd1, 0x9b, 0x27, 0xbe, 0x07, 0x3f, 0xb9, 0xb8, 0x4f, 0x81, 0x74, 0x51, 0xe1,
   0x7a, 0xb7, 0xed, 0x9d, 0x23, 0xe2, 0xbe, 0xe0, 0xd5, 0x28, 0x04, 0x13, 0x3c, 0x31, 0x03, 0x9e,
   0xdd, 0x7a, 0x6c, 0x8f, 0xc6, 0x07, 0x18, 0xc6, 0x7f, 0xde, 0x47, 0x8e, 0x3f, 0x28, 0x9e, 0x04,
   0x06, 0xcf, 0xa5, 0x54, 0x34, 0x77, 0xbd, 0xec, 0x89, 0x9b, 0xe9, 0x17, 0x43, 0xdf, 0x5b, 0xdb,
   0x5f, 0xfe, 0x8e, 0x1e, 0x57, 0xa2, 0xcd, 0x40, 0x9d, 0x7e, 0x62, 0x22, 0xda, 0xde, 0x18, 0x27]

/-- The certificate of the trusted root, signed by itself. -/
def sampleRoot : List UInt8 :=
  [0x30, 0x82, 0x05, 0x6b] ++ sampleRootTbs ++
    [0x30, 0x0d, 0x06, 0x09, 0x2a, 0x86, 0x48, 0x86, 0xf7, 0x0d, 0x01, 0x01, 0x0b, 0x05, 0x00,
      0x03, 0x82, 0x02, 0x01, 0x00] ++ sampleRootSignature

/-- A certificate without algorithm, issuer and subject that names the host. -/
def sampleNameless : List UInt8 :=
  [0x30, 0x38, 0x30, 0x36, 5, 0, 5, 0, 5, 0, 0x30, 0, 5, 0, 5, 0, 0xa3, 0x28, 0x30, 0x26, 0x30,
    0x24, 0x06, 3, 0x55, 0x1d, 0x11, 0x04, 0x1d, 0x30, 0x1b, 0x82, 25] ++ sampleHost

/-- An entry of a `Certificate` message. -/
def certificateEntry (cert : List UInt8) : List UInt8 :=
  [UInt8.ofNat (cert.length / 65536), UInt8.ofNat (cert.length / 256), UInt8.ofNat cert.length] ++
    cert

/-- The nameless certificate, and the root certificate twice. -/
def sampleMessage : List UInt8 :=
  let entries := certificateEntry sampleNameless ++ certificateEntry sampleRoot ++
    certificateEntry sampleRoot
  [UInt8.ofNat (entries.length / 65536), UInt8.ofNat (entries.length / 256),
    UInt8.ofNat entries.length] ++ entries

/-- What the certificate of the trusted root says. -/
def sampleRootCert : TlsCertSummary where
  subjectSha256 := tlsRootIsrgX1SubjectSha256
  issuerSha256 := tlsRootIsrgX1SubjectSha256
  signatureAlg := some .sha256Rsa
  tbsSignatureAlg := some .sha256Rsa
  signatureAlgConsistent := true
  signatureSha256Rsa := true
  publicKeyRsa := true
  rsaModulus := some tlsRootIsrgX1N
  rsaExponent := 65537
  tbsDigest := sha256Buffer sampleRootTbs
  signatureBytes := some sampleRootSignature

set_option maxRecDepth 100000

/-- The chaining state after four, eight and thirteen blocks of the root. -/
def sampleRootStates : List Sha256State :=
  [⟨0xf30d47ed, 0xe3df66a2, 0xcfff8149, 0x61feaddf, 0xc145424c, 0xea9d7779, 0xf6a0820c, 0x03a3dcc5⟩,
    ⟨0x2bd40a6d, 0x74ee3877, 0xd0f4a148, 0xe6d2341f, 0x293531a6, 0xa78b3b8f, 0x5e7797e9, 0xcf2bbc00⟩,
    ⟨0x0ece0ed6, 0x21e0878b, 0x4455107e, 0x5805e7ad, 0xcf4cc78e, 0xde900cb7, 0x0ed0878d, 0xe421fa05⟩]

/-- The digest of the root. -/
def sampleRootDigest : List UInt8 :=
  [0x3f, 0x04, 0x11, 0xed, 0xe9, 0xc4, 0x47, 0x70, 0x57, 0xd5, 0x7e, 0x57, 0x88, 0x3b, 0x1f, 0x20,
    0x5b, 0x20, 0xcd, 0xc0, 0xf3, 0x26, 0x31, 0x29, 0xb1, 0xee, 0x02, 0x69, 0xa2, 0x67, 0x8f, 0x63]

/-- The steps of the digests, each state from the one before it: the evaluation of all
blocks at once takes too much memory. -/
theorem sampleRootBlocks :
    sha256Blocks 4 sha256Init.state sampleRootTbs = sampleRootStates.getD 0 sha256Init.state ∧
      sha256Blocks 4 (sampleRootStates.getD 0 sha256Init.state) (sampleRootTbs.drop 256) =
        sampleRootStates.getD 1 sha256Init.state ∧
      sha256Blocks 5 (sampleRootStates.getD 1 sha256Init.state) (sampleRootTbs.drop 512) =
        sampleRootStates.getD 2 sha256Init.state ∧
      (sha256Final (sha256UpdateLoop 842 ⟨sampleRootStates.getD 2 sha256Init.state,
        0 + 512 * UInt64.ofNat 13, []⟩ (sampleRootTbs.drop (64 * 13)))).toList = sampleRootDigest ∧
      sampleRootTbs.length = 13 + 842 ∧
      sha256BufferHex sampleRootName = tlsRootIsrgX1SubjectSha256 :=
  ⟨by decide +kernel, by decide +kernel, by decide +kernel, by decide +kernel, by decide +kernel,
    by decide +kernel⟩

theorem sampleRootTbs_digest : (sha256Buffer sampleRootTbs).toList = sampleRootDigest := by
  obtain ⟨hfour, height, hthirteen, hfinal, hlen, -⟩ := sampleRootBlocks
  have hblocks : sha256Blocks 13 sha256Init.state sampleRootTbs = sampleRootStates.getD 2 sha256Init.state := by
    rw [show 13 = 4 + (4 + 5) from rfl, sha256Blocks_add, hfour, sha256Blocks_add, List.drop_drop, height, hthirteen]
  have hupdate := @sha256UpdateLoop_blocks 13 842 sha256Init.state 0 sampleRootTbs (by omega)
  rw [hblocks] at hupdate
  rw [sha256Buffer, sha256Update, hlen]
  exact (congrArg (fun ctx => (sha256Final ctx).toList) hupdate).trans hfinal

theorem sampleRootName_digest : sha256BufferHex sampleRootName = tlsRootIsrgX1SubjectSha256 :=
  sampleRootBlocks.2.2.2.2.2

theorem tlsCertSummary_sampleRoot {m : List UInt8} {f : TlsCertFields}
    (hfields : f.tbs.bytes m = sampleRootTbs ∧ f.issuer.bytes m = sampleRootName ∧
      f.subject.bytes m = sampleRootName ∧ tlsSignatureAlg m f.alg = some .sha256Rsa ∧
      tlsSignatureAlg m f.outerAlg = some .sha256Rsa ∧ f.signature = some sampleRootSignature ∧
      tlsParseSpki m f.spki .zero = { TlsCertSummary.zero with
        publicKeyRsa := true, rsaModulus := some tlsRootIsrgX1N, rsaExponent := 65537 }) :
    tlsCertSummary m f = sampleRootCert := by
  obtain ⟨htbs, hissuer, hsubject, halg, houter, hsig, hspki⟩ := hfields
  simp only [tlsCertSummary, htbs, hissuer, hsubject, halg, houter, hsig, hspki,
    sampleRootName_digest]
  rfl

theorem sampleRootCert_verifies :
    tlsVerifyRsaSha256CertSignature sampleRootCert tlsRootIsrgX1N 65537 = true := by
  obtain ⟨em, hem⟩ : ∃ em, em = 0x00 :: 0x01 :: (List.replicate 458 0xff ++
      (0x00 :: (tlsDigestInfoPrefix ++ (sha256Buffer sampleRootTbs).toList))) := ⟨_, rfl⟩
  have hlt : beNat sampleRootSignature < beNat tlsRootIsrgX1N := by decide +kernel
  obtain ⟨out, hout, hlen, hval⟩ := tlsRsaModexp65537_spec (by decide) (by decide) hlt
  have hpow : powMod (beNat tlsRootIsrgX1N) (beNat sampleRootSignature) 17 65537 = beNat em := by
    rw [hem, sampleRootTbs_digest]
    decide +kernel
  rw [← powMod_eq (by decide : 65537 < 2 ^ 17), hpow] at hval
  have heq : out = em := beNat_inj (by rw [hlen, hem]; simp; decide) hval
  have hcheck := tlsCheckPkcs1Sha256_encoded (k := 458) (by decide) (sha256Buffer sampleRootTbs)
  rw [← hem, ← heq] at hcheck
  have hlength : tlsRootIsrgX1N.length = 512 := by decide
  simp [tlsVerifyRsaSha256CertSignature, sampleRootCert, hout, hcheck, hlength, tlsRsaMaxBytes]

/-- Where the fields of the root certificate are that begins at `off`. -/
def sampleRootFields (off : UInt64) : TlsCertFields :=
  ⟨⟨off + 4, 855⟩, ⟨off + 34, 13⟩, ⟨off + 49, 79⟩, ⟨off + 162, 79⟩, ⟨off + 245, 546⟩, ⟨off + 861, 13⟩,
    some sampleRootSignature⟩

theorem sampleMessage_fields :
    (tlsCertificateEntries sampleMessage = [⟨6, 58⟩, ⟨67, 1391⟩, ⟨1461, 1391⟩] ∧
      tlsCertificateFields sampleMessage ⟨6, 58⟩ = none ∧
      tlsParseLeafIdentity sampleMessage sampleHost ⟨6, 58⟩ = some ⟨true, true⟩) ∧
    ∀ off ∈ [67, 1461], tlsCertificateFields sampleMessage ⟨off, 1391⟩ = some (sampleRootFields off) ∧
      (sampleRootFields off).tbs.bytes sampleMessage = sampleRootTbs ∧
      (sampleRootFields off).issuer.bytes sampleMessage = sampleRootName ∧
      (sampleRootFields off).subject.bytes sampleMessage = sampleRootName ∧
      tlsSignatureAlg sampleMessage (sampleRootFields off).alg = some .sha256Rsa ∧
      tlsSignatureAlg sampleMessage (sampleRootFields off).outerAlg = some .sha256Rsa ∧
      (sampleRootFields off).signature = some sampleRootSignature ∧
      tlsParseSpki sampleMessage (sampleRootFields off).spki .zero = { TlsCertSummary.zero with
        publicKeyRsa := true, rsaModulus := some tlsRootIsrgX1N, rsaExponent := 65537 } := by
  refine ⟨by decide +kernel, fun off h => ?_⟩
  -- one certificate at a time, for the memory
  obtain rfl | rfl : off = 67 ∨ off = 1461 := by simpa using h
  · exact ⟨by decide +kernel, by decide +kernel⟩
  · exact ⟨by decide +kernel, by decide +kernel⟩

theorem sampleMessage_entries :
    tlsCertificateEntries sampleMessage = [⟨6, 58⟩, ⟨67, 1391⟩, ⟨1461, 1391⟩] := sampleMessage_fields.1.1

theorem sampleMessage_nameless : tlsParseCertificateNames sampleMessage ⟨6, 58⟩ = none := by
  rw [tlsParseCertificateNames, sampleMessage_fields.1.2.1, Option.map_none]

theorem sampleMessage_identity :
    tlsParseLeafIdentity sampleMessage sampleHost ⟨6, 58⟩ = some ⟨true, true⟩ := sampleMessage_fields.1.2.2

theorem sampleMessage_root {off : UInt64} (h : off ∈ [67, 1461]) :
    tlsParseCertificateNames sampleMessage ⟨off, 1391⟩ = some sampleRootCert := by
  obtain ⟨hfields, hroot⟩ := sampleMessage_fields.2 off h
  rw [tlsParseCertificateNames, hfields, Option.map_some, tlsCertSummary_sampleRoot hroot]

/-- What `tls_parse_certificate` leaves of the sample message. -/
def sampleInfo : TlsCertInfo where
  certificateSeen := true
  certificateCount := 3
  certs := [sampleRootCert, sampleRootCert]
  chainLinksChecked := 1
  chainLinksOk := 1
  leafIdentityParsed := true
  leafIdentityMatch := true
  leafSignatureVerified := true
  rootTrustVerified := true

theorem sampleMessage_info :
    tlsParseCertificate sampleHost sampleMessage .zero = some sampleInfo := by
  have hleaf : tlsVerifyLeafSignature sampleRootCert sampleRootCert = true := by
    simp [tlsVerifyLeafSignature, sampleRootCert_verifies, show sampleRootCert.rsaModulus =
      some tlsRootIsrgX1N from rfl, show sampleRootCert.publicKeyRsa = true from rfl,
      show sampleRootCert.rsaExponent = 65537 from rfl]
  have hroot : tlsVerifyRootTrust sampleRootCert = true := by
    simp [tlsVerifyRootTrust, sampleRootCert_verifies,
      show sampleRootCert.issuerSha256 = tlsRootIsrgX1SubjectSha256 from rfl]
  simp [tlsParseCertificate, sampleMessage_entries, tlsAddCertificate, sampleMessage_nameless,
    sampleMessage_identity, sampleMessage_root, tlsAddSummary,
    TlsCertInfo.zero, tlsMaxCertSummaries, tlsVerifyCertificates, hleaf, hroot, sampleInfo]
  rfl

theorem tlsParseCertificate_sameLeaf_iff_sample :
    TlsSameLeaf sampleHost sampleMessage sampleInfo ↔ TlsFirstTwoAccepted sampleMessage :=
  tlsParseCertificate_sameLeaf_iff sampleHost sampleMessage sampleInfo sampleMessage_info rfl

/-- The policy lets the sample message pass, although the certificate that names
the host is signed by nobody. -/
theorem tlsParseCertificate_other_leaf :
    tlsParseCertificate sampleHost sampleMessage .zero = some sampleInfo ∧
      tlsPolicyFailure sampleInfo = none ∧ ¬ TlsSameLeaf sampleHost sampleMessage sampleInfo := by
  refine ⟨sampleMessage_info, rfl, ?_⟩
  rintro ⟨leaf, issuer, rest, leafCert, issuerCert, hentries, hleaf, -⟩
  rw [sampleMessage_entries] at hentries
  obtain ⟨rfl, -⟩ := List.cons.inj hentries
  rw [sampleMessage_nameless] at hleaf
  simp at hleaf

end Orizon
