import Orizon.Lib.Agree
import Orizon.Net.DnsName

/-!
# Orizon.Net.CertificateWalk

The walks of `drivers/netstack.c` over a certificate, from what `asn1_read_tlv` does at one
offset (`asn1ReadTlv_inside_iff`).

A length of eight bytes can wrap the end of a value.  As long as none does, the offsets of every
loop move forward, all spans lie within the certificate, and the walks end with a result that
depends on the bytes of the certificate alone.
-/

namespace Orizon

variable {m m' host : List UInt8} {cert der v : Asn1Span} {off after : UInt64} {tag : UInt8}

/-! ## Where the walks read -/

/-- The offsets the walks read at: the start of the certificate, behind an element, and inside
a sequence, an octet string, the extensions, and a bit string after its first byte. -/
inductive Asn1Visited (m : List UInt8) (cert : Asn1Span) : Asn1Span → UInt64 → Prop
  | start : Asn1Visited m cert cert 0
  | next {der : Asn1Span} {off : UInt64} (h : Asn1Visited m cert der off) :
      Asn1Visited m cert der (asn1ReadTlv m der off).off
  | inside {der v : Asn1Span} {off : UInt64} {tag : UInt8} (h : Asn1Visited m cert der off)
      (hread : (asn1ReadTlv m der off).tlv = some (tag, v)) (htag : tag ∈ [0x30, 0x04, 0xa3]) : Asn1Visited m cert v 0
  | bits {der v : Asn1Span} {off : UInt64} (h : Asn1Visited m cert der off)
      (hread : (asn1ReadTlv m der off).tlv = some (0x03, v)) : Asn1Visited m cert v 1

/-- No element that the walks find has an end that wraps. -/
def Asn1Unwrapped (m : List UInt8) (cert : Asn1Span) : Prop :=
  ∀ der off tag v, Asn1Visited m cert der off → (asn1ReadTlv m der off).tlv = some (tag, v) → Asn1NoWrap m der off

/-- A span within another. -/
structure Asn1Span.In (der cert : Asn1Span) : Prop where
  left : cert.pos.toNat ≤ der.pos.toNat
  right : der.pos.toNat + der.len.toNat ≤ cert.pos.toNat + cert.len.toNat

theorem Asn1Span.In.within (h : der.In cert) (hcert : cert.Within m) : der.Within m := by
  have hright := h.right
  have hfits := hcert.fits
  exact ⟨by omega, hcert.small⟩

theorem Asn1Span.In.bytes_eq (h : der.In cert) :
    der.bytes m = ((cert.bytes m).drop (der.pos.toNat - cert.pos.toNat)).take der.len.toNat := by
  have hleft := h.left
  have hright := h.right
  rw [Asn1Span.bytes, Asn1Span.bytes, List.drop_take, List.drop_drop, List.take_take]
  congr 1
  · omega
  · congr 1
    omega

theorem Asn1Inside.in (h : Asn1Inside der off v after) (hder : der.In cert) : v.In cert := by
  obtain ⟨start, -, hpos, hnext⟩ := h.start
  have hle := UInt64.le_iff_toNat_le.mp h.le
  have hleft := hder.left
  have hright := hder.right
  exact ⟨by omega, by omega⟩

theorem Asn1Visited.in (hcert : cert.Within m) (hun : Asn1Unwrapped m cert) (h : Asn1Visited m cert der off) :
    der.In cert ∧ (off ≤ der.len ∨ off = 1) := by
  induction h with
  | start => exact ⟨⟨le_rfl, le_rfl⟩, .inl UInt64.zero_le⟩
  | @next der off hv ih =>
      refine ⟨ih.1, ?_⟩
      obtain ⟨left, hfail, rfl | hle⟩ | ⟨-, -, -, -, hend, hok⟩ := asn1ReadTlv_cases m der off
      · rw [hfail]
        exact ih.2
      · rw [hfail]
        exact .inl hle
      · rw [hok]
        exact .inl hend
  | inside hv hread _ ih =>
      have hinside := (asn1ReadTlv_inside_iff (ih.1.within hcert) hread).mpr (hun _ _ _ _ hv hread)
      exact ⟨hinside.in ih.1, .inl UInt64.zero_le⟩
  | bits hv hread ih =>
      have hinside := (asn1ReadTlv_inside_iff (ih.1.within hcert) hread).mpr (hun _ _ _ _ hv hread)
      exact ⟨hinside.in ih.1, .inr rfl⟩

/-! ## Two messages with one certificate -/

theorem asn1ReadTlv_congr (h : der.Within m) (h' : der.Within m') (hbytes : der.bytes m' = der.bytes m)
    (hoff : off ≤ der.len ∨ off = 1) : asn1ReadTlv m' der off = asn1ReadTlv m der off := by
  have hbyte : ∀ i : UInt64, i.toNat < der.len.toNat → der.byte m' i = der.byte m i := by
    intro i hi
    rw [h'.byte_eq hi i rfl, h.byte_eq hi i rfl, hbytes]
  have hfits := h.fits
  have hsmall := h.small
  by_cases hroom : off + 2 > der.len
  · rw [asn1ReadTlv, asn1ReadTlv, if_pos hroom, if_pos hroom]
  have hnat : off.toNat + 2 ≤ der.len.toNat := by
    have hle := UInt64.le_iff_toNat_le.mp (UInt64.not_lt.mp hroom)
    rw [UInt64.toNat_add] at hle
    obtain hoff | rfl := hoff
    · have hoff := UInt64.le_iff_toNat_le.mp hoff
      simp only [UInt64.reduceToNat] at hle
      omega
    · exact hle
  have hone : (off + 1).toNat = off.toNat + 1 := by
    rw [UInt64.toNat_add]
    simp only [UInt64.reduceToNat]
    omega
  have htwo : (off + 2).toNat = off.toNat + 2 := by
    rw [UInt64.toNat_add]
    simp only [UInt64.reduceToNat]
    omega
  have hlong : ∀ n : UInt64, n ≤ 8 → off + 2 + n ≤ der.len →
      asn1LongLen m' der (off + 2) n.toNat = asn1LongLen m der (off + 2) n.toNat := by
    intro n hn hle
    have hn := UInt64.le_iff_toNat_le.mp hn
    rw [UInt64.le_iff_toNat_le, UInt64.toNat_add, htwo] at hle
    simp only [UInt64.reduceToNat] at hn
    refine List.foldl_ext _ _ _ fun len i hi => ?_
    have hi := List.mem_range.mp hi
    rw [hbyte]
    rw [UInt64.toNat_add, htwo, UInt64.toNat_ofNat']
    omega
  unfold asn1ReadTlv
  rw [hbyte off (by omega), hbyte (off + 1) (by omega)]
  dsimp only
  rw [if_neg hroom, if_neg hroom]
  by_cases hbad : der.byte m (off + 1) &&& 0x80 ≠ 0 ∧ ((der.byte m (off + 1) &&& 0x7f).toUInt64 = 0 ∨
      (der.byte m (off + 1) &&& 0x7f).toUInt64 > 8 ∨ off + 2 + (der.byte m (off + 1) &&& 0x7f).toUInt64 > der.len)
  · rw [if_pos hbad, if_pos hbad]
  · rw [if_neg hbad, if_neg hbad]
    by_cases hform : der.byte m (off + 1) &&& 0x80 ≠ 0
    · obtain ⟨-, hmany, hle⟩ : _ ∧ (der.byte m (off + 1) &&& 0x7f).toUInt64 ≤ 8 ∧
          off + 2 + (der.byte m (off + 1) &&& 0x7f).toUInt64 ≤ der.len := by
        simpa only [not_and, not_or, gt_iff_lt, UInt64.not_lt] using (not_and.mp hbad) hform
      rw [hlong _ hmany hle]
    · simp only [if_neg hform]

/-- A certificate without lengths that wrap, and another message with the same bytes in its place. -/
structure SameCertificate (m m' : List UInt8) (cert : Asn1Span) : Prop where
  within : cert.Within m
  within' : cert.Within m'
  same : cert.bytes m' = cert.bytes m
  unwrapped : Asn1Unwrapped m cert

/-- What the walks know of an element they found: where they go on, behind it and inside it. -/
structure Asn1Found (m : List UInt8) (cert der : Asn1Span) (off : UInt64) (tag : UInt8) (v : Asn1Span)
    (next : UInt64) : Prop where
  behind : Asn1Visited m cert der next
  inside : tag ∈ [0x30, 0x04, 0xa3] → Asn1Visited m cert v 0
  bits : tag = 0x03 → Asn1Visited m cert v 1
  value : v.In cert
  lt : off < next
  le : next ≤ der.len

namespace SameCertificate

variable (h : SameCertificate m m' cert)
include h

theorem bytes (hder : der.In cert) : der.bytes m' = der.bytes m := by
  rw [hder.bytes_eq, hder.bytes_eq, h.same]

theorem read (hv : Asn1Visited m cert der off) : asn1ReadTlv m' der off = asn1ReadTlv m der off := by
  obtain ⟨hder, hoff⟩ := hv.in h.within h.unwrapped
  exact asn1ReadTlv_congr (hder.within h.within) (hder.within h.within') (h.bytes hder) hoff

theorem next (hv : Asn1Visited m cert der off) :
    Agrees (fun r => Asn1Found m cert der off r.1 r.2.1 r.2.2) (asn1Next m der off) (asn1Next m' der off) := by
  refine ⟨by rw [asn1Next, asn1Next, h.read hv], ?_⟩
  rintro ⟨tag, v, next⟩ hnext
  obtain ⟨⟨found, value⟩, hread, heq⟩ := Option.map_eq_some_iff.mp hnext
  obtain ⟨rfl, rfl, rfl⟩ : found = tag ∧ value = v ∧ (asn1ReadTlv m der off).off = next := by simpa using heq
  obtain ⟨hder, -⟩ := hv.in h.within h.unwrapped
  have hinside := (asn1ReadTlv_inside_iff (hder.within h.within) hread).mpr (h.unwrapped _ _ _ _ hv hread)
  exact ⟨hv.next, hv.inside hread, fun hbits => hv.bits (hbits ▸ hread), hinside.in hder, hinside.lt, hinside.le⟩

theorem expect (hv : Asn1Visited m cert der off) (tag : UInt8) :
    Agrees (fun r => Asn1Found m cert der off tag r.1 r.2) (asn1Expect m der off tag) (asn1Expect m' der off tag) := by
  refine (h.next hv).bind ?_
  rintro ⟨found, v, next⟩ hfound
  dsimp only at hfound ⊢
  split
  · next heq => exact agrees_some (heq ▸ hfound)
  · exact agrees_none

/-! ## The identity of the leaf -/

theorem dnsNameMatches {dns : Asn1Span} (hdns : dns.In cert) :
    tlsDnsNameMatches m' host dns = tlsDnsNameMatches m host dns := by
  have hm := hdns.within h.within
  have hm' := hdns.within h.within'
  rw [Bool.eq_iff_iff]
  by_cases hstar : ∃ suffix ≠ [], dns.bytes m = 42 :: 46 :: suffix
  · obtain ⟨suffix, hne, hb⟩ := hstar
    rw [tlsDnsNameMatches_star hm hne hb, tlsDnsNameMatches_star hm' hne ((h.bytes hdns).trans hb)]
  · rw [tlsDnsNameMatches_exact hm hstar, tlsDnsNameMatches_exact hm' (by rwa [h.bytes hdns]), h.bytes hdns]

/-- The loop over the names ends in both messages with the same result. -/
theorem subjectAltNamesLoop {seq : Asn1Span} {p : UInt64} (hv : Asn1Visited m cert seq p) (hp : p ≤ seq.len)
    {fuel fuel' : Nat} (hfuel : seq.len.toNat - p.toNat < fuel) (hfuel' : seq.len.toNat - p.toNat < fuel')
    (found : Bool) :
    ∃ result, tlsSubjectAltNamesLoop m host seq fuel p found = some result ∧
      tlsSubjectAltNamesLoop m' host seq fuel' p found = some result := by
  induction fuel generalizing p fuel' found with
  | zero => omega
  | succ fuel ih =>
      obtain ⟨fuel', rfl⟩ : ∃ k, fuel' = k + 1 := ⟨fuel' - 1, by omega⟩
      rw [tlsSubjectAltNamesLoop, tlsSubjectAltNamesLoop]
      by_cases hmore : p < seq.len
      · obtain ⟨hsame, hnext⟩ := h.next hv
        rw [if_pos hmore, if_pos hmore, hsame]
        cases hread : asn1Next m seq p with
        | none => exact ⟨found, rfl, rfl⟩
        | some r =>
            obtain ⟨tag, name, q⟩ := r
            have hfound := hnext _ hread
            have hlt := UInt64.lt_iff_toNat_lt.mp hfound.lt
            have hle := UInt64.le_iff_toNat_le.mp hfound.le
            dsimp only
            rw [h.dnsNameMatches hfound.value]
            exact ih hfound.behind hfound.le (by omega) (by omega) _
      · rw [if_neg hmore, if_neg hmore]
        exact ⟨found, rfl, rfl⟩

theorem length_lt (hder : der.In cert) : der.len.toNat < m.length + 1 ∧ der.len.toNat < m'.length + 1 := by
  have hm := (hder.within h.within).fits
  have hm' := (hder.within h.within').fits
  omega

theorem subjectAltNames (hv : Asn1Visited m cert der 0) (found : Bool) :
    ∃ result, tlsParseSubjectAltNames m host der found = some result ∧
      tlsParseSubjectAltNames m' host der found = some result := by
  obtain ⟨hsame, hnext⟩ := h.expect hv 0x30
  rw [tlsParseSubjectAltNames, tlsParseSubjectAltNames, hsame]
  cases hread : asn1Expect m der 0 0x30 with
  | none => exact ⟨found, rfl, rfl⟩
  | some r =>
      obtain ⟨seq, p⟩ := r
      have hfound := hnext _ hread
      have hlen := h.length_lt hfound.value
      exact h.subjectAltNamesLoop (hfound.inside (by decide)) UInt64.zero_le (by simpa using hlen.1)
        (by simpa using hlen.2)
        found

/-- The value of an extension is read alike, and the names are looked for inside it. -/
theorem sanValue {ext : Asn1Span} (hv : Asn1Visited m cert ext 0) :
    Agrees (fun value => Asn1Visited m cert value 0) (tlsSanValue m ext) (tlsSanValue m' ext) := by
  obtain ⟨hext, -⟩ := hv.in h.within h.unwrapped
  refine (h.expect hv 0x06).bind ?_
  rintro ⟨oid, e⟩ hoid
  have hbyte : e < ext.len → ext.byte m' e = ext.byte m e := by
    intro hlt
    have hlt := UInt64.lt_iff_toNat_lt.mp hlt
    rw [(hext.within h.within').byte_eq hlt e rfl, (hext.within h.within).byte_eq hlt e rfl, h.bytes hext]
  have hcritical : (e < ext.len ∧ ext.byte m' e = 0x01) ↔ (e < ext.len ∧ ext.byte m e = 0x01) :=
    and_congr_right fun hlt => by rw [hbyte hlt]
  dsimp only
  simp only [hcritical, h.read hoid.behind]
  have hvisited : Asn1Visited m cert ext
      (if e < ext.len ∧ ext.byte m e = 0x01 then (asn1ReadTlv m ext e).off else e) := by
    split
    · exact hoid.behind.next
    · exact hoid.behind
  refine (h.expect hvisited 0x04).bind ?_
  rintro ⟨value, after⟩ hvalue
  dsimp only
  rw [h.bytes hoid.value]
  split
  · exact agrees_some (hvalue.inside (by decide))
  · exact agrees_none

theorem extensionsLoop {seq : Asn1Span} {p : UInt64} (hv : Asn1Visited m cert seq p) (hp : p ≤ seq.len)
    {fuel fuel' : Nat} (hfuel : seq.len.toNat - p.toNat < fuel) (hfuel' : seq.len.toNat - p.toNat < fuel')
    (found : Bool) :
    ∃ result, tlsExtensionsLoop m host seq fuel p found = some result ∧
      tlsExtensionsLoop m' host seq fuel' p found = some result := by
  induction fuel generalizing p fuel' found with
  | zero => omega
  | succ fuel ih =>
      obtain ⟨fuel', rfl⟩ : ∃ k, fuel' = k + 1 := ⟨fuel' - 1, by omega⟩
      rw [tlsExtensionsLoop, tlsExtensionsLoop]
      by_cases hmore : p < seq.len
      · obtain ⟨hsame, hnext⟩ := h.expect hv 0x30
        rw [if_pos hmore, if_pos hmore, hsame]
        cases hread : asn1Expect m seq p 0x30 with
        | none => exact ⟨found, rfl, rfl⟩
        | some r =>
            obtain ⟨ext, q⟩ := r
            have hfound := hnext _ hread
            have hlt := UInt64.lt_iff_toNat_lt.mp hfound.lt
            have hle := UInt64.le_iff_toNat_le.mp hfound.le
            obtain ⟨hsan, hinside⟩ := h.sanValue (hfound.inside (by decide))
            dsimp only
            rw [hsan]
            cases hvalue : tlsSanValue m ext with
            | none => exact ih hfound.behind hfound.le (by omega) (by omega) found
            | some value =>
                obtain ⟨result, hm, hm'⟩ := h.subjectAltNames (hinside _ hvalue) found
                dsimp only
                rw [hm, hm']
                exact ih hfound.behind hfound.le (by omega) (by omega) result
      · rw [if_neg hmore, if_neg hmore]
        exact ⟨found, rfl, rfl⟩

theorem certificateExtensions (hv : Asn1Visited m cert der 0) :
    ∃ result, tlsParseCertificateExtensions m host der = some result ∧
      tlsParseCertificateExtensions m' host der = some result := by
  obtain ⟨hsame, hnext⟩ := h.expect hv 0x30
  rw [tlsParseCertificateExtensions, tlsParseCertificateExtensions, hsame]
  cases hread : asn1Expect m der 0 0x30 with
  | none => exact ⟨false, rfl, rfl⟩
  | some r =>
      obtain ⟨seq, p⟩ := r
      have hfound := hnext _ hread
      have hlen := h.length_lt hfound.value
      exact h.extensionsLoop (hfound.inside (by decide)) UInt64.zero_le (by simpa using hlen.1)
        (by simpa using hlen.2) false

theorem leafIdentityLoop {tbs : Asn1Span} {p : UInt64} (hv : Asn1Visited m cert tbs p) (hp : p ≤ tbs.len)
    {fuel fuel' : Nat} (hfuel : tbs.len.toNat - p.toNat < fuel) (hfuel' : tbs.len.toNat - p.toNat < fuel') :
    ∃ identity, tlsLeafIdentityLoop m host tbs fuel p = some identity ∧
      tlsLeafIdentityLoop m' host tbs fuel' p = some identity := by
  induction fuel generalizing p fuel' with
  | zero => omega
  | succ fuel ih =>
      obtain ⟨fuel', rfl⟩ : ∃ k, fuel' = k + 1 := ⟨fuel' - 1, by omega⟩
      rw [tlsLeafIdentityLoop, tlsLeafIdentityLoop]
      by_cases hmore : p < tbs.len
      · obtain ⟨hsame, hnext⟩ := h.next hv
        rw [if_pos hmore, if_pos hmore, hsame]
        cases hread : asn1Next m tbs p with
        | none => exact ⟨_, rfl, rfl⟩
        | some r =>
            obtain ⟨tag, value, q⟩ := r
            have hfound := hnext _ hread
            have hlt := UInt64.lt_iff_toNat_lt.mp hfound.lt
            have hle := UInt64.le_iff_toNat_le.mp hfound.le
            dsimp only
            by_cases htag : tag = 0xa3
            · obtain ⟨result, hm, hm'⟩ := @certificateExtensions _ _ host _ _ h (hfound.inside (by simp [htag]))
              rw [if_pos htag, if_pos htag, hm, hm']
              exact ⟨_, rfl, rfl⟩
            · rw [if_neg htag, if_neg htag]
              exact ih hfound.behind hfound.le (by omega) (by omega)
      · rw [if_neg hmore, if_neg hmore]
        exact ⟨_, rfl, rfl⟩

theorem skipVersion {tbs : Asn1Span} (hv : Asn1Visited m cert tbs 0) :
    Agrees (fun p => Asn1Visited m cert tbs p ∧ p ≤ tbs.len) (tlsSkipVersion m tbs) (tlsSkipVersion m' tbs) := by
  obtain ⟨htbs, -⟩ := hv.in h.within h.unwrapped
  have hversion : (0 < tbs.len ∧ tbs.byte m' 0 = 0xa0) ↔ (0 < tbs.len ∧ tbs.byte m 0 = 0xa0) := by
    refine and_congr_right fun hpos => ?_
    have hpos := UInt64.lt_iff_toNat_lt.mp hpos
    rw [(htbs.within h.within').byte_eq hpos 0 rfl, (htbs.within h.within).byte_eq hpos 0 rfl, h.bytes htbs]
  simp only [tlsSkipVersion, hversion]
  split
  · rw [Option.map_eq_bind, Option.map_eq_bind]
    exact (h.next hv).bind fun r hr => agrees_some ⟨hr.behind, hr.le⟩
  · exact agrees_some ⟨hv, UInt64.zero_le⟩

theorem leafIdentityStart :
    Agrees (fun r => Asn1Visited m cert r.1 r.2 ∧ r.2 ≤ r.1.len ∧ r.1.In cert) (tlsLeafIdentityStart m cert)
      (tlsLeafIdentityStart m' cert) := by
  refine (h.expect .start 0x30).bind fun certSeq hseq => ?_
  refine (h.expect (hseq.inside (by decide)) 0x30).bind fun tbs htbs => ?_
  refine (h.skipVersion (htbs.inside (by decide))).bind fun p hp => ?_
  refine (h.next hp.1).bind fun first hfirst => ?_
  refine (h.next hfirst.behind).bind fun second hsecond => ?_
  refine (h.next hsecond.behind).bind fun third hthird => ?_
  refine (h.expect hthird.behind 0x30).bind fun validity hvalidity => ?_
  refine (h.next hvalidity.behind).bind fun fourth hfourth => ?_
  refine (h.next hfourth.behind).bind fun fifth hfifth => ?_
  exact agrees_some ⟨hfifth.behind, hfifth.le, htbs.value⟩

/-- `tls_parse_leaf_identity` ends, with a result that the bytes of the certificate decide. -/
theorem leafIdentity (host : List UInt8) :
    ∃ identity, tlsParseLeafIdentity m host cert = some identity ∧
      tlsParseLeafIdentity m' host cert = some identity := by
  obtain ⟨hsame, hstart⟩ := h.leafIdentityStart
  rw [tlsParseLeafIdentity, tlsParseLeafIdentity, hsame]
  cases hread : tlsLeafIdentityStart m cert with
  | none => exact ⟨_, rfl, rfl⟩
  | some r =>
      obtain ⟨tbs, p⟩ := r
      obtain ⟨hv, hle, htbs⟩ := hstart _ hread
      have hlen := h.length_lt htbs
      exact h.leafIdentityLoop hv hle (by omega) (by omega)

/-! ## The names and keys -/

theorem algorithmIdentifier (hv : Asn1Visited m cert der 0) (params : Bool) :
    Agrees (fun oid => oid.In cert) (tlsParseAlgorithmIdentifier m der params)
      (tlsParseAlgorithmIdentifier m' der params) := by
  refine (h.expect hv 0x06).bind fun r hoid => ?_
  dsimp only
  split
  · exact (h.next hoid.behind).bind fun _ _ => agrees_some hoid.value
  · exact agrees_some hoid.value

theorem signatureAlg (hv : Asn1Visited m cert der 0) : tlsSignatureAlg m' der = tlsSignatureAlg m der := by
  have hagrees := h.algorithmIdentifier hv false
  rw [tlsSignatureAlg, tlsSignatureAlg, hagrees.eq]
  cases hread : tlsParseAlgorithmIdentifier m der false with
  | none => rfl
  | some oid => simp [h.bytes (hagrees.holds oid hread)]

/-- The modulus and the exponent of an RSA key. -/
def rsaNumbers (m : List UInt8) (der : Asn1Span) : Option (List UInt8 × List UInt8) := do
  let (seq, _) ← asn1Expect m der 1 0x30
  let (modulus, p) ← asn1Expect m seq 0 0x02
  let (exponent, _) ← asn1Expect m seq p 0x02
  some (modulus.bytes m, exponent.bytes m)

theorem rsaPublicKey (hv : Asn1Visited m cert der 1) (hder : der.In cert) (summary : TlsCertSummary) :
    tlsParseRsaPublicKey m' der summary = tlsParseRsaPublicKey m der summary := by
  have hguard : (der.len < 2 ∨ der.byte m' 0 ≠ 0) ↔ (der.len < 2 ∨ der.byte m 0 ≠ 0) := by
    refine or_congr_right' fun hlong => ?_
    have hlong := UInt64.le_iff_toNat_le.mp (UInt64.not_lt.mp hlong)
    simp only [UInt64.reduceToNat] at hlong
    have hpos : 0 < der.len.toNat := by omega
    rw [(hder.within h.within').byte_eq hpos 0 rfl, (hder.within h.within).byte_eq hpos 0 rfl, h.bytes hder]
  have hkey : Agrees (fun _ => True) (rsaNumbers m der) (rsaNumbers m' der) := by
    refine (h.expect hv 0x30).bind fun seq hseq => ?_
    refine (h.expect (hseq.inside (by decide)) 0x02).bind fun modulus hmodulus => ?_
    refine (h.expect hmodulus.behind 0x02).bind fun exponent hexponent => ?_
    dsimp only
    rw [h.bytes hmodulus.value, h.bytes hexponent.value]
    exact agrees_some trivial
  have heq := hkey.eq
  unfold rsaNumbers at heq
  simp only [tlsParseRsaPublicKey, hguard, heq]

theorem spki (hv : Asn1Visited m cert der 0) (summary : TlsCertSummary) :
    tlsParseSpki m' der summary = tlsParseSpki m der summary := by
  have hseq := h.expect hv 0x30
  rw [tlsParseSpki, tlsParseSpki, hseq.eq]
  cases hread : asn1Expect m der 0 0x30 with
  | none => rfl
  | some r =>
      obtain ⟨algSeq, off⟩ := r
      have hfound := hseq.holds _ hread
      have halg := h.algorithmIdentifier (hfound.inside (by decide)) true
      dsimp only
      rw [halg.eq]
      cases hoid : tlsParseAlgorithmIdentifier m algSeq true with
      | none => rfl
      | some oid =>
          have hkey := h.expect hfound.behind 0x03
          dsimp only
          rw [h.bytes (halg.holds oid hoid), hkey.eq]
          cases hbits : asn1Expect m der off 0x03 with
          | none => rfl
          | some r =>
              obtain ⟨spki, after⟩ := r
              have hspki := hkey.holds _ hbits
              dsimp only
              rw [h.rsaPublicKey (hspki.bits rfl) hspki.value]

theorem certSignature {certSeq : Asn1Span} (hv : Asn1Visited m cert certSeq off) :
    tlsCertSignature m' certSeq off = tlsCertSignature m certSeq off := by
  have hbits := h.expect hv 0x03
  rw [tlsCertSignature, tlsCertSignature, hbits.eq]
  cases hread : asn1Expect m certSeq off 0x03 with
  | none => rfl
  | some r =>
      obtain ⟨value, after⟩ := r
      have hvalue : value.In cert := (hbits.holds _ hread).value
      dsimp only
      split
      · next hlong =>
          have hlong := UInt64.lt_iff_toNat_lt.mp hlong.1
          have hin : (⟨value.pos + 1, value.len - 1⟩ : Asn1Span).In cert := by
            have hleft := hvalue.left
            have hright := hvalue.right
            have hfits := h.within.fits
            have hsmall := h.within.small
            have hpos : (value.pos + 1).toNat = value.pos.toNat + 1 := by
              rw [UInt64.toNat_add]
              simp only [UInt64.reduceToNat]
              omega
            have hlen : (value.len - 1).toNat = value.len.toNat - 1 :=
              UInt64.toNat_sub_of_le _ _ (UInt64.le_iff_toNat_le.mpr (by simpa using Nat.le_of_lt hlong))
            simp only [UInt64.reduceToNat] at hlong
            constructor <;> dsimp only <;> omega
          rw [h.bytes hin]
      · rfl

/-- The fields of a certificate lie within it. -/
structure FieldsIn (m : List UInt8) (cert : Asn1Span) (f : TlsCertFields) : Prop where
  tbs : f.tbs.In cert
  issuer : f.issuer.In cert
  subject : f.subject.In cert
  alg : Asn1Visited m cert f.alg 0
  spki : Asn1Visited m cert f.spki 0
  outerAlg : Asn1Visited m cert f.outerAlg 0

theorem certificateFields :
    Agrees (FieldsIn m cert) (tlsCertificateFields m cert) (tlsCertificateFields m' cert) := by
  refine (h.expect .start 0x30).bind fun certSeq hseq => ?_
  refine (h.expect (hseq.inside (by decide)) 0x30).bind fun tbs htbs => ?_
  refine (h.skipVersion (htbs.inside (by decide))).bind fun p hp => ?_
  refine (h.next hp.1).bind fun serial hserial => ?_
  refine (h.expect hserial.behind 0x30).bind fun alg halg => ?_
  refine (h.expect halg.behind 0x30).bind fun issuer hissuer => ?_
  refine (h.expect hissuer.behind 0x30).bind fun validity hvalidity => ?_
  refine (h.expect hvalidity.behind 0x30).bind fun subject hsubject => ?_
  refine (h.expect hsubject.behind 0x30).bind fun spki hspki => ?_
  refine (h.expect htbs.behind 0x30).bind fun outerAlg houter => ?_
  dsimp only
  rw [h.certSignature houter.behind]
  have hle := UInt64.le_iff_toNat_le.mp htbs.le
  have hright := hseq.value.right
  exact agrees_some
    { tbs := ⟨hseq.value.left, by dsimp only; omega⟩
      issuer := hissuer.value
      subject := hsubject.value
      alg := halg.inside (by decide)
      spki := hspki.inside (by decide)
      outerAlg := houter.inside (by decide) }

theorem certSummary {f : TlsCertFields} (hin : FieldsIn m cert f) : tlsCertSummary m' f = tlsCertSummary m f := by
  have halg := h.signatureAlg hin.alg
  have houter := h.signatureAlg hin.outerAlg
  have hspki := h.spki hin.spki TlsCertSummary.zero
  have htbs := h.bytes hin.tbs
  have hissuer := h.bytes hin.issuer
  have hsubject := h.bytes hin.subject
  unfold tlsCertSummary
  rw [halg, houter, hspki, htbs, hissuer, hsubject]

/-- `tls_parse_certificate_names` finds what the bytes of the certificate decide. -/
theorem certificateNames : tlsParseCertificateNames m' cert = tlsParseCertificateNames m cert := by
  have hfields := h.certificateFields
  rw [tlsParseCertificateNames, tlsParseCertificateNames, hfields.eq]
  exact Option.map_congr fun f hf => h.certSummary (hfields.holds f hf)

end SameCertificate

/-! ## Every walk -/

/-- The walks over the certificate end and read nothing but its bytes: another message with the same
bytes in its place gives the same results. -/
def WalksInside (m : List UInt8) (cert : Asn1Span) : Prop :=
  ∀ host m', cert.Within m' → cert.bytes m' = cert.bytes m →
    (∃ identity, tlsParseLeafIdentity m host cert = some identity ∧ tlsParseLeafIdentity m' host cert = some identity) ∧
      tlsParseCertificateNames m' cert = tlsParseCertificateNames m cert

theorem visited_empty {off : UInt64} (hv : Asn1Visited [0x30, 0x00] ⟨0, 2⟩ der off) :
    der = ⟨0, 2⟩ ∧ (off = 0 ∨ off = 2) ∨ der = ⟨2, 0⟩ ∧ off = 0 := by
  induction hv with
  | start => exact .inl ⟨rfl, .inl rfl⟩
  | next _ ih =>
      obtain ⟨rfl, rfl | rfl⟩ | ⟨rfl, rfl⟩ := ih
      · exact .inl ⟨rfl, .inr (by decide)⟩
      · exact .inl ⟨rfl, .inr (by decide)⟩
      · exact .inr ⟨rfl, by decide⟩
  | @inside der v off tag _ hread _ ih =>
      obtain ⟨rfl, rfl | rfl⟩ | ⟨rfl, rfl⟩ := ih
      · have hempty : (asn1ReadTlv [0x30, 0x00] ⟨0, 2⟩ 0).tlv = some (0x30, ⟨2, 0⟩) := by decide
        rw [hempty] at hread
        exact .inr ⟨(Prod.mk.inj (Option.some.inj hread)).2.symm, rfl⟩
      · exact absurd hread (by rw [show (asn1ReadTlv [0x30, 0x00] ⟨0, 2⟩ 2).tlv = none by decide]; simp)
      · exact absurd hread (by rw [show (asn1ReadTlv [0x30, 0x00] ⟨2, 0⟩ 0).tlv = none by decide]; simp)
  | @bits der v off _ hread ih =>
      obtain ⟨rfl, rfl | rfl⟩ | ⟨rfl, rfl⟩ := ih
      · exact absurd hread (by rw [show (asn1ReadTlv [0x30, 0x00] ⟨0, 2⟩ 0).tlv = some (0x30, ⟨2, 0⟩) by decide]; simp)
      · exact absurd hread (by rw [show (asn1ReadTlv [0x30, 0x00] ⟨0, 2⟩ 2).tlv = none by decide]; simp)
      · exact absurd hread (by rw [show (asn1ReadTlv [0x30, 0x00] ⟨2, 0⟩ 0).tlv = none by decide]; simp)

end Orizon
