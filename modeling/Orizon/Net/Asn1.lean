import Mathlib.Algebra.Group.Nat.Defs
import Mathlib.Data.List.Basic

/-!
# Orizon.Net.Asn1

The DER reader of `drivers/netstack.c`, `asn1_read_tlv`.

A pointer into the message with a length is an `Asn1Span`; all numbers are
`size_t` and wrap at 2 ^ 64, as the sum of an offset and an encoded length can.
A byte outside the message reads as 0.
-/

namespace Orizon

/-- A pointer into the message, as the distance from its start, and a length. -/
structure Asn1Span where
  pos : UInt64
  len : UInt64
deriving DecidableEq, Repr

/-- The byte `p[i]`. -/
def Asn1Span.byte (m : List UInt8) (p : Asn1Span) (i : UInt64) : UInt8 :=
  m.getD (p.pos + i).toNat 0

/-- The bytes of a span within the message. -/
def Asn1Span.bytes (m : List UInt8) (p : Asn1Span) : List UInt8 :=
  (m.drop p.pos.toNat).take p.len.toNat

/-- What `asn1_read_tlv` leaves: tag and value, unless it returns -1, and the offset,
which has moved past the header also when the value does not fit. -/
structure Asn1Read where
  tlv : Option (UInt8 × Asn1Span)
  off : UInt64
deriving DecidableEq, Repr

/-- The length in `lenBytes` bytes from `off`. -/
def asn1LongLen (m : List UInt8) (der : Asn1Span) (off : UInt64) (lenBytes : Nat) : UInt64 :=
  (List.range lenBytes).foldl
    (fun len i => (len <<< 8) ||| (der.byte m (off + UInt64.ofNat i)).toUInt64) 0

/-- `asn1_read_tlv` at `off`; `sizeof(size_t)` is 8. -/
def asn1ReadTlv (m : List UInt8) (der : Asn1Span) (off : UInt64) : Asn1Read :=
  if off + 2 > der.len then ⟨none, off⟩
  else
    let tag := der.byte m off
    let firstLen := der.byte m (off + 1)
    let off := off + 2
    let long := firstLen &&& 0x80 ≠ 0
    let lenBytes := (firstLen &&& 0x7f).toUInt64
    if long ∧ (lenBytes = 0 ∨ lenBytes > 8 ∨ off + lenBytes > der.len) then ⟨none, off⟩
    else
      let len := if long then asn1LongLen m der off lenBytes.toNat else firstLen.toUInt64
      let off := if long then off + lenBytes else off
      if off + len > der.len then ⟨none, off⟩
      else ⟨some (tag, ⟨der.pos + off, len⟩), off + len⟩

/-- `asn1_read_tlv` where the caller goes on with any tag: the tag, the value and the
next offset. -/
def asn1Next (m : List UInt8) (der : Asn1Span) (off : UInt64) :
    Option (UInt8 × Asn1Span × UInt64) :=
  let r := asn1ReadTlv m der off
  r.tlv.map fun tv => (tv.1, tv.2, r.off)

/-- `asn1_read_tlv` where the caller leaves on another tag. -/
def asn1Expect (m : List UInt8) (der : Asn1Span) (off : UInt64) (tag : UInt8) :
    Option (Asn1Span × UInt64) := do
  let (found, value, off) ← asn1Next m der off
  if found = tag then some (value, off) else none

/-! ## Spans in memory -/

/-- A span lies within the message, and the message within half of the address space. -/
structure Asn1Span.Within (m : List UInt8) (p : Asn1Span) : Prop where
  fits : p.pos.toNat + p.len.toNat ≤ m.length
  small : m.length < 2 ^ 63

section Within

variable {m : List UInt8} {p der v : Asn1Span} {off next : UInt64} {tag : UInt8}

theorem Asn1Span.Within.length_bytes (h : p.Within m) : (p.bytes m).length = p.len.toNat := by
  have hfits := h.fits
  simp [Asn1Span.bytes]
  omega

theorem Asn1Span.Within.byte_eq (h : p.Within m) {i : Nat} (hi : i < p.len.toNat) (off : UInt64)
    (hoff : off.toNat = i) : p.byte m off = (p.bytes m).getD i 0 := by
  have hfits := h.fits
  have hsmall := h.small
  have hpos : (p.pos + off).toNat = p.pos.toNat + i := by
    rw [UInt64.toNat_add, hoff, Nat.mod_eq_of_lt (by omega)]
  rw [Asn1Span.byte, hpos, Asn1Span.bytes]
  simp [List.getD_eq_getElem?_getD, List.getElem?_drop, hi]

/-! ## One read -/

/-- The bytes of the header at `off`. -/
def asn1HeaderLen (m : List UInt8) (der : Asn1Span) (off : UInt64) : UInt64 :=
  let firstLen := der.byte m (off + 1)
  if firstLen &&& 0x80 ≠ 0 then 2 + (firstLen &&& 0x7f).toUInt64 else 2

/-- The length it states. -/
def asn1Length (m : List UInt8) (der : Asn1Span) (off : UInt64) : UInt64 :=
  let firstLen := der.byte m (off + 1)
  if firstLen &&& 0x80 ≠ 0 then asn1LongLen m der (off + 2) (firstLen &&& 0x7f).toUInt64.toNat
  else firstLen.toUInt64

/-- The end of the value at `off` is a number of 64 bits. -/
def Asn1NoWrap (m : List UInt8) (der : Asn1Span) (off : UInt64) : Prop :=
  off.toNat + (asn1HeaderLen m der off).toNat + (asn1Length m der off).toNat < 2 ^ 64

instance : Decidable (Asn1NoWrap m der off) := inferInstanceAs (Decidable (_ < _))

/-- A value within its buffer, behind a header at `off` and in front of the next offset. -/
structure Asn1Inside (der : Asn1Span) (off : UInt64) (v : Asn1Span) (next : UInt64) : Prop where
  start : ∃ start, off.toNat + 2 ≤ start ∧ v.pos.toNat = der.pos.toNat + start ∧ start + v.len.toNat = next.toNat
  le : next ≤ der.len

theorem Asn1Inside.lt (h : Asn1Inside der off v next) : off < next := by
  obtain ⟨start, hoff, -, hnext⟩ := h.start
  rw [UInt64.lt_iff_toNat_lt]
  omega

/-- What `asn1_read_tlv` does: it fails and leaves the offset, or moves it within the buffer; or it
finds a value whose end, computed with 64 bits, is not past the buffer. -/
theorem asn1ReadTlv_cases (m : List UInt8) (der : Asn1Span) (off : UInt64) :
    (∃ left, asn1ReadTlv m der off = ⟨none, left⟩ ∧ (left = off ∨ left ≤ der.len)) ∨
      off + 2 ≤ der.len ∧ 2 ≤ (asn1HeaderLen m der off).toNat ∧ (asn1HeaderLen m der off).toNat ≤ 10 ∧
        off + asn1HeaderLen m der off ≤ der.len ∧ off + asn1HeaderLen m der off + asn1Length m der off ≤ der.len ∧
        asn1ReadTlv m der off =
          ⟨some (der.byte m off, ⟨der.pos + (off + asn1HeaderLen m der off), asn1Length m der off⟩),
            off + asn1HeaderLen m der off + asn1Length m der off⟩ := by
  unfold asn1ReadTlv asn1HeaderLen asn1Length
  dsimp only
  generalize der.byte m (off + 1) = firstLen
  by_cases hroom : off + 2 > der.len
  · exact .inl ⟨off, by rw [if_pos hroom], .inl rfl⟩
  have hroom' : off + 2 ≤ der.len := UInt64.not_lt.mp hroom
  rw [if_neg hroom]
  by_cases hlong : firstLen &&& 0x80 ≠ 0
  · rw [if_pos hlong, if_pos hlong, if_pos hlong]
    by_cases hbad : (firstLen &&& 0x7f).toUInt64 = 0 ∨ (firstLen &&& 0x7f).toUInt64 > 8 ∨
        off + 2 + (firstLen &&& 0x7f).toUInt64 > der.len
    · exact .inl ⟨off + 2, by rw [if_pos ⟨hlong, hbad⟩], .inr hroom'⟩
    rw [if_neg fun h => hbad h.2]
    obtain ⟨hzero, hmany, hfits⟩ : (firstLen &&& 0x7f).toUInt64 ≠ 0 ∧ (firstLen &&& 0x7f).toUInt64 ≤ 8 ∧
        off + 2 + (firstLen &&& 0x7f).toUInt64 ≤ der.len := by
      simpa only [not_or, gt_iff_lt, UInt64.not_lt] using hbad
    generalize (firstLen &&& 0x7f).toUInt64 = lenBytes at hzero hmany hfits ⊢
    have hheader : (2 + lenBytes).toNat = 2 + lenBytes.toNat := by
      have hle := UInt64.le_iff_toNat_le.mp hmany
      simp only [UInt64.reduceToNat] at hle
      rw [UInt64.toNat_add, Nat.mod_eq_of_lt (by simp; omega)]
      rfl
    have hle := UInt64.le_iff_toNat_le.mp hmany
    simp only [UInt64.reduceToNat] at hle
    rw [UInt64.add_assoc off 2 lenBytes] at hfits ⊢
    by_cases hend : off + (2 + lenBytes) + asn1LongLen m der (off + 2) lenBytes.toNat > der.len
    · exact .inl ⟨_, by rw [if_pos hend], .inr hfits⟩
    · exact .inr ⟨hroom', by omega, by omega, hfits, UInt64.not_lt.mp hend, by rw [if_neg hend]⟩
  · rw [if_neg hlong, if_neg hlong, if_neg hlong, if_neg fun h => hlong h.1]
    by_cases hend : off + 2 + firstLen.toUInt64 > der.len
    · exact .inl ⟨_, by rw [if_pos hend], .inr hroom'⟩
    · exact .inr ⟨hroom', by decide, by decide, hroom', UInt64.not_lt.mp hend, by rw [if_neg hend]⟩

/-- The value is within its buffer and the offset moves forward exactly when the end of the value
does not wrap. -/
theorem asn1ReadTlv_inside_iff (hder : der.Within m) (hread : (asn1ReadTlv m der off).tlv = some (tag, v)) :
    Asn1Inside der off v (asn1ReadTlv m der off).off ↔ Asn1NoWrap m der off := by
  obtain ⟨left, hfail, -⟩ | ⟨hroom, htwo, hten, hheader, hend, hok⟩ := asn1ReadTlv_cases m der off
  · simp [hfail] at hread
  rw [hok] at hread ⊢
  simp only [Option.some.injEq, Prod.mk.injEq] at hread
  obtain ⟨-, rfl⟩ := hread
  have hfits := hder.fits
  have hsmall := hder.small
  have hoff := off.toNat_lt
  have hlen := (asn1Length m der off).toNat_lt
  rw [UInt64.le_iff_toNat_le, UInt64.toNat_add] at hroom hheader
  rw [Asn1NoWrap]
  generalize asn1HeaderLen m der off = header at *
  generalize asn1Length m der off = len at *
  constructor
  · rintro ⟨⟨start, hstart, hpos, hnext⟩, -⟩
    simp only [UInt64.toNat_add] at hpos hnext
    omega
  · intro hwrap
    rw [UInt64.le_iff_toNat_le] at hend
    refine ⟨⟨off.toNat + header.toNat, ?_, ?_, ?_⟩, UInt64.le_iff_toNat_le.mpr hend⟩ <;>
      simp only [UInt64.toNat_add] at * <;> omega

end Within

end Orizon
