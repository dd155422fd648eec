import Orizon.Wifi.Bytewise
import Orizon.Wifi.Firmware
import Mathlib.Algebra.Order.BigOperators.Group.List

/-!
# Orizon.Wifi.FirmwareTlv

`wifi_parse_firmware_blob` byte by byte, with the places of the payloads in the blob.

The walk over the TLVs stays inside the blob and records what they say, in the order in which
they lie (`FirmwareRecorded`).  The one sum that can wrap is that of a section's DMA chunks
(`wifiParseFirmwareBlob_recorded_iff`).
-/

namespace Orizon

/-- What `wifi_parse_firmware_blob` has recorded, and for each section where its payload begins
in the blob and how long it is. -/
structure WifiFwAt where
  fw : WifiFirmware
  places : List (Nat × Nat)

namespace Bytewise

/-! ## The code, byte by byte -/

/-- `wifi_read_le32`. -/
def wifiReadLe32 (p : List UInt8) (off : Nat) : Checked UInt32 := do
  let a ← readAt p off
  let b ← readAt p (off + 1)
  let c ← readAt p (off + 2)
  let d ← readAt p (off + 3)
  pure (a.toUInt32 ||| (b.toUInt32 <<< 8) ||| (c.toUInt32 <<< 16) ||| (d.toUInt32 <<< 24))

/-- The end of `wifi_record_fw_section`, for a payload of `len` bytes at `off`. -/
def wifiKeepFwSection (blob : List UInt8) (s : WifiFwAt) (type : UInt32) (image : WifiFwImage) (dst : UInt32)
    (secure isData : Bool) (off len : Nat) : Checked WifiFwAt :=
  if len = 0 then pure s
  else if s.fw.sections.length ≥ wifiFwMaxSections then pure { s with fw := s.fw.failed }
  else do
    slotAt wifiFwMaxSections s.fw.sections.length
    let data ← sliceAt blob off len
    pure
      { fw := Orizon.wifiKeepFwSection s.fw { tlvType := type, image, dst, data, secure } isData
        places := s.places ++ [(off, len)] }

/-- `wifi_record_fw_section`. -/
def wifiRecordFwSection (blob : List UInt8) (s : WifiFwAt) (type : UInt32) (off len : Nat) : Checked WifiFwAt :=
  match wifiFwSectionKind type with
  | none => pure s
  | some (image, dst, false, isData) => wifiKeepFwSection blob s type image dst false isData off len
  | some (image, _, true, isData) =>
      if len < 4 then pure { s with fw := s.fw.failed }
      else do
        let dst ← wifiReadLe32 blob off
        wifiKeepFwSection blob { s with fw := { s.fw with secureSections := s.fw.secureSections + 1 } }
          type image dst true isData (off + 4) (len - 4)

/-- `wifi_record_fw_tlv`. -/
def wifiRecordFwTlv (blob : List UInt8) (s : WifiFwAt) (type : UInt32) (off len : Nat) : Checked WifiFwAt := do
  let fw ← (if type = 29 then pure { s.fw with apiCount := s.fw.apiCount + 1 }
    else if type = 30 then pure { s.fw with capaCount := s.fw.capaCount + 1 }
    else if type = 27 ∧ len ≥ 4 then do
      let cpus ← wifiReadLe32 blob off
      pure { s.fw with cpuCount := cpus }
    else pure s.fw)
  wifiRecordFwSection blob { s with fw } type off len

/-- The loop of `wifi_parse_firmware_blob` from `off` on, with the offset it ends at. -/
def wifiParseTlvs (blob : List UInt8) : Nat → WifiFwAt → Nat → Checked (WifiFwAt × Nat)
  | 0, _, _ => .error .endless
  | fuel + 1, s, off =>
      if off + 8 ≤ blob.length then do
        let type ← wifiReadLe32 blob off
        let len ← wifiReadLe32 blob (off + 4)
        let off := off + 8
        if len.toNat > blob.length - off then pure ({ s with fw := s.fw.failed }, off)
        else do
          let s ← wifiRecordFwTlv blob { s with fw := { s.fw with tlvCount := s.fw.tlvCount + 1 } } type off len.toNat
          let next := off + wifiAlign4 len.toNat
          if next < off ∨ next > blob.length then pure ({ s with fw := s.fw.failed }, off)
          else wifiParseTlvs blob fuel s next
      else pure (s, off)

/-- The loop over the name in the header: it ends behind a zero. -/
def wifiFwTextFrom (blob : List UInt8) : Nat → Nat → Checked (List UInt8)
  | _, 0 => pure []
  | i, n + 1 => do
      let c ← readAt blob (8 + i)
      slotAt 65 i
      if c = 0 then pure [0]
      else do
        let text ← wifiFwTextFrom blob (i + 1) n
        pure ((if wifiIsPrintableAscii c then c else 0) :: text)

/-- `firmware_human`. -/
def wifiFwHuman (blob : List UInt8) : Checked (List UInt8) := do
  let text ← wifiFwTextFrom blob 0 64
  let text := (text.reverse.dropWhile fun c => c = 0x20 || c = 0).reverse
  pure (text ++ List.replicate (64 - text.length) 0)

/-- `wifi_parse_firmware_blob`. -/
def wifiParseFirmwareBlob (fw : WifiFirmware) (blob : List UInt8) : Checked WifiFwAt :=
  let fw := fw.unparsed
  if blob.length < iwlTlvHeaderSize then pure ⟨fw.failed, []⟩
  else do
    let zero ← wifiReadLe32 blob 0
    let magic ← wifiReadLe32 blob 4
    if zero ≠ 0 ∨ magic ≠ iwlTlvUcodeMagic then pure ⟨fw.failed, []⟩
    else do
      let human ← wifiFwHuman blob
      let version ← wifiReadLe32 blob 72
      let build ← wifiReadLe32 blob 76
      let (s, off) ← wifiParseTlvs blob (blob.length - iwlTlvHeaderSize + 1)
        ⟨{ fw with human, version, build }, []⟩ iwlTlvHeaderSize
      let fw := if off ≠ blob.length ∧ off < blob.length then s.fw.failed else s.fw
      let valid := fw.tlvCount > 0 && fw.parseErrors = 0
      pure { s with fw := { fw with
        valid
        loadPlanReady := valid && fw.sections.length > 0 && fw.loadBytes > 0 } }

end Bytewise

/-! ## What it is for -/

/-- A TLV: its type, and where its data lie. -/
structure WifiTlvAt where
  type : UInt32
  off : Nat
  len : Nat
  deriving DecidableEq

/-- The TLV whose header is at `off`. -/
def wifiTlvAt (blob : List UInt8) (off : Nat) : WifiTlvAt where
  type := wifiReadLe32 blob off
  off := off + 8
  len := (wifiReadLe32 blob (off + 4)).toNat

/-- Where the next header is. -/
def WifiTlvAt.next (t : WifiTlvAt) : Nat := t.off + wifiAlign4 t.len

/-- The payload of the section that the TLV holds, if it does and there is one. -/
def WifiTlvAt.payload (t : WifiTlvAt) : Option (Nat × Nat) :=
  match wifiFwSectionKind t.type with
  | none => none
  | some (_, _, secure, _) =>
      -- a secure section begins with its address
      let skip := if secure then 4 else 0
      if skip < t.len then some (t.off + skip, t.len - skip) else none

/-- A secure section without room for its address. -/
def WifiTlvAt.Malformed (t : WifiTlvAt) : Prop :=
  t.len < 4 ∧ ∃ image dst isData, wifiFwSectionKind t.type = some (image, dst, true, isData)

/-- The TLVs lie one behind the other, each padded to four bytes, from `off` to `stop`. -/
def WifiTlvsTile (blob : List UInt8) : Nat → List WifiTlvAt → Nat → Prop
  | off, [], stop => off = stop
  | off, t :: ts, stop => t = wifiTlvAt blob off ∧ WifiTlvsTile blob t.next ts stop

/-- The header of an image. -/
def WifiFwHeader (blob : List UInt8) : Prop :=
  iwlTlvHeaderSize ≤ blob.length ∧ wifiReadLe32 blob 0 = 0 ∧ wifiReadLe32 blob 4 = iwlTlvUcodeMagic

instance (blob : List UInt8) : Decidable (WifiFwHeader blob) :=
  inferInstanceAs (Decidable (_ ∧ _ ∧ _))

/-- A well formed image: TLVs tile all that follows the header, none of them is malformed,
and their sections have room in the table. -/
def WifiFwWellFormed (blob : List UInt8) : Prop :=
  WifiFwHeader blob ∧ ∃ tlvs, tlvs ≠ [] ∧ WifiTlvsTile blob iwlTlvHeaderSize tlvs blob.length ∧
    (∀ t ∈ tlvs, ¬ t.Malformed) ∧ (tlvs.filterMap WifiTlvAt.payload).length ≤ wifiFwMaxSections

/-- What is recorded of a blob. -/
structure FirmwareRecorded (blob : List UInt8) (s : WifiFwAt) : Prop where
  count : s.fw.sections.length ≤ wifiFwMaxSections
  data : s.fw.sections.map WifiFwSection.data = s.places.map fun p => (blob.drop p.1).take p.2
  inside : ∀ p ∈ s.places, p.1 + p.2 ≤ blob.length
  apart : s.places.Pairwise fun p q => p.1 + p.2 ≤ q.1
  bytes : s.fw.loadBytes = (s.places.map Prod.snd).sum
  chunks : s.fw.loadChunks = (s.places.map fun p => (p.2 + wifiDmaChunkBytes - 1) / wifiDmaChunkBytes).sum
  valid : s.fw.valid = true ↔ WifiFwWellFormed blob

/-- The TLVs from `off` on, as far as their data lie in the blob. -/
def wifiTlvsFrom (blob : List UInt8) : Nat → Nat → List WifiTlvAt
  | 0, _ => []
  | fuel + 1, off =>
      let t := wifiTlvAt blob off
      if blob.length < off + 8 ∨ blob.length < t.off + t.len then []
      else t :: wifiTlvsFrom blob fuel t.next

/-- The payloads of the sections of a blob, in the order in which they lie. -/
def wifiFwPayloads (blob : List UInt8) : List (Nat × Nat) :=
  if WifiFwHeader blob then
    (wifiTlvsFrom blob (blob.length - iwlTlvHeaderSize + 1) iwlTlvHeaderSize).filterMap WifiTlvAt.payload
  else []

/-! ## One TLV -/

section Record

variable {p blob : List UInt8} {fw fw' : WifiFirmware} {s : WifiFwAt} {off len n i : Nat}

theorem wifiReadLe32_bytewise (h : off + 4 ≤ p.length) : Bytewise.wifiReadLe32 p off = .ok (wifiReadLe32 p off) := by
  simp [Bytewise.wifiReadLe32, wifiReadLe32, readAt_getD 0 (show off < p.length by omega),
    readAt_getD 0 (show off + 1 < p.length by omega), readAt_getD 0 (show off + 2 < p.length by omega),
    readAt_getD 0 (show off + 3 < p.length by omega)]

theorem wifiReadLe32_drop (p : List UInt8) (off i : Nat) : wifiReadLe32 (p.drop off) i = wifiReadLe32 p (off + i) := by
  simp [wifiReadLe32, List.getD_eq_getElem?_getD, Nat.add_assoc]

theorem wifiReadLe32_slice (p : List UInt8) (off : Nat) (h : 4 ≤ n) :
    wifiReadLe32 ((p.drop off).take n) 0 = wifiReadLe32 p off := by
  simp [wifiReadLe32, List.getD_eq_getElem?_getD, show 0 < n by omega, show 1 < n by omega,
    show 2 < n by omega, show 3 < n by omega]

theorem payload_inside {t : WifiTlvAt} {place : Nat × Nat} (h : place ∈ t.payload) :
    t.off ≤ place.1 ∧ place.1 + place.2 = t.off + t.len := by
  unfold WifiTlvAt.payload at h
  grind

/-- What recording may do to the fields that the walk goes by. -/
structure WifiFwStep (fw fw' : WifiFirmware) (errors : Nat) (added : List WifiFwSection) : Prop where
  tlvs : fw'.tlvCount = fw.tlvCount
  errors : fw'.parseErrors = fw.parseErrors + errors
  sections : fw'.sections = fw.sections ++ added
  bytes : fw'.loadBytes = fw.loadBytes + (added.map fun sec => sec.data.length).sum
  chunks : fw'.loadChunks = fw.loadChunks + (added.map fun sec => wifiFwChunks sec.data.length).sum

theorem wifiFwStep_failed (fw : WifiFirmware) : WifiFwStep fw fw.failed 1 [] := by
  constructor <;> simp [WifiFirmware.failed]

theorem wifiKeepFwSection_step (fw : WifiFirmware) (sec : WifiFwSection) (isData : Bool) :
    (sec.data = [] ∧ wifiKeepFwSection fw sec isData = fw) ∨
      (sec.data ≠ [] ∧ wifiFwMaxSections ≤ fw.sections.length ∧ wifiKeepFwSection fw sec isData = fw.failed) ∨
      (sec.data ≠ [] ∧ fw.sections.length < wifiFwMaxSections ∧
        WifiFwStep fw (wifiKeepFwSection fw sec isData) 0 [sec]) := by
  by_cases hdata : sec.data = []
  · exact .inl ⟨hdata, by simp [wifiKeepFwSection, hdata]⟩
  · have hlen : sec.data.length ≠ 0 := by simpa using hdata
    by_cases hfull : fw.sections.length ≥ wifiFwMaxSections
    · exact .inr (.inl ⟨hdata, hfull, by simp [wifiKeepFwSection, hlen, hfull]⟩)
    · refine .inr (.inr ⟨hdata, by omega, ?_⟩)
      simp only [wifiKeepFwSection, if_neg hlen, if_neg hfull]
      cases sec.image <;> constructor <;> simp [wifiCountFwImage]

theorem WifiFwStep.after {fw₁ : WifiFirmware} {errors : Nat} {added : List WifiFwSection} (h : WifiFwStep fw fw₁ 0 [])
    (h' : WifiFwStep fw₁ fw' errors added) : WifiFwStep fw fw' errors added := by
  obtain ⟨h1, h2, h3, h4, h5⟩ := h
  obtain ⟨h1', h2', h3', h4', h5'⟩ := h'
  constructor <;> simp_all

/-- A TLV is passed over, or is an error, or is a section for which there is no room, or is kept. -/
inductive WifiFwOutcome (blob : List UInt8) (fw fw' : WifiFirmware) (t : WifiTlvAt) : Prop
  | skipped (ok : ¬ t.Malformed) (none : t.payload = none) (step : WifiFwStep fw fw' 0 [])
  | malformed (bad : t.Malformed) (none : t.payload = none) (step : WifiFwStep fw fw' 1 [])
  | full (ok : ¬ t.Malformed) (place : Nat × Nat) (some : t.payload = some place)
      (room : wifiFwMaxSections ≤ fw.sections.length) (step : WifiFwStep fw fw' 1 [])
  | kept (ok : ¬ t.Malformed) (place : Nat × Nat) (sec : WifiFwSection) (some : t.payload = some place)
      (room : fw.sections.length < wifiFwMaxSections) (data : sec.data = (blob.drop place.1).take place.2)
      (len : sec.data.length = place.2) (step : WifiFwStep fw fw' 0 [sec])

theorem WifiFwOutcome.after {fw₁ : WifiFirmware} {t : WifiTlvAt} (h : WifiFwStep fw fw₁ 0 [])
    (h' : WifiFwOutcome blob fw₁ fw' t) : WifiFwOutcome blob fw fw' t := by
  have hsec : fw₁.sections = fw.sections := by simpa using h.sections
  cases h' with
  | skipped ok none step => exact .skipped ok none (h.after step)
  | malformed bad none step => exact .malformed bad none (h.after step)
  | full ok place some room step => exact .full ok place some (hsec ▸ room) (h.after step)
  | kept ok place sec some room data len step =>
      exact .kept ok place sec some (hsec ▸ room) data len (h.after step)

/-- The end of a section's recording, where the payload is what is left behind the address. -/
theorem wifiKeepFwSection_outcome {t : WifiTlvAt} {sec : WifiFwSection} {isData : Bool} {skip : Nat}
    (hok : ¬ t.Malformed) (hin : t.off + t.len ≤ blob.length)
    (hpay : t.payload = if skip < t.len then some (t.off + skip, t.len - skip) else none)
    (hdata : sec.data = (blob.drop (t.off + skip)).take (t.len - skip)) :
    WifiFwOutcome blob fw (wifiKeepFwSection fw sec isData) t := by
  have hlen : sec.data.length = t.len - skip := by
    rw [hdata, List.length_take, List.length_drop]
    omega
  obtain ⟨hnil, heq⟩ | ⟨hne, hfull, heq⟩ | ⟨hne, hroom, hstep⟩ := wifiKeepFwSection_step fw sec isData
  · rw [heq]
    have hshort : ¬ skip < t.len := by simp [hnil] at hlen; omega
    rw [if_neg hshort] at hpay
    exact .skipped hok hpay (by constructor <;> simp)
  · rw [heq]
    have hpos := List.length_pos_iff.mpr hne
    rw [if_pos (by omega)] at hpay
    exact .full hok _ hpay hfull (wifiFwStep_failed fw)
  · have hpos := List.length_pos_iff.mpr hne
    rw [if_pos (by omega)] at hpay
    exact .kept hok _ sec hpay hroom hdata hlen hstep

theorem wifiRecordFwSection_outcome (fw : WifiFirmware) (t : WifiTlvAt) (hin : t.off + t.len ≤ blob.length) :
    WifiFwOutcome blob fw (wifiRecordFwSection fw t.type ((blob.drop t.off).take t.len)) t := by
  have hlen : ((blob.drop t.off).take t.len).length = t.len := by
    rw [List.length_take, List.length_drop]
    omega
  match hkind : wifiFwSectionKind t.type with
  | none =>
      have hpay : t.payload = none := by simp [WifiTlvAt.payload, hkind]
      have hok : ¬ t.Malformed := by simp [WifiTlvAt.Malformed, hkind]
      simp only [wifiRecordFwSection, hkind]
      exact .skipped hok hpay (by constructor <;> simp)
  | some (image, dst, false, isData) =>
      have hok : ¬ t.Malformed := by simp [WifiTlvAt.Malformed, hkind]
      simp only [wifiRecordFwSection, hkind]
      exact @wifiKeepFwSection_outcome _ _ _ _ _ 0 hok hin (by simp [WifiTlvAt.payload, hkind]) (by simp)
  | some (image, dst, true, isData) =>
      simp only [wifiRecordFwSection, hkind, hlen]
      by_cases hshort : t.len < 4
      · have hpay : t.payload = none := by simp [WifiTlvAt.payload, hkind]; omega
        rw [if_pos hshort]
        exact .malformed ⟨hshort, image, dst, isData, hkind⟩ hpay (wifiFwStep_failed fw)
      · rw [if_neg hshort]
        have hstep : WifiFwStep fw { fw with secureSections := fw.secureSections + 1 } 0 [] := by constructor <;> simp
        refine .after hstep ?_
        refine @wifiKeepFwSection_outcome _ _ _ _ _ 4 (fun hbad => hshort hbad.1) hin
          (by simp [WifiTlvAt.payload, hkind]) ?_
        rw [List.drop_take, List.drop_drop]

theorem wifiRecordFwTlv_outcome (fw : WifiFirmware) (t : WifiTlvAt) (hin : t.off + t.len ≤ blob.length) :
    WifiFwOutcome blob fw (wifiRecordFwTlv fw t.type ((blob.drop t.off).take t.len)) t := by
  simp only [wifiRecordFwTlv]
  refine .after ?_ (wifiRecordFwSection_outcome _ t hin)
  split
  · constructor <;> simp
  · split
    · constructor <;> simp
    · split <;> constructor <;> simp

/-! ## One TLV, byte by byte -/

/-- The places with that of one more payload, if there is room. -/
def WifiFwAt.placesWith (s : WifiFwAt) (payload : Option (Nat × Nat)) : List (Nat × Nat) :=
  if s.fw.sections.length < wifiFwMaxSections then s.places ++ payload.toList else s.places

theorem wifiKeepFwSection_bytewise (s : WifiFwAt) (type : UInt32) (image : WifiFwImage) (dst : UInt32)
    (secure isData : Bool) (hin : off + len ≤ blob.length) :
    Bytewise.wifiKeepFwSection blob s type image dst secure isData off len = .ok
      { fw := wifiKeepFwSection s.fw
          { tlvType := type, image, dst, data := (blob.drop off).take len, secure } isData
        places := s.placesWith (if 0 < len then some (off, len) else none) } := by
  have hlen : ((blob.drop off).take len).length = len := by
    rw [List.length_take, List.length_drop]
    omega
  by_cases h0 : len = 0
  · simp [Bytewise.wifiKeepFwSection, wifiKeepFwSection, WifiFwAt.placesWith, h0]
  · by_cases hfull : s.fw.sections.length ≥ wifiFwMaxSections
    · simp [Bytewise.wifiKeepFwSection, wifiKeepFwSection, WifiFwAt.placesWith, h0, hlen, hfull, not_lt.mpr hfull]
    · have hroom : s.fw.sections.length < wifiFwMaxSections := by omega
      simp [Bytewise.wifiKeepFwSection, WifiFwAt.placesWith, h0, hfull, slotAt_eq hroom, sliceAt_eq hin, hroom,
        Nat.pos_of_ne_zero h0]

theorem wifiRecordFwSection_bytewise (s : WifiFwAt) (t : WifiTlvAt) (hin : t.off + t.len ≤ blob.length) :
    Bytewise.wifiRecordFwSection blob s t.type t.off t.len = .ok
      { fw := wifiRecordFwSection s.fw t.type ((blob.drop t.off).take t.len)
        places := s.placesWith t.payload } := by
  have hlen : ((blob.drop t.off).take t.len).length = t.len := by
    rw [List.length_take, List.length_drop]
    omega
  match hkind : wifiFwSectionKind t.type with
  | none => simp [Bytewise.wifiRecordFwSection, wifiRecordFwSection, hkind, WifiTlvAt.payload, WifiFwAt.placesWith]
  | some (image, dst, false, isData) =>
      simp [Bytewise.wifiRecordFwSection, wifiRecordFwSection, hkind, WifiTlvAt.payload,
        wifiKeepFwSection_bytewise _ _ _ _ _ _ hin]
  | some (image, dst, true, isData) =>
      by_cases hshort : t.len < 4
      · have hno : ¬ 4 < t.len := by omega
        simp [Bytewise.wifiRecordFwSection, wifiRecordFwSection, hkind, WifiTlvAt.payload, WifiFwAt.placesWith, hlen,
          hshort, hno]
      · have hpos : (0 < t.len - 4) = (4 < t.len) := by simp
        have hcut : ((blob.drop t.off).take t.len).drop 4 = (blob.drop (t.off + 4)).take (t.len - 4) := by
          rw [List.drop_take, List.drop_drop]
        simp only [Bytewise.wifiRecordFwSection, wifiRecordFwSection, hkind, WifiTlvAt.payload, hlen, if_neg hshort,
          wifiReadLe32_bytewise (show t.off + 4 ≤ blob.length by omega), checked_bind,
          wifiKeepFwSection_bytewise _ _ _ _ _ _ (show t.off + 4 + (t.len - 4) ≤ blob.length by omega),
          wifiReadLe32_slice blob t.off (show 4 ≤ t.len by omega), hcut, hpos, if_true]
        rfl

theorem wifiRecordFwTlv_bytewise (s : WifiFwAt) (t : WifiTlvAt) (hin : t.off + t.len ≤ blob.length) :
    Bytewise.wifiRecordFwTlv blob s t.type t.off t.len = .ok
      { fw := wifiRecordFwTlv s.fw t.type ((blob.drop t.off).take t.len)
        places := s.placesWith t.payload } := by
  have hlen : ((blob.drop t.off).take t.len).length = t.len := by
    rw [List.length_take, List.length_drop]
    omega
  simp only [Bytewise.wifiRecordFwTlv, wifiRecordFwTlv, hlen]
  by_cases h29 : t.type = 29
  · simp only [if_pos h29, checked_pure, checked_bind, wifiRecordFwSection_bytewise _ t hin]
    rfl
  · by_cases h30 : t.type = 30
    · simp only [if_neg h29, if_pos h30, checked_pure, checked_bind, wifiRecordFwSection_bytewise _ t hin]
      rfl
    · by_cases h27 : t.type = 27 ∧ t.len ≥ 4
      · simp only [if_neg h29, if_neg h30, if_pos h27, checked_pure, checked_bind,
          wifiReadLe32_bytewise (show t.off + 4 ≤ blob.length by omega), wifiReadLe32_slice blob t.off h27.2,
          wifiRecordFwSection_bytewise _ t hin]
        rfl
      · simp only [if_neg h29, if_neg h30, if_neg h27, checked_pure, checked_bind, wifiRecordFwSection_bytewise _ t hin]

end Record

/-! ## The walk -/

section Walk

variable {blob : List UInt8} {fw : WifiFirmware} {s : WifiFwAt} {tlvs : List WifiTlvAt} {off fuel : Nat}

theorem wifiTlvAt_off (blob : List UInt8) (off : Nat) : (wifiTlvAt blob off).off = off + 8 := rfl

theorem le_next (t : WifiTlvAt) : t.off + t.len ≤ t.next := by
  simp only [WifiTlvAt.next, wifiAlign4]
  omega

/-- A round of the loop over what is left, by offsets into the blob. -/
theorem wifiParseTlvs_drop (fuel : Nat) (fw : WifiFirmware) (hoff : off ≤ blob.length) :
    wifiParseTlvs (fuel + 1) fw (blob.drop off) =
      if blob.length < off + 8 then if off = blob.length then fw else fw.failed
      else if blob.length < off + 8 + (wifiTlvAt blob off).len then
        if off + 8 = blob.length then fw.failed else fw.failed.failed
      else
        let fw := wifiRecordFwTlv { fw with tlvCount := fw.tlvCount + 1 } (wifiTlvAt blob off).type
          ((blob.drop (off + 8)).take (wifiTlvAt blob off).len)
        if blob.length < (wifiTlvAt blob off).next then if off + 8 = blob.length then fw.failed else fw.failed.failed
        else wifiParseTlvs fuel fw (blob.drop (wifiTlvAt blob off).next) := by
  have hnil : ∀ k, k ≤ blob.length → ((blob.drop k = []) = (k = blob.length)) := by
    intro k hk
    rw [List.drop_eq_nil_iff, eq_iff_iff]
    omega
  have hshort : ((blob.drop off).length < 8) = (blob.length < off + 8) := by
    rw [List.length_drop, eq_iff_iff]
    omega
  rw [wifiParseTlvs]
  simp only [hshort, hnil off hoff]
  by_cases h8 : blob.length < off + 8
  · simp only [if_pos h8]
  · have hrest : ∀ k, ((blob.drop (off + 8)).length < k) = (blob.length < off + 8 + k) := by
      intro k
      rw [List.length_drop, eq_iff_iff]
      omega
    simp only [if_neg h8, wifiReadLe32_drop, List.drop_drop, Nat.add_zero, gt_iff_lt, hrest, hnil (off + 8) (by omega)]
    rfl

/-- What the walk has recorded of the TLVs behind it. -/
structure WifiFwPlaced (blob : List UInt8) (tlvs : List WifiTlvAt) (s : WifiFwAt) : Prop where
  places : s.places = (tlvs.filterMap WifiTlvAt.payload).take wifiFwMaxSections
  data : s.fw.sections.map WifiFwSection.data = s.places.map fun p => (blob.drop p.1).take p.2
  bytes : s.fw.loadBytes = (s.places.map Prod.snd).sum
  chunks : s.fw.loadChunks = (s.places.map fun p => wifiFwChunks p.2).sum

theorem WifiFwPlaced.length_eq (h : WifiFwPlaced blob tlvs s) : s.fw.sections.length = s.places.length := by
  simpa using congrArg List.length h.data

theorem WifiFwPlaced.of_step (h : WifiFwPlaced blob tlvs s) {fw' : WifiFirmware} {errors : Nat}
    (hstep : WifiFwStep s.fw fw' errors []) : WifiFwPlaced blob tlvs { s with fw := fw' } := by
  obtain ⟨hplaces, hdata, hbytes, hchunks⟩ := h
  constructor
  · exact hplaces
  · simpa [hstep.sections] using hdata
  · simpa [hstep.bytes] using hbytes
  · simpa [hstep.chunks] using hchunks

theorem WifiFwPlaced.record (h : WifiFwPlaced blob tlvs s) {t : WifiTlvAt} {fw' : WifiFirmware}
    (hout : WifiFwOutcome blob s.fw fw' t) :
    WifiFwPlaced blob (tlvs ++ [t]) { fw := fw', places := s.placesWith t.payload } := by
  have hlen := h.length_eq
  have htake := h.places
  have hsize : s.places.length = min wifiFwMaxSections (tlvs.filterMap WifiTlvAt.payload).length := by
    rw [htake, List.length_take]
  cases hout with
  | skipped ok none step =>
      obtain ⟨hplaces, hdata, hbytes, hchunks⟩ := h.of_step step
      have hsame : s.placesWith t.payload = s.places := by simp [WifiFwAt.placesWith, none]
      rw [hsame]
      exact ⟨by simpa [none] using hplaces, hdata, hbytes, hchunks⟩
  | malformed bad none step =>
      obtain ⟨hplaces, hdata, hbytes, hchunks⟩ := h.of_step step
      have hsame : s.placesWith t.payload = s.places := by simp [WifiFwAt.placesWith, none]
      rw [hsame]
      exact ⟨by simpa [none] using hplaces, hdata, hbytes, hchunks⟩
  | full ok place some room step =>
      obtain ⟨hplaces, hdata, hbytes, hchunks⟩ := h.of_step step
      have hsame : s.placesWith t.payload = s.places := by simp [WifiFwAt.placesWith, not_lt.mpr room]
      rw [hsame]
      refine ⟨?_, hdata, hbytes, hchunks⟩
      have hcut : wifiFwMaxSections ≤ (tlvs.filterMap WifiTlvAt.payload).length := by omega
      simpa [some, List.take_append_of_le_length hcut] using hplaces
  | kept ok place sec some room data len step =>
      have hmore : s.placesWith t.payload = s.places ++ [place] := by simp [WifiFwAt.placesWith, room, some]
      have hall : (tlvs.filterMap WifiTlvAt.payload).length < wifiFwMaxSections := by omega
      rw [hmore]
      constructor
      · have hfew : ((tlvs ++ [t]).filterMap WifiTlvAt.payload).length ≤ wifiFwMaxSections := by
          simp [some]
          omega
        rw [List.take_of_length_le hfew, htake, List.take_of_length_le (by omega)]
        simp [some]
      · simp [step.sections, h.data, data]
      · simp [step.bytes, h.bytes, len]
      · simp [step.chunks, h.chunks, len]

/-- The loop, byte by byte, is the loop over what is left; its places are those of the TLVs it passes. -/
theorem wifiParseTlvs_bytewise (hoff : off ≤ blob.length) (hfuel : blob.length < off + fuel)
    (hs : WifiFwPlaced blob tlvs s) :
    ∃ s' stop, Bytewise.wifiParseTlvs blob fuel s off = .ok (s', stop) ∧
      (if stop ≠ blob.length ∧ stop < blob.length then s'.fw.failed else s'.fw) =
        wifiParseTlvs fuel s.fw (blob.drop off) ∧
      WifiFwPlaced blob (tlvs ++ wifiTlvsFrom blob fuel off) s' := by
  induction fuel generalizing s tlvs off with
  | zero => omega
  | succ fuel ih =>
      rw [wifiParseTlvs_drop fuel s.fw hoff, Bytewise.wifiParseTlvs, wifiTlvsFrom]
      by_cases h8 : blob.length < off + 8
      · refine ⟨s, off, by rw [if_neg (by omega)]; rfl, ?_, by simpa [h8] using hs⟩
        by_cases hend : off = blob.length
        · simp [hend]
        · simp [h8, hend, show off < blob.length by omega]
      · have htype : (wifiTlvAt blob off).type = wifiReadLe32 blob off := rfl
        have hlen : (wifiTlvAt blob off).len = (wifiReadLe32 blob (off + 4)).toNat := rfl
        simp only [if_pos (show off + 8 ≤ blob.length by omega),
          wifiReadLe32_bytewise (show off + 4 ≤ blob.length by omega),
          wifiReadLe32_bytewise (show off + 4 + 4 ≤ blob.length by omega), checked_bind, if_neg h8, ← htype, ← hlen]
        have hbig : ((wifiTlvAt blob off).len > blob.length - (off + 8)) =
            (blob.length < off + 8 + (wifiTlvAt blob off).len) := by
          rw [gt_iff_lt, eq_iff_iff]
          omega
        simp only [hbig, wifiTlvAt_off]
        by_cases hdata : blob.length < off + 8 + (wifiTlvAt blob off).len
        · refine ⟨{ s with fw := s.fw.failed }, off + 8, by rw [if_pos hdata]; rfl, ?_, ?_⟩
          · rw [if_pos hdata]
            by_cases hend : off + 8 = blob.length
            · simp [hend]
            · simp [hend, show off + 8 < blob.length by omega]
          · simpa [hdata] using hs.of_step (wifiFwStep_failed s.fw)
        · have hin : (wifiTlvAt blob off).off + (wifiTlvAt blob off).len ≤ blob.length := not_lt.mp hdata
          have hle := le_next (wifiTlvAt blob off)
          have hcounted : WifiFwPlaced blob tlvs { s with fw := { s.fw with tlvCount := s.fw.tlvCount + 1 } } :=
            ⟨hs.places, hs.data, hs.bytes, hs.chunks⟩
          have hrecord := wifiRecordFwTlv_bytewise { s with fw := { s.fw with tlvCount := s.fw.tlvCount + 1 } }
            (wifiTlvAt blob off) hin
          have hplaced := hcounted.record (wifiRecordFwTlv_outcome _ (wifiTlvAt blob off) hin)
          rw [wifiTlvAt_off] at hrecord hplaced hle
          have hnext : off + 8 + wifiAlign4 (wifiTlvAt blob off).len = (wifiTlvAt blob off).next := rfl
          simp only [if_neg hdata, hrecord, checked_bind, hnext, h8, false_or]
          generalize hfw : wifiRecordFwTlv _ _ _ = fw' at hplaced ⊢
          by_cases hend : blob.length < (wifiTlvAt blob off).next
          · refine ⟨{ s with fw := fw'.failed, places := _ }, off + 8, by rw [if_pos (.inr hend)]; rfl, ?_, ?_⟩
            · rw [if_pos hend]
              by_cases hat : off + 8 = blob.length
              · simp [hat]
              · simp [hat, show off + 8 < blob.length by omega]
            · have hstop : wifiTlvsFrom blob fuel (wifiTlvAt blob off).next = [] := by
                cases fuel with
                | zero => rfl
                | succ fuel => rw [wifiTlvsFrom, if_pos (.inl (by omega))]
              rw [hstop]
              exact hplaced.of_step (wifiFwStep_failed fw')
          · have hgo : ¬ ((wifiTlvAt blob off).next < off + 8 ∨ blob.length < (wifiTlvAt blob off).next) := by omega
            obtain ⟨s', stop, hrun, hsame, hplaced'⟩ := ih (not_lt.mp hend) (by omega) hplaced
            refine ⟨s', stop, by rw [if_neg hgo]; exact hrun, ?_, ?_⟩
            · rw [if_neg hend]
              exact hsame
            · simpa using hplaced'

theorem wifiTlvsFrom_apart (blob : List UInt8) (fuel off : Nat) :
    (∀ t ∈ wifiTlvsFrom blob fuel off, off ≤ t.off ∧ t.off + t.len ≤ blob.length) ∧
      (wifiTlvsFrom blob fuel off).Pairwise fun t u => t.off + t.len ≤ u.off := by
  induction fuel generalizing off with
  | zero => simp [wifiTlvsFrom]
  | succ fuel ih =>
      rw [wifiTlvsFrom]
      split
      · simp
      · next hin =>
          obtain ⟨hlies, hapart⟩ := ih (wifiTlvAt blob off).next
          have hnext := le_next (wifiTlvAt blob off)
          rw [wifiTlvAt_off] at hnext hin
          refine ⟨fun t ht => ?_, List.pairwise_cons.mpr ⟨fun t ht => ?_, hapart⟩⟩
          · obtain rfl | ht := List.mem_cons.mp ht
            · rw [wifiTlvAt_off]
              omega
            · have h := hlies t ht
              omega
          · have h := hlies t ht
            rw [wifiTlvAt_off]
            omega

theorem wifiFwPayloads_apart (blob : List UInt8) :
    (∀ p ∈ wifiFwPayloads blob, p.1 + p.2 ≤ blob.length) ∧
      (wifiFwPayloads blob).Pairwise fun p q => p.1 + p.2 ≤ q.1 := by
  unfold wifiFwPayloads
  split
  · obtain ⟨hlies, hapart⟩ := wifiTlvsFrom_apart blob (blob.length - iwlTlvHeaderSize + 1) iwlTlvHeaderSize
    constructor
    · intro p hp
      obtain ⟨t, ht, hpay⟩ := List.mem_filterMap.mp hp
      have hin := payload_inside (Option.mem_def.mpr hpay)
      have hlie := hlies t ht
      omega
    · refine List.pairwise_filterMap.mpr (hapart.imp fun {t u} htu p hp q hq => ?_)
      have hin := payload_inside (Option.mem_def.mpr hp)
      have hin' := payload_inside (Option.mem_def.mpr hq)
      omega
  · simp

/-! ## Validity -/

theorem WifiTlvsTile.le {stop : Nat} (h : WifiTlvsTile blob off tlvs stop) : off ≤ stop := by
  induction tlvs generalizing off with
  | nil => exact le_of_eq h
  | cons t ts ih =>
      obtain ⟨rfl, hrest⟩ := h
      have hle := ih hrest
      have hnext := le_next (wifiTlvAt blob off)
      rw [wifiTlvAt_off] at hnext
      omega

/-- A tiling of more than nothing begins with the TLV that is there. -/
theorem exists_tile_iff {stop : Nat} {good : List WifiTlvAt → Prop} (hne : off ≠ stop) :
    (∃ tlvs, WifiTlvsTile blob off tlvs stop ∧ good tlvs) ↔
      ∃ ts, WifiTlvsTile blob (wifiTlvAt blob off).next ts stop ∧ good (wifiTlvAt blob off :: ts) := by
  constructor
  · rintro ⟨tlvs, htile, hgood⟩
    cases tlvs with
    | nil => exact absurd htile hne
    | cons t ts =>
        obtain ⟨rfl, hrest⟩ := htile
        exact ⟨ts, hrest, hgood⟩
  · rintro ⟨ts, hrest, hgood⟩
    exact ⟨wifiTlvAt blob off :: ts, ⟨rfl, hrest⟩, hgood⟩

theorem not_exists_tile {stop : Nat} {good : List WifiTlvAt → Prop} (hne : off ≠ stop)
    (hpast : stop < (wifiTlvAt blob off).next) : ¬ ∃ tlvs, WifiTlvsTile blob off tlvs stop ∧ good tlvs := by
  rw [exists_tile_iff hne]
  rintro ⟨ts, hrest, -⟩
  have hle := hrest.le
  omega

/-- What the TLVs from `off` on must be for the image to be valid. -/
def WifiTlvsGood (fw : WifiFirmware) (tlvs : List WifiTlvAt) : Prop :=
  (∀ t ∈ tlvs, ¬ t.Malformed) ∧ fw.sections.length + (tlvs.filterMap WifiTlvAt.payload).length ≤ wifiFwMaxSections ∧
    (0 < fw.tlvCount ∨ tlvs ≠ [])

theorem wifiTlvsGood_nil (hroom : fw.sections.length ≤ wifiFwMaxSections) :
    WifiTlvsGood fw [] ↔ 0 < fw.tlvCount := by
  simp [WifiTlvsGood, hroom]

/-- Whether the TLVs behind one are good is decided with the state that it leaves. -/
theorem wifiTlvsGood_cons {fw' : WifiFirmware} {t : WifiTlvAt} {ts : List WifiTlvAt}
    (hout : WifiFwOutcome blob { fw with tlvCount := fw.tlvCount + 1 } fw' t) :
    (fw'.parseErrors = 0 ∧ WifiTlvsGood fw' ts) ↔ fw.parseErrors = 0 ∧ WifiTlvsGood fw (t :: ts) := by
  cases hout with
  | skipped ok none step =>
      simp [WifiTlvsGood, step.errors, step.sections, step.tlvs, ok, none]
  | malformed bad none step => simp [WifiTlvsGood, step.errors, bad]
  | full ok place some room step =>
      simp only [step.errors, WifiTlvsGood, List.filterMap_cons, some, List.length_cons]
      dsimp only at room
      omega
  | kept ok place sec some room data len step =>
      simp [WifiTlvsGood, step.errors, step.sections, step.tlvs, ok, some, Nat.add_assoc, Nat.add_comm 1]

theorem WifiFwOutcome.sections_le {fw' : WifiFirmware} {t : WifiTlvAt} (hout : WifiFwOutcome blob fw fw' t)
    (hroom : fw.sections.length ≤ wifiFwMaxSections) : fw'.sections.length ≤ wifiFwMaxSections := by
  cases hout with
  | skipped ok none step => simpa [step.sections] using hroom
  | malformed bad none step => simpa [step.sections] using hroom
  | full ok place some room step => simpa [step.sections] using hroom
  | kept ok place sec some room data len step => simpa [step.sections] using room

/-- The walk ends without an error, behind at least one TLV, just if good TLVs tile what is left. -/
theorem wifiParseTlvs_valid (hoff : off ≤ blob.length) (hfuel : blob.length < off + fuel)
    (hroom : fw.sections.length ≤ wifiFwMaxSections) :
    ((wifiParseTlvs fuel fw (blob.drop off)).parseErrors = 0 ∧ 0 < (wifiParseTlvs fuel fw (blob.drop off)).tlvCount) ↔
      fw.parseErrors = 0 ∧ ∃ tlvs, WifiTlvsTile blob off tlvs blob.length ∧ WifiTlvsGood fw tlvs := by
  induction fuel generalizing fw off with
  | zero => omega
  | succ fuel ih =>
      rw [wifiParseTlvs_drop fuel fw hoff]
      have hnext := le_next (wifiTlvAt blob off)
      rw [wifiTlvAt_off] at hnext
      by_cases hend : off = blob.length
      · rw [if_pos (by omega), if_pos hend, and_congr_right_iff]
        intro _
        constructor
        · exact fun hpos => ⟨[], hend, (wifiTlvsGood_nil hroom).mpr hpos⟩
        · rintro ⟨tlvs, htile, hgood⟩
          cases tlvs with
          | nil => exact (wifiTlvsGood_nil hroom).mp hgood
          | cons t ts =>
              obtain ⟨rfl, hrest⟩ := htile
              have hle := hrest.le
              omega
      · by_cases hpast : blob.length < (wifiTlvAt blob off).next
        · have hno := @not_exists_tile _ _ _ (WifiTlvsGood fw) hend hpast
          simp only [hno, and_false, iff_false, hend, if_false]
          -- each way to stop here is an error
          split
          · simp [WifiFirmware.failed]
          · split
            · split <;> simp [WifiFirmware.failed]
            · split <;> simp [WifiFirmware.failed]
        · have hin : (wifiTlvAt blob off).off + (wifiTlvAt blob off).len ≤ blob.length := by
            rw [wifiTlvAt_off]
            omega
          have hout := @wifiRecordFwTlv_outcome blob { fw with tlvCount := fw.tlvCount + 1 } (wifiTlvAt blob off) hin
          rw [if_neg (by omega), if_neg (by rw [wifiTlvAt_off] at hin; omega)]
          simp only [if_neg hpast]
          rw [wifiTlvAt_off] at hout
          rw [ih (not_lt.mp hpast) (by omega) (hout.sections_le hroom), exists_tile_iff hend]
          have hcons := fun ts => @wifiTlvsGood_cons _ _ _ _ ts hout
          constructor
          · rintro ⟨herr, ts, htile, hgood⟩
            have h := (hcons ts).mp ⟨herr, hgood⟩
            exact ⟨h.1, ts, htile, h.2⟩
          · rintro ⟨herr, ts, htile, hgood⟩
            have h := (hcons ts).mpr ⟨herr, hgood⟩
            exact ⟨h.1, ts, htile, h.2⟩

end Walk

/-! ## The blob -/

section Blob

variable {blob : List UInt8} {fw : WifiFirmware} {s : WifiFwAt}

/-- The loop over the name writes its text, and perhaps the zero behind it. -/
theorem wifiFwTextFrom_eq {i n : Nat} (h : 8 + i + n ≤ blob.length) (hi : i + n ≤ 64) :
    ∃ zero, (zero = [] ∨ zero = [0]) ∧ Bytewise.wifiFwTextFrom blob i n = .ok
      (((((blob.drop (8 + i)).take n).takeWhile (· ≠ 0)).map fun c => if wifiIsPrintableAscii c then c else 0)
        ++ zero) := by
  induction n generalizing i with
  | zero => exact ⟨[], .inl rfl, by simp [Bytewise.wifiFwTextFrom]⟩
  | succ n ih =>
      have hat : 8 + i < blob.length := by omega
      have hdrop : blob.drop (8 + i) = blob[8 + i] :: blob.drop (8 + (i + 1)) := by
        rw [List.drop_eq_getElem_cons hat, Nat.add_assoc]
      rw [Bytewise.wifiFwTextFrom, readAt_eq hat, checked_bind, slotAt_eq (by omega), checked_bind, hdrop]
      by_cases hc : blob[8 + i] = 0
      · exact ⟨[0], .inr rfl, by simp [hc]⟩
      · obtain ⟨zero, hzero, htext⟩ := ih (i := i + 1) (by omega) (by omega)
        exact ⟨zero, hzero, by simp [hc, htext]⟩

theorem wifiFwHuman_bytewise (h : 72 ≤ blob.length) : Bytewise.wifiFwHuman blob = .ok (wifiFwHuman blob) := by
  obtain ⟨zero, hzero, htext⟩ := @wifiFwTextFrom_eq blob 0 64 (by omega) (by omega)
  rw [Bytewise.wifiFwHuman, htext, checked_bind, checked_pure]
  obtain rfl | rfl := hzero
  · simp [wifiFwHuman]
  · simp [wifiFwHuman]

/-- `wifi_parse_firmware_blob`, byte by byte: no access is outside, the loop ends, and what is
recorded is what the payloads of the blob are. -/
theorem wifiParseFirmwareBlob_bytewise (fw : WifiFirmware) (blob : List UInt8) :
    Safe (fun s => s.fw = fw.unparsed.parsed blob ∧ s.places = (wifiFwPayloads blob).take wifiFwMaxSections ∧
        s.fw.sections.map WifiFwSection.data = (s.places.map fun p => (blob.drop p.1).take p.2) ∧
        s.fw.loadBytes = (s.places.map Prod.snd).sum ∧
        s.fw.loadChunks = (s.places.map fun p => wifiFwChunks p.2).sum)
      (Bytewise.wifiParseFirmwareBlob fw blob) := by
  unfold Bytewise.wifiParseFirmwareBlob WifiFirmware.parsed wifiFwPayloads
  have hsize : iwlTlvHeaderSize = 88 := rfl
  by_cases hshort : blob.length < iwlTlvHeaderSize
  · have hno : ¬ WifiFwHeader blob := fun h => absurd h.1 (by omega)
    simp only [if_pos hshort, if_neg hno]
    exact safe_pure (by simp [WifiFirmware.failed, WifiFirmware.unparsed])
  · simp only [if_neg hshort, wifiReadLe32_bytewise (show 0 + 4 ≤ blob.length by omega),
      wifiReadLe32_bytewise (show 4 + 4 ≤ blob.length by omega), checked_bind]
    by_cases hmagic : wifiReadLe32 blob 0 ≠ 0 ∨ wifiReadLe32 blob 4 ≠ iwlTlvUcodeMagic
    · have hno : ¬ WifiFwHeader blob := fun h => hmagic.elim (fun h0 => h0 h.2.1) fun h4 => h4 h.2.2
      simp only [if_pos hmagic, if_neg hno]
      exact safe_pure (by simp [WifiFirmware.failed, WifiFirmware.unparsed])
    · have hheader : WifiFwHeader blob :=
        ⟨not_lt.mp hshort, not_not.mp (mt .inl hmagic), not_not.mp (mt .inr hmagic)⟩
      simp only [if_neg hmagic, if_pos hheader, wifiFwHuman_bytewise (show 72 ≤ blob.length by omega), checked_bind,
        wifiReadLe32_bytewise (show 72 + 4 ≤ blob.length by omega),
        wifiReadLe32_bytewise (show 76 + 4 ≤ blob.length by omega), List.length_drop]
      obtain ⟨s, stop, hrun, hsame, hplaced⟩ := @wifiParseTlvs_bytewise blob
        ⟨{ fw.unparsed with
          human := wifiFwHuman blob, version := wifiReadLe32 blob 72, build := wifiReadLe32 blob 76 }, []⟩
        [] iwlTlvHeaderSize (blob.length - iwlTlvHeaderSize + 1) (by omega) (by omega)
        (by constructor <;> simp [WifiFirmware.unparsed])
      rw [hrun, checked_bind, ← hsame]
      obtain ⟨hplaces, hdata, hbytes, hchunks⟩ := hplaced
      refine safe_pure ⟨rfl, hplaces, ?_, ?_, ?_⟩
      · split <;> exact hdata
      · split <;> exact hbytes
      · split <;> exact hchunks

theorem parsed_valid_iff (fw : WifiFirmware) (blob : List UInt8) :
    (fw.unparsed.parsed blob).valid = true ↔ WifiFwWellFormed blob := by
  unfold WifiFirmware.parsed WifiFwWellFormed
  have hsize : iwlTlvHeaderSize = 88 := rfl
  by_cases hshort : blob.length < iwlTlvHeaderSize
  · have hno : ¬ WifiFwHeader blob := fun h => absurd h.1 (by omega)
    simp [hshort, hno, WifiFirmware.failed, WifiFirmware.unparsed]
  · by_cases hmagic : wifiReadLe32 blob 0 ≠ 0 ∨ wifiReadLe32 blob 4 ≠ iwlTlvUcodeMagic
    · have hno : ¬ WifiFwHeader blob := fun h => hmagic.elim (fun h0 => h0 h.2.1) fun h4 => h4 h.2.2
      simp [hshort, hmagic, hno, WifiFirmware.failed, WifiFirmware.unparsed]
    · have hheader : WifiFwHeader blob :=
        ⟨not_lt.mp hshort, not_not.mp (mt .inl hmagic), not_not.mp (mt .inr hmagic)⟩
      have hvalid := @wifiParseTlvs_valid blob
        { fw.unparsed with
          human := wifiFwHuman blob, version := wifiReadLe32 blob 72, build := wifiReadLe32 blob 76 }
        iwlTlvHeaderSize (blob.length - iwlTlvHeaderSize + 1) (by omega) (by omega) (by simp [WifiFirmware.unparsed])
      simp only [if_neg hshort, if_neg hmagic, List.length_drop, Bool.and_eq_true, decide_eq_true_eq, gt_iff_lt]
      rw [and_comm, hvalid]
      constructor
      · rintro ⟨-, tlvs, htile, hok, hroom, hne⟩
        refine ⟨hheader, tlvs, hne.resolve_left (by simp [WifiFirmware.unparsed]), htile, hok, ?_⟩
        simpa [WifiFirmware.unparsed] using hroom
      · rintro ⟨-, tlvs, hne, htile, hok, hroom⟩
        exact ⟨rfl, tlvs, htile, hok, by simpa [WifiFirmware.unparsed] using hroom, .inr hne⟩

/-- Where the sum of one term does not wrap, it is exact, and where it does, it is too small. -/
theorem wifiFwChunks_le (len : Nat) : wifiFwChunks len ≤ (len + wifiDmaChunkBytes - 1) / wifiDmaChunkBytes :=
  Nat.div_le_div_right (Nat.mod_le _ _)

theorem wifiFwChunks_eq_iff {len : Nat} (hlen : len < 2 ^ 32) :
    wifiFwChunks len = (len + wifiDmaChunkBytes - 1) / wifiDmaChunkBytes ↔ len + wifiDmaChunkBytes ≤ 2 ^ 32 := by
  simp only [wifiFwChunks, wifiDmaChunkBytes]
  omega

/-- Sums of terms none of which is larger are equal just if the terms are. -/
theorem sum_map_eq_iff {α : Type*} {f g : α → Nat} {l : List α} (h : ∀ a ∈ l, f a ≤ g a) :
    (l.map f).sum = (l.map g).sum ↔ ∀ a ∈ l, f a = g a := by
  induction l with
  | nil => simp
  | cons a l ih =>
      have ha := h a List.mem_cons_self
      have hl := List.sum_le_sum fun x hx => h x (List.mem_cons_of_mem a hx)
      simp only [List.map_cons, List.sum_cons, List.forall_mem_cons, ← ih fun x hx => h x (List.mem_cons_of_mem a hx)]
      omega

/-- A blob of less than 4 GiB is recorded as it is just if no section of the table is so long that
its number of chunks wraps. -/
theorem wifiParseFirmwareBlob_recorded_iff (fw : WifiFirmware) (h : blob.length < 2 ^ 32) :
    Safe (fun s => s.fw = fw.unparsed.parsed blob ∧ FirmwareRecorded blob s) (Bytewise.wifiParseFirmwareBlob fw blob) ↔
      ∀ p ∈ (wifiFwPayloads blob).take wifiFwMaxSections, p.2 + wifiDmaChunkBytes ≤ 2 ^ 32 := by
  obtain ⟨s, hrun, hfw, hplaces, hdata, hbytes, hchunks⟩ := wifiParseFirmwareBlob_bytewise fw blob
  obtain ⟨hinside, hapart⟩ := wifiFwPayloads_apart blob
  have hsub : s.places.Sublist (wifiFwPayloads blob) := hplaces ▸ List.take_sublist _ _
  have hlt : ∀ p ∈ s.places, p.2 < 2 ^ 32 := by
    intro p hp
    have hp' := hinside p (hsub.subset hp)
    omega
  have hsums : s.fw.loadChunks = (s.places.map fun p => (p.2 + wifiDmaChunkBytes - 1) / wifiDmaChunkBytes).sum ↔
      ∀ p ∈ s.places, p.2 + wifiDmaChunkBytes ≤ 2 ^ 32 := by
    rw [hchunks, sum_map_eq_iff fun p _ => wifiFwChunks_le p.2]
    exact forall₂_congr fun p hp => wifiFwChunks_eq_iff (hlt p hp)
  rw [← hplaces, ← hsums, hrun]
  constructor
  · rintro ⟨s', hs', -, hrec⟩
    obtain rfl := Except.ok.inj hs'
    exact hrec.chunks
  · intro hexact
    have hcount : s.fw.sections.length = s.places.length := by simpa using congrArg List.length hdata
    refine safe_ok ⟨hfw, ?_, hdata, fun p hp => hinside p (hsub.subset hp), hapart.sublist hsub, hbytes, hexact, ?_⟩
    · rw [hcount, hplaces, List.length_take]
      omega
    · rw [hfw]
      exact parsed_valid_iff fw blob

/-- The header of an image. -/
def sampleFwHeader : List UInt8 := [0, 0, 0, 0, 0x49, 0x57, 0x4c, 0x0a] ++ List.replicate 80 0

/-- An image with one section of four bytes. -/
def sampleFirmware : List UInt8 := sampleFwHeader ++ [1, 0, 0, 0, 4, 0, 0, 0, 1, 2, 3, 4]

/-- It is recorded as it is. -/
theorem wifiParseFirmwareBlob_recorded_sample :
    Safe (fun s => s.fw = wifiNoFirmware.unparsed.parsed sampleFirmware ∧ FirmwareRecorded sampleFirmware s)
      (Bytewise.wifiParseFirmwareBlob wifiNoFirmware sampleFirmware) :=
  (wifiParseFirmwareBlob_recorded_iff wifiNoFirmware (by decide)).mpr (by decide +kernel)

theorem wifiReadLe32_append {p rest : List UInt8} {i : Nat} (h : i + 4 ≤ p.length) :
    wifiReadLe32 (p ++ rest) i = wifiReadLe32 p i := by
  simp [wifiReadLe32, List.getD_eq_getElem?_getD, List.getElem?_append_left (show i < p.length by omega),
    List.getElem?_append_left (show i + 1 < p.length by omega),
    List.getElem?_append_left (show i + 2 < p.length by omega),
    List.getElem?_append_left (show i + 3 < p.length by omega)]

/-- The header of an image and that of a section of nearly 4 GiB. -/
def sampleLongHead : List UInt8 := sampleFwHeader ++ [1, 0, 0, 0, 0x04, 0x00, 0xfe, 0xff]

/-- The length of the section. -/
def sampleLongLen : Nat := 2 ^ 32 - wifiDmaChunkBytes + 4

theorem mem_wifiFwPayloads_long {data : List UInt8} (hdata : data.length = sampleLongLen) :
    (96, sampleLongLen) ∈ (wifiFwPayloads (sampleLongHead ++ data)).take wifiFwMaxSections := by
  have hlen : (sampleLongHead ++ data).length = 96 + sampleLongLen := by
    rw [List.length_append, hdata]
    rfl
  have hheader : WifiFwHeader (sampleLongHead ++ data) := by
    refine ⟨by rw [hlen, iwlTlvHeaderSize]; omega, ?_, ?_⟩
    · rw [wifiReadLe32_append (by decide)]
      decide +kernel
    · rw [wifiReadLe32_append (by decide)]
      decide +kernel
  have hat : wifiTlvAt (sampleLongHead ++ data) iwlTlvHeaderSize = ⟨1, 96, sampleLongLen⟩ := by
    rw [wifiTlvAt, wifiReadLe32_append (by decide), wifiReadLe32_append (by decide)]
    decide +kernel
  have hpay : (⟨1, 96, sampleLongLen⟩ : WifiTlvAt).payload = some (96, sampleLongLen) := by decide +kernel
  have hin : ¬ (96 + sampleLongLen < iwlTlvHeaderSize + 8 ∨ 96 + sampleLongLen < 96 + sampleLongLen) := by
    simp [iwlTlvHeaderSize]
  rw [wifiFwPayloads, if_pos hheader, wifiTlvsFrom, hat, hlen]
  dsimp only
  rw [if_neg hin, List.filterMap_cons, hpay, wifiFwMaxSections, List.take_succ_cons]
  exact List.mem_cons_self

/-- A section whose number of chunks wraps to nothing. -/
theorem not_wifiParseFirmwareBlob_recorded :
    ¬ ∀ (fw : WifiFirmware) (blob : List UInt8), blob.length < 2 ^ 32 →
      Safe (fun s => s.fw = fw.unparsed.parsed blob ∧ FirmwareRecorded blob s)
        (Bytewise.wifiParseFirmwareBlob fw blob) := by
  intro h
  have hdata : (List.replicate sampleLongLen (0 : UInt8)).length = sampleLongLen := List.length_replicate
  have hlen : (sampleLongHead ++ List.replicate sampleLongLen 0).length < 2 ^ 32 := by
    rw [List.length_append, hdata]
    decide +kernel
  have hfits := (wifiParseFirmwareBlob_recorded_iff wifiNoFirmware hlen).mp (h wifiNoFirmware _ hlen) _
    (mem_wifiFwPayloads_long hdata)
  exact absurd hfits (by decide +kernel)

end Blob

end Orizon
