import Orizon.Wifi.Frame

/-!
# Orizon.Wifi.Ccmp

Protected data frames (`kernel/drivers/wifi.c`): the packet number and its
header, the additional data, and the two directions
`wifi_ccmp_build_ethernet_frame` and `wifi_ccmp_parse_protected_data`.

The sender's packet numbers never repeat, and what the access point protects
under the rules of these functions is what the receiver hands on
(`wifiCcmp_agreement`).  The static buffers `wifi_ccmp_plain_payload` and
`wifi_ccmp_rx_plain` are written before they are read in every call, so they
are local here; pointers are never null.
-/

namespace Orizon

/-! ## Packet numbers -/

/-- A packet number, its high byte first. -/
abbrev WifiPn := Vector UInt8 6

/-- `wifi_ccmp_pn_from_u64`. -/
def wifiCcmpPnFromU64 (pn64 : UInt64) : WifiPn :=
  #v[((pn64 >>> 40) &&& 0xff).toUInt8, ((pn64 >>> 32) &&& 0xff).toUInt8, ((pn64 >>> 24) &&& 0xff).toUInt8,
    ((pn64 >>> 16) &&& 0xff).toUInt8, ((pn64 >>> 8) &&& 0xff).toUInt8, (pn64 &&& 0xff).toUInt8]

/-- `wifi_ccmp_write_header`. -/
def wifiCcmpWriteHeader (pn : WifiPn) (keyId : UInt8) : List UInt8 :=
  let b i := pn.toList.getD i 0
  [b 5, b 4, 0, (0x20 : UInt8) ||| ((keyId &&& 0x03) <<< 6), b 3, b 2, b 1, b 0]

/-- `wifi_ccmp_pn_from_header`. -/
def wifiCcmpPnFromHeader (hdr : List UInt8) : WifiPn :=
  let b i := hdr.getD i 0
  #v[b 7, b 6, b 5, b 4, b 1, b 0]

theorem wifiCcmpPnFromHeader_writeHeader (pn : WifiPn) (keyId : UInt8) (rest : List UInt8) :
    wifiCcmpPnFromHeader (wifiCcmpWriteHeader pn keyId ++ rest) = pn := by
  apply Vector.ext
  intro i hi
  interval_cases i <;> simp [wifiCcmpPnFromHeader, wifiCcmpWriteHeader]

theorem beNat_wifiCcmpPnFromU64 {pn64 : UInt64} (h : pn64.toNat < 2 ^ 48) :
    beNat (wifiCcmpPnFromU64 pn64).toList = pn64.toNat := by
  have hff : (0xff : UInt64).toNat = 2 ^ 8 - 1 := rfl
  have h40 : (40 : UInt64).toNat % 64 = 40 := rfl
  have h32 : (32 : UInt64).toNat % 64 = 32 := rfl
  have h24 : (24 : UInt64).toNat % 64 = 24 := rfl
  have h16 : (16 : UInt64).toNat % 64 = 16 := rfl
  have h8 : (8 : UInt64).toNat % 64 = 8 := rfl
  simp only [wifiCcmpPnFromU64, beNat, Vector.toList_mk, List.reverse_cons, List.reverse_nil,
    List.nil_append, List.cons_append, leNat_cons, leNat_nil, UInt64.toNat_toUInt8, UInt64.toNat_and,
    UInt64.toNat_shiftRight, hff, h40, h32, h24, h16, h8, Nat.and_two_pow_sub_one_eq_mod,
    Nat.shiftRight_eq_div_pow]
  omega

/-! ## Additional data and plaintext -/

/-- `wifi_ccmp_build_aad`: the additional data and the TID. -/
def wifiCcmpBuildAad (frame : List UInt8) (hdrLen : Nat) : List UInt8 × UInt8 :=
  let fc := wifiReadLe16 frame 0
  let maskedFc := fc &&& ~~~(0x0800 ||| 0x1000 ||| 0x2000) &&& ~~~0x0070
  let qos : Bool := wifiFcSubtype fc &&& wifiSubtypeQosData ≠ 0
  let maskedFc := if qos then maskedFc &&& ~~~0x8000 else maskedFc
  let qosTid := if qos then frame.getD 24 0 &&& 0x0f else 0
  let aad := wifiWriteLe16 (maskedFc ||| wifiFcProtected) ++ (bytesFrom 18 frame 4).toList ++
    [frame.getD 22 0 &&& 0x0f, 0]
  (if qos then aad ++ (if 26 ≤ hdrLen then [qosTid, 0] else [0, 0]) else aad, qosTid)

/-- The nonce: TID, sender and packet number. -/
def wifiCcmpNonce (qosTid : UInt8) (a2 : WifiMac) (pn : WifiPn) : List UInt8 :=
  qosTid :: (a2.toList ++ pn.toList)

/-- `WIFI_CCMP_ETH_PAYLOAD_BYTES`. -/
def wifiCcmpEthPayloadBytes : Nat := 1600

/-- `WIFI_CCMP_HEADER_BYTES`. -/
def wifiCcmpHeaderBytes : Nat := 8

/-- `WIFI_CCMP_MIC_BYTES`. -/
def wifiCcmpMicBytes : Nat := 8

/-- `wifi_ccmp_build_plain_payload`; `none` is -1. -/
def wifiCcmpBuildPlainPayload (etherType : UInt16) (payload : List UInt8) : Option (List UInt8) :=
  if wifiCcmpEthPayloadBytes < payload.length + 8 then none
  else some (wifiLlcSnap ++ (wifiWriteBe16 etherType ++ payload))

/-- The temporal key: `wifi_wpa_ptk + WIFI_WPA_KCK_BYTES + WIFI_WPA_KEK_BYTES`. -/
def WifiWpa.tk (w : WifiWpa) : AesBlock := bytesFrom 16 w.ptk.toList 32

/-- The group key CCMP uses: the first 16 bytes of `wifi_wpa_gtk`. -/
def WifiWpa.groupTk (w : WifiWpa) : AesBlock := bytesFrom 16 w.gtk.toList 0

/-! ## Sending -/

/-- `wifi_ccmp_reset_plan`. -/
def wifiCcmpResetPlan (s : Wifi) : Wifi :=
  { s with ccmp := { s.ccmp with dataReady := false, dataFrame := [], pn := 0, txAcked := false } }

/-- `broadcast`. -/
def wifiBroadcast : WifiMac := Vector.replicate 6 0xff

/-- `wifi_ccmp_build_ethernet_frame`; a null `dst_mac` is `none`. -/
def wifiCcmpBuildEthernetFrame (s : Wifi) (dstMac : Option WifiMac) (etherType : UInt16)
    (payload : List UInt8) : Int × Wifi :=
  if !s.connect.ready || !s.connect.wpa then (-1, s)
  else if !s.connect.dataReady then (-1, s)
  else if !s.wpa.ptkReady || !s.wpa.keyInstalled then (-1, s)
  else
    let s := wifiCcmpResetPlan s
    match wifiCcmpBuildPlainPayload etherType payload with
    | none => (-1, s)
    | some plain =>
        let frameLen := wifiMgmtHeaderBytes + wifiCcmpHeaderBytes + plain.length + wifiCcmpMicBytes
        if 2048 < frameLen then (-1, s)
        else
          let fc := ((2 : UInt16) <<< 2) ||| wifiFcToDs ||| wifiFcProtected
          let header := wifiWriteLe16 fc ++ (wifiWriteLe16 0 ++ (s.connect.bssid.toList ++
            (s.connect.localMac.toList ++ ((dstMac.getD wifiBroadcast).toList ++ wifiWriteLe16 0))))
          let pn64 := s.ccmp.txPnCounter
          let s := { s with ccmp := { s.ccmp with txPnCounter := pn64 + 1 } }
          let pn := wifiCcmpPnFromU64 pn64
          let aad := wifiCcmpBuildAad header wifiMgmtHeaderBytes
          match ccmSeal s.wpa.tk (wifiCcmpNonce aad.2 s.connect.localMac pn) aad.1 plain wifiCcmpMicBytes with
          | none => (-1, s)
          | some (cipher, tag) =>
              (0, { s with
                ccmp := { s.ccmp with
                  dataReady := true
                  dataFrame := header ++ (wifiCcmpWriteHeader pn 0 ++ (cipher ++ tag))
                  pn := pn64 } })

/-! ## Receiving -/

/-- The key a frame to `a1` is opened with; `none` where the call returns 0. -/
def wifiCcmpRxKey (s : Wifi) (a1 : WifiMac) (keyId : UInt8) : Option AesBlock :=
  if wifiMacIsMulticast a1 then
    if keyId ≠ s.wpa.gtkKeyId || !s.wpa.gtkKeyInstalled then none else some s.wpa.groupTk
  else if s.wpa.keyInstalled then some s.wpa.tk
  else none

/-- The delivery at the end of `wifi_ccmp_parse_protected_data`. -/
def wifiCcmpDeliver (s : Wifi) (srcMac : WifiMac) (plain : List UInt8) : Wifi :=
  { s with
    ccmp := { s.ccmp with
      rxSrcMac := srcMac
      rxPayload := plain.drop 8
      rxReady := true
      rxDecryptFailed := false
      rxEthType := wifiReadBe16 plain 6 } }

/-- What `wifi_ccmp_parse_protected_data` reads off a frame before it decrypts. -/
structure WifiCcmpParts where
  a1 : WifiMac
  a2 : WifiMac
  a3 : WifiMac
  hdrLen : Nat
  keyId : UInt8
  pn : WifiPn
  aad : List UInt8
  qosTid : UInt8
  cipherLen : Nat
  cipher : List UInt8
  tag : List UInt8

/-- The nonce of the frame. -/
def WifiCcmpParts.nonce (p : WifiCcmpParts) : List UInt8 := wifiCcmpNonce p.qosTid p.a2 p.pn

/-- The parts of a frame: the header, the CCMP header `ccmp` and behind it the
ciphertext and the tag. -/
def wifiCcmpParts (frame : List UInt8) (fc subtype : UInt16) : WifiCcmpParts :=
  let hdrLen := wifi80211DataHeaderLen fc subtype
  let ccmp := frame.drop hdrLen
  let cipherLen := frame.length - hdrLen - wifiCcmpHeaderBytes - wifiCcmpMicBytes
  let aad := wifiCcmpBuildAad frame hdrLen
  { a1 := bytesFrom 6 frame 4
    a2 := bytesFrom 6 frame 10
    a3 := bytesFrom 6 frame 16
    hdrLen := hdrLen
    keyId := (ccmp.getD 3 0 >>> 6) &&& 0x03
    pn := wifiCcmpPnFromHeader ccmp
    aad := aad.1
    qosTid := aad.2
    cipherLen := cipherLen
    cipher := (ccmp.drop wifiCcmpHeaderBytes).take cipherLen
    tag := (ccmp.drop wifiCcmpHeaderBytes).drop cipherLen }

/-- `wifi_ccmp_parse_protected_data`. -/
def wifiCcmpParseProtectedData (s : Wifi) (frame : List UInt8) (fc subtype : UInt16) : Bool × Wifi :=
  let p := wifiCcmpParts frame fc subtype
  if !wifiDataLinkReady s || fc &&& wifiFcProtected = 0 || fc &&& wifiFcFromDs = 0 ||
      fc &&& wifiFcToDs ≠ 0 then (false, s)
  else if p.a2 ≠ s.connect.bssid || (p.a1 ≠ s.connect.localMac && !wifiMacIsMulticast p.a1) then (false, s)
  else if p.hdrLen < wifiMgmtHeaderBytes ||
      frame.length < p.hdrLen + wifiCcmpHeaderBytes + wifiCcmpMicBytes then (false, s)
  else if p.cipherLen < 8 || wifiCcmpEthPayloadBytes < p.cipherLen then (false, s)
  else
    match wifiCcmpRxKey s p.a1 p.keyId with
    | none => (false, s)
    | some tk =>
        match ccmOpen tk p.nonce p.aad p.cipher p.tag with
        | none => (false, { s with ccmp := { s.ccmp with rxDecryptFailed := true } })
        | some plain =>
            if plain.take 6 ≠ wifiLlcSnap then (false, s)
            else if wifiCcmpEthPayloadBytes < p.cipherLen - 8 then (false, s)
            else (true, wifiCcmpDeliver s p.a3 plain)

/-! ## What is sent -/

@[simp] theorem length_wifiCcmpWriteHeader (pn : WifiPn) (keyId : UInt8) :
    (wifiCcmpWriteHeader pn keyId).length = 8 := rfl

/-- Every call takes at most one packet number, the next one, and a frame it builds
carries it after its header. -/
theorem wifiCcmpBuildEthernetFrame_pn (s : Wifi) (dstMac : Option WifiMac) (etherType : UInt16)
    (payload : List UInt8) :
    let r := wifiCcmpBuildEthernetFrame s dstMac etherType payload
    (r.2.ccmp.txPnCounter = s.ccmp.txPnCounter ∨ r.2.ccmp.txPnCounter = s.ccmp.txPnCounter + 1) ∧
      (r.1 = 0 → r.2.ccmp.txPnCounter = s.ccmp.txPnCounter + 1 ∧ ∃ header body, header.length = 24 ∧
        r.2.ccmp.dataFrame =
          header ++ (wifiCcmpWriteHeader (wifiCcmpPnFromU64 s.ccmp.txPnCounter) 0 ++ body)) := by
  simp only [wifiCcmpBuildEthernetFrame]
  split
  · simp
  split
  · simp
  split
  · simp
  split
  · simp [wifiCcmpResetPlan]
  split
  · simp [wifiCcmpResetPlan]
  split
  · simp [wifiCcmpResetPlan]
  · refine ⟨.inr rfl, fun _ => ⟨rfl, _, _, ?_, rfl⟩⟩
    simp

/-- A call of `wifi_ccmp_build_ethernet_frame`: its arguments and the driver's state. -/
structure WifiCcmpCall where
  state : Wifi
  dstMac : Option WifiMac
  etherType : UInt16
  payload : List UInt8

/-- The state the call finds, the packet number counter at `txPnCounter`. -/
def WifiCcmpCall.start (call : WifiCcmpCall) (txPnCounter : UInt64) : Wifi :=
  { call.state with ccmp := { call.state.ccmp with txPnCounter := txPnCounter } }

@[simp] theorem WifiCcmpCall.txPnCounter_start (call : WifiCcmpCall) (txPnCounter : UInt64) :
    (call.start txPnCounter).ccmp.txPnCounter = txPnCounter := rfl

/-- The frames that calls build.  Between two calls the state may have changed in any
way but for the packet number, which nothing else writes. -/
def wifiCcmpBuilt : UInt64 → List WifiCcmpCall → List (List UInt8)
  | _, [] => []
  | txPnCounter, call :: calls =>
      let r := wifiCcmpBuildEthernetFrame (call.start txPnCounter) call.dstMac call.etherType call.payload
      let frames := wifiCcmpBuilt r.2.ccmp.txPnCounter calls
      if r.1 = 0 then r.2.ccmp.dataFrame :: frames else frames

/-- The packet number a frame with a header of 24 bytes carries. -/
def wifiFramePn (frame : List UInt8) : Nat :=
  beNat (wifiCcmpPnFromHeader (frame.drop wifiMgmtHeaderBytes)).toList

/-- The frame carries a CCMP header from which its packet number is read back. -/
def WifiCcmpFramed (frame : List UInt8) : Prop :=
  ∃ pn, (frame.drop wifiMgmtHeaderBytes).take wifiCcmpHeaderBytes = wifiCcmpWriteHeader pn 0 ∧
    wifiCcmpPnFromHeader (frame.drop wifiMgmtHeaderBytes) = pn

/-- A frame that a call builds carries the packet number the call found. -/
theorem wifiFramePn_built {header : List UInt8} (body : List UInt8) {pn64 : UInt64}
    (hheader : header.length = 24)
    (hpn : pn64.toNat < 2 ^ 48) :
    wifiFramePn (header ++ (wifiCcmpWriteHeader (wifiCcmpPnFromU64 pn64) 0 ++ body)) = pn64.toNat ∧
      WifiCcmpFramed (header ++ (wifiCcmpWriteHeader (wifiCcmpPnFromU64 pn64) 0 ++ body)) := by
  rw [wifiFramePn, WifiCcmpFramed, wifiMgmtHeaderBytes, List.drop_left' hheader,
    wifiCcmpPnFromHeader_writeHeader]
  exact ⟨beNat_wifiCcmpPnFromU64 hpn, _, List.take_left' rfl, rfl⟩

/-- The frames of a run carry rising packet numbers from the counter on. -/
theorem wifiCcmpBuilt_pn {txPnCounter : UInt64} {calls : List WifiCcmpCall}
    (h : txPnCounter.toNat + calls.length ≤ 2 ^ 48) :
    (wifiCcmpBuilt txPnCounter calls).Pairwise (fun f g => wifiFramePn f < wifiFramePn g) ∧
      ∀ f ∈ wifiCcmpBuilt txPnCounter calls, txPnCounter.toNat ≤ wifiFramePn f ∧ WifiCcmpFramed f := by
  induction calls generalizing txPnCounter with
  | nil => simp [wifiCcmpBuilt]
  | cons call calls ih =>
      rw [List.length_cons] at h
      rw [wifiCcmpBuilt]
      obtain ⟨hcounter, hbuilt⟩ := wifiCcmpBuildEthernetFrame_pn (call.start txPnCounter)
        call.dstMac call.etherType call.payload
      simp only [WifiCcmpCall.txPnCounter_start] at hcounter hbuilt
      generalize wifiCcmpBuildEthernetFrame (call.start txPnCounter) call.dstMac call.etherType
        call.payload = r at hcounter hbuilt ⊢
      have hnext : (txPnCounter + 1).toNat = txPnCounter.toNat + 1 := by
        rw [UInt64.toNat_add, UInt64.toNat_one]
        omega
      have hle : txPnCounter.toNat ≤ r.2.ccmp.txPnCounter.toNat ∧
          r.2.ccmp.txPnCounter.toNat ≤ txPnCounter.toNat + 1 := by
        rcases hcounter with hc | hc <;> rw [hc]
        · omega
        · omega
      obtain ⟨hrising, hfrom⟩ := @ih r.2.ccmp.txPnCounter (by omega)
      have hlater : ∀ f ∈ wifiCcmpBuilt r.2.ccmp.txPnCounter calls,
          txPnCounter.toNat ≤ wifiFramePn f ∧ WifiCcmpFramed f := fun f hf =>
        ⟨hle.1.trans (hfrom f hf).1, (hfrom f hf).2⟩
      split
      · rename_i hok
        obtain ⟨hc, header, body, hheader, hframe⟩ := hbuilt hok
        obtain ⟨hpn, hframed⟩ := wifiFramePn_built body hheader
          (show txPnCounter.toNat < 2 ^ 48 by omega)
        rw [← hframe] at hpn hframed
        refine ⟨List.pairwise_cons.mpr ⟨fun f hf => ?_, hrising⟩, ?_⟩
        · have hgt := (hfrom f hf).1
          rw [hc, hnext] at hgt
          omega
        · intro f hf
          rcases List.mem_cons.mp hf with rfl | hf
          · exact ⟨hpn.ge, hframed⟩
          · exact hlater f hf
      · exact ⟨hrising, hlater⟩

/-! ## The access point's side -/

/-- The header of a data frame with three addresses, with or without a QoS control
field. -/
structure WifiDataHeader where
  fc : UInt16
  duration : UInt16
  a1 : WifiMac
  a2 : WifiMac
  a3 : WifiMac
  seqCtl : UInt16
  qos : Option UInt16

namespace WifiDataHeader

/-- The QoS control field. -/
def qosBytes (h : WifiDataHeader) : List UInt8 :=
  match h.qos with
  | none => []
  | some qos => wifiWriteLe16 qos

/-- The header on the air. -/
def bytes (h : WifiDataHeader) : List UInt8 :=
  wifiWriteLe16 h.fc ++ (wifiWriteLe16 h.duration ++ (h.a1.toList ++ (h.a2.toList ++ (h.a3.toList ++
    (wifiWriteLe16 h.seqCtl ++ h.qosBytes)))))

/-- The subtype says whether there is a QoS control field. -/
def QosAgrees (h : WifiDataHeader) : Prop :=
  h.qos.isSome = (wifiFcSubtype h.fc &&& wifiSubtypeQosData ≠ 0 : Bool)

/-- The frame control word without Retry, Power Management and More Data. -/
def fixedFc (h : WifiDataHeader) : UInt16 := h.fc &&& ~~~(0x0800 ||| 0x1000 ||| 0x2000)

/-- Two headers differ at most in Retry, Power Management, More Data, the duration and
the sequence number. -/
structure SameFixed (h r : WifiDataHeader) : Prop where
  fc : h.fixedFc = r.fixedFc
  a1 : h.a1 = r.a1
  a2 : h.a2 = r.a2
  a3 : h.a3 = r.a3
  fragment : h.seqCtl.toUInt8 &&& 0x0f = r.seqCtl.toUInt8 &&& 0x0f
  qos : h.qos = r.qos

variable {h r : WifiDataHeader} (rest : List UInt8)

theorem length_qosBytes : h.qosBytes.length = if h.qos.isSome then 2 else 0 := by
  rw [qosBytes]
  cases h.qos <;> simp

theorem length_bytes : h.bytes.length = 24 + if h.qos.isSome then 2 else 0 := by
  simp [bytes, length_qosBytes]
  omega

theorem readLe16_bytes : wifiReadLe16 (h.bytes ++ rest) 0 = h.fc := by
  rw [bytes, List.append_assoc]
  exact wifiReadLe16_writeLe16 _ _

theorem drop_bytes : (h.bytes ++ rest).drop 4 = h.a1.toList ++ (h.a2.toList ++ (h.a3.toList ++
    (wifiWriteLe16 h.seqCtl ++ (h.qosBytes ++ rest)))) := by
  simp [bytes, wifiWriteLe16]

theorem drop_bytes_a2 : (h.bytes ++ rest).drop 10 = h.a2.toList ++ (h.a3.toList ++
    (wifiWriteLe16 h.seqCtl ++ (h.qosBytes ++ rest))) := by
  rw [show 10 = 4 + 6 from rfl, ← List.drop_drop, drop_bytes, List.drop_left' (by simp)]

theorem drop_bytes_a3 : (h.bytes ++ rest).drop 16 =
    h.a3.toList ++ (wifiWriteLe16 h.seqCtl ++ (h.qosBytes ++ rest)) := by
  rw [show 16 = 10 + 6 from rfl, ← List.drop_drop, drop_bytes_a2, List.drop_left' (by simp)]

theorem drop_bytes_seqCtl : (h.bytes ++ rest).drop 22 =
    wifiWriteLe16 h.seqCtl ++ (h.qosBytes ++ rest) := by
  rw [show 22 = 16 + 6 from rfl, ← List.drop_drop, drop_bytes_a3, List.drop_left' (by simp)]

/-- The TID of the QoS control field. -/
def tid (h : WifiDataHeader) : UInt8 :=
  match h.qos with
  | none => 0
  | some qos => qos.toUInt8 &&& 0x0f

/-- The additional data of a frame with this header. -/
def aad (h : WifiDataHeader) : List UInt8 :=
  let maskedFc := h.fixedFc &&& ~~~0x0070
  let maskedFc := if h.qos.isSome then maskedFc &&& ~~~0x8000 else maskedFc
  let base := wifiWriteLe16 (maskedFc ||| wifiFcProtected) ++
    (h.a1.toList ++ (h.a2.toList ++ h.a3.toList)) ++ [h.seqCtl.toUInt8 &&& 0x0f, 0]
  if h.qos.isSome then base ++ [h.tid, 0] else base

theorem getD_bytes (i : Nat) : (h.bytes ++ rest).getD (22 + i) 0 =
    (wifiWriteLe16 h.seqCtl ++ (h.qosBytes ++ rest)).getD i 0 := by
  rw [← drop_bytes_seqCtl, List.getD_eq_getElem?_getD, List.getD_eq_getElem?_getD, List.getElem?_drop]

theorem wifiCcmpBuildAad_bytes (hq : h.QosAgrees) :
    wifiCcmpBuildAad (h.bytes ++ rest) h.bytes.length = (h.aad, h.tid) := by
  have haddr : (bytesFrom 18 (h.bytes ++ rest) 4).toList = h.a1.toList ++ (h.a2.toList ++ h.a3.toList) :=
    toList_bytesFrom (by simpa using drop_bytes rest) (by simp)
  have hseq : (h.bytes ++ rest).getD 22 0 = h.seqCtl.toUInt8 := getD_bytes rest 0
  rw [QosAgrees] at hq
  simp only [wifiCcmpBuildAad, readLe16_bytes, haddr, hseq, ← hq, length_bytes]
  cases hqos : h.qos with
  | none => simp [aad, tid, fixedFc, hqos]
  | some qos =>
      have htid : (h.bytes ++ rest).getD 24 0 = qos.toUInt8 := by
        rw [show 24 = 22 + 2 from rfl, getD_bytes]
        simp [wifiWriteLe16, qosBytes, hqos]
      simp only [htid]
      simp [aad, tid, fixedFc, hqos]

theorem SameFixed.aad_eq (hsame : SameFixed h r) : h.aad = r.aad ∧ h.tid = r.tid := by
  have htid : h.tid = r.tid := by rw [tid, tid, hsame.qos]
  refine ⟨?_, htid⟩
  rw [aad, aad, hsame.fc, hsame.a1, hsame.a2, hsame.a3, hsame.fragment, hsame.qos, htid]

theorem wifiFcSubtype_fixedFc : wifiFcSubtype h.fixedFc = wifiFcSubtype h.fc := by
  rw [wifiFcSubtype, fixedFc, UInt16.and_assoc]
  rfl

theorem SameFixed.qosAgrees (hsame : SameFixed h r) (hr : r.QosAgrees) : h.QosAgrees := by
  rw [QosAgrees, ← wifiFcSubtype_fixedFc, hsame.fc, wifiFcSubtype_fixedFc, hsame.qos]
  exact hr

end WifiDataHeader

theorem wifiCcmpKeyId_roundtrip (k : UInt8) :
    (((0x20 : UInt8) ||| ((k &&& 0x03) <<< 6)) >>> 6) &&& 0x03 = k &&& 0x03 := by
  have h : ∀ b : BitVec 8, (((0x20#8 ||| ((b &&& 3#8) <<< 6)) >>> 6) &&& 3#8) = b &&& 3#8 := by decide
  apply UInt8.toBitVec_inj.mp
  exact h k.toBitVec

/-- A frame an access point protects: the additional data and the nonce are those of
the header `h` it had then, the header on the air at reception is `r`. -/
def wifiApFrame (tk : AesBlock) (keyId : UInt8) (pn : WifiPn) (h r : WifiDataHeader) (plain : List UInt8) :
    Option (List UInt8) :=
  let aad := wifiCcmpBuildAad h.bytes h.bytes.length
  (ccmSeal tk (wifiCcmpNonce aad.2 h.a2 pn) aad.1 plain wifiCcmpMicBytes).map fun sealed =>
    r.bytes ++ (wifiCcmpWriteHeader pn keyId ++ (sealed.1 ++ sealed.2))

/-- The header is that of a protected frame the access point sends to this station or
to a group. -/
structure WifiDataHeader.ForStation (r : WifiDataHeader) (s : Wifi) : Prop where
  fromDs : r.fc &&& wifiFcFromDs ≠ 0
  toDs : r.fc &&& wifiFcToDs = 0
  protectedBit : r.fc &&& wifiFcProtected ≠ 0
  a1 : r.a1 = s.connect.localMac ∨ wifiMacIsMulticast r.a1
  a2 : r.a2 = s.connect.bssid
  qos : r.QosAgrees

@[simp] theorem length_wifiCcmpNonce (tid : UInt8) (a2 : WifiMac) (pn : WifiPn) :
    (wifiCcmpNonce tid a2 pn).length = 13 := by
  simp [wifiCcmpNonce]

theorem WifiDataHeader.length_aad_le (h : WifiDataHeader) : h.aad.length ≤ 24 := by
  rw [WifiDataHeader.aad]
  split <;> simp

theorem wifiCcmpBuildPlainPayload_eq_some {etherType : UInt16} {payload plain : List UInt8}
    (h : wifiCcmpBuildPlainPayload etherType payload = some plain) :
    plain = wifiLlcSnap ++ (wifiWriteBe16 etherType ++ payload) ∧ plain.length ≤ 1600 := by
  rw [wifiCcmpBuildPlainPayload] at h
  split at h
  · simp at h
  · rename_i hfits
    rw [Option.some.injEq] at h
    refine ⟨h.symm, ?_⟩
    rw [← h]
    simp only [wifiCcmpEthPayloadBytes, Nat.not_lt] at hfits
    simp [wifiLlcSnap]
    omega

theorem wifiCcmpParts_apFrame {r : WifiDataHeader} (pn : WifiPn) (keyId : UInt8) {cipher tag : List UInt8}
    (htoDs : r.fc &&& wifiFcToDs = 0) (hqos : r.QosAgrees) (htag : tag.length = wifiCcmpMicBytes) :
    wifiCcmpParts (r.bytes ++ (wifiCcmpWriteHeader pn keyId ++ (cipher ++ tag))) r.fc (wifiFcSubtype r.fc) =
      { a1 := r.a1, a2 := r.a2, a3 := r.a3, hdrLen := r.bytes.length, keyId := keyId &&& 0x03, pn := pn,
        aad := r.aad, qosTid := r.tid, cipherLen := cipher.length, cipher := cipher, tag := tag } := by
  have hhdr : wifi80211DataHeaderLen r.fc (wifiFcSubtype r.fc) = r.bytes.length := by
    have hbits := hqos
    rw [WifiDataHeader.QosAgrees] at hbits
    rw [wifi80211DataHeaderLen, r.length_bytes, htoDs, hbits]
    simp [wifiMgmtHeaderBytes]
  have hbody : (wifiCcmpWriteHeader pn keyId ++ (cipher ++ tag)).drop wifiCcmpHeaderBytes = cipher ++ tag :=
    List.drop_left' rfl
  have hcipher : (r.bytes ++ (wifiCcmpWriteHeader pn keyId ++ (cipher ++ tag))).length - r.bytes.length -
      wifiCcmpHeaderBytes - wifiCcmpMicBytes = cipher.length := by
    simp only [List.length_append, length_wifiCcmpWriteHeader, htag, wifiCcmpHeaderBytes]
    omega
  have hid : ((wifiCcmpWriteHeader pn keyId ++ (cipher ++ tag)).getD 3 0 >>> 6) &&& 0x03 = keyId &&& 0x03 :=
    wifiCcmpKeyId_roundtrip keyId
  simp only [wifiCcmpParts, hhdr, hcipher, List.drop_left, hbody, hid, List.take_left,
    wifiCcmpPnFromHeader_writeHeader, WifiDataHeader.wifiCcmpBuildAad_bytes _ hqos,
    bytesFrom_of_drop (WifiDataHeader.drop_bytes _), bytesFrom_of_drop (WifiDataHeader.drop_bytes_a2 _),
    bytesFrom_of_drop (WifiDataHeader.drop_bytes_a3 _)]

theorem wifiCcmpParse_apFrame {s : Wifi} {h r : WifiDataHeader} {pn : WifiPn} {keyId : UInt8}
    {tk : AesBlock} {etherType : UInt16} {payload plain : List UInt8}
    (hready : wifiDataLinkReady s) (hplain : wifiCcmpBuildPlainPayload etherType payload = some plain)
    (hr : r.ForStation s) (hsame : h.SameFixed r) (hkey : wifiCcmpRxKey s r.a1 (keyId &&& 0x03) = some tk) :
    ∃ frame, wifiApFrame tk keyId pn h r plain = some frame ∧
      wifiCcmpParseProtectedData s frame (wifiReadLe16 frame 0) (wifiFcSubtype (wifiReadLe16 frame 0)) =
        (true, wifiCcmpDeliver s r.a3 plain) := by
  obtain ⟨hplainEq, hplainLen⟩ := wifiCcmpBuildPlainPayload_eq_some hplain
  have hbuildH := WifiDataHeader.wifiCcmpBuildAad_bytes [] (hsame.qosAgrees hr.qos)
  rw [List.append_nil] at hbuildH
  -- the access point seals the body
  have hsome : (ccmSeal tk (wifiCcmpNonce h.tid h.a2 pn) h.aad plain wifiCcmpMicBytes).isSome := by
    have hle := h.length_aad_le
    rw [ccmSeal_isSome _ _ _ _ (by simp) (by simp), length_wifiCcmpNonce, ccmTagFits]
    simp [ccmValidTagLen, wifiCcmpMicBytes, ccmLenFits]
    omega
  obtain ⟨⟨cipher, tag⟩, hseal⟩ := Option.isSome_iff_exists.mp hsome
  obtain ⟨hcipherLen, htagLen⟩ := ccmSeal_length hseal
  refine ⟨r.bytes ++ (wifiCcmpWriteHeader pn keyId ++ (cipher ++ tag)), ?_, ?_⟩
  · simp only [wifiApFrame, hbuildH, hseal, Option.map_some]
  -- the receiver opens it: its additional data and nonce are those of the sender
  have hopen : ccmOpen tk (wifiCcmpNonce r.tid r.a2 pn) r.aad cipher tag = some plain := by
    rw [← hsame.aad_eq.1, ← hsame.aad_eq.2, ← hsame.a2]
    exact ccmOpen_seal hseal
  have hlow : ¬ cipher.length < 8 := by
    rw [hcipherLen, hplainEq]
    simp [wifiLlcSnap]
  have hhigh : ¬ wifiCcmpEthPayloadBytes < cipher.length := by
    rw [hcipherLen]
    exact Nat.not_lt.mpr hplainLen
  have hsnap : plain.take 6 = wifiLlcSnap := by
    rw [hplainEq]
    exact List.take_left' rfl
  have ha1 := hr.a1
  rw [wifiCcmpParseProtectedData, WifiDataHeader.readLe16_bytes,
    wifiCcmpParts_apFrame pn keyId hr.toDs hr.qos htagLen]
  simp only [WifiCcmpParts.nonce, hkey, hopen]
  rw [if_neg (by simp [hready, hr.fromDs, hr.toDs, hr.protectedBit]),
    if_neg (by simp [hr.a2]; tauto),
    if_neg (by simp [wifiMgmtHeaderBytes, wifiCcmpHeaderBytes, r.length_bytes, htagLen]; omega),
    if_neg (by simp [hlow, hhigh]), if_neg (by simp [hsnap]), if_neg (by omega)]

theorem wifiCcmpDeliver_fields {s : Wifi} {srcMac : WifiMac} {etherType : UInt16}
    {payload plain : List UInt8} (h : wifiCcmpBuildPlainPayload etherType payload = some plain) :
    let t := wifiCcmpDeliver s srcMac plain
    t.ccmp.rxReady ∧ t.ccmp.rxEthType = etherType ∧ t.ccmp.rxSrcMac = srcMac ∧ t.ccmp.rxPayload = payload := by
  obtain ⟨rfl, -⟩ := wifiCcmpBuildPlainPayload_eq_some h
  refine ⟨rfl, wifiReadBe16_writeBe16 wifiLlcSnap etherType payload, rfl, ?_⟩
  simp [wifiCcmpDeliver, wifiLlcSnap, wifiWriteBe16]

/-- In a run of fewer than `2 ^ 48` calls no packet number is used twice: they rise, and
each is read back from its header.  And whatever the key, the addresses and the
EtherType, a body that fits its buffer, protected by the access point, is decoded to its
EtherType, source and payload, however Retry, Power Management, More Data, the duration
and the sequence number have changed on the way; a larger one is built by neither side. -/
theorem wifiCcmp_agreement :
    (∀ calls : List WifiCcmpCall, calls.length < 2 ^ 48 →
      (wifiCcmpBuilt 1 calls).Pairwise (fun f g => wifiFramePn f < wifiFramePn g) ∧
        ∀ f ∈ wifiCcmpBuilt 1 calls, WifiCcmpFramed f) ∧
    (∀ (etherType : UInt16) (payload : List UInt8),
      wifiCcmpBuildPlainPayload etherType payload = none ↔ 1600 < payload.length + 8) ∧
    (∀ (s : Wifi) (etherType : UInt16) (payload plain : List UInt8) (h r : WifiDataHeader) (pn : WifiPn)
      (keyId : UInt8) (tk : AesBlock),
      wifiDataLinkReady s → wifiCcmpBuildPlainPayload etherType payload = some plain →
      r.ForStation s → h.SameFixed r → wifiCcmpRxKey s r.a1 (keyId &&& 0x03) = some tk →
        ∃ frame t, wifiApFrame tk keyId pn h r plain = some frame ∧
          wifiCcmpParseProtectedData s frame (wifiReadLe16 frame 0)
            (wifiFcSubtype (wifiReadLe16 frame 0)) = (true, t) ∧
          t.ccmp.rxReady ∧ t.ccmp.rxEthType = etherType ∧ t.ccmp.rxSrcMac = r.a3 ∧
          t.ccmp.rxPayload = payload) := by
  refine ⟨fun calls hcalls => ?_, fun etherType payload => ?_, ?_⟩
  · have hone : (1 : UInt64).toNat = 1 := rfl
    obtain ⟨hrising, hframed⟩ := @wifiCcmpBuilt_pn 1 calls (by omega)
    exact ⟨hrising, fun f hf => (hframed f hf).2⟩
  · rw [wifiCcmpBuildPlainPayload, wifiCcmpEthPayloadBytes]
    by_cases hbig : 1600 < payload.length + 8 <;> simp [hbig]
  · intro s etherType payload plain h r pn keyId tk hready hplain hr hsame hkey
    obtain ⟨frame, hframe, hparse⟩ := @wifiCcmpParse_apFrame s h r pn keyId tk etherType payload plain
      hready hplain hr hsame hkey
    exact ⟨frame, _, hframe, hparse, wifiCcmpDeliver_fields hplain⟩

/-- The state of the driver's own receive test. -/
def sampleLink : Wifi :=
  { wifiBoot with
    present := true
    driverReady := true
    connect := { wifiBoot.connect with
      ready := true
      wpa := true
      dataReady := true
      localMac := #v[0x02, 0x4f, 0x5a, 0x20, 0x26, 0x01]
      bssid := #v[0x02, 0xaa, 0xbb, 0xcc, 0xdd, 0xee] }
    wpa := { wifiBoot.wpa with keyInstalled := true, gtkKeyInstalled := true, m4TxAcked := true } }

/-- A QoS data frame from the access point to the station, as first sent. -/
def sampleHeader : WifiDataHeader where
  fc := 0x4288
  duration := 0
  a1 := sampleLink.connect.localMac
  a2 := sampleLink.connect.bssid
  a3 := #v[0x02, 0x11, 0x22, 0x33, 0x44, 0x55]
  seqCtl := 0x0010
  qos := some 0x0005

/-- The same frame, sent again: Retry and More Data are set, the duration and the
sequence number are others. -/
def sampleRetry : WifiDataHeader := { sampleHeader with fc := 0x6a88, duration := 44, seqCtl := 0x0020 }

theorem wifiCcmp_agreement_sample :
    (wifiCcmpBuilt 1 [⟨sampleLink, none, 0x88b5, [1, 2, 3]⟩, ⟨sampleLink, none, 0x88b5, []⟩]).Pairwise
        (fun f g => wifiFramePn f < wifiFramePn g) ∧
      ∃ frame t, wifiApFrame sampleLink.wpa.tk 0 #v[1, 2, 3, 4, 5, 6] sampleHeader sampleRetry
          (wifiLlcSnap ++ [0x88, 0xb5, 79, 114]) = some frame ∧
        wifiCcmpParseProtectedData sampleLink frame (wifiReadLe16 frame 0)
          (wifiFcSubtype (wifiReadLe16 frame 0)) = (true, t) ∧
        t.ccmp.rxReady ∧ t.ccmp.rxEthType = 0x88b5 ∧ t.ccmp.rxSrcMac = sampleRetry.a3 ∧
        t.ccmp.rxPayload = [79, 114] :=
  ⟨(wifiCcmp_agreement.1 _ (by decide)).1,
    wifiCcmp_agreement.2.2 sampleLink 0x88b5 [79, 114] _ sampleHeader sampleRetry _ 0 _ (by decide) rfl
      ⟨by decide, by decide, by decide, .inl rfl, rfl, by rw [WifiDataHeader.QosAgrees]; decide⟩
      ⟨by decide, rfl, rfl, rfl, by decide, rfl⟩ (by decide)⟩

end Orizon
