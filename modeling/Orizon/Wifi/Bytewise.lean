import Orizon.Lib.Checked
import Orizon.Wifi.ApTable

/-!
# Orizon.Wifi.Bytewise

`wifi_scan_parse_rx_mpdu` and what is under it (`kernel/drivers/wifi.c`), byte by byte: the
functions of `Orizon.Wifi.Mpdu` again, with each read of the payload and each write to a buffer
checked, and with the loops as they stand in the source.

A frame and what lies in it are slices of the payload, as long as the source's length beside the
pointer, so that a read behind the end of a slice fails even where the payload goes on.  Lengths and
positions that depend on the payload's are `uint32_t` (`u32`).
-/

namespace Orizon

/-- A sum of `uint32_t`. -/
def u32 (n : Nat) : Nat := n % 2 ^ 32

/-- `WIFI_SCAN_DEBUG_BYTES`. -/
def wifiScanDebugBytes : Nat := 32

/-- `WIFI_SCAN_CANDIDATE_SLOTS`. -/
def wifiScanCandidateSlots : Nat := 8

/-- `WIFI_WPA_EAPOL_M2_BYTES`. -/
def wifiWpaEapolM2Bytes : Nat := 256

/-- `WIFI_WPA_EAPOL_M4_BYTES`. -/
def wifiWpaEapolM4Bytes : Nat := 128

/-- `WIFI_WPA_KEY_DATA_BYTES`. -/
def wifiWpaKeyDataBytes : Nat := 256

/-- `WIFI_CCMP_AAD_BYTES`. -/
def wifiCcmpAadBytes : Nat := 32

/-- `WIFI_CCMP_NONCE_BYTES`. -/
def wifiCcmpNonceBytes : Nat := 13

/-- What is kept of the last payload: its first bytes, and the candidates tried, each with its offset,
its length and its frame control word. -/
structure WifiMpduDebug where
  bytes : List UInt8
  candidates : List (Nat × Nat × UInt16)

/-- What `wifi_scan_parse_80211_ies` has found: the name is where it lies in the frame, and its length. -/
structure WifiScanIesAt where
  channel : UInt8
  ssid : Option (Nat × Nat)
  security : Nat

namespace Bytewise

/-! ## Numbers and buffers -/

/-- `wifi_read_le16`. -/
def wifiReadLe16 (p : List UInt8) (off : Nat) : Checked UInt16 := do
  let low ← readAt p off
  let high ← readAt p (off + 1)
  pure (low.toUInt16 ||| (high.toUInt16 <<< 8))

/-- `wifi_read_be16`. -/
def wifiReadBe16 (p : List UInt8) (off : Nat) : Checked UInt16 := do
  let high ← readAt p off
  let low ← readAt p (off + 1)
  pure ((high.toUInt16 <<< 8) ||| low.toUInt16)

/-- `wifi_read_be32`. -/
def wifiReadBe32 (p : List UInt8) (off : Nat) : Checked UInt32 := do
  let a ← readAt p off
  let b ← readAt p (off + 1)
  let c ← readAt p (off + 2)
  let d ← readAt p (off + 3)
  pure ((a.toUInt32 <<< 24) ||| (b.toUInt32 <<< 16) ||| (c.toUInt32 <<< 8) ||| d.toUInt32)

/-- `memcpy` to the start of a fixed array. -/
def copyTo {n : Nat} (v : Vector UInt8 n) (bytes : List UInt8) : Checked (Vector UInt8 n) := do
  let written ← writeAll v.toList 0 bytes
  pure (bytesFrom n written 0)

/-! ## Information elements -/

/-- `wifi_scan_vendor_ie_is_wpa`. -/
def wifiScanVendorIeIsWpa (frame : List UInt8) (data len : Nat) : Checked Bool :=
  if 4 ≤ len then matchesAt frame data [0x00, 0x50, 0xf2, 0x01] else pure false

/-- One element of `len` bytes at `data`. -/
def wifiScanElement (frame : List UInt8) (id : UInt8) (data len : Nat) (ies : WifiScanIesAt) : Checked WifiScanIesAt :=
  if id = 0 ∧ len ≤ wifiScanSsidMax then pure { ies with ssid := some (data, len) }
  else if id = 3 ∧ 1 ≤ len then do
    let channel ← readAt frame data
    pure { ies with channel }
  else if id = 48 then pure { ies with security := wifiScanSecurityWpa2 }
  else if id = 221 ∧ ies.security ≠ wifiScanSecurityWpa2 then do
    let wpa ← wifiScanVendorIeIsWpa frame data len
    pure (if wpa then { ies with security := wifiScanSecurityWpa } else ies)
  else pure ies

/-- The loop of `wifi_scan_parse_80211_ies` from `pos`. -/
def wifiScanIesFrom (frame : List UInt8) : Nat → Nat → WifiScanIesAt → Checked WifiScanIesAt
  | 0, _, _ => .error .endless
  | fuel + 1, pos, ies =>
      if u32 (pos + 2) ≤ frame.length then do
        let id ← readAt frame pos
        let len ← readAt frame (u32 (pos + 1))
        if frame.length < u32 (pos + 2 + len.toNat) then pure ies
        else do
          let ies ← wifiScanElement frame id (pos + 2) len.toNat ies
          wifiScanIesFrom frame fuel (u32 (pos + 2 + len.toNat)) ies
      else pure ies

/-- `wifi_scan_parse_80211_ies`. -/
def wifiScanParse80211Ies (frame : List UInt8) (security : Nat) : Checked WifiScanIesAt :=
  wifiScanIesFrom frame (frame.length + 1) (wifiMgmtHeaderBytes + wifiBeaconFixedBytes)
    { channel := 0, ssid := none, security := security }

/-! ## The access-point table -/

/-- The search of `wifi_scan_store_ap` from slot `i` on, for the address at `bssid`. -/
def wifiScanFindSlot (frame : List UInt8) (bssid : Nat) : Nat → List WifiAp → Checked (Option Nat)
  | _, [] => pure none
  | i, ap :: aps => do
      slotAt wifiScanApSlots i
      let same ← matchesAt frame bssid ap.bssid.toList
      if same then pure (some i) else wifiScanFindSlot frame bssid (i + 1) aps

/-- `wifi_scan_copy_ssid`: the name and the zero behind it go to `scan_ap_ssid[slot]`. -/
def wifiScanCopySsid (frame : List UInt8) (ssid : Nat × Nat) : Checked (List UInt8) := do
  let bytes ← readRange frame ssid.1 (min ssid.2 wifiScanSsidMax)
  let text := bytes.map fun c => if 32 ≤ c && c ≤ 126 then c else 46
  let written ← fillBuffer (wifiScanSsidMax + 1) (text ++ [0])
  pure (written.take text.length)

/-- What `wifi_scan_store_ap` writes into the slot of the access point. -/
def wifiScanSighted (frame : List UInt8) (ap : WifiAp) (ssid : Nat × Nat) (channel : UInt8)
    (subtype capability : UInt16)
    (security : Nat) : Checked WifiAp := do
  let name ← (if 0 < ssid.2 || ap.ssid.length = 0 then wifiScanCopySsid frame ssid else pure ap.ssid)
  pure
    { ap with
      ssid := name
      channel := channel
      frameSubtype := subtype
      capability := capability
      security := security
      seenCount := ap.seenCount + 1 }

/-- `wifi_scan_store_ap`. -/
def wifiScanStoreAp (frame : List UInt8) (sc : WifiScan) (bssid : Nat) (ssid : Nat × Nat) (channel : UInt8)
    (subtype capability : UInt16) (security : Nat) : Checked WifiScan := do
  let found ← wifiScanFindSlot frame bssid 0 sc.aps
  match found with
  | some slot =>
      slotAt wifiScanApSlots slot
      let ap ← readAt sc.aps slot
      let ap ← wifiScanSighted frame ap ssid channel subtype capability security
      pure { sc with aps := sc.aps.set slot ap, ssidUpdates := sc.ssidUpdates + 1 }
  | none =>
      if wifiScanApSlots ≤ sc.aps.length then pure { sc with apOverflow := sc.apOverflow + 1 }
      else do
        slotAt wifiScanApSlots sc.aps.length
        let mac ← readRange frame bssid 6
        let mac ← copyTo (Vector.replicate 6 0) mac
        let ap ← wifiScanSighted frame (WifiAp.blank mac) ssid channel subtype capability security
        pure { sc with aps := sc.aps ++ [ap], ssidUpdates := sc.ssidUpdates + 1 }

/-- A beacon or a probe response. -/
def wifiScanTakeBeacon (s : Wifi) (frame : List UInt8) (subtype : UInt16) : Checked (Bool × Wifi) := do
  let capability ← wifiReadLe16 frame (wifiMgmtHeaderBytes + 10)
  let ies ← wifiScanParse80211Ies frame
    (if capability &&& 0x0010 ≠ 0 then wifiScanSecurityWep else wifiScanSecurityOpen)
  match ies.ssid with
  | none => pure (false, s)
  | some ssid => do
      let channel := if ies.channel = 0 then s.scan.iterLastChannel else ies.channel
      let scan ← wifiScanStoreAp frame s.scan 16 ssid channel subtype capability ies.security
      pure (true, { s with scan })

/-! ## Responses -/

/-- `wifi_connect_frame_matches_plan`. -/
def wifiConnectFrameMatchesPlan (c : WifiConnect) (frame : List UInt8) : Checked Bool :=
  if !c.ready || frame.length < wifiMgmtHeaderBytes then pure false
  else do
    let a1 ← matchesAt frame 4 c.localMac.toList
    if !a1 then pure false
    else do
      let a2 ← matchesAt frame 10 c.bssid.toList
      if !a2 then pure false else matchesAt frame 16 c.bssid.toList

/-- An authentication response of the plan's access point. -/
def wifiConnectTakeAuth (s : Wifi) (frame : List UInt8) : Checked Wifi :=
  if frame.length < wifiMgmtHeaderBytes + 6 then pure { s with connect := { s.connect with responseFailed := true } }
  else do
    let alg ← wifiReadLe16 frame wifiMgmtHeaderBytes
    let seq ← wifiReadLe16 frame (wifiMgmtHeaderBytes + 2)
    let status ← wifiReadLe16 frame (wifiMgmtHeaderBytes + 4)
    pure (wifiConnectRefreshAssociationState
      { s with
        connect := { s.connect with
          authResponseSeen := true
          authAlg := alg
          authSeq := seq
          authStatus := status
          responseFailed := status ≠ 0 } })

/-- An association response of the plan's access point. -/
def wifiConnectTakeAssoc (s : Wifi) (frame : List UInt8) : Checked Wifi :=
  if frame.length < wifiMgmtHeaderBytes + 6 then pure { s with connect := { s.connect with responseFailed := true } }
  else do
    let status ← wifiReadLe16 frame (wifiMgmtHeaderBytes + 2)
    let aid ← wifiReadLe16 frame (wifiMgmtHeaderBytes + 4)
    let s := { s with
      connect := { s.connect with
        assocResponseSeen := true
        assocStatus := status
        assocAid := aid &&& 0x3fff
        responseFailed := status ≠ 0 } }
    pure (wifiConnectRefreshAssociationState
      (if status = 0 then s
      else
        { s with
          associated := false
          driverReady := false
          connect := { s.connect with assocConfirmed := false, dataReady := false } }))

/-- `wifi_connect_parse_response_frame`. -/
def wifiConnectParseResponseFrame (s : Wifi) (frame : List UInt8) (subtype : UInt16) : Checked (Bool × Wifi) := do
  let planned ← wifiConnectFrameMatchesPlan s.connect frame
  if !planned then pure (false, s)
  else if subtype = wifiSubtypeAuth then do
    let t ← wifiConnectTakeAuth s frame
    pure (true, t)
  else if subtype = wifiSubtypeAssocResp then do
    let t ← wifiConnectTakeAssoc s frame
    pure (true, t)
  else pure (false, s)

/-! ## The answers of the handshake -/

/-- `f` and then `g`, unless `f` fails. -/
def wifiAndThen (r : Int × Wifi) (g : Wifi → Checked (Int × Wifi)) : Checked (Int × Wifi) :=
  if r.1 ≠ 0 then pure (-1, r.2) else g r.2

/-- `wifi_wpa_generate_snonce`; `none` is -1. -/
def wifiWpaGenerateSnonce (s : Wifi) : Checked (Option Wifi) := do
  let seed ← fillBuffer 128 (s.connect.localMac.toList ++ s.connect.bssid.toList ++ s.wpa.anonce.toList ++
    writeBe32 s.connect.attempts ++ writeBe32 s.scan.generation ++ writeBe32 s.wpa.replayCounterHi ++
    writeBe32 s.wpa.replayCounterLo ++ writeBe32 ((s.vendorId.toUInt32 <<< 16) ||| s.deviceId.toUInt32))
  pure ((wifiWpaPrfSha1 32 s.connect.pmk.toList (asciiBytes "Orizon OS WPA2 SNonce") seed).map fun snonce =>
    { s with wpa := { s.wpa with snonce := snonce } })

/-- `wifi_wpa_derive_ptk`; the code and the state. -/
def wifiWpaDerivePtk (s : Wifi) : Checked (Int × Wifi) :=
  if !s.connect.pmkReady || !s.wpa.anonceSeen then pure (-1, s)
  else do
    let r ← wifiWpaGenerateSnonce s
    match r with
    | none => pure (-1, s)
    | some s => do
        let localMac := s.connect.localMac.toList
        let bssid := s.connect.bssid.toList
        let snonce := s.wpa.snonce.toList
        let anonce := s.wpa.anonce.toList
        let macs := if wifiWpaLexicographicLess localMac bssid then localMac ++ bssid else bssid ++ localMac
        let nonces :=
          if wifiWpaLexicographicLess snonce anonce then snonce ++ anonce else anonce ++ snonce
        let seed ← fillBuffer 76 (macs ++ nonces)
        match wifiWpaPrfSha1 64 s.connect.pmk.toList (asciiBytes "Pairwise key expansion") seed with
        | none => pure (-1, s)
        | some ptk => pure (0, { s with wpa := { s.wpa with ptk := ptk, ptkReady := true } })

/-- `wifi_wpa_build_m2`. -/
def wifiWpaBuildM2 (s : Wifi) (version descType : UInt8) : Checked (Int × Wifi) :=
  if !s.wpa.ptkReady then pure (-1, s)
  else do
    let keyInfo := wifiWpaAnswerType s.wpa ||| (wifiKeyInfoPairwise ||| wifiKeyInfoMic)
    let m2 ← fillBuffer wifiWpaEapolM2Bytes (wifiWpaEapolAnswer s.wpa.kck version descType keyInfo s.wpa.keyLen
      s.wpa.replayCounterHi s.wpa.replayCounterLo s.wpa.snonce.toList rsnWpa2PskCcmpIe)
    pure (0, { s with wpa := { s.wpa with eapolM2 := m2, m2Ready := true } })

/-- `wifi_wpa_build_m4`. -/
def wifiWpaBuildM4 (s : Wifi) (version descType : UInt8) : Checked (Int × Wifi) :=
  if !s.wpa.ptkReady then pure (-1, s)
  else do
    let keyInfo := wifiWpaAnswerType s.wpa |||
      (wifiKeyInfoPairwise ||| wifiKeyInfoMic ||| wifiKeyInfoSecure)
    let m4 ← fillBuffer wifiWpaEapolM4Bytes (wifiWpaEapolAnswer s.wpa.kck version descType keyInfo s.wpa.keyLen
      s.wpa.replayCounterHi s.wpa.replayCounterLo (List.replicate 32 0) [])
    pure (0, { s with wpa := { s.wpa with eapolM4 := m4, m4Ready := true } })

/-- `wifi_wpa_build_m2_data_frame`. -/
def wifiWpaBuildM2DataFrame (s : Wifi) : Checked (Int × Wifi) :=
  if !s.wpa.m2Ready || wifiConnectFrameBytes < wifiMgmtHeaderBytes + 8 + s.wpa.eapolM2.length then pure (-1, s)
  else do
    let frame ← fillBuffer wifiConnectFrameBytes (wifiWpaDataFrame s s.wpa.eapolM2)
    pure (0, { s with wpa := { s.wpa with m2DataFrame := frame, m2DataReady := true } })

/-- `wifi_wpa_build_m4_data_frame`. -/
def wifiWpaBuildM4DataFrame (s : Wifi) : Checked (Int × Wifi) :=
  if !s.wpa.m4Ready || wifiConnectFrameBytes < wifiMgmtHeaderBytes + 8 + s.wpa.eapolM4.length then pure (-1, s)
  else do
    let frame ← fillBuffer wifiConnectFrameBytes (wifiWpaDataFrame s s.wpa.eapolM4)
    pure (0, { s with wpa := { s.wpa with m4DataFrame := frame, m4DataReady := true } })

/-- `wifi_wpa_prepare_m4`. -/
def wifiWpaPrepareM4 (s : Wifi) (version descType : UInt8) : Checked (Int × Wifi) := do
  let built ← wifiWpaBuildM4 s version descType
  let r ← wifiAndThen built wifiWpaBuildM4DataFrame
  pure (if r.1 ≠ 0 then (-1, { r.2 with wpa := { r.2.wpa with m4Ready := false, m4DataReady := false } })
    else (0, r.2))

/-- `wifi_wpa_prepare_m2`. -/
def wifiWpaPrepareM2 (s : Wifi) (version descType : UInt8) : Checked (Int × Wifi) := do
  let derived ← wifiWpaDerivePtk s
  let built ← wifiAndThen derived fun s => wifiWpaBuildM2 s version descType
  let r ← wifiAndThen built wifiWpaBuildM2DataFrame
  pure (if r.1 ≠ 0 then
      (-1, { r.2 with wpa := { r.2.wpa with ptkReady := false, m2Ready := false, m2DataReady := false } })
    else (0, r.2))

/-! ## The group key -/

/-- The loop of `wifi_wpa_parse_gtk_kde` from `pos`: the place of the first GTK element. -/
def wifiWpaGtkKdeFrom (data : List UInt8) : Nat → Nat → Checked (Option (Nat × Nat))
  | 0, _ => .error .endless
  | fuel + 1, pos =>
      if pos + 2 ≤ data.length then do
        let zero ← matchesAt data pos (List.replicate (data.length - pos) 0)
        if zero then pure none
        else do
          let id ← readAt data pos
          let ieLen ← readAt data (pos + 1)
          if data.length < pos + 2 + ieLen.toNat then pure none
          else do
            let gtk ← (if id = 0xdd ∧ 6 ≤ ieLen.toNat then matchesAt data (pos + 2) [0x00, 0x0f, 0xac, 0x01]
              else pure false)
            if gtk then pure (some (pos, ieLen.toNat)) else wifiWpaGtkKdeFrom data fuel (pos + 2 + ieLen.toNat)
      else pure none

/-- `wifi_wpa_parse_gtk_kde`. -/
def wifiWpaParseGtkKde (s : Wifi) (data : List UInt8) : Checked Wifi := do
  let cleared := { s.wpa with gtkSeen := false, gtkKeyId := 0, gtkLen := 0, gtk := Vector.replicate 32 0 }
  let found ← wifiWpaGtkKdeFrom data (data.length + 1) 0
  match found with
  | none => pure { s with wpa := cleared }
  | some (pos, ieLen) => do
      let gtkLen := min (ieLen - 6) 32
      let keyId ← readAt data (pos + 6)
      let key ← readRange data (pos + 8) gtkLen
      let gtk ← copyTo cleared.gtk key
      pure { s with
        wpa := { cleared with gtkSeen := true, gtkKeyId := keyId &&& 0x03, gtkLen := gtkLen, gtk := gtk } }

/-- `aes128_key_unwrap` to a buffer of `cap` bytes, which it fills with all but the first block before it
knows whether the check value is right. -/
def aes128KeyUnwrap (cap : Nat) (kek : AesBlock) (wrapped : List UInt8) : Checked (Option (List UInt8)) :=
  if wrapped.length < 24 || wrapped.length % 8 ≠ 0 then pure none
  else do
    let rest ← readRange wrapped 8 ((wrapped.length / 8 - 1) * 8)
    let _ ← fillBuffer cap rest
    pure (Orizon.aes128KeyUnwrap kek wrapped)

/-- `wifi_wpa_capture_m3_key_data`; `eapol` is the frame from its EAPOL header on. -/
def wifiWpaCaptureM3KeyData (s : Wifi) (eapol : List UInt8) (keyBodyLen : Nat) (keyInfo : UInt16) : Checked Wifi := do
  let s := { s with
    wpa := { s.wpa with
      m3KeyData := [], keyDataDecrypted := false, keyDataDecryptFailed := false, keyDataPlain := [] } }
  let len ← wifiReadBe16 eapol 97
  let keyDataLen := len.toNat
  if keyBodyLen < 95 || keyDataLen = 0 || 4 + keyBodyLen < 99 + keyDataLen ||
      wifiWpaKeyDataBytes < keyDataLen then pure s
  else do
    let keyData ← readRange eapol 99 keyDataLen
    let encrypted ← fillBuffer wifiWpaKeyDataBytes keyData
    let s := { s with wpa := { s.wpa with m3KeyData := encrypted } }
    let captured plain := wifiWpaParseGtkKde
      { s with wpa := { s.wpa with keyDataDecrypted := true, keyDataPlain := plain } } plain
    if keyInfo &&& wifiKeyInfoEncrKeyData = 0 then do
      let plain ← fillBuffer wifiWpaKeyDataBytes keyData
      captured plain
    else do
      let opened ← (if s.wpa.ptkReady then aes128KeyUnwrap wifiWpaKeyDataBytes s.wpa.kek encrypted else pure none)
      match opened with
      | none => pure { s with wpa := { s.wpa with keyDataDecryptFailed := true } }
      | some plain =>
          if wifiWpaKeyDataBytes < plain.length then pure { s with wpa := { s.wpa with keyDataDecryptFailed := true } }
          else captured plain

/-! ## Taking a key frame -/

/-- The checks of `wifi_wpa_parse_eapol_key`: the frame from its EAPOL header on, `none` where the call
returns 0. -/
def wifiWpaEapolOf (c : WifiConnect) (frame : List UInt8) (fc subtype : UInt16) : Checked (Option (List UInt8)) :=
  if !c.ready then pure none
  else do
    let a1 ← matchesAt frame 4 c.localMac.toList
    if !a1 then pure none
    else do
      let a2 ← matchesAt frame 10 c.bssid.toList
      let hdrLen := wifi80211DataHeaderLen fc subtype
      if !a2 || frame.length < hdrLen + 8 + 4 then pure none
      else do
        let llc := frame.drop hdrLen
        let snap ← matchesAt llc 0 wifiLlcSnap
        if !snap then pure none
        else do
          let etherType ← wifiReadBe16 llc 6
          let eapol := llc.drop 8
          if etherType ≠ 0x888e || eapol.length < 4 then pure none
          else do
            let type ← readAt eapol 1
            if type ≠ 3 then pure none
            else do
              let keyBodyLen ← wifiReadBe16 eapol 2
              pure (if eapol.length < keyBodyLen.toNat + 4 || keyBodyLen.toNat < 95 then none else some eapol)

/-- The fields every frame taken writes. -/
def wifiWpaStoreKeyFields (s : Wifi) (eapol : List UInt8) : Checked Wifi := do
  let keyInfo ← wifiReadBe16 eapol 5
  let keyLen ← wifiReadBe16 eapol 7
  let replayCounterHi ← wifiReadBe32 eapol 9
  let replayCounterLo ← wifiReadBe32 eapol 13
  let keyDataLen ← wifiReadBe16 eapol 97
  let keyDescType ← readAt eapol 4
  let eapolVersion ← readAt eapol 0
  let nonce ← readRange eapol 17 32
  let anonce ← copyTo s.wpa.anonce nonce
  pure { s with
    wpa := { s.wpa with
      keyInfo, keyLen, replayCounterHi, replayCounterLo, keyDataLen, keyDescType, eapolVersion, anonce
      anonceSeen := true } }

/-- `wifi_wpa_parse_eapol_key` behind its checks. -/
def wifiWpaTakeKey (s : Wifi) (eapol : List UInt8) : Checked Wifi := do
  let keyBodyLen ← wifiReadBe16 eapol 2
  let s ← wifiWpaStoreKeyFields s eapol
  let keyInfo := s.wpa.keyInfo
  let version ← readAt eapol 0
  let descType ← readAt eapol 4
  if wifiIsPairwiseM1 keyInfo then do
    let s := { s with wpa := { s.wpa with m1Seen := true } }
    if s.connect.pmkReady then do
      let r ← wifiWpaPrepareM2 s version descType
      pure r.2
    else pure s
  else if wifiIsPairwiseM3 keyInfo then do
    let s := { s with wpa := { s.wpa with m3Seen := true, m3KeyInfo := keyInfo } }
    let s ← wifiWpaCaptureM3KeyData s eapol keyBodyLen.toNat keyInfo
    if s.wpa.ptkReady then do
      let r ← wifiWpaPrepareM4 s version descType
      pure r.2
    else pure s
  else pure s

/-- `wifi_wpa_parse_eapol_key`. -/
def wifiWpaParseEapolKey (s : Wifi) (frame : List UInt8) (fc subtype : UInt16) : Checked (Bool × Wifi) := do
  let eapol ← wifiWpaEapolOf s.connect frame fc subtype
  match eapol with
  | none => pure (false, s)
  | some eapol => do
      let t ← wifiWpaTakeKey s eapol
      pure (true, t)

/-! ## Protected data -/

/-- `wifi_ccmp_pn_from_header`. -/
def wifiCcmpPnFromHeader (hdr : List UInt8) : Checked WifiPn := do
  let b7 ← readAt hdr 7
  let b6 ← readAt hdr 6
  let b5 ← readAt hdr 5
  let b4 ← readAt hdr 4
  let b1 ← readAt hdr 1
  let b0 ← readAt hdr 0
  pure #v[b7, b6, b5, b4, b1, b0]

/-- `wifi_ccmp_build_aad`: the additional data and the TID. -/
def wifiCcmpBuildAad (frame : List UInt8) (hdrLen : Nat) : Checked (List UInt8 × UInt8) := do
  let fc ← wifiReadLe16 frame 0
  let maskedFc := fc &&& ~~~(0x0800 ||| 0x1000 ||| 0x2000) &&& ~~~0x0070
  let qos : Bool := wifiFcSubtype fc &&& wifiSubtypeQosData ≠ 0
  let maskedFc := if qos then maskedFc &&& ~~~0x8000 else maskedFc
  let control ← (if qos then readAt frame 24 else pure 0)
  let qosTid := control &&& 0x0f
  let addresses ← readRange frame 4 18
  let seq ← readAt frame 22
  let aad := wifiWriteLe16 (maskedFc ||| wifiFcProtected) ++ addresses ++ [seq &&& 0x0f, 0]
  let aad ← fillBuffer wifiCcmpAadBytes (if qos then aad ++ (if 26 ≤ hdrLen then [qosTid, 0] else [0, 0]) else aad)
  pure (aad, qosTid)

/-- The addresses are those of a frame of the access point for the station or for a group. -/
def wifiCcmpAddressed (c : WifiConnect) (frame : List UInt8) : Checked Bool := do
  let a2 ← matchesAt frame 10 c.bssid.toList
  if !a2 then pure false
  else do
    let a1 ← matchesAt frame 4 c.localMac.toList
    if a1 then pure true
    else do
      let first ← readAt frame 4
      pure (first &&& 1 ≠ 0)

/-- The key the frame is opened with; `none` where the call returns 0. -/
def wifiCcmpRxKey (s : Wifi) (frame ccmp : List UInt8) : Checked (Option AesBlock) := do
  let control ← readAt ccmp 3
  let keyId := (control >>> 6) &&& 0x03
  let first ← readAt frame 4
  pure (if first &&& 1 ≠ 0 then
      if keyId ≠ s.wpa.gtkKeyId || !s.wpa.gtkKeyInstalled then none else some s.wpa.groupTk
    else if s.wpa.keyInstalled then some s.wpa.tk
    else none)

/-- `aes128_ccm_decrypt` of `cipherLen` bytes to a buffer of `cap`, which it fills before it compares the tag. -/
def aes128CcmDecrypt (cap : Nat) (tk : AesBlock) (nonce aad cipher : List UInt8) (cipherLen : Nat) :
    Checked (Option (List UInt8)) := do
  let text ← readRange cipher 0 cipherLen
  let _ ← fillBuffer cap text
  let tag ← readRange cipher cipherLen wifiCcmpMicBytes
  pure (ccmOpen tk nonce aad text tag)

/-- The end of `wifi_ccmp_parse_protected_data`, with the plaintext. -/
def wifiCcmpTakePlain (s : Wifi) (frame plain : List UInt8) (cipherLen : Nat) : Checked (Bool × Wifi) := do
  let snap ← matchesAt plain 0 wifiLlcSnap
  let ethLen := cipherLen - 8
  if !snap || wifiCcmpEthPayloadBytes < ethLen then pure (false, s)
  else do
    let src ← readRange frame 16 6
    let rxSrcMac ← copyTo s.ccmp.rxSrcMac src
    let payload ← readRange plain 8 ethLen
    let rxPayload ← fillBuffer wifiCcmpEthPayloadBytes payload
    let rxEthType ← wifiReadBe16 plain 6
    pure (true, { s with
      ccmp := { s.ccmp with rxSrcMac, rxPayload, rxReady := true, rxDecryptFailed := false, rxEthType } })

/-- `wifi_ccmp_parse_protected_data`. -/
def wifiCcmpParseProtectedData (s : Wifi) (frame : List UInt8) (fc subtype : UInt16) : Checked (Bool × Wifi) :=
  if !wifiDataLinkReady s || fc &&& wifiFcProtected = 0 || fc &&& wifiFcFromDs = 0 ||
      fc &&& wifiFcToDs ≠ 0 then pure (false, s)
  else do
    let addressed ← wifiCcmpAddressed s.connect frame
    let hdrLen := wifi80211DataHeaderLen fc subtype
    let cipherLen := frame.length - hdrLen - wifiCcmpHeaderBytes - wifiCcmpMicBytes
    if !addressed then pure (false, s)
    else if hdrLen < wifiMgmtHeaderBytes || frame.length <
      hdrLen + wifiCcmpHeaderBytes + wifiCcmpMicBytes then pure (false, s)
    else if cipherLen < 8 || wifiCcmpEthPayloadBytes < cipherLen then pure (false, s)
    else do
      let ccmp := frame.drop hdrLen
      let key ← wifiCcmpRxKey s frame ccmp
      match key with
      | none => pure (false, s)
      | some tk => do
          let pn ← wifiCcmpPnFromHeader ccmp
          let (aad, qosTid) ← wifiCcmpBuildAad frame hdrLen
          let a2 ← readRange frame 10 6
          let nonce ← fillBuffer wifiCcmpNonceBytes (qosTid :: (a2 ++ pn.toList))
          let opened ← aes128CcmDecrypt wifiCcmpEthPayloadBytes tk nonce aad (ccmp.drop wifiCcmpHeaderBytes) cipherLen
          match opened with
          | none => pure (false, { s with ccmp := { s.ccmp with rxDecryptFailed := true } })
          | some plain => wifiCcmpTakePlain s frame plain cipherLen

/-! ## One frame -/

/-- `wifi_scan_parse_80211_frame`. -/
def wifiScanParse80211Frame (s : Wifi) (frame : List UInt8) : Checked (Bool × Wifi) :=
  if frame.length < wifiMgmtHeaderBytes + wifiBeaconFixedBytes then pure (false, s)
  else do
    let fc ← wifiReadLe16 frame 0
    let subtype := wifiFcSubtype fc
    if wifiFcType fc = wifiTypeData then do
      let r ← wifiWpaParseEapolKey s frame fc subtype
      if r.1 then pure r else wifiCcmpParseProtectedData r.2 frame fc subtype
    else if wifiFcType fc ≠ wifiTypeMgmt then pure (false, s)
    else if subtype = wifiSubtypeAuth || subtype = wifiSubtypeAssocResp then
      wifiConnectParseResponseFrame s frame subtype
    else if subtype = wifiSubtypeBeacon || subtype = wifiSubtypeProbeResp then wifiScanTakeBeacon s frame subtype
    else pure (false, s)

/-! ## Finding the frame -/

/-- `wifi_scan_record_candidate`. -/
def wifiScanRecordCandidate (d : WifiMpduDebug) (offset frameLen : Nat) (fc : UInt16) : Checked WifiMpduDebug :=
  if wifiScanCandidateSlots ≤ d.candidates.length then pure d
  else do
    slotAt wifiScanCandidateSlots d.candidates.length
    pure { d with candidates := d.candidates ++ [(offset, frameLen, fc)] }

/-- `wifi_scan_capture_mpdu_debug`. -/
def wifiScanCaptureMpduDebug (payload : List UInt8) : Checked WifiMpduDebug := do
  let copied ← readRange payload 0 (min payload.length wifiScanDebugBytes)
  let bytes ← fillBuffer wifiScanDebugBytes copied
  pure { bytes, candidates := [] }

/-- `wifi_scan_try_mpdu_candidate`. -/
def wifiScanTryMpduCandidate (payload : List UInt8) (s : Wifi) (d : WifiMpduDebug) (offset mpduLen : Nat) :
    Checked ((Bool × Wifi) × WifiMpduDebug) :=
  if payload.length ≤ offset then pure ((false, s), d)
  else
    let rest := payload.length - offset
    let frameLen := if 0 < mpduLen && mpduLen < rest then mpduLen else rest
    if frameLen < wifiMgmtHeaderBytes + wifiBeaconFixedBytes then pure ((false, s), d)
    else do
      let fc ← wifiReadLe16 payload offset
      let d ← wifiScanRecordCandidate d offset frameLen fc
      let r ← wifiScanParse80211Frame s ((payload.drop offset).take frameLen)
      pure (r, d)

/-- The first loop of `wifi_scan_parse_rx_mpdu`, over the offsets left in `candidates`. -/
def wifiScanTryEach (payload : List UInt8) (mpduLen : Nat) :
    List Nat → Wifi → WifiMpduDebug → Checked ((Bool × Wifi) × WifiMpduDebug)
  | [], s, d => pure ((false, s), d)
  | offset :: candidates, s, d => do
      let r ← wifiScanTryMpduCandidate payload s d offset mpduLen
      if r.1.1 then pure r else wifiScanTryEach payload mpduLen candidates r.1.2 r.2

/-- The second loop of `wifi_scan_parse_rx_mpdu`, from `off`. -/
def wifiScanTryFrom (payload : List UInt8) :
    Nat → Nat → Wifi → WifiMpduDebug → Checked ((Bool × Wifi) × WifiMpduDebug)
  | 0, _, _, _ => .error .endless
  | fuel + 1, off, s, d =>
      if u32 (off + wifiMgmtHeaderBytes + wifiBeaconFixedBytes) ≤ payload.length then do
        let r ← wifiScanTryMpduCandidate payload s d off 0
        if r.1.1 then pure r else wifiScanTryFrom payload fuel (u32 (off + 2)) r.1.2 r.2
      else pure ((false, s), d)

/-- `wifi_scan_parse_rx_mpdu`. -/
def wifiScanParseRxMpdu (s : Wifi) (payload : List UInt8) : Checked ((Bool × Wifi) × WifiMpduDebug) := do
  let mpduLen ← (if 2 ≤ payload.length then wifiReadLe16 payload 0 else pure 0)
  let d ← wifiScanCaptureMpduDebug payload
  let r ← wifiScanTryEach payload mpduLen.toNat [64, 48, 20, 0] s d
  if r.1.1 then pure r else wifiScanTryFrom payload (payload.length + 1) 0 r.1.2 r.2

end Bytewise

end Orizon
