import Orizon.KeyWrap
import Orizon.Sha1
import Orizon.Wifi.Frame

/-!
# Orizon.Wifi.Wpa

The WPA2 four-way handshake (`kernel/drivers/wifi.c`): the keys, the answers M2 and M4,
and `wifi_wpa_parse_eapol_key`, which takes the frames of the access point.

An EAPOL-Key frame is taken by its addresses, its LLC/SNAP header and its lengths.  Its
MIC, its replay counter and its ANonce are not compared with anything: the counter and
the ANonce of every frame taken are stored.  What the keys owe to a frame is therefore
what `WifiEapolStep` says: the PTK comes from an M1, the group key from the key data of
an M3 that the key encryption key opens.
-/

namespace Orizon

/-! ## Key derivation -/

/-- The loop of `wifi_wpa_prf_sha1`: digests of the label, the seed and a counter. -/
def wifiWpaPrfLoop (key label seed : List UInt8) : Nat → UInt8 → List UInt8
  | 0, _ => []
  | rounds + 1, counter =>
      hmacSha1 key (label ++ 0 :: (seed ++ [counter])) ++ wifiWpaPrfLoop key label seed rounds (counter + 1)

/-- `wifi_wpa_prf_sha1` for an output of `n` bytes. -/
def wifiWpaPrfSha1 (n : Nat) (key label seed : List UInt8) : Option (Vector UInt8 n) :=
  if n = 0 || 160 < label.length + 1 + seed.length + 1 then none
  else some (bytesFrom n (wifiWpaPrfLoop key label seed ((n + 19) / 20) 0) 0)

/-- `wifi_wpa_lexicographic_less`. -/
def wifiWpaLexicographicLess : List UInt8 → List UInt8 → Bool
  | a :: as, b :: bs => a < b || (a = b && wifiWpaLexicographicLess as bs)
  | _, _ => false

/-- `wifi_wpa_generate_snonce`; `none` is -1. -/
def wifiWpaGenerateSnonce (s : Wifi) : Option Wifi :=
  let seed := s.connect.localMac.toList ++ s.connect.bssid.toList ++ s.wpa.anonce.toList ++
    writeBe32 s.connect.attempts ++ writeBe32 s.scan.generation ++ writeBe32 s.wpa.replayCounterHi ++
    writeBe32 s.wpa.replayCounterLo ++ writeBe32 ((s.vendorId.toUInt32 <<< 16) ||| s.deviceId.toUInt32)
  (wifiWpaPrfSha1 32 s.connect.pmk.toList (asciiBytes "Orizon OS WPA2 SNonce") seed).map fun snonce =>
    { s with wpa := { s.wpa with snonce := snonce } }

/-- `wifi_wpa_derive_ptk`; the code and the state. -/
def wifiWpaDerivePtk (s : Wifi) : Int × Wifi :=
  if !s.connect.pmkReady || !s.wpa.anonceSeen then (-1, s)
  else
    match wifiWpaGenerateSnonce s with
    | none => (-1, s)
    | some s =>
        let localMac := s.connect.localMac.toList
        let bssid := s.connect.bssid.toList
        let snonce := s.wpa.snonce.toList
        let anonce := s.wpa.anonce.toList
        let macs := if wifiWpaLexicographicLess localMac bssid then localMac ++ bssid else bssid ++ localMac
        let nonces :=
          if wifiWpaLexicographicLess snonce anonce then snonce ++ anonce else anonce ++ snonce
        match wifiWpaPrfSha1 64 s.connect.pmk.toList (asciiBytes "Pairwise key expansion")
            (macs ++ nonces) with
        | none => (-1, s)
        | some ptk => (0, { s with wpa := { s.wpa with ptk := ptk, ptkReady := true } })

/-! ## The answers -/

/-- An EAPOL-Key answer with its MIC: M2 carries the SNonce and `keyData`, M4 neither. -/
def wifiWpaEapolAnswer (kck : List UInt8) (version descType : UInt8) (keyInfo keyLen : UInt16)
    (counterHi counterLo : UInt32) (nonce keyData : List UInt8) : List UInt8 :=
  let upToMic := (if version ≠ 0 then version else 2) :: 3 ::
    (wifiWriteBe16 (UInt16.ofNat (95 + keyData.length)) ++ (if descType ≠ 0 then descType else 2) ::
      (wifiWriteBe16 keyInfo ++ wifiWriteBe16 keyLen ++ writeBe32 counterHi ++ writeBe32 counterLo ++
        nonce ++ List.replicate 32 0))
  let behindMic := wifiWriteBe16 (UInt16.ofNat keyData.length) ++ keyData
  let mic := (hmacSha1 kck (upToMic ++ List.replicate 16 0 ++ behindMic)).take 16
  upToMic ++ mic ++ behindMic

/-- `WIFI_WPA_KEY_INFO_PAIRWISE`. -/
def wifiKeyInfoPairwise : UInt16 := 0x0008

/-- `WIFI_WPA_KEY_INFO_INSTALL`. -/
def wifiKeyInfoInstall : UInt16 := 0x0040

/-- `WIFI_WPA_KEY_INFO_ACK`. -/
def wifiKeyInfoAck : UInt16 := 0x0080

/-- `WIFI_WPA_KEY_INFO_MIC`. -/
def wifiKeyInfoMic : UInt16 := 0x0100

/-- `WIFI_WPA_KEY_INFO_SECURE`. -/
def wifiKeyInfoSecure : UInt16 := 0x0200

/-- `WIFI_WPA_KEY_INFO_ENCR_KEY_DATA`. -/
def wifiKeyInfoEncrKeyData : UInt16 := 0x1000

/-- The descriptor version of the last frame, 2 where it had none. -/
def wifiWpaAnswerType (w : WifiWpa) : UInt16 :=
  if w.keyInfo &&& 0x0007 = 0 then 2 else w.keyInfo &&& 0x0007

/-- The key confirmation key. -/
def WifiWpa.kck (w : WifiWpa) : List UInt8 := (bytesFrom 16 w.ptk.toList 0).toList

/-- The key encryption key. -/
def WifiWpa.kek (w : WifiWpa) : AesBlock := bytesFrom 16 w.ptk.toList 16

/-- `rsn_wpa2_psk_ccmp_ie`. -/
def rsnWpa2PskCcmpIe : List UInt8 :=
  [0x30, 0x14, 0x01, 0x00, 0x00, 0x0f, 0xac, 0x04, 0x01, 0x00, 0x00, 0x0f, 0xac, 0x04, 0x01, 0x00,
    0x00, 0x0f, 0xac, 0x02, 0x00, 0x00]

/-- `wifi_wpa_build_m2`. -/
def wifiWpaBuildM2 (s : Wifi) (version descType : UInt8) : Int × Wifi :=
  if !s.wpa.ptkReady then (-1, s)
  else
    let keyInfo := wifiWpaAnswerType s.wpa ||| (wifiKeyInfoPairwise ||| wifiKeyInfoMic)
    let m2 := wifiWpaEapolAnswer s.wpa.kck version descType keyInfo s.wpa.keyLen s.wpa.replayCounterHi
      s.wpa.replayCounterLo s.wpa.snonce.toList rsnWpa2PskCcmpIe
    (0, { s with wpa := { s.wpa with eapolM2 := m2, m2Ready := true } })

/-- `wifi_wpa_build_m4`. -/
def wifiWpaBuildM4 (s : Wifi) (version descType : UInt8) : Int × Wifi :=
  if !s.wpa.ptkReady then (-1, s)
  else
    let keyInfo := wifiWpaAnswerType s.wpa |||
      (wifiKeyInfoPairwise ||| wifiKeyInfoMic ||| wifiKeyInfoSecure)
    let m4 := wifiWpaEapolAnswer s.wpa.kck version descType keyInfo s.wpa.keyLen s.wpa.replayCounterHi
      s.wpa.replayCounterLo (List.replicate 32 0) []
    (0, { s with wpa := { s.wpa with eapolM4 := m4, m4Ready := true } })

/-- `WIFI_CONNECT_FRAME_BYTES`. -/
def wifiConnectFrameBytes : Nat := 2048

/-- `llc_snap_eapol`. -/
def wifiLlcSnapEapol : List UInt8 := [0xaa, 0xaa, 0x03, 0x00, 0x00, 0x00, 0x88, 0x8e]

/-- The data frame that carries an answer to the access point. -/
def wifiWpaDataFrame (s : Wifi) (eapol : List UInt8) : List UInt8 :=
  wifiWriteLe16 (((2 : UInt16) <<< 2) ||| wifiFcToDs) ++ wifiWriteLe16 0 ++ s.connect.bssid.toList ++
    s.connect.localMac.toList ++ s.connect.bssid.toList ++ wifiWriteLe16 0 ++ wifiLlcSnapEapol ++ eapol

/-- `wifi_wpa_build_m2_data_frame`. -/
def wifiWpaBuildM2DataFrame (s : Wifi) : Int × Wifi :=
  if !s.wpa.m2Ready || wifiConnectFrameBytes < wifiMgmtHeaderBytes + 8 + s.wpa.eapolM2.length then (-1, s)
  else (0, { s with wpa := { s.wpa with m2DataFrame := wifiWpaDataFrame s s.wpa.eapolM2, m2DataReady := true } })

/-- `wifi_wpa_build_m4_data_frame`. -/
def wifiWpaBuildM4DataFrame (s : Wifi) : Int × Wifi :=
  if !s.wpa.m4Ready || wifiConnectFrameBytes < wifiMgmtHeaderBytes + 8 + s.wpa.eapolM4.length then (-1, s)
  else (0, { s with wpa := { s.wpa with m4DataFrame := wifiWpaDataFrame s s.wpa.eapolM4, m4DataReady := true } })

/-- `f` and then `g`, unless `f` fails. -/
def wifiAndThen (r : Int × Wifi) (g : Wifi → Int × Wifi) : Int × Wifi :=
  if r.1 ≠ 0 then (-1, r.2) else g r.2

/-- `wifi_wpa_prepare_m4`. -/
def wifiWpaPrepareM4 (s : Wifi) (version descType : UInt8) : Int × Wifi :=
  let r := wifiAndThen (wifiWpaBuildM4 s version descType) wifiWpaBuildM4DataFrame
  if r.1 ≠ 0 then (-1, { r.2 with wpa := { r.2.wpa with m4Ready := false, m4DataReady := false } })
  else (0, r.2)

/-- `wifi_wpa_prepare_m2`. -/
def wifiWpaPrepareM2 (s : Wifi) (version descType : UInt8) : Int × Wifi :=
  let r := wifiAndThen (wifiAndThen (wifiWpaDerivePtk s) fun s => wifiWpaBuildM2 s version descType)
    wifiWpaBuildM2DataFrame
  if r.1 ≠ 0 then
    (-1, { r.2 with wpa := { r.2.wpa with ptkReady := false, m2Ready := false, m2DataReady := false } })
  else (0, r.2)

/-! ## The group key -/

/-- The loop of `wifi_wpa_parse_gtk_kde`: the body of the first GTK element behind `pos`.
Every round passes two bytes or more, so `fuel` rounds are enough for `fuel` bytes. -/
def wifiWpaGtkKde (data : List UInt8) : Nat → Nat → Option (Nat × Nat)
  | 0, _ => none
  | fuel + 1, pos =>
      if data.length < pos + 2 then none
      else if (data.drop pos).all (· = 0) then none
      else
        let ieLen := (data.getD (pos + 1) 0).toNat
        if data.length < pos + 2 + ieLen then none
        else if data.getD pos 0 = 0xdd && 6 ≤ ieLen &&
            (data.drop (pos + 2)).take 4 = [0x00, 0x0f, 0xac, 0x01] then some (pos, ieLen)
        else wifiWpaGtkKde data fuel (pos + 2 + ieLen)

/-- `wifi_wpa_parse_gtk_kde`. -/
def wifiWpaParseGtkKde (s : Wifi) (data : List UInt8) : Wifi :=
  let cleared := { s.wpa with gtkSeen := false, gtkKeyId := 0, gtkLen := 0, gtk := Vector.replicate 32 0 }
  match wifiWpaGtkKde data (data.length + 1) 0 with
  | none => { s with wpa := cleared }
  | some (pos, ieLen) =>
      let gtkLen := min (ieLen - 6) 32
      { s with
        wpa := { cleared with
          gtkSeen := true
          gtkKeyId := data.getD (pos + 6) 0 &&& 0x03
          gtkLen := gtkLen
          gtk := bytesFrom 32 ((data.drop (pos + 8)).take gtkLen) 0 } }

/-- `wifi_wpa_capture_m3_key_data`; `eapol` is the frame from its EAPOL header on. -/
def wifiWpaCaptureM3KeyData (s : Wifi) (eapol : List UInt8) (keyBodyLen : Nat) (keyInfo : UInt16) : Wifi :=
  let s := { s with
    wpa := { s.wpa with
      m3KeyData := [], keyDataDecrypted := false, keyDataDecryptFailed := false, keyDataPlain := [] } }
  let keyDataLen := (wifiReadBe16 eapol 97).toNat
  if keyBodyLen < 95 || keyDataLen = 0 || 4 + keyBodyLen < 99 + keyDataLen || 256 < keyDataLen then s
  else
    let keyData := (eapol.drop 99).take keyDataLen
    let s := { s with wpa := { s.wpa with m3KeyData := keyData } }
    let captured plain := wifiWpaParseGtkKde
      { s with wpa := { s.wpa with keyDataDecrypted := true, keyDataPlain := plain } } plain
    if keyInfo &&& wifiKeyInfoEncrKeyData = 0 then captured keyData
    else
      match if s.wpa.ptkReady then aes128KeyUnwrap s.wpa.kek keyData else none with
      | none => { s with wpa := { s.wpa with keyDataDecryptFailed := true } }
      | some plain =>
          if 256 < plain.length then { s with wpa := { s.wpa with keyDataDecryptFailed := true } }
          else captured plain

/-! ## Taking a key frame -/

/-- The key information of an EAPOL-Key frame. -/
def wifiEapolKeyInfo (eapol : List UInt8) : UInt16 := wifiReadBe16 eapol 5

/-- `is_pairwise_m1`. -/
def wifiIsPairwiseM1 (keyInfo : UInt16) : Bool :=
  keyInfo &&& wifiKeyInfoPairwise ≠ 0 && keyInfo &&& wifiKeyInfoAck ≠ 0 && keyInfo &&& wifiKeyInfoMic = 0

/-- `is_pairwise_m3`. -/
def wifiIsPairwiseM3 (keyInfo : UInt16) : Bool :=
  keyInfo &&& wifiKeyInfoPairwise ≠ 0 && keyInfo &&& wifiKeyInfoAck ≠ 0 && keyInfo &&& wifiKeyInfoMic ≠ 0 &&
    keyInfo &&& wifiKeyInfoInstall ≠ 0 && keyInfo &&& wifiKeyInfoEncrKeyData ≠ 0

/-- The checks of `wifi_wpa_parse_eapol_key`: the frame from its EAPOL header on, `none`
where the call returns 0. -/
def wifiWpaEapolOf (c : WifiConnect) (frame : List UInt8) (fc subtype : UInt16) : Option (List UInt8) :=
  let hdrLen := wifi80211DataHeaderLen fc subtype
  let llc := frame.drop hdrLen
  let eapol := llc.drop 8
  let keyBodyLen := (wifiReadBe16 eapol 2).toNat
  if !c.ready || bytesFrom 6 frame 4 ≠ c.localMac || bytesFrom 6 frame 10 ≠ c.bssid then none
  else if frame.length < hdrLen + 8 + 4 then none
  else if llc.take 6 ≠ wifiLlcSnap || wifiReadBe16 llc 6 ≠ 0x888e then none
  else if eapol.length < 4 || eapol.getD 1 0 ≠ 3 then none
  else if eapol.length < keyBodyLen + 4 || keyBodyLen < 95 then none
  else some eapol

/-- The fields every frame taken writes. -/
def wifiWpaStoreKeyFields (s : Wifi) (eapol : List UInt8) : Wifi :=
  { s with
    wpa := { s.wpa with
      keyInfo := wifiEapolKeyInfo eapol
      keyLen := wifiReadBe16 eapol 7
      replayCounterHi := readBe32 eapol 9
      replayCounterLo := readBe32 eapol 13
      keyDataLen := wifiReadBe16 eapol 97
      keyDescType := eapol.getD 4 0
      eapolVersion := eapol.getD 0 0
      anonceSeen := true
      anonce := bytesFrom 32 eapol 17 } }

/-- `wifi_wpa_parse_eapol_key` behind its checks. -/
def wifiWpaTakeKey (s : Wifi) (eapol : List UInt8) : Wifi :=
  let keyInfo := wifiEapolKeyInfo eapol
  let version := eapol.getD 0 0
  let descType := eapol.getD 4 0
  let s := wifiWpaStoreKeyFields s eapol
  if wifiIsPairwiseM1 keyInfo then
    let s := { s with wpa := { s.wpa with m1Seen := true } }
    if s.connect.pmkReady then (wifiWpaPrepareM2 s version descType).2 else s
  else if wifiIsPairwiseM3 keyInfo then
    let s := { s with wpa := { s.wpa with m3Seen := true, m3KeyInfo := keyInfo } }
    let s := wifiWpaCaptureM3KeyData s eapol (wifiReadBe16 eapol 2).toNat keyInfo
    if s.wpa.ptkReady then (wifiWpaPrepareM4 s version descType).2 else s
  else s

/-- `wifi_wpa_parse_eapol_key`. -/
def wifiWpaParseEapolKey (s : Wifi) (frame : List UInt8) (fc subtype : UInt16) : Bool × Wifi :=
  match wifiWpaEapolOf s.connect frame fc subtype with
  | none => (false, s)
  | some eapol => (true, wifiWpaTakeKey s eapol)

end Orizon
