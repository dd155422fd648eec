import Orizon.Lib.Scan
import Orizon.Wifi.Connect
import Orizon.Wifi.Eapol
import Orizon.Wifi.Receive

/-!
# Orizon.Wifi.Mpdu

From a received MPDU to the state (`kernel/drivers/wifi.c`): `wifi_scan_parse_rx_mpdu`
looks for an 802.11 frame at four offsets and then at every even one, and
`wifi_scan_parse_80211_frame` takes the first that it can.

Where the frame at the MPDU's own offset is not taken, a frame that is part of its body
can be (`wifiScanParseRxMpdu_embedded`).  What the call does is what the first frame taken
does, and no byte outside that frame matters (`wifiScanParseRxMpdu_first`).
-/

namespace Orizon

/-! ## Information elements -/

/-- `WIFI_SCAN_SSID_MAX`. -/
def wifiScanSsidMax : Nat := 32

/-- `WIFI_SCAN_SECURITY_OPEN`. -/
def wifiScanSecurityOpen : Nat := 0

/-- `WIFI_SCAN_SECURITY_WEP`. -/
def wifiScanSecurityWep : Nat := 1

/-- `WIFI_SCAN_SECURITY_WPA`. -/
def wifiScanSecurityWpa : Nat := 2

/-- `WIFI_SCAN_SECURITY_WPA2`. -/
def wifiScanSecurityWpa2 : Nat := 3

/-- What the elements of a beacon say: `ssid` is `none` while `ssid_seen` is 0. -/
structure WifiScanIes where
  channel : UInt8
  ssid : Option (List UInt8)
  security : Nat

/-- `wifi_scan_vendor_ie_is_wpa`. -/
def wifiScanVendorIeIsWpa (data : List UInt8) : Bool := data.take 4 = [0x00, 0x50, 0xf2, 0x01]

/-- One element. -/
def WifiScanIes.element (ies : WifiScanIes) (id : UInt8) (data : List UInt8) : WifiScanIes :=
  if id = 0 && data.length ≤ wifiScanSsidMax then { ies with ssid := some data }
  else if id = 3 && 1 ≤ data.length then { ies with channel := data.getD 0 0 }
  else if id = 48 then { ies with security := wifiScanSecurityWpa2 }
  else if id = 221 && ies.security ≠ wifiScanSecurityWpa2 && wifiScanVendorIeIsWpa data then
    { ies with security := wifiScanSecurityWpa }
  else ies

/-- The loop of `wifi_scan_parse_80211_ies` over the bytes that are left.  Every round
takes two bytes or more, so `fuel` rounds are enough for `fuel` bytes. -/
def wifiScanIesLoop : Nat → List UInt8 → WifiScanIes → WifiScanIes
  | fuel + 1, id :: len :: rest, ies =>
      if rest.length < len.toNat then ies
      else wifiScanIesLoop fuel (rest.drop len.toNat) (ies.element id (rest.take len.toNat))
  | _, _, ies => ies

/-- `WIFI_80211_BEACON_FIXED_BYTES`. -/
def wifiBeaconFixedBytes : Nat := 12

/-- `wifi_scan_parse_80211_ies`. -/
def wifiScanParse80211Ies (frame : List UInt8) (security : Nat) : WifiScanIes :=
  wifiScanIesLoop frame.length (frame.drop (wifiMgmtHeaderBytes + wifiBeaconFixedBytes))
    { channel := 0, ssid := none, security := security }

/-! ## The access-point table -/

/-- `WIFI_SCAN_AP_SLOTS`. -/
def wifiScanApSlots : Nat := 8

/-- `wifi_scan_copy_ssid`. -/
def wifiScanCopySsid (ssid : List UInt8) : List UInt8 :=
  (ssid.take wifiScanSsidMax).map fun c => if 32 ≤ c && c ≤ 126 then c else 46

/-- What `wifi_scan_store_ap` writes into the slot of the access point. -/
def WifiAp.sighted (ap : WifiAp) (ssid : List UInt8) (channel : UInt8) (subtype capability : UInt16)
    (security : Nat) : WifiAp :=
  { ap with
    ssid := if 0 < ssid.length || ap.ssid.length = 0 then wifiScanCopySsid ssid else ap.ssid
    channel := channel
    frameSubtype := subtype
    capability := capability
    security := security
    seenCount := ap.seenCount + 1 }

/-- A slot not yet used. -/
def WifiAp.blank (bssid : WifiMac) : WifiAp where
  bssid := bssid
  ssid := []
  channel := 0
  frameSubtype := 0
  capability := 0
  security := 0
  seenCount := 0

/-- `wifi_scan_store_ap`. -/
def wifiScanStoreAp (sc : WifiScan) (bssid : WifiMac) (ssid : List UInt8) (channel : UInt8)
    (subtype capability : UInt16) (security : Nat) : WifiScan :=
  match sc.aps.findIdx? fun ap => ap.bssid = bssid with
  | some slot =>
      { sc with
        aps := sc.aps.modify slot fun ap => ap.sighted ssid channel subtype capability security
        ssidUpdates := sc.ssidUpdates + 1 }
  | none =>
      if wifiScanApSlots ≤ sc.aps.length then { sc with apOverflow := sc.apOverflow + 1 }
      else
        { sc with
          aps := sc.aps ++ [(WifiAp.blank bssid).sighted ssid channel subtype capability security]
          ssidUpdates := sc.ssidUpdates + 1 }

/-! ## One frame -/

/-- `WIFI_80211_TYPE_MGMT`. -/
def wifiTypeMgmt : UInt16 := 0

/-- `WIFI_80211_TYPE_DATA`. -/
def wifiTypeData : UInt16 := 2

/-- `WIFI_80211_SUBTYPE_PROBE_RESP`. -/
def wifiSubtypeProbeResp : UInt16 := 5

/-- `WIFI_80211_SUBTYPE_BEACON`. -/
def wifiSubtypeBeacon : UInt16 := 8

/-- A beacon or a probe response. -/
def wifiScanTakeBeacon (s : Wifi) (frame : List UInt8) (subtype : UInt16) : Bool × Wifi :=
  let capability := wifiReadLe16 frame (wifiMgmtHeaderBytes + 10)
  let ies := wifiScanParse80211Ies frame
    (if capability &&& 0x0010 ≠ 0 then wifiScanSecurityWep else wifiScanSecurityOpen)
  match ies.ssid with
  | none => (false, s)
  | some ssid =>
      let channel := if ies.channel = 0 then s.scan.iterLastChannel else ies.channel
      (true, { s with
        scan := wifiScanStoreAp s.scan (bytesFrom 6 frame 16) ssid channel subtype capability ies.security })

/-- `wifi_scan_parse_80211_frame`. -/
def wifiScanParse80211Frame (s : Wifi) (frame : List UInt8) : Bool × Wifi :=
  let fc := wifiReadLe16 frame 0
  let subtype := wifiFcSubtype fc
  if frame.length < wifiMgmtHeaderBytes + wifiBeaconFixedBytes then (false, s)
  else if wifiFcType fc = wifiTypeData then
    let r := wifiWpaParseEapolKey s frame fc subtype
    if r.1 then r else wifiCcmpParseProtectedData r.2 frame fc subtype
  else if wifiFcType fc ≠ wifiTypeMgmt then (false, s)
  else if subtype = wifiSubtypeAuth || subtype = wifiSubtypeAssocResp then
    wifiConnectParseResponseFrame s frame subtype
  else if subtype = wifiSubtypeBeacon || subtype = wifiSubtypeProbeResp then wifiScanTakeBeacon s frame subtype
  else (false, s)

/-! ## Finding the frame -/

/-- The frame that `wifi_scan_try_mpdu_candidate` hands on, for an offset and a length. -/
def wifiMpduCandidate (payload : List UInt8) (c : Nat × Nat) : Option (List UInt8) :=
  let rest := payload.drop c.1
  let frame := if 0 < c.2 && c.2 < rest.length then rest.take c.2 else rest
  if payload.length ≤ c.1 || frame.length < wifiMgmtHeaderBytes + wifiBeaconFixedBytes then none
  else some frame

/-- `wifi_scan_try_mpdu_candidate`. -/
def wifiScanTryMpduCandidate (payload : List UInt8) (s : Wifi) (c : Nat × Nat) : Bool × Wifi :=
  match wifiMpduCandidate payload c with
  | none => (false, s)
  | some frame => wifiScanParse80211Frame s frame

/-- The offsets that are tried, each with the length that bounds the frame: behind the
three receive descriptors and at the start, with the length in the descriptor, and then
every even offset, with none. -/
def wifiMpduOffsets (payload : List UInt8) : List (Nat × Nat) :=
  let mpduLen := if 2 ≤ payload.length then (wifiReadLe16 payload 0).toNat else 0
  let evens := if payload.length < wifiMgmtHeaderBytes + wifiBeaconFixedBytes then 0
    else (payload.length - (wifiMgmtHeaderBytes + wifiBeaconFixedBytes)) / 2 + 1
  [(64, mpduLen), (48, mpduLen), (20, mpduLen), (0, mpduLen)] ++ (List.range evens).map fun i => (2 * i, 0)

/-- `wifi_scan_parse_rx_mpdu`. -/
def wifiScanParseRxMpdu (s : Wifi) (payload : List UInt8) : Bool × Wifi :=
  scanFirst (wifiScanTryMpduCandidate payload) s (wifiMpduOffsets payload)

/-! ## What a rejected frame leaves behind -/

/-- The states differ in `ccmp_rx_decrypt_failed` only. -/
def WifiSameButNote (s t : Wifi) : Prop :=
  ∃ failed, t = { s with ccmp := { s.ccmp with rxDecryptFailed := failed } }

theorem WifiSameButNote.refl (s : Wifi) : WifiSameButNote s s := ⟨s.ccmp.rxDecryptFailed, rfl⟩

theorem WifiSameButNote.trans {s t u : Wifi} (hst : WifiSameButNote s t) (htu : WifiSameButNote t u) :
    WifiSameButNote s u := by
  obtain ⟨_, rfl⟩ := hst
  obtain ⟨failed, rfl⟩ := htu
  exact ⟨failed, rfl⟩

theorem WifiSameButNote.symm {s t : Wifi} (h : WifiSameButNote s t) : WifiSameButNote t s := by
  obtain ⟨_, rfl⟩ := h
  exact ⟨s.ccmp.rxDecryptFailed, rfl⟩

/-- `f` neither reads nor writes the fields of data frames. -/
def WifiCcmpBlind {β : Type} (f : Wifi → β × Wifi) : Prop :=
  ∀ s c, f { s with ccmp := c } = ((f s).1, { (f s).2 with ccmp := c })

theorem WifiCcmpBlind.note {β : Type} {f : Wifi → β × Wifi} (hf : WifiCcmpBlind f) {s t : Wifi}
    (h : WifiSameButNote s t) : (f t).1 = (f s).1 ∧ WifiSameButNote (f s).2 (f t).2 := by
  obtain ⟨failed, rfl⟩ := h
  have hkept : (f s).2.ccmp = s.ccmp := congrArg (fun r => r.2.ccmp) (hf s s.ccmp)
  rw [hf]
  refine ⟨rfl, failed, ?_⟩
  rw [hkept]

theorem wifiAndThen_blind {f g : Wifi → Int × Wifi} (hf : WifiCcmpBlind f) (hg : WifiCcmpBlind g) :
    WifiCcmpBlind fun s => wifiAndThen (f s) g := by
  intro s c
  simp only [hf s c, wifiAndThen]
  split
  · rfl
  · exact hg _ c

theorem wifiWpaDerivePtk_blind : WifiCcmpBlind wifiWpaDerivePtk := by
  intro s c
  simp only [wifiWpaDerivePtk, wifiWpaGenerateSnonce]
  split
  · rfl
  · cases wifiWpaPrfSha1 32 s.connect.pmk.toList _ _ with
    | none => rfl
    | some snonce =>
        simp only [Option.map_some]
        split <;> rfl

theorem wifiWpaPrepareM2_blind (version descType : UInt8) :
    WifiCcmpBlind fun s => wifiWpaPrepareM2 s version descType := by
  have hbuild : WifiCcmpBlind fun s => wifiWpaBuildM2 s version descType := by
    intro s c
    simp only [wifiWpaBuildM2]
    split <;> rfl
  have hframe : WifiCcmpBlind wifiWpaBuildM2DataFrame := by
    intro s c
    simp only [wifiWpaBuildM2DataFrame]
    split <;> rfl
  have hboth := wifiAndThen_blind (wifiAndThen_blind wifiWpaDerivePtk_blind hbuild) hframe
  intro s c
  have hrun := hboth s c
  simp only at hrun
  simp only [wifiWpaPrepareM2, hrun]
  split <;> rfl

theorem wifiWpaPrepareM4_blind (version descType : UInt8) :
    WifiCcmpBlind fun s => wifiWpaPrepareM4 s version descType := by
  have hbuild : WifiCcmpBlind fun s => wifiWpaBuildM4 s version descType := by
    intro s c
    simp only [wifiWpaBuildM4]
    split <;> rfl
  have hframe : WifiCcmpBlind wifiWpaBuildM4DataFrame := by
    intro s c
    simp only [wifiWpaBuildM4DataFrame]
    split <;> rfl
  intro s c
  have hrun := wifiAndThen_blind hbuild hframe s c
  simp only at hrun
  simp only [wifiWpaPrepareM4, hrun]
  split <;> rfl

theorem wifiWpaCaptureM3KeyData_ccmp (s : Wifi) (c : WifiCcmp) (eapol : List UInt8) (keyBodyLen : Nat)
    (keyInfo : UInt16) :
    wifiWpaCaptureM3KeyData { s with ccmp := c } eapol keyBodyLen keyInfo =
      { wifiWpaCaptureM3KeyData s eapol keyBodyLen keyInfo with ccmp := c } := by
  simp only [wifiWpaCaptureM3KeyData, wifiWpaParseGtkKde]
  split
  · rfl
  split
  · split <;> rfl
  split
  · rfl
  split
  · rfl
  · split <;> rfl

theorem wifiWpaParseEapolKey_blind (frame : List UInt8) (fc subtype : UInt16) :
    WifiCcmpBlind fun s => wifiWpaParseEapolKey s frame fc subtype := by
  intro s c
  simp only [wifiWpaParseEapolKey]
  split
  · rfl
  rename_i eapol _
  refine Prod.ext rfl ?_
  have hstore : wifiWpaStoreKeyFields { s with ccmp := c } eapol =
      { wifiWpaStoreKeyFields s eapol with ccmp := c } := rfl
  simp only [wifiWpaTakeKey, hstore]
  split
  · split
    · exact congrArg Prod.snd (wifiWpaPrepareM2_blind _ _
        { wifiWpaStoreKeyFields s eapol with
          wpa := { (wifiWpaStoreKeyFields s eapol).wpa with m1Seen := true } } c)
    · rfl
  split
  · have hcapture := wifiWpaCaptureM3KeyData_ccmp
      { wifiWpaStoreKeyFields s eapol with
        wpa := { (wifiWpaStoreKeyFields s eapol).wpa with
          m3Seen := true, m3KeyInfo := wifiEapolKeyInfo eapol } } c eapol
      (wifiReadBe16 eapol 2).toNat (wifiEapolKeyInfo eapol)
    simp only at hcapture
    rw [hcapture]
    split
    · exact congrArg Prod.snd (wifiWpaPrepareM4_blind _ _ _ c)
    · rfl
  · rfl

theorem wifiConnectParseResponseFrame_blind (frame : List UInt8) (subtype : UInt16) :
    WifiCcmpBlind fun s => wifiConnectParseResponseFrame s frame subtype := by
  intro s c
  simp only [wifiConnectParseResponseFrame]
  split
  · rfl
  split
  · simp only [wifiConnectTakeAuth, wifiConnectRefreshAssociationState]
    split
    · rfl
    · split <;> rfl
  split
  · simp only [wifiConnectTakeAssoc, wifiConnectRefreshAssociationState]
    split
    · rfl
    · split <;> split <;> rfl
  · rfl

theorem wifiScanTakeBeacon_blind (frame : List UInt8) (subtype : UInt16) :
    WifiCcmpBlind fun s => wifiScanTakeBeacon s frame subtype := by
  intro s c
  simp only [wifiScanTakeBeacon]
  split <;> rfl

/-- A frame that is no EAPOL-Key frame for the station leaves the state as it is. -/
theorem wifiWpaParseEapolKey_refused {s : Wifi} {frame : List UInt8} {fc subtype : UInt16}
    (h : (wifiWpaParseEapolKey s frame fc subtype).1 = false) :
    (wifiWpaParseEapolKey s frame fc subtype).2 = s := by
  rw [wifiWpaParseEapolKey] at h ⊢
  split at h
  · rfl
  · simp at h

theorem wifiConnectParseResponseFrame_refused {s : Wifi} {frame : List UInt8} {subtype : UInt16}
    (h : (wifiConnectParseResponseFrame s frame subtype).1 = false) :
    (wifiConnectParseResponseFrame s frame subtype).2 = s := by
  by_cases hplan : (!wifiConnectFrameMatchesPlan s.connect frame) = true
  · simp only [wifiConnectParseResponseFrame, if_pos hplan]
  by_cases hauth : subtype = wifiSubtypeAuth
  · simp only [wifiConnectParseResponseFrame, if_neg hplan, if_pos hauth] at h
    cases h
  by_cases hassoc : subtype = wifiSubtypeAssocResp
  · simp only [wifiConnectParseResponseFrame, if_neg hplan, if_neg hauth, if_pos hassoc] at h
    cases h
  · simp only [wifiConnectParseResponseFrame, if_neg hplan, if_neg hauth, if_neg hassoc]

theorem wifiScanTakeBeacon_refused {s : Wifi} {frame : List UInt8} {subtype : UInt16}
    (h : (wifiScanTakeBeacon s frame subtype).1 = false) : (wifiScanTakeBeacon s frame subtype).2 = s := by
  simp only [wifiScanTakeBeacon] at h ⊢
  split at h
  · rfl
  · simp at h

/-- What a frame of the type is handed to. -/
inductive WifiFrameKind (s : Wifi) (frame : List UInt8) : Bool × Wifi → Prop
  | ignored : WifiFrameKind s frame (false, s)
  | eapol (htaken : (wifiWpaParseEapolKey s frame (wifiReadLe16 frame 0)
      (wifiFcSubtype (wifiReadLe16 frame 0))).1 = true) :
      WifiFrameKind s frame (wifiWpaParseEapolKey s frame (wifiReadLe16 frame 0)
        (wifiFcSubtype (wifiReadLe16 frame 0)))
  | ccmp : WifiFrameKind s frame (wifiCcmpReceive s frame)
  | response : WifiFrameKind s frame
      (wifiConnectParseResponseFrame s frame (wifiFcSubtype (wifiReadLe16 frame 0)))
  | beacon : WifiFrameKind s frame (wifiScanTakeBeacon s frame (wifiFcSubtype (wifiReadLe16 frame 0)))

theorem wifiScanParse80211Frame_kind (s : Wifi) (frame : List UInt8) :
    WifiFrameKind s frame (wifiScanParse80211Frame s frame) := by
  simp only [wifiScanParse80211Frame]
  split
  · exact .ignored
  split
  · split
    · rename_i htaken
      exact .eapol htaken
    · rename_i hnot
      rw [wifiWpaParseEapolKey_refused (by simpa using hnot)]
      exact .ccmp
  split
  · exact .ignored
  split
  · exact .response
  split
  · exact .beacon
  · exact .ignored

/-- What a frame can change: a data frame the handshake and the data fields, a beacon the
access-point table, a response the plan. -/
structure WifiFrameEffect (s : Wifi) (frame : List UInt8) (t : Wifi) : Prop where
  data : wifiFcType (wifiReadLe16 frame 0) = wifiTypeData → t = { s with wpa := t.wpa, ccmp := t.ccmp }
  management : wifiFcType (wifiReadLe16 frame 0) ≠ wifiTypeData →
    t = { s with scan := t.scan } ∨ WifiWritesConnect s t

theorem wifiScanParse80211Frame_effect (s : Wifi) (frame : List UInt8) :
    WifiFrameEffect s frame (wifiScanParse80211Frame s frame).2 := by
  have heapol := (wifiEapolFeed_step s frame).others
  rw [wifiEapolFeed] at heapol
  constructor
  · intro htype
    simp only [wifiScanParse80211Frame, if_pos htype]
    split
    · rfl
    split
    · rw [heapol]
    · rename_i hnot
      rw [wifiWpaParseEapolKey_refused (by simpa using hnot)]
      obtain ⟨c, hc⟩ := wifiCcmpReceive_frame s frame
      rw [wifiCcmpReceive] at hc
      rw [hc]
  · intro htype
    simp only [wifiScanParse80211Frame, if_neg htype]
    split
    · exact .inl rfl
    split
    · exact .inl rfl
    split
    · exact .inr (wifiConnectParseResponseFrame_writes s frame _)
    split
    · simp only [wifiScanTakeBeacon]
      split <;> exact .inl rfl
    · exact .inl rfl

/-- A protected frame that is refused notes at most a failed decryption. -/
theorem wifiCcmpReceive_rejected {s : Wifi} {frame : List UInt8} (h : (wifiCcmpReceive s frame).1 = false) :
    WifiSameButNote s (wifiCcmpReceive s frame).2 := by
  rw [wifiCcmpReceive] at h ⊢
  rcases wifiCcmpParseProtectedData_cases s frame (wifiReadLe16 frame 0)
    (wifiFcSubtype (wifiReadLe16 frame 0)) with hr | hr | ⟨tk, plain, -, -, -, -, hr⟩
  · rw [hr]
    exact .refl s
  · rw [hr]
    exact ⟨true, rfl⟩
  · rw [hr] at h
    simp at h

theorem wifiCcmpReceive_accepted {s : Wifi} {frame : List UInt8} (h : (wifiCcmpReceive s frame).1 = true) :
    ∃ plain, ∀ c b, wifiCcmpReceive { s with ccmp := c, bind := b } frame =
      (true, wifiCcmpDeliver { s with ccmp := c, bind := b } (wifiPartsOf frame).a3 plain) := by
  have hcases : ∀ u : Wifi, (wifiCcmpReceive u frame).1 = true → ∃ tk plain,
      WifiCarries u (wifiPartsOf frame) tk plain ∧
        wifiCcmpReceive u frame = (true, wifiCcmpDeliver u (wifiPartsOf frame).a3 plain) := by
    intro u hu
    rw [wifiCcmpReceive] at hu ⊢
    rcases wifiCcmpParseProtectedData_cases u frame (wifiReadLe16 frame 0)
      (wifiFcSubtype (wifiReadLe16 frame 0)) with hr | hr | ⟨tk, plain, hcarries, -, -, -, hr⟩
    · simp [hr] at hu
    · simp [hr] at hu
    · exact ⟨tk, plain, hcarries, hr⟩
  obtain ⟨tk, plain, hcarries, -⟩ := hcases s h
  refine ⟨plain, fun c b => ?_⟩
  obtain ⟨tk', plain', hcarries', hr⟩ := hcases _ ((wifiCcmpReceive_accepts s c b frame).trans h)
  obtain rfl : tk = tk' := Option.some.inj (hcarries.key.symm.trans hcarries'.key)
  obtain rfl : plain = plain' := Option.some.inj (hcarries.opened.symm.trans hcarries'.opened)
  exact hr

theorem wifiCcmpReceive_note {s t : Wifi} (frame : List UInt8) (h : WifiSameButNote s t) :
    (wifiCcmpReceive t frame).1 = (wifiCcmpReceive s frame).1 ∧
      WifiSameButNote (wifiCcmpReceive s frame).2 (wifiCcmpReceive t frame).2 := by
  obtain ⟨failed, rfl⟩ := h
  have hcode := wifiCcmpReceive_ccmp s { s.ccmp with rxDecryptFailed := failed } frame
  refine ⟨hcode, ?_⟩
  cases haccepted : (wifiCcmpReceive s frame).1 with
  | false =>
      exact (wifiCcmpReceive_rejected haccepted).symm.trans
        (WifiSameButNote.trans ⟨failed, rfl⟩ (wifiCcmpReceive_rejected (hcode.trans haccepted)))
  | true =>
      obtain ⟨plain, hplain⟩ := wifiCcmpReceive_accepted haccepted
      have hs := hplain s.ccmp s.bind
      have ht := hplain { s.ccmp with rxDecryptFailed := failed } s.bind
      simp only at hs ht
      rw [hs, ht]
      exact ⟨false, rfl⟩

/-- A frame that is refused, of whatever kind, notes at most a failed decryption. -/
theorem wifiScanParse80211Frame_rejected {s : Wifi} {frame : List UInt8}
    (h : (wifiScanParse80211Frame s frame).1 = false) :
    WifiSameButNote s (wifiScanParse80211Frame s frame).2 := by
  have hkind := wifiScanParse80211Frame_kind s frame
  generalize wifiScanParse80211Frame s frame = r at h hkind ⊢
  cases hkind with
  | ignored => exact .refl s
  | eapol htaken => simp [htaken] at h
  | ccmp => exact wifiCcmpReceive_rejected h
  | response =>
      rw [wifiConnectParseResponseFrame_refused h]
      exact .refl s
  | beacon =>
      rw [wifiScanTakeBeacon_refused h]
      exact .refl s

theorem wifiScanParse80211Frame_note {s t : Wifi} (frame : List UInt8) (h : WifiSameButNote s t) :
    (wifiScanParse80211Frame t frame).1 = (wifiScanParse80211Frame s frame).1 ∧
      WifiSameButNote (wifiScanParse80211Frame s frame).2 (wifiScanParse80211Frame t frame).2 := by
  obtain ⟨hcode, heapol⟩ := (wifiWpaParseEapolKey_blind frame (wifiReadLe16 frame 0)
    (wifiFcSubtype (wifiReadLe16 frame 0))).note h
  simp only [wifiScanParse80211Frame, hcode]
  split
  · exact ⟨rfl, h⟩
  split
  · split
    · exact ⟨hcode, heapol⟩
    · rename_i hnot
      have hrefused : (wifiWpaParseEapolKey s frame (wifiReadLe16 frame 0)
          (wifiFcSubtype (wifiReadLe16 frame 0))).1 = false := by simpa using hnot
      rw [wifiWpaParseEapolKey_refused hrefused, wifiWpaParseEapolKey_refused (hcode.trans hrefused)]
      exact wifiCcmpReceive_note frame h
  split
  · exact ⟨rfl, h⟩
  split
  · exact (wifiConnectParseResponseFrame_blind frame _).note h
  split
  · exact (wifiScanTakeBeacon_blind frame _).note h
  · exact ⟨rfl, h⟩

theorem wifiScanParse80211Frame_unseen : Unseen WifiSameButNote wifiScanParse80211Frame where
  refl := .refl
  trans := .trans
  rejected := wifiScanParse80211Frame_rejected
  accepts frame h := (wifiScanParse80211Frame_note frame h).1
  outcome frame h := (wifiScanParse80211Frame_note frame h).2

/-! ## The frame that is taken -/

/-- The frames that a payload may be taken for, in the order they are tried. -/
def wifiMpduFrames (payload : List UInt8) : List (List UInt8) :=
  (wifiMpduOffsets payload).filterMap (wifiMpduCandidate payload)

/-- The first of them that the state takes. -/
def wifiMpduTaken (s : Wifi) (payload : List UInt8) : Option (List UInt8) :=
  (wifiMpduFrames payload).find? fun frame => (wifiScanParse80211Frame s frame).1

theorem wifiScanParseRxMpdu_eq (s : Wifi) (payload : List UInt8) :
    wifiScanParseRxMpdu s payload = scanFirst wifiScanParse80211Frame s (wifiMpduFrames payload) := by
  refine scanFirst_filterMap (fun s c hc => ?_) (fun s c frame hc => ?_) s (wifiMpduOffsets payload)
  · rw [wifiScanTryMpduCandidate, hc]
  · rw [wifiScanTryMpduCandidate, hc]

/-- The call returns 1 when the state takes one of the payload's frames, and then does what
the first such frame does, to the access-point table, to the responses, to the handshake and to all
else but the note of a failed decryption; payloads whose first frame taken is the same are not
told apart. -/
theorem wifiScanParseRxMpdu_first (s : Wifi) (payload : List UInt8) :
    (wifiMpduTaken s payload = none →
        (wifiScanParseRxMpdu s payload).1 = false ∧ WifiSameButNote s (wifiScanParseRxMpdu s payload).2) ∧
      (∀ frame, wifiMpduTaken s payload = some frame →
        (wifiScanParseRxMpdu s payload).1 = true ∧
          WifiSameButNote (wifiScanParse80211Frame s frame).2 (wifiScanParseRxMpdu s payload).2 ∧
          WifiFrameEffect s frame (wifiScanParse80211Frame s frame).2) ∧
      ∀ other, wifiMpduTaken s other = wifiMpduTaken s payload →
        WifiSameButNote (wifiScanParseRxMpdu s payload).2 (wifiScanParseRxMpdu s other).2 := by
  have hspec := fun payload => scanFirst_spec wifiScanParse80211Frame_unseen s (wifiMpduFrames payload)
  simp only [← wifiScanParseRxMpdu_eq] at hspec
  refine ⟨(hspec payload).1, fun frame htaken => ?_, fun other hsame => ?_⟩
  · obtain ⟨haccepted, hsame⟩ := (hspec payload).2 frame htaken
    exact ⟨haccepted, hsame, wifiScanParse80211Frame_effect s frame⟩
  cases htaken : wifiMpduTaken s payload with
  | none =>
      exact ((hspec payload).1 htaken).2.symm.trans ((hspec other).1 (hsame.trans htaken)).2
  | some frame =>
      exact ((hspec payload).2 frame htaken).2.symm.trans ((hspec other).2 frame (hsame.trans htaken)).2

/-- A beacon without a name. -/
def sampleBeacon : List UInt8 :=
  [0x80, 0] ++ List.replicate 14 0 ++ [2, 17, 34, 51, 68, 85] ++ List.replicate 14 0 ++ [0, 0]

/-- Two payloads of one descriptor and one data header; the body of the first is a beacon. -/
theorem wifiScanParseRxMpdu_embedded :
    ¬ ∀ (s : Wifi) (desc header body body' : List UInt8), desc.length = 64 →
      header.length = wifi80211DataHeaderLen (wifiReadLe16 header 0) (wifiFcSubtype (wifiReadLe16 header 0)) →
      wifiFcType (wifiReadLe16 header 0) = wifiTypeData → body.length = body'.length →
      (wifiReadLe16 desc 0).toNat = header.length + body.length →
      (wifiScanParseRxMpdu s (desc ++ header ++ body)).2.scan.aps =
        (wifiScanParseRxMpdu s (desc ++ header ++ body')).2.scan.aps := by
  intro h
  have hsame := h wifiBoot (62 :: List.replicate 63 0) ([0x08, 0x02] ++ List.replicate 22 0) sampleBeacon
    (List.replicate 38 0) rfl rfl rfl rfl rfl
  revert hsame
  decide +kernel

end Orizon
