import Orizon.Wifi.Bytewise

/-!
# Orizon.Wifi.Inside

The byte-by-byte receive path (`Orizon.Wifi.Bytewise`) never reads behind a slice, never writes behind a
buffer, comes to an end, and does what `Orizon.Wifi.Mpdu` says.
-/

namespace Orizon

/-! ## Numbers and buffers -/

section Bytes

variable {p : List UInt8} {off n : Nat}

theorem wifiReadLe16_bytewise (h : off + 2 ≤ p.length) : Bytewise.wifiReadLe16 p off = .ok (wifiReadLe16 p off) := by
  simp [Bytewise.wifiReadLe16, wifiReadLe16, readAt_getD 0 (show off < p.length by omega),
    readAt_getD 0 (show off + 1 < p.length by omega)]

theorem wifiReadBe16_bytewise (h : off + 2 ≤ p.length) : Bytewise.wifiReadBe16 p off = .ok (wifiReadBe16 p off) := by
  simp [Bytewise.wifiReadBe16, wifiReadBe16, readAt_getD 0 (show off < p.length by omega),
    readAt_getD 0 (show off + 1 < p.length by omega)]

theorem wifiReadBe32_bytewise (h : off + 4 ≤ p.length) : Bytewise.wifiReadBe32 p off = .ok (readBe32 p off) := by
  simp [Bytewise.wifiReadBe32, readBe32, readAt_getD 0 (show off < p.length by omega),
    readAt_getD 0 (show off + 1 < p.length by omega), readAt_getD 0 (show off + 2 < p.length by omega),
    readAt_getD 0 (show off + 3 < p.length by omega)]

theorem toList_bytesFrom_inside (h : off + n ≤ p.length) : (bytesFrom n p off).toList = (p.drop off).take n :=
  @toList_bytesFrom _ _ _ _ ((p.drop off).drop n) (List.take_append_drop ..).symm
    (by rw [List.length_take, List.length_drop]; omega)

theorem bytesFrom_padded (n k : Nat) (p : List UInt8) : bytesFrom n (p ++ List.replicate k 0) 0 = bytesFrom n p 0 := by
  refine Vector.ext fun i hi => ?_
  simp only [bytesFrom, Vector.getElem_ofFn, List.drop_zero, List.getD_eq_getElem?_getD]
  grind

theorem copyTo_full {v : Vector UInt8 n} {bytes : List UInt8} (h : bytes.length = n) :
    Bytewise.copyTo v bytes = .ok (bytesFrom n bytes 0) := by
  have hwrite : writeAll v.toList 0 bytes = .ok bytes := by simp [writeAll, h]
  rw [Bytewise.copyTo, hwrite, checked_bind, checked_pure]

theorem copyTo_zeros {bytes : List UInt8} (h : bytes.length ≤ n) :
    Bytewise.copyTo (Vector.replicate n 0) bytes = .ok (bytesFrom n bytes 0) := by
  have hwrite := @writeAll_replicate UInt8 [] bytes 0 n _ 0 rfl (Nat.add_sub_of_le h)
  rw [List.nil_append, List.nil_append] at hwrite
  rw [Bytewise.copyTo, Vector.toList_replicate, hwrite, checked_bind, checked_pure, bytesFrom_padded]

theorem matchesAt_bytesFrom {mac : Vector UInt8 n} (h : off + n ≤ p.length) :
    matchesAt p off mac.toList = .ok (decide (bytesFrom n p off = mac)) := by
  simp [@matchesAt_eq _ _ p mac.toList off (by simpa using h), ← Vector.toList_inj, toList_bytesFrom_inside h]

theorem bytesFrom_bytesFrom (h : off + n ≤ p.length) : bytesFrom n ((p.drop off).take n) 0 = bytesFrom n p off := by
  refine @bytesFrom_of_drop _ _ _ [] _ ?_
  rw [List.drop_zero, List.append_nil, toList_bytesFrom_inside h]

theorem u32_of_lt (h : n < 2 ^ 32) : u32 n = n := Nat.mod_eq_of_lt h

end Bytes

/-! ## Information elements -/

/-- The elements found, with the name read. -/
def WifiScanIesAt.read (ies : WifiScanIesAt) (frame : List UInt8) : WifiScanIes where
  channel := ies.channel
  ssid := ies.ssid.map fun place => (frame.drop place.1).take place.2
  security := ies.security

/-- The name lies in the frame. -/
def WifiScanIesAt.Inside (ies : WifiScanIesAt) (frame : List UInt8) : Prop :=
  ∀ place ∈ ies.ssid, place.1 + place.2 ≤ frame.length

section Elements

variable {frame : List UInt8} {ies : WifiScanIesAt} {pos fuel data len : Nat}

theorem wifiScanVendorIeIsWpa_bytewise (h : data + len ≤ frame.length) :
    Bytewise.wifiScanVendorIeIsWpa frame data len =
      .ok (wifiScanVendorIeIsWpa ((frame.drop data).take len)) := by
  rw [Bytewise.wifiScanVendorIeIsWpa, wifiScanVendorIeIsWpa, List.take_take]
  split
  next hlen => rw [matchesAt_eq (by simp; omega), List.length_cons, List.length_cons, List.length_cons,
    List.length_singleton, min_eq_left hlen]
  next hlen =>
    have hshort : List.take (min 4 len) (frame.drop data) ≠ [0x00, 0x50, 0xf2, 0x01] := by
      intro heq
      have hcount := congrArg List.length heq
      simp at hcount
      omega
    simp [hshort]

theorem wifiScanElement_bytewise (id : UInt8) (h : data + len ≤ frame.length) (hies : ies.Inside frame) :
    Safe (fun out => out.read frame = (ies.read frame).element id ((frame.drop data).take len) ∧ out.Inside frame)
      (Bytewise.wifiScanElement frame id data len ies) := by
  have hlen : ((frame.drop data).take len).length = len := by
    rw [List.length_take, List.length_drop]
    omega
  have hsec : (ies.read frame).security = ies.security := rfl
  unfold Bytewise.wifiScanElement
  split
  next hssid =>
    refine safe_pure ⟨by simp [WifiScanIes.element, WifiScanIesAt.read, hlen, hssid], ?_⟩
    simpa [WifiScanIesAt.Inside] using h
  next hssid =>
  split
  next hchannel =>
    have hget : ((frame.drop data).take len).getD 0 0 = frame.getD data 0 := by
      simp [List.getD_eq_getElem?_getD, show 0 < len by omega]
    rw [readAt_getD 0 (by omega), checked_bind]
    refine safe_pure ⟨?_, hies⟩
    simp only [WifiScanIes.element, hlen, hget]
    simp [WifiScanIesAt.read, hchannel]
  next hchannel =>
  have hnamed : ¬ (id = 0 && len ≤ wifiScanSsidMax) := by simpa using hssid
  have hset : ¬ (id = 3 && 1 ≤ len) := by simpa using hchannel
  split
  next hrsn => exact safe_pure ⟨by simp [WifiScanIes.element, hrsn, WifiScanIesAt.read], hies⟩
  next hrsn =>
  split
  next hvendor =>
    rw [wifiScanVendorIeIsWpa_bytewise h, checked_bind]
    refine safe_pure ?_
    cases hwpa : wifiScanVendorIeIsWpa ((frame.drop data).take len) with
    | true =>
        exact ⟨by simp [WifiScanIes.element, hvendor, hwpa, WifiScanIesAt.read], hies⟩
    | false => exact ⟨by simp [WifiScanIes.element, hlen, hnamed, hset, hrsn, hwpa], hies⟩
  next hvendor =>
    refine safe_pure ⟨?_, hies⟩
    simp only [WifiScanIes.element, hlen, hsec, if_neg hnamed, if_neg hset, if_neg hrsn]
    rw [if_neg (by simp; tauto)]

theorem wifiScanIesFrom_bytewise (hframe : frame.length < 2 ^ 31) (hpos : pos ≤ frame.length)
    (hfuel : frame.length - pos ≤ fuel) (hies : ies.Inside frame) :
    Safe (fun out => out.read frame = wifiScanIesLoop fuel (frame.drop pos) (ies.read frame) ∧ out.Inside frame)
      (Bytewise.wifiScanIesFrom frame (fuel + 1) pos ies) := by
  induction fuel generalizing pos ies with
  | zero =>
      rw [Bytewise.wifiScanIesFrom, u32_of_lt (by omega), if_neg (by omega)]
      exact safe_pure ⟨rfl, hies⟩
  | succ fuel ih =>
      rw [Bytewise.wifiScanIesFrom, u32_of_lt (by omega), u32_of_lt (show pos + 1 < _ by omega)]
      split
      next hroom =>
        rw [readAt_eq (show pos < frame.length by omega), readAt_eq (show pos + 1 < frame.length by omega),
          checked_bind, checked_bind, List.drop_eq_getElem_cons (show pos < frame.length by omega),
          List.drop_eq_getElem_cons (show pos + 1 < frame.length by omega), wifiScanIesLoop]
        have hbyte := frame[pos + 1].toNat_lt
        generalize frame[pos + 1] = len at hbyte ⊢
        rw [u32_of_lt (show pos + 2 + len.toNat < 2 ^ 32 by omega), List.length_drop, List.drop_drop]
        split
        next hshort =>
          rw [if_pos (by omega)]
          exact safe_pure ⟨rfl, hies⟩
        next hshort =>
          rw [if_neg (by omega)]
          refine (wifiScanElement_bytewise _ (by omega) hies).bind fun next hnext => ?_
          have hrest := @ih _ (pos + 2 + len.toNat) (by omega) (by omega) hnext.2
          rwa [hnext.1] at hrest
      next hroom =>
        refine safe_pure ⟨?_, hies⟩
        rw [wifiScanIesLoop]
        intro _ id len rest _ hdrop
        have hcount := congrArg List.length hdrop
        simp at hcount
        omega

theorem wifiScanParse80211Ies_bytewise (security : Nat) (hframe : frame.length < 2 ^ 31)
    (hlen : wifiMgmtHeaderBytes + wifiBeaconFixedBytes ≤ frame.length) :
    Safe (fun out => out.read frame = wifiScanParse80211Ies frame security ∧ out.Inside frame)
      (Bytewise.wifiScanParse80211Ies frame security) :=
  wifiScanIesFrom_bytewise hframe hlen (Nat.sub_le ..) fun _ h => by cases h

end Elements

/-! ## The access-point table -/

section Table

variable {frame : List UInt8} {place : Nat × Nat} {aps : List WifiAp} {i bssid : Nat}

theorem wifiScanFindSlot_bytewise (h : bssid + 6 ≤ frame.length) (hslots : i + aps.length ≤ wifiScanApSlots) :
    Bytewise.wifiScanFindSlot frame bssid i aps =
      .ok ((aps.findIdx? fun ap => ap.bssid = bytesFrom 6 frame bssid).map (· + i)) := by
  induction aps generalizing i with
  | nil => rfl
  | cons ap aps ih =>
      rw [List.length_cons] at hslots
      rw [Bytewise.wifiScanFindSlot, slotAt_eq (by omega), checked_bind, matchesAt_bytesFrom h, checked_bind,
        ih (by omega), List.findIdx?_cons]
      by_cases hap : bytesFrom 6 frame bssid = ap.bssid
      · simp [hap]
      · have hne : ap.bssid ≠ bytesFrom 6 frame bssid := Ne.symm hap
        simp [hap, hne, Function.comp_def, Nat.add_assoc, Nat.add_comm 1 i]

theorem wifiScanCopySsid_bytewise (h : place.1 + place.2 ≤ frame.length) :
    Bytewise.wifiScanCopySsid frame place = .ok (wifiScanCopySsid ((frame.drop place.1).take place.2)) := by
  rw [Bytewise.wifiScanCopySsid, readRange_eq (by omega), checked_bind]
  simp only
  rw [fillBuffer_eq (by simp), checked_bind, checked_pure, List.take_left, wifiScanCopySsid, List.take_take,
    Nat.min_comm]

theorem wifiScanSighted_bytewise (ap : WifiAp) (channel : UInt8) (subtype capability : UInt16) (security : Nat)
    (h : place.1 + place.2 ≤ frame.length) :
    Bytewise.wifiScanSighted frame ap place channel subtype capability security =
      .ok (ap.sighted ((frame.drop place.1).take place.2) channel subtype capability security) := by
  have hlen : ((frame.drop place.1).take place.2).length = place.2 := by
    rw [List.length_take, List.length_drop]
    omega
  rw [Bytewise.wifiScanSighted, wifiScanCopySsid_bytewise h, WifiAp.sighted, hlen]
  split <;> rfl

theorem wifiScanStoreAp_bytewise {sc : WifiScan} (channel : UInt8) (subtype capability : UInt16) (security : Nat)
    (hslots : sc.aps.length ≤ wifiScanApSlots) (h : bssid + 6 ≤ frame.length)
    (hplace : place.1 + place.2 ≤ frame.length) :
    Bytewise.wifiScanStoreAp frame sc bssid place channel subtype capability security =
      .ok (wifiScanStoreAp sc (bytesFrom 6 frame bssid) ((frame.drop place.1).take place.2) channel subtype capability
        security) := by
  rw [Bytewise.wifiScanStoreAp, wifiScanFindSlot_bytewise h (by omega), checked_bind]
  unfold wifiScanStoreAp
  cases hfind : sc.aps.findIdx? fun ap => ap.bssid = bytesFrom 6 frame bssid with
  | some slot =>
      have hslot : slot < sc.aps.length := (List.findIdx?_eq_some_iff_getElem.mp hfind).1
      simp only [Option.map_some, Nat.add_zero]
      rw [slotAt_eq (by omega), checked_bind, readAt_eq hslot, checked_bind, wifiScanSighted_bytewise _ _ _ _ _ hplace,
        checked_bind, List.modify_eq_set_get _ hslot]
      rfl
  | none =>
      simp only [Option.map_none]
      split
      · rfl
      · rw [slotAt_eq (by omega), checked_bind, readRange_eq h, checked_bind,
          copyTo_full (by rw [List.length_take, List.length_drop]; omega), checked_bind, bytesFrom_bytesFrom h,
          wifiScanSighted_bytewise _ _ _ _ _ hplace]
        rfl

theorem wifiScanTakeBeacon_bytewise {s : Wifi} (subtype : UInt16) (hslots : s.scan.aps.length ≤ wifiScanApSlots)
    (hframe : frame.length < 2 ^ 31) (hlen : wifiMgmtHeaderBytes + wifiBeaconFixedBytes ≤ frame.length) :
    Bytewise.wifiScanTakeBeacon s frame subtype = .ok (wifiScanTakeBeacon s frame subtype) := by
  have hbytes : wifiMgmtHeaderBytes + wifiBeaconFixedBytes = 36 := rfl
  have hfixed : wifiMgmtHeaderBytes = 24 := rfl
  rw [Bytewise.wifiScanTakeBeacon, wifiReadLe16_bytewise (by omega), checked_bind, wifiScanTakeBeacon]
  obtain ⟨ies, hies, hread, hinside⟩ := wifiScanParse80211Ies_bytewise
    (if wifiReadLe16 frame (wifiMgmtHeaderBytes + 10) &&& 0x0010 ≠ 0 then wifiScanSecurityWep else wifiScanSecurityOpen)
    hframe hlen
  rw [hies, checked_bind]
  simp only [← hread, WifiScanIesAt.read]
  cases hssid : ies.ssid with
  | none => rfl
  | some place =>
      simp only [Option.map_some]
      rw [wifiScanStoreAp_bytewise _ _ _ _ hslots (by omega) (hinside place hssid)]
      rfl

end Table

/-! ## Responses -/

section Responses

variable {frame : List UInt8}

theorem wifiConnectFrameMatchesPlan_bytewise (c : WifiConnect) :
    Bytewise.wifiConnectFrameMatchesPlan c frame = .ok (wifiConnectFrameMatchesPlan c frame) := by
  have hfixed : wifiMgmtHeaderBytes = 24 := rfl
  rw [Bytewise.wifiConnectFrameMatchesPlan, wifiConnectFrameMatchesPlan]
  split
  next hnot =>
    have hfalse : (c.ready && decide (wifiMgmtHeaderBytes ≤ frame.length)) = false := by
      simpa [Nat.not_le, imp_iff_not_or] using hnot
    simp [hfalse]
  next hready =>
    obtain ⟨hplan, hlen⟩ : c.ready = true ∧ wifiMgmtHeaderBytes ≤ frame.length := by simpa using hready
    rw [matchesAt_bytesFrom (by omega), matchesAt_bytesFrom (by omega), matchesAt_bytesFrom (by omega), checked_bind,
      checked_bind]
    by_cases h1 : bytesFrom 6 frame 4 = c.localMac <;> by_cases h2 : bytesFrom 6 frame 10 = c.bssid <;>
      simp [hplan, hlen, h1, h2]

theorem wifiConnectTakeAuth_bytewise (s : Wifi) :
    Bytewise.wifiConnectTakeAuth s frame = .ok (wifiConnectTakeAuth s frame) := by
  rw [Bytewise.wifiConnectTakeAuth, wifiConnectTakeAuth]
  split
  · rfl
  · rw [wifiReadLe16_bytewise (by omega), wifiReadLe16_bytewise (by omega), wifiReadLe16_bytewise (by omega)]
    rfl

theorem wifiConnectTakeAssoc_bytewise (s : Wifi) :
    Bytewise.wifiConnectTakeAssoc s frame = .ok (wifiConnectTakeAssoc s frame) := by
  rw [Bytewise.wifiConnectTakeAssoc, wifiConnectTakeAssoc]
  split
  · rfl
  · rw [wifiReadLe16_bytewise (by omega), wifiReadLe16_bytewise (by omega)]
    rfl

theorem wifiConnectParseResponseFrame_bytewise (s : Wifi) (subtype : UInt16) :
    Bytewise.wifiConnectParseResponseFrame s frame subtype = .ok (wifiConnectParseResponseFrame s frame subtype) := by
  rw [Bytewise.wifiConnectParseResponseFrame, wifiConnectParseResponseFrame, wifiConnectFrameMatchesPlan_bytewise,
    checked_bind]
  split
  · rfl
  split
  · rw [wifiConnectTakeAuth_bytewise]
    rfl
  split
  · rw [wifiConnectTakeAssoc_bytewise]
    rfl
  · rfl

end Responses

/-! ## The answers of the handshake -/

section Answers

variable {s : Wifi} {version descType : UInt8}

theorem wifiWpaEapolAnswer_length (kck : List UInt8) (keyInfo keyLen : UInt16) (hi lo : UInt32)
    (nonce : Vector UInt8 32)
    (keyData : List UInt8) :
    (wifiWpaEapolAnswer kck version descType keyInfo keyLen hi lo nonce.toList keyData).length ≤
      99 + keyData.length := by
  simp only [wifiWpaEapolAnswer, List.length_append, List.length_cons, List.length_take, List.length_replicate,
    length_wifiWriteBe16, Vector.length_toList, writeBe32]
  simp
  omega

theorem wifiWpaGenerateSnonce_bytewise (s : Wifi) :
    Bytewise.wifiWpaGenerateSnonce s = .ok (wifiWpaGenerateSnonce s) := by
  rw [Bytewise.wifiWpaGenerateSnonce, fillBuffer_eq (by simp [writeBe32])]
  rfl

theorem wifiWpaDerivePtk_bytewise (s : Wifi) : Bytewise.wifiWpaDerivePtk s = .ok (wifiWpaDerivePtk s) := by
  rw [Bytewise.wifiWpaDerivePtk, wifiWpaDerivePtk]
  split
  · rfl
  rw [wifiWpaGenerateSnonce_bytewise, checked_bind]
  cases wifiWpaGenerateSnonce s with
  | none => rfl
  | some t =>
      simp only
      rw [fillBuffer_eq (by split <;> split <;> simp), checked_bind]
      generalize wifiWpaPrfSha1 64 _ _ _ = ptk
      cases ptk <;> rfl

theorem wifiWpaBuildM2_bytewise (s : Wifi) :
    Bytewise.wifiWpaBuildM2 s version descType = .ok (wifiWpaBuildM2 s version descType) := by
  rw [Bytewise.wifiWpaBuildM2, wifiWpaBuildM2]
  split
  · rfl
  · simp only
    rw [fillBuffer_eq ((wifiWpaEapolAnswer_length ..).trans (by decide))]
    rfl

theorem wifiWpaBuildM4_bytewise (s : Wifi) :
    Bytewise.wifiWpaBuildM4 s version descType = .ok (wifiWpaBuildM4 s version descType) := by
  rw [Bytewise.wifiWpaBuildM4, wifiWpaBuildM4]
  split
  · rfl
  · have hlen := @wifiWpaEapolAnswer_length version descType s.wpa.kck
      (wifiWpaAnswerType s.wpa ||| (wifiKeyInfoPairwise ||| wifiKeyInfoMic ||| wifiKeyInfoSecure)) s.wpa.keyLen
      s.wpa.replayCounterHi s.wpa.replayCounterLo (Vector.replicate 32 0) []
    simp only
    rw [Vector.toList_replicate] at hlen
    rw [fillBuffer_eq (hlen.trans (by decide))]
    rfl

theorem wifiWpaDataFrame_length (s : Wifi) (eapol : List UInt8) :
    (wifiWpaDataFrame s eapol).length = wifiMgmtHeaderBytes + 8 + eapol.length := by
  simp [wifiWpaDataFrame, wifiLlcSnapEapol, wifiMgmtHeaderBytes]
  omega

theorem wifiWpaBuildM2DataFrame_bytewise (s : Wifi) :
    Bytewise.wifiWpaBuildM2DataFrame s = .ok (wifiWpaBuildM2DataFrame s) := by
  rw [Bytewise.wifiWpaBuildM2DataFrame, wifiWpaBuildM2DataFrame]
  split
  · rfl
  next hfits =>
    simp only [Bool.or_eq_true, decide_eq_true_eq, not_or, Nat.not_lt] at hfits
    rw [fillBuffer_eq (by rw [wifiWpaDataFrame_length]; exact hfits.2)]
    rfl

theorem wifiWpaBuildM4DataFrame_bytewise (s : Wifi) :
    Bytewise.wifiWpaBuildM4DataFrame s = .ok (wifiWpaBuildM4DataFrame s) := by
  rw [Bytewise.wifiWpaBuildM4DataFrame, wifiWpaBuildM4DataFrame]
  split
  · rfl
  next hfits =>
    simp only [Bool.or_eq_true, decide_eq_true_eq, not_or, Nat.not_lt] at hfits
    rw [fillBuffer_eq (by rw [wifiWpaDataFrame_length]; exact hfits.2)]
    rfl

theorem wifiAndThen_bytewise {g : Wifi → Int × Wifi} {g' : Wifi → Checked (Int × Wifi)} (r : Int × Wifi)
    (hg : ∀ t, g' t = .ok (g t)) : Bytewise.wifiAndThen r g' = .ok (wifiAndThen r g) := by
  rw [Bytewise.wifiAndThen, wifiAndThen]
  split
  · rfl
  · exact hg r.2

theorem wifiWpaPrepareM2_bytewise (s : Wifi) :
    Bytewise.wifiWpaPrepareM2 s version descType = .ok (wifiWpaPrepareM2 s version descType) := by
  rw [Bytewise.wifiWpaPrepareM2, wifiWpaDerivePtk_bytewise, checked_bind,
    wifiAndThen_bytewise _ fun t => wifiWpaBuildM2_bytewise t, checked_bind,
    wifiAndThen_bytewise _ wifiWpaBuildM2DataFrame_bytewise]
  rfl

theorem wifiWpaPrepareM4_bytewise (s : Wifi) :
    Bytewise.wifiWpaPrepareM4 s version descType = .ok (wifiWpaPrepareM4 s version descType) := by
  rw [Bytewise.wifiWpaPrepareM4, wifiWpaBuildM4_bytewise, checked_bind,
    wifiAndThen_bytewise _ wifiWpaBuildM4DataFrame_bytewise]
  rfl

end Answers

/-! ## The group key -/

section GroupKey

variable {data eapol : List UInt8} {pos fuel : Nat}

theorem matchesAt_zeros (h : pos ≤ data.length) :
    matchesAt data pos (List.replicate (data.length - pos) 0) = .ok ((data.drop pos).all (· = 0)) := by
  rw [matchesAt_eq (by simp; omega), List.length_replicate, ← List.length_drop, List.take_length]
  congr 1
  rw [Bool.eq_iff_iff, decide_eq_true_eq, List.all_eq_true, List.eq_replicate_iff]
  simp

theorem wifiWpaGtkKdeFrom_bytewise (hpos : pos ≤ data.length) (hfuel : data.length - pos < fuel) :
    Bytewise.wifiWpaGtkKdeFrom data fuel pos = .ok (wifiWpaGtkKde data fuel pos) := by
  induction fuel generalizing pos with
  | zero => omega
  | succ fuel ih =>
      rw [Bytewise.wifiWpaGtkKdeFrom, wifiWpaGtkKde]
      split
      next hroom =>
        rw [if_neg (by omega), matchesAt_zeros hpos, checked_bind]
        split
        · rfl
        rw [readAt_getD 0 (by omega), readAt_getD 0 (by omega), checked_bind, checked_bind]
        simp only
        generalize data.getD pos 0 = id, (data.getD (pos + 1) 0).toNat = ieLen
        split
        · rfl
        next hlen =>
        by_cases hid : id = 0xdd ∧ 6 ≤ ieLen
        · rw [if_pos hid, matchesAt_eq (by simp; omega), checked_bind, ih (by omega) (by omega)]
          simp only [hid, decide_true, Bool.true_and, decide_eq_true_eq, List.length_cons, List.length_nil]
          split <;> rfl
        · rw [if_neg hid, checked_pure, checked_bind, ih (by omega) (by omega), if_neg (by simp)]
          rw [if_neg (by simp; tauto)]
      next hroom =>
        rw [if_pos (by omega)]
        rfl

/-- The element that is found lies in the data and has room for a key. -/
theorem wifiWpaGtkKde_inside {found : Nat × Nat} (h : wifiWpaGtkKde data fuel pos = some found) :
    6 ≤ found.2 ∧ found.1 + 2 + found.2 ≤ data.length := by
  induction fuel generalizing pos with
  | zero => cases h
  | succ fuel ih =>
      simp only [wifiWpaGtkKde] at h
      split at h
      · cases h
      split at h
      · cases h
      split at h
      · cases h
      next hlen =>
      split at h
      next hgtk =>
        obtain rfl := Option.some.inj h
        simp only [Bool.and_eq_true, decide_eq_true_eq] at hgtk
        exact ⟨hgtk.1.2, Nat.not_lt.mp hlen⟩
      · exact ih h

theorem wifiWpaParseGtkKde_bytewise (s : Wifi) :
    Bytewise.wifiWpaParseGtkKde s data = .ok (wifiWpaParseGtkKde s data) := by
  rw [Bytewise.wifiWpaParseGtkKde, wifiWpaParseGtkKde, wifiWpaGtkKdeFrom_bytewise (by omega) (by omega)]
  simp only [checked_bind]
  cases hfound : wifiWpaGtkKde data (data.length + 1) 0 with
  | none => rfl
  | some found =>
      obtain ⟨hmin, hend⟩ := wifiWpaGtkKde_inside hfound
      simp only
      rw [readAt_getD 0 (by omega), checked_bind, readRange_eq (by omega), checked_bind, copyTo_zeros (by simp),
        checked_bind]
      rfl

theorem aes128KeyUnwrap_bytewise {cap : Nat} {wrapped : List UInt8} (kek : AesBlock) (h : wrapped.length ≤ cap) :
    Bytewise.aes128KeyUnwrap cap kek wrapped = .ok (aes128KeyUnwrap kek wrapped) := by
  rw [Bytewise.aes128KeyUnwrap]
  split
  next hshort => rw [aes128KeyUnwrap, if_pos hshort, checked_pure]
  next hshort =>
    simp only [Bool.or_eq_true, decide_eq_true_eq, not_or, Nat.not_lt] at hshort
    rw [readRange_eq (by omega), checked_bind, fillBuffer_eq (by simp; omega)]
    rfl

theorem wifiWpaCaptureM3KeyData_bytewise {keyBodyLen : Nat} (s : Wifi) (keyInfo : UInt16) (hmin : 95 ≤ keyBodyLen)
    (hbody : keyBodyLen + 4 ≤ eapol.length) :
    Bytewise.wifiWpaCaptureM3KeyData s eapol keyBodyLen keyInfo =
      .ok (wifiWpaCaptureM3KeyData s eapol keyBodyLen keyInfo) := by
  have hbytes : wifiWpaKeyDataBytes = 256 := rfl
  rw [Bytewise.wifiWpaCaptureM3KeyData, wifiReadBe16_bytewise (by omega), wifiWpaCaptureM3KeyData, hbytes]
  simp only [checked_bind]
  generalize (wifiReadBe16 eapol 97).toNat = keyDataLen
  split
  · rfl
  next hlen =>
  simp only [Bool.or_eq_true, decide_eq_true_eq, not_or, Nat.not_lt] at hlen
  have hcount : ((eapol.drop 99).take keyDataLen).length ≤ 256 := by
    rw [List.length_take]
    omega
  rw [readRange_eq (by omega), checked_bind, fillBuffer_eq hcount, checked_bind]
  split
  · exact wifiWpaParseGtkKde_bytewise _
  · rw [aes128KeyUnwrap_bytewise _ hcount]
    by_cases hptk : s.wpa.ptkReady = true
    · simp only [hptk, if_true, checked_bind]
      cases aes128KeyUnwrap _ ((eapol.drop 99).take keyDataLen) with
      | none => rfl
      | some plain =>
          simp only
          split
          · rfl
          · exact wifiWpaParseGtkKde_bytewise _
    · simp [hptk]

end GroupKey

/-! ## Taking a key frame -/

section KeyFrame

variable {frame eapol : List UInt8} {fc subtype : UInt16}

theorem wifiWpaEapolOf_bytewise (c : WifiConnect) (hlen : wifiMgmtHeaderBytes + wifiBeaconFixedBytes ≤ frame.length) :
    Bytewise.wifiWpaEapolOf c frame fc subtype = .ok (wifiWpaEapolOf c frame fc subtype) := by
  have hbytes : wifiMgmtHeaderBytes + wifiBeaconFixedBytes = 36 := rfl
  rw [Bytewise.wifiWpaEapolOf, matchesAt_bytesFrom (by omega), matchesAt_bytesFrom (by omega), wifiWpaEapolOf]
  simp only [checked_bind]
  by_cases hready : c.ready = true
  swap
  · simp [hready]
  by_cases h1 : bytesFrom 6 frame 4 = c.localMac
  swap
  · simp [h1]
  by_cases h2 : bytesFrom 6 frame 10 = c.bssid
  swap
  · simp [h2]
  by_cases hfits : frame.length < wifi80211DataHeaderLen fc subtype + 8 + 4
  · simp [hready, h1, h2, hfits]
  generalize wifi80211DataHeaderLen fc subtype = hdrLen at hfits ⊢
  have hllc : (frame.drop hdrLen).length = frame.length - hdrLen := List.length_drop ..
  generalize frame.drop hdrLen = llc at hllc ⊢
  have heapol : (llc.drop 8).length = llc.length - 8 := List.length_drop ..
  rw [matchesAt_eq (by simp [wifiLlcSnap]; omega), wifiReadBe16_bytewise (by omega), wifiReadBe16_bytewise (by omega),
    readAt_getD 0 (by omega)]
  generalize llc.drop 8 = eapol at heapol ⊢
  generalize eapol.getD 1 0 = type
  have hfour : ¬ eapol.length < 4 := by omega
  have hsix : wifiLlcSnap.length = 6 := rfl
  by_cases hsnap : llc.take 6 = wifiLlcSnap
  swap
  · simp [hready, h1, h2, hsix, hfits, hsnap]
  by_cases hether : wifiReadBe16 llc 6 = 0x888e
  swap
  · simp [hready, h1, h2, hsix, hfits, hsnap, hether]
  by_cases hkey : type = 3
  · simp [hready, h1, h2, hsix, hfits, hsnap, hether, hfour, hkey]
  · simp [hready, h1, h2, hsix, hfits, hsnap, hether, hfour, hkey]

/-- What is taken for a key frame is as long as it says, and has all fixed fields. -/
theorem wifiWpaEapolOf_inside {c : WifiConnect} (h : wifiWpaEapolOf c frame fc subtype = some eapol) :
    95 ≤ (wifiReadBe16 eapol 2).toNat ∧ (wifiReadBe16 eapol 2).toNat + 4 ≤ eapol.length := by
  simp only [wifiWpaEapolOf] at h
  split at h
  · cases h
  split at h
  · cases h
  split at h
  · cases h
  split at h
  · cases h
  split at h
  · cases h
  next hbody =>
    obtain rfl := Option.some.inj h
    simp only [Bool.or_eq_true, decide_eq_true_eq, not_or, Nat.not_lt] at hbody
    exact ⟨hbody.2, hbody.1⟩

theorem wifiWpaStoreKeyFields_bytewise (s : Wifi) (h : 99 ≤ eapol.length) :
    Bytewise.wifiWpaStoreKeyFields s eapol = .ok (wifiWpaStoreKeyFields s eapol) := by
  rw [Bytewise.wifiWpaStoreKeyFields, wifiReadBe16_bytewise (by omega), wifiReadBe16_bytewise (by omega),
    wifiReadBe32_bytewise (by omega), wifiReadBe32_bytewise (by omega), wifiReadBe16_bytewise (by omega),
    readAt_getD 0 (by omega), readAt_getD 0 (by omega), readRange_eq (by omega)]
  simp only [checked_bind]
  rw [copyTo_full (by rw [List.length_take, List.length_drop]; omega), bytesFrom_bytesFrom (by omega)]
  rfl

theorem wifiWpaTakeKey_bytewise (s : Wifi) (hmin : 95 ≤ (wifiReadBe16 eapol 2).toNat)
    (hbody : (wifiReadBe16 eapol 2).toNat + 4 ≤ eapol.length) :
    Bytewise.wifiWpaTakeKey s eapol = .ok (wifiWpaTakeKey s eapol) := by
  have hinfo : (wifiWpaStoreKeyFields s eapol).wpa.keyInfo = wifiEapolKeyInfo eapol := rfl
  rw [Bytewise.wifiWpaTakeKey, wifiReadBe16_bytewise (by omega), wifiWpaStoreKeyFields_bytewise s (by omega),
    readAt_getD 0 (by omega), readAt_getD 0 (by omega), wifiWpaTakeKey]
  simp only [checked_bind, hinfo]
  split
  · split
    · rw [wifiWpaPrepareM2_bytewise, checked_bind, checked_pure]
    · rfl
  split
  · rw [wifiWpaCaptureM3KeyData_bytewise _ _ hmin hbody, checked_bind]
    split
    · rw [wifiWpaPrepareM4_bytewise, checked_bind, checked_pure]
    · rfl
  · rfl

theorem wifiWpaParseEapolKey_bytewise (s : Wifi) (hlen : wifiMgmtHeaderBytes + wifiBeaconFixedBytes ≤ frame.length) :
    Bytewise.wifiWpaParseEapolKey s frame fc subtype = .ok (wifiWpaParseEapolKey s frame fc subtype) := by
  rw [Bytewise.wifiWpaParseEapolKey, wifiWpaEapolOf_bytewise _ hlen, checked_bind, wifiWpaParseEapolKey]
  cases hof : wifiWpaEapolOf s.connect frame fc subtype with
  | none => rfl
  | some eapol =>
      obtain ⟨hmin, hbody⟩ := wifiWpaEapolOf_inside hof
      simp only
      rw [wifiWpaTakeKey_bytewise s hmin hbody, checked_bind, checked_pure]

end KeyFrame

/-! ## Protected data -/

section Protected

variable {frame hdr plain : List UInt8} {hdrLen cipherLen : Nat}

theorem wifiCcmpPnFromHeader_bytewise (h : 8 ≤ hdr.length) :
    Bytewise.wifiCcmpPnFromHeader hdr = .ok (wifiCcmpPnFromHeader hdr) := by
  rw [Bytewise.wifiCcmpPnFromHeader, readAt_getD 0 (by omega), readAt_getD 0 (by omega), readAt_getD 0 (by omega),
    readAt_getD 0 (by omega), readAt_getD 0 (by omega), readAt_getD 0 (by omega)]
  rfl

theorem wifiCcmpBuildAad_bytewise (h : 25 ≤ frame.length) :
    Bytewise.wifiCcmpBuildAad frame hdrLen = .ok (wifiCcmpBuildAad frame hdrLen) := by
  rw [Bytewise.wifiCcmpBuildAad, wifiReadLe16_bytewise (by omega), readAt_getD 0 (by omega), readAt_getD 0 (by omega),
    readRange_eq (by omega), ← toList_bytesFrom_inside (by omega), wifiCcmpBuildAad]
  simp only [checked_bind]
  generalize decide (wifiFcSubtype (wifiReadLe16 frame 0) &&& wifiSubtypeQosData ≠ 0) = qos
  cases qos with
  | false =>
      simp only [Bool.false_eq_true, if_false, checked_pure, checked_bind]
      rw [fillBuffer_eq (by simp [wifiCcmpAadBytes])]
      rfl
  | true =>
      simp only [if_true, checked_bind]
      rw [fillBuffer_eq (by split <;> simp [wifiCcmpAadBytes])]
      rfl

theorem wifiMacIsMulticast_bytesFrom (h : 10 ≤ frame.length) :
    wifiMacIsMulticast (bytesFrom 6 frame 4) = (frame.getD 4 0 &&& 1 ≠ 0 : Bool) := by
  rw [wifiMacIsMulticast, toList_bytesFrom_inside h]
  simp [List.getD_eq_getElem?_getD]

theorem wifiCcmpAddressed_bytewise (c : WifiConnect) (h : 16 ≤ frame.length) :
    Bytewise.wifiCcmpAddressed c frame =
      .ok (!(bytesFrom 6 frame 10 ≠ c.bssid ||
        (bytesFrom 6 frame 4 ≠ c.localMac && !wifiMacIsMulticast (bytesFrom 6 frame 4)))) := by
  rw [Bytewise.wifiCcmpAddressed, matchesAt_bytesFrom (by omega), matchesAt_bytesFrom (by omega),
    readAt_getD 0 (by omega),
    wifiMacIsMulticast_bytesFrom (by omega)]
  by_cases h2 : bytesFrom 6 frame 10 = c.bssid <;> by_cases h1 : bytesFrom 6 frame 4 = c.localMac <;> simp [h1, h2]

theorem wifiCcmpRxKey_bytewise {ccmp : List UInt8} (s : Wifi) (h : 10 ≤ frame.length) (hccmp : 4 ≤ ccmp.length) :
    Bytewise.wifiCcmpRxKey s frame ccmp =
      .ok (wifiCcmpRxKey s (bytesFrom 6 frame 4) ((ccmp.getD 3 0 >>> 6) &&& 0x03)) := by
  rw [Bytewise.wifiCcmpRxKey, readAt_getD 0 (by omega), readAt_getD 0 (by omega), wifiCcmpRxKey,
    wifiMacIsMulticast_bytesFrom h]
  simp

theorem aes128CcmDecrypt_bytewise {cap : Nat} {cipher : List UInt8} (tk : AesBlock) (nonce aad : List UInt8)
    (hcap : cipherLen ≤ cap) (hlen : cipher.length = cipherLen + wifiCcmpMicBytes) :
    Bytewise.aes128CcmDecrypt cap tk nonce aad cipher cipherLen =
      .ok (ccmOpen tk nonce aad (cipher.take cipherLen) (cipher.drop cipherLen)) := by
  have htag : (cipher.drop cipherLen).length = wifiCcmpMicBytes := by
    rw [List.length_drop]
    omega
  rw [Bytewise.aes128CcmDecrypt, readRange_eq (by omega), checked_bind, List.drop_zero,
    fillBuffer_eq (by rw [List.length_take]; omega), checked_bind, readRange_eq (by omega), checked_bind, ← htag,
    List.take_length, checked_pure]

theorem wifiCcmpTakePlain_bytewise (s : Wifi) (hframe : 22 ≤ frame.length) (hplain : plain.length = cipherLen)
    (hmin : 8 ≤ cipherLen) :
    Bytewise.wifiCcmpTakePlain s frame plain cipherLen =
      .ok (if plain.take 6 ≠ wifiLlcSnap then (false, s)
        else if wifiCcmpEthPayloadBytes < cipherLen - 8 then (false, s)
        else (true, wifiCcmpDeliver s (bytesFrom 6 frame 16) plain)) := by
  have hsix : wifiLlcSnap.length = 6 := rfl
  rw [Bytewise.wifiCcmpTakePlain, matchesAt_eq (by omega), checked_bind, hsix, List.drop_zero]
  by_cases hsnap : plain.take 6 = wifiLlcSnap
  swap
  · simp [hsnap]
  by_cases hbig : wifiCcmpEthPayloadBytes < cipherLen - 8
  · simp [hsnap, hbig]
  have hrest : (plain.drop 8).length = cipherLen - 8 := by rw [List.length_drop, hplain]
  simp only [hsnap, hbig, decide_true, Bool.not_true, decide_false, Bool.or_self, Bool.false_eq_true, if_false,
    ne_eq, not_true]
  rw [readRange_eq (by omega), checked_bind, copyTo_full (by rw [List.length_take, List.length_drop]; omega),
    checked_bind,
    bytesFrom_bytesFrom (by omega), readRange_eq (by omega), checked_bind, ← hrest, List.take_length,
    fillBuffer_eq (by omega), checked_bind, wifiReadBe16_bytewise (by omega)]
  rfl

theorem wifiCcmpParseProtectedData_bytewise (s : Wifi) (fc subtype : UInt16)
    (hlen : wifiMgmtHeaderBytes + wifiBeaconFixedBytes ≤ frame.length) :
    Bytewise.wifiCcmpParseProtectedData s frame fc subtype = .ok (wifiCcmpParseProtectedData s frame fc subtype) := by
  have hbytes : wifiMgmtHeaderBytes + wifiBeaconFixedBytes = 36 := rfl
  have hhead : wifiCcmpHeaderBytes = 8 := rfl
  have hmic : wifiCcmpMicBytes = 8 := rfl
  -- what is read piece by piece are the parts of the frame
  obtain ⟨p, hp⟩ : ∃ p, wifiCcmpParts frame fc subtype = p := ⟨_, rfl⟩
  have ha1 : bytesFrom 6 frame 4 = p.a1 := hp ▸ rfl
  have ha2 : bytesFrom 6 frame 10 = p.a2 := hp ▸ rfl
  have ha3 : bytesFrom 6 frame 16 = p.a3 := hp ▸ rfl
  have hhdr : wifi80211DataHeaderLen fc subtype = p.hdrLen := hp ▸ rfl
  have hcount : frame.length - p.hdrLen - wifiCcmpHeaderBytes - wifiCcmpMicBytes = p.cipherLen := hp ▸ rfl
  have hkeyId : ((frame.drop p.hdrLen).getD 3 0 >>> 6) &&& 0x03 = p.keyId := hp ▸ rfl
  have hpn : wifiCcmpPnFromHeader (frame.drop p.hdrLen) = p.pn := hp ▸ rfl
  have haad : wifiCcmpBuildAad frame p.hdrLen = (p.aad, p.qosTid) := hp ▸ rfl
  have hcipher : ((frame.drop p.hdrLen).drop wifiCcmpHeaderBytes).take p.cipherLen = p.cipher := hp ▸ rfl
  have htag : ((frame.drop p.hdrLen).drop wifiCcmpHeaderBytes).drop p.cipherLen = p.tag := hp ▸ rfl
  have hccmp : (frame.drop p.hdrLen).length = frame.length - p.hdrLen := List.length_drop ..
  rw [Bytewise.wifiCcmpParseProtectedData, wifiCcmpParseProtectedData, wifiCcmpAddressed_bytewise _ (by omega), hp]
  dsimp only
  rw [ha1, ha2, hhdr, hcount, checked_bind, Bool.not_not]
  split
  · rfl
  split
  · rfl
  split
  · rfl
  next hroom =>
  split
  · rfl
  next hsize =>
  simp only [Bool.or_eq_true, decide_eq_true_eq, not_or, Nat.not_lt] at hroom hsize
  obtain ⟨-, hroom⟩ := hroom
  rw [wifiCcmpRxKey_bytewise s (by omega) (by omega), checked_bind, ha1, hkeyId]
  cases wifiCcmpRxKey s p.a1 p.keyId with
  | none => rfl
  | some tk =>
      dsimp only
      rw [wifiCcmpPnFromHeader_bytewise (by omega), checked_bind, wifiCcmpBuildAad_bytewise (by omega), checked_bind,
        readRange_eq (by omega), checked_bind, ← toList_bytesFrom_inside (by omega),
        fillBuffer_eq (by simp [wifiCcmpNonceBytes]), checked_bind,
        aes128CcmDecrypt_bytewise _ _ _ hsize.2 (by rw [List.length_drop]; omega), checked_bind, hpn, haad, ha2,
        hcipher, htag]
      dsimp only [WifiCcmpParts.nonce, wifiCcmpNonce]
      cases hopen : ccmOpen tk (p.qosTid :: (p.a2.toList ++ p.pn.toList)) p.aad p.cipher p.tag with
      | none => rfl
      | some plain =>
          have htext : p.cipher.length = p.cipherLen := by
            rw [← hcipher, List.length_take, List.length_drop]
            omega
          have hplain := (ccmSeal_length (ccmOpen_eq_some hopen)).1
          rw [← ha3]
          exact wifiCcmpTakePlain_bytewise s (by omega) (by omega) hsize.1

end Protected

/-! ## One frame -/

section Frame

variable {frame payload : List UInt8} {s : Wifi}

theorem wifiScanParse80211Frame_bytewise (hslots : s.scan.aps.length ≤ wifiScanApSlots)
    (hframe : frame.length < 2 ^ 31) :
    Bytewise.wifiScanParse80211Frame s frame = .ok (wifiScanParse80211Frame s frame) := by
  rw [Bytewise.wifiScanParse80211Frame, wifiScanParse80211Frame]
  split
  · rfl
  next hshort =>
  have hlen := Nat.not_lt.mp hshort
  have hbytes : wifiMgmtHeaderBytes + wifiBeaconFixedBytes = 36 := rfl
  rw [wifiReadLe16_bytewise (by omega), checked_bind]
  dsimp only
  split
  · rw [wifiWpaParseEapolKey_bytewise s hlen, checked_bind]
    split
    · rfl
    · exact wifiCcmpParseProtectedData_bytewise _ _ _ hlen
  split
  · rfl
  split
  · exact wifiConnectParseResponseFrame_bytewise s _
  split
  · exact wifiScanTakeBeacon_bytewise _ hslots hframe hlen
  · rfl

end Frame

/-! ## Finding the frame -/

section Candidates

variable {payload : List UInt8} {s : Wifi} {d : WifiMpduDebug} {offset mpduLen fuel i : Nat} {candidates : List Nat}

theorem wifiScanRecordCandidate_bytewise (d : WifiMpduDebug) (offset frameLen : Nat) (fc : UInt16) :
    Safe (fun _ => True) (Bytewise.wifiScanRecordCandidate d offset frameLen fc) := by
  rw [Bytewise.wifiScanRecordCandidate]
  split
  · exact safe_pure trivial
  next hroom =>
    rw [slotAt_eq (Nat.lt_of_not_le hroom), checked_bind]
    exact safe_pure trivial

theorem wifiScanCaptureMpduDebug_bytewise (payload : List UInt8) :
    Safe (fun _ => True) (Bytewise.wifiScanCaptureMpduDebug payload) := by
  rw [Bytewise.wifiScanCaptureMpduDebug, readRange_eq (by omega), checked_bind, fillBuffer_eq (by simp), checked_bind]
  exact safe_pure trivial

theorem WifiApTable.frame (h : WifiApTable s.scan.aps) (frame : List UInt8) :
    WifiApTable (wifiScanParse80211Frame s frame).2.scan.aps := by
  have hscan := scan_wifiScanParse80211Frame s frame
  split at hscan
  · rwa [hscan]
  · obtain ⟨channel, subtype, capability, security, hstore⟩ := hscan
    rw [hstore]
    exact h.stored (wifiScanStoreAp_stored ..)

theorem WifiApTable.candidate (h : WifiApTable s.scan.aps) (c : Nat × Nat) :
    WifiApTable (wifiScanTryMpduCandidate payload s c).2.scan.aps := by
  rw [wifiScanTryMpduCandidate]
  split
  · exact h
  · exact h.frame _

theorem wifiScanTryMpduCandidate_bytewise (htable : WifiApTable s.scan.aps) (hlen : payload.length < 2 ^ 31) :
    Safe (fun r => r.1 = wifiScanTryMpduCandidate payload s (offset, mpduLen))
      (Bytewise.wifiScanTryMpduCandidate payload s d offset mpduLen) := by
  have hbytes : wifiMgmtHeaderBytes + wifiBeaconFixedBytes = 36 := rfl
  have hrest : (payload.drop offset).length = payload.length - offset := List.length_drop ..
  have hframe : (if 0 < mpduLen && mpduLen < (payload.drop offset).length then (payload.drop offset).take mpduLen
      else payload.drop offset) =
    (payload.drop offset).take
      (if 0 < mpduLen && mpduLen < payload.length - offset then mpduLen else payload.length - offset) := by
    rw [← hrest]
    split
    · rfl
    · rw [List.take_length]
  have hle : (if 0 < mpduLen && mpduLen < payload.length - offset then mpduLen else payload.length - offset) ≤
      payload.length - offset := by
    split
    next hcut =>
      simp only [Bool.and_eq_true, decide_eq_true_eq] at hcut
      omega
    · exact Nat.le_refl _
  have hpure : wifiScanTryMpduCandidate payload s (offset, mpduLen) =
      (wifiMpduCandidate payload (offset, mpduLen)).elim (false, s) (wifiScanParse80211Frame s) := by
    unfold wifiScanTryMpduCandidate
    cases wifiMpduCandidate payload (offset, mpduLen) <;> rfl
  rw [hpure]
  unfold Bytewise.wifiScanTryMpduCandidate wifiMpduCandidate
  dsimp only
  rw [hframe]
  generalize (if 0 < mpduLen && mpduLen < payload.length - offset then mpduLen else payload.length - offset) =
    frameLen at hle ⊢
  have hcount : ((payload.drop offset).take frameLen).length = frameLen := by
    rw [List.length_take]
    omega
  rw [hcount]
  by_cases hbehind : payload.length ≤ offset
  · rw [if_pos hbehind]
    exact safe_pure (by simp [hbehind])
  rw [if_neg hbehind]
  by_cases hshort : frameLen < wifiMgmtHeaderBytes + wifiBeaconFixedBytes
  · rw [if_pos hshort]
    exact safe_pure (by simp [hshort])
  rw [if_neg hshort, wifiReadLe16_bytewise (by omega), checked_bind]
  refine (wifiScanRecordCandidate_bytewise ..).bind fun next _ => ?_
  rw [wifiScanParse80211Frame_bytewise htable.slots (by omega), checked_bind]
  exact safe_pure (by simp [hbehind, hshort])

theorem wifiScanTryEach_bytewise (htable : WifiApTable s.scan.aps) (hlen : payload.length < 2 ^ 31) :
    Safe (fun r =>
        r.1 = scanFirst (wifiScanTryMpduCandidate payload) s (candidates.map fun offset => (offset, mpduLen)) ∧
          WifiApTable r.1.2.scan.aps)
      (Bytewise.wifiScanTryEach payload mpduLen candidates s d) := by
  induction candidates generalizing s d with
  | nil => exact safe_pure ⟨rfl, htable⟩
  | cons offset candidates ih =>
      rw [Bytewise.wifiScanTryEach, List.map_cons, scanFirst]
      refine (wifiScanTryMpduCandidate_bytewise htable hlen).bind fun r hr => ?_
      have hnext := @WifiApTable.candidate payload _ htable (offset, mpduLen)
      rw [← hr] at hnext ⊢
      split
      next htaken => exact safe_pure ⟨Prod.ext htaken rfl, hnext⟩
      next => exact ih hnext

/-- How many even offsets have room for a frame behind them. -/
def wifiMpduEvens (payload : List UInt8) : Nat :=
  if payload.length < wifiMgmtHeaderBytes + wifiBeaconFixedBytes then 0
  else (payload.length - (wifiMgmtHeaderBytes + wifiBeaconFixedBytes)) / 2 + 1

/-- The loop is over when no offset has room, and `off` does not wrap. -/
theorem wifiScanTryFrom_bytewise (htable : WifiApTable s.scan.aps) (hlen : payload.length < 2 ^ 31)
    (hi : i ≤ wifiMpduEvens payload) (hfuel : wifiMpduEvens payload - i < fuel) :
    Safe (fun r => r.1 = scanFirst (wifiScanTryMpduCandidate payload) s
          ((List.range' i (wifiMpduEvens payload - i)).map fun i => (2 * i, 0)) ∧
        WifiApTable r.1.2.scan.aps)
      (Bytewise.wifiScanTryFrom payload fuel (2 * i) s d) := by
  have hbytes : wifiMgmtHeaderBytes + wifiBeaconFixedBytes = 36 := rfl
  have hevens : wifiMpduEvens payload = if payload.length < 36 then 0 else (payload.length - 36) / 2 + 1 := rfl
  induction fuel generalizing i s d with
  | zero => omega
  | succ fuel ih =>
      rw [Bytewise.wifiScanTryFrom, Nat.add_assoc, hbytes, u32_of_lt (by split at hevens <;> omega)]
      split
      next hroom =>
        have hmore : wifiMpduEvens payload - i = wifiMpduEvens payload - (i + 1) + 1 := by split at hevens <;> omega
        rw [hmore, List.range'_succ, List.map_cons, scanFirst, u32_of_lt (by omega)]
        refine (wifiScanTryMpduCandidate_bytewise htable hlen).bind fun r hr => ?_
        have hnext := @WifiApTable.candidate payload _ htable (2 * i, 0)
        rw [← hr] at hnext ⊢
        split
        next htaken => exact safe_pure ⟨Prod.ext htaken rfl, hnext⟩
        next => exact ih hnext (by split at hevens <;> omega) (by omega)
      next hroom =>
        have hover : wifiMpduEvens payload - i = 0 := by split at hevens <;> omega
        rw [hover]
        exact safe_pure ⟨rfl, htable⟩

theorem wifiScanParseRxMpdu_bytewise (htable : WifiApTable s.scan.aps) (hlen : payload.length < 2 ^ 31) :
    Safe (fun r => r.1 = wifiScanParseRxMpdu s payload ∧ WifiApTable r.1.2.scan.aps)
      (Bytewise.wifiScanParseRxMpdu s payload) := by
  have hword : (if 2 ≤ payload.length then Bytewise.wifiReadLe16 payload 0 else pure 0) =
      .ok (if 2 ≤ payload.length then wifiReadLe16 payload 0 else 0) := by
    split
    next htwo => exact wifiReadLe16_bytewise htwo
    · rfl
  have hevens : wifiMpduEvens payload ≤ payload.length := by
    have hbytes : wifiMgmtHeaderBytes + wifiBeaconFixedBytes = 36 := rfl
    rw [wifiMpduEvens, hbytes]
    split <;> omega
  have hoffsets : wifiMpduOffsets payload =
      ([64, 48, 20, 0].map fun offset => (offset, (if 2 ≤ payload.length then wifiReadLe16 payload 0 else 0).toNat)) ++
        (List.range' 0 (wifiMpduEvens payload - 0)).map fun i => (2 * i, 0) := by
    rw [wifiMpduOffsets, List.range_eq_range', Nat.sub_zero, wifiMpduEvens, apply_ite UInt16.toNat]
    rfl
  rw [Bytewise.wifiScanParseRxMpdu, hword, checked_bind, wifiScanParseRxMpdu, hoffsets, scanFirst_append]
  refine (wifiScanCaptureMpduDebug_bytewise payload).bind fun d _ => ?_
  refine (wifiScanTryEach_bytewise htable hlen).bind fun r hr => ?_
  rw [← hr.1]
  split
  · exact safe_pure ⟨rfl, hr.2⟩
  · exact wifiScanTryFrom_bytewise (i := 0) hr.2 hlen (Nat.zero_le _) (by omega)

/-- A state the driver comes to: received payloads store access points, and all else leaves the table as it
is or clears it. -/
inductive WifiScanReached : Wifi → Prop
  | boot : WifiScanReached wifiBoot
  | received {s : Wifi} (payload : List UInt8) (h : WifiScanReached s) :
      WifiScanReached (wifiScanParseRxMpdu s payload).2
  | other {s t : Wifi} (h : WifiScanReached s) (haps : t.scan.aps = s.scan.aps ∨ t.scan.aps = []) : WifiScanReached t

theorem WifiApTable.scan {α : Type} {attempt : Wifi → α → Bool × Wifi}
    (hkept : ∀ s a, WifiApTable s.scan.aps → WifiApTable (attempt s a).2.scan.aps) (as : List α)
    (h : WifiApTable s.scan.aps) : WifiApTable (scanFirst attempt s as).2.scan.aps := by
  induction as generalizing s with
  | nil => exact h
  | cons a as ih =>
      rw [scanFirst]
      split
      · exact hkept s a h
      · exact ih (hkept s a h)

theorem WifiScanReached.table (h : WifiScanReached s) : WifiApTable s.scan.aps := by
  induction h with
  | boot => exact ⟨by simp [wifiBoot], by simp [wifiBoot, wifiBssids]⟩
  | received payload _ ih => exact WifiApTable.scan (fun _ c htable => htable.candidate c) _ ih
  | other _ haps ih =>
      obtain haps | haps := haps
      · rwa [haps]
      · rw [haps]
        exact ⟨by simp, by simp [wifiBssids]⟩

/-- Whatever is received: every byte that is read lies in its slice of the payload, every write lies in its
buffer, the loops end, the outcome is that of the model, and the table stays one. -/
theorem wifiScanParseRxMpdu_inside (hs : WifiScanReached s) (hlen : payload.length < 2 ^ 31) :
    WifiApTable s.scan.aps ∧
      Safe (fun r => r.1 = wifiScanParseRxMpdu s payload ∧ WifiApTable r.1.2.scan.aps)
        (Bytewise.wifiScanParseRxMpdu s payload) :=
  ⟨hs.table, wifiScanParseRxMpdu_bytewise hs.table hlen⟩

theorem wifiScanParseRxMpdu_inside_boot :
    WifiApTable wifiBoot.scan.aps ∧
      Safe (fun r => r.1 = wifiScanParseRxMpdu wifiBoot sampleBeacon ∧ WifiApTable r.1.2.scan.aps)
        (Bytewise.wifiScanParseRxMpdu wifiBoot sampleBeacon) :=
  wifiScanParseRxMpdu_inside .boot (by decide)

end Candidates

end Orizon
