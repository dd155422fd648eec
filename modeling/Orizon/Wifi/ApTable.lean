import Mathlib.Data.List.Nodup
import Orizon.Wifi.Mpdu

/-!
# Orizon.Wifi.ApTable

The access-point table (`kernel/drivers/wifi.c`): what `wifi_scan_store_ap` makes of it, and what a
frame does to it.

Every slot in use has an address of its own, and there are at most eight (`WifiApTable`).
-/

namespace Orizon

/-! ## One access point -/

/-- The addresses in use. -/
def wifiBssids (aps : List WifiAp) : List WifiMac := aps.map WifiAp.bssid

/-- A table: as many slots as there are, and an address in one slot at most. -/
structure WifiApTable (aps : List WifiAp) : Prop where
  slots : aps.length ≤ wifiScanApSlots
  distinct : (wifiBssids aps).Nodup

section Store

variable {sc : WifiScan} {aps : List WifiAp} {ap : WifiAp} {bssid : WifiMac} {ssid : List UInt8} {channel : UInt8}
  {subtype capability : UInt16} {security slot : Nat}

@[simp] theorem bssid_sighted : (ap.sighted ssid channel subtype capability security).bssid = ap.bssid := rfl

theorem wifiBssids_modify : wifiBssids (aps.modify slot fun ap => ap.sighted ssid channel subtype capability security) =
    wifiBssids aps := by
  refine List.ext_getElem? fun i => ?_
  rw [wifiBssids, wifiBssids, List.getElem?_map, List.getElem?_map, List.getElem?_modify]
  cases aps[i]? with
  | none => rfl
  | some ap => by_cases hi : slot = i <;> simp [hi]

/-- What becomes of the table: the slot of the address is written, or a new one, or there is none left. -/
inductive WifiStored (bssid : WifiMac) (f : WifiAp → WifiAp) (aps : List WifiAp) : List WifiAp → Prop
  | again (slot : Nat) (old : WifiAp) (hslot : aps[slot]? = some old) (hold : old.bssid = bssid) :
      WifiStored bssid f aps (aps.modify slot f)
  | full (hnew : bssid ∉ wifiBssids aps) (hfull : wifiScanApSlots ≤ aps.length) : WifiStored bssid f aps aps
  | added (hnew : bssid ∉ wifiBssids aps) (hroom : aps.length < wifiScanApSlots) :
      WifiStored bssid f aps (aps ++ [f (WifiAp.blank bssid)])

theorem wifiScanStoreAp_stored (sc : WifiScan) (bssid : WifiMac) (ssid : List UInt8) (channel : UInt8)
    (subtype capability : UInt16) (security : Nat) :
    WifiStored bssid (fun ap => ap.sighted ssid channel subtype capability security) sc.aps
      (wifiScanStoreAp sc bssid ssid channel subtype capability security).aps := by
  unfold wifiScanStoreAp
  split
  next slot hfind =>
    obtain ⟨hlt, hbssid, -⟩ := List.findIdx?_eq_some_iff_getElem.mp hfind
    exact .again slot _ (List.getElem?_eq_getElem hlt) (by simpa using hbssid)
  next hfind =>
    have hnew : bssid ∉ wifiBssids sc.aps := by
      intro hmem
      obtain ⟨ap, hap, hbssid⟩ := List.mem_map.mp hmem
      have hnot := List.findIdx?_eq_none_iff.mp hfind ap hap
      simp [hbssid] at hnot
    split
    next hfull => exact .full hnew hfull
    next hroom => exact .added hnew (Nat.lt_of_not_le hroom)

theorem WifiApTable.stored {aps' : List WifiAp} (h : WifiApTable aps)
    (hstored : WifiStored bssid (fun ap => ap.sighted ssid channel subtype capability security) aps aps') :
    WifiApTable aps' := by
  cases hstored with
  | again slot old hslot hold =>
      refine ⟨by simpa using h.slots, ?_⟩
      rw [wifiBssids_modify]
      exact h.distinct
  | full => exact h
  | added hnew hroom =>
      refine ⟨by simpa using hroom, ?_⟩
      rw [wifiBssids, List.map_append, List.map_singleton, bssid_sighted]
      exact List.nodup_append_comm.mpr (List.nodup_cons.mpr ⟨hnew, h.distinct⟩)

end Store

/-! ## Frames -/

/-- The address and the name in a beacon or a probe response, where it is one with a name element. -/
def wifiBeaconOf (frame : List UInt8) : Option (WifiMac × List UInt8) :=
  let fc := wifiReadLe16 frame 0
  let subtype := wifiFcSubtype fc
  if wifiMgmtHeaderBytes + wifiBeaconFixedBytes ≤ frame.length && wifiFcType fc = wifiTypeMgmt &&
      (subtype = wifiSubtypeBeacon || subtype = wifiSubtypeProbeResp) then
    (wifiScanParse80211Ies frame wifiScanSecurityOpen).ssid.map fun ssid => (bytesFrom 6 frame 16, ssid)
  else none

section Frame

variable {s : Wifi} {frame p ssid : List UInt8} {bssid : WifiMac} {ies ies' : WifiScanIes}

/-- The name of the network does not depend on the security that the capabilities tell. -/
theorem ssid_wifiScanIesLoop (fuel : Nat) (h : ies.ssid = ies'.ssid) :
    (wifiScanIesLoop fuel p ies).ssid = (wifiScanIesLoop fuel p ies').ssid := by
  induction fuel generalizing p ies ies' with
  | zero => simpa [wifiScanIesLoop] using h
  | succ fuel ih =>
      match p with
      | [] => simpa [wifiScanIesLoop] using h
      | [id] => simpa [wifiScanIesLoop] using h
      | id :: len :: rest =>
          simp only [wifiScanIesLoop]
          split
          · exact h
          · refine ih ?_
            simp only [WifiScanIes.element]
            grind

theorem length_ssid_wifiScanIesLoop (fuel : Nat) (h : ∀ ssid ∈ ies.ssid, ssid.length ≤ wifiScanSsidMax) :
    ∀ ssid ∈ (wifiScanIesLoop fuel p ies).ssid, ssid.length ≤ wifiScanSsidMax := by
  induction fuel generalizing p ies with
  | zero => simpa [wifiScanIesLoop] using h
  | succ fuel ih =>
      match p with
      | [] => simpa [wifiScanIesLoop] using h
      | [id] => simpa [wifiScanIesLoop] using h
      | id :: len :: rest =>
          simp only [wifiScanIesLoop]
          split
          · exact h
          · refine ih ?_
            simp only [WifiScanIes.element]
            grind

theorem length_wifiBeaconOf (h : wifiBeaconOf frame = some (bssid, ssid)) : ssid.length ≤ wifiScanSsidMax := by
  simp only [wifiBeaconOf] at h
  split at h
  · obtain ⟨name, hname, heq⟩ := Option.map_eq_some_iff.mp h
    obtain rfl : name = ssid := congrArg Prod.snd heq
    exact length_ssid_wifiScanIesLoop _ (by simp) _ hname
  · cases h

theorem wifiScanTakeBeacon_ssid (s : Wifi) (frame : List UInt8) (subtype : UInt16) :
    match (wifiScanParse80211Ies frame wifiScanSecurityOpen).ssid with
    | none => wifiScanTakeBeacon s frame subtype = (false, s)
    | some ssid => ∃ channel capability security, wifiScanTakeBeacon s frame subtype =
        (true, { s with
          scan := wifiScanStoreAp s.scan (bytesFrom 6 frame 16) ssid channel subtype capability security }) := by
  have hssid : ∀ security, (wifiScanParse80211Ies frame security).ssid =
      (wifiScanParse80211Ies frame wifiScanSecurityOpen).ssid := fun security => ssid_wifiScanIesLoop _ rfl
  simp only [wifiScanTakeBeacon]
  rw [← hssid (if wifiReadLe16 frame (wifiMgmtHeaderBytes + 10) &&& 0x0010 ≠ 0 then wifiScanSecurityWep
    else wifiScanSecurityOpen)]
  split
  next h => simp only [h]
  next h =>
    simp only [h]
    exact ⟨_, _, _, rfl⟩

/-- A frame stores what it is a beacon of, and otherwise leaves the table alone. -/
theorem scan_wifiScanParse80211Frame (s : Wifi) (frame : List UInt8) :
    match wifiBeaconOf frame with
    | none => (wifiScanParse80211Frame s frame).2.scan = s.scan
    | some (bssid, ssid) => ∃ channel subtype capability security,
        (wifiScanParse80211Frame s frame).2.scan =
          wifiScanStoreAp s.scan bssid ssid channel subtype capability security := by
  obtain ⟨hdata, -⟩ := wifiScanParse80211Frame_effect s frame
  by_cases hlen : frame.length < wifiMgmtHeaderBytes + wifiBeaconFixedBytes
  · simp [wifiBeaconOf, wifiScanParse80211Frame, Nat.not_le.mpr hlen, hlen]
  by_cases htype : wifiFcType (wifiReadLe16 frame 0) = wifiTypeData
  · have hnot : wifiTypeData ≠ wifiTypeMgmt := by decide
    have hscan := congrArg Wifi.scan (hdata htype)
    simpa [wifiBeaconOf, htype, hnot] using hscan
  have hnot : wifiTypeMgmt ≠ wifiTypeData := by decide
  by_cases hmgmt : wifiFcType (wifiReadLe16 frame 0) = wifiTypeMgmt
  · by_cases hbeacon : wifiFcSubtype (wifiReadLe16 frame 0) = wifiSubtypeBeacon ∨
        wifiFcSubtype (wifiReadLe16 frame 0) = wifiSubtypeProbeResp
    · have hresponse : ¬ (wifiFcSubtype (wifiReadLe16 frame 0) = wifiSubtypeAuth ∨
          wifiFcSubtype (wifiReadLe16 frame 0) = wifiSubtypeAssocResp) := by
        obtain h | h := hbeacon <;> rw [h] <;> decide
      have htaken := wifiScanTakeBeacon_ssid s frame (wifiFcSubtype (wifiReadLe16 frame 0))
      have hof : wifiBeaconOf frame = (wifiScanParse80211Ies frame wifiScanSecurityOpen).ssid.map
          fun ssid => (bytesFrom 6 frame 16, ssid) := by
        simp [wifiBeaconOf, Nat.not_lt.mp hlen, hmgmt, hbeacon]
      have hparse : wifiScanParse80211Frame s frame =
          wifiScanTakeBeacon s frame (wifiFcSubtype (wifiReadLe16 frame 0)) := by
        simp [wifiScanParse80211Frame, hlen, hmgmt, hnot, hresponse, hbeacon]
      rw [hof, hparse]
      cases hssid : (wifiScanParse80211Ies frame wifiScanSecurityOpen).ssid with
      | none =>
          rw [hssid] at htaken
          exact congrArg (fun r => r.2.scan) htaken
      | some ssid =>
          rw [hssid] at htaken
          obtain ⟨channel, capability, security, heq⟩ := htaken
          exact ⟨channel, _, capability, security, congrArg (fun r => r.2.scan) heq⟩
    · have hof : wifiBeaconOf frame = none := by simp [wifiBeaconOf, hbeacon]
      rw [hof]
      simp only [wifiScanParse80211Frame, if_neg hlen, hmgmt, if_neg hnot, ne_eq, not_true, if_false]
      split
      · obtain ⟨_, _, _, hwrites⟩ := wifiConnectParseResponseFrame_writes s frame (wifiFcSubtype (wifiReadLe16 frame 0))
        rw [hwrites]
      · simp [hbeacon]
  · simp [wifiBeaconOf, wifiScanParse80211Frame, hmgmt, htype, hlen]

end Frame

end Orizon
