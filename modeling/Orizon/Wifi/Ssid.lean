import Orizon.Wifi.ApTable
import Orizon.Wifi.Plan

/-!
# Orizon.Wifi.Ssid

The name of a network on its way from a beacon to the association request and the key
(`kernel/drivers/wifi.c`).

The access-point table keeps a name with a dot for every byte that is not printable ASCII
(`wifiNames_run`), and `wifi_connect` looks up, asks for and salts with the name it is given.  So a
network is found under its own name, and joined under it, exactly if the name is printable and no
slot before it shows the same (`wifiSsid_fidelity_iff`).
-/

namespace Orizon

/-! ## Names in the table -/

/-- A run of frames. -/
def wifiScanRun (s : Wifi) (frames : List (List UInt8)) : Wifi :=
  frames.foldl (fun s frame => (wifiScanParse80211Frame s frame).2) s

/-- The last name that the beacons of an address told, where some did: hidden networks send empty ones. -/
def wifiNameOf (frames : List (List UInt8)) (bssid : WifiMac) : List UInt8 :=
  frames.foldl (fun name frame =>
    match wifiBeaconOf frame with
    | some (b, ssid) => if b = bssid ∧ ssid ≠ [] then ssid else name
    | none => name) []

/-- The table shows the names of the frames, and an address is missing only if there was no slot for it. -/
structure WifiNames (frames : List (List UInt8)) (aps : List WifiAp) : Prop where
  table : WifiApTable aps
  names : ∀ ap ∈ aps, ap.ssid = wifiScanCopySsid (wifiNameOf frames ap.bssid)
  absent : ∀ bssid, bssid ∉ wifiBssids aps → wifiNameOf frames bssid ≠ [] → wifiScanApSlots ≤ aps.length

section Names

variable {s : Wifi} {frames : List (List UInt8)} {frame ssid name : List UInt8} {aps : List WifiAp} {ap old : WifiAp}
  {bssid b : WifiMac} {sc : WifiScan} {i slot : Nat}

theorem wifiNameOf_append (frames : List (List UInt8)) (frame : List UInt8) (bssid : WifiMac) :
    wifiNameOf (frames ++ [frame]) bssid =
      match wifiBeaconOf frame with
      | some (b, ssid) => if b = bssid ∧ ssid ≠ [] then ssid else wifiNameOf frames bssid
      | none => wifiNameOf frames bssid := by
  rw [wifiNameOf, List.foldl_append, List.foldl_cons, List.foldl_nil, wifiNameOf]

theorem length_wifiNameOf (frames : List (List UInt8)) (bssid : WifiMac) :
    (wifiNameOf frames bssid).length ≤ wifiScanSsidMax := by
  induction frames using List.reverseRecOn with
  | nil => exact Nat.zero_le _
  | append_singleton frames frame ih =>
      rw [wifiNameOf_append]
      split
      next b ssid h =>
        split
        · exact length_wifiBeaconOf h
        · exact ih
      next => exact ih

theorem WifiApTable.slot_eq {j : Nat} {other : WifiAp} (h : WifiApTable aps) (hi : aps[i]? = some ap)
    (hj : aps[j]? = some other) (hbssid : ap.bssid = other.bssid) : i = j := by
  have hlt : i < (wifiBssids aps).length := by
    rw [wifiBssids, List.length_map]
    exact (List.getElem?_eq_some_iff.mp hi).1
  refine (List.getElem?_inj hlt h.distinct).mp ?_
  rw [wifiBssids, List.getElem?_map, List.getElem?_map, hi, hj, Option.map_some, Option.map_some, hbssid]

/-- The slot that is written shows the name, unless the frame hides it. -/
theorem ssid_sighted {channel : UInt8} {subtype capability : UInt16} {security : Nat}
    (h : old.ssid = wifiScanCopySsid name) :
    (old.sighted ssid channel subtype capability security).ssid =
      wifiScanCopySsid (if ssid ≠ [] then ssid else name) := by
  unfold WifiAp.sighted
  by_cases hssid : ssid = []
  · rw [if_neg (not_not.mpr hssid), ← h, hssid]
    by_cases hold : old.ssid = []
    · simp [hold, wifiScanCopySsid]
    · simp [hold]
  · simp [hssid, List.length_pos_iff]

theorem WifiNames.step (h : WifiNames frames s.scan.aps) (frame : List UInt8) :
    WifiNames (frames ++ [frame]) (wifiScanParse80211Frame s frame).2.scan.aps := by
  have hscan := scan_wifiScanParse80211Frame s frame
  cases hof : wifiBeaconOf frame with
  | none =>
      have hname : ∀ bssid, wifiNameOf (frames ++ [frame]) bssid = wifiNameOf frames bssid := by
        simp [wifiNameOf_append, hof]
      rw [hof] at hscan
      dsimp only at hscan
      rw [hscan]
      exact ⟨h.table, by simpa [hname] using h.names, by simpa [hname] using h.absent⟩
  | some beacon =>
      obtain ⟨b, ssid⟩ := beacon
      rw [hof] at hscan
      obtain ⟨channel, subtype, capability, security, hscan⟩ := hscan
      have hname : ∀ bssid, wifiNameOf (frames ++ [frame]) bssid =
          if b = bssid ∧ ssid ≠ [] then ssid else wifiNameOf frames bssid := by
        simp [wifiNameOf_append, hof]
      have hother : ∀ bssid, bssid ≠ b → wifiNameOf (frames ++ [frame]) bssid = wifiNameOf frames bssid :=
        fun bssid hne => (hname bssid).trans (if_neg fun heq => hne heq.1.symm)
      have hown : wifiNameOf (frames ++ [frame]) b = if ssid ≠ [] then ssid else wifiNameOf frames b := by
        simp [hname]
      have hstored := wifiScanStoreAp_stored s.scan b ssid channel subtype capability security
      rw [hscan]
      refine ⟨h.table.stored hstored, ?_, ?_⟩
      · generalize (wifiScanStoreAp s.scan b ssid channel subtype capability security).aps = aps' at hstored
        intro ap hap
        cases hstored with
        | again slot old hslot hold =>
            obtain ⟨j, hj⟩ := List.mem_iff_getElem?.mp hap
            rw [List.getElem?_modify] at hj
            by_cases hslotj : slot = j
            · subst hslotj
              simp only [hslot, if_true, Option.map_eq_map, Option.map_some, Option.some.injEq] at hj
              subst hj
              rw [bssid_sighted, hold, hown]
              exact ssid_sighted (hold ▸ h.names old (List.mem_of_getElem? hslot))
            · simp only [if_neg hslotj, Option.map_eq_map, Option.map_id'] at hj
              have hne : ap.bssid ≠ b := fun heq => hslotj (h.table.slot_eq hslot hj (hold.trans heq.symm))
              rw [hother _ hne]
              exact h.names ap (List.mem_of_getElem? hj)
        | full hnew hfull =>
            have hne : ap.bssid ≠ b := fun heq => hnew (heq ▸ List.mem_map_of_mem hap)
            rw [hother _ hne]
            exact h.names ap hap
        | added hnew hroom =>
            obtain hap | hap := List.mem_append.mp hap
            · have hne : ap.bssid ≠ b := fun heq => hnew (heq ▸ List.mem_map_of_mem hap)
              rw [hother _ hne]
              exact h.names ap hap
            · obtain rfl := List.mem_singleton.mp hap
              have hunnamed : wifiNameOf frames b = [] := by
                by_contra hne
                exact absurd (h.absent b hnew hne) (Nat.not_le.mpr hroom)
              rw [bssid_sighted, show (WifiAp.blank b).bssid = b from rfl, hown]
              exact ssid_sighted (by rw [hunnamed]; rfl)
      · generalize (wifiScanStoreAp s.scan b ssid channel subtype capability security).aps = aps' at hstored
        intro bssid hmissing hnamed
        cases hstored with
        | again slot old hslot hold =>
            rw [wifiBssids_modify] at hmissing
            have hne : bssid ≠ b := fun heq =>
              hmissing (heq ▸ hold ▸ List.mem_map_of_mem (List.mem_of_getElem? hslot))
            rw [hother _ hne] at hnamed
            simpa using h.absent bssid hmissing hnamed
        | full hnew hfull => exact hfull
        | added hnew hroom =>
            rw [wifiBssids, List.map_append, List.map_singleton, List.mem_append, not_or] at hmissing
            have hne : bssid ≠ b := fun heq => hmissing.2 (List.mem_singleton.mpr heq)
            rw [hother _ hne] at hnamed
            exact absurd (h.absent bssid hmissing.1 hnamed) (Nat.not_le.mpr hroom)

theorem wifiNames_run (hempty : s.scan.aps = []) (frames : List (List UInt8)) :
    WifiNames frames (wifiScanRun s frames).scan.aps := by
  induction frames using List.reverseRecOn with
  | nil =>
      rw [wifiScanRun, List.foldl_nil, hempty]
      exact ⟨⟨Nat.zero_le _, List.nodup_nil⟩, by simp, fun bssid _ hnamed => absurd rfl hnamed⟩
  | append_singleton frames frame ih =>
      rw [wifiScanRun, List.foldl_append, List.foldl_cons, List.foldl_nil]
      exact ih.step frame

/-! ## Finding and joining -/

/-- Printable ASCII only. -/
def WifiPrintable (name : List UInt8) : Prop := ∀ c ∈ name, 32 ≤ c ∧ c ≤ 126

/-- A slot before it shows the name. -/
def WifiShadowed (aps : List WifiAp) (i : Nat) (name : List UInt8) : Prop :=
  ∃ j, j < i ∧ ∃ ap, aps[j]? = some ap ∧ ap.ssid = name

theorem length_wifiScanCopySsid : (wifiScanCopySsid name).length ≤ wifiScanSsidMax := by
  simp [wifiScanCopySsid]

theorem wifiScanCopySsid_eq_iff (h : name.length ≤ wifiScanSsidMax) :
    wifiScanCopySsid name = name ↔ WifiPrintable name := by
  rw [wifiScanCopySsid, List.take_of_length_le h]
  induction name with
  | nil => simp [WifiPrintable]
  | cons c name ih =>
      have hih := ih (Nat.le_of_succ_le h)
      simp only [WifiPrintable, List.map_cons, List.cons.injEq, List.forall_mem_cons] at hih ⊢
      rw [hih]
      refine and_congr_left fun _ => ?_
      by_cases hc : 32 ≤ c ∧ c ≤ 126
      · simp [hc]
      · rw [if_neg (by simpa using hc)]
        refine iff_of_false (fun hdot => hc ?_) hc
        rw [← hdot]
        decide

theorem zero_not_mem_wifiScanCopySsid : 0 ∉ wifiScanCopySsid name := by
  intro hmem
  obtain ⟨c, -, hc⟩ := List.mem_map.mp hmem
  split at hc
  · subst hc
    simp_all
  · cases hc

/-- What `wifi_connect_find_ap` finds: the first slot that shows the string. -/
theorem wifiConnectFindAp_iff (hap : sc.aps[i]? = some ap) :
    wifiConnectFindAp sc ssid = some i ↔
      ssid = ap.ssid ∧ ssid ≠ [] ∧ ssid.length ≤ wifiScanSsidMax ∧ ¬ WifiShadowed sc.aps i ssid := by
  have hmatches : ∀ ap : WifiAp, wifiConnectSsidMatches ssid ap = true ↔
      ssid = ap.ssid ∧ ssid ≠ [] ∧ ssid.length ≤ wifiScanSsidMax := by
    intro ap
    simp only [wifiConnectSsidMatches, Bool.and_eq_true, decide_eq_true_eq, List.length_pos_iff]
    grind
  obtain ⟨hlt, hget⟩ := List.getElem?_eq_some_iff.mp hap
  rw [wifiConnectFindAp, List.findIdx?_eq_some_iff_getElem]
  constructor
  · rintro ⟨_, hfound, hfirst⟩
    rw [hget] at hfound
    obtain ⟨hssid, hne, hlen⟩ := (hmatches ap).mp hfound
    refine ⟨hssid, hne, hlen, fun hshadowed => ?_⟩
    obtain ⟨j, hj, other, hother, heq⟩ := hshadowed
    obtain ⟨hjlt, hgetj⟩ := List.getElem?_eq_some_iff.mp hother
    refine hfirst j hj ?_
    rw [hgetj]
    exact (hmatches other).mpr ⟨heq.symm, hne, hlen⟩
  · rintro ⟨hssid, hne, hlen, hshadowed⟩
    refine ⟨hlt, ?_, fun j hj => ?_⟩
    · rw [hget]
      exact (hmatches ap).mpr ⟨hssid, hne, hlen⟩
    · intro hfound
      exact hshadowed ⟨j, hj, _, List.getElem?_eq_getElem (hj.trans hlt), ((hmatches _).mp hfound).1.symm⟩

end Names

/-- The name element of an association request, behind the capabilities and the listen interval. -/
def wifiAssocSsid (frame : List UInt8) : Option (List UInt8) :=
  if frame.getD 28 0 = 0 then some ((frame.drop 30).take (frame.getD 29 0).toNat) else none

/-- The association request asks for the name, and the key of a passphrase is salted with it. -/
structure WifiSsidUsed (ssid name : List UInt8) : Prop where
  element : ∀ (channel : UInt8) (useWpa : Bool) (bssid localMac : WifiMac), ∃ fc frame,
    wifiConnectBuildAssocFrame channel ssid useWpa bssid localMac = some (fc, frame) ∧ wifiAssocSsid frame = some name
  salt : ∀ (r : WifiRadio) (password : CStr), r.plan.ssid = ssid → 8 ≤ password.length → password.length ≤ 63 →
    ∃ pmk, pbkdf2HmacSha1 32 (password.map Subtype.val) name wifiWpa2Pbkdf2Iterations = some pmk ∧
      wifiConnectPrepareWpa2Pmk r (some password) = (.ok (), r.keyed pmk password.length wifiWpa2Pbkdf2Iterations)

section Used

variable {ssid name : List UInt8} {s : Wifi} {frames : List (List UInt8)} {ap : WifiAp} {i : Nat}

theorem wifiAssocSsid_built (hne : ssid ≠ []) (hlen : ssid.length ≤ wifiScanSsidMax) (channel : UInt8) (useWpa : Bool)
    (bssid localMac : WifiMac) : ∃ fc frame,
      wifiConnectBuildAssocFrame channel ssid useWpa bssid localMac = some (fc, frame) ∧
        wifiAssocSsid frame = some ssid := by
  have hlen' : ssid.length ≤ 32 := hlen
  have hpos : ¬ (ssid.length = 0 ∨ ssid.length > wifiScanSsidMax) := by
    rw [List.length_eq_zero_iff]
    simp [hne, hlen]
  have hadd : ∀ (frame : List UInt8) (id : UInt8) (data : List UInt8), frame.length ≤ 1024 → data.length ≤ 255 →
      wifiConnectAddIe frame id data = some (frame ++ id :: UInt8.ofNat data.length :: data) := by
    intro frame id data hframe hdata
    refine if_neg ?_
    rw [wifiConnectFrameBytes]
    omega
  -- whatever follows, the name stands behind the 28 bytes before it
  have helement : ∀ start rest : List UInt8, start.length = 28 →
      wifiAssocSsid (start ++ (0 :: UInt8.ofNat ssid.length :: (ssid ++ rest))) = some ssid := by
    intro start rest hstart
    have hsize : (UInt8.ofNat ssid.length).toNat = ssid.length :=
        UInt8.toNat_ofNat_of_lt' (show ssid.length < 256 by omega)
    have hbehind : start.drop 30 = [] := List.drop_eq_nil_of_le (by omega)
    simp [wifiAssocSsid, List.getD_eq_getElem?_getD, List.getElem?_append_right, List.drop_append, hstart,
      hsize, hbehind]
  have hrates : (if channel > 14 then rates5ghz else rates24ghz).length = 8 := by
    split <;> rfl
  have hstart : ∀ capability, (wifiConnectWriteMgmtHeader 0 bssid localMac ++ wifiWriteLe16 capability ++
      wifiWriteLe16 10).length = 28 := by
    simp [wifiConnectWriteMgmtHeader]
  simp only [wifiConnectBuildAssocFrame, if_neg hpos]
  rw [hadd _ _ _ (by rw [hstart]; decide) (by omega)]
  dsimp only
  rw [hadd _ _ _ (by rw [List.length_append, hstart, List.length_cons, List.length_cons]; omega) (by omega)]
  dsimp only
  cases useWpa with
  | false =>
      refine ⟨_, _, rfl, ?_⟩
      rw [List.append_assoc]
      exact helement _ _ (hstart _)
  | true =>
      rw [if_pos rfl, hadd _ _ _ (by
        simp only [List.length_append, hstart, List.length_cons, hrates]
        omega) (by decide)]
      refine ⟨_, _, rfl, ?_⟩
      rw [List.append_assoc, List.append_assoc]
      exact helement _ _ (hstart _)

/-- What is asked for and salted with is the name exactly if the string is. -/
theorem wifiSsidUsed_iff (hne : ssid ≠ []) (hlen : ssid.length ≤ wifiScanSsidMax) : WifiSsidUsed ssid name ↔
    ssid = name := by
  constructor
  · intro h
    obtain ⟨fc, frame, hbuilt, helement⟩ := h.element 1 false (Vector.replicate 6 0) (Vector.replicate 6 0)
    obtain ⟨fc', frame', hbuilt', helement'⟩ := wifiAssocSsid_built hne hlen 1 false (Vector.replicate 6 0)
      (Vector.replicate 6 0)
    obtain ⟨-, rfl⟩ := Prod.mk.inj (Option.some.inj (hbuilt.symm.trans hbuilt'))
    exact Option.some.inj (helement'.symm.trans helement)
  · rintro rfl
    refine ⟨wifiAssocSsid_built hne hlen, fun r password hr hmin hmax => ?_⟩
    have hlen' : ssid.length ≤ 32 := hlen
    have hsalt : ¬ (32 = 0 ∨ wifiWpa2Pbkdf2Iterations = 0 ∨ ssid.length + 4 > 128) := by
      rw [wifiWpa2Pbkdf2Iterations]
      omega
    refine ⟨_, if_neg hsalt, ?_⟩
    simp only [wifiConnectPrepareWpa2Pmk, List.length_map, hr]
    rw [if_neg (by omega), if_neg (by omega), pbkdf2HmacSha1, if_neg hsalt]

/-- A network is asked for and salted with under its own name by every string that finds it exactly if the
name is printable or nothing finds it; and its name finds it exactly if it is printable and no slot before it
shows the same. -/
theorem wifiSsid_fidelity_iff (s : Wifi) (frames : List (List UInt8)) (i : Nat) (ap : WifiAp)
    (hempty : s.scan.aps = []) (hap : (wifiScanRun s frames).scan.aps[i]? = some ap) :
    let sc := (wifiScanRun s frames).scan
    let name := wifiNameOf frames ap.bssid
    ((∀ ssid, 0 ∉ ssid → wifiConnectFindAp sc ssid = some i → WifiSsidUsed ssid name) ↔
        WifiPrintable name ∨ WifiShadowed sc.aps i (wifiScanCopySsid name)) ∧
      (name ≠ [] → 0 ∉ name →
        (wifiConnectFindAp sc name = some i ↔ WifiPrintable name ∧ ¬ WifiShadowed sc.aps i name)) := by
  intro sc name
  have hnames := (wifiNames_run hempty frames).names ap (List.mem_of_getElem? hap)
  have hlen := length_wifiNameOf frames ap.bssid
  have hcopy : wifiScanCopySsid name = name ↔ WifiPrintable name := wifiScanCopySsid_eq_iff hlen
  have hfind : ∀ ssid, wifiConnectFindAp sc ssid = some i ↔ ssid = wifiScanCopySsid name ∧ ssid ≠ [] ∧
      ssid.length ≤ wifiScanSsidMax ∧ ¬ WifiShadowed sc.aps i ssid := fun ssid => by
    rw [wifiConnectFindAp_iff hap, hnames]
  constructor
  · constructor
    · intro hused
      by_cases hshadowed : WifiShadowed sc.aps i (wifiScanCopySsid name)
      · exact .inr hshadowed
      · left
        by_cases hempty : wifiScanCopySsid name = []
        · rw [← hcopy, hempty]
          exact (List.length_eq_zero_iff.mp
            (by simpa [wifiScanCopySsid, wifiScanSsidMax] using congrArg List.length hempty)).symm
        · have hfound := (hfind _).mpr ⟨rfl, hempty, length_wifiScanCopySsid, hshadowed⟩
          exact hcopy.mp ((wifiSsidUsed_iff hempty length_wifiScanCopySsid).mp
            (hused _ zero_not_mem_wifiScanCopySsid hfound))
    · intro hcase ssid _ hfound
      obtain ⟨rfl, hne, hshort, hshadowed⟩ := (hfind ssid).mp hfound
      obtain hprintable | hbefore := hcase
      · exact (wifiSsidUsed_iff hne hshort).mpr (hcopy.mpr hprintable)
      · exact absurd hbefore hshadowed
  · intro hne _
    rw [hfind, ← hcopy]
    grind

end Used

/-! ## A name in UTF-8 -/

/-- A beacon that tells a name. -/
def sampleNamedBeacon (name : List UInt8) : List UInt8 :=
  [0x80, 0] ++ List.replicate 14 0 ++ [2, 17, 34, 51, 68, 85] ++ List.replicate 14 0 ++
  [0, UInt8.ofNat name.length] ++ name

/-- A printable name finds its network. -/
theorem wifiSsid_found :
    wifiConnectFindAp (wifiScanRun wifiBoot [sampleNamedBeacon [0x61, 0x70]]).scan [0x61, 0x70] = some 0 := by
  have hname : wifiNameOf [sampleNamedBeacon [0x61, 0x70]] #v[2, 17, 34, 51, 68, 85] = [0x61, 0x70] := by
    decide +kernel
  have h := (wifiSsid_fidelity_iff wifiBoot [sampleNamedBeacon [0x61, 0x70]] 0
    ((WifiAp.blank #v[2, 17, 34, 51, 68, 85]).sighted [0x61, 0x70] 0 8 0 0) rfl (by decide +kernel)).2
  rw [show (WifiAp.sighted _ _ _ _ _ _).bssid = #v[2, 17, 34, 51, 68, 85] from rfl, hname] at h
  refine (h (by decide) (by decide)).mpr ⟨?_, fun ⟨j, hj, _⟩ => Nat.not_lt_zero j hj⟩
  simp [WifiPrintable]

/-- A name in UTF-8 is not found, and the string that finds its network is not its name. -/
theorem wifiSsid_dotted :
    ¬ ∀ (s : Wifi) (frames : List (List UInt8)) (i : Nat) (ap : WifiAp), s.scan.aps = [] →
      (wifiScanRun s frames).scan.aps[i]? = some ap →
        (∀ ssid, 0 ∉ ssid → wifiConnectFindAp (wifiScanRun s frames).scan ssid = some i →
          WifiSsidUsed ssid (wifiNameOf frames ap.bssid)) ∧
        (wifiNameOf frames ap.bssid ≠ [] → 0 ∉ wifiNameOf frames ap.bssid →
          wifiConnectFindAp (wifiScanRun s frames).scan (wifiNameOf frames ap.bssid) = some i) := by
  intro h
  have hname : wifiNameOf [sampleNamedBeacon [0xc3, 0xa9]] #v[2, 17, 34, 51, 68, 85] = [0xc3, 0xa9] := by
    decide +kernel
  have hnone : wifiConnectFindAp (wifiScanRun wifiBoot [sampleNamedBeacon [0xc3, 0xa9]]).scan [0xc3, 0xa9] = none := by
    decide +kernel
  obtain ⟨-, hfinds⟩ := h wifiBoot [sampleNamedBeacon [0xc3, 0xa9]] 0
    ((WifiAp.blank #v[2, 17, 34, 51, 68, 85]).sighted [0xc3, 0xa9] 0 8 0 0) rfl (by decide +kernel)
  rw [show (WifiAp.sighted _ _ _ _ _ _).bssid = #v[2, 17, 34, 51, 68, 85] from rfl, hname, hnone] at hfinds
  cases hfinds (by decide) (by decide)

end Orizon
