import Orizon.Vfs.Shape
import Orizon.Wifi.Firmware

/-!
# Orizon.Wifi.Plan

`wifi_connect`: the plan for an access point, its key and its two frames.

It looks for the firmware before it looks at the driver, and the search takes the driver
down, so no plan is ever made (`wifiConnect_never`).
-/

namespace Orizon

/-! ## The key -/

/-- The rounds of `pbkdf2_hmac_sha1` behind the first, for one block. -/
def pbkdf2Rounds (password : List UInt8) : Nat → List UInt8 → List UInt8 → List UInt8
  | 0, _, t => t
  | rounds + 1, u, t =>
      let u := hmacSha1 password u
      pbkdf2Rounds password rounds u (List.zipWith (· ^^^ ·) t u)

/-- A block of `pbkdf2_hmac_sha1`. -/
def pbkdf2Block (password salt : List UInt8) (iterations : Nat) (index : UInt32) : List UInt8 :=
  let u := hmacSha1 password (salt ++ writeBe32 index)
  pbkdf2Rounds password (iterations - 1) u u

/-- `pbkdf2_hmac_sha1` for an output of `n` bytes. -/
def pbkdf2HmacSha1 (n : Nat) (password salt : List UInt8) (iterations : Nat) : Option (Vector UInt8 n) :=
  if n = 0 ∨ iterations = 0 ∨ salt.length + 4 > 128 then none
  else some (bytesFrom n
    ((List.range ((n + 19) / 20)).flatMap fun i => pbkdf2Block password salt iterations (UInt32.ofNat (i + 1))) 0)

/-- `wifi_connect_hex_value`. -/
def wifiConnectHexValue (c : UInt8) : Option UInt8 :=
  if 0x30 ≤ c ∧ c ≤ 0x39 then some (c - 0x30)
  else if 0x61 ≤ c ∧ c ≤ 0x66 then some (c - 0x61 + 10)
  else if 0x41 ≤ c ∧ c ≤ 0x46 then some (c - 0x41 + 10)
  else none

/-- `wifi_connect_parse_hex_pmk`. -/
def wifiConnectParseHexPmk (password : List UInt8) : Option (List UInt8) :=
  (List.range 32).mapM fun i =>
    match wifiConnectHexValue (password.getD (2 * i) 0), wifiConnectHexValue (password.getD (2 * i + 1) 0) with
    | some hi, some lo => some ((hi <<< 4) ||| lo)
    | _, _ => none

/-- `wifi_connect_checksum`. -/
def wifiConnectChecksum (data : List UInt8) : UInt32 :=
  let hash := data.foldl (fun hash b => (hash ^^^ b.toUInt32) * 16777619) 2166136261
  if hash = 0 then 1 else hash

/-- The reasons of `wifi_connect_prepare_wpa2_pmk`. -/
inductive WifiPmkError
  | missingPassword
  | notHex
  | length
  | pbkdf2
  deriving DecidableEq

/-- The text of a reason. -/
def WifiPmkError.reason : WifiPmkError → String
  | .missingPassword => "missing password"
  | .notHex => "64-character WPA2 PSK must be hexadecimal"
  | .length => "WPA2 passphrase length must be 8..63"
  | .pbkdf2 => "PBKDF2-HMAC-SHA1 failed"

/-- `WIFI_WPA2_PBKDF2_ITERATIONS`. -/
def wifiWpa2Pbkdf2Iterations : Nat := 4096

/-- A key of `wifi_connect_prepare_wpa2_pmk` and how it was made. -/
def WifiRadio.keyed (r : WifiRadio) (pmk : Vector UInt8 32) (passwordLen iterations : Nat) : WifiRadio :=
  { r with
    driver := { r.driver with wifi := { r.driver.wifi with
      connect := { r.driver.wifi.connect with pmk := pmk, pmkReady := true } } }
    plan := { r.plan with
      passwordLen, pmkIterations := iterations, pmkChecksum := wifiConnectChecksum pmk.toList } }

/-- `wifi_connect_prepare_wpa2_pmk`. -/
def wifiConnectPrepareWpa2Pmk (r : WifiRadio) (password : Option CStr) :
    Except WifiPmkError Unit × WifiRadio :=
  match password with
  | none => (.error .missingPassword, r)
  | some password =>
      let bytes := password.map Subtype.val
      if bytes.length = 64 then
        match wifiConnectParseHexPmk bytes with
        | none => (.error .notHex, r)
        | some pmk => (.ok (), r.keyed (bytesFrom 32 pmk 0) bytes.length 0)
      else if bytes.length < 8 ∨ bytes.length > 63 then (.error .length, r)
      else
        match pbkdf2HmacSha1 32 bytes r.plan.ssid wifiWpa2Pbkdf2Iterations with
        | none => (.error .pbkdf2, r)
        | some pmk => (.ok (), r.keyed pmk bytes.length wifiWpa2Pbkdf2Iterations)

/-! ## The frames -/

/-- `wifi_connect_write_mgmt_header`. -/
def wifiConnectWriteMgmtHeader (fc : UInt16) (bssid localMac : WifiMac) : List UInt8 :=
  wifiWriteLe16 fc ++ wifiWriteLe16 0 ++ bssid.toList ++ localMac.toList ++ bssid.toList ++ wifiWriteLe16 0

/-- `wifi_connect_build_auth_frame`: the control word and the frame. -/
def wifiConnectBuildAuthFrame (bssid localMac : WifiMac) : UInt16 × List UInt8 :=
  let fc := wifiSubtypeAuth <<< 4
  (fc, wifiConnectWriteMgmtHeader fc bssid localMac ++ wifiWriteLe16 0 ++ wifiWriteLe16 1 ++ wifiWriteLe16 0)

/-- `wifi_connect_add_ie`. -/
def wifiConnectAddIe (frame : List UInt8) (id : UInt8) (data : List UInt8) : Option (List UInt8) :=
  if frame.length + 2 + data.length > wifiConnectFrameBytes ∨ data.length > 255 then none
  else some (frame ++ id :: UInt8.ofNat data.length :: data)

/-- `rates_24ghz`. -/
def rates24ghz : List UInt8 := [0x82, 0x84, 0x8b, 0x96, 0x0c, 0x12, 0x18, 0x24]

/-- `rates_5ghz`. -/
def rates5ghz : List UInt8 := [0x8c, 0x12, 0x98, 0x24, 0xb0, 0x48, 0x60, 0x6c]

/-- `rsn_wpa2_psk_ccmp`. -/
def rsnWpa2PskCcmp : List UInt8 :=
  [0x01, 0x00, 0x00, 0x0f, 0xac, 0x04, 0x01, 0x00, 0x00, 0x0f, 0xac, 0x04, 0x01, 0x00, 0x00, 0x0f, 0xac, 0x02,
    0x00, 0x00]

/-- `wifi_connect_build_assoc_frame`: the control word and the frame. -/
def wifiConnectBuildAssocFrame (channel : UInt8) (ssid : List UInt8) (useWpa : Bool)
    (bssid localMac : WifiMac) :
    Option (UInt16 × List UInt8) :=
  if ssid.length = 0 ∨ ssid.length > wifiScanSsidMax then none
  else
    let fc : UInt16 := 0
    let rates := if channel > 14 then rates5ghz else rates24ghz
    let capability : UInt16 := if useWpa then 0x0001 ||| 0x0010 else 0x0001
    let frame := wifiConnectWriteMgmtHeader fc bssid localMac ++ wifiWriteLe16 capability ++ wifiWriteLe16 10
    match wifiConnectAddIe frame 0 ssid with
    | none => none
    | some frame =>
        match wifiConnectAddIe frame 1 rates with
        | none => none
        | some frame =>
            if useWpa then (wifiConnectAddIe frame 48 rsnWpa2PskCcmp).map (fc, ·) else some (fc, frame)

/-! ## The plan -/

/-- The ways in which `wifi_connect` fails. -/
inductive WifiConnectError
  | noController
  | usage
  | ssidTooLong
  | notReady
  | ssidNotFound
  | unsupportedSecurity
  | passwordRequired
  | pmk (e : WifiPmkError)
  | frames
  deriving DecidableEq

/-- The first line of the report. -/
def WifiConnectError.text : WifiConnectError → String
  | .noController => "wifi connect: no wireless controller detected"
  | .usage => "wifi connect: usage wifi connect <ssid> [password]"
  | .ssidTooLong => "wifi connect: SSID too long"
  | .notReady => "wifi connect: radio stack is not ready yet"
  | .ssidNotFound => "wifi connect: SSID not found in the current scan table"
  | .unsupportedSecurity => "wifi connect: unsupported AP security for now"
  | .passwordRequired => "wifi connect: password required by scanned AP"
  | .pmk _ => "wifi connect: WPA2 key preparation failed"
  | .frames => "wifi connect: failed to build association frame plan"

/-- `wifi_connect_ssid_matches`. -/
def wifiConnectSsidMatches (target : List UInt8) (ap : WifiAp) : Bool :=
  0 < ap.ssid.length && ap.ssid.length ≤ wifiScanSsidMax && target = ap.ssid

/-- `wifi_connect_find_ap`. -/
def wifiConnectFindAp (sc : WifiScan) (ssid : List UInt8) :
    Option Nat := sc.aps.findIdx? (wifiConnectSsidMatches ssid)

/-- `wifi_connect_make_local_mac`. -/
def wifiConnectMakeLocalMac (s : Wifi) : WifiMac :=
  bytesFrom 6 [0x02, 0x4f, 0x5a, s.vendorId.toUInt8, s.deviceId.toUInt8,
    if s.scan.generation ≠ 0 then s.scan.generation.toUInt8 else 1] 0

/-- `WIFI_SCAN_SECURITY_UNKNOWN`. -/
def wifiScanSecurityUnknown : Nat := 4

/-- The `connect_failed` branches. -/
def WifiRadio.connectFailed (r : WifiRadio) : WifiRadio := { r with plan := { r.plan with failed := true } }

/-- The part of `wifi_connect` behind `wifi_connect_find_ap`. -/
def wifiConnectAp (r : WifiRadio) (ssid : List UInt8) (password : Option CStr) (apIndex : Nat) (ap : WifiAp) :
    Except WifiConnectError Unit × WifiRadio :=
  let given := password.any (· ≠ [])
  if ap.security = wifiScanSecurityWep ∨ ap.security = wifiScanSecurityWpa then
    (.error .unsupportedSecurity, r.connectFailed)
  else if ap.security = wifiScanSecurityWpa2 ∧ ¬ given then (.error .passwordRequired, r.connectFailed)
  else
    let useWpa := ap.security = wifiScanSecurityWpa2 || (ap.security = wifiScanSecurityUnknown && given)
    let s := r.driver.wifi
    let localMac := wifiConnectMakeLocalMac s
    let r : WifiRadio :=
      { r with
        driver := { r.driver with wifi := { s with
          connect := { s.connect with wpa := useWpa, openNet := !useWpa, bssid := ap.bssid, localMac } } }
        plan := { r.plan with apIndex := some apIndex, channel := ap.channel, ssid } }
    match if useWpa then wifiConnectPrepareWpa2Pmk r password else (.ok (), r) with
    | (.error e, r) => (.error (.pmk e), r.connectFailed)
    | (.ok (), r) =>
        let (authFc, authFrame) := wifiConnectBuildAuthFrame ap.bssid localMac
        let r := { r with plan := { r.plan with authFc, authFrame } }
        match wifiConnectBuildAssocFrame ap.channel ssid useWpa ap.bssid localMac with
        | none => (.error .frames, r.connectFailed)
        | some (assocFc, assocFrame) =>
            (.ok (), { r with
              driver := { r.driver with wifi := { r.driver.wifi with
                connect := { r.driver.wifi.connect with ready := true }
                driverReady := false
                associated := false } }
              plan := { r.plan with
                assocFc, assocFrame, failed := false
                frameChecksum := wifiConnectChecksum authFrame ^^^ (wifiConnectChecksum assocFrame * 16777619) } })

section Connect

variable {H : Type} [Allocator H]

/-- `wifi_connect`. -/
def wifiConnect (env : WifiSources H) (r : WifiRadio) (ssid password : Option CStr) :
    Except WifiConnectError Unit × WifiRadio :=
  let r := (wifiFindFirmware env (wifiInit env r)).2
  if !r.driver.wifi.present then (.error .noController, r)
  else
    let ssid := (ssid.getD []).map Subtype.val
    if ssid = [] then (.error .usage, r)
    else if ssid.length > wifiScanSsidMax then (.error .ssidTooLong, r)
    else
      let attempts := r.driver.wifi.connect.attempts + 1
      let d := r.driver
      let r : WifiRadio :=
        { r with
          driver := wifiConnectClearPlan { d with wifi := { d.wifi with connect := { d.wifi.connect with attempts } } }
          plan := WifiPlan.cleared }
      if !r.firmware.present || !r.bootReady || !r.driver.cmd.contextArmed || !r.driver.rx.pathReady then
        (.error .notReady, r.connectFailed)
      else
        match wifiConnectFindAp r.driver.wifi.scan ssid with
        | none => (.error .ssidNotFound, r.connectFailed)
        | some apIndex =>
            match r.driver.wifi.scan.aps[apIndex]? with
            | none => (.error .ssidNotFound, r.connectFailed)
            | some ap => wifiConnectAp r ssid password apIndex ap

/-! ## No plan is made -/

/-- The radio is ready for a plan. -/
structure WifiRadio.Ready (r : WifiRadio) : Prop where
  present : r.driver.wifi.present = true
  bootReady : r.bootReady = true
  contextArmed : r.driver.cmd.contextArmed = true
  pathReady : r.driver.rx.pathReady = true

/-- A password of 8 to 63 printable characters. -/
def WifiPassphrase (password : CStr) : Prop :=
  8 ≤ password.length ∧ password.length ≤ 63 ∧ ∀ c ∈ password, wifiIsPrintableAscii c.val

/-- The access point has the SSID, and is open or the password may be its own. -/
def WifiAp.Joinable (ap : WifiAp) (ssid : CStr) (password : Option CStr) : Prop :=
  wifiConnectSsidMatches (ssid.map Subtype.val) ap ∧
    (ap.security = wifiScanSecurityOpen ∨
      ap.security = wifiScanSecurityWpa2 ∧ ∃ p, password = some p ∧ WifiPassphrase p)

/-- What is asked of `wifi_connect`: a plan for an access point of the scan table with
that SSID, and a search for the firmware that leaves the radio and the table. -/
structure WifiConnects (env : WifiSources H) (r : WifiRadio) (ssid : CStr) (password : Option CStr) : Prop where
  ok : (wifiConnect env r (some ssid) password).1 = .ok ()
  ready : (wifiConnect env r (some ssid) password).2.driver.wifi.connect.ready = true
  planned : ∃ i ap, r.driver.wifi.scan.aps[i]? = some ap ∧ ap.Joinable ssid password ∧
    (wifiConnect env r (some ssid) password).2.plan.apIndex = some i
  bootReady : (wifiFindFirmware env r).2.bootReady = r.bootReady
  contextArmed : (wifiFindFirmware env r).2.driver.cmd.contextArmed = r.driver.cmd.contextArmed
  pathReady : (wifiFindFirmware env r).2.driver.rx.pathReady = r.driver.rx.pathReady
  scan : (wifiFindFirmware env r).2.driver.wifi.scan = r.driver.wifi.scan

variable {env : WifiSources H} {r : WifiRadio} {ssid : CStr}

theorem wifiInit_of_present (h : r.driver.wifi.present = true) : wifiInit env r = r := by
  simp [wifiInit, h]

theorem wifiConnect_notReady (h : r.driver.wifi.present = true) (hne : ssid ≠ [])
    (hlen : ssid.length ≤ wifiScanSsidMax) (password : Option CStr) :
    (wifiConnect env r (some ssid) password).1 = .error .notReady ∧
      (wifiConnect env r (some ssid) password).2.driver.wifi.connect.ready = false := by
  obtain ⟨hdown, hpresent⟩ := down_findFirmware env r
  unfold wifiConnect
  rw [wifiInit_of_present h]
  dsimp only
  have hbytes : ssid.map Subtype.val ≠ [] := fun h => hne (List.map_eq_nil_iff.mp h)
  rw [Option.getD_some, if_neg (by simp [hpresent, h]), if_neg hbytes, if_neg (by simpa using hlen),
    if_pos (by simp [hdown.bootReady])]
  exact ⟨rfl, rfl⟩

/-- From no ready radio does `wifi_connect` make a plan, and the search loses the firmware's
start, the context, the receive path and the scan table. -/
theorem wifiConnect_never (env : WifiSources H) (r : WifiRadio) (ssid : CStr) (password : Option CStr)
    (hready : r.Ready) (hap : ∃ ap ∈ r.driver.wifi.scan.aps, ap.Joinable ssid password) :
    ¬ WifiConnects env r ssid password ∧
      (wifiConnect env r (some ssid) password).1 = .error .notReady ∧
      (wifiConnect env r (some ssid) password).2.driver.wifi.connect.ready = false ∧
      (wifiFindFirmware env r).2.Down := by
  obtain ⟨ap, -, hmatch, -⟩ := hap
  simp only [wifiConnectSsidMatches, Bool.and_eq_true, decide_eq_true_eq] at hmatch
  obtain ⟨⟨hpos, hlen⟩, hssid⟩ := hmatch
  rw [← hssid, List.length_map] at hpos hlen
  obtain ⟨herror, hnone⟩ :=
    @wifiConnect_notReady H _ env r ssid hready.present (List.ne_nil_of_length_pos hpos) hlen
    password
  refine ⟨fun h => ?_, herror, hnone, (down_findFirmware env r).1⟩
  have hok := h.ok
  rw [herror] at hok
  cases hok

end Connect

/-! ## A radio in range of an open network -/

/-- An open access point. -/
def sampleAp : WifiAp :=
  { WifiAp.blank (Vector.replicate 6 0x02) with ssid := asciiBytes "orizon", channel := 6 }

/-- The firmware is a boot module. -/
def sampleSources : WifiSources KernelHeap where
  controllers := [⟨0x8086, 0x54f0⟩]
  modules := [⟨some (cstr "boot/iwlwifi-cc-a0-77.ucode"), none, [0]⟩]
  embedded := []
  vfs := bootVfs KernelHeap.boot noDisk bootPersist

/-- The radio after a scan that found it. -/
def sampleRadio : WifiRadio where
  driver := sampleDriver { wifiBoot with scan := { wifiBoot.scan with aps := [sampleAp] } } 1
  firmware := wifiNoFirmware
  bootReady := true
  aliveSeen := true
  plan := WifiPlan.cleared

theorem sampleRadio_ready : sampleRadio.Ready := ⟨rfl, rfl, rfl, rfl⟩

theorem sampleAp_joinable : ∃ ap ∈ sampleRadio.driver.wifi.scan.aps, ap.Joinable (cstr "orizon") none :=
  ⟨sampleAp, List.mem_singleton.mpr rfl, by decide, .inl rfl⟩

theorem wifiConnect_never_open :
    (wifiConnect sampleSources sampleRadio (some (cstr "orizon")) none).1 = .error .notReady := by
  have h :=
    wifiConnect_never sampleSources sampleRadio (cstr "orizon") none sampleRadio_ready sampleAp_joinable
  exact h.2.1

/-- The firmware is found, and no plan is made. -/
theorem wifiConnect_fails :
    ¬ ∀ (env : WifiSources KernelHeap) (r : WifiRadio) (ssid : CStr) (password : Option CStr),
    r.Ready → (wifiFindFirmware env r).1 = true →
      (∃ ap ∈ r.driver.wifi.scan.aps, ap.Joinable ssid password) → WifiConnects env r ssid password := by
  intro h
  have hfound : (wifiFindFirmware sampleSources sampleRadio).1 = true := by decide +kernel
  have hconnects :=
    h sampleSources sampleRadio (cstr "orizon") none sampleRadio_ready hfound sampleAp_joinable
  have hlost := hconnects.bootReady
  rw [(down_findFirmware sampleSources sampleRadio).1.bootReady] at hlost
  cases hlost

end Orizon
