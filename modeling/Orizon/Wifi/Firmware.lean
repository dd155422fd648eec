import Orizon.Vfs.Files
import Orizon.Wifi.Link

/-!
# Orizon.Wifi.Firmware

The search for a firmware image (`wifi_find_firmware`): a boot module, the image in the
kernel, a file of the tree.  Each source that has an image reads its TLVs, and each begins
with `wifi_reset_firmware_parse`, which takes down the whole driver.
-/

namespace Orizon

/-! ## The image -/

/-- `wifi_fw_image_t`. -/
inductive WifiFwImage
  | runtime
  | init
  | wowlan
  | boot
  deriving DecidableEq

/-- `wifi_fw_section_t`. -/
structure WifiFwSection where
  tlvType : UInt32
  image : WifiFwImage
  dst : UInt32
  data : List UInt8
  secure : Bool
  deriving DecidableEq

/-- The image that was found: the `firmware_` fields, the blob and its sections, whose
number is `firmware_section_count`. -/
structure WifiFirmware where
  present : Bool
  size : Nat
  name : CStr
  source : CStr
  blob : Option (List UInt8)
  valid : Bool
  version : UInt32
  build : UInt32
  human : List UInt8
  tlvCount : Nat
  instBytes : Nat
  dataBytes : Nat
  runtimeSections : Nat
  initSections : Nat
  wowlanSections : Nat
  secureSections : Nat
  loadBytes : Nat
  loadChunks : Nat
  largestSection : Nat
  apiCount : Nat
  capaCount : Nat
  parseErrors : Nat
  cpuCount : UInt32
  firstDst : UInt32
  loadPlanReady : Bool
  sections : List WifiFwSection

/-- The image as `wifi_reset_firmware_parse` leaves it: what was found stays, what was
read of it goes. -/
def WifiFirmware.unparsed (fw : WifiFirmware) : WifiFirmware where
  present := fw.present
  size := fw.size
  name := fw.name
  source := fw.source
  blob := fw.blob
  valid := false
  version := 0
  build := 0
  human := List.replicate 64 0
  tlvCount := 0
  instBytes := 0
  dataBytes := 0
  runtimeSections := 0
  initSections := 0
  wowlanSections := 0
  secureSections := 0
  loadBytes := 0
  loadChunks := 0
  largestSection := 0
  apiCount := 0
  capaCount := 0
  parseErrors := 0
  cpuCount := 0
  firstDst := 0
  loadPlanReady := false
  sections := []

/-- No image was looked for. -/
def wifiNoFirmware : WifiFirmware :=
  WifiFirmware.unparsed
    { present := false, size := 0, name := cstr "none", source := cstr "none", blob := none, valid := false,
      version := 0, build := 0, human := [], tlvCount := 0, instBytes := 0, dataBytes := 0, runtimeSections := 0,
      initSections := 0, wowlanSections := 0, secureSections := 0, loadBytes := 0, loadChunks := 0,
      largestSection := 0, apiCount := 0, capaCount := 0, parseErrors := 0, cpuCount := 0, firstDst := 0,
      loadPlanReady := false, sections := [] }

/-- One more parse error. -/
def WifiFirmware.failed (fw : WifiFirmware) : WifiFirmware := { fw with parseErrors := fw.parseErrors + 1 }

/-- `wifi_read_le32`. -/
def wifiReadLe32 (p : List UInt8) (off : Nat) : UInt32 :=
  (p.getD off 0).toUInt32 ||| ((p.getD (off + 1) 0).toUInt32 <<< 8) |||
    ((p.getD (off + 2) 0).toUInt32 <<< 16) ||| ((p.getD (off + 3) 0).toUInt32 <<< 24)

/-- `IWLAGN_RTC_INST_LOWER_BOUND`. -/
def iwlagnRtcInstLowerBound : UInt32 := 0

/-- `IWLAGN_RTC_DATA_LOWER_BOUND`. -/
def iwlagnRtcDataLowerBound : UInt32 := 0x00800000

/-- `wifi_fw_section_kind`: the image, where it goes unless the section says it itself,
whether it does (`secure`) and whether it is data. -/
def wifiFwSectionKind (type : UInt32) : Option (WifiFwImage × UInt32 × Bool × Bool) :=
  if type = 1 then some (.runtime, iwlagnRtcInstLowerBound, false, false)
  else if type = 2 then some (.runtime, iwlagnRtcDataLowerBound, false, true)
  else if type = 3 then some (.init, iwlagnRtcInstLowerBound, false, false)
  else if type = 4 then some (.init, iwlagnRtcDataLowerBound, false, true)
  else if type = 16 then some (.wowlan, iwlagnRtcInstLowerBound, false, false)
  else if type = 17 then some (.wowlan, iwlagnRtcDataLowerBound, false, true)
  else if type = 19 ∨ type = 24 then some (.runtime, 0, true, false)
  else if type = 20 ∨ type = 25 then some (.init, 0, true, false)
  else if type = 21 ∨ type = 26 then some (.wowlan, 0, true, false)
  else none

/-- `wifi_count_fw_image`. -/
def wifiCountFwImage (fw : WifiFirmware) : WifiFwImage → WifiFirmware
  | .runtime => { fw with runtimeSections := fw.runtimeSections + 1 }
  | .init => { fw with initSections := fw.initSections + 1 }
  | .wowlan => { fw with wowlanSections := fw.wowlanSections + 1 }
  | .boot => fw

/-- `WIFI_FW_MAX_SECTIONS`. -/
def wifiFwMaxSections : Nat := 96

/-- `WIFI_DMA_CHUNK_BYTES`. -/
def wifiDmaChunkBytes : Nat := 128 * 1024

/-- The DMA chunks of a section; the sum is a `uint32_t`. -/
def wifiFwChunks (len : Nat) : Nat := (len + wifiDmaChunkBytes - 1) % 2 ^ 32 / wifiDmaChunkBytes

/-- The end of `wifi_record_fw_section`: a section that is not empty is kept and counted. -/
def wifiKeepFwSection (fw : WifiFirmware) (sec : WifiFwSection) (isData : Bool) : WifiFirmware :=
  let len := sec.data.length
  if len = 0 then fw
  else if fw.sections.length ≥ wifiFwMaxSections then fw.failed
  else
    let fw := wifiCountFwImage { fw with sections := fw.sections ++ [sec] } sec.image
    { fw with
      loadBytes := fw.loadBytes + len
      loadChunks := fw.loadChunks + wifiFwChunks len
      largestSection := max fw.largestSection len
      firstDst := if fw.sections.length = 1 then sec.dst else fw.firstDst
      instBytes := if sec.secure || !isData then fw.instBytes + len else fw.instBytes
      dataBytes := if sec.secure || !isData then fw.dataBytes else fw.dataBytes + len }

/-- `wifi_record_fw_section`. -/
def wifiRecordFwSection (fw : WifiFirmware) (type : UInt32) (data : List UInt8) : WifiFirmware :=
  match wifiFwSectionKind type with
  | none => fw
  | some (image, dst, false, isData) =>
      wifiKeepFwSection fw { tlvType := type, image, dst, data, secure := false } isData
  | some (image, _, true, isData) =>
      if data.length < 4 then fw.failed
      else
        wifiKeepFwSection { fw with secureSections := fw.secureSections + 1 }
          { tlvType := type, image, dst := wifiReadLe32 data 0, data := data.drop 4, secure := true } isData

/-- `wifi_record_fw_tlv`. -/
def wifiRecordFwTlv (fw : WifiFirmware) (type : UInt32) (data : List UInt8) : WifiFirmware :=
  let fw :=
    if type = 29 then { fw with apiCount := fw.apiCount + 1 }
    else if type = 30 then { fw with capaCount := fw.capaCount + 1 }
    else if type = 27 ∧ data.length ≥ 4 then { fw with cpuCount := wifiReadLe32 data 0 }
    else fw
  wifiRecordFwSection fw type data

/-- `wifi_align4`. -/
def wifiAlign4 (value : Nat) : Nat := (value + 3) / 4 * 4

/-- The loop of `wifi_parse_firmware_blob` over what is left of the blob.  A round takes at
least the eight bytes of a header, so the length of the rest is fuel enough. -/
def wifiParseTlvs : Nat → WifiFirmware → List UInt8 → WifiFirmware
  | 0, fw, _ => fw
  | fuel + 1, fw, rest =>
      if rest.length < 8 then if rest = [] then fw else fw.failed
      else
        let type := wifiReadLe32 rest 0
        let len := (wifiReadLe32 rest 4).toNat
        let data := rest.drop 8
        -- the error of the TLV, and that of the bytes behind its header
        if len > data.length then if data = [] then fw.failed else fw.failed.failed
        else
          let fw := wifiRecordFwTlv { fw with tlvCount := fw.tlvCount + 1 } type (data.take len)
          if wifiAlign4 len > data.length then if data = [] then fw.failed else fw.failed.failed
          else wifiParseTlvs fuel fw (data.drop (wifiAlign4 len))

/-- `wifi_is_printable_ascii`. -/
def wifiIsPrintableAscii (c : UInt8) : Bool := 32 ≤ c && c ≤ 126

/-- `firmware_human`: the text of the header without what follows its end, with trailing
blanks removed. -/
def wifiFwHuman (bytes : List UInt8) : List UInt8 :=
  let text := (((bytes.drop 8).take 64).takeWhile (· ≠ 0)).map fun c => if wifiIsPrintableAscii c then c else 0
  let text := (text.reverse.dropWhile fun c => c = 0x20 || c = 0).reverse
  text ++ List.replicate (64 - text.length) 0

/-- `IWL_TLV_HEADER_SIZE`. -/
def iwlTlvHeaderSize : Nat := 88

/-- `IWL_TLV_UCODE_MAGIC`. -/
def iwlTlvUcodeMagic : UInt32 := 0x0a4c5749

/-- `wifi_parse_firmware_blob` behind its reset. -/
def WifiFirmware.parsed (fw : WifiFirmware) (bytes : List UInt8) : WifiFirmware :=
  if bytes.length < iwlTlvHeaderSize then fw.failed
  else if wifiReadLe32 bytes 0 ≠ 0 ∨ wifiReadLe32 bytes 4 ≠ iwlTlvUcodeMagic then fw.failed
  else
    let rest := bytes.drop iwlTlvHeaderSize
    let fw := wifiParseTlvs (rest.length + 1)
      { fw with human := wifiFwHuman bytes, version := wifiReadLe32 bytes 72, build := wifiReadLe32 bytes 76 } rest
    let valid := fw.tlvCount > 0 && fw.parseErrors = 0
    { fw with
      valid
      loadPlanReady := valid && fw.sections.length > 0 && fw.loadBytes > 0 }

/-! ## The driver with its firmware -/

/-- What `wifi_connect` writes beside the link: the other `connect_` fields and the
frames.  A `connect_ap_index` of all ones is `none`. -/
structure WifiPlan where
  failed : Bool
  apIndex : Option Nat
  channel : UInt8
  ssid : List UInt8
  passwordLen : Nat
  pmkIterations : Nat
  pmkChecksum : UInt32
  authFc : UInt16
  authFrame : List UInt8
  assocFc : UInt16
  assocFrame : List UInt8
  frameChecksum : UInt32
  deriving DecidableEq

/-- The fields as `wifi_connect_clear_plan` leaves them. -/
def WifiPlan.cleared : WifiPlan where
  failed := false
  apIndex := none
  channel := 0
  ssid := []
  passwordLen := 0
  pmkIterations := 0
  pmkChecksum := 0
  authFc := 0
  authFrame := []
  assocFc := 0
  assocFrame := []
  frameChecksum := 0

/-- The driver with its firmware and the plan. -/
structure WifiRadio where
  driver : WifiDriver
  firmware : WifiFirmware
  bootReady : Bool
  aliveSeen : Bool
  plan : WifiPlan

/-- `wifi_reset_firmware_parse`. -/
def WifiRadio.reset (r : WifiRadio) : WifiRadio where
  driver := wifiResetFirmwareParse r.driver
  firmware := r.firmware.unparsed
  bootReady := false
  aliveSeen := false
  plan := WifiPlan.cleared

/-- `wifi_parse_firmware_blob`. -/
def wifiParseFirmwareBlob (r : WifiRadio) (bytes : List UInt8) : WifiRadio :=
  { r.reset with firmware := r.reset.firmware.parsed bytes }

/-! ## The sources -/

/-- A module the boot loader has loaded; `bytes` is empty if its address is `NULL`. -/
structure BootModule where
  path : Option CStr
  cmdline : Option CStr
  bytes : List UInt8

/-- A wireless controller `pci_scan_class` reports. -/
structure PciWireless where
  vendorId : UInt16
  deviceId : UInt16

/-- Where the driver looks: the PCI bus, the boot modules, the image in the kernel and
the tree. -/
structure WifiSources (H : Type) where
  controllers : List PciWireless
  modules : List BootModule
  embedded : List UInt8
  vfs : Vfs H

/-- `strstr(s, needle)` for strings that may be `NULL`. -/
def strHas (s : Option CStr) (needle : CStr) : Bool := s.any fun s => decide (needle <:+: s)

/-- `boot_find_module`. -/
def bootFindModule (modules : List BootModule) (needle : CStr) : Option BootModule :=
  if needle = [] then none
  else modules.find? fun file => file.bytes ≠ [] && (strHas file.path needle || strHas file.cmdline needle)

/-- `intel_fw_candidates`. -/
def intelFwCandidates : List CStr :=
  [cstr "iwlwifi-so-a0-hr-b0-89.ucode", cstr "iwlwifi-so-a0-hr-b0-86.ucode",
    cstr "iwlwifi-so-a0-hr-b0-83.ucode", cstr "iwlwifi-so-a0-hr-b0-77.ucode",
    cstr "iwlwifi-so-a0-hr-b0-74.ucode", cstr "iwlwifi-so-a0-gf-a0-89.ucode",
    cstr "iwlwifi-so-a0-gf-a0-86.ucode", cstr "iwlwifi-so-a0-gf-a0-83.ucode",
    cstr "iwlwifi-QuZ-a0-hr-b0-77.ucode", cstr "iwlwifi-QuZ-a0-hr-b0-74.ucode",
    cstr "iwlwifi-cc-a0-77.ucode", cstr "iwlwifi-cc-a0-72.ucode"]

/-- `name_has_ucode_suffix`. -/
def nameHasUcodeSuffix (name : CStr) : Bool := name.length > 6 && decide (cstr ".ucode" <:+ name)

/-- `firmware_name_is_candidate`. -/
def firmwareNameIsCandidate (name : CStr) : Bool :=
  name ≠ [] && (intelFwCandidates.contains name || (strHas (some name) (cstr "iwlwifi-") && nameHasUcodeSuffix name))

/-- An image was found: its fields before it is read. -/
def WifiRadio.found (r : WifiRadio) (name source : CStr) (size : Nat) (blob : Option (List UInt8)) :
    WifiRadio :=
  { r with firmware := { r.firmware with present := true, size, name, source, blob } }

/-- `wifi_find_firmware_module`. -/
def wifiFindFirmwareModule (modules : List BootModule) (r : WifiRadio) : Bool × WifiRadio :=
  match intelFwCandidates.findSome? fun name => (bootFindModule modules name).map (name, ·) with
  | some (name, file) =>
      let path := file.path.getD []
      (true, wifiParseFirmwareBlob
        (r.found name (if path = [] then cstr "boot module" else path) file.bytes.length (some file.bytes)) file.bytes)
  | none =>
      match bootFindModule modules (cstr "iwlwifi-") with
      | some file =>
          let path := file.path.getD []
          if nameHasUcodeSuffix path then
            (true, wifiParseFirmwareBlob (r.found path (cstr "boot module") file.bytes.length (some file.bytes))
              file.bytes)
          else (false, r)
      | none => (false, r)

/-- `wifi_find_firmware_embedded`. -/
def wifiFindFirmwareEmbedded (embedded : List UInt8) (r : WifiRadio) : Bool × WifiRadio :=
  if embedded.length < iwlTlvHeaderSize then (false, r)
  else
    let r := wifiParseFirmwareBlob
      (r.found (cstr "iwlwifi-so-a0-hr-b0-89.ucode") (cstr "kernel embedded") embedded.length (some embedded)) embedded
    (r.firmware.valid, r)

section Tree

variable {H : Type} [Allocator H]

/-- `wifi_find_firmware_vfs_dir`. -/
def wifiFindFirmwareVfsDir (v : Vfs H) (dir : CStr) (r : WifiRadio) : Bool × WifiRadio :=
  match vfsReaddir v dir 24 with
  | .error _ => (false, r)
  | .ok entries =>
      let sized := fun entry : Dirent =>
        if entry.type ≠ .file || !firmwareNameIsCandidate entry.name.val then none
        else
          match vfsStat (vfsInit v) ((dir ++ slash :: entry.name.val).take (maxPath - 1)) with
          | .ok (size, .file) => if size > 0 then some (entry.name.val, size) else none
          | _ => none
      match entries.findSome? sized with
      | some (name, size) => (true, (r.found name dir size none).reset)
      | none => (false, r)

/-- `wifi_find_firmware`. -/
def wifiFindFirmware (env : WifiSources H) (r : WifiRadio) : Bool × WifiRadio :=
  let lost := { r.firmware with
    present := false, valid := false, size := 0, name := cstr "none", source := cstr "none", blob := none }
  let r := WifiRadio.reset { r with firmware := lost }
  match wifiFindFirmwareModule env.modules r with
  | (true, r) => (true, r)
  | (false, r) =>
      match wifiFindFirmwareEmbedded env.embedded r with
      | (true, r) => (true, r)
      | (false, r) =>
          match wifiFindFirmwareVfsDir env.vfs (cstr "/system/firmware") r with
          | (true, r) => (true, r)
          | (false, r) => wifiFindFirmwareVfsDir env.vfs (cstr "/packages/firmware") r

/-- `wifi_init`. -/
def wifiInit (env : WifiSources H) (r : WifiRadio) : WifiRadio :=
  let s := r.driver.wifi
  if s.present || s.driverReady then r
  else
    match (env.controllers.take 8).find? fun dev => dev.vendorId = 0x8086 with
    | some dev =>
        (wifiFindFirmware env { r with driver := { r.driver with wifi := { s with
          present := true, vendorId := dev.vendorId, deviceId := dev.deviceId
          driverReady := false, associated := false } } }).2
    | none =>
        match env.controllers.head? with
        | none => r
        | some dev => { r with driver := { r.driver with wifi := { s with
            present := true, vendorId := dev.vendorId, deviceId := dev.deviceId } } }

/-! ## What the search leaves -/

/-- The driver is down: what a reset leaves of the fields that `wifi_connect` looks at. -/
structure WifiRadio.Down (r : WifiRadio) : Prop where
  bootReady : r.bootReady = false
  contextArmed : r.driver.cmd.contextArmed = false
  pathReady : r.driver.rx.pathReady = false
  aps : r.driver.wifi.scan.aps = []
  connectReady : r.driver.wifi.connect.ready = false

variable {r : WifiRadio}

theorem WifiRadio.down_reset (r : WifiRadio) : r.reset.Down := by
  constructor <;> simp [WifiRadio.reset, wifiResetFirmwareParse, wifiConnectClearPlan, WifiCmd.cleared,
    WifiRx.cleared, WifiConnect.cleared, wifiBoot]

@[simp] theorem WifiRadio.present_reset (r : WifiRadio) :
    r.reset.driver.wifi.present = r.driver.wifi.present := by
  simp only [WifiRadio.reset, wifiResetFirmwareParse, wifiConnectClearPlan]
  split <;> rfl

theorem WifiRadio.Down.withFirmware (h : r.Down) (fw : WifiFirmware) :
    WifiRadio.Down { r with firmware := fw } :=
  ⟨h.bootReady, h.contextArmed, h.pathReady, h.aps, h.connectReady⟩

/-- A source leaves the driver down, and the controller there. -/
structure WifiRadio.Searched (r t : WifiRadio) : Prop where
  down : r.Down → t.Down
  present : t.driver.wifi.present = r.driver.wifi.present

theorem searched_refl (r : WifiRadio) : r.Searched r := ⟨id, rfl⟩

theorem searched_parse (r : WifiRadio) (name source : CStr) (size : Nat) (blob : Option (List UInt8))
    (bytes : List UInt8) : r.Searched (wifiParseFirmwareBlob (r.found name source size blob) bytes) where
  down := fun _ => (WifiRadio.down_reset _).withFirmware _
  present := WifiRadio.present_reset _

theorem searched_findFirmwareModule (modules : List BootModule) (r : WifiRadio) :
    r.Searched (wifiFindFirmwareModule modules r).2 := by
  unfold wifiFindFirmwareModule
  split
  · exact searched_parse ..
  · split
    · dsimp only
      split
      · exact searched_parse ..
      · exact searched_refl r
    · exact searched_refl r

theorem searched_findFirmwareEmbedded (embedded : List UInt8) (r : WifiRadio) :
    r.Searched (wifiFindFirmwareEmbedded embedded r).2 := by
  unfold wifiFindFirmwareEmbedded
  split
  · exact searched_refl r
  · exact searched_parse ..

theorem searched_findFirmwareVfsDir (v : Vfs H) (dir : CStr) (r : WifiRadio) :
    r.Searched (wifiFindFirmwareVfsDir v dir r).2 := by
  unfold wifiFindFirmwareVfsDir
  split
  · exact searched_refl r
  · dsimp only
    split
    · exact ⟨fun _ => WifiRadio.down_reset _, WifiRadio.present_reset _⟩
    · exact searched_refl r

theorem WifiRadio.Searched.trans {t u : WifiRadio} (h : r.Searched t) (h' : t.Searched u) : r.Searched u :=
  ⟨fun hr => h'.down (h.down hr), h'.present.trans h.present⟩

/-- Wherever the firmware is found, and whether or not, the driver is down afterwards. -/
theorem down_findFirmware (env : WifiSources H) (r : WifiRadio) :
    (wifiFindFirmware env r).2.Down ∧
      (wifiFindFirmware env r).2.driver.wifi.present = r.driver.wifi.present := by
  unfold wifiFindFirmware
  dsimp only
  generalize hlost : WifiRadio.mk r.driver _ r.bootReady r.aliveSeen r.plan = lost
  have hdown := lost.down_reset
  have hpresent : lost.reset.driver.wifi.present = r.driver.wifi.present := by
    rw [← hlost]
    exact WifiRadio.present_reset _
  have hmodule := searched_findFirmwareModule env.modules lost.reset
  split
  next heq =>
    rw [heq] at hmodule
    exact ⟨hmodule.down hdown, hmodule.present.trans hpresent⟩
  next module heq =>
  rw [heq] at hmodule
  have hembedded := hmodule.trans (searched_findFirmwareEmbedded env.embedded module)
  split
  next heq =>
    rw [heq] at hembedded
    exact ⟨hembedded.down hdown, hembedded.present.trans hpresent⟩
  next embedded heq =>
  rw [heq] at hembedded
  have hsystem := hembedded.trans (searched_findFirmwareVfsDir env.vfs (cstr "/system/firmware") embedded)
  split
  next heq =>
    rw [heq] at hsystem
    exact ⟨hsystem.down hdown, hsystem.present.trans hpresent⟩
  next system heq =>
    rw [heq] at hsystem
    have hpackages := hsystem.trans (searched_findFirmwareVfsDir env.vfs (cstr "/packages/firmware") system)
    exact ⟨hpackages.down hdown, hpackages.present.trans hpresent⟩

end Tree

end Orizon
