import Orizon.Terminal.Stages

/-!
# Orizon.Terminal.Installer

The guided installer of `gui/terminal.c`: its eight steps, and when it calls
`orizon_install_run`.

What the drivers answer is `InstallEnv`, and may differ from line to line.  What a line does
besides changing the wizard is the list of its effects.
-/

namespace Orizon

/-! ## The wizard -/

/-- `storage_device_info_t`, the part that is captured. -/
structure InstallDevice where
  name : CBuf 24
  driver : CBuf 16
  model : CBuf 64
  sectors : Nat

/-- `orizon_install_partition_info_t`. -/
structure InstallPartition where
  usableForData : Bool
  firstLba : Nat
  lastLba : Nat
  sectors : Nat
  type : CBuf 32
  name : CBuf 64

/-- `install_disk_mode`. -/
inductive InstallMode
  | unset
  | manualLater
  | dualBootData
  | dualBootEsp
  | guidedFullDisk
  deriving DecidableEq

/-- Its text. -/
def InstallMode.text : InstallMode → CStr
  | .unset => []
  | .manualLater => cstr "manual-later"
  | .dualBootData => cstr "dual-boot-data"
  | .dualBootEsp => cstr "dual-boot-esp"
  | .guidedFullDisk => cstr "guided-full-disk"

/-- The installer's part of a `terminal_t`. -/
structure TermInstall where
  installMode : Bool
  installStep : Nat
  language : CStr
  keyboard : CStr
  diskMode : InstallMode
  diskIndex : Int
  diskName : CStr
  diskSummary : CStr
  dataPartitionIndex : Int
  dataPartitionName : CStr
  dataPartitionSummary : CStr
  hostname : CStr
  desktop : CStr

/-- `orizon_install_config_t`. -/
structure InstallConfig where
  language : CStr
  keyboard : CStr
  diskMode : InstallMode
  hostname : CStr
  desktopProfile : CStr
  diskIndex : Int
  diskName : CStr
  dataPartitionIndex : Int
  deriving DecidableEq

/-- What the storage, the file system and the installer answer while a line is handled. -/
structure InstallEnv where
  storageSelectDevice : Int → Bool
  storageGetDevice : Int → Option InstallDevice
  getPartition : Int → Option InstallPartition
  formatSize : Nat → CStr
  storageStatus : Option CStr
  formatPlan : InstallConfig → CStr
  writeTextFile : CStr → CStr → Bool
  desktopStatus : CStr
  run : InstallConfig → Bool × CStr

/-- What a line does besides changing the wizard. -/
inductive InstallEffect
  | setKeyboardLayout (layout : CStr)
  | mkdir (path : CStr)
  | write (path text : CStr)
  | desktopSetEnabled (enabled : Bool)
  | persistSave
  | run (config : InstallConfig)
  | persistEnableInstalled
  | klogPersistBoot
  | scheduleShutdown
  deriving DecidableEq

/-- What is printed for a line. -/
inductive InstallReply
  | asked
  | refused (text : String)
  | stopped
  | stagingFailed
  | planSaved
  | dualBootReady
  | installed
  | failed

/-- `snprintf` of texts one behind the other, to a buffer of `size` bytes. -/
def snprintfTexts (size : Nat) (texts : List CStr) : CStr := texts.flatten.take (size - 1)

/-- `%d`. -/
def cstrInt (n : Int) : CStr := cstr (toString n)

/-- `term_parse_uint`. -/
def termParseUint (s : CStr) : Option Int := if termDigits s ≤ 0 then none else some (termDigits s)

/-- `term_install_value_is`. -/
def termInstallValueIs (value : CStr) (texts : List String) : Bool := texts.any fun text => value = cstr text

/-- `ORIZON_DESKTOP_PROFILE`. -/
def orizonDesktopProfile : CStr := cstr "hyprland-inspired"

/-- `ORIZON_DESKTOP_PACKAGE`. -/
def orizonDesktopPackage : CStr := cstr "orizon-desktop-hypr"

/-- `term_install_capture_disk`; `none` is -1. -/
def termInstallCaptureDisk (env : InstallEnv) (choice : Int) (t : TermInstall) : Option TermInstall :=
  if env.storageSelectDevice choice then
    (env.storageGetDevice choice).map fun info =>
      { t with
        diskIndex := choice
        diskName := info.name.val
        diskSummary := snprintfTexts 128 [info.name.val, cstr " ", info.driver.val, cstr " ",
          env.formatSize info.sectors, cstr " ", info.model.val]
        diskMode := .dualBootData
        dataPartitionIndex := -1
        dataPartitionName := []
        dataPartitionSummary := [] }
  else none

/-- `"part%d"`. -/
def installPartitionName (choice : Int) : CStr := snprintfTexts 24 [cstr "part", cstrInt choice]

/-- `term_install_capture_data_partition`; `none` is -1. -/
def termInstallCaptureDataPartition (env : InstallEnv) (choice : Int) (t : TermInstall) :
    Option TermInstall :=
  match env.getPartition choice with
  | none => none
  | some part =>
      if part.usableForData then
        some { t with
          dataPartitionIndex := choice
          dataPartitionName := installPartitionName choice
          dataPartitionSummary := snprintfTexts 128 [cstr "part", cstrInt choice, cstr " ",
            env.formatSize part.sectors, cstr " ", part.type.val, cstr " ", part.name.val, cstr " LBA ",
            cstrInt part.firstLba, cstr "..", cstrInt part.lastLba] }
      else none

/-- `term_install_finish`. -/
def termInstallFinish (t : TermInstall) : TermInstall := { t with installMode := false, installStep := 0 }

/-- `term_start_installer`, unless Orizon OS is installed already. -/
def termStartInstaller (t : TermInstall) : TermInstall :=
  { t with
    installMode := true
    installStep := 0
    language := []
    keyboard := []
    diskMode := .unset
    diskIndex := -1
    diskName := []
    diskSummary := []
    dataPartitionIndex := -1
    dataPartitionName := []
    dataPartitionSummary := []
    hostname := cstr "orizon-os"
    desktop := cstr "none" }

/-! ## The plan -/

/-- The configuration of `term_install_write_plan`. -/
def TermInstall.config (t : TermInstall) : InstallConfig where
  language := t.language
  keyboard := t.keyboard
  diskMode := t.diskMode
  hostname := t.hostname
  desktopProfile := t.desktop
  diskIndex := t.diskIndex
  diskName := t.diskName
  dataPartitionIndex := t.dataPartitionIndex

/-- `"none"` for an empty text. -/
def orNone (s : CStr) : CStr := if s = [] then cstr "none" else s

/-- The `boot-strategy` of a plan. -/
def InstallMode.bootStrategy : InstallMode → CStr
  | .dualBootData => cstr "side-by-side-existing-esp-plus-orizon-data"
  | .dualBootEsp => cstr "side-by-side-existing-esp"
  | _ => cstr "uefi-fallback-esp"

/-- The `write-mode` of a plan. -/
def InstallMode.writeMode : InstallMode → CStr
  | .manualLater => cstr "plan-only-no-disk-write"
  | .dualBootData => cstr "existing-esp-selected-partition-reused"
  | .dualBootEsp => cstr "non-destructive-existing-esp"
  | _ => cstr "destructive-full-disk"

/-- `plan`. -/
def installPlan (env : InstallEnv) (t : TermInstall) : CStr :=
  snprintfTexts 2048 [
    cstr "installer-version 1\nos Orizon OS\nsource live-iso\n",
    cstr "preflight-report /workspace/.orizon/install-report.txt\n",
    cstr "language ", t.language,
    cstr "\nkeyboard ", t.keyboard,
    cstr "\nhostname ", t.hostname,
    cstr "\ndesktop ", t.desktop,
    cstr "\ndesktop-package ", orizonDesktopPackage,
    cstr "\ndisk-mode ", t.diskMode.text,
    cstr "\ndisk-index ", cstrInt t.diskIndex,
    cstr "\ndisk-name ", orNone t.diskName,
    cstr "\ndisk-summary ", orNone t.diskSummary,
    cstr "\ndata-partition-index ", cstrInt t.dataPartitionIndex,
    cstr "\ndata-partition-name ", orNone t.dataPartitionName,
    cstr "\ndata-partition-summary ", orNone t.dataPartitionSummary,
    cstr "\ndisk-status ", env.storageStatus.getD (cstr "unavailable"),
    cstr "\nboot-strategy ", t.diskMode.bootStrategy,
    cstr "\nwrite-mode ", t.diskMode.writeMode,
    cstr "\nnext reboot-installed-disk\n"]

/-- `state`. -/
def installState (t : TermInstall) : CStr :=
  snprintfTexts 256 [cstr "install configured: language=", t.language, cstr " keyboard=", t.keyboard,
    cstr " disk=", t.diskMode.text, cstr " hostname=", t.hostname, cstr " desktop=", t.desktop, cstr "\n"]

/-- `marker`. -/
def installMarker (t : TermInstall) : CStr :=
  snprintfTexts 256 [cstr "Orizon OS installed\nlanguage=", t.language, cstr "\nkeyboard=", t.keyboard,
    cstr "\nhostname=", t.hostname, cstr "\ndesktop=", t.desktop, cstr "\nmode=", t.diskMode.text,
    cstr "\ndata-partition=", orNone t.dataPartitionName, cstr "\nnext=shutdown-remove-installer\n"]

/-- The directories that are made first. -/
def installDirs : List CStr :=
  [cstr "/workspace", cstr "/workspace/.orizon", cstr "/system", cstr "/home", cstr "/home/orizon",
    cstr "/packages", cstr "/logs"]

/-- The files that have to be written, in order. -/
def installStaging (env : InstallEnv) (t : TermInstall) : List (CStr × CStr) :=
  [(cstr "/workspace/.orizon/install-plan", installPlan env t),
    (cstr "/workspace/.orizon/install-state", installState t),
    (cstr "/workspace/.orizon/install-report.txt", env.formatPlan t.config),
    (cstr "/workspace/.orizon/keyboard", t.keyboard),
    (cstr "/system/install-state", installState t),
    (cstr "/system/hostname", t.hostname),
    (cstr "/system/locale", t.language),
    (cstr "/system/keyboard", t.keyboard)]

/-- Writes up to the first that fails, and whether none did. -/
def writeStaging (env : InstallEnv) : List (CStr × CStr) → Bool × List InstallEffect
  | [] => (true, [])
  | (path, text) :: files =>
      if env.writeTextFile path text then
        let (ok, effects) := writeStaging env files
        (ok, .write path text :: effects)
      else (false, [.write path text])

/-- The writes behind the staging files whose outcome is not looked at. -/
def installDefaults (env : InstallEnv) (t : TermInstall) : List InstallEffect :=
  [.write (cstr "/system/data-layout") (cstr "version 1\nroots /system /home /packages /logs /workspace\n"),
    .write (cstr "/home/orizon/README.txt") (cstr "Home directory for Orizon OS user files.\n"),
    .write (cstr "/packages/README.txt") (cstr "Local package cache and installed package metadata.\n")] ++
  if t.diskMode = .manualLater then [.write (cstr "/workspace/.orizon/desktop-profile") t.desktop]
  else if t.desktop = orizonDesktopProfile then
    [.desktopSetEnabled true, .write (cstr "/workspace/.orizon/desktop-profile") t.desktop,
      .write (cstr "/workspace/.orizon/desktop-state") env.desktopStatus]
  else [.desktopSetEnabled false, .write (cstr "/workspace/.orizon/desktop-profile") (cstr "none\n")]

/-- The effects behind an `orizon_install_run` that succeeded. -/
def installFinished (t : TermInstall) (report : CStr) : List InstallEffect :=
  .write (cstr "/workspace/.orizon/install-log") report ::
  if t.diskMode = .dualBootEsp then
    [.write (cstr "/workspace/.orizon/dualboot-prepared") (cstr
        "dual boot ESP prepared\nboot-file /EFI/Orizon/BOOTX64.EFI\ndata not-installed\ndesktop see-install-plan\n"),
      .write (cstr "/workspace/.orizon/install-state") (cstr "dual boot ESP prepared\n")]
  else
    [.persistEnableInstalled,
      .write (cstr "/workspace/.orizon/installed") (installMarker t),
      .write (cstr "/workspace/.orizon/install-state")
        (cstr "install complete\nnext shutdown-remove-installer\n"),
      .write (cstr "/workspace/.orizon/keyboard") t.keyboard,
      .write (cstr "/system/hostname") t.hostname,
      .write (cstr "/system/install-state") (cstr "install complete\n"),
      .write (cstr "/system/installed") (cstr "1\n"),
      .klogPersistBoot, .persistSave, .scheduleShutdown]

/-- `term_install_write_plan`. -/
def termInstallWritePlan (env : InstallEnv) (t : TermInstall) :
    TermInstall × InstallReply × List InstallEffect :=
  let dirs := installDirs.map InstallEffect.mkdir
  let (staged, files) := writeStaging env (installStaging env t)
  if ¬ staged then (termInstallFinish t, .stagingFailed, dirs ++ files)
  else
    let effects := dirs ++ files ++ installDefaults env t
    if t.diskMode = .manualLater then (termInstallFinish t, .planSaved, effects ++ [.persistSave])
    else
      let effects := if t.diskMode = .guidedFullDisk then effects ++ [.persistSave] else effects
      match env.run t.config with
      | (false, _) => (termInstallFinish t, .failed, effects ++ [.run t.config])
      | (true, report) =>
          (termInstallFinish t, if t.diskMode = .dualBootEsp then .dualBootReady else .installed,
            effects ++ .run t.config :: installFinished t report)

/-! ## Lines -/

/-- The choices of step 2 that write no disk. -/
def isManualChoice (value : CStr) : Bool := termInstallValueIs value ["m", "manual", "later", "manual-later"]

/-- The choices of step 3. -/
def installModeChoice (value : CStr) : Option InstallMode :=
  if value = [] ∨ termInstallValueIs value ["1", "dual", "dualboot", "dual-boot-data", "data"] then
    some .dualBootData
  else if termInstallValueIs value ["2", "esp", "boot", "dual-boot-esp"] then some .dualBootEsp
  else if termInstallValueIs value ["3", "full", "erase", "guided-full-disk"] then some .guidedFullDisk
  else none

/-- The phrases that confirm a plan at step 7. -/
def installConfirmations (t : TermInstall) : List CStr :=
  match t.diskMode with
  | .manualLater => [cstr "SAVE", cstr "save"]
  | .dualBootData =>
      [snprintfTexts 96 [cstr "DUALDATA ", t.diskName, cstr " ", t.dataPartitionName],
        snprintfTexts 96 [cstr "dualdata ", t.diskName, cstr " ", t.dataPartitionName]]
  | .dualBootEsp =>
      [snprintfTexts 72 [cstr "DUALBOOT ", t.diskName], snprintfTexts 72 [cstr "dualboot ", t.diskName]]
  | .guidedFullDisk =>
      [snprintfTexts 64 [cstr "ERASE ", t.diskName], snprintfTexts 64 [cstr "erase ", t.diskName]]
  | .unset => []

/-- What is printed if none of them was typed. -/
def InstallMode.refusal : InstallMode → String
  | .dualBootData => "Confirmation refused. Type the exact DUALDATA command.\n"
  | .dualBootEsp => "Confirmation refused. Type the exact DUALBOOT command.\n"
  | .guidedFullDisk => "Confirmation refused. Type the exact ERASE command.\n"
  | .manualLater | .unset => "Confirmation refused.\n"

/-- The wizard goes on to `step`. -/
def TermInstall.goTo (t : TermInstall) (step : Nat) : TermInstall × InstallReply × List InstallEffect :=
  ({ t with installStep := step }, .asked, [])

/-- The wizard asks again. -/
def TermInstall.refuse (t : TermInstall) (text : String) : TermInstall × InstallReply × List InstallEffect :=
  (t, .refused text, [])

/-- `term_install_submit`. -/
def termInstallSubmit (env : InstallEnv) (t : TermInstall) (line : CStr) :
    TermInstall × InstallReply × List InstallEffect :=
  let value := termSkipSpaces line
  if termInstallValueIs value ["cancel", "quit", "q"] then (termInstallFinish t, .stopped, [])
  else
    match t.installStep with
    | 0 =>
        if termInstallValueIs value ["1", "fr", "francais", "&"] then
          { t with language := cstr "fr_FR" }.goTo 1
        else if termInstallValueIs value ["2", "en", "english", "e"] then
          { t with language := cstr "en_US" }.goTo 1
        else t.refuse "Choose 1 or 2.\n"
    | 1 =>
        if termInstallValueIs value ["1", "fr", "azerty", "&"] then
          ({ t with keyboard := cstr "fr-azerty", installStep := 2 }, .asked,
            [.setKeyboardLayout (cstr "fr-azerty")])
        else if termInstallValueIs value ["2", "us", "qwerty", "e"] then
          ({ t with keyboard := cstr "us-qwerty", installStep := 2 }, .asked,
            [.setKeyboardLayout (cstr "us-qwerty")])
        else t.refuse "Choose 1 or 2.\n"
    | 2 =>
        if isManualChoice value then
          { t with
            diskMode := .manualLater
            diskIndex := -1
            diskName := cstr "none"
            diskSummary := cstr "manual-later"
            dataPartitionIndex := -1
            dataPartitionName := []
            dataPartitionSummary := [] }.goTo 5
        else
          match (termParseUint value).bind fun choice => termInstallCaptureDisk env (choice - 1) t with
          | none => t.refuse "Choose a listed disk number, or m.\n"
          | some t => t.goTo 3
    | 3 =>
        match installModeChoice value with
        | some .dualBootData => { t with diskMode := .dualBootData }.goTo 4
        | some mode => { t with diskMode := mode }.goTo 5
        | none => t.refuse "Choose 1 for dual-data, 2 for ESP only, or 3 for full erase install.\n"
    | 4 =>
        if t.diskMode ≠ .dualBootData then t.goTo 5
        else
          match (termParseUint value).bind fun choice => termInstallCaptureDataPartition env choice t with
          | none => t.refuse "Choose a listed [data-candidate] partition prepared for Orizon.\n"
          | some t => t.goTo 5
    | 5 => { t with hostname := if value = [] then cstr "orizon-os" else value.take 63 }.goTo 6
    | 6 =>
        if value = [] ∨ termInstallValueIs value ["1", "no", "n", "non", "none", "console"] then
          { t with desktop := cstr "none" }.goTo 7
        else if termInstallValueIs value ["2", "yes", "y", "oui", "desktop", "hypr", "hyprland"] ∨
            value = orizonDesktopProfile then
          { t with desktop := orizonDesktopProfile }.goTo 7
        else t.refuse "Choose 1/no or 2/yes.\n"
    | 7 =>
        if value ∈ installConfirmations t then termInstallWritePlan env t
        else t.refuse t.diskMode.refusal
    | _ => (termInstallFinish t, .stopped, [])

/-! ## Sessions -/

/-- A line, and the state and the answers it met. -/
structure InstallLine where
  state : TermInstall
  env : InstallEnv
  line : CStr

/-- The line behind its leading spaces. -/
def InstallLine.value (x : InstallLine) : CStr := termSkipSpaces x.line

/-- The lines that a session submitted, and its state. -/
structure InstallRun where
  lines : List InstallLine
  state : TermInstall

/-- The effects and the reply of the next line; once the wizard is left it does not get
lines. -/
def InstallRun.submit (r : InstallRun) (env : InstallEnv) (line : CStr) :
    Option (InstallReply × List InstallEffect) :=
  if r.state.installMode then some (termInstallSubmit env r.state line).2 else none

/-- The session behind the next line. -/
def InstallRun.next (r : InstallRun) (x : InstallEnv × CStr) : InstallRun :=
  if r.state.installMode then ⟨r.lines ++ [⟨r.state, x.1, x.2⟩], (termInstallSubmit x.1 r.state x.2).1⟩
  else r

/-- A session. -/
def installRun (t : TermInstall) (lines : List (InstallEnv × CStr)) : InstallRun :=
  lines.foldl InstallRun.next ⟨[], termStartInstaller t⟩

/-- A line of step 2 that captures the disk. -/
def CapturesDisk (x : InstallLine) (index : Int) (name : CStr) : Prop :=
  x.state.installStep = 2 ∧ ∃ choice info, termParseUint x.value = some choice ∧ index = choice - 1 ∧
    x.env.storageSelectDevice index = true ∧ x.env.storageGetDevice index = some info ∧ name = info.name.val

/-- A line of step 3 that chooses the mode. -/
def ChoosesMode (x : InstallLine) (mode : InstallMode) : Prop :=
  x.state.installStep = 3 ∧ installModeChoice x.value = some mode

/-- A line of step 4 that captures the partition. -/
def CapturesPartition (x : InstallLine) (index : Int) : Prop :=
  x.state.installStep = 4 ∧ termParseUint x.value = some index ∧
    ∃ part, x.env.getPartition index = some part ∧ part.usableForData = true

/-- The disk and then the mode of a configuration were chosen by lines of the session. -/
def ChoseMode (lines : List InstallLine) (c : InstallConfig) : Prop :=
  ∃ d m, [d, m].Sublist lines ∧ CapturesDisk d c.diskIndex c.diskName ∧ ChoosesMode m c.diskMode

/-- And the partition after them. -/
def ChosePartition (lines : List InstallLine) (c : InstallConfig) : Prop :=
  ∃ d m p, [d, m, p].Sublist lines ∧ CapturesDisk d c.diskIndex c.diskName ∧ ChoosesMode m c.diskMode ∧
    CapturesPartition p c.dataPartitionIndex

/-- The line is the confirmation of the mode with the names that were captured, and the
configuration is that of lines of the session. -/
def InstallConfirmed (lines : List InstallLine) (value : CStr) (c : InstallConfig) : Prop :=
  match c.diskMode with
  | .guidedFullDisk =>
      value ∈ [cstr "ERASE " ++ c.diskName, cstr "erase " ++ c.diskName] ∧ ChoseMode lines c ∧
        c.dataPartitionIndex = -1
  | .dualBootEsp =>
      value ∈ [cstr "DUALBOOT " ++ c.diskName, cstr "dualboot " ++ c.diskName] ∧ ChoseMode lines c ∧
        c.dataPartitionIndex = -1
  | .dualBootData =>
      value ∈ [cstr "DUALDATA " ++ c.diskName ++ cstr " " ++ installPartitionName c.dataPartitionIndex,
          cstr "dualdata " ++ c.diskName ++ cstr " " ++ installPartitionName c.dataPartitionIndex] ∧
        ChosePartition lines c
  | .manualLater | .unset => False

/-! ### The invariant -/

section Invariant

variable {lines : List InstallLine} {t : TermInstall} {env : InstallEnv} {line : CStr} {c : InstallConfig}

/-- From step 5 on the plan is complete. -/
inductive InstallReady (lines : List InstallLine) (t : TermInstall) : Prop
  | manual (h : t.diskMode = .manualLater)
  | disk (h : t.diskMode = .dualBootEsp ∨ t.diskMode = .guidedFullDisk) (hchose : ChoseMode lines t.config)
      (hnone : t.dataPartitionIndex = -1)
  | partition (h : t.diskMode = .dualBootData) (hchose : ChosePartition lines t.config)
      (hname : t.dataPartitionName = installPartitionName t.dataPartitionIndex)

/-- What was chosen when a step is reached. -/
structure InstallInv (lines : List InstallLine) (t : TermInstall) : Prop where
  disk : t.installStep = 3 →
    (∃ d, [d].Sublist lines ∧ CapturesDisk d t.diskIndex t.diskName) ∧ t.dataPartitionIndex = -1
  mode : t.installStep = 4 → t.diskMode = .dualBootData ∧ ChoseMode lines t.config
  ready : 5 ≤ t.installStep → InstallReady lines t

theorem installInv_early (h : t.installStep < 3) : InstallInv lines t :=
  ⟨fun h3 => by omega, fun h4 => by omega, fun h5 => by omega⟩

theorem InstallReady.mono (h : InstallReady lines t) (x : InstallLine) : InstallReady (lines ++ [x]) t := by
  cases h with
  | manual h => exact .manual h
  | disk h hchose hnone =>
      obtain ⟨d, m, hsub, hrest⟩ := hchose
      exact .disk h ⟨d, m, hsub.trans (List.sublist_append_left ..), hrest⟩ hnone
  | partition h hchose hname =>
      obtain ⟨d, m, p, hsub, hrest⟩ := hchose
      exact .partition h ⟨d, m, p, hsub.trans (List.sublist_append_left ..), hrest⟩ hname

theorem InstallInv.mono (h : InstallInv lines t) (x : InstallLine) : InstallInv (lines ++ [x]) t := by
  refine ⟨fun h3 => ?_, fun h4 => ⟨(h.mode h4).1, ?_⟩, fun h5 => (h.ready h5).mono x⟩
  · obtain ⟨⟨d, hsub, hdisk⟩, hnone⟩ := h.disk h3
    exact ⟨⟨d, hsub.trans (List.sublist_append_left ..), hdisk⟩, hnone⟩
  · obtain ⟨d, m, hsub, hrest⟩ := (h.mode h4).2
    exact ⟨d, m, hsub.trans (List.sublist_append_left ..), hrest⟩

/-- The host name, the desktop and the step are no part of what was chosen. -/
theorem InstallReady.kept (h : InstallReady lines t) (hostname desktop : CStr) (step : Nat) :
    InstallReady lines { t with hostname, desktop, installStep := step } := by
  cases h with
  | manual h => exact .manual h
  | disk h hchose hnone => exact .disk h hchose hnone
  | partition h hchose hname => exact .partition h hchose hname

/-- A step at which the plan is complete leads to another such step. -/
theorem installInv_ready (h : InstallReady lines t) (hstep : 5 ≤ t.installStep) : InstallInv lines t :=
  ⟨fun h3 => by omega, fun h4 => by omega, fun _ => h⟩

theorem termInstallWritePlan_state (env : InstallEnv) (t : TermInstall) :
    (termInstallWritePlan env t).1 = termInstallFinish t := by
  unfold termInstallWritePlan
  dsimp only
  split
  · rfl
  · split
    · rfl
    · generalize env.run t.config = r
      obtain ⟨ok, report⟩ := r
      cases ok <;> rfl

theorem termInstallSubmit_inv (h : InstallInv lines t) (env : InstallEnv) (line : CStr) :
    InstallInv (lines ++ [⟨t, env, line⟩]) (termInstallSubmit env t line).1 := by
  have hsame : InstallInv (lines ++ [⟨t, env, line⟩]) t := h.mono _
  unfold termInstallSubmit
  dsimp only
  split
  · exact installInv_early (by simp [termInstallFinish])
  split
  next hstep =>
    split
    · exact installInv_early (by simp [TermInstall.goTo])
    · split
      · exact installInv_early (by simp [TermInstall.goTo])
      · exact hsame
  next hstep =>
    split
    · exact installInv_early (by simp)
    · split
      · exact installInv_early (by simp)
      · exact hsame
  next hstep =>
    split
    · exact installInv_ready (.manual rfl) (Nat.le_refl 5)
    · split
      · exact hsame
      next t' hcapture =>
        obtain ⟨choice, hchoice, hdisk⟩ := Option.bind_eq_some_iff.mp hcapture
        unfold termInstallCaptureDisk at hdisk
        split at hdisk
        next hselect =>
          obtain ⟨info, hinfo, rfl⟩ := Option.map_eq_some_iff.mp hdisk
          have hcaptures : CapturesDisk ⟨t, env, line⟩ (choice - 1) info.name.val :=
            ⟨hstep, choice, info, hchoice, rfl, hselect, hinfo, rfl⟩
          exact ⟨fun _ => ⟨⟨_, List.sublist_append_right .., hcaptures⟩, rfl⟩,
            fun h4 => by simp [TermInstall.goTo] at h4, fun h5 => by simp [TermInstall.goTo] at h5⟩
        · cases hdisk
  next hstep =>
    obtain ⟨⟨d, hsub, hdisk⟩, hnone⟩ := h.disk hstep
    have hpair : [d, ⟨t, env, line⟩].Sublist (lines ++ [⟨t, env, line⟩]) :=
      hsub.append (List.Sublist.refl _)
    split
    next hmode =>
      exact ⟨fun h3 => by simp [TermInstall.goTo] at h3, fun _ => ⟨rfl, d, _, hpair, hdisk, hstep, hmode⟩,
        fun h5 => by simp [TermInstall.goTo] at h5⟩
    next mode hother hmode =>
      have hmodes : mode = .dualBootEsp ∨ mode = .guidedFullDisk := by
        unfold installModeChoice at hmode
        split at hmode
        · exact absurd (Option.some.inj hmode).symm hother
        · split at hmode
          · exact .inl (Option.some.inj hmode).symm
          · split at hmode
            · exact .inr (Option.some.inj hmode).symm
            · cases hmode
      exact installInv_ready (.disk hmodes ⟨d, _, hpair, hdisk, hstep, hmode⟩ hnone) (Nat.le_refl 5)
    · exact hsame
  next hstep =>
    obtain ⟨hmode, d, m, hsub, hdisk, hchose⟩ := h.mode hstep
    rw [if_neg (not_not.mpr hmode)]
    split
    · exact hsame
    next t' hcapture =>
      obtain ⟨choice, hchoice, hpart⟩ := Option.bind_eq_some_iff.mp hcapture
      have htriple : [d, m, ⟨t, env, line⟩].Sublist (lines ++ [⟨t, env, line⟩]) :=
        hsub.append (List.Sublist.refl _)
      unfold termInstallCaptureDataPartition at hpart
      split at hpart
      · cases hpart
      next part hget =>
        split at hpart
        next husable =>
          obtain rfl := Option.some.inj hpart
          have hcaptures : CapturesPartition ⟨t, env, line⟩ choice := ⟨hstep, hchoice, part, hget, husable⟩
          exact installInv_ready (.partition hmode ⟨d, m, _, htriple, hdisk, hchose, hcaptures⟩ rfl)
            (Nat.le_refl 5)
        · cases hpart
  next hstep =>
    have hready := hsame.ready (by omega)
    exact installInv_ready (hready.kept _ t.desktop 6) (Nat.le_add_right 5 1)
  next hstep =>
    have hready := hsame.ready (by omega)
    split
    · exact installInv_ready (hready.kept t.hostname _ 7) (Nat.le_add_right 5 2)
    · split
      · exact installInv_ready (hready.kept t.hostname _ 7) (Nat.le_add_right 5 2)
      · exact hsame
  next hstep =>
    split
    · rw [termInstallWritePlan_state]
      exact installInv_early (by simp [termInstallFinish])
    · exact hsame
  · exact installInv_early (by simp [termInstallFinish])

/-! ### The call -/

theorem run_not_mem_writeStaging (env : InstallEnv) (files : List (CStr × CStr)) (c : InstallConfig) :
    InstallEffect.run c ∉ (writeStaging env files).2 := by
  induction files with
  | nil => simp [writeStaging]
  | cons file files ih =>
      obtain ⟨path, text⟩ := file
      rw [writeStaging]
      split
      · simpa using ih
      · simp

theorem run_not_mem_installDefaults (env : InstallEnv) (t : TermInstall) (c : InstallConfig) :
    InstallEffect.run c ∉ installDefaults env t := by
  unfold installDefaults
  split
  · simp
  · split <;> simp

theorem run_not_mem_installFinished (t : TermInstall) (report : CStr) (c : InstallConfig) :
    InstallEffect.run c ∉ installFinished t report := by
  unfold installFinished
  split <;> simp

/-- A plan runs the installer with its own configuration, and not for manual work. -/
theorem run_mem_termInstallWritePlan (h : .run c ∈ (termInstallWritePlan env t).2.2) :
    t.diskMode ≠ .manualLater ∧ c = t.config := by
  have hstaging := run_not_mem_writeStaging env (installStaging env t) c
  have hdefaults := run_not_mem_installDefaults env t c
  have hbefore : InstallEffect.run c ∉ installDirs.map InstallEffect.mkdir ++
      (writeStaging env (installStaging env t)).2 ++ installDefaults env t := by
    simp [hstaging, hdefaults]
  unfold termInstallWritePlan at h
  dsimp only at h
  split at h
  · simp [hstaging] at h
  · split at h
    · simp [hstaging, hdefaults] at h
    next hmode =>
      refine ⟨hmode, ?_⟩
      have hsaved : InstallEffect.run c ∉ (if t.diskMode = .guidedFullDisk then
          installDirs.map InstallEffect.mkdir ++ (writeStaging env (installStaging env t)).2 ++
            installDefaults env t ++ [.persistSave]
          else installDirs.map InstallEffect.mkdir ++ (writeStaging env (installStaging env t)).2 ++
            installDefaults env t) := by
        split
        · simpa using hbefore
        · exact hbefore
      generalize env.run t.config = r at h
      obtain ⟨ok, report⟩ := r
      cases ok with
      | false =>
          obtain hmem | hmem := List.mem_append.mp h
          · exact absurd hmem hsaved
          · exact InstallEffect.run.inj (List.mem_singleton.mp hmem)
      | true =>
          obtain hmem | hmem := List.mem_append.mp h
          · exact absurd hmem hsaved
          · obtain heq | hmem := List.mem_cons.mp hmem
            · exact InstallEffect.run.inj heq
            · exact absurd hmem (run_not_mem_installFinished t report c)

theorem termInstallWritePlan_not_refused (env : InstallEnv) (t : TermInstall) (text : String) :
    (termInstallWritePlan env t).2.1 ≠ .refused text := by
  unfold termInstallWritePlan
  dsimp only
  split
  · simp
  · split
    · simp
    · generalize env.run t.config = r
      obtain ⟨ok, report⟩ := r
      cases ok with
      | false => simp
      | true =>
          dsimp only
          split <;> simp

/-- The outcome of a line that does not write the plan. -/
structure WritesNoPlan (t : TermInstall) (r : TermInstall × InstallReply × List InstallEffect) : Prop where
  run : ∀ c, .run c ∉ r.2.2
  refused : ∀ text, r.2.1 = .refused text → r.1 = t ∧ r.2.2 = []

theorem writesNoPlan_goTo (t t' : TermInstall) (step : Nat) : WritesNoPlan t (t'.goTo step) where
  run _ hc := by cases hc
  refused _ htext := by cases htext

theorem writesNoPlan_refuse (t : TermInstall) (text : String) : WritesNoPlan t (t.refuse text) where
  run _ hc := by cases hc
  refused _ _ := ⟨rfl, rfl⟩

theorem writesNoPlan_stopped (t : TermInstall) : WritesNoPlan t (termInstallFinish t, .stopped, []) where
  run _ hc := by cases hc
  refused _ htext := by cases htext

theorem writesNoPlan_keyboard (t t' : TermInstall) (layout : CStr) :
    WritesNoPlan t (t', .asked, [.setKeyboardLayout layout]) where
  run _ hc := by simp at hc
  refused _ htext := by cases htext

theorem termInstallSubmit_cases (env : InstallEnv) (t : TermInstall) (line : CStr) :
    WritesNoPlan t (termInstallSubmit env t line) ∨
      t.installStep = 7 ∧ termSkipSpaces line ∈ installConfirmations t ∧
        ¬ termInstallValueIs (termSkipSpaces line) ["cancel", "quit", "q"] = true ∧
        termInstallSubmit env t line = termInstallWritePlan env t := by
  unfold termInstallSubmit
  dsimp only
  split
  · exact .inl (writesNoPlan_stopped t)
  next hcancel =>
  split
  · left
    split
    · exact writesNoPlan_goTo ..
    · split
      · exact writesNoPlan_goTo ..
      · exact writesNoPlan_refuse ..
  · left
    split
    · exact writesNoPlan_keyboard ..
    · split
      · exact writesNoPlan_keyboard ..
      · exact writesNoPlan_refuse ..
  · left
    split
    · exact writesNoPlan_goTo ..
    · split
      · exact writesNoPlan_refuse ..
      · exact writesNoPlan_goTo ..
  · left
    split
    · exact writesNoPlan_goTo ..
    · exact writesNoPlan_goTo ..
    · exact writesNoPlan_refuse ..
  · left
    split
    · exact writesNoPlan_goTo ..
    · split
      · exact writesNoPlan_refuse ..
      · exact writesNoPlan_goTo ..
  · exact .inl (writesNoPlan_goTo ..)
  · left
    split
    · exact writesNoPlan_goTo ..
    · split
      · exact writesNoPlan_goTo ..
      · exact writesNoPlan_refuse ..
  next hstep =>
    split
    next hconfirmed => exact .inr ⟨hstep, hconfirmed, hcancel, rfl⟩
    · exact .inl (writesNoPlan_refuse ..)
  · exact .inl (writesNoPlan_stopped t)

/-- A line that runs the installer is a confirmation of the plan at step 7. -/
theorem run_mem_termInstallSubmit (h : .run c ∈ (termInstallSubmit env t line).2.2) :
    t.installStep = 7 ∧ termSkipSpaces line ∈ installConfirmations t ∧ t.diskMode ≠ .manualLater ∧
      c = t.config ∧ ¬ termInstallValueIs (termSkipSpaces line) ["cancel", "quit", "q"] = true := by
  obtain hnone | ⟨hstep, hvalue, hcancel, hplan⟩ := termInstallSubmit_cases env t line
  · exact absurd h (hnone.run c)
  · rw [hplan] at h
    obtain ⟨hmode, hconfig⟩ := run_mem_termInstallWritePlan h
    exact ⟨hstep, hvalue, hmode, hconfig, hcancel⟩

theorem termInstallSubmit_refused {text : String} (h : (termInstallSubmit env t line).2.1 = .refused text) :
    (termInstallSubmit env t line).1 = t ∧ (termInstallSubmit env t line).2.2 = [] := by
  obtain hnone | ⟨-, -, -, hplan⟩ := termInstallSubmit_cases env t line
  · exact hnone.refused text h
  · rw [hplan] at h
    exact absurd h (termInstallWritePlan_not_refused env t text)

end Invariant

/-! ### Sessions -/

theorem installRun_inv (t : TermInstall) (lines : List (InstallEnv × CStr)) :
    InstallInv (installRun t lines).lines (installRun t lines).state := by
  have hnext : ∀ r : InstallRun, InstallInv r.lines r.state →
      InstallInv (lines.foldl InstallRun.next r).lines (lines.foldl InstallRun.next r).state := by
    induction lines with
    | nil => exact fun _ h => h
    | cons x lines ih =>
        intro r h
        refine ih (r.next x) ?_
        unfold InstallRun.next
        split
        · exact termInstallSubmit_inv h x.1 x.2
        · exact h
  exact hnext ⟨[], termStartInstaller t⟩ (installInv_early (by simp [termStartInstaller]))

theorem snprintfTexts_of_short {size : Nat} {texts : List CStr} (h : texts.flatten.length ≤ size - 1) :
    snprintfTexts size texts = texts.flatten :=
  List.take_of_length_le h

theorem CapturesDisk.length_name {x : InstallLine} {index : Int} {name : CStr}
    (h : CapturesDisk x index name) :
    name.length < 24 := by
  obtain ⟨-, -, info, -, -, -, -, rfl⟩ := h
  exact info.name.property

theorem length_installPartitionName (index : Int) : (installPartitionName index).length ≤ 23 :=
  List.length_take_le ..

theorem snprintfTexts_disk {size : Nat} {keyword name : CStr} (hname : name.length < 24)
    (hsize : keyword.length + 24 ≤ size) : snprintfTexts size [keyword, name] = keyword ++ name := by
  rw [snprintfTexts_of_short]
  · simp
  · simp only [List.flatten_cons, List.flatten_nil, List.append_nil, List.length_append]
    omega

theorem snprintfTexts_partition {size : Nat} {keyword name : CStr} (hname : name.length < 24)
    (hsize : keyword.length + 48 ≤ size) (index : Int) :
    snprintfTexts size [keyword, name, cstr " ", installPartitionName index] =
      keyword ++ name ++ cstr " " ++ installPartitionName index := by
  have hpart := length_installPartitionName index
  have hblank : (cstr " ").length = 1 := rfl
  rw [snprintfTexts_of_short]
  · simp
  · simp only [List.flatten_cons, List.flatten_nil, List.append_nil, List.length_append]
    omega

theorem installConfirmed_of_ready {lines : List InstallLine} {t : TermInstall} {value : CStr}
    (h : InstallReady lines t) (hvalue : value ∈ installConfirmations t) (hmode : t.diskMode ≠ .manualLater) :
    InstallConfirmed lines value t.config := by
  have hconfig : t.config.diskMode = t.diskMode := rfl
  unfold InstallConfirmed
  unfold installConfirmations at hvalue
  cases h with
  | manual h => exact absurd h hmode
  | disk h hchose hnone =>
      obtain ⟨d, m, -, hdisk, -⟩ := id hchose
      have hlen : t.diskName.length < 24 := hdisk.length_name
      obtain h | h := h
      · rw [h] at hvalue
        dsimp only at hvalue
        rw [snprintfTexts_disk hlen (by decide), snprintfTexts_disk hlen (by decide)] at hvalue
        rw [hconfig, h]
        exact ⟨hvalue, hchose, hnone⟩
      · rw [h] at hvalue
        dsimp only at hvalue
        rw [snprintfTexts_disk hlen (by decide), snprintfTexts_disk hlen (by decide)] at hvalue
        rw [hconfig, h]
        exact ⟨hvalue, hchose, hnone⟩
  | partition h hchose hname =>
      obtain ⟨d, m, p, -, hdisk, -⟩ := id hchose
      have hlen : t.diskName.length < 24 := hdisk.length_name
      rw [h] at hvalue
      dsimp only at hvalue
      rw [hname, snprintfTexts_partition hlen (by decide), snprintfTexts_partition hlen (by decide)] at hvalue
      rw [hconfig, h]
      exact ⟨hvalue, hchose⟩

/-- The installer runs only for the confirmation of the plan, with the configuration that the
lines before it chose. -/
theorem termInstall_confirmed (t : TermInstall) (past : List (InstallEnv × CStr)) (env : InstallEnv)
    (line : CStr) {reply : InstallReply} {effects : List InstallEffect}
    (h : (installRun t past).submit env line = some (reply, effects)) :
    (∀ c, .run c ∈ effects → InstallConfirmed (installRun t past).lines (termSkipSpaces line) c) ∧
      ((installRun t past).state.diskMode = .manualLater → ∀ c, .run c ∉ effects) ∧
      (termInstallValueIs (termSkipSpaces line) ["cancel", "quit", "q"] = true → ∀ c, .run c ∉ effects) ∧
      (∀ text, reply = .refused text → effects = []) := by
  have hinv := installRun_inv t past
  generalize installRun t past = r at h hinv
  unfold InstallRun.submit at h
  split at h
  next hmode =>
    have heq := Option.some.inj h
    have hrun : ∀ c, InstallEffect.run c ∈ effects → .run c ∈ (termInstallSubmit env r.state line).2.2 := by
      intro c hc
      rwa [heq]
    refine ⟨fun c hc => ?_, fun hmanual c hc => ?_, fun hcancel c hc => ?_, fun text htext => ?_⟩
    · obtain ⟨hstep, hvalue, hmode, rfl, -⟩ := run_mem_termInstallSubmit (hrun c hc)
      exact installConfirmed_of_ready (hinv.ready (by omega)) hvalue hmode
    · obtain ⟨-, -, hmode, -⟩ := run_mem_termInstallSubmit (hrun c hc)
      exact hmode hmanual
    · obtain ⟨-, -, -, -, hnot⟩ := run_mem_termInstallSubmit (hrun c hc)
      exact hnot hcancel
    · have hreply : (termInstallSubmit env r.state line).2.1 = .refused text := by rw [heq, htext]
      have heffects := (termInstallSubmit_refused hreply).2
      rwa [heq] at heffects
  · cases h

theorem length_disk {n : Nat} (h : 16 ≤ n) : (cstr "disk").length < n :=
  Nat.lt_of_lt_of_le (by decide) h

theorem sixteen_le : 16 ≤ 16 ∧ 16 ≤ 24 ∧ 16 ≤ 64 := by decide

/-- A disk. -/
def oneDisk : InstallDevice where
  name := ⟨cstr "disk", length_disk sixteen_le.2.1⟩
  driver := ⟨cstr "disk", length_disk sixteen_le.1⟩
  model := ⟨cstr "disk", length_disk sixteen_le.2.2⟩
  sectors := 4096

/-- A machine with one disk, on which every call succeeds. -/
def oneDiskEnv : InstallEnv where
  storageSelectDevice index := index = 0
  storageGetDevice index := if index = 0 then some oneDisk else none
  getPartition _ := none
  formatSize _ := cstr "2MiB"
  storageStatus := none
  formatPlan _ := []
  writeTextFile _ _ := true
  desktopStatus := []
  run _ := (true, [])

/-- A terminal before the wizard. -/
def idleInstall : TermInstall := ⟨false, 0, [], [], .unset, -1, [], [], -1, [], [], [], []⟩

/-- The lines up to the confirmation of a full erase. -/
def eraseLines : List (InstallEnv × CStr) :=
  [cstr "1", cstr "1", cstr "1", cstr "3", [], []].map fun line => (oneDiskEnv, line)

/-- The configuration that they choose. -/
def eraseConfig : InstallConfig :=
  ⟨cstr "fr_FR", cstr "fr-azerty", .guidedFullDisk, cstr "orizon-os", cstr "none", 0, cstr "disk", -1⟩

/-- The keyword may be in lower case. -/
theorem termInstall_confirms_lower :
    ∃ reply effects,
      (installRun idleInstall eraseLines).submit oneDiskEnv (cstr "erase disk") = some (reply, effects) ∧
      .run eraseConfig ∈ effects ∧ cstr "erase disk" ≠ cstr "ERASE " ++ eraseConfig.diskName := by
  have hruns : ((installRun idleInstall eraseLines).submit oneDiskEnv (cstr "erase disk")).any
      (fun r => decide (InstallEffect.run eraseConfig ∈ r.2)) = true := by
    decide +kernel
  obtain ⟨⟨reply, effects⟩, hsubmit, hrun⟩ := (Option.any_eq_true ..).mp hruns
  exact ⟨reply, effects, hsubmit, of_decide_eq_true hrun, by decide⟩

/-- A full erase that is confirmed. -/
theorem termInstall_confirmed_erase :
    ∃ reply effects,
      (installRun idleInstall eraseLines).submit oneDiskEnv (cstr "ERASE disk") = some (reply, effects) ∧
      .run eraseConfig ∈ effects ∧
      InstallConfirmed (installRun idleInstall eraseLines).lines (termSkipSpaces (cstr "ERASE disk")) eraseConfig := by
  have hruns : ((installRun idleInstall eraseLines).submit oneDiskEnv (cstr "ERASE disk")).any
      (fun r => decide (InstallEffect.run eraseConfig ∈ r.2)) = true := by
    decide +kernel
  obtain ⟨⟨reply, effects⟩, hsubmit, hrun⟩ := (Option.any_eq_true ..).mp hruns
  exact ⟨reply, effects, hsubmit, of_decide_eq_true hrun,
    (termInstall_confirmed idleInstall eraseLines oneDiskEnv _ hsubmit).1 _ (of_decide_eq_true hrun)⟩

end Orizon
