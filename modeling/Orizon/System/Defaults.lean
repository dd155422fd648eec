import Orizon.Lib.Ensure
import Orizon.System.Printf
import Orizon.Vfs.CallFrame

/-!
# Orizon.System.Defaults

`system_ensure_defaults` of `system/system_state.c`, which creates the directories and files an
installed system expects, and `orizon_desktop_ensure_defaults` of `system/desktop.c`, which it
calls.

A default that is there is left alone.  The one step of another kind is `system_ensure_line`,
which looks for a line in the first 1023 bytes of `/system/services.conf` and appends it if it is
not there.
-/

namespace Orizon

/-! ## The defaults -/

/-- `ORIZON_SERVICES_PATH`. -/
def orizonServicesPath : CStr := cstr "/system/services.conf"

def systemDefaultServices : CStr :=
  cstr "# Orizon service policy v1\n" ++
    cstr "# policy values are descriptive while the init layer is still small.\n" ++
    cstr "persistence auto\n" ++
    cstr "bootlog installed\n" ++
    cstr "network manual\n" ++
    cstr "ssh manual\n" ++
    cstr "desktop optional\n" ++
    cstr "package-db installed\n" ++
    cstr "update-bootguard installed\n"

def systemDefaultMotd : CStr :=
  cstr "Welcome to Orizon OS.\n" ++
    cstr "Start with: system status, system health, system firstboot, system services.\n" ++
    cstr "Export evidence with: system snapshot, system backup, report save.\n" ++
    cstr "Use rescue for the safe recovery checklist.\n"

def systemDefaultFstab : CStr :=
  cstr "# Orizon mount map v1\n" ++
    cstr "# This records intended persistent roots; it is not a POSIX mount table yet.\n" ++
    cstr "rootfs / memory defaults 0 0\n" ++
    cstr "persist /workspace persistent optional 0 0\n" ++
    cstr "persist /home persistent optional 0 0\n" ++
    cstr "persist /system persistent optional 0 0\n" ++
    cstr "persist /packages persistent optional 0 0\n" ++
    cstr "persist /logs persistent optional 0 0\n"

def systemDefaultRescueConf : CStr :=
  cstr "# Orizon rescue policy v1\n" ++
    cstr "repair-defaults yes\n" ++
    cstr "allow-disk-layout-writes no\n" ++
    cstr "prefer-previous-snapshot yes\n" ++
    cstr "export-report /workspace/.orizon/rescue-report.txt\n"

def systemDefaultAdminGuide : CStr :=
  cstr "Orizon admin quickstart\n" ++
    cstr "1. system status\n" ++
    cstr "2. system health\n" ++
    cstr "3. system firstboot\n" ++
    cstr "4. system services\n" ++
    cstr "5. system logs\n" ++
    cstr "6. system snapshot\n" ++
    cstr "7. system backup\n" ++
    cstr "8. system doctor\n" ++
    cstr "9. rescue\n"

def systemDefaultProfile : CStr :=
  cstr "# Orizon shell profile\n" ++
    cstr "# The console uses the built-in Orizon shell; this file records user defaults.\n" ++
    cstr "HOME=/home/orizon\n" ++
    cstr "WORKSPACE=/workspace\n"

def systemDefaultOsRelease : CStr :=
  cstr "NAME=Orizon OS\n" ++
    cstr "ID=orizon\n" ++
    cstr "VERSION=core-x86_64\n" ++
    cstr "VERSION_ID=core-x86_64\n" ++
    cstr "VARIANT=Core Development Base\n" ++
    cstr "VALIDATION=vm-zimaos\n"

def systemDefaultAdminNotes : CStr :=
  cstr "Orizon admin notes\n" ++
    cstr "- system snapshot writes a shareable state report.\n" ++
    cstr "- system backup exports non-secret system configuration.\n" ++
    cstr "- system repair recreates missing defaults without changing disk layout.\n" ++
    cstr "- Lenovo and real hardware validation must be stated separately.\n"

/-- The line that `system_ensure_defaults` adds to the service file. -/
def desktopServiceLine : CStr := cstr "desktop optional\n"

/-- `timer_ticks`, `timer_uptime_seconds` and `timer_hz`. -/
structure Timers where
  ticks : UInt64
  uptimeSeconds : UInt64
  hz : UInt64

/-- `system_generate_machine_id`, in `machine_id[80]`. -/
def systemGenerateMachineId (timers : Timers) : CStr :=
  (snprintf 80 (cstr "orizon-%08lx-%08lx\n")
    [.word (timers.ticks ^^^ 0x4f52495a), .word (timers.uptimeSeconds ^^^ timers.hz ^^^ 0x4f53564d)]).getD []

/-- The files of `orizon_desktop_ensure_defaults` but the state, each with its own text. -/
inductive DesktopFile
  | config
  | template
  | localConfig
  | session
  | settings
  | binds
  | autostart
  | rules
  | monitors
  | layers
  | runtime
  | modules
  | architecture
  | backend
  | protocol

def DesktopFile.path : DesktopFile → CStr
  | .config => cstr "/system/desktop.conf"
  | .template => cstr "/system/share/orizon-desktop-hypr.conf"
  | .localConfig => cstr "/home/orizon/.config/hypr/orizon-local.conf"
  | .session => cstr "/system/desktop-session.conf"
  | .settings => cstr "/system/desktop-settings.conf"
  | .binds => cstr "/system/desktop-binds.conf"
  | .autostart => cstr "/system/desktop-autostart.conf"
  | .rules => cstr "/system/desktop-rules.conf"
  | .monitors => cstr "/system/desktop-monitors.conf"
  | .layers => cstr "/system/desktop-layers.conf"
  | .runtime => cstr "/system/desktop-runtime.conf"
  | .modules => cstr "/system/desktop-modules.conf"
  | .architecture => cstr "/system/desktop-architecture.conf"
  | .backend => cstr "/system/desktop-backend.conf"
  | .protocol => cstr "/system/desktop-protocol.conf"

/-- `ORIZON_DESKTOP_STATE_PATH`. -/
def orizonDesktopStatePath : CStr := cstr "/system/desktop-state.conf"

/-- The texts of the desktop's files and of its state. -/
structure DesktopTexts where
  file : DesktopFile → CStr
  state : CStr

/-- A statement of the two functions: count a default that is missing, make a directory, write a
file unless it is there, and the same for the desktop's state, before which the policy is read. -/
inductive DefaultStep
  | count (path : CStr)
  | dir (path : CStr)
  | file (path text : CStr)
  | desktopState (text : CStr)

/-- `system_ensure_dirs`. -/
def systemEnsureDirs : List DefaultStep :=
  [cstr "/workspace", cstr "/workspace/.orizon", cstr "/home", cstr "/home/orizon", cstr "/home/orizon/.config",
    cstr "/home/orizon/.config/hypr", cstr "/system", cstr "/system/share", cstr "/system/firmware",
    cstr "/packages", cstr "/logs"].flatMap fun path => [.count path, .dir path]

/-- `system_write_default_file`. -/
def systemWriteDefaultFile (path text : CStr) : List DefaultStep := [.count path, .file path text]

/-- `desktop_ensure_dirs`. -/
def desktopEnsureDirs : List DefaultStep :=
  [.dir (cstr "/system"), .dir (cstr "/system/share"), .dir (cstr "/home"), .dir (cstr "/home/orizon"),
    .dir (cstr "/home/orizon/.config"), .dir (cstr "/home/orizon/.config/hypr"), .dir (cstr "/workspace"),
    .dir (cstr "/workspace/packages"), .dir (cstr "/logs")]

/-- `orizon_desktop_ensure_defaults`. -/
def orizonDesktopEnsureDefaults (texts : DesktopTexts) : List DefaultStep :=
  desktopEnsureDirs ++
    ([.config, .template, .localConfig, .session, .settings, .binds, .autostart, .rules, .monitors, .layers, .runtime,
      .modules, .architecture, .backend, .protocol] : List DesktopFile).map (fun f => .file f.path (texts.file f)) ++
    [.desktopState texts.state]

/-- `system_ensure_defaults` up to the service file. -/
def systemDefaultsHead (timers : Timers) : List DefaultStep :=
  systemEnsureDirs ++
    (systemWriteDefaultFile (cstr "/system/hostname") (cstr "orizon-os\n") ++
      systemWriteDefaultFile (cstr "/system/version") (cstr "core-x86_64\n") ++
      systemWriteDefaultFile (cstr "/system/profile") (cstr "minimal-development\n") ++
      systemWriteDefaultFile (cstr "/system/os-release") systemDefaultOsRelease ++
      systemWriteDefaultFile (cstr "/system/machine-id") (systemGenerateMachineId timers) ++
      systemWriteDefaultFile (cstr "/system/data-layout")
        (cstr "version 1\nroots /system /home /packages /logs /workspace\n") ++
      systemWriteDefaultFile (cstr "/system/fstab") systemDefaultFstab ++
      systemWriteDefaultFile (cstr "/system/motd") systemDefaultMotd ++
      systemWriteDefaultFile (cstr "/system/issue") (cstr "Orizon OS Core Development Base\n") ++
      systemWriteDefaultFile (cstr "/system/network.conf") (cstr "mode dhcp\n"))

/-- `system_ensure_defaults` up to the line of the service file. -/
def systemDefaultsBefore (timers : Timers) : List DefaultStep :=
  systemDefaultsHead timers ++ systemWriteDefaultFile orizonServicesPath systemDefaultServices

/-- `system_ensure_defaults` after that line. -/
def systemDefaultsAfter (texts : DesktopTexts) : List DefaultStep :=
  systemWriteDefaultFile (cstr "/system/service-state") (cstr "service-state: not-recorded\n") ++
    systemWriteDefaultFile (cstr "/system/rescue.conf") systemDefaultRescueConf ++
    systemWriteDefaultFile (cstr "/system/admin-guide.txt") systemDefaultAdminGuide ++
    systemWriteDefaultFile (cstr "/system/admin-notes.txt") systemDefaultAdminNotes ++
    systemWriteDefaultFile (cstr "/system/boot-state") (cstr "boot-state: not-recorded\n") ++
    systemWriteDefaultFile (cstr "/home/orizon/.profile") systemDefaultProfile ++
    systemWriteDefaultFile (cstr "/home/orizon/README.txt") (cstr "Home directory for Orizon OS user files.\n") ++
    systemWriteDefaultFile (cstr "/packages/README.txt") (cstr "Local package cache and installed package metadata.\n") ++
    systemWriteDefaultFile (cstr "/logs/README.txt") (cstr "Persistent boot, install and update logs.\n") ++
    [.count DesktopFile.config.path, .count DesktopFile.session.path] ++
    orizonDesktopEnsureDefaults texts ++
    systemWriteDefaultFile (cstr "/workspace/.orizon/README.txt")
      (cstr "Orizon persistent state: install, update, packages and history.\n")

/-! ## The code -/

section Code

variable {H : Type} [Allocator H]

/-- The file system, `*created` and `rc`. -/
structure Ensured (H : Type) where
  vfs : Vfs H
  created : Nat
  rc : Int

/-- `system_write_text_file` and `desktop_write_text_file`, behind a test for the file. -/
def Ensured.file (s : Ensured H) (path text : CStr) : Ensured H :=
  if vfsExists s.vfs path then s
  else
    let put := vfsPut s.vfs path (oCreat ||| oWronly ||| oTrunc) (strBytes text)
    { s with vfs := put.2, rc := if put.1 = .done then s.rc else -1 }

/-- One statement. -/
def defaultStep (s : Ensured H) : DefaultStep → Ensured H
  | .count path => if vfsExists s.vfs path then s else { s with created := s.created + 1 }
  | .dir path => { s with vfs := (vfsMkdir s.vfs path).2 }
  | .file path text => s.file path text
  | .desktopState text =>
      if vfsExists s.vfs orizonDesktopStatePath then s
      -- `desktop_policy_enabled_from_file`, in `cfg[768]`
      else { s with vfs := (vfsReadText s.vfs DesktopFile.config.path 768).2 }.file orizonDesktopStatePath text

/-- The line is in the bytes that were read. -/
def lineFound (line : CStr) (bytes : List UInt8) : Bool := bytes.length > 0 && strstrFound (bytesCstr bytes) line

/-- `system_ensure_line`, in `buf[1024]`. -/
def systemEnsureLine (s : Ensured H) (path line : CStr) : Ensured H :=
  let read := vfsReadText s.vfs path 1024
  if read.1.any (lineFound line) then { s with vfs := read.2 }
  else
    let put := vfsPut read.2 path (oCreat ||| oWronly ||| oAppend) (strBytes line)
    if put.1 = .done then { s with vfs := put.2, created := s.created + 1 } else { s with vfs := put.2, rc := -1 }

/-- `system_ensure_defaults`. -/
def systemEnsureDefaults (timers : Timers) (texts : DesktopTexts) (v : Vfs H) : Ensured H :=
  (systemDefaultsAfter texts).foldl defaultStep
    (systemEnsureLine ((systemDefaultsBefore timers).foldl defaultStep ⟨v, 0, 0⟩) orizonServicesPath desktopServiceLine)

end Code

end Orizon
