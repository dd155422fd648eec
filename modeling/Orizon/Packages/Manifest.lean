import Orizon.Packages.Payload
import Orizon.Sha256

/-!
# Orizon.Packages.Manifest

The texts of the package database in `system/packages.c`: `parse_manifest`, which checks a
package file, `meta_value`, which reads a metadata file, and the paths under which both are kept.

A `pkg_manifest_t` points into the buffer from which it was parsed, so the payload is a place in
that buffer and its bytes are those that are there when it is used.
-/

namespace Orizon

/-! ## Database -/

/-- `PKG_DB_ROOT`. -/
def pkgDbRoot : CStr := cstr "/workspace/.orizon/pkgdb"

/-- `PKG_DB_INSTALLED`. -/
def pkgDbInstalled : CStr := cstr "/workspace/.orizon/pkgdb/installed"

/-- `PKG_DB_STORE`. -/
def pkgDbStore : CStr := cstr "/workspace/.orizon/pkgdb/packages"

/-- `PKG_DB_REMOVED`. -/
def pkgDbRemoved : CStr := cstr "/workspace/.orizon/pkgdb/removed"

/-- `PKG_DB_CACHE`. -/
def pkgDbCache : CStr := cstr "/workspace/.orizon/pkgdb/cache"

/-- `PKG_DB_HISTORY`. -/
def pkgDbHistory : CStr := cstr "/workspace/.orizon/pkgdb/history.log"

/-- `PKG_DB_TRANSACTION`. -/
def pkgDbTransaction : CStr := cstr "/workspace/.orizon/pkgdb/transaction.state"

/-- `PKG_WORKSPACE_LIST`. -/
def pkgWorkspaceList : CStr := cstr "/workspace/.orizon/packages"

/-- `PKG_SYSTEM_LIST`. -/
def pkgSystemList : CStr := cstr "/system/packages"

/-- `PKG_SYSTEM_INSTALLED`. -/
def pkgSystemInstalled : CStr := cstr "/system/installed"

/-- `PKG_STATUS_PATH`. -/
def pkgStatusPath : CStr := cstr "/system/package-status"

/-- The path of a file in a directory of the database, in `char[MAX_PATH]`. -/
def pkgDbFile (dir : CStr) (texts : List CStr) : CStr := snprintfTexts maxPath (dir :: [slash] :: texts)

/-- The manifest and the metadata of a package in the directories `store` and `info`. -/
def packagePaths (store info name : CStr) : Option (CStr × CStr) :=
  if !pkgNameSafe name then none
  else some (pkgDbFile store [name, cstr ".opkg"], pkgDbFile info [name, cstr ".meta"])

/-- `package_store_paths`: the manifest and the metadata of an installed package. -/
def packageStorePaths (name : CStr) : Option (CStr × CStr) := packagePaths pkgDbStore pkgDbInstalled name

/-- `package_removed_paths`: those of the snapshot of a removed one. -/
def packageRemovedPaths (name : CStr) : Option (CStr × CStr) := packagePaths pkgDbRemoved pkgDbRemoved name

/-- `builtin_package_t`. -/
structure BuiltinPackage where
  name : CStr
  version : CStr
  state : CStr

/-- `builtin_packages`. -/
def builtinPackages : List BuiltinPackage :=
  [⟨cstr "orizon-core", cstr "core-x86_64", cstr "builtin"⟩,
    ⟨cstr "orizon-console", cstr "minimal-shell", cstr "builtin"⟩,
    ⟨cstr "orizon-vfs", cstr "workspace-persistence-ahci-nvme-virtio", cstr "builtin"⟩,
    ⟨cstr "orizon-net", cstr "ethernet-e1000-rtl8139-virtio", cstr "builtin"⟩,
    ⟨cstr "orizon-ipv4", cstr "dhcp-static-dns-icmp-bootstrap", cstr "builtin"⟩,
    ⟨cstr "orizon-tls", cstr "github-https-range", cstr "builtin"⟩,
    ⟨cstr "orizon-sha256", cstr "artifact-verification", cstr "builtin"⟩,
    ⟨cstr "orizon-manifest", cstr "github-manifest", cstr "builtin"⟩,
    ⟨cstr "orizon-timer", cstr "pit-100hz", cstr "builtin"⟩,
    ⟨cstr "orizon-scheduler", cstr "process-accounting", cstr "builtin"⟩,
    ⟨cstr "orizon-updater", cstr "installed-esp-writer", cstr "builtin"⟩,
    ⟨cstr "orizon-packages", cstr "text-payload-v5", cstr "builtin"⟩,
    ⟨cstr "orizon-desktop-base", cstr "hyprland-style-profile-runtime", cstr "optional"⟩]

/-- `find_builtin_package`. -/
def findBuiltinPackage (name : CStr) : Option BuiltinPackage := builtinPackages.find? (·.name = name)

/-- `pkg_version_matches`. -/
def pkgVersionMatches (wanted actual : CStr) : Bool := wanted = cstr "*" || wanted = actual

/-! ## Manifests -/

/-- A hexadecimal digit in lower case. -/
def hexLower (c : CChar) : CChar :=
  if h : 0x41 ≤ c.val ∧ c.val ≤ 0x46 then
    ⟨c.val + 0x20, by
      intro hzero
      have hsum := congrArg UInt8.toNat hzero
      have hle : c.val.toNat ≤ 0x46 := UInt8.le_iff_toNat_le.mp h.2
      simp [UInt8.toNat_add] at hsum
      omega⟩
  else c

/-- `hex_equal`. -/
def hexEqual (a b : CStr) : Bool := hexIsValid a && hexIsValid b && a.map hexLower == b.map hexLower

/-- `pkg_dependency_t`. -/
structure PkgDependency where
  name : CStr
  version : CStr
  deriving DecidableEq

/-- `PKG_MAX_DEPENDS`. -/
def pkgMaxDepends : Nat := 8

/-- `pkg_manifest_t`; `payload` is the offset of the payload in the buffer. -/
structure PkgManifest where
  name : CStr
  version : CStr
  sha256 : CStr
  depends : List PkgDependency
  payload : Nat
  payloadSize : Nat
  deriving DecidableEq

/-- The manifest while its header is read, and `saw_magic`. -/
structure ManifestHeader where
  name : CStr
  version : CStr
  sha256 : CStr
  depends : List PkgDependency
  sawMagic : Bool

/-- The `depends` line of a header. -/
def parseDepends (args : CStr) : Option PkgDependency := do
  let (name, p) ← pkgCopyToken 64 args
  let (version, _) ← pkgCopyToken 64 p
  if !pkgNameSafe name || !pkgVersionSafe version then none else some ⟨name, version⟩

/-- A line of the header; `none` is -1. -/
def manifestLine (h : ManifestHeader) (line : CStr) : Option ManifestHeader :=
  if isSkippedLine line then some h
  else if line = cstr "orizon-package 1" then some { h with sawMagic := true }
  else if pkgStartsWith line (cstr "name ") then some { h with name := copyValue 64 (line.drop 5) }
  else if pkgStartsWith line (cstr "version ") then some { h with version := copyValue 64 (line.drop 8) }
  else if pkgStartsWith line (cstr "depends ") then
    if h.depends.length ≥ pkgMaxDepends then none
    else (parseDepends (line.drop 8)).map fun dep => { h with depends := h.depends ++ [dep] }
  else if pkgStartsWith line (cstr "sha256 ") then some { h with sha256 := copyValue 65 (line.drop 7) }
  else some h

/-- The loop of `parse_manifest`: the header, and the text behind `payload:` if that line was seen.
A line takes at least one byte. -/
def manifestLoop : Nat → ManifestHeader → List UInt8 → Option (ManifestHeader × Option (List UInt8))
  | 0, h, _ => some (h, none)
  | fuel + 1, h, data =>
      match readerLine data with
      | none => some (h, none)
      | some (line, rest) =>
          if line = cstr "payload:" then some (h, some rest)
          else
            match manifestLine h line with
            | none => none
            | some h => manifestLoop fuel h rest

/-- `sha256_buffer_hex` as a string. -/
def sha256HexText (data : List UInt8) : CStr := bytesCstr (sha256BufferHex data)

/-- `parse_manifest` of the bytes of a buffer: the manifest and `actual_hash`. -/
def parseManifest (data : List UInt8) : Except Int (PkgManifest × CStr) :=
  match manifestLoop data.length ⟨[], [], [], [], false⟩ data with
  | none => .error (-1)
  | some (_, none) => .error (-1)
  | some (h, some payload) =>
      if !h.sawMagic || !pkgNameSafe h.name || !pkgVersionSafe h.version || !hexIsValid h.sha256 || payload.length = 0
      then .error (-1)
      else if !hexEqual h.sha256 (sha256HexText payload) then .error (-2)
      else
        .ok (⟨h.name, h.version, h.sha256, h.depends, data.length - payload.length, payload.length⟩,
          sha256HexText payload)

/-! ## Metadata -/

/-- `meta_value` of the string in a buffer, into an array of `size` bytes. -/
def metaValue (data : List UInt8) (key : CStr) (size : Nat) : Option CStr :=
  ((readerLines (strBytes (bytesCstr data))).find? fun text =>
    strncmpEq text key key.length && text[key.length]? = some (cchar ' ')).map fun text =>
      copyValue size (text.drop (key.length + 1))

end Orizon
