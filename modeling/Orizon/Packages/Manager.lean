import Orizon.Packages.Manifest
import Orizon.Vfs.CallFrame

/-!
# Orizon.Packages.Manager

The package manager of `system/packages.c` with its statics: `orizon_pkg_init`,
`orizon_pkg_refresh_database`, `pkg_install_loaded` and its callers `orizon_pkg_install_file`,
`orizon_pkg_install_buffer` and `orizon_pkg_rollback`, and `orizon_pkg_remove`.

Its two large buffers are shared: a file that is installed, the packages that are replayed at
start and the metadata that is listed all pass through `pkg_buf`; a package that is replaced or
rolled back lies in `pkg_rollback_buf`.  A manifest is used through the buffer it was parsed from.

A report is the list of the lines that these functions put there; what the payload's readers add
to it, and the array it is cut to, are left out.
-/

namespace Orizon

variable {H : Type} [Allocator H]

/-! ## Reading a file -/

/-- What `pkg_read_file` put into its buffer, and whether it returned 0. -/
structure PkgRead (H : Type) where
  ok : Bool
  bytes : List UInt8
  vfs : Vfs H

/-- The loop of `pkg_read_file`, with `room` bytes left.  A round that goes on has read a byte. -/
def pkgReadLoop (fd : Nat) : Nat → Vfs H → Nat → PkgRead H
  | 0, v, _ => ⟨true, [], v⟩
  | fuel + 1, v, room =>
      if room = 0 then ⟨true, [], v⟩
      else
        match vfsRead v fd room with
        | (.error _, v) => ⟨false, [], v⟩
        | (.ok bytes, v) =>
            if bytes.length = 0 then ⟨true, [], v⟩
            else
              let r := pkgReadLoop fd fuel v (room - bytes.length)
              ⟨r.ok, bytes ++ r.bytes, r.vfs⟩

/-- `pkg_read_file` into a buffer of `cap` bytes. -/
def pkgReadFile (v : Vfs H) (path : CStr) (cap : Nat) : PkgRead H :=
  if cap < 2 then ⟨false, [], v⟩
  else
    match vfsOpen v path 0 with
    | (none, v) => ⟨false, [], v⟩
    | (some fd, v) =>
        let r := pkgReadLoop fd cap v (cap - 1)
        { r with vfs := vfsClose r.vfs fd }

/-- The buffer after the call: the bytes, and a NUL behind them unless the last read failed. -/
def PkgRead.buffer (r : PkgRead H) (buf : Mem) : Mem :=
  let bytes := if r.ok then r.bytes ++ [0] else r.bytes
  bufCopy buf 0 (bytesMem bytes) bytes.length

/-- The first `size` bytes from `off` on. -/
def pkgMemBytes (m : Mem) (off size : Nat) : List UInt8 := (List.range size).map fun i => m (off + i)

/-! ## State -/

/-- The statics of `packages.c` and the file system. -/
structure PkgState (H : Type) where
  vfs : Vfs H
  pkgBuf : Mem
  pkgRollbackBuf : Mem
  pkgRollbackMeta : Mem
  pkgInitialized : Bool
  pkgStatusText : CStr
  pkgTransactionSeq : Nat

/-- The buffer in which a package lies that is to be installed. -/
inductive PkgBuffer
  | pkgBuf
  | pkgRollbackBuf
  | caller (data : Mem)

/-- The bytes of a buffer as they are now. -/
def PkgState.buffer (s : PkgState H) : PkgBuffer → Mem
  | .pkgBuf => s.pkgBuf
  | .pkgRollbackBuf => s.pkgRollbackBuf
  | .caller data => data

/-- The payload of a manifest that was parsed from a buffer. -/
def PkgState.payload (s : PkgState H) (buf : PkgBuffer) (pkg : PkgManifest) : List UInt8 :=
  pkgMemBytes (s.buffer buf) pkg.payload pkg.payloadSize

/-- `pkg_read_file` into `pkg_buf`. -/
def PkgState.readPkgBuf (s : PkgState H) (path : CStr) : PkgRead H × PkgState H :=
  let r := pkgReadFile s.vfs path (pkgMaxBytes + 1)
  (r, { s with vfs := r.vfs, pkgBuf := r.buffer s.pkgBuf })

/-- `pkg_read_file` into `pkg_rollback_buf`. -/
def PkgState.readRollbackBuf (s : PkgState H) (path : CStr) : PkgRead H × PkgState H :=
  let r := pkgReadFile s.vfs path (pkgMaxBytes + 1)
  (r, { s with vfs := r.vfs, pkgRollbackBuf := r.buffer s.pkgRollbackBuf })

/-- `pkg_read_file` into `pkg_rollback_meta`. -/
def PkgState.readRollbackMeta (s : PkgState H) (path : CStr) : PkgRead H × PkgState H :=
  let r := pkgReadFile s.vfs path 1024
  (r, { s with vfs := r.vfs, pkgRollbackMeta := r.buffer s.pkgRollbackMeta })

/-- `pkg_next_transaction_id`. -/
def PkgState.nextTransactionId (s : PkgState H) : Nat × PkgState H :=
  let seq := (s.pkgTransactionSeq + 1) % 2 ^ 64
  let seq := if seq = 0 then 1 else seq
  (seq, { s with pkgTransactionSeq := seq })

/-- `PKG_MANAGER_VERSION`. -/
def pkgManagerVersion : CStr := cstr "v5"

/-- The name of a transaction in the texts. -/
def transactionText (id : Nat) : List CStr := [pkgManagerVersion, cstr "-", cstrNat id]

/-- `pkg_write_transaction_state`. -/
def pkgWriteTransactionState (v : Vfs H) (state action name version : CStr) (id : Nat)
    (rollback result : CStr) : Vfs H :=
  let text := snprintfTexts 512 ([cstr "manager ", pkgManagerVersion, cstr "\nstate ", state, cstr "\naction ", action,
    cstr "\npackage ", name, cstr "\nversion ", version, cstr "\ntransaction "] ++ transactionText id ++
    [cstr "\nrollback ", rollback, cstr "\nresult ", result, cstr "\n"])
  (pkgWriteBlobInternal v pkgDbTransaction (strBytes text)).2

/-! ## Dependencies -/

/-- `package_dependency_satisfied`. -/
def packageDependencySatisfied (v : Vfs H) (dep : PkgDependency) : Bool × Vfs H :=
  if !pkgNameSafe dep.name || !pkgVersionSafe dep.version then (false, v)
  else if (findBuiltinPackage dep.name).any fun builtin => pkgVersionMatches dep.version builtin.version then (true, v)
  else
    match packageStorePaths dep.name with
    | none => (false, v)
    | some (_, metaPath) =>
        let r := pkgReadFile v metaPath 512
        if r.ok then
          match metaValue r.bytes (cstr "version") 64 with
          | none => (false, r.vfs)
          | some version => (pkgVersionMatches dep.version version, r.vfs)
        else (false, r.vfs)

/-- The loop of `check_package_dependencies`. -/
def checkDependsLoop (v : Vfs H) : List PkgDependency → Bool × List CStr × Vfs H
  | [] => (true, [], v)
  | dep :: depends =>
      match packageDependencySatisfied v dep with
      | (ok, v) =>
          match checkDependsLoop v depends with
          | (rest, lines, v) =>
              (ok && rest, snprintfTexts 192 [if ok then cstr "Dependency OK: " else cstr "pkg: missing dependency ",
                dep.name, cstr " ", dep.version] :: lines, v)

/-- `check_package_dependencies`; `false` is -1. -/
def checkPackageDependencies (v : Vfs H) (depends : List PkgDependency) : Bool × List CStr × Vfs H :=
  if depends.length = 0 then (true, [cstr "Dependencies: none"], v) else checkDependsLoop v depends

/-! ## The database -/

/-- `pkg_append` to an array of `size` bytes. -/
def pkgAppend (size : Nat) (out text : CStr) : CStr :=
  if out.length ≥ size - 1 then out else (out ++ text).take (size - 1)

/-- `write_builtin_db`. -/
def writeBuiltinDb (out : CStr) (includeState : Bool) : CStr :=
  builtinPackages.foldl (fun out b => pkgAppend 8192 out
    (snprintfTexts 192 ([b.name, cstr " ", b.version] ++ (if includeState then [cstr " ", b.state] else []) ++
      [cstr "\n"]))) out

/-- The regular files among the first 64 entries of a directory. -/
def regularNames (v : Vfs H) (dir : CStr) : List CStr :=
  match vfsReaddir v dir 64 with
  | .error _ => []
  | .ok entries => (entries.filter fun e => e.type = .file).map (·.name.val)

/-- A round of `append_installed_meta_list`. -/
def appendMetaLine (state : CStr) (r : CStr × PkgState H) (name : CStr) : CStr × PkgState H :=
  match r.2.readPkgBuf (pkgDbFile pkgDbInstalled [name]) with
  | (read, s) =>
      if read.ok then
        match metaValue read.bytes (cstr "name") 64, metaValue read.bytes (cstr "version") 64 with
        | some name, some version =>
            (pkgAppend 8192 r.1 (snprintfTexts 192 [name, cstr " ", version, cstr " ", state, cstr "\n"]), s)
        | _, _ => (r.1, s)
      else (r.1, s)

/-- `append_installed_meta_list`. -/
def appendInstalledMetaList (s : PkgState H) (out state : CStr) : CStr × PkgState H :=
  (regularNames s.vfs pkgDbInstalled).foldl (appendMetaLine state) (out, { s with vfs := vfsInit s.vfs })

/-- The files that `orizon_pkg_refresh_database` writes, with their texts. -/
def refreshTexts (list installed status : CStr) : List (CStr × CStr) :=
  [(pkgWorkspaceList, list), (pkgSystemList, list), (pkgSystemInstalled, installed), (pkgStatusPath, status)]

/-- `orizon_pkg_refresh_database`. -/
def orizonPkgRefreshDatabase (s : PkgState H) : PkgState H :=
  match appendInstalledMetaList s (writeBuiltinDb [] false) (cstr "installed") with
  | (list, s) =>
      match appendInstalledMetaList s (writeBuiltinDb [] true) (cstr "installed") with
      | (installed, s) =>
          let files := refreshTexts list installed s.pkgStatusText
          { s with vfs := files.foldl (fun v f => (pkgWriteBlobInternal v f.1 (strBytes f.2)).2) s.vfs }

/-- A round of `replay_stored_packages`. -/
def replayStored (s : PkgState H) (name : CStr) : PkgState H :=
  match s.readPkgBuf (pkgDbFile pkgDbStore [name]) with
  | (read, s) =>
      if read.ok then
        match parseManifest (pkgMemBytes s.pkgBuf 0 read.bytes.length) with
        | .ok (pkg, _) => { s with vfs := (replayPayload false s.vfs (s.payload .pkgBuf pkg)).2 }
        | .error _ => s
      else s

/-- `replay_stored_packages`. -/
def replayStoredPackages (s : PkgState H) : PkgState H :=
  (regularNames s.vfs pkgDbStore).foldl replayStored { s with vfs := vfsInit s.vfs }

/-- The directories that `orizon_pkg_init` makes with `vfs_mkdir`. -/
def pkgInitMkdirs : List CStr := [cstr "/workspace", cstr "/workspace/.orizon"]

/-- Those it makes with `pkg_ensure_dir`. -/
def pkgInitDirs : List CStr :=
  [pkgDbRoot, pkgDbInstalled, pkgDbStore, pkgDbRemoved, pkgDbCache, cstr "/system", cstr "/system/share", cstr "/home",
    cstr "/home/orizon", cstr "/packages", cstr "/logs", cstr "/workspace/packages"]

/-- The directories of `orizon_pkg_init`. -/
def pkgMakeDirs (v : Vfs H) : Vfs H :=
  pkgInitDirs.foldl (fun v dir => (pkgEnsureDir v dir).2) (pkgInitMkdirs.foldl (fun v dir => (vfsMkdir v dir).2) v)

/-- `orizon_pkg_init`. -/
def orizonPkgInit (s : PkgState H) : PkgState H :=
  orizonPkgRefreshDatabase { replayStoredPackages { s with vfs := pkgMakeDirs s.vfs } with
    pkgInitialized := true, pkgStatusText := cstr "package manager ready" }

/-- The call with which the functions of the manager begin. -/
def PkgState.ready (s : PkgState H) : PkgState H := if s.pkgInitialized then s else orizonPkgInit s

/-! ## The desktop -/

/-- The directories of `desktop_ensure_dirs`. -/
def desktopDirs : List CStr :=
  [cstr "/system", cstr "/system/share", cstr "/home", cstr "/home/orizon", cstr "/home/orizon/.config",
    cstr "/home/orizon/.config/hypr", cstr "/workspace", cstr "/workspace/packages", cstr "/logs"]

/-- The files that `orizon_desktop_set_enabled` writes: the configuration, the defaults, the
user's configuration, the state and the log. -/
def desktopFiles : List CStr :=
  [cstr "/system/desktop.conf", cstr "/system/share/orizon-desktop-hypr.conf",
    cstr "/home/orizon/.config/hypr/orizon-local.conf", cstr "/home/orizon/.config/hypr/orizon-hypr.conf",
    cstr "/system/desktop-session.conf", cstr "/system/desktop-settings.conf", cstr "/system/desktop-binds.conf",
    cstr "/system/desktop-autostart.conf", cstr "/system/desktop-rules.conf", cstr "/system/desktop-monitors.conf",
    cstr "/system/desktop-layers.conf", cstr "/system/desktop-runtime.conf", cstr "/system/desktop-modules.conf",
    cstr "/system/desktop-architecture.conf", cstr "/system/desktop-backend.conf", cstr "/system/desktop-protocol.conf",
    cstr "/system/desktop-state.conf", cstr "/logs/desktop.log"]

/-- `orizon_desktop_set_enabled` as the package manager sees it: whether it returned 0, its status
text and the file system behind it.  It makes the directories of the desktop, writes its files,
and closes what it opens. -/
structure DesktopHook (H : Type) [Allocator H] where
  setEnabled : Bool → Vfs H → Bool × CStr × Vfs H
  footprint : ∀ {Mk Wr : CStr → Prop} {R : Vfs H → Vfs H → Prop}, CallFrame Mk Wr R → (∀ dir ∈ desktopDirs, Mk dir) →
    (∀ path ∈ desktopFiles, Wr path) → ∀ on v, R v (setEnabled on v).2.2
  closes : ∀ on v, (findFreeFile v).isSome → (findFreeFile (setEnabled on v).2.2).isSome

/-- The two desktop packages. -/
def isDesktopPackage (name : CStr) : Bool := name = cstr "orizon-desktop-hypr" || name = cstr "orizon-desktop-core"

/-- The desktop hook of the manager: its report and the file system. -/
def runDesktopHook (desktop : DesktopHook H) (on : Bool) (name : CStr) (v : Vfs H) : List CStr × Vfs H :=
  if isDesktopPackage name then
    match desktop.setEnabled on v with
    | (true, status, v) =>
        ([if on then cstr "desktop hook: optional profile enabled" else cstr "desktop hook: optional profile disabled",
          status], v)
    | (false, _, v) =>
        ([if on then cstr "desktop hook: WARN profile enable failed"
          else cstr "desktop hook: WARN profile disable failed"], v)
  else ([], v)

/-! ## Installing -/

/-- A name and a version in the texts. -/
def nameVersion (pkg : PkgManifest) : List CStr := [pkg.name, cstr " ", pkg.version]

/-- The metadata of an installed package, in `meta[512]`. -/
def installedMeta (sourcePath : CStr) (pkg : PkgManifest) (hash : CStr) (id : Nat) : CStr :=
  snprintfTexts 512 ([cstr "name ", pkg.name, cstr "\n", cstr "version ", pkg.version, cstr "\n", cstr "sha256 ", hash,
    cstr "\nsource ", sourcePath, cstr "\nstate installed\nmanager ", pkgManagerVersion, cstr "\ntransaction "] ++
    transactionText id ++ [cstr "\nrollback previous-payload-on-failure\n"])

/-- The event of an installation, in `event[256]`. -/
def installedEvent (sourcePath : CStr) (pkg : PkgManifest) (hash : CStr) (id : Nat) : CStr :=
  snprintfTexts 256 ([cstr "installed "] ++ nameVersion pkg ++ [cstr " source=", sourcePath, cstr " sha256=", hash,
    cstr " transaction="] ++ transactionText id ++ [cstr " rollback=previous-payload-on-failure result=stored\n"])

/-- Lines appended to the history, whatever comes of it. -/
def appendHistory (v : Vfs H) (texts : List CStr) : Vfs H :=
  texts.foldl (fun v text => (pkgAppendTextInternal v pkgDbHistory text).2) v

/-- `store_installed_package` of the bytes `data`. -/
def storeInstalledPackage (v : Vfs H) (sourcePath : CStr) (pkg : PkgManifest) (hash : CStr) (data : List UInt8)
    (id : Nat) : Bool × Vfs H :=
  match packageStorePaths pkg.name with
  | none => (false, v)
  | some (manifestPath, metaPath) =>
      match pkgWriteBlobInternal v manifestPath data with
      | (false, v) => (false, v)
      | (true, v) =>
          let text := installedMeta sourcePath pkg hash id
          match pkgWriteBlobInternal v metaPath (strBytes text) with
          | (false, v) => (false, v)
          | (true, v) => (true, appendHistory v [installedEvent sourcePath pkg hash id, text, cstr "\n"])

/-- The package that an installation replaces: its manifest, and the sizes of its two files. -/
structure OldPackage where
  pkg : PkgManifest
  size : Nat
  metaSize : Nat

/-- `pkg_install_loaded` stages the package that is stored under the name. -/
def stageOld (s : PkgState H) (manifestPath metaPath : CStr) : Option OldPackage × PkgState H :=
  match s.readRollbackBuf manifestPath with
  | (read, s) =>
      if read.ok then
        match parseManifest (pkgMemBytes s.pkgRollbackBuf 0 read.bytes.length) with
        | .error _ => (none, s)
        | .ok (pkg, _) =>
            match s.readRollbackMeta metaPath with
            | (readMeta, s) => (some ⟨pkg, read.bytes.length, if readMeta.ok then readMeta.bytes.length else 0⟩, s)
      else (none, s)

/-- The action of a transaction. -/
def installAction (old : Option OldPackage) : CStr := if old.isSome then cstr "upgrade" else cstr "install"

/-- `"previous-payload-on-failure"`. -/
def previousPayload : CStr := cstr "previous-payload-on-failure"

/-- The payload of the old package is replayed without its scripts. -/
def replayOld (s : PkgState H) (old : Option OldPackage) : Vfs H :=
  match old with
  | none => s.vfs
  | some old => (replayPayload false s.vfs (s.payload .pkgRollbackBuf old.pkg)).2

/-- The end of an installation that failed. -/
def failedInstall (v : Vfs H) (old : Option OldPackage) (pkg : PkgManifest) (id : Nat) (result : CStr) : Vfs H :=
  let line := snprintfTexts 256 ([cstr "failed-install "] ++ nameVersion pkg ++ [cstr " transaction="] ++
    transactionText id ++ [cstr " result=", result])
  pkgWriteTransactionState (appendHistory v [line, cstr "\n"]) (cstr "failed") (installAction old) pkg.name pkg.version id
    previousPayload result

/-- What is put back after the database could not be written. -/
def restoreDatabase (s : PkgState H) (old : Option OldPackage) (manifestPath metaPath : CStr) : Vfs H :=
  match old with
  | none => (vfsDelete (vfsDelete s.vfs metaPath).2 manifestPath).2
  | some o =>
      let v := (pkgWriteBlobInternal s.vfs manifestPath (pkgMemBytes s.pkgRollbackBuf 0 o.size)).2
      let v := if o.metaSize > 0 then
          (pkgWriteBlobInternal v metaPath (pkgMemBytes s.pkgRollbackMeta 0 o.metaSize)).2 else v
      replayOld { s with vfs := v } old

/-- The end of an installation: the hook, the history, the transaction, the lists and the disk. -/
def finishInstall (desktop : DesktopHook H) (s : PkgState H) (old : Option OldPackage) (pkg : PkgManifest) (id : Nat) :
    List CStr × PkgState H :=
  match runDesktopHook desktop true pkg.name s.vfs with
  | (hook, v) =>
      let replaced := match old with
        | none => []
        | some o => [snprintfTexts 256 [cstr "Replaced previous version ", o.pkg.version]]
      let v := match old with
        | none => v
        | some o => appendHistory v [snprintfTexts 256 ([cstr "upgraded ", pkg.name, cstr " ", o.pkg.version, cstr " -> ",
            pkg.version, cstr " transaction="] ++ transactionText id ++ [cstr " rollback=guarded"]), cstr "\n"]
      let v := pkgWriteTransactionState v (cstr "complete") (installAction old) pkg.name pkg.version id previousPayload
        (cstr "stored")
      let s := orizonPkgRefreshDatabase { s with vfs := v, pkgStatusText := cstr "package installed" }
      (hook ++ replaced ++ [snprintfTexts 256 (cstr "Installed " :: nameVersion pkg)],
        { s with vfs := (vfsPersistSave s.vfs).2 })

/-- `pkg_install_loaded` from the replay of the payload on. -/
def installPayload (desktop : DesktopHook H) (s : PkgState H) (sourceName : CStr) (buf : PkgBuffer) (size : Nat)
    (pkg : PkgManifest) (hash : CStr) (id : Nat) (old : Option OldPackage) (manifestPath metaPath : CStr) :
    Int × List CStr × PkgState H :=
  match replayPayload true s.vfs (s.payload buf pkg) with
  | (r, v) =>
      if r < 0 then
        let v := (removePayloadFiles v (s.payload buf pkg)).vfs
        let v := replayOld { s with vfs := v } old
        (-5, cstr "pkg: payload install failed" ::
            (if old.isSome then [cstr "pkg: rollback restored previous package payload"] else []),
          { s with vfs := failedInstall v old pkg id (cstr "payload-failed") })
      else
        match storeInstalledPackage v sourceName pkg hash (pkgMemBytes (s.buffer buf) 0 size) id with
        | (false, v) =>
            let v := (removePayloadFiles v (s.payload buf pkg)).vfs
            let v := restoreDatabase { s with vfs := v } old manifestPath metaPath
            (-6, cstr "pkg: cannot update installed db" ::
                (if old.isSome then [cstr "pkg: rollback restored previous installed metadata"] else []),
              { s with vfs := failedInstall v old pkg id (cstr "db-failed") })
        | (true, v) =>
            match finishInstall desktop { s with vfs := v } old pkg id with
            | (lines, s) => (0, lines, s)

/-- `pkg_install_loaded` of a manifest that was parsed. -/
def installParsed (desktop : DesktopHook H) (s : PkgState H) (sourceName : CStr) (buf : PkgBuffer) (size : Nat)
    (pkg : PkgManifest) (hash : CStr) : Int × List CStr × PkgState H :=
  let lines := [snprintfTexts 256 (cstr "Installing " :: nameVersion pkg),
    snprintfTexts 256 [cstr "Verified sha256 ", hash]]
  match checkPackageDependencies s.vfs pkg.depends with
  | (false, missing, v) => (-4, lines ++ missing, { s with vfs := v })
  | (true, found, v) =>
      match PkgState.nextTransactionId { s with vfs := v } with
      | (id, s) =>
          match packageStorePaths pkg.name with
          | none => (-4, lines ++ found ++ [cstr "pkg: invalid package store path"], s)
          | some (manifestPath, metaPath) =>
              match stageOld s manifestPath metaPath with
              | (old, s) =>
                  let staged := match old with
                    | none => []
                    | some o => [snprintfTexts 256 [cstr "pkg: previous version ", o.pkg.version,
                        cstr " staged for failure rollback"]]
                  let v := pkgWriteTransactionState s.vfs (cstr "running") (installAction old) pkg.name pkg.version id
                    previousPayload (cstr "starting")
                  match installPayload desktop { s with vfs := v } sourceName buf size pkg hash id old manifestPath
                      metaPath with
                  | (r, rest, s) =>
                      (r, lines ++ found ++ staged ++ [snprintfTexts 256 ([cstr "Transaction "] ++ transactionText id ++
                        [cstr " action=", installAction old, cstr " rollback=previous-payload-on-failure"])] ++ rest, s)

/-- `pkg_install_loaded`. -/
def pkgInstallLoaded (desktop : DesktopHook H) (s : PkgState H) (sourceName : CStr) (buf : PkgBuffer) (size : Nat) :
    Int × List CStr × PkgState H :=
  let s := s.ready
  if size = 0 ∨ size > pkgMaxBytes then (-1, [cstr "pkg: invalid package buffer"], s)
  else
    match parseManifest (pkgMemBytes (s.buffer buf) 0 size) with
    | .error r =>
        if r = -2 then (-2, [cstr "pkg: sha256 mismatch"], s) else (-3, [cstr "pkg: invalid package format"], s)
    | .ok (pkg, hash) => installParsed desktop s sourceName buf size pkg hash

/-- `orizon_pkg_install_file`. -/
def orizonPkgInstallFile (desktop : DesktopHook H) (s : PkgState H) (path : CStr) : Int × List CStr × PkgState H :=
  match s.readPkgBuf path with
  | (read, s) =>
      if !read.ok || read.bytes.length = 0 then (-1, [cstr "pkg: cannot read package file"], s)
      else pkgInstallLoaded desktop s path .pkgBuf read.bytes.length

/-- `orizon_pkg_install_buffer` of bytes that lie outside `pkg_buf`. -/
def orizonPkgInstallBuffer (desktop : DesktopHook H) (s : PkgState H) (sourceName : Option CStr) (data : List UInt8) :
    Int × List CStr × PkgState H :=
  if data.length = 0 ∨ data.length > pkgMaxBytes then (-1, [cstr "pkg: invalid package buffer"], s)
  else
    let s := { s with pkgBuf := bufCopy s.pkgBuf 0 (bytesMem (data ++ [0])) (data.length + 1) }
    pkgInstallLoaded desktop s (sourceName.getD (cstr "memory")) .pkgBuf data.length

/-! ## Removing -/

/-- A transaction on a snapshot. -/
def snapshotTransaction (v : Vfs H) (state action : CStr) (pkg : PkgManifest) (id : Nat)
    (rollback result : CStr) : Vfs H :=
  pkgWriteTransactionState v state action pkg.name pkg.version id rollback result

/-- The two deletions of a pair of database files, whatever comes of them. -/
def deleteBoth (v : Vfs H) (manifestPath metaPath : CStr) : Vfs H := (vfsDelete (vfsDelete v manifestPath).2 metaPath).2

/-- `orizon_pkg_remove` writes the snapshot. -/
def writeSnapshot (s : PkgState H) (size metaSize : Nat) (manifestPath metaPath : CStr) : Bool × Vfs H :=
  match pkgWriteBlobInternal s.vfs manifestPath (pkgMemBytes s.pkgBuf 0 size) with
  | (false, v) => (false, v)
  | (true, v) =>
      if metaSize > 0 then pkgWriteBlobInternal v metaPath (pkgMemBytes s.pkgRollbackMeta 0 metaSize) else (true, v)

/-- `orizon_pkg_remove` from the deletion of the database files on. -/
def removeDatabase (desktop : DesktopHook H) (s : PkgState H) (pkg : PkgManifest) (id size metaSize : Nat)
    (paths removed : CStr × CStr) : Int × List CStr × PkgState H :=
  let restored (v : Vfs H) : Vfs H :=
    let v := (replayPayload false v (s.payload .pkgBuf pkg)).2
    let v := if metaSize > 0 then (pkgWriteBlobInternal v paths.2 (pkgMemBytes s.pkgRollbackMeta 0 metaSize)).2 else v
    let v := (pkgWriteBlobInternal v paths.1 (pkgMemBytes s.pkgBuf 0 size)).2
    snapshotTransaction (deleteBoth v removed.1 removed.2) (cstr "failed") (cstr "remove") pkg id (cstr "snapshot")
      (cstr "db-cleanup-failed")
  let failed (v : Vfs H) : Int × List CStr × PkgState H :=
    (-7, [cstr "pkg remove: database cleanup failed, package restored"], { s with vfs := restored v })
  match vfsDelete s.vfs paths.2 with
  | (.error _, v) => failed v
  | (.ok _, v) =>
      match vfsDelete v paths.1 with
      | (.error _, v) => failed v
      | (.ok _, v) =>
          match runPayloadScript v (s.payload .pkgBuf pkg) (cstr "post-remove") (cstr "end-post-remove") with
          | (r, v) =>
              match runDesktopHook desktop false pkg.name v with
              | (hook, v) =>
                  let v := appendHistory v [snprintfTexts 192 ([cstr "removed "] ++ nameVersion pkg ++
                    [cstr " transaction="] ++ transactionText id ++ [cstr " rollback=available"]), cstr "\n"]
                  let v := snapshotTransaction v (cstr "complete") (cstr "remove") pkg id (cstr "snapshot") (cstr "removed")
                  let s := orizonPkgRefreshDatabase { s with
                    vfs := v, pkgStatusText := cstr "package removed; rollback available" }
                  (0, (if r < 0 then [cstr "pkg remove: WARN post-remove script failed"] else []) ++ hook ++
                      [snprintfTexts 192 (cstr "Removed " :: nameVersion pkg), cstr "Rollback: pkg rollback <name>"],
                    { s with vfs := (vfsPersistSave s.vfs).2 })

/-- `orizon_pkg_remove` of the package that was read into `pkg_buf`. -/
def removeLoaded (desktop : DesktopHook H) (s : PkgState H) (pkg : PkgManifest) (size metaSize : Nat)
    (paths removed : CStr × CStr) : Int × List CStr × PkgState H :=
  match s.nextTransactionId with
  | (id, s) =>
      let v := snapshotTransaction s.vfs (cstr "running") (cstr "remove") pkg id (cstr "snapshot") (cstr "starting")
      match writeSnapshot { s with vfs := v } size metaSize removed.1 removed.2 with
      | (false, v) =>
          let v := snapshotTransaction v (cstr "failed") (cstr "remove") pkg id (cstr "snapshot") (cstr "snapshot-failed")
          (-4, [cstr "pkg remove: cannot prepare rollback snapshot"], { s with vfs := v })
      | (true, v) =>
          let lines := [snprintfTexts 192 (cstr "Removing " :: nameVersion pkg),
            snprintfTexts 192 ([cstr "Transaction "] ++ transactionText id ++ [cstr " action=remove rollback=snapshot"]),
            cstr "pkg: rollback snapshot saved for pkg rollback <name>"]
          match runPayloadScript v (s.payload .pkgBuf pkg) (cstr "pre-remove") (cstr "end-pre-remove") with
          | (r, v) =>
              if r < 0 then
                let v := snapshotTransaction (deleteBoth v removed.1 removed.2) (cstr "failed") (cstr "remove") pkg id
                  (cstr "snapshot") (cstr "pre-remove-failed")
                (-5, lines ++ [cstr "pkg remove: pre-remove failed, package left installed"], { s with vfs := v })
              else
                let v := (removePayloadFiles v (s.payload .pkgBuf pkg)).vfs
                match removeDatabase desktop { s with vfs := v } pkg id size metaSize paths removed with
                | (r, rest, s) => (r, lines ++ rest, s)

/-- `orizon_pkg_remove`.  `remove_payload_files` always returns 0, so -6 is not returned. -/
def orizonPkgRemove (desktop : DesktopHook H) (s : PkgState H) (name : CStr) : Int × List CStr × PkgState H :=
  let s := s.ready
  if !pkgNameSafe name then (-1, [cstr "pkg remove: invalid package name"], s)
  else if (findBuiltinPackage name).isSome then (-2, [cstr "pkg remove: builtin packages cannot be removed"], s)
  else
    match packageStorePaths name, packageRemovedPaths name with
    | some paths, some removed =>
        match s.readPkgBuf paths.1 with
        | (read, s) =>
            if !read.ok then (-3, [cstr "pkg remove: package not installed"], s)
            else
              match parseManifest (pkgMemBytes s.pkgBuf 0 read.bytes.length) with
              | .error _ => (-3, [cstr "pkg remove: package not installed"], s)
              | .ok (pkg, _) =>
                  match s.readRollbackMeta paths.2 with
                  | (readMeta, s) =>
                      removeLoaded desktop s pkg read.bytes.length
                        (if readMeta.ok then readMeta.bytes.length else 0) paths
                        removed
    | _, _ => (-3, [cstr "pkg remove: package not installed"], s)

/-! ## Rolling back -/

/-- `orizon_pkg_rollback` of the snapshot that was read into `pkg_rollback_buf`. -/
def rollbackLoaded (desktop : DesktopHook H) (s : PkgState H) (pkg : PkgManifest) (size : Nat) (removed : CStr × CStr) :
    Int × List CStr × PkgState H :=
  match s.nextTransactionId with
  | (id, s) =>
      let v := snapshotTransaction s.vfs (cstr "running") (cstr "rollback") pkg id (cstr "remove-snapshot") (cstr "starting")
      match pkgInstallLoaded desktop { s with vfs := v } removed.1 .pkgRollbackBuf size with
      | (r, lines, s) =>
          if r ≠ 0 then
            let v := snapshotTransaction s.vfs (cstr "failed") (cstr "rollback") pkg id (cstr "remove-snapshot")
              (cstr "restore-failed")
            (r, lines ++ [cstr "pkg rollback: restore failed, snapshot kept"], { s with vfs := v })
          else
            let v := appendHistory (deleteBoth s.vfs removed.1 removed.2) [snprintfTexts 192 ([cstr "rollback "] ++
              nameVersion pkg ++ [cstr " transaction="] ++ transactionText id ++ [cstr " restored"]), cstr "\n"]
            let v := snapshotTransaction v (cstr "complete") (cstr "rollback") pkg id (cstr "remove-snapshot")
              (cstr "restored")
            let s := orizonPkgRefreshDatabase { s with vfs := v, pkgStatusText := cstr "package rollback restored" }
            (0, lines ++ [snprintfTexts 192 ([cstr "Rollback transaction "] ++ transactionText id ++
                [cstr " source=remove-snapshot"]), snprintfTexts 192 (cstr "Restored " :: nameVersion pkg)],
              { s with vfs := (vfsPersistSave s.vfs).2 })

/-- `orizon_pkg_rollback`. -/
def orizonPkgRollback (desktop : DesktopHook H) (s : PkgState H) (name : CStr) : Int × List CStr × PkgState H :=
  let s := s.ready
  if !pkgNameSafe name then (-1, [cstr "pkg rollback: invalid package name"], s)
  else
    match packageStorePaths name, packageRemovedPaths name with
    | some paths, some removed =>
        match vfsStat s.vfs paths.2 with
        | .ok _ => (-2, [cstr "pkg rollback: package is already installed"], s)
        | .error _ =>
            match s.readRollbackBuf removed.1 with
            | (read, s) =>
                let invalid := (-3, [cstr "pkg rollback: no valid remove snapshot"], s)
                if !read.ok then invalid
                else
                  match parseManifest (pkgMemBytes s.pkgRollbackBuf 0 read.bytes.length) with
                  | .error _ => invalid
                  | .ok (pkg, _) =>
                      if pkg.name ≠ name then invalid else rollbackLoaded desktop s pkg read.bytes.length removed
    | _, _ => (-1, [cstr "pkg rollback: invalid paths"], s)

end Orizon
