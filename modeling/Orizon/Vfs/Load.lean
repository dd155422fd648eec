import Orizon.Vfs.Files

/-!
# Orizon.Vfs.Load

Restoring snapshots: the entry loop, `vfs_persist_load`, and the other entry
points of the persistence layer.

A call that clears directories runs on fuel and may not return; `none` stands
for that.  Every round that finds a child removes an entry or never ends, so
`clearFuel` covers every call that returns.
-/

namespace Orizon

variable {H : Type} [Allocator H]

/-! ## Default content -/

/-- The directories of `vfs_ensure_data_roots`, in order. -/
def dataRoots : List CStr :=
  [cstr "/workspace", cstr "/system", cstr "/system/share", cstr "/system/firmware",
    cstr "/home", cstr "/home/orizon", cstr "/packages", cstr "/logs", cstr "/tmp"]

/-- `vfs_ensure_data_roots`. -/
def vfsEnsureDataRoots (v : Vfs H) : Vfs H :=
  dataRoots.foldl (fun v path => (vfsMkdir v path).2) v

/-- `vfs_write_default_file`. -/
def vfsWriteDefaultFile (v : Vfs H) (path text : CStr) : Vfs H :=
  if vfsExists v path then v
  else
    match vfsOpen v path (oCreat ||| oWronly) with
    | (none, v) => v
    | (some fd, v) => vfsClose (vfsWrite v fd (text.map Subtype.val)).2 fd

/-- The files of `persist_write_default_data_files` after the first, in
order. -/
def defaultFiles : List (CStr × CStr) :=
  [(cstr "/system/hostname", cstr "orizon-os"),
    (cstr "/system/version", cstr "core-x86_64"),
    (cstr "/system/profile", cstr "minimal-development\n"),
    (cstr "/system/network.conf", cstr "mode dhcp\n"),
    (cstr "/home/orizon/README.txt", cstr "Home directory for Orizon OS user files.\n"),
    (cstr "/packages/README.txt", cstr "Local package cache and installed package metadata.\n"),
    (cstr "/logs/README.txt", cstr "Persistent boot, install and update logs.\n")]

/-- `persist_write_default_data_files`. -/
def persistWriteDefaultDataFiles (v : Vfs H) : Vfs H :=
  let v := vfsEnsureDataRoots v
  let v := vfsWriteDefaultFile v (cstr "/system/data-layout")
    (cstr "version 1\nroots /system /home /packages /logs /workspace\n")
  let v := (vfsMkdir v (cstr "/system/firmware")).2
  defaultFiles.foldl (fun v f => vfsWriteDefaultFile v f.1 f.2) v

/-! ## Applying a snapshot -/

/-- The string that starts a byte array. -/
def toCStr : List UInt8 → CStr
  | [] => []
  | b :: bs => if h : b ≠ 0 then ⟨b, h⟩ :: toCStr bs else []

/-- `len` bytes of a buffer. -/
def bufBytes (buf : Mem) (off len : Nat) : List UInt8 := (List.range len).map fun i => buf (off + i)

/-- One entry of a snapshot: create the directory or rewrite the file.  `false`
if the entry's type is unknown. -/
def applyEntry (v : Vfs H) (type : Nat) (path : CStr) (data : List UInt8) : Bool × Vfs H :=
  if ¬ pathShouldPersist path ∨ pathIsPersistentRoot path then (true, v)
  else
    let v := (ensureParentDirs v path).2
    if type = 1 then (true, if (findInode v path).isSome then v else (createInode v path .dir).2)
    else if type = 0 then
      match vfsOpen v path (oCreat ||| oWronly ||| oTrunc) with
      | (none, v) => (true, v)
      | (some fd, v) => (true, vfsClose (vfsWrite v fd data).2 fd)
    else (false, v)

/-- The entry loop of `persist_apply_snapshot_entries`: `n` entries from
`offset` of the payload that ends at `limit`.  `false` if malformed. -/
def applyEntries (buf : Mem) (limit : Nat) (v : Vfs H) (offset : Nat) : Nat → Bool × Vfs H
  | 0 => (true, v)
  | n + 1 =>
      if offset + 7 > limit then (false, v)
      else
        let type := (buf offset).toNat
        let pathLen := getU16 buf (offset + 1)
        let dataSize := getU32 buf (offset + 3)
        let offset := offset + 7
        if pathLen = 0 ∨ pathLen ≥ maxPath ∨ offset + pathLen + dataSize > limit then (false, v)
        else
          let path := toCStr (bufBytes buf offset pathLen)
          let offset := offset + pathLen
          let (wellTyped, v) := applyEntry v type path (bufBytes buf offset dataSize)
          let (rest, v) := applyEntries buf limit v (offset + dataSize) n
          (wellTyped && rest, v)

/-- Fuel for clearing a directory. -/
def clearFuel : Nat := 4 * maxFiles + 4

/-- The `clear_directory_contents` calls of `persist_apply_snapshot_entries`. -/
def clearRoots (v : Vfs H) : Option (Vfs H) :=
  persistentRoots.foldlM (fun v root => clearDirectoryContents clearFuel v root) v

/-- `persist_apply_snapshot_entries`: `false` is -EINVAL. -/
def persistApplySnapshotEntries (v : Vfs H) (info : SnapshotMeta) : Option (Bool × Vfs H) :=
  match clearRoots v with
  | none => none
  | some v =>
      let (wellFormed, v) := applyEntries v.persist.buf (persistHeaderSize + info.payloadSize) v
        persistHeaderSize info.entryCount
      some (wellFormed, persistWriteDefaultDataFiles v)

/-! ## Entry points -/

/-- Replace the persistence statics. -/
def Vfs.setPersist (v : Vfs H) (p : Persist) : Vfs H := { v with persist := p }

/-- `vfs_persist_load`. -/
def vfsPersistLoad (v : Vfs H) : Option (Vfs H) :=
  let v := vfsInit v
  if ¬ v.disk.available then some (v.setPersist { v.persist with ready := false })
  else
    match persistOrizonDataPartitionPresent v.disk v.persist with
    | (false, p) => some (v.setPersist { p with ready := false })
    | (true, p) =>
        match persistScanSlots v.disk { p with loading := true, ready := true } with
        | (none, _, p) =>
            some (vfsPersistSave (v.setPersist { persistResetMeta p with loading := false })).2
        | (some best, _, p) =>
            match persistReadSlotSnapshot v.disk p best.slot with
            | (.ok info, p) =>
                match persistApplySnapshotEntries (v.setPersist (persistSetLoadedMeta p info))
                    info with
                | none => none
                | some (_, v) =>
                    let v := v.setPersist { v.persist with loading := false }
                    if info.version = persistLegacyVersion then some (vfsPersistSave v).2 else some v
            | (_, p) => some (v.setPersist { p with loading := false })

/-- The checks at the start of `vfs_persist_enable_installed`,
`vfs_persist_repair` and `vfs_persist_restore_slot`: the statics when a data
partition is there. -/
def persistOpenPartition (v : Vfs H) : Bool × Vfs H :=
  let v := vfsInit v
  if ¬ v.disk.available then (false, v.setPersist { v.persist with ready := false })
  else
    match persistOrizonDataPartitionPresent v.disk v.persist with
    | (false, p) => (false, v.setPersist { p with ready := false })
    | (true, p) => (true, v.setPersist p)

/-- `vfs_persist_enable_installed`. -/
def vfsPersistEnableInstalled (v : Vfs H) : Except Errno Unit × Vfs H :=
  match persistOpenPartition v with
  | (false, v) => (.error .eio, v)
  | (true, v) =>
      (.ok (), v.setPersist { v.persist with loading := false, ready := true, activeSlot := none })

/-- `vfs_persist_restore_slot`. -/
def vfsPersistRestoreSlot (v : Vfs H) (slot : Int) : Option (Except Errno Unit × Vfs H) :=
  match persistOpenPartition v with
  | (false, v) => some (.error .eio, v)
  | (true, v) =>
      if slot < 0 ∨ slot ≥ v.persist.slotsAvailable then some (.error .einval, v)
      else
        match persistReadSlotSnapshot v.disk v.persist slot.toNat with
        | (.ok info, p) =>
            match persistApplySnapshotEntries
                (v.setPersist (persistSetLoadedMeta { p with ready := true, loading := true } info))
                info with
            | none => none
            | some (wellFormed, v) =>
                let v := v.setPersist { v.persist with loading := false }
                if wellFormed then some (vfsPersistSave v) else some (.error .einval, v)
        | (_, p) => some (.error .eio, v.setPersist p)

/-- `vfs_persist_repair`. -/
def vfsPersistRepair (v : Vfs H) : Except Errno Unit × Vfs H :=
  match persistOpenPartition v with
  | (false, v) => (.error .eio, v)
  | (true, v) => vfsPersistSave (v.setPersist { v.persist with ready := true, loading := false })

end Orizon
