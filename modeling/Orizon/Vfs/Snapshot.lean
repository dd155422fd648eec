import Orizon.Vfs.State

/-!
# Orizon.Vfs.Snapshot

The persistent snapshots of `fs/vfs.c`: where they lie on the disk, how one
is checked, and how a save writes one.

A data partition holds one or two slots of `PERSIST_BYTES` bytes.  A snapshot
is a header sector, then entries; a save writes to the slot after the active
one, sector by sector.
-/

namespace Orizon

/-- `PERSIST_BYTES`. -/
def persistBytes : Nat := 1024 * 1024

/-- `PERSIST_SECTORS`. -/
def persistSectors : Nat := persistBytes / sectorSize

/-- `PERSIST_SLOT_COUNT`. -/
def persistSlotCount : Nat := 2

/-- `PERSIST_HEADER_SIZE`. -/
def persistHeaderSize : Nat := sectorSize

/-- `PERSIST_VERSION`. -/
def persistVersion : Nat := 2

/-- `PERSIST_LEGACY_VERSION`. -/
def persistLegacyVersion : Nat := 1

/-- `PERSIST_SEQUENCE_OFFSET`. -/
def persistSequenceOffset : Nat := 24

/-- The seven bytes of `PERSIST_MAGIC` that are compared. -/
def persistMagic : List UInt8 := (cstr "ORZPFS1").map Subtype.val

/-! ## Buffers -/

/-- `memcmp(buf + off, bytes, n) == 0`. -/
def memcmpEq (buf : Mem) (off : Nat) (bytes : List UInt8) : Bool :=
  (List.range bytes.length).map (fun i => buf (off + i)) = bytes

/-- `memcpy` of `n` bytes between different arrays. -/
def bufCopy (buf : Mem) (off : Nat) (src : Mem) (n : Nat) : Mem :=
  fun i => if off ≤ i ∧ i < off + n then src (i - off) else buf i

/-- A byte string as an array. -/
def bytesMem (bs : List UInt8) : Mem := fun i => bs.getD i 0

/-- `get_u16`. -/
def getU16 (buf : Mem) (off : Nat) : Nat := load buf 2 off

/-- `get_u32`, `persist_get_u32`. -/
def getU32 (buf : Mem) (off : Nat) : Nat := load buf 4 off

/-- `persist_get_u64`. -/
def getU64 (buf : Mem) (off : Nat) : Nat := load buf 8 off

/-- `put_u16`. -/
def putU16 (buf : Mem) (off value : Nat) : Mem := store buf 2 off value

/-- `put_u32`. -/
def putU32 (buf : Mem) (off value : Nat) : Mem := store buf 4 off value

/-- The loop body of `persist_checksum`. -/
def persistChecksumStep (sum : Nat) (b : UInt8) : Nat :=
  (((sum <<< 5) % 2 ^ 32 ||| sum >>> 27) + b.toNat) % 2 ^ 32

/-- `persist_checksum` of `size` bytes from `off`. -/
def persistChecksum (buf : Mem) (off size : Nat) : Nat :=
  (List.range size).foldl (fun sum i => persistChecksumStep sum (buf (off + i))) 0

/-! ## The data partition -/

/-- `data_type` of `persist_orizon_data_partition_present`. -/
def orizonDataType : List UInt8 :=
  [0x4f, 0x52, 0x5a, 0x44, 0x41, 0x54, 0x41, 0x00,
    0x9a, 0x3d, 0x20, 0x26, 0x05, 0x11, 0x00, 0x01]

/-- ASCII lower case. -/
def asciiLower (ch : UInt8) : UInt8 := if 0x41 ≤ ch ∧ ch ≤ 0x5a then ch - 0x41 + 0x61 else ch

/-- `persist_gpt_name_is_orizon_data` of the entry at `off`. -/
def persistGptNameIsOrizonData (sec : Mem) (off : Nat) : Bool :=
  let name := (cstr "orizon-data").map Subtype.val
  ((List.range name.length).all fun i =>
      sec (off + 56 + i * 2 + 1) = 0 && asciiLower (sec (off + 56 + i * 2)) = name.getD i 0) &&
    sec (off + 56 + name.length * 2) = 0 && sec (off + 56 + name.length * 2 + 1) = 0

/-- One entry of the partition scan: `some (first, sectors)` if it is a usable
data partition. -/
def gptEntry (sec : Mem) (off : Nat) : Option (Nat × Nat) :=
  if memcmpEq sec off orizonDataType || persistGptNameIsOrizonData sec off then
    let firstLba := getU64 sec (off + 32)
    let lastLba := getU64 sec (off + 40)
    if firstLba ≥ 34 ∧ lastLba ≥ firstLba then
      let sectors := lastLba - firstLba + 1
      if sectors < persistSectors then none else some (firstLba, sectors)
    else none
  else none

/-- The sector that holds entry `i`. -/
def gptEntryLba (entriesLba entrySize i : Nat) : Nat :=
  (entriesLba + i * entrySize / sectorSize) % 2 ^ 64

/-- The loop over the partition entries; an unreadable sector ends the scan. -/
def gptScan (d : Disk) (entriesLba entrySize : Nat) : List Nat → Option (Nat × Nat)
  | [] => none
  | i :: is =>
      match storageRead d (gptEntryLba entriesLba entrySize i) with
      | none => none
      | some sec =>
          match gptEntry sec (i * entrySize % sectorSize) with
          | some found => some found
          | none => gptScan d entriesLba entrySize is

/-- The data partition `persist_orizon_data_partition_present` finds: its
first sector and its length. -/
def findDataPartition (d : Disk) : Option (Nat × Nat) :=
  if d.available then
    match storageRead d 1 with
    | none => none
    | some hdr =>
        if memcmpEq hdr 0 ((cstr "EFI PART").map Subtype.val) then
          let entriesLba := getU64 hdr 72
          let entryCount := getU32 hdr 80
          let entrySize := getU32 hdr 84
          if entriesLba = 0 ∨ entrySize ≠ 128 ∨ entryCount = 0 then none
          else gptScan d entriesLba entrySize (List.range (min entryCount 128))
        else none
  else none

/-- `persist_orizon_data_partition_present`. -/
def persistOrizonDataPartitionPresent (d : Disk) (p : Persist) : Bool × Persist :=
  match findDataPartition d with
  | none => (false, { p with slotsAvailable := 0, dataSectors := 0 })
  | some (firstLba, sectors) =>
      (true, { p with
        lba := firstLba
        dataSectors := sectors
        slotsAvailable := if sectors ≥ persistSectors * persistSlotCount then persistSlotCount
          else 1 })

/-! ## Reading a slot -/

/-- A checked snapshot header (`persist_snapshot_meta_t` with `valid` set). -/
structure SnapshotMeta where
  version : Nat
  entryCount : Nat
  payloadSize : Nat
  checksum : Nat
  sequence : Nat
  slot : Nat
  deriving DecidableEq, Repr

/-- `persist_snapshot_validate`. -/
def persistSnapshotValidate (buf : Mem) (slot : Nat) : Option SnapshotMeta :=
  if memcmpEq buf 0 persistMagic then
    let version := getU32 buf 8
    if version ≠ persistVersion ∧ version ≠ persistLegacyVersion then none
    else
      let entryCount := getU32 buf 12
      let payloadSize := getU32 buf 16
      let checksum := getU32 buf 20
      if entryCount > maxFiles ∨ payloadSize > persistBytes - persistHeaderSize then none
      else if checksum ≠ persistChecksum buf persistHeaderSize payloadSize then none
      else some
        { version, entryCount, payloadSize, checksum
          sequence := if version ≥ persistVersion then getU32 buf persistSequenceOffset else 0
          slot }
  else none

/-- `persist_snapshot_is_newer`. -/
def persistSnapshotIsNewer (candidate best : Option SnapshotMeta) : Bool :=
  match candidate with
  | none => false
  | some c =>
      match best with
      | none => true
      | some b =>
          if c.version ≠ b.version then c.version > b.version
          else if c.sequence ≠ b.sequence then c.sequence > b.sequence
          else c.slot < b.slot

/-- `persist_storage_read` of `sectors` sectors from `lba` to offset `off`,
one sector at a time. -/
def persistStorageRead (d : Disk) (lba : Nat) (buf : Mem) (off : Nat) : Nat → Bool × Mem
  | 0 => (true, buf)
  | sectors + 1 =>
      match storageRead d lba with
      | none => (false, buf)
      | some sec =>
          persistStorageRead d (lba + 1) (bufCopy buf off sec sectorSize) (off + sectorSize) sectors

/-- `persist_snapshot_sector_count`. -/
def persistSnapshotSectorCount (payloadSize : Nat) : Nat :=
  let sectors := (persistHeaderSize + payloadSize + sectorSize - 1) / sectorSize
  let sectors := if sectors = 0 then 1 else sectors
  if sectors > persistSectors then persistSectors else sectors

/-- The result of `persist_read_slot_snapshot`: 0, -1 or -2. -/
inductive SlotStatus
  | ok (info : SnapshotMeta)
  | ioError
  | invalid
  deriving DecidableEq, Repr

/-- `persist_slot_lba`. -/
def persistSlotLba (p : Persist) (slot : Nat) : Nat := p.lba + slot * persistSectors

/-- `persist_read_slot_snapshot`. -/
def persistReadSlotSnapshot (d : Disk) (p : Persist) (slot : Nat) : SlotStatus × Persist :=
  if slot ≥ p.slotsAvailable then (.ioError, p)
  else
    let lba := persistSlotLba p slot
    match persistStorageRead d lba p.buf 0 1 with
    | (false, buf) => (.ioError, { p with buf })
    | (true, buf) =>
        let version := getU32 buf 8
        let entryCount := getU32 buf 12
        let payloadSize := getU32 buf 16
        if ¬ memcmpEq buf 0 persistMagic then (.invalid, { p with buf })
        else if (version ≠ persistVersion ∧ version ≠ persistLegacyVersion) ∨
            entryCount > maxFiles ∨ payloadSize > persistBytes - persistHeaderSize then
          (.invalid, { p with buf })
        else
          let sectors := persistSnapshotSectorCount payloadSize
          match persistStorageRead d (lba + 1) buf sectorSize (sectors - 1) with
          | (false, buf) => (.ioError, { p with buf })
          | (true, buf) =>
              match persistSnapshotValidate buf slot with
              | none => (.invalid, { p with buf })
              | some info => (.ok info, { p with buf })

/-- `persist_set_loaded_meta`. -/
def persistSetLoadedMeta (p : Persist) (info : SnapshotMeta) : Persist :=
  { p with
    activeSlot := some info.slot
    sequence := info.sequence
    lastEntryCount := info.entryCount
    lastPayloadSize := info.payloadSize
    lastChecksum := info.checksum
    lastVersion := info.version }

/-- The statics after no valid snapshot was found. -/
def persistResetMeta (p : Persist) : Persist :=
  { p with
    activeSlot := none
    sequence := 0
    lastEntryCount := 0
    lastPayloadSize := 0
    lastChecksum := 0
    lastVersion := 0 }

/-- The number of slots the loops over the slots visit. -/
def persistSlotsToScan (p : Persist) : Nat :=
  if p.slotsAvailable = 0 ∨ p.slotsAvailable > persistSlotCount then 1 else p.slotsAvailable

/-- The best snapshot so far, after looking at one more slot. -/
def persistScanSlot (d : Disk) (acc : Option SnapshotMeta × Bool × Persist) (slot : Nat) :
    Option SnapshotMeta × Bool × Persist :=
  match persistReadSlotSnapshot d acc.2.2 slot with
  | (.ok info, p) =>
      (if persistSnapshotIsNewer (some info) acc.1 then some info else acc.1, acc.2.1, p)
  | (.ioError, p) => (acc.1, true, p)
  | (.invalid, p) => (acc.1, acc.2.1, p)

/-- The loop over the slots: the newest snapshot and whether a read failed. -/
def persistScanSlots (d : Disk) (p : Persist) : Option SnapshotMeta × Bool × Persist :=
  (List.range (persistSlotsToScan p)).foldl (persistScanSlot d) (none, false, p)

/-- `persist_prepare_metadata_for_save`. -/
def persistPrepareMetadataForSave (d : Disk) (p : Persist) : Persist :=
  match persistScanSlots d p with
  | (some best, _, p) => persistSetLoadedMeta p best
  | (none, _, p) => persistResetMeta p

/-! ## Writing a slot -/

/-- The variables of the encoding loops. -/
structure Encoder where
  buf : Mem
  offset : Nat
  entryCount : Nat

/-- The type byte of an entry. -/
def InodeType.code : InodeType → UInt8
  | .file => 0
  | .dir => 1

/-- `persist_append_entry`; `none` is -1. -/
def persistAppendEntry (e : Encoder) (node : Inode) : Option Encoder :=
  let pathLen := node.path.val.length
  let dataSize := if node.type = .file then node.size else 0
  let needed := 1 + 2 + 4 + pathLen + dataSize
  if pathLen = 0 ∨ pathLen > 0xFFFF ∨ dataSize > 0xFFFFFFFF then none
  else if e.offset + needed > persistBytes then none
  else
    let p := e.offset
    let buf := store e.buf 1 p node.type.code.toNat
    let buf := putU16 buf (p + 1) pathLen
    let buf := putU32 buf (p + 3) dataSize
    let buf := bufCopy buf (p + 7) (bytesMem (node.path.val.map Subtype.val)) pathLen
    let buf := match node.data with
      | some d => if dataSize > 0 then bufCopy buf (p + 7 + pathLen) d.bytes dataSize else buf
      | none => buf
    some ⟨buf, p + needed, e.entryCount + 1⟩

/-- The loop appending the given inodes; `false` if one does not fit. -/
def persistAppendEntries : List Inode → Encoder → Bool × Encoder
  | [], e => (true, e)
  | node :: nodes, e =>
      match persistAppendEntry e node with
      | none => (false, e)
      | some e => persistAppendEntries nodes e

/-- The inodes a save writes: directories first, then files, each in table
order. -/
def persistedInodes {H : Type} (v : Vfs H) : List Inode :=
  let nodes := (List.range v.inodeCount).map v.inodes
  (nodes.filter fun n => n.type = .dir && pathShouldPersist n.path.val &&
      !pathIsPersistentRoot n.path.val) ++
    nodes.filter fun n => n.type = .file && pathShouldPersist n.path.val

/-- `persist_storage_write`: `sectors` sectors from offset `off` of the buffer,
one at a time; the device keeps what was written before a failure. -/
def persistStorageWrite (d : Disk) (lba : Nat) (buf : Mem) (off : Nat) : Nat → Bool × Disk
  | 0 => (true, d)
  | sectors + 1 =>
      match storageWrite d lba fun i => buf (off + i) with
      | none => (false, d)
      | some d => persistStorageWrite d (lba + 1) buf (off + sectorSize) sectors

/-- The slot a save writes. -/
def persistTargetSlot (p : Persist) : Nat :=
  match p.activeSlot with
  | none => 0
  | some slot => if p.slotsAvailable > 1 then (slot + 1) % p.slotsAvailable else 0

/-- The sequence number a save writes. -/
def persistNextSequence (p : Persist) : Nat :=
  let next := (p.sequence + 1) % 2 ^ 32
  if next = 0 then 1 else next

/-- The buffer before the entries: magic, version and sequence. -/
def persistHeader (nextSequence : Nat) : Mem :=
  let buf := bufCopy (fun _ => 0) 0 (bytesMem persistMagic) 7
  let buf := putU32 buf 8 persistVersion
  putU32 buf persistSequenceOffset nextSequence

/-- The header fields that are known after the entries. -/
def persistFinishHeader (e : Encoder) : Mem :=
  let payloadSize := e.offset - persistHeaderSize
  let checksum := persistChecksum e.buf persistHeaderSize payloadSize
  putU32 (putU32 (putU32 e.buf 12 e.entryCount) 16 payloadSize) 20 checksum

/-- `vfs_persist_save`. -/
def vfsPersistSave {H : Type} (v : Vfs H) : Except Errno Unit × Vfs H :=
  if v.persist.loading then (.error .einval, v)
  else if ¬ v.disk.available then (.error .eio, v)
  else
    match persistOrizonDataPartitionPresent v.disk v.persist with
    | (false, p) => (.error .eio, { v with persist := { p with ready := false } })
    | (true, p) =>
        let p := if p.ready then p
          else persistPrepareMetadataForSave v.disk { p with ready := true }
        let targetSlot := persistTargetSlot p
        let nextSequence := persistNextSequence p
        match persistAppendEntries (persistedInodes v)
            ⟨persistHeader nextSequence, persistHeaderSize, 0⟩ with
        | (false, e) => (.error .enospc, { v with persist := { p with buf := e.buf } })
        | (true, e) =>
            let buf := persistFinishHeader e
            let payloadSize := e.offset - persistHeaderSize
            let sectors := (e.offset + sectorSize - 1) / sectorSize
            let sectors := if sectors = 0 then 1 else sectors
            match persistStorageWrite v.disk (persistSlotLba p targetSlot) buf 0 sectors with
            | (false, disk) => (.error .eio, { v with persist := { p with buf }, disk })
            | (true, disk) =>
                (.ok (), { v with
                  disk
                  persist := { p with
                    buf
                    activeSlot := some targetSlot
                    sequence := nextSequence
                    lastEntryCount := e.entryCount
                    lastPayloadSize := payloadSize
                    lastChecksum := persistChecksum e.buf persistHeaderSize payloadSize
                    lastVersion := persistVersion } })

end Orizon
