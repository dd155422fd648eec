import Orizon.Install.Gpt
import Orizon.Lib.Traced

/-!
# Orizon.Install.Fat

The EFI system partition of another system, as `system/install.c` finds, mounts and
extends it.

The first table of the file system is kept in `install_fat`.  A function runs on the
device and that buffer, and leaves what it wrote and where it accessed the buffer; before
a chain is freed or allocated, and before the root cluster is marked, it leaves the buffer
it is about to work on.  An access outside the buffer stops the run: what follows it in C
is not defined.  The report is left out.
-/

namespace Orizon

/-! ## Types -/

/-- `gpt_partition_t`. -/
structure GptPartition where
  index : Nat
  firstLba : Nat
  lastLba : Nat
  sectors : Nat
  deriving DecidableEq

/-- `fat32_volume_t`, without the `next_cluster` that only a new file system uses. -/
structure Fat32Volume where
  startLba : Nat
  totalSectors : Nat
  sectorsPerCluster : Nat
  reservedSectors : Nat
  fatCount : Nat
  sectorsPerFat : Nat
  rootCluster : Nat
  dataStartSector : Nat
  clusterCount : Nat
  deriving DecidableEq

/-- A file that is in memory, or a null pointer. -/
structure BootFile where
  data : Option Mem
  size : Nat
  size_lt : size < 2 ^ 40

/-- `install_boot_payload_t`. -/
structure InstallBootPayload where
  kernel : BootFile
  efi : BootFile
  limineConf : BootFile
  installText : BootFile
  rollbackKernel : BootFile
  rollbackEfi : BootFile

/-- The device and `install_fat`. -/
structure Esp where
  disk : Disk
  fat : Mem

/-- Why a function stops: it returns -1, or it went where C defines nothing. -/
inductive EspStop
  | failed
  | undefined
  deriving DecidableEq

/-- What a function did, or is about to do. -/
inductive EspEvent
  /-- `n` sectors are written. -/
  | sectors (lba n : Nat)
  /-- `n` bytes of `install_fat` are accessed. -/
  | buffer (off n : Nat)
  /-- A chain is about to be freed. -/
  | free (fat : Mem) (cluster : Nat)
  /-- A chain of `count` clusters is about to be allocated. -/
  | alloc (fat : Mem) (count : Nat)
  /-- The root cluster is about to be marked. -/
  | root

abbrev EspM := Traced EspEvent Esp EspStop

/-! ## Constants -/

/-- `INSTALL_FAT_SECTORS_MAX`. -/
def installFatSectorsMax : Nat := 2048

/-- `INSTALL_CLUSTER_BYTES`. -/
def installClusterBytes : Nat := 4096

/-- The size of `install_fat`. -/
def installFatBytes : Nat := installFatSectorsMax * sectorSize

/-- The number of its entries. -/
def installFatEntries : Nat := installFatBytes / 4

/-! ## The device -/

open Traced

/-- `storage_write` of `n` sectors, or `write_sector` where `n` is 1. -/
def espWrite (lba : Nat) (buf : Mem) (n : Nat) : EspM Unit := do
  leave (.sectors lba n)
  let ok ← reads fun s => (writeSectors (bufSectors lba buf n) s.disk).1
  modify fun s => { s with disk := (writeSectors (bufSectors lba buf n) s.disk).2 }
  if ok then pure () else stop .failed

/-- An access of `install_fat`. -/
def accessFat (off n : Nat) : EspM Unit := do
  leave (.buffer off n)
  if off + n ≤ installFatBytes then pure () else stop .undefined

/-! ## Mounting -/

/-- The loop of `gpt_find_esp`, where `storage_sector_count` is `sectors`. -/
def gptFindEspScan (d : Disk) (sectors entriesLba entrySize : Nat) : List Nat → Option GptPartition
  | [] => none
  | i :: is =>
      match storageRead d (gptEntryLba entriesLba entrySize i) with
      | none => none
      | some sec =>
          let off := i * entrySize % sectorSize
          let first := getU64 sec (off + 32)
          let last := getU64 sec (off + 40)
          if !memcmpEq sec off espType || decide (last ≤ first ∨ first < 34 ∨ last ≥ sectors) then
            gptFindEspScan d sectors entriesLba entrySize is
          else some ⟨i + 1, first, last, last - first + 1⟩

/-- `gpt_find_esp`. -/
def gptFindEsp (d : Disk) (sectors : Nat) : Option GptPartition :=
  if d.available then
    match storageRead d 1 with
    | none => none
    | some hdr =>
        let entriesLba := getU64 hdr 72
        let entryCount := getU32 hdr 80
        let entrySize := getU32 hdr 84
        if !memcmpEq hdr 0 efiPart ∨ entriesLba = 0 ∨ entryCount = 0 ∨ entrySize ≠ installGptEntrySize then
          none
        else gptFindEspScan d sectors entriesLba entrySize (List.range (min entryCount installGptEntryCount))
  else none

/-- The fields of `fat32_mount_existing_esp`, before they are checked. -/
def fat32Fields (boot : Mem) (part : GptPartition) : Fat32Volume :=
  let total := if getU16 boot 19 = 0 then getU32 boot 32 else getU16 boot 19
  let total := if total = 0 ∨ total > part.sectors then part.sectors % 2 ^ 32 else total
  let spc := (boot 13).toNat
  let reserved := getU16 boot 14
  let fatCount := (boot 16).toNat
  let spf := getU32 boot 36
  let dataStart := (reserved + fatCount * spf % 2 ^ 32) % 2 ^ 32
  let dataSectors := if dataStart < total then total - dataStart else 0
  { startLba := part.firstLba
    totalSectors := total
    sectorsPerCluster := spc
    reservedSectors := reserved
    fatCount := fatCount
    sectorsPerFat := spf
    rootCluster := getU32 boot 44
    dataStartSector := dataStart
    clusterCount := if spc ≠ 0 then dataSectors / spc else 0 }

/-- `fat32_mount_existing_esp`. -/
def fat32MountExistingEsp (d : Disk) (part : GptPartition) : Option Fat32Volume :=
  if part.sectors = 0 then none
  else
    match storageRead d part.firstLba with
    | none => none
    | some boot =>
        let vol := fat32Fields boot part
        if getU16 boot 11 ≠ sectorSize ∨ boot 510 ≠ 0x55 ∨ boot 511 ≠ 0xaa ∨
            memcmpEq boot 82 ((cstr "FAT32").map Subtype.val) = false ∨
            vol.sectorsPerCluster = 0 ∨ vol.sectorsPerCluster * sectorSize > installClusterBytes ∨
            vol.reservedSectors = 0 ∨ vol.fatCount = 0 ∨ vol.fatCount > 2 ∨ vol.sectorsPerFat = 0 ∨
            vol.sectorsPerFat > installFatSectorsMax ∨ vol.rootCluster < 2 ∨ vol.clusterCount < 128 then none
        else some vol

/-! ## Clusters -/

/-- The sum of `cluster_count` and 2 that bounds a cluster. -/
def Fat32Volume.limit (vol : Fat32Volume) : Nat := (vol.clusterCount + 2) % 2 ^ 32

/-- The size of a cluster. -/
def Fat32Volume.clusterBytes (vol : Fat32Volume) : Nat := vol.sectorsPerCluster * sectorSize

/-- `fat_cluster_lba`. -/
def fatClusterLba (vol : Fat32Volume) (cluster : Nat) : Nat :=
  (vol.startLba + vol.dataStartSector +
    (cluster + 2 ^ 32 - 2) % 2 ^ 32 * vol.sectorsPerCluster) % 2 ^ 64

/-- `fat_write_cluster`. -/
def fatWriteCluster (vol : Fat32Volume) (cluster : Nat) (data : Mem) : EspM Unit :=
  espWrite (fatClusterLba vol cluster) data vol.sectorsPerCluster

/-- `fat_read_cluster`. -/
def fatReadCluster (vol : Fat32Volume) (d : Disk) (cluster : Nat) : Option Mem :=
  if cluster < 2 ∨ cluster ≥ vol.limit ∨ vol.clusterBytes > installClusterBytes then none
  else storageReadSectors d (fatClusterLba vol cluster) vol.sectorsPerCluster

/-- `fat_write_file_data`, whose rounds write 4096 bytes to a cluster each. -/
def fatWriteFileData (vol : Fat32Volume) (firstCluster : Nat) (data : Mem) (size : Nat) : EspM Unit :=
  (List.range ((size + installClusterBytes - 1) / installClusterBytes)).forM fun i =>
    let done := i * installClusterBytes
    fatWriteCluster vol ((firstCluster + i) % 2 ^ 32)
      (bufCopy zeroMem 0 (memFrom data done) (min (size - done) installClusterBytes))

/-! ## The table -/

/-- Where the entry of a cluster is in `install_fat`. -/
def fatOffset (cluster : Nat) : Nat := cluster * 4 % 2 ^ 32

/-- The entry of a cluster. -/
def fatEntry (fat : Mem) (cluster : Nat) : Nat := getU32 fat (fatOffset cluster) % 2 ^ 28

/-- `fat_get`. -/
def fatGet (cluster : Nat) : EspM Nat := do
  accessFat (fatOffset cluster) 4
  reads fun s => fatEntry s.fat cluster

/-- `fat_set`. -/
def fatSet (cluster value : Nat) : EspM Unit := do
  accessFat (fatOffset cluster) 4
  modify fun s => { s with fat := putU32 s.fat (fatOffset cluster) value }

/-- The loop of `fat_free_chain`. -/
def fatFreeLoop (limit : Nat) : Nat → Nat → EspM Unit
  | 0, _ => pure ()
  | fuel + 1, cluster =>
      if 2 ≤ cluster ∧ cluster < limit then do
        let next ← fatGet cluster
        fatSet cluster 0
        if next ≥ 0x0ffffff8 ∨ next = cluster then pure () else fatFreeLoop limit fuel next
      else pure ()

/-- `fat_free_chain`; a round clears an entry or is the last, so that there are no more
rounds than entries. -/
def fatFreeChain (vol : Fat32Volume) (cluster : Nat) : EspM Unit :=
  announced (fun s => .free s.fat cluster) (fatFreeLoop vol.limit (installFatEntries + 1) cluster)

/-- `fat32_load_fat`. -/
def fat32LoadFat (vol : Fat32Volume) : EspM Unit :=
  if vol.sectorsPerFat = 0 ∨ vol.sectorsPerFat > installFatSectorsMax then stop .failed
  else do
    accessFat 0 installFatBytes
    modify fun s => { s with fat := zeroMem }
    accessFat 0 (vol.sectorsPerFat * sectorSize)
    let read ← reads fun s =>
      storageReadSectors s.disk ((vol.startLba + vol.reservedSectors) % 2 ^ 64) vol.sectorsPerFat
    match read with
    | none => stop .failed
    | some bytes => modify fun s => { s with fat := bufCopy s.fat 0 bytes (vol.sectorsPerFat * sectorSize) }

/-- The inner loop of `fat_alloc_chain_scan`: the first of `n` entries from the `i`th on
that is not free. -/
def fatFreeRun (first : Nat) : Nat → Nat → EspM (Option Nat)
  | 0, _ => pure none
  | n + 1, i => do
      let entry ← fatGet ((first + i) % 2 ^ 32)
      if entry ≠ 0 then pure (some i) else fatFreeRun first n (i + 1)

/-- The entries of a chain of neighbours. -/
def fatLinkRun (first count : Nat) : EspM Unit :=
  (List.range count).forM fun i =>
    fatSet ((first + i) % 2 ^ 32) (if i + 1 = count then 0x0fffffff else (first + i + 1) % 2 ^ 32)

/-- The outer loop of `fat_alloc_chain_scan`. -/
def fatAllocLoop (limit count : Nat) : Nat → Nat → EspM Nat
  | 0, _ => pure 0
  | fuel + 1, first =>
      if (first + count) % 2 ^ 32 < limit then do
        let used ← fatFreeRun first count 0
        match used with
        | some i => fatAllocLoop limit count fuel ((first + i + 1) % 2 ^ 32)
        | none => do
            fatLinkRun first count
            pure first
      else pure 0

/-- The number of clusters that `bytes` bytes take. -/
def fatClusterCount (vol : Fat32Volume) (bytes : Nat) : Nat :=
  let count := (bytes + vol.clusterBytes - 1) / vol.clusterBytes % 2 ^ 32
  if count = 0 then 1 else count

/-- `fat_alloc_chain_scan`; a round goes on behind the entry it ended at, so that there
are no more rounds than entries. -/
def fatAllocChainScan (vol : Fat32Volume) (bytes : Nat) : EspM Nat :=
  if vol.clusterBytes = 0 ∨ vol.clusterCount < 4 then pure 0
  else
    announced (fun s => .alloc s.fat (fatClusterCount vol bytes))
      (fatAllocLoop vol.limit (fatClusterCount vol bytes) installFatEntries 2)

/-- `fat_write_fats`. -/
def fatWriteFats (vol : Fat32Volume) : EspM Unit := do
  fatSet 0 0x0ffffff8
  fatSet 1 0x0fffffff
  announced (fun _ => .root) (fatSet vol.rootCluster 0x0fffffff)
  (List.range vol.fatCount).forM fun fat =>
    (List.range vol.sectorsPerFat).forM fun s => do
      let lba := (vol.startLba + vol.reservedSectors + fat * vol.sectorsPerFat + s) % 2 ^ 64
      accessFat (s * sectorSize) sectorSize
      let bytes ← reads fun e => memFrom e.fat (s * sectorSize)
      espWrite lba bytes 1

/-! ## Directories -/

/-- An entry that was found in a directory. -/
structure FatDirEntry where
  attr : UInt8
  cluster : Nat
  size : Nat
  off : Nat

/-- The loop of `fat_dir_find_short_offset` over the entries of a cluster. -/
def fatDirSearch (buf : Mem) (shortName : List UInt8) : List Nat → Option FatDirEntry
  | [] => none
  | off :: offs =>
      if buf off = 0 then none
      else if buf off = 0xe5 ∨ buf (off + 11) = 0x0f ∨ memcmpEq buf off shortName = false then
        fatDirSearch buf shortName offs
      else some ⟨buf (off + 11), getU16 buf (off + 20) * 2 ^ 16 + getU16 buf (off + 26), getU32 buf (off + 28), off⟩

/-- The offsets of the entries of a cluster. -/
def fatDirOffsets (vol : Fat32Volume) : List Nat := (List.range (vol.clusterBytes / 32)).map (· * 32)

/-- `fat_dir_find_short_offset`. -/
def fatDirFindShortOffset (vol : Fat32Volume) (d : Disk) (dirCluster : Nat) (shortName : List UInt8) :
    Option FatDirEntry :=
  match fatReadCluster vol d dirCluster with
  | none => none
  | some buf => fatDirSearch buf shortName (fatDirOffsets vol)

/-- The loop of `fat_dir_find_free_slots`: `run` free entries end here, from `start` on. -/
def fatDirFreeSearch (buf : Mem) (slots : Nat) : Nat → Nat → List Nat → Option Nat
  | _, _, [] => none
  | run, start, off :: offs =>
      if buf off = 0 ∨ buf off = 0xe5 then
        let start := if run = 0 then off else start
        if run + 1 ≥ slots then some start else fatDirFreeSearch buf slots (run + 1) start offs
      else fatDirFreeSearch buf slots 0 start offs

/-- `fat_dir_find_free_slots`. -/
def fatDirFindFreeSlots (vol : Fat32Volume) (d : Disk) (dirCluster slots : Nat) : Option Nat :=
  match fatReadCluster vol d dirCluster with
  | none => none
  | some buf => fatDirFreeSearch buf slots 0 0 (fatDirOffsets vol)

/-- `fat_dir_write_slots`. -/
def fatDirWriteSlots (vol : Fat32Volume) (dirCluster entryOff : Nat) (entries : Mem) (slots : Nat) : EspM Unit := do
  let read ← reads fun s => fatReadCluster vol s.disk dirCluster
  match read with
  | none => stop .failed
  | some buf =>
      if entryOff + slots * 32 > vol.clusterBytes then stop .failed
      else fatWriteCluster vol dirCluster (bufCopy buf entryOff entries (slots * 32))

/-- The loop of `fat_dir_delete_short` over the entries of a long name before the `k`th
entry. -/
def fatDirEraseLong (buf : Mem) : Nat → Mem
  | 0 => buf
  | k + 1 =>
      if buf (k * 32 + 11) = 0x0f then fatDirEraseLong (putBytes buf (k * 32) [0xe5]) k else buf

/-- `fat_dir_delete_short`. -/
def fatDirDeleteShort (vol : Fat32Volume) (dirCluster : Nat) (shortName : List UInt8) : EspM Unit := do
  let found ← reads fun s => fatDirFindShortOffset vol s.disk dirCluster shortName
  match found with
  | none => pure ()
  | some entry => do
      let read ← reads fun s => fatReadCluster vol s.disk dirCluster
      match read with
      | none => stop .failed
      | some buf => do
          if entry.attr &&& 0x10 = 0 ∧ entry.cluster ≥ 2 then fatFreeChain vol entry.cluster else pure ()
          fatWriteCluster vol dirCluster
            (fatDirEraseLong (putBytes buf entry.off [0xe5]) (entry.off / 32))

/-- `fat_lfn_checksum`. -/
def fatLfnChecksum (shortName : List UInt8) : UInt8 :=
  shortName.foldl (fun sum c => (if sum &&& 1 ≠ 0 then (0x80 : UInt8) else 0) + (sum >>> 1) + c) 0

/-- `pos` of `fat_dir_add_lfn`. -/
def fatLfnPos : List Nat := [1, 3, 5, 7, 9, 14, 16, 18, 20, 22, 24, 28, 30]

/-- `fat_dir_add_lfn`. -/
def fatDirAddLfn (dir : Mem) (off : Nat) (longName shortName : List UInt8) : Mem :=
  let dir := bufCopy dir off (fun _ => 0xff) 32
  let dir := putBytes dir off [0x41]
  let dir := putBytes dir (off + 11) [0x0f, 0, fatLfnChecksum shortName]
  let dir := putU16 dir (off + 26) 0
  (List.range 13).foldl (fun dir i =>
    let c := if i < longName.length then (longName.getD i 0).toNat else if i = longName.length then 0 else 0xffff
    putU16 dir (off + fatLfnPos.getD i 0) c) dir

/-- `fat_dir_add_entry`. -/
def fatDirAddEntry (dir : Mem) (off : Nat) (shortName : List UInt8) (attr : UInt8)
    (firstCluster fileSize : Nat) : Mem :=
  let dir := bufCopy dir off zeroMem 32
  let dir := putBytes dir off shortName
  let dir := putBytes dir (off + 11) [attr]
  let dir := putU16 dir (off + 20) (firstCluster / 2 ^ 16)
  let dir := putU16 dir (off + 26) firstCluster
  putU32 dir (off + 28) fileSize

/-- `fat_dir_add_dot`. -/
def fatDirAddDot (vol : Fat32Volume) (dir : Mem) (self parent : Nat) : Mem :=
  let dir := fatDirAddEntry dir 0 ((cstr ".          ").map Subtype.val) 0x10 self 0
  fatDirAddEntry dir 32 ((cstr "..         ").map Subtype.val) 0x10
    (if parent = vol.rootCluster then 0 else parent) 0

/-- `fat_dir_add_short_entry`; no long name is the empty one. -/
def fatDirAddShortEntry (vol : Fat32Volume) (dirCluster : Nat) (shortName longName : List UInt8)
    (attr : UInt8) (firstCluster fileSize : Nat) : EspM Unit := do
  let slots := if longName = [] then 1 else 2
  let free ← reads fun s => fatDirFindFreeSlots vol s.disk dirCluster slots
  match free with
  | none => stop .failed
  | some entryOff =>
      let entries := if longName = [] then zeroMem else fatDirAddLfn zeroMem 0 longName shortName
      let entries := fatDirAddEntry entries ((slots - 1) * 32) shortName attr firstCluster fileSize
      fatDirWriteSlots vol dirCluster entryOff entries slots

/-- `fat_ensure_dir_short`. -/
def fatEnsureDirShort (vol : Fat32Volume) (parentCluster : Nat) (shortName : List UInt8) : EspM Nat := do
  let found ← reads fun s => fatDirFindShortOffset vol s.disk parentCluster shortName
  match found with
  | some entry => if entry.attr &&& 0x10 = 0 ∨ entry.cluster < 2 then stop .failed else pure entry.cluster
  | none => do
      let cluster ← fatAllocChainScan vol installClusterBytes
      if cluster = 0 then stop .failed
      else do
        fatWriteCluster vol cluster (fatDirAddDot vol zeroMem cluster parentCluster)
        fatDirAddShortEntry vol parentCluster shortName [] 0x10 cluster 0
        pure cluster

/-- `fat_write_regular_file_short`. -/
def fatWriteRegularFileShort (vol : Fat32Volume) (dirCluster : Nat) (shortName longName : List UInt8)
    (file : BootFile) : EspM Unit :=
  match file.data with
  | none => stop .failed
  | some data =>
      if file.size = 0 then stop .failed
      else do
        fatDirDeleteShort vol dirCluster shortName
        let cluster ← fatAllocChainScan vol file.size
        if cluster = 0 then stop .failed
        else do
          fatWriteFileData vol cluster data file.size
          fatDirAddShortEntry vol dirCluster shortName longName 0x20 cluster (file.size % 2 ^ 32)

/-! ## The side-by-side installation -/

/-- The names that `dualboot_write_side_by_side_esp` writes. -/
def efiShort : List UInt8 := (cstr "EFI        ").map Subtype.val

def orizonShort : List UInt8 := (cstr "ORIZON     ").map Subtype.val

def bootx64Short : List UInt8 := (cstr "BOOTX64 EFI").map Subtype.val

def kernelShort : List UInt8 := (cstr "KERNEL  ELF").map Subtype.val

def rollbackKernelShort : List UInt8 := (cstr "KROLLBK ELF").map Subtype.val

def rollbackEfiShort : List UInt8 := (cstr "BOOTX64 ROL").map Subtype.val

def limineShort : List UInt8 := (cstr "LIMINE~1CON").map Subtype.val

def limineLong : List UInt8 := (cstr "limine.conf").map Subtype.val

def installShort : List UInt8 := (cstr "INSTALL TXT").map Subtype.val

/-- A file that is there. -/
def BootFile.given (file : BootFile) : Bool := file.data.isSome && file.size != 0

/-- A file of which something was passed. -/
def BootFile.any (file : BootFile) : Bool := file.data.isSome || file.size != 0

/-- `has_rollback`. -/
def InstallBootPayload.hasRollback (payload : InstallBootPayload) : Bool :=
  payload.rollbackKernel.given && payload.rollbackEfi.given

/-- `dualboot_write_side_by_side_esp`. -/
def dualbootWriteSideBySideEsp (vol : Fat32Volume) (payload : InstallBootPayload) : EspM Unit :=
  if !(payload.kernel.given && payload.efi.given && payload.limineConf.given && payload.installText.given) then
    stop .failed
  else if (payload.rollbackKernel.any || payload.rollbackEfi.any) && !payload.hasRollback then stop .failed
  else do
    fat32LoadFat vol
    let efiDir ← fatEnsureDirShort vol vol.rootCluster efiShort
    let orizonDir ← fatEnsureDirShort vol efiDir orizonShort
    fatWriteRegularFileShort vol orizonDir bootx64Short [] payload.efi
    fatWriteRegularFileShort vol orizonDir kernelShort [] payload.kernel
    fatWriteRegularFileShort vol orizonDir limineShort limineLong payload.limineConf
    fatWriteRegularFileShort vol orizonDir installShort [] payload.installText
    if payload.hasRollback then do
      fatWriteRegularFileShort vol orizonDir rollbackEfiShort [] payload.rollbackEfi
      fatWriteRegularFileShort vol orizonDir rollbackKernelShort [] payload.rollbackKernel
    else pure ()
    fatWriteFats vol

end Orizon
