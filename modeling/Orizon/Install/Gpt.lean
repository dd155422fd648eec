import Orizon.Lib.Crc
import Orizon.Vfs.Snapshot

/-!
# Orizon.Install.Gpt

The partition table of `system/install.c`: how an installation writes one, how the
layout it wrote is checked, and how an existing partition is marked for data.

A static buffer is an array, and a function returns the device with whether it returned
0.  Several sectors go to the device one by one, which keeps what was written before a
failure.
-/

namespace Orizon

/-! ## Constants -/

/-- `INSTALL_ESP_START_LBA`. -/
def installEspStartLba : UInt64 := 2048

/-- `INSTALL_DATA_START_LBA`. -/
def installDataStartLba : UInt64 := 1048576

/-- `INSTALL_GPT_ENTRY_COUNT`. -/
def installGptEntryCount : Nat := 128

/-- `INSTALL_GPT_ENTRY_SIZE`. -/
def installGptEntrySize : Nat := 128

/-- `INSTALL_GPT_ENTRY_SECTORS`. -/
def installGptEntrySectors : Nat := 32

/-- `esp_type`. -/
def espType : List UInt8 :=
  [0x28, 0x73, 0x2a, 0xc1, 0x1f, 0xf8, 0xd2, 0x11, 0xba, 0x4b, 0x00, 0xa0, 0xc9, 0x3e, 0xc9, 0x3b]

/-- `esp_guid`. -/
def espGuid : List UInt8 :=
  [0x4f, 0x53, 0x45, 0x53, 0x50, 0x00, 0x00, 0x00, 0x9a, 0x3d, 0x20, 0x26, 0x05, 0x08, 0x00, 0x01]

/-- `data_guid`. -/
def dataGuid : List UInt8 :=
  [0x4f, 0x53, 0x44, 0x41, 0x54, 0x41, 0x00, 0x00, 0x9a, 0x3d, 0x20, 0x26, 0x05, 0x08, 0x00, 0x02]

/-- `disk_guid`. -/
def diskGuid : List UInt8 :=
  [0x4f, 0x72, 0x69, 0x7a, 0x6f, 0x6e, 0x4f, 0x53, 0x88, 0x16, 0x20, 0x26, 0x05, 0x08, 0x00, 0x01]

/-- The signature of a header. -/
def efiPart : List UInt8 := (cstr "EFI PART").map Subtype.val

/-- The names of the two partitions. -/
def espName : List UInt8 := (cstr "Orizon ESP").map Subtype.val

def dataName : List UInt8 := (cstr "Orizon Data").map Subtype.val

/-! ## Bytes -/

/-- `put64`. -/
def putU64 (buf : Mem) (off value : Nat) : Mem := store buf 8 off value

/-- `memcpy` of constant bytes. -/
def putBytes (buf : Mem) (off : Nat) (bytes : List UInt8) : Mem :=
  bufCopy buf off (bytesMem bytes) bytes.length

/-- The `n` bytes from `off`. -/
def memBytes (buf : Mem) (off n : Nat) : List UInt8 := (List.range n).map fun i => buf (off + i)

/-- A buffer that `memset` cleared. -/
def zeroMem : Mem := fun _ => 0

/-- The buffer from an offset on. -/
def memFrom (buf : Mem) (off : Nat) : Mem := fun i => buf (off + i)

/-- One bit of `crc32_update`. -/
def crc32Bit (crc : UInt32) : UInt32 := (crc >>> 1) ^^^ (0xedb88320 &&& (0 - (crc &&& 1)))

/-- One byte of `crc32_update`. -/
def crc32Byte (crc : UInt32) (byte : UInt8) : UInt32 := crc32Bit^[8] (crc ^^^ byte.toUInt32)

/-- `crc32_update`. -/
def crc32Update (crc : UInt32) (data : List UInt8) : UInt32 := ~~~(data.foldl crc32Byte (~~~crc))

/-! ## The device -/

/-- `write_sector` of several sectors, one after the other, until one fails. -/
def writeSectors : List (Nat × Mem) → Disk → Bool × Disk
  | [], d => (true, d)
  | (lba, buf) :: writes, d =>
      match storageWrite d lba buf with
      | none => (false, d)
      | some d => writeSectors writes d

/-- The sectors of `storage_write` of `n` sectors of a buffer. -/
def bufSectors (lba : Nat) (buf : Mem) (n : Nat) : List (Nat × Mem) :=
  (List.range n).map fun i => (lba + i, memFrom buf (i * sectorSize))

/-- The bytes of the device from a sector on. -/
def diskBytes (d : Disk) (lba : Nat) : Mem := fun k => d.sector (lba + k / sectorSize) (k % sectorSize)

/-- `storage_read` of `n` sectors. -/
def storageReadSectors (d : Disk) (lba n : Nat) : Option Mem :=
  if d.available ∧ ∀ i < n, d.accessible (lba + i) then some (diskBytes d lba) else none

/-! ## Writing a table -/

/-- `write_gpt_name`, of at most 36 characters. -/
def writeGptName (buf : Mem) (entry : Nat) (name : List UInt8) : Mem :=
  (List.range (min name.length 36)).foldl (fun buf i =>
    putU16 buf (entry + 56 + i * 2) (name.getD i 0).toNat) buf

/-- `write_gpt_entry`. -/
def writeGptEntry (buf : Mem) (entry : Nat) (typeGuid uniqueGuid : List UInt8)
    (firstLba lastLba : UInt64) (name : List UInt8) : Mem :=
  let buf := bufCopy buf entry zeroMem installGptEntrySize
  let buf := putBytes buf entry typeGuid
  let buf := putBytes buf (entry + 16) uniqueGuid
  let buf := putU64 buf (entry + 32) firstLba.toNat
  let buf := putU64 buf (entry + 40) lastLba.toNat
  let buf := putU64 buf (entry + 48) 0
  writeGptName buf entry name

/-- The fields of `write_gpt_header`, before its checksum. -/
def gptHeaderFields (currentLba backupLba firstUsable lastUsable entriesLba : UInt64)
    (entriesCrc : UInt32) : Mem :=
  let buf := putBytes zeroMem 0 efiPart
  let buf := putU32 buf 8 0x00010000
  let buf := putU32 buf 12 92
  let buf := putU64 buf 24 currentLba.toNat
  let buf := putU64 buf 32 backupLba.toNat
  let buf := putU64 buf 40 firstUsable.toNat
  let buf := putU64 buf 48 lastUsable.toNat
  let buf := putBytes buf 56 diskGuid
  let buf := putU64 buf 72 entriesLba.toNat
  let buf := putU32 buf 80 installGptEntryCount
  let buf := putU32 buf 84 installGptEntrySize
  putU32 buf 88 entriesCrc.toNat

/-- `write_gpt_header`. -/
def writeGptHeader (currentLba backupLba firstUsable lastUsable entriesLba : UInt64)
    (entriesCrc : UInt32) : Mem :=
  let buf := gptHeaderFields currentLba backupLba firstUsable lastUsable entriesLba entriesCrc
  putU32 buf 16 (crc32Update 0 (memBytes buf 0 92)).toNat

/-- The protective record of `install_write_gpt`. -/
def protectiveMbr (sectors : UInt64) : Mem :=
  let protectiveSize : UInt32 := if sectors > 0xffffffff then 0xffffffff else (sectors - 1).toUInt32
  let buf := putBytes zeroMem (446 + 4) [0xee]
  let buf := putU32 buf (446 + 8) 1
  let buf := putU32 buf (446 + 12) protectiveSize.toNat
  putBytes buf 510 [0x55, 0xaa]

/-- `data_last` of `install_write_gpt`. -/
def installDataLast (sectors : UInt64) : UInt64 := sectors - 1 - 32 - 1

/-- `gpt_entries` of `install_write_gpt`. -/
def installEntries (sectors : UInt64) : Mem :=
  let buf := writeGptEntry zeroMem 0 espType espGuid installEspStartLba (installDataStartLba - 1)
    espName
  writeGptEntry buf installGptEntrySize orizonDataType dataGuid installDataStartLba
    (installDataLast sectors) dataName

/-- `entries_crc` of `install_write_gpt`. -/
def installEntriesCrc (sectors : UInt64) : UInt32 :=
  crc32Update 0 (memBytes (installEntries sectors) 0 (installGptEntrySectors * sectorSize))

/-- What `install_write_gpt` writes: the protective record, the entries in both places,
sector by sector, and the two headers. -/
def installGptWrites (sectors : UInt64) : List (Nat × Mem) :=
  let lastLba := sectors - 1
  let entries := installEntries sectors
  let crc := installEntriesCrc sectors
  (0, protectiveMbr sectors) ::
    ((List.range installGptEntrySectors).flatMap fun i =>
      [(2 + i, memFrom entries (i * sectorSize)),
        ((lastLba - 32).toNat + i, memFrom entries (i * sectorSize))]) ++
    [(1, writeGptHeader 1 lastLba 34 (installDataLast sectors) 2 crc),
      (lastLba.toNat, writeGptHeader lastLba 1 34 (installDataLast sectors) (lastLba - 32) crc)]

/-- `install_write_gpt`. -/
def installWriteGpt (d : Disk) (sectors : UInt64) : Bool × Disk :=
  if sectors < installDataStartLba + 65536 ∨ installDataLast sectors ≤ installDataStartLba then (false, d)
  else writeSectors (installGptWrites sectors) d

/-! ## The check of a layout -/

/-- `installed_gpt_layout_valid`, where `storage_sector_count` is `sectors`. -/
def installedGptLayoutValid (d : Disk) (sectors : UInt64) : Bool :=
  let dataLast := if sectors > 32 + 1 then sectors - 32 - 2 else 0
  if !d.available then false
  else if sectors < installDataStartLba + 65536 ∨ dataLast ≤ installDataStartLba then false
  else
    match storageRead d 0 with
    | none => false
    | some mbr =>
        if mbr 510 ≠ 0x55 ∨ mbr 511 ≠ 0xaa ∨ mbr (446 + 4) ≠ 0xee then false
        else
          match storageRead d 1 with
          | none => false
          | some hdr =>
              if !(memcmpEq hdr 0 efiPart && getU64 hdr 24 == 1 &&
                  getU64 hdr 32 == (sectors - 1).toNat && getU64 hdr 72 == 2 &&
                  decide (getU32 hdr 80 ≥ 2) && getU32 hdr 84 == installGptEntrySize) then false
              else
                match storageRead d 2 with
                | none => false
                | some entries =>
                    memcmpEq entries 0 espType && getU64 entries 32 == installEspStartLba.toNat &&
                      getU64 entries 40 == (installDataStartLba - 1).toNat &&
                      memcmpEq entries installGptEntrySize orizonDataType &&
                      getU64 entries (installGptEntrySize + 32) == installDataStartLba.toNat &&
                      getU64 entries (installGptEntrySize + 40) == dataLast.toNat

/-! ## Marking a partition -/

/-- `guid_is_zero`. -/
def guidIsZero (buf : Mem) (off : Nat) : Bool := (List.range 16).all fun i => buf (off + i) == 0

/-- `ms_basic_type` and `linux_fs_type`. -/
def msBasicType : List UInt8 :=
  [0xa2, 0xa0, 0xd0, 0xeb, 0xe5, 0xb9, 0x33, 0x44, 0x87, 0xc0, 0x68, 0xb6, 0xb7, 0x26, 0x99, 0xc7]

def linuxFsType : List UInt8 :=
  [0xaf, 0x3d, 0xc6, 0x0f, 0x83, 0x84, 0x72, 0x47, 0x8e, 0x79, 0x3d, 0x69, 0xd8, 0x47, 0x7d, 0xe4]

/-- `gpt_type_name`, with its `usable_for_data`. -/
def gptTypeName (buf : Mem) (off : Nat) : String × Bool :=
  if guidIsZero buf off then ("empty", false)
  else if memcmpEq buf off espType then ("EFI System", false)
  else if memcmpEq buf off orizonDataType then ("Orizon Data", true)
  else if memcmpEq buf off msBasicType then ("Microsoft basic", true)
  else if memcmpEq buf off linuxFsType then ("Linux filesystem", true)
  else ("GPT partition", true)

/-- The size of the `name` of a partition's description. -/
def partitionNameSize : Nat := 64

/-- `gpt_decode_name`, before the buffer of `out_size` bytes ends it. -/
def gptDecodeName (buf : Mem) (entry outSize : Nat) : List UInt8 :=
  (((List.range 36).map fun i => getU16 buf (entry + 56 + i * 2)).takeWhile (· ≠ 0)).map (fun ch =>
    if 32 ≤ ch ∧ ch < 127 then UInt8.ofNat ch else 0x3f) |>.take (outSize - 1)

/-- `gpt_read_primary_header`. -/
def gptReadPrimaryHeader (d : Disk) : Option Mem :=
  match storageRead d 1 with
  | none => none
  | some hdr =>
      if !memcmpEq hdr 0 efiPart ∨ getU32 hdr 84 ≠ installGptEntrySize ∨ getU32 hdr 80 = 0 ∨
          getU32 hdr 80 > installGptEntryCount then none
      else some hdr

/-- `gpt_refresh_header_crc`. -/
def gptRefreshHeaderCrc (header : Mem) (entriesCrc : UInt32) : Mem :=
  let bad := getU32 header 12 < 92 ∨ getU32 header 12 > sectorSize
  let headerSize := if bad then 92 else getU32 header 12
  let header := if bad then putU32 header 12 92 else header
  let header := putU32 header 88 entriesCrc.toNat
  let header := putU32 header 16 0
  putU32 header 16 (crc32Update 0 (memBytes header 0 headerSize)).toNat

/-- The entry that `gpt_mark_partition_orizon_data` marks, in the entries it read. -/
def markEntry (entries : Mem) (entry : Nat) : Mem :=
  let entries := putBytes entries entry orizonDataType
  let entries := putU64 entries (entry + 48) 0
  writeGptName entries entry dataName

/-- The backup header that `gpt_mark_partition_orizon_data` read, or made of the primary
one. -/
def markBackupHeader (d : Disk) (primary : Mem) (entrySectors : Nat) : Mem :=
  let backupLba := getU64 primary 32
  let made := putU64 (putU64 (putU64 primary 24 backupLba) 32 1) 72 (backupLba + 2 ^ 64 - entrySectors)
  match storageRead d backupLba with
  | none => made
  | some header => if memcmpEq header 0 efiPart then header else made

/-- What `gpt_mark_partition_orizon_data` writes; `none` where it returns -1 before. -/
def gptMarkWrites (d : Disk) (partitionIndex : Int) : Option (List (Nat × Mem)) :=
  if partitionIndex ≤ 0 then none
  else
    match gptReadPrimaryHeader d with
    | none => none
    | some primary =>
        let entriesLba := getU64 primary 72
        let backupLba := getU64 primary 32
        let entryCount := getU32 primary 80
        let entrySize := getU32 primary 84
        let entrySectors := (entryCount * entrySize + sectorSize - 1) / sectorSize
        if partitionIndex.toNat > entryCount ∨ entryCount > installGptEntryCount ∨
            entrySize ≠ installGptEntrySize ∨ entrySectors > installGptEntrySectors ∨
            entriesLba = 0 ∨ backupLba = 0 then none
        else
          match storageReadSectors d entriesLba entrySectors with
          | none => none
          | some entries =>
              let entry := (partitionIndex.toNat - 1) * entrySize
              if guidIsZero entries entry ∨ memcmpEq entries entry espType ∨
                  getU64 entries (entry + 40) < (getU64 entries (entry + 32) + 65536) % 2 ^ 64 then none
              else
                let entries := markEntry entries entry
                let crc := crc32Update 0 (memBytes entries 0 (entryCount * entrySize))
                let backup := markBackupHeader d primary entrySectors
                some (bufSectors entriesLba entries entrySectors ++
                  bufSectors (getU64 backup 72) entries entrySectors ++
                  [(1, gptRefreshHeaderCrc primary crc), (backupLba, gptRefreshHeaderCrc backup crc)])

/-- `gpt_mark_partition_orizon_data`. -/
def gptMarkPartitionOrizonData (d : Disk) (partitionIndex : Int) : Bool × Disk :=
  match gptMarkWrites d partitionIndex with
  | none => (false, d)
  | some writes => writeSectors writes d

end Orizon
