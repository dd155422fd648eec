import Orizon.Install.Layout

/-!
# Orizon.Install.Mark

What `gpt_mark_partition_orizon_data` does to a partition table.

The entry it marks is read from the primary table and written to both, and each header
gets the checksum of the entries and its own.  A table with its backup stays one, and of
the entry only the type, the attributes and the name change.  The name is written over
the one that was there and is not ended: it is exact just where the twelfth unit of the
old name was zero (`gptMark_exact`).
-/

namespace Orizon

/-! ## The marked entry -/

section Entry

variable {buf : Mem} {entry x : Nat}

theorem markEntry_of_outside (h : x < entry ∨ (entry + 16 ≤ x ∧ x < entry + 48) ∨ entry + 78 ≤ x) :
    markEntry buf entry x = buf x := by
  have htype : orizonDataType.length = 16 := rfl
  have hname : dataName.length = 11 := rfl
  unfold markEntry putU64
  rw [writeGptName_of_outside (by omega), store_of_outside (by omega), putBytes_of_outside (by omega)]

theorem memcmpEq_markEntry : memcmpEq (markEntry buf entry) entry orizonDataType = true := by
  have htype : orizonDataType.length = 16 := rfl
  rw [← @memcmpEq_putBytes buf entry orizonDataType]
  refine memcmpEq_congr fun x hlo hhi => ?_
  unfold markEntry putU64
  rw [writeGptName_of_outside (by omega), store_of_outside (by omega)]

theorem gptTypeName_markEntry : gptTypeName (markEntry buf entry) entry = ("Orizon Data", true) := by
  have htype := @memcmpEq_markEntry buf entry
  have hfirst := memcmpEq_iff.mp htype 0 (by decide)
  have hzero : ¬ guidIsZero (markEntry buf entry) entry = true := by
    intro hall
    unfold guidIsZero at hall
    have hat := List.all_eq_true.mp hall 0 (by decide)
    rw [hfirst] at hat
    exact absurd hat (by decide)
  have hesp : ¬ memcmpEq (markEntry buf entry) entry espType = true := by
    intro heq
    have hat := memcmpEq_iff.mp heq 0 (by decide)
    rw [hfirst] at hat
    exact absurd hat (by decide)
  unfold gptTypeName
  rw [if_neg hzero, if_neg hesp, if_pos htype]

/-- The name ends where it should just if what was behind it was zero. -/
theorem gptDecodeName_markEntry : gptDecodeName (markEntry buf entry) entry partitionNameSize = dataName ↔
    getU16 buf (entry + 56 + 11 * 2) = 0 := by
  have hrange : List.range 36 = List.range 11 ++ 11 :: (List.range 24).map (· + 12) := rfl
  have hname : (List.range 11).map (fun i => getU16 (markEntry buf entry) (entry + 56 + i * 2)) =
      dataName.map UInt8.toNat := by
    have hget : ∀ i < 11, getU16 (markEntry buf entry) (entry + 56 + i * 2) = (dataName.getD i 0).toNat :=
      fun i hi => getU16_writeGptName (by exact hi)
    exact List.map_congr_left fun i hi => hget i (List.mem_range.mp hi)
  have hnext : getU16 (markEntry buf entry) (entry + 56 + 11 * 2) = getU16 buf (entry + 56 + 11 * 2) :=
    load_congr fun x hlo hhi => markEntry_of_outside (by omega)
  have hprint : (dataName.map UInt8.toNat).map (fun ch =>
      if 32 ≤ ch ∧ ch < 127 then UInt8.ofNat ch else 0x3f) = dataName := by decide
  have hnonzero : ∀ ch ∈ dataName.map UInt8.toNat, decide (ch ≠ 0) = true := by decide
  unfold gptDecodeName
  rw [hrange, List.map_append, List.map_cons, hname, hnext, List.takeWhile_append_of_pos hnonzero,
    List.takeWhile_cons]
  by_cases hzero : getU16 buf (entry + 56 + 11 * 2) = 0
  · rw [if_neg (by simpa using hzero), List.append_nil, hprint]
    exact iff_of_true rfl hzero
  · rw [if_pos (by simpa using hzero)]
    refine iff_of_false (fun heq => ?_) hzero
    have hlen := congrArg List.length heq
    have hdata : dataName.length = 11 := rfl
    simp [partitionNameSize, hdata] at hlen
    omega

end Entry

/-! ## The headers -/

section Header

variable {hdr : Mem} {crc : UInt32}

theorem gptRefreshHeaderCrc_eq (hsize : 92 ≤ getU32 hdr 12 ∧ getU32 hdr 12 ≤ sectorSize) :
    gptRefreshHeaderCrc hdr crc = putU32 (putU32 (putU32 hdr 88 crc.toNat) 16 0) 16
      (crc32Update 0 (memBytes (putU32 (putU32 hdr 88 crc.toNat) 16 0) 0 (getU32 hdr 12))).toNat := by
  have hgood : ¬ (getU32 hdr 12 < 92 ∨ getU32 hdr 12 > sectorSize) := by omega
  unfold gptRefreshHeaderCrc
  dsimp only
  rw [if_neg hgood, if_neg hgood]

/-- A refreshed header keeps all but the two checksums, its size being one. -/
theorem load_gptRefreshHeaderCrc {k b : Nat} (hsize : 92 ≤ getU32 hdr 12 ∧ getU32 hdr 12 ≤ sectorSize)
    (hb : b + k ≤ 16 ∨ (20 ≤ b ∧ b + k ≤ 88) ∨ 92 ≤ b) :
    load (gptRefreshHeaderCrc hdr crc) k b = load hdr k b := by
  rw [gptRefreshHeaderCrc_eq hsize]
  unfold putU32
  rw [load_store_of_disjoint (by omega), load_store_of_disjoint (by omega),
    load_store_of_disjoint (by omega)]

theorem memcmpEq_gptRefreshHeaderCrc (hsize : 92 ≤ getU32 hdr 12 ∧ getU32 hdr 12 ≤ sectorSize) :
    memcmpEq (gptRefreshHeaderCrc hdr crc) 0 efiPart = memcmpEq hdr 0 efiPart := by
  have hsig : efiPart.length = 8 := rfl
  refine memcmpEq_congr fun x hlo hhi => ?_
  rw [gptRefreshHeaderCrc_eq hsize]
  unfold putU32
  rw [store_of_outside (by omega), store_of_outside (by omega), store_of_outside (by omega)]

theorem gptRefreshHeaderCrc_checksums (hsize : 92 ≤ getU32 hdr 12 ∧ getU32 hdr 12 ≤ sectorSize) :
    IsCrc32 (gptHeaderBytes (gptRefreshHeaderCrc hdr crc)) (getU32 (gptRefreshHeaderCrc hdr crc) 16) ∧
      getU32 (gptRefreshHeaderCrc hdr crc) 88 = crc.toNat := by
  have hcrc := crc.toNat_lt
  rw [gptRefreshHeaderCrc_eq hsize]
  constructor
  · refine isCrc32_header ?_ fun i hlo hhi => putU32_zero hlo hhi
    unfold getU32 putU32
    rw [load_store_of_disjoint (by omega), load_store_of_disjoint (by omega)]
  · unfold getU32 putU32
    rw [load_store_of_disjoint (by omega), load_store_of_disjoint (by omega), load_store hcrc]

end Header

/-! ## The device -/

section Device

variable {d d' : Disk} {partitionIndex : Int}

theorem mem_bufSectors {lba n : Nat} {buf : Mem} {w : Nat × Mem} : w ∈ bufSectors lba buf n ↔
    ∃ i < n, w = (lba + i, memFrom buf (i * sectorSize)) := by
  unfold bufSectors
  simp only [List.mem_map, List.mem_range]
  exact exists_congr fun i => and_congr_right fun _ => eq_comm

/-- The offset of the entry of a partition. -/
def markedEntry (partitionIndex : Int) : Nat := (partitionIndex.toNat - 1) * installGptEntrySize

/-- The marked entries, and their checksum. -/
def markedEntries (d : Disk) (partitionIndex : Int) : Mem :=
  markEntry (gptTable d (d.sector 1)) (markedEntry partitionIndex)

def markedCrc (d : Disk) (partitionIndex : Int) : UInt32 :=
  crc32Update 0 (memBytes (markedEntries d partitionIndex) 0 (gptTableSize (d.sector 1)))

theorem gptReadPrimaryHeader_some {primary : Mem} (h : gptReadPrimaryHeader d = some primary) :
    primary = d.sector 1 := by
  unfold gptReadPrimaryHeader storageRead at h
  by_cases hread : d.available = true ∧ d.accessible 1 = true
  · rw [if_pos hread] at h
    dsimp only at h
    by_cases hbad : !memcmpEq (d.sector 1) 0 efiPart ∨ getU32 (d.sector 1) 84 ≠ installGptEntrySize ∨
        getU32 (d.sector 1) 80 = 0 ∨ getU32 (d.sector 1) 80 > installGptEntryCount
    · rw [if_pos hbad] at h
      cases h
    · rw [if_neg hbad] at h
      exact (Option.some.inj h).symm
  · rw [if_neg hread] at h
    cases h

theorem ValidGpt.markBackupHeader (hvalid : ValidGpt d) (havail : d.available = true)
    (hbackup : d.accessible (gptBackupLba d) = true) (n : Nat) :
    markBackupHeader d (d.sector 1) n = d.sector (gptBackupLba d) := by
  have hread : storageRead d (getU64 (d.sector 1) 32) = some (d.sector (gptBackupLba d)) := by
    unfold storageRead
    rw [if_pos ⟨havail, hbackup⟩]
    rfl
  unfold Orizon.markBackupHeader
  dsimp only
  rw [hread]
  dsimp only
  rw [if_pos hvalid.backup.signature]

theorem markedEntry_inside {hdr : Mem} (hindex : 0 < partitionIndex)
    (hcount : partitionIndex.toNat ≤ getU32 hdr 80) (hsize : getU32 hdr 84 = installGptEntrySize) :
    markedEntry partitionIndex + installGptEntrySize ≤ gptTableSize hdr := by
  have hpos : partitionIndex.toNat - 1 + 1 ≤ getU32 hdr 80 := by omega
  unfold markedEntry gptTableSize
  rw [hsize]
  calc (partitionIndex.toNat - 1) * installGptEntrySize + installGptEntrySize
      = (partitionIndex.toNat - 1 + 1) * installGptEntrySize := by ring
    _ ≤ getU32 hdr 80 * installGptEntrySize := Nat.mul_le_mul_right _ hpos

theorem gptMarkWrites_some {writes : List (Nat × Mem)} (h : gptMarkWrites d partitionIndex = some writes) :
    markedEntry partitionIndex + installGptEntrySize ≤ gptTableSize (d.sector 1) ∧
    writes =
      bufSectors (getU64 (d.sector 1) 72) (markedEntries d partitionIndex) (gptTableSectors (d.sector 1)) ++
      bufSectors (getU64 (markBackupHeader d (d.sector 1) (gptTableSectors (d.sector 1))) 72)
        (markedEntries d partitionIndex) (gptTableSectors (d.sector 1)) ++
      [(1, gptRefreshHeaderCrc (d.sector 1) (markedCrc d partitionIndex)),
        (gptBackupLba d,
          gptRefreshHeaderCrc (markBackupHeader d (d.sector 1) (gptTableSectors (d.sector 1)))
            (markedCrc d partitionIndex))] := by
  unfold gptMarkWrites at h
  by_cases hindex : partitionIndex ≤ 0
  · rw [if_pos hindex] at h
    cases h
  rw [if_neg hindex] at h
  cases hprimary : gptReadPrimaryHeader d with
  | none =>
      rw [hprimary] at h
      cases h
  | some primary =>
      obtain rfl := gptReadPrimaryHeader_some hprimary
      rw [hprimary] at h
      dsimp only at h
      by_cases hbad : partitionIndex.toNat > getU32 (d.sector 1) 80 ∨
          getU32 (d.sector 1) 80 > installGptEntryCount ∨ getU32 (d.sector 1) 84 ≠ installGptEntrySize ∨
          (getU32 (d.sector 1) 80 * getU32 (d.sector 1) 84 + sectorSize - 1) / sectorSize >
            installGptEntrySectors ∨
          getU64 (d.sector 1) 72 = 0 ∨ getU64 (d.sector 1) 32 = 0
      · rw [if_pos hbad] at h
        cases h
      rw [if_neg hbad] at h
      have hsize : getU32 (d.sector 1) 84 = installGptEntrySize := by
        by_contra hne
        exact hbad (.inr (.inr (.inl hne)))
      have hcount : partitionIndex.toNat ≤ getU32 (d.sector 1) 80 := by
        by_contra hgt
        exact hbad (.inl (by omega))
      refine ⟨markedEntry_inside (by omega) hcount hsize, ?_⟩
      unfold storageReadSectors at h
      by_cases hread : d.available = true ∧ ∀ i < (getU32 (d.sector 1) 80 * getU32 (d.sector 1) 84 +
          sectorSize - 1) / sectorSize, d.accessible (getU64 (d.sector 1) 72 + i) = true
      · rw [if_pos hread] at h
        dsimp only at h
        by_cases hrefused : guidIsZero (diskBytes d (getU64 (d.sector 1) 72))
              ((partitionIndex.toNat - 1) * getU32 (d.sector 1) 84) = true ∨
            memcmpEq (diskBytes d (getU64 (d.sector 1) 72))
              ((partitionIndex.toNat - 1) * getU32 (d.sector 1) 84) espType = true ∨
            getU64 (diskBytes d (getU64 (d.sector 1) 72))
                ((partitionIndex.toNat - 1) * getU32 (d.sector 1) 84 + 40) <
              (getU64 (diskBytes d (getU64 (d.sector 1) 72))
                ((partitionIndex.toNat - 1) * getU32 (d.sector 1) 84 + 32) + 65536) % 2 ^ 64
        · rw [if_pos hrefused] at h
          cases h
        · rw [if_neg hrefused] at h
          have hwrites := (Option.some.inj h).symm
          have hcrc : crc32Update 0 (memBytes (markEntry (diskBytes d (getU64 (d.sector 1) 72))
              ((partitionIndex.toNat - 1) * getU32 (d.sector 1) 84)) 0
              (getU32 (d.sector 1) 80 * getU32 (d.sector 1) 84)) = markedCrc d partitionIndex := by
            unfold markedCrc markedEntries markedEntry gptTable gptTableSize
            rw [hsize]
          have hentries : markEntry (diskBytes d (getU64 (d.sector 1) 72))
              ((partitionIndex.toNat - 1) * getU32 (d.sector 1) 84) = markedEntries d partitionIndex := by
            unfold markedEntries markedEntry gptTable
            rw [hsize]
          rw [hcrc, hentries] at hwrites
          exact hwrites
      · rw [if_neg hread] at h
        cases h

/-- The device after a partition of it was marked. -/
structure MarkedDevice (d d' : Disk) (partitionIndex : Int) : Prop where
  inside : markedEntry partitionIndex + installGptEntrySize ≤ gptTableSize (d.sector 1)
  primary : d'.sector 1 = gptRefreshHeaderCrc (d.sector 1) (markedCrc d partitionIndex)
  backup : d'.sector (gptBackupLba d) =
    gptRefreshHeaderCrc (d.sector (gptBackupLba d)) (markedCrc d partitionIndex)
  primaryEntries : ∀ i < gptTableSectors (d.sector 1), d'.sector (getU64 (d.sector 1) 72 + i) =
    memFrom (markedEntries d partitionIndex) (i * sectorSize)
  backupEntries : ∀ i < gptTableSectors (d.sector 1),
    d'.sector (getU64 (d.sector (gptBackupLba d)) 72 + i) =
      memFrom (markedEntries d partitionIndex) (i * sectorSize)
  others : ∀ lba, ¬ GptSector d lba → d'.sector lba = d.sector lba

theorem gptMark_device (hvalid : ValidGpt d)
    (h : gptMarkPartitionOrizonData d partitionIndex = (true, d')) : MarkedDevice d d' partitionIndex := by
  unfold gptMarkPartitionOrizonData at h
  cases hwrites : gptMarkWrites d partitionIndex with
  | none =>
      rw [hwrites] at h
      cases h
  | some writes =>
      rw [hwrites] at h
      dsimp only at h
      obtain ⟨hinside, hwhat⟩ := gptMarkWrites_some hwrites
      have haccess : d.available = true ∧ d.accessible (gptBackupLba d) = true := by
        have hlast : (gptBackupLba d,
            gptRefreshHeaderCrc (markBackupHeader d (d.sector 1) (gptTableSectors (d.sector 1)))
              (markedCrc d partitionIndex)) ∈ writes := by
          rw [hwhat]
          exact List.mem_append_right _ (List.mem_cons_of_mem _ List.mem_cons_self)
        have hwritten := writeSectors_accessible h hlast
        exact hwritten
      rw [hvalid.markBackupHeader haccess.1 haccess.2] at hwhat
      have hplaced := hvalid.placed
      have htable : TableWrites writes (getU64 (d.sector 1) 72) (getU64 (d.sector (gptBackupLba d)) 72)
          (gptBackupLba d) (gptTableSectors (d.sector 1)) (markedEntries d partitionIndex)
          (gptRefreshHeaderCrc (d.sector 1) (markedCrc d partitionIndex))
          (gptRefreshHeaderCrc (d.sector (gptBackupLba d)) (markedCrc d partitionIndex)) := by
        refine ⟨hplaced.entries, ?_, hplaced.header, fun w => ?_⟩
        · exact hplaced.before.trans (hplaced.usable.trans hplaced.after.le)
        · rw [hwhat, List.mem_append, List.mem_append, mem_bufSectors, mem_bufSectors, or_assoc]
          simp only [List.mem_cons, List.not_mem_nil, or_false]
      constructor
      · exact hinside
      · exact htable.sector h ((htable.mem _).mpr (.inr (.inr (.inl rfl))))
      · exact htable.sector h ((htable.mem _).mpr (.inr (.inr (.inr rfl))))
      · exact fun i hi => htable.sector h ((htable.mem _).mpr (.inl ⟨i, hi, rfl⟩))
      · exact fun i hi => htable.sector h ((htable.mem _).mpr (.inr (.inl ⟨i, hi, rfl⟩)))
      · intro lba hother
        unfold GptSector at hother
        refine sector_writeSectors_of_not_mem h fun w hw hlba => hother ?_
        rcases (htable.mem w).mp hw with ⟨i, hi, rfl⟩ | ⟨i, hi, rfl⟩ | rfl | rfl
        · exact .inr (.inr (.inl (by dsimp only at hlba; omega)))
        · exact .inr (.inr (.inr (by dsimp only at hlba; omega)))
        · exact .inl (by dsimp only at hlba; omega)
        · exact .inr (.inl hlba.symm)

theorem MarkedDevice.field (h : MarkedDevice d d' partitionIndex) (hvalid : ValidGpt d) {k b : Nat}
    (hb : b + k ≤ 16 ∨ (20 ≤ b ∧ b + k ≤ 88) ∨ 92 ≤ b) :
    load (d'.sector 1) k b = load (d.sector 1) k b ∧
      load (d'.sector (gptBackupLba d)) k b = load (d.sector (gptBackupLba d)) k b := by
  rw [h.primary, h.backup]
  exact ⟨load_gptRefreshHeaderCrc hvalid.primary.headerSize hb,
    load_gptRefreshHeaderCrc hvalid.backup.headerSize hb⟩

theorem MarkedDevice.backupLba (h : MarkedDevice d d' partitionIndex) (hvalid : ValidGpt d) :
    gptBackupLba d' = gptBackupLba d := (h.field hvalid (by omega)).1

theorem MarkedDevice.tableSize (h : MarkedDevice d d' partitionIndex) (hvalid : ValidGpt d) :
    gptTableSize (d'.sector 1) = gptTableSize (d.sector 1) := by
  unfold gptTableSize getU32
  rw [(h.field hvalid (by omega)).1, (h.field hvalid (by omega)).1]

theorem gptTableSize_le_sectors (hdr : Mem) : gptTableSize hdr ≤ gptTableSectors hdr * sectorSize := by
  unfold gptTableSectors sectorSize
  omega

theorem MarkedDevice.table (h : MarkedDevice d d' partitionIndex) (hvalid : ValidGpt d) {k : Nat}
    (hk : k < gptTableSize (d.sector 1)) :
    gptTable d' (d'.sector 1) k = markedEntries d partitionIndex k ∧
      gptTable d' (d'.sector (gptBackupLba d)) k = markedEntries d partitionIndex k := by
  have hin := Nat.lt_of_lt_of_le hk (gptTableSize_le_sectors _)
  have hfirst : getU64 (d'.sector 1) 72 = getU64 (d.sector 1) 72 := (h.field hvalid (by omega)).1
  have hsecond : getU64 (d'.sector (gptBackupLba d)) 72 = getU64 (d.sector (gptBackupLba d)) 72 :=
    (h.field hvalid (by omega)).2
  unfold gptTable
  rw [hfirst, hsecond]
  exact ⟨diskBytes_of_sectors h.primaryEntries hin, diskBytes_of_sectors h.backupEntries hin⟩

/-- A header that was refreshed with the checksum of the marked entries. -/
theorem gptHeader_of_refreshed {lba : Nat} (hheader : GptHeader d lba) {crc : UInt32}
    (hrefresh : d'.sector lba = gptRefreshHeaderCrc (d.sector lba) crc)
    (hcrc : crc = crc32Update 0 (memBytes (gptTable d' (d'.sector lba)) 0 (gptTableSize (d.sector lba)))) :
    GptHeader d' lba := by
  have hsize := hheader.headerSize
  have hfield : ∀ {k b}, (b + k ≤ 16 ∨ (20 ≤ b ∧ b + k ≤ 88) ∨ 92 ≤ b) →
      load (d'.sector lba) k b = load (d.sector lba) k b := by
    intro k b hb
    rw [hrefresh]
    exact load_gptRefreshHeaderCrc hsize hb
  have htable : gptTableSize (d'.sector lba) = gptTableSize (d.sector lba) := by
    unfold gptTableSize getU32
    rw [hfield (by omega), hfield (by omega)]
  have hbytes : getU32 (d'.sector lba) 12 = getU32 (d.sector lba) 12 := hfield (by omega)
  constructor
  · rw [hrefresh, memcmpEq_gptRefreshHeaderCrc hsize]
    exact hheader.signature
  · rw [hbytes]
    exact hsize
  · rw [hrefresh]
    exact (gptRefreshHeaderCrc_checksums hsize).1
  · exact (hfield (by omega)).trans hheader.myLba
  · have hstored : getU32 (d'.sector lba) 88 = crc.toNat := by
      rw [hrefresh]
      exact (gptRefreshHeaderCrc_checksums hsize).2
    rw [isCrc32_iff _ (getU32_lt _ _), htable, hstored, hcrc]

theorem MarkedDevice.valid (h : MarkedDevice d d' partitionIndex) (hvalid : ValidGpt d) : ValidGpt d' := by
  have hbackup := h.backupLba hvalid
  have hagrees := hvalid.agrees
  have hplaced := hvalid.placed
  have hsame : gptTableSize (d.sector (gptBackupLba d)) = gptTableSize (d.sector 1) := by
    unfold gptTableSize
    rw [hagrees.count, hagrees.size]
  have hfield : ∀ k b, (b + k ≤ 16 ∨ (20 ≤ b ∧ b + k ≤ 88) ∨ 92 ≤ b) →
      load (d'.sector 1) k b = load (d.sector 1) k b ∧
        load (d'.sector (gptBackupLba d)) k b = load (d.sector (gptBackupLba d)) k b :=
    fun k b hb => h.field hvalid hb
  have hsectors : gptTableSectors (d'.sector 1) = gptTableSectors (d.sector 1) := by
    unfold gptTableSectors
    rw [h.tableSize hvalid]
  refine ⟨?_, ?_, ?_, ?_, ?_⟩
  · refine gptHeader_of_refreshed hvalid.primary h.primary ?_
    exact congrArg (crc32Update 0) (memBytes_congr fun k hk =>
      (h.table hvalid (by rwa [Nat.zero_add])).1.symm)
  · rw [hbackup]
    refine gptHeader_of_refreshed hvalid.backup h.backup ?_
    rw [hsame]
    exact congrArg (crc32Update 0) (memBytes_congr fun k hk =>
      (h.table hvalid (by rwa [Nat.zero_add])).2.symm)
  · rw [hbackup]
    constructor
    · exact ((hfield 4 80 (by omega)).2.trans hagrees.count).trans (hfield 4 80 (by omega)).1.symm
    · exact ((hfield 4 84 (by omega)).2.trans hagrees.size).trans (hfield 4 84 (by omega)).1.symm
    · exact ((hfield 8 40 (by omega)).2.trans hagrees.firstUsable).trans (hfield 8 40 (by omega)).1.symm
    · exact ((hfield 8 48 (by omega)).2.trans hagrees.lastUsable).trans (hfield 8 48 (by omega)).1.symm
    · exact (hfield 8 32 (by omega)).2.trans hagrees.pointsBack
  · have hfirst : getU64 (d'.sector 1) 72 = getU64 (d.sector 1) 72 := (hfield 8 72 (by omega)).1
    have hsecond : getU64 (d'.sector (gptBackupLba d)) 72 = getU64 (d.sector (gptBackupLba d)) 72 :=
      (hfield 8 72 (by omega)).2
    have hlow : getU64 (d'.sector 1) 40 = getU64 (d.sector 1) 40 := (hfield 8 40 (by omega)).1
    have hhigh : getU64 (d'.sector 1) 48 = getU64 (d.sector 1) 48 := (hfield 8 48 (by omega)).1
    have hother : getU64 (d'.sector 1) 32 = getU64 (d.sector 1) 32 := (hfield 8 32 (by omega)).1
    rw [hbackup]
    constructor
    · rw [hfirst]
      exact hplaced.entries
    · rw [hfirst, hsectors, hlow]
      exact hplaced.before
    · rw [hlow, hhigh]
      exact hplaced.usable
    · rw [hhigh, hsecond]
      exact hplaced.after
    · rw [hsecond, hsectors, hother]
      exact hplaced.header
  · intro k hk
    rw [h.tableSize hvalid] at hk
    rw [hbackup, (h.table hvalid hk).1, (h.table hvalid hk).2]

/-- What marking a partition is to leave: two tables that agree, every other entry and
the identity and range of the marked one as they were, and the marked one a data
partition by its type and its name. -/
structure GptMarked (d d' : Disk) (partitionIndex : Int) : Prop where
  valid : ValidGpt d'
  backup : gptBackupLba d' = gptBackupLba d
  size : gptTableSize (d'.sector 1) = gptTableSize (d.sector 1)
  others : ∀ k < gptTableSize (d.sector 1),
    k < markedEntry partitionIndex ∨ markedEntry partitionIndex + installGptEntrySize ≤ k →
    gptTable d' (d'.sector 1) k = gptTable d (d.sector 1) k
  kept : ∀ k, 16 ≤ k → k < 48 → gptTable d' (d'.sector 1) (markedEntry partitionIndex + k) =
    gptTable d (d.sector 1) (markedEntry partitionIndex + k)
  outside : ∀ lba, ¬ GptSector d lba → d'.sector lba = d.sector lba
  type : gptTypeName (gptTable d' (d'.sector 1)) (markedEntry partitionIndex) = ("Orizon Data", true)
  name : gptDecodeName (gptTable d' (d'.sector 1)) (markedEntry partitionIndex) partitionNameSize = dataName

theorem gptTypeName_congr {buf buf' : Mem} {off : Nat} (h : ∀ i < 16, buf (off + i) = buf' (off + i)) :
    gptTypeName buf off = gptTypeName buf' off := by
  have hzero : guidIsZero buf off = guidIsZero buf' off := by
    unfold guidIsZero
    rw [Bool.eq_iff_iff, List.all_eq_true, List.all_eq_true]
    exact forall₂_congr fun i hi => by rw [h i (List.mem_range.mp hi)]
  have hcmp : ∀ bytes : List UInt8, bytes.length = 16 → memcmpEq buf off bytes = memcmpEq buf' off bytes :=
    fun bytes hlen => memcmpEq_congr fun x hlo hhi => by
      obtain ⟨i, rfl⟩ := Nat.exists_eq_add_of_le hlo
      exact h i (by omega)
  unfold gptTypeName
  rw [hzero, hcmp _ rfl, hcmp _ rfl, hcmp _ rfl, hcmp _ rfl]

theorem gptDecodeName_congr {buf buf' : Mem} {entry outSize : Nat}
    (h : ∀ i, 56 ≤ i → i < installGptEntrySize → buf (entry + i) = buf' (entry + i)) :
    gptDecodeName buf entry outSize = gptDecodeName buf' entry outSize := by
  unfold installGptEntrySize at h
  have hunits : (List.range 36).map (fun i => getU16 buf (entry + 56 + i * 2)) =
      (List.range 36).map fun i => getU16 buf' (entry + 56 + i * 2) := by
    refine List.map_congr_left fun i hi => load_congr fun x hlo hhi => ?_
    have hlt := List.mem_range.mp hi
    obtain ⟨k, rfl⟩ : ∃ k, x = entry + k := ⟨x - entry, by omega⟩
    exact h k (by omega) (by omega)
  unfold gptDecodeName
  rw [hunits]

/-- Marking does what it is to do just where the twelfth unit of the old name is zero. -/
theorem MarkedDevice.marked_iff (h : MarkedDevice d d' partitionIndex) (hvalid : ValidGpt d) :
    GptMarked d d' partitionIndex ↔
      getU16 (gptTable d (d.sector 1)) (markedEntry partitionIndex + 56 + 11 * 2) = 0 := by
  have hinside := h.inside
  unfold installGptEntrySize at hinside
  have htable : ∀ k < gptTableSize (d.sector 1),
      gptTable d' (d'.sector 1) k = markedEntries d partitionIndex k :=
    fun k hk => (h.table hvalid hk).1
  have hname : gptDecodeName (gptTable d' (d'.sector 1)) (markedEntry partitionIndex) partitionNameSize =
      dataName ↔ getU16 (gptTable d (d.sector 1)) (markedEntry partitionIndex + 56 + 11 * 2) = 0 := by
    rw [← gptDecodeName_markEntry]
    refine Eq.congr_left (gptDecodeName_congr fun i _ hi => ?_)
    unfold installGptEntrySize at hi
    exact htable _ (by omega)
  refine ⟨fun hmarked => hname.mp hmarked.name, fun hzero => ?_⟩
  constructor
  · exact h.valid hvalid
  · exact h.backupLba hvalid
  · exact h.tableSize hvalid
  · intro k hk hother
    unfold installGptEntrySize at hother
    rw [htable k hk]
    exact markEntry_of_outside (by omega)
  · intro k hlo hhi
    rw [htable _ (by omega)]
    exact markEntry_of_outside (by omega)
  · exact h.others
  · rw [← @gptTypeName_markEntry (gptTable d (d.sector 1)) (markedEntry partitionIndex)]
    exact gptTypeName_congr fun i hi => htable _ (by omega)
  · exact hname.mpr hzero

end Device

/-- On a device with a partition table and its backup, marking a partition leaves what it
is to leave just where the twelfth unit of the partition's name was zero, and where it
returns -1 before its first write it changes nothing. -/
theorem gptMark_exact {d : Disk} {partitionIndex : Int} (hvalid : ValidGpt d) :
    (∀ d', gptMarkPartitionOrizonData d partitionIndex = (true, d') →
      (GptMarked d d' partitionIndex ↔
        getU16 (gptTable d (d.sector 1)) (markedEntry partitionIndex + 56 + 11 * 2) = 0)) ∧
    (gptMarkWrites d partitionIndex = none → gptMarkPartitionOrizonData d partitionIndex = (false, d)) := by
  refine ⟨fun d' h => (gptMark_device hvalid h).marked_iff hvalid, fun hnone => ?_⟩
  unfold gptMarkPartitionOrizonData
  rw [hnone]

/-- A disk of 1 GiB with one partition, of a type and a name. -/
def namedDisk (name : List UInt8) : Disk where
  available := true
  accessible := fun lba => lba < 2097152
  writable := true
  sector := fun lba =>
    let entries := writeGptEntry zeroMem 0 msBasicType dataGuid 2048 (2048 + 65536) name
    if lba = 1 then writeGptHeader 1 (2097152 - 1) 34 (installDataLast 2097152) 2 (entriesCrcOf entries)
    else if lba = 2097152 - 1 then
      writeGptHeader (2097152 - 1) 1 34 (installDataLast 2097152) (2097152 - 1 - 32) (entriesCrcOf entries)
    else if 2 ≤ lba ∧ lba < 34 then memFrom entries ((lba - 2) * sectorSize)
    else if 2097152 - 33 ≤ lba then memFrom entries ((lba - (2097152 - 33)) * sectorSize)
    else zeroMem

theorem namedDisk_valid (name : List UInt8) : ValidGpt (namedDisk name) := by
  have hwritten : WrittenGpt (namedDisk name) 2097152
      (writeGptEntry zeroMem 0 msBasicType dataGuid 2048 (2048 + 65536) name) := by
    have hsectors : (2097152 : UInt64).toNat = 2097152 := rfl
    constructor
    · decide
    · rfl
    · rw [hsectors]
      rfl
    · intro i hi
      unfold namedDisk
      dsimp only
      rw [if_neg (by omega), if_neg (by omega), if_pos (by omega), Nat.add_sub_cancel_left]
    · intro i hi
      have hplace : 2097152 - 33 + i - (2097152 - 33) = i := by omega
      rw [hsectors]
      unfold namedDisk
      dsimp only
      rw [if_neg (by omega), if_neg (by omega), if_neg (by omega), if_pos (by omega), hplace]
  exact hwritten.valid

/-- The name that a partition of another system usually has. -/
def basicDataName : List UInt8 := (cstr "Basic data partition").map Subtype.val

/-- A partition that is named Basic is marked as it should be. -/
theorem gptMark_exact_sample :
    GptMarked (namedDisk (basicDataName.take 5))
      (gptMarkPartitionOrizonData (namedDisk (basicDataName.take 5)) 1).2 1 :=
  ((gptMark_exact (namedDisk_valid _)).1 _ (Prod.ext (by decide +kernel) rfl)).mpr (by decide +kernel)

/-- One that is named Basic data partition keeps the end of its name. -/
theorem gptMark_exact_fails : ∃ d d', ValidGpt d ∧ gptMarkPartitionOrizonData d 1 = (true, d') ∧
    ¬ GptMarked d d' 1 := by
  have hmark : gptMarkPartitionOrizonData (namedDisk basicDataName) 1 =
      (true, (gptMarkPartitionOrizonData (namedDisk basicDataName) 1).2) :=
    Prod.ext (by decide +kernel) rfl
  have hvalid := namedDisk_valid basicDataName
  refine ⟨_, _, hvalid, hmark, fun hmarked => ?_⟩
  have hunit := ((gptMark_device hvalid hmark).marked_iff hvalid).mp hmarked
  exact absurd hunit (by decide +kernel)

end Orizon
