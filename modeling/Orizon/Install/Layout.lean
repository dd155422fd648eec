import Orizon.Install.Table

/-!
# Orizon.Install.Layout

The layout an installation writes.

Wherever `install_write_gpt` returns 0, the device holds a partition table with its
backup, whose two partitions are apart from each other and from the table; the check of
the layout accepts it, and persistence finds the data partition
(`installWriteGpt_valid`).
-/

namespace Orizon

/-! ## Headers -/

section Header

variable (currentLba backupLba firstUsable lastUsable entriesLba : UInt64) (entriesCrc : UInt32)

theorem gptHeaderFields_crc {i : Nat} (hlo : 16 ≤ i) (hhi : i < 20) :
    gptHeaderFields currentLba backupLba firstUsable lastUsable entriesLba entriesCrc i = 0 := by
  have hsig : efiPart.length = 8 := rfl
  have hguid : diskGuid.length = 16 := rfl
  unfold gptHeaderFields putU32 putU64
  simp (disch := omega) only [store_of_outside, putBytes_of_outside]
  rfl

/-- What `write_gpt_header` writes. -/
structure WrittenHeader (hdr : Mem) : Prop where
  signature : memcmpEq hdr 0 efiPart = true
  headerSize : getU32 hdr 12 = 92
  myLba : getU64 hdr 24 = currentLba.toNat
  otherLba : getU64 hdr 32 = backupLba.toNat
  firstUsable : getU64 hdr 40 = firstUsable.toNat
  lastUsable : getU64 hdr 48 = lastUsable.toNat
  entriesLba : getU64 hdr 72 = entriesLba.toNat
  entryCount : getU32 hdr 80 = installGptEntryCount
  entrySize : getU32 hdr 84 = installGptEntrySize
  entriesCrc : getU32 hdr 88 = entriesCrc.toNat
  headerCrc : IsCrc32 (gptHeaderBytes hdr) (getU32 hdr 16)

theorem writeGptHeader_written :
    WrittenHeader currentLba backupLba firstUsable lastUsable entriesLba entriesCrc
      (writeGptHeader currentLba backupLba firstUsable lastUsable entriesLba entriesCrc) := by
  have hsig : efiPart.length = 8 := rfl
  have hguid : diskGuid.length = 16 := rfl
  have hcurrent := currentLba.toNat_lt
  have hbackup := backupLba.toNat_lt
  have hfirst := firstUsable.toNat_lt
  have hlast := lastUsable.toNat_lt
  have hentries := entriesLba.toNat_lt
  have hcrc := entriesCrc.toNat_lt
  have hfields : getU32 (gptHeaderFields currentLba backupLba firstUsable lastUsable entriesLba
      entriesCrc) 12 = 92 := by
    unfold gptHeaderFields getU32 putU32 putU64 putBytes
    simp (disch := omega) only [load_store_of_disjoint, load_bufCopy_of_disjoint, load_store]
  constructor
  · rw [memcmpEq_iff]
    intro i hi
    have hsame : writeGptHeader currentLba backupLba firstUsable lastUsable entriesLba entriesCrc (0 + i) =
        putBytes zeroMem 0 efiPart (0 + i) := by
      unfold writeGptHeader gptHeaderFields putU32 putU64
      simp (disch := omega) only [store_of_outside, putBytes_of_outside]
    rw [hsame]
    exact memcmpEq_iff.mp (memcmpEq_putBytes efiPart) i hi
  · exact (load_store_of_disjoint (by omega)).trans hfields
  · unfold writeGptHeader gptHeaderFields getU64 putU32 putU64
    simp (disch := omega) only [load_store_of_disjoint, load_bufCopy_of_disjoint, load_store, putBytes]
  · unfold writeGptHeader gptHeaderFields getU64 putU32 putU64
    simp (disch := omega) only [load_store_of_disjoint, load_bufCopy_of_disjoint, load_store, putBytes]
  · unfold writeGptHeader gptHeaderFields getU64 putU32 putU64
    simp (disch := omega) only [load_store_of_disjoint, load_bufCopy_of_disjoint, load_store, putBytes]
  · unfold writeGptHeader gptHeaderFields getU64 putU32 putU64
    simp (disch := omega) only [load_store_of_disjoint, load_bufCopy_of_disjoint, load_store, putBytes]
  · unfold writeGptHeader gptHeaderFields getU64 putU32 putU64 putBytes
    simp (disch := omega) only [load_store_of_disjoint, load_store]
  · unfold writeGptHeader gptHeaderFields getU32 putU32 putU64 putBytes installGptEntryCount
    simp (disch := omega) only [load_store_of_disjoint, load_store]
  · unfold writeGptHeader gptHeaderFields getU32 putU32 putU64 putBytes installGptEntrySize
    simp (disch := omega) only [load_store_of_disjoint, load_store]
  · unfold writeGptHeader gptHeaderFields getU32 putU32 putU64 putBytes
    simp (disch := omega) only [load_store_of_disjoint, load_store]
  · exact isCrc32_header hfields fun i hlo hhi => gptHeaderFields_crc _ _ _ _ _ _ hlo hhi

end Header

/-! ## Entries -/

section Entry

variable {buf : Mem} {entry x : Nat} {typeGuid uniqueGuid name : List UInt8} {firstLba lastLba : UInt64}

theorem writeGptEntry_of_outside (htype : typeGuid.length = 16) (hunique : uniqueGuid.length = 16)
    (h : x < entry ∨ entry + installGptEntrySize ≤ x) :
    writeGptEntry buf entry typeGuid uniqueGuid firstLba lastLba name x = buf x := by
  unfold installGptEntrySize at h
  have hname := min_le_right name.length 36
  unfold writeGptEntry putU64
  rw [writeGptName_of_outside (by omega), store_of_outside (by omega), store_of_outside (by omega),
    store_of_outside (by omega), putBytes_of_outside (by omega), putBytes_of_outside (by omega)]
  exact bufCopy_of_outside (by unfold installGptEntrySize; omega)

/-- What `write_gpt_entry` writes. -/
structure WrittenEntry (buf : Mem) (entry : Nat) (typeGuid : List UInt8) (firstLba lastLba : Nat) : Prop where
  type : memcmpEq buf entry typeGuid = true
  first : getU64 buf (entry + 32) = firstLba
  last : getU64 buf (entry + 40) = lastLba

theorem writeGptEntry_written (htype : typeGuid.length = 16) :
    WrittenEntry (writeGptEntry buf entry typeGuid uniqueGuid firstLba lastLba name) entry typeGuid
      firstLba.toNat lastLba.toNat := by
  have hname : ∀ {buf : Mem} {k b}, b + k ≤ entry + 56 →
      load (writeGptName buf entry name) k b = load buf k b :=
    fun h => load_congr fun x hlo hhi => writeGptName_of_outside (by omega)
  have hfirst := firstLba.toNat_lt
  have hlast := lastLba.toNat_lt
  constructor
  · rw [← @memcmpEq_putBytes (bufCopy buf entry zeroMem installGptEntrySize) entry typeGuid]
    refine memcmpEq_congr fun x hlo hhi => ?_
    unfold writeGptEntry putU64
    rw [writeGptName_of_outside (by omega), store_of_outside (by omega), store_of_outside (by omega),
      store_of_outside (by omega), putBytes_of_outside (by omega)]
  · unfold writeGptEntry getU64 putU64
    simp (disch := omega) only [hname, load_store_of_disjoint, load_store]
  · unfold writeGptEntry getU64 putU64
    simp (disch := omega) only [hname, load_store_of_disjoint, load_store]

theorem WrittenEntry.congr {buf' : Mem} {f l : Nat} (h : WrittenEntry buf entry typeGuid f l)
    (htype : typeGuid.length = 16)
    (hsame : ∀ i, i < installGptEntrySize → buf' (entry + i) = buf (entry + i)) :
    WrittenEntry buf' entry typeGuid f l := by
  unfold installGptEntrySize at hsame
  have hat : ∀ x, entry ≤ x → x < entry + 128 → buf' x = buf x := by
    intro x hlo hhi
    obtain ⟨i, rfl⟩ := Nat.exists_eq_add_of_le hlo
    exact hsame i (by omega)
  constructor
  · exact (memcmpEq_congr fun x hlo hhi => hat x hlo (by omega)).trans h.type
  · exact (load_congr fun x hlo hhi => hat x (by omega) (by omega)).trans h.first
  · exact (load_congr fun x hlo hhi => hat x (by omega) (by omega)).trans h.last

end Entry

section Entries

variable (sectors : UInt64)

theorem installEntries_esp : WrittenEntry (installEntries sectors) 0 espType 2048 1048575 := by
  have hentry : WrittenEntry (writeGptEntry zeroMem 0 espType espGuid installEspStartLba
      (installDataStartLba - 1) espName) 0 espType 2048 1048575 := writeGptEntry_written rfl
  refine hentry.congr rfl fun i hi => ?_
  unfold installEntries
  exact writeGptEntry_of_outside rfl rfl (by omega)

theorem installEntries_data : WrittenEntry (installEntries sectors) installGptEntrySize orizonDataType
    1048576 (installDataLast sectors).toNat :=
  writeGptEntry_written rfl

theorem installEntries_unused {x : Nat} (h : 2 * installGptEntrySize ≤ x) : installEntries sectors x = 0 := by
  unfold installEntries
  rw [writeGptEntry_of_outside rfl rfl (by omega), writeGptEntry_of_outside rfl rfl (by omega)]
  rfl

/-- The name of the first partition has a blank where the one of the data partition that
is looked for has a hyphen. -/
theorem installEntries_espName : installEntries sectors (56 + 6 * 2) = 0x20 := by
  have hname : getU16 (installEntries sectors) (0 + 56 + 6 * 2) = 0x20 := by
    have hesp : getU16 (writeGptEntry zeroMem 0 espType espGuid installEspStartLba
        (installDataStartLba - 1) espName) (0 + 56 + 6 * 2) = 0x20 :=
      getU16_writeGptName (by decide)
    rw [← hesp]
    refine load_congr fun x _ hhi => ?_
    unfold installEntries
    exact writeGptEntry_of_outside rfl rfl (.inl (by unfold installGptEntrySize; omega))
  rw [getU16_eq] at hname
  have hlow := (installEntries sectors (0 + 56 + 6 * 2)).toNat_lt
  exact UInt8.toNat_inj.mp (by omega : (installEntries sectors (0 + 56 + 6 * 2)).toNat = 32)

end Entries

/-! ## The device -/

section Device

variable {d d' : Disk} {sectors : UInt64} {entries : Mem}

theorem installLba_toNat (h : 2 ^ 20 + 65536 ≤ sectors.toNat) :
    (sectors - 1).toNat = sectors.toNat - 1 ∧ (sectors - 1 - 32).toNat = sectors.toNat - 33 ∧
      (installDataLast sectors).toNat = sectors.toNat - 34 := by
  have hlt := sectors.toNat_lt
  have hone : (1 : UInt64).toNat = 1 := rfl
  have hcount : (32 : UInt64).toNat = 32 := rfl
  unfold installDataLast
  simp only [UInt64.toNat_sub, hone, hcount]
  omega

/-- The checksum of an array of 128 entries. -/
def entriesCrcOf (entries : Mem) : UInt32 :=
  crc32Update 0 (memBytes entries 0 (installGptEntrySectors * sectorSize))

/-- A device with the headers of an installation around any entries. -/
structure WrittenGpt (d : Disk) (sectors : UInt64) (entries : Mem) : Prop where
  large : 2 ^ 20 + 65536 ≤ sectors.toNat
  primary : d.sector 1 = writeGptHeader 1 (sectors - 1) 34 (installDataLast sectors) 2
    (entriesCrcOf entries)
  backup : d.sector (sectors.toNat - 1) = writeGptHeader (sectors - 1) 1 34 (installDataLast sectors)
    (sectors - 1 - 32) (entriesCrcOf entries)
  primaryEntries : ∀ i < 32, d.sector (2 + i) = memFrom entries (i * sectorSize)
  backupEntries : ∀ i < 32, d.sector (sectors.toNat - 33 + i) = memFrom entries (i * sectorSize)

/-- The device after an installation, for all that the partition table is of it. -/
structure InstalledGpt (d : Disk) (sectors : UInt64) : Prop
    extends WrittenGpt d sectors (installEntries sectors) where
  available : d.available = true
  accessible : ∀ lba < 34, d.accessible lba = true
  mbr : d.sector 0 = protectiveMbr sectors

theorem mem_installGptWrites {w : Nat × Mem} : w ∈ installGptWrites sectors ↔
    w = (0, protectiveMbr sectors) ∨
    (∃ i < 32, w = (2 + i, memFrom (installEntries sectors) (i * sectorSize))) ∨
    (∃ i < 32, w = ((sectors - 1 - 32).toNat + i, memFrom (installEntries sectors) (i * sectorSize))) ∨
    w = (1, writeGptHeader 1 (sectors - 1) 34 (installDataLast sectors) 2 (installEntriesCrc sectors)) ∨
    w = ((sectors - 1).toNat, writeGptHeader (sectors - 1) 1 34 (installDataLast sectors)
      (sectors - 1 - 32) (installEntriesCrc sectors)) := by
  unfold installGptWrites installGptEntrySectors
  simp only [List.mem_cons, List.mem_append, List.mem_flatMap, List.mem_range, List.not_mem_nil, or_false]
  constructor
  · rintro ((rfl | ⟨i, hi, rfl | rfl⟩) | rfl | rfl)
    · exact .inl rfl
    · exact .inr (.inl ⟨i, hi, rfl⟩)
    · exact .inr (.inr (.inl ⟨i, hi, rfl⟩))
    · exact .inr (.inr (.inr (.inl rfl)))
    · exact .inr (.inr (.inr (.inr rfl)))
  · rintro (rfl | ⟨i, hi, rfl⟩ | ⟨i, hi, rfl⟩ | rfl | rfl)
    · exact .inl (.inl rfl)
    · exact .inl (.inr ⟨i, hi, .inl rfl⟩)
    · exact .inl (.inr ⟨i, hi, .inr rfl⟩)
    · exact .inr (.inl rfl)
    · exact .inr (.inr rfl)

theorem installWriteGpt_installed (h : installWriteGpt d sectors = (true, d')) :
    InstalledGpt d' sectors := by
  unfold installWriteGpt at h
  by_cases hsmall : sectors < installDataStartLba + 65536 ∨ installDataLast sectors ≤ installDataStartLba
  · rw [if_pos hsmall] at h
    cases h
  rw [if_neg hsmall] at h
  have hlarge : 2 ^ 20 + 65536 ≤ sectors.toNat := by
    have hnlt : ¬ sectors < 1114112 := fun hlt => hsmall (.inl hlt)
    rw [UInt64.lt_iff_toNat_lt] at hnlt
    exact Nat.le_of_not_lt hnlt
  obtain ⟨hlast, hbackup, -⟩ := installLba_toNat hlarge
  have hsector : ∀ {lba buf}, (lba, buf) ∈ installGptWrites sectors → d'.sector lba = buf := by
    intro lba buf hmem
    refine sector_writeSectors h hmem fun w hw hlba => ?_
    rw [mem_installGptWrites, hlast, hbackup] at hw hmem
    rcases hw with rfl | ⟨i, hi, rfl⟩ | ⟨i, hi, rfl⟩ | rfl | rfl <;>
      rcases hmem with hv | ⟨j, hj, hv⟩ | ⟨j, hj, hv⟩ | hv | hv <;>
      obtain ⟨rfl, rfl⟩ := Prod.mk.inj hv <;> dsimp only at hlba ⊢
    all_goals first
      | omega
      | (obtain rfl : i = j := by omega)
        rfl
  have hdevice := writeSectors_device (installGptWrites sectors) d
  rw [h] at hdevice
  have haccessible : ∀ {w}, w ∈ installGptWrites sectors → d'.available = true ∧ d'.accessible w.1 = true := by
    intro w hw
    have hwrite := writeSectors_accessible h hw
    rwa [← hdevice.1, ← hdevice.2] at hwrite
  refine ⟨⟨hlarge, ?_, ?_, ?_, ?_⟩, ?_, ?_, ?_⟩
  · exact hsector (mem_installGptWrites.mpr (.inr (.inr (.inr (.inl rfl)))))
  · rw [← hlast]
    exact hsector (mem_installGptWrites.mpr (.inr (.inr (.inr (.inr rfl)))))
  · intro i hi
    exact hsector (mem_installGptWrites.mpr (.inr (.inl ⟨i, hi, rfl⟩)))
  · intro i hi
    rw [← hbackup]
    exact hsector (mem_installGptWrites.mpr (.inr (.inr (.inl ⟨i, hi, rfl⟩))))
  · exact (haccessible (mem_installGptWrites.mpr (.inl rfl))).1
  · intro lba hlba
    by_cases hzero : lba = 0
    · subst hzero
      exact (haccessible (mem_installGptWrites.mpr (.inl rfl))).2
    by_cases hone : lba = 1
    · subst hone
      exact (haccessible (mem_installGptWrites.mpr (.inr (.inr (.inr (.inl rfl)))))).2
    · obtain ⟨i, rfl⟩ : ∃ i, lba = 2 + i := ⟨lba - 2, by omega⟩
      exact (haccessible (mem_installGptWrites.mpr (.inr (.inl ⟨i, by omega, rfl⟩)))).2
  · exact hsector (mem_installGptWrites.mpr (.inl rfl))

/-- What `write_gpt_header` wrote is a header of the device it is on. -/
theorem WrittenHeader.gptHeader {lba : Nat} {current other entriesLba : UInt64}
    (hdr : WrittenHeader current other 34 (installDataLast sectors) entriesLba
      (entriesCrcOf entries) (d.sector lba)) (hlba : current.toNat = lba)
    (hentries : ∀ i < 32, d.sector (entriesLba.toNat + i) =
      memFrom entries (i * sectorSize)) :
    GptHeader d lba ∧ ∀ k < installGptEntrySectors * sectorSize,
      gptTable d (d.sector lba) k = entries k := by
  have htable : ∀ k < installGptEntrySectors * sectorSize,
      gptTable d (d.sector lba) k = entries k := by
    intro k hk
    unfold gptTable
    rw [hdr.entriesLba]
    exact diskBytes_of_sectors hentries hk
  refine ⟨⟨hdr.signature, ?_, hdr.headerCrc, hdr.myLba.trans hlba, ?_⟩, htable⟩
  · rw [hdr.headerSize]
    decide
  · rw [isCrc32_iff _ (getU32_lt _ _), hdr.entriesCrc]
    unfold entriesCrcOf gptTableSize
    rw [hdr.entryCount, hdr.entrySize]
    refine congrArg (fun bytes => (crc32Update 0 bytes).toNat) (memBytes_congr fun k hk => ?_)
    exact (htable _ (by rwa [Nat.zero_add])).symm

theorem WrittenGpt.written_primary (h : WrittenGpt d sectors entries) :
    WrittenHeader 1 (sectors - 1) 34 (installDataLast sectors) 2 (entriesCrcOf entries)
      (d.sector 1) := by
  rw [h.primary]
  exact writeGptHeader_written _ _ _ _ _ _

theorem WrittenGpt.written_backup (h : WrittenGpt d sectors entries) :
    WrittenHeader (sectors - 1) 1 34 (installDataLast sectors) (sectors - 1 - 32)
      (entriesCrcOf entries) (d.sector (sectors.toNat - 1)) := by
  rw [h.backup]
  exact writeGptHeader_written _ _ _ _ _ _

theorem WrittenGpt.backupLba (h : WrittenGpt d sectors entries) : gptBackupLba d = sectors.toNat - 1 :=
  h.written_primary.otherLba.trans (installLba_toNat h.large).1

theorem WrittenGpt.valid (h : WrittenGpt d sectors entries) : ValidGpt d := by
  have hlarge := h.large
  obtain ⟨hlast, hentries, hdata⟩ := installLba_toNat hlarge
  have hp := h.written_primary
  have hb := h.written_backup
  obtain ⟨hprimary, hptable⟩ := hp.gptHeader rfl h.primaryEntries
  obtain ⟨hbackup, hbtable⟩ := hb.gptHeader hlast (by rw [hentries]; exact h.backupEntries)
  have hsize : gptTableSize (d.sector 1) = installGptEntrySectors * sectorSize := by
    unfold gptTableSize
    rw [hp.entryCount, hp.entrySize]
    rfl
  have hcount : gptTableSectors (d.sector 1) = 32 := by
    unfold gptTableSectors
    rw [hsize]
    rfl
  have hfirst : (34 : UInt64).toNat = 34 := rfl
  have htwo : (2 : UInt64).toNat = 2 := rfl
  refine ⟨hprimary, ?_, ?_, ?_, ?_⟩
  · rwa [h.backupLba]
  · rw [h.backupLba]
    constructor
    · rw [hb.entryCount, hp.entryCount]
    · rw [hb.entrySize, hp.entrySize]
    · rw [hb.firstUsable, hp.firstUsable]
    · rw [hb.lastUsable, hp.lastUsable]
    · exact hb.otherLba
  · rw [h.backupLba]
    constructor
    · rw [hp.entriesLba, htwo]
    · rw [hp.entriesLba, hp.firstUsable, hcount, hfirst, htwo]
    · rw [hp.firstUsable, hp.lastUsable, hfirst, hdata]
      omega
    · rw [hp.lastUsable, hb.entriesLba, hdata, hentries]
      omega
    · rw [hb.entriesLba, hp.otherLba, hcount, hentries, hlast]
      omega
  · intro k hk
    rw [hsize] at hk
    rw [h.backupLba, hbtable k hk, hptable k hk]

theorem InstalledGpt.table (h : InstalledGpt d sectors) {k : Nat} (hk : k < 16384) :
    gptTable d (d.sector 1) k = installEntries sectors k :=
  (h.written_primary.gptHeader rfl h.primaryEntries).2 k hk

theorem InstalledGpt.esp (h : InstalledGpt d sectors) :
    WrittenEntry (gptTable d (d.sector 1)) 0 espType 2048 1048575 :=
  (installEntries_esp sectors).congr rfl fun i hi =>
    h.table (by unfold installGptEntrySize at hi; omega)

theorem InstalledGpt.data (h : InstalledGpt d sectors) :
    WrittenEntry (gptTable d (d.sector 1)) installGptEntrySize orizonDataType 1048576
      (sectors.toNat - 34) := by
  rw [← (installLba_toNat h.large).2.2]
  exact (installEntries_data sectors).congr rfl fun i hi =>
    h.table (by unfold installGptEntrySize at hi ⊢; omega)

theorem InstalledGpt.read (h : InstalledGpt d sectors) {lba : Nat} (hlba : lba < 34) :
    storageRead d lba = some (d.sector lba) := by
  unfold storageRead
  rw [if_pos ⟨h.available, h.accessible lba hlba⟩]

theorem InstalledGpt.sector_two (h : InstalledGpt d sectors) : d.sector 2 = installEntries sectors := by
  refine (h.primaryEntries 0 (by omega)).trans (funext fun i => ?_)
  unfold memFrom
  rw [Nat.zero_mul, Nat.zero_add]

theorem InstalledGpt.unused (h : InstalledGpt d sectors) {i : Nat} (htwo : 2 ≤ i)
    (hi : i < installGptEntryCount) :
    guidIsZero (gptTable d (d.sector 1)) (i * installGptEntrySize) = true := by
  unfold installGptEntryCount at hi
  unfold guidIsZero
  rw [List.all_eq_true]
  intro k hk
  have hk' := List.mem_range.mp hk
  unfold installGptEntrySize
  rw [h.table (by omega), installEntries_unused sectors (by unfold installGptEntrySize; omega)]
  rfl

/-- The check of a layout accepts the one that an installation made. -/
theorem InstalledGpt.layoutValid (h : InstalledGpt d sectors) :
    installedGptLayoutValid d sectors = true := by
  have hlarge := h.large
  have hlt := sectors.toNat_lt
  obtain ⟨hlast, -, -⟩ := installLba_toNat hlarge
  have hmany : sectors > 32 + 1 := by
    rw [gt_iff_lt, UInt64.lt_iff_toNat_lt]
    exact Nat.lt_of_lt_of_le (by decide) hlarge
  have hdataLast : (sectors - 32 - 2).toNat = sectors.toNat - 34 := by
    have hcount : (32 : UInt64).toNat = 32 := rfl
    have htwo : (2 : UInt64).toNat = 2 := rfl
    simp only [UInt64.toNat_sub, hcount, htwo]
    omega
  have hsmall : ¬ (sectors < installDataStartLba + 65536 ∨ sectors - 32 - 2 ≤ installDataStartLba) := by
    rw [UInt64.lt_iff_toNat_lt, UInt64.le_iff_toNat_le, hdataLast]
    have hbound : (installDataStartLba + 65536).toNat = 2 ^ 20 + 65536 := rfl
    have hstart : installDataStartLba.toNat = 2 ^ 20 := rfl
    omega
  have hmbr : ¬ (protectiveMbr sectors 510 ≠ 0x55 ∨ protectiveMbr sectors 511 ≠ 0xaa ∨
      protectiveMbr sectors (446 + 4) ≠ 0xee) := by
    have hsign : protectiveMbr sectors 510 = 0x55 ∧ protectiveMbr sectors 511 = 0xaa := ⟨rfl, rfl⟩
    have htype : protectiveMbr sectors (446 + 4) = 0xee := rfl
    rw [hsign.1, hsign.2, htype]
    decide
  have hp := h.written_primary
  have hesp := installEntries_esp sectors
  have hdata := installEntries_data sectors
  have hheader : (memcmpEq (d.sector 1) 0 efiPart && getU64 (d.sector 1) 24 == 1 &&
      getU64 (d.sector 1) 32 == (sectors - 1).toNat && getU64 (d.sector 1) 72 == 2 &&
      decide (getU32 (d.sector 1) 80 ≥ 2) && getU32 (d.sector 1) 84 == installGptEntrySize) = true := by
    rw [hp.signature, hp.myLba, hp.otherLba, hp.entriesLba, hp.entryCount, hp.entrySize]
    simp [installGptEntryCount]
  unfold installedGptLayoutValid
  dsimp only
  rw [if_pos hmany, h.available, if_neg hsmall, h.read (by omega), h.read (by omega), h.read (by omega)]
  dsimp only
  rw [h.mbr, if_neg hmbr, hheader, h.sector_two, hesp.type, hesp.first, hesp.last, hdata.type, hdata.first,
    hdata.last, (installLba_toNat hlarge).2.2, hdataLast]
  simp [installEspStartLba, installDataStartLba]

theorem InstalledGpt.dataPartition (h : InstalledGpt d sectors) :
    findDataPartition d = some (2 ^ 20, sectors.toNat - 33 - 2 ^ 20) := by
  have hlarge := h.large
  have hlt := sectors.toNat_lt
  have hp := h.written_primary
  have hesp : gptEntry (installEntries sectors) 0 = none := by
    have htype : ¬ memcmpEq (installEntries sectors) 0 orizonDataType = true := by
      intro heq
      have hfirst := memcmpEq_iff.mp heq 0 (by decide)
      have hesp := memcmpEq_iff.mp (installEntries_esp sectors).type 0 (by decide)
      rw [hesp] at hfirst
      exact absurd hfirst (by decide)
    have hname : ¬ persistGptNameIsOrizonData (installEntries sectors) 0 = true := by
      intro heq
      unfold persistGptNameIsOrizonData at heq
      rw [Bool.and_eq_true, Bool.and_eq_true, List.all_eq_true] at heq
      have hsixth := heq.1.1 6 (by decide)
      rw [Bool.and_eq_true, decide_eq_true_eq, decide_eq_true_eq, Nat.zero_add,
        installEntries_espName] at hsixth
      exact absurd hsixth.2 (by decide)
    unfold gptEntry
    rw [if_neg (by rw [Bool.or_eq_true]; exact not_or_intro htype hname)]
  have hdata : gptEntry (installEntries sectors) installGptEntrySize =
      some (2 ^ 20, sectors.toNat - 33 - 2 ^ 20) := by
    have hentry := installEntries_data sectors
    have hlast := (installLba_toNat hlarge).2.2
    unfold gptEntry
    rw [hentry.type, Bool.true_or, if_pos rfl, hentry.first, hentry.last, hlast, if_pos (by omega)]
    dsimp only
    have hsectors : persistSectors = 2048 := rfl
    rw [hsectors, if_neg (by omega)]
    refine congrArg some (Prod.ext rfl ?_)
    dsimp only
    omega
  have hscan : gptScan d 2 128 (List.range 128) = some (2 ^ 20, sectors.toNat - 33 - 2 ^ 20) := by
    have hrange : List.range 128 = 0 :: 1 :: (List.range 126).map (· + 2) := rfl
    have hlba : gptEntryLba 2 128 0 = 2 ∧ gptEntryLba 2 128 1 = 2 := ⟨rfl, rfl⟩
    have hoff : 0 * 128 % sectorSize = 0 ∧ 1 * 128 % sectorSize = installGptEntrySize := ⟨rfl, rfl⟩
    rw [hrange]
    unfold gptScan
    rw [hlba.1, h.read (by omega), h.sector_two, hoff.1]
    dsimp only
    rw [hesp]
    unfold gptScan
    dsimp only
    rw [hlba.2, h.read (by omega), h.sector_two, hoff.2]
    dsimp only
    rw [hdata]
  unfold findDataPartition
  rw [h.available, if_pos rfl, h.read (by omega)]
  dsimp only
  have hsig : memcmpEq (d.sector 1) 0 ((cstr "EFI PART").map Subtype.val) = true := hp.signature
  rw [hsig, if_pos rfl, hp.entriesLba, hp.entryCount, hp.entrySize, if_neg (by decide)]
  exact hscan

/-- The two partitions of an installation: they are apart, and between them and the table
there is nothing shared. -/
structure OrizonPartitions (d : Disk) : Prop where
  esp : memcmpEq (gptTable d (d.sector 1)) 0 espType = true
  data : memcmpEq (gptTable d (d.sector 1)) installGptEntrySize orizonDataType = true
  unused : ∀ i, 2 ≤ i → i < getU32 (d.sector 1) 80 →
    guidIsZero (gptTable d (d.sector 1)) (i * installGptEntrySize) = true
  first : getU64 (d.sector 1) 40 ≤ gptFirst d 0 ∧ gptFirst d 0 ≤ gptLast d 0
  disjoint : gptLast d 0 < gptFirst d 1
  last : gptFirst d 1 ≤ gptLast d 1 ∧ gptLast d 1 ≤ getU64 (d.sector 1) 48
  apart : ∀ i lba, i < 2 → gptFirst d i ≤ lba → lba ≤ gptLast d i → ¬ GptSector d lba

theorem InstalledGpt.partitions (h : InstalledGpt d sectors) : OrizonPartitions d := by
  have hlarge := h.large
  have hp := h.written_primary
  have hdata := (installLba_toNat hlarge).2.2
  have hesp : gptFirst d 0 = 2048 ∧ gptLast d 0 = 1048575 := ⟨h.esp.first, h.esp.last⟩
  have hpart : gptFirst d 1 = 1048576 ∧ gptLast d 1 = sectors.toNat - 34 := ⟨h.data.first, h.data.last⟩
  have hfirst : getU64 (d.sector 1) 40 = 34 := hp.firstUsable
  have hlast : getU64 (d.sector 1) 48 = sectors.toNat - 34 := hp.lastUsable.trans hdata
  constructor
  · exact h.esp.type
  · exact h.data.type
  · intro i htwo hi
    rw [hp.entryCount] at hi
    exact h.unused htwo hi
  · omega
  · omega
  · omega
  · intro i lba hi hlo hhi
    refine h.valid.not_gptSector ?_ ?_
    · interval_cases i <;> omega
    · interval_cases i <;> omega

end Device

/-- Wherever `install_write_gpt` returns 0, the device holds a partition table whose
backup is its last sector, with the two partitions of an installation; the check of the
layout accepts it, and persistence finds the data partition and no other. -/
theorem installWriteGpt_valid {d d' : Disk} {sectors : UInt64}
    (h : installWriteGpt d sectors = (true, d')) :
    ValidGpt d' ∧ gptBackupLba d' = sectors.toNat - 1 ∧ OrizonPartitions d' ∧
      installedGptLayoutValid d' sectors = true ∧
      ∀ p, (persistOrizonDataPartitionPresent d' p).1 = true ∧
        (persistOrizonDataPartitionPresent d' p).2.lba = gptFirst d' 1 ∧
        (persistOrizonDataPartitionPresent d' p).2.dataSectors = gptLast d' 1 - gptFirst d' 1 + 1 := by
  have hinst := installWriteGpt_installed h
  have hlarge := hinst.large
  have hfirst : gptFirst d' 1 = 1048576 := hinst.data.first
  have hlast : gptLast d' 1 = sectors.toNat - 34 := hinst.data.last
  refine ⟨hinst.valid, hinst.backupLba, hinst.partitions, hinst.layoutValid, fun p => ?_⟩
  unfold persistOrizonDataPartitionPresent
  rw [hinst.dataPartition, hfirst, hlast]
  refine ⟨rfl, rfl, ?_⟩
  dsimp only
  omega

/-- A disk of the smallest size that is accepted. -/
theorem installWriteGpt_valid_sample :
    ValidGpt (installWriteGpt ⟨true, fun _ => true, true, fun _ _ => 0⟩ 1114112).2 := by
  have hwrite : (installWriteGpt ⟨true, fun _ => true, true, fun _ _ => 0⟩ 1114112).1 = true := by
    unfold installWriteGpt
    rw [if_neg (by decide)]
    exact writeSectors_of_accessible _ rfl rfl fun _ => rfl
  exact (installWriteGpt_valid (Prod.ext hwrite rfl)).1

end Orizon
