import Orizon.Install.Buffer

/-!
# Orizon.Install.Esp

What an installation beside another system writes, and where it accesses its table.

Every sector that is written is one of the partition that was found, for every device,
because each cluster is checked against the size of the mounted volume
(`dualbootEsp_sectors`).  The accesses of the table are not checked: they stay inside
just where each use of the table meets what `Orizon.Install.Buffer` says of it
(`dualbootEsp_exact`).  Both go through the functions once, for any rules
(`dualbootWrite_exact`).
-/

namespace Orizon

open Traced

/-! ## Finding and mounting -/

section Mount

variable {d : Disk} {sectors : Nat} {part : GptPartition} {vol : Fat32Volume}

/-- What is found is an extent. -/
structure FoundEsp (part : GptPartition) : Prop where
  order : part.firstLba < part.lastLba
  last : part.lastLba < 2 ^ 64
  sectors : part.sectors = part.lastLba - part.firstLba + 1

theorem gptFindEspScan_found {entriesLba entrySize : Nat} {is : List Nat}
    (h : gptFindEspScan d sectors entriesLba entrySize is = some part) : FoundEsp part := by
  induction is with
  | nil => cases h
  | cons i is ih =>
      unfold gptFindEspScan at h
      cases hread : storageRead d (gptEntryLba entriesLba entrySize i) with
      | none =>
          rw [hread] at h
          cases h
      | some sec =>
          rw [hread] at h
          dsimp only at h
          generalize hskip : (!memcmpEq sec (i * entrySize % sectorSize) espType ||
            decide (getU64 sec (i * entrySize % sectorSize + 40) ≤ getU64 sec (i * entrySize % sectorSize + 32) ∨
              getU64 sec (i * entrySize % sectorSize + 32) < 34 ∨
              getU64 sec (i * entrySize % sectorSize + 40) ≥ sectors)) = skip at h
          cases skip with
          | true =>
              rw [if_pos rfl] at h
              exact ih h
          | false =>
              rw [if_neg Bool.false_ne_true] at h
              rw [Bool.or_eq_false_iff, decide_eq_false_iff_not] at hskip
              obtain rfl := (Option.some.inj h).symm
              exact ⟨by dsimp only; omega, getU64_lt _ _, rfl⟩

theorem gptFindEsp_found (h : gptFindEsp d sectors = some part) : FoundEsp part := by
  unfold gptFindEsp at h
  cases havail : d.available with
  | false =>
      rw [havail, if_neg Bool.false_ne_true] at h
      cases h
  | true =>
      rw [havail, if_pos rfl] at h
      cases hread : storageRead d 1 with
      | none =>
          rw [hread] at h
          cases h
      | some hdr =>
          rw [hread] at h
          dsimp only at h
          by_cases hbad : !memcmpEq hdr 0 efiPart ∨ getU64 hdr 72 = 0 ∨ getU32 hdr 80 = 0 ∨
              getU32 hdr 84 ≠ installGptEntrySize
          · rw [if_pos hbad] at h
            cases h
          · rw [if_neg hbad] at h
            exact gptFindEspScan_found h

/-- What a mounted volume is of its partition. -/
structure MountedEsp (part : GptPartition) (vol : Fat32Volume) : Prop extends FoundEsp part where
  start : vol.startLba = part.firstLba
  data : vol.dataStartSector = vol.reservedSectors + vol.fatCount * vol.sectorsPerFat
  inside : vol.dataStartSector + vol.clusterCount * vol.sectorsPerCluster ≤ vol.totalSectors
  total : vol.totalSectors ≤ part.sectors ∧ vol.totalSectors < 2 ^ 32
  cluster : 0 < vol.sectorsPerCluster ∧ vol.sectorsPerCluster ≤ 8
  reserved : 0 < vol.reservedSectors
  fats : 0 < vol.fatCount ∧ vol.fatCount ≤ 2
  fatSectors : 0 < vol.sectorsPerFat ∧ vol.sectorsPerFat ≤ installFatSectorsMax
  count : 128 ≤ vol.clusterCount

theorem fat32Fields_mounted {boot : Mem} (hfound : FoundEsp part) (hvol : fat32Fields boot part = vol)
    (hspc : ¬ vol.sectorsPerCluster = 0) (hbytes : ¬ vol.sectorsPerCluster * sectorSize > installClusterBytes)
    (hreserved : ¬ vol.reservedSectors = 0) (hfats : ¬ vol.fatCount = 0) (htwo : ¬ vol.fatCount > 2)
    (hspf : ¬ vol.sectorsPerFat = 0) (hmax : ¬ vol.sectorsPerFat > installFatSectorsMax)
    (hcount : ¬ vol.clusterCount < 128) : MountedEsp part vol := by
  have hspc8 : vol.sectorsPerCluster ≤ 8 := by
    unfold sectorSize installClusterBytes at hbytes
    omega
  have hmul : vol.fatCount * vol.sectorsPerFat ≤ 2 * installFatSectorsMax :=
    Nat.mul_le_mul (by omega) (by omega)
  have hlow : vol.reservedSectors < 2 ^ 16 := by
    rw [← hvol]
    exact load_lt boot 2 14
  have hdata : vol.dataStartSector = vol.reservedSectors + vol.fatCount * vol.sectorsPerFat := by
    have hfield : vol.dataStartSector =
        (vol.reservedSectors + vol.fatCount * vol.sectorsPerFat % 2 ^ 32) % 2 ^ 32 := by
      rw [← hvol]
      rfl
    have hsectors : installFatSectorsMax = 2048 := rfl
    rw [hfield]
    omega
  have hclusters : vol.clusterCount =
      (if vol.dataStartSector < vol.totalSectors then vol.totalSectors - vol.dataStartSector else 0) /
        vol.sectorsPerCluster := by
    have hfield : vol.clusterCount = if vol.sectorsPerCluster ≠ 0 then
        (if vol.dataStartSector < vol.totalSectors then vol.totalSectors - vol.dataStartSector else 0) /
          vol.sectorsPerCluster else 0 := by
      rw [← hvol]
      rfl
    rw [hfield, if_pos hspc]
  have hinside : vol.dataStartSector + vol.clusterCount * vol.sectorsPerCluster ≤ vol.totalSectors := by
    by_cases hroom : vol.dataStartSector < vol.totalSectors
    · rw [if_pos hroom] at hclusters
      have hdiv := Nat.div_mul_le_self (vol.totalSectors - vol.dataStartSector) vol.sectorsPerCluster
      rw [← hclusters] at hdiv
      omega
    · rw [if_neg hroom, Nat.zero_div] at hclusters
      omega
  have htotal : vol.totalSectors ≤ part.sectors ∧ vol.totalSectors < 2 ^ 32 := by
    have hfield : vol.totalSectors =
        if (if getU16 boot 19 = 0 then getU32 boot 32 else getU16 boot 19) = 0 ∨
            (if getU16 boot 19 = 0 then getU32 boot 32 else getU16 boot 19) > part.sectors then
          part.sectors % 2 ^ 32
        else if getU16 boot 19 = 0 then getU32 boot 32 else getU16 boot 19 := by
      rw [← hvol]
      rfl
    have hsixteen := load_lt boot 2 19
    have hthirtytwo := getU32_lt boot 32
    have hread : (if getU16 boot 19 = 0 then getU32 boot 32 else getU16 boot 19) < 2 ^ 32 := by
      by_cases hzero : getU16 boot 19 = 0
      · rwa [if_pos hzero]
      · rw [if_neg hzero]
        unfold getU16
        omega
    rw [hfield]
    generalize (if getU16 boot 19 = 0 then getU32 boot 32 else getU16 boot 19) = total at hread
    by_cases hbig : total = 0 ∨ total > part.sectors
    · rw [if_pos hbig]
      exact ⟨Nat.mod_le _ _, Nat.mod_lt _ (by decide)⟩
    · rw [if_neg hbig]
      omega
  exact {
    toFoundEsp := hfound
    start := by rw [← hvol]; rfl
    data := hdata
    inside := hinside
    total := htotal
    cluster := ⟨by omega, hspc8⟩
    reserved := by omega
    fats := ⟨by omega, by omega⟩
    fatSectors := ⟨by omega, by omega⟩
    count := by omega }

theorem fat32MountExistingEsp_mounted (hfound : FoundEsp part)
    (h : fat32MountExistingEsp d part = some vol) : MountedEsp part vol := by
  unfold fat32MountExistingEsp at h
  by_cases hnone : part.sectors = 0
  · rw [if_pos hnone] at h
    cases h
  rw [if_neg hnone] at h
  cases hread : storageRead d part.firstLba with
  | none =>
      rw [hread] at h
      cases h
  | some boot =>
      rw [hread] at h
      dsimp only at h
      generalize hvol : fat32Fields boot part = v at h
      by_cases hbad : getU16 boot 11 ≠ sectorSize ∨ boot 510 ≠ 0x55 ∨ boot 511 ≠ 0xaa ∨
          memcmpEq boot 82 ((cstr "FAT32").map Subtype.val) = false ∨
          v.sectorsPerCluster = 0 ∨ v.sectorsPerCluster * sectorSize > installClusterBytes ∨
          v.reservedSectors = 0 ∨ v.fatCount = 0 ∨ v.fatCount > 2 ∨ v.sectorsPerFat = 0 ∨
          v.sectorsPerFat > installFatSectorsMax ∨ v.rootCluster < 2 ∨ v.clusterCount < 128
      · rw [if_pos hbad] at h
        cases h
      · rw [if_neg hbad] at h
        obtain rfl := Option.some.inj h
        simp only [not_or] at hbad
        obtain ⟨-, -, -, -, hspc, hbytes, hreserved, hfats, htwo, hspf, hmax, -, hcount⟩ := hbad
        exact fat32Fields_mounted hfound hvol hspc hbytes hreserved hfats htwo hspf hmax hcount

end Mount

/-! ## Clusters -/

section Clusters

variable {part : GptPartition} {vol : Fat32Volume}

theorem MountedEsp.limit_eq (h : MountedEsp part vol) : vol.limit = vol.clusterCount + 2 := by
  have hinside := h.inside
  have htotal := h.total.2
  have hdata := h.data
  have hreserved := h.reserved
  have hfats : 0 < vol.fatCount * vol.sectorsPerFat := Nat.mul_pos h.fats.1 h.fatSectors.1
  have hmul := Nat.le_mul_of_pos_right vol.clusterCount h.cluster.1
  unfold Fat32Volume.limit
  exact Nat.mod_eq_of_lt (by omega)

theorem MountedEsp.cluster_inside (h : MountedEsp part vol) {c : Nat} (hlo : 2 ≤ c) (hhi : c < vol.limit) :
    part.firstLba ≤ fatClusterLba vol c ∧
      fatClusterLba vol c + vol.sectorsPerCluster ≤ part.lastLba + 1 := by
  have hlimit := h.limit_eq
  have hinside := h.inside
  have htotal := h.total
  have hsectors := h.sectors
  have horder := h.order
  have hlast := h.last
  have hstart := h.start
  have hcluster : (c + 2 ^ 32 - 2) % 2 ^ 32 = c - 2 := by
    have hbound := Nat.mod_lt (vol.clusterCount + 2) (by decide : 0 < 2 ^ 32)
    unfold Fat32Volume.limit at hhi
    omega
  have hrow : (c - 2) * vol.sectorsPerCluster + vol.sectorsPerCluster ≤
      vol.clusterCount * vol.sectorsPerCluster := by
    rw [← Nat.succ_mul]
    exact Nat.mul_le_mul_right _ (by omega)
  have hpos := h.cluster.1
  unfold fatClusterLba
  rw [hcluster, Nat.mod_eq_of_lt (by omega)]
  omega

theorem fatReadCluster_some {d : Disk} {c : Nat} {buf : Mem} (h : fatReadCluster vol d c = some buf) :
    2 ≤ c ∧ c < vol.limit := by
  unfold fatReadCluster at h
  by_cases hbad : c < 2 ∨ c ≥ vol.limit ∨ vol.clusterBytes > installClusterBytes
  · rw [if_pos hbad] at h
    cases h
  · omega

theorem fatClusterCount_le (hmount : MountedEsp part vol) {bytes : Nat} (hbytes : bytes < 2 ^ 40) :
    0 < fatClusterCount vol bytes ∧ fatClusterCount vol bytes ≤ 2 ^ 31 ∧
      bytes ≤ fatClusterCount vol bytes * installClusterBytes := by
  obtain ⟨hpos, hle⟩ := hmount.cluster
  unfold fatClusterCount Fat32Volume.clusterBytes sectorSize installClusterBytes
  dsimp only
  generalize vol.sectorsPerCluster = n at hpos hle
  -- a cluster has at most 4096 bytes, and as many clusters as are needed fit in 32 bits
  have hcount : (bytes + n * 512 - 1) / (n * 512) ≤ 2 ^ 31 ∧ bytes ≤ (bytes + n * 512 - 1) / (n * 512) * 4096 := by
    interval_cases n <;> omega
  rw [Nat.mod_eq_of_lt (by omega)]
  by_cases hzero : (bytes + n * 512 - 1) / (n * 512) = 0
  · rw [if_pos hzero]
    omega
  · rw [if_neg hzero]
    omega

end Clusters

/-! ## Acts -/

section Acts

variable {act : EspEvent → Prop} (hact : ∀ off n, act (.buffer off n))

include hact

theorem accessFat_acts (off n : Nat) : Acts act (accessFat off n) :=
  (acts_leave (hact off n)).bind fun _ => Acts.ite (acts_pure ()) (acts_stop _)

theorem fatGet_acts (cluster : Nat) : Acts act (fatGet cluster) :=
  (accessFat_acts hact _ _).bind fun _ => acts_reads _

theorem fatSet_acts (cluster value : Nat) : Acts act (fatSet cluster value) :=
  (accessFat_acts hact _ _).bind fun _ => acts_modify _

theorem fatFreeLoop_acts (limit fuel cluster : Nat) :
    Acts act (fatFreeLoop limit fuel cluster) := by
  induction fuel generalizing cluster with
  | zero => exact acts_pure ()
  | succ fuel ih =>
      exact Acts.ite ((fatGet_acts hact cluster).bind fun next => (fatSet_acts hact cluster 0).bind fun _ =>
        Acts.ite (acts_pure ()) (ih next)) (acts_pure ())

theorem fatFreeRun_acts (first n i : Nat) : Acts act (fatFreeRun first n i) := by
  induction n generalizing i with
  | zero => exact acts_pure none
  | succ n ih => exact (fatGet_acts hact _).bind fun _ => Acts.ite (acts_pure _) (ih (i + 1))

theorem fatAllocLoop_acts (limit count fuel first : Nat) :
    Acts act (fatAllocLoop limit count fuel first) := by
  induction fuel generalizing first with
  | zero => exact acts_pure 0
  | succ fuel ih =>
      refine Acts.ite ((fatFreeRun_acts hact first count 0).bind fun used => ?_) (acts_pure 0)
      cases used with
      | none => exact (acts_forM (fun _ => fatSet_acts hact _ _) _).bind fun _ => acts_pure first
      | some i => exact ih _

end Acts

/-! ## Rules -/

section Rules

variable {part : GptPartition} {vol : Fat32Volume}

/-- What is used of the events: a sector of the partition is safe, as is an access inside
`install_fat`, and the three uses of the table are exact. -/
structure EspRules (part : GptPartition) (vol : Fat32Volume) (safe meets : EspEvent → Prop) : Prop where
  sectors : ∀ lba n, part.firstLba ≤ lba ∧ lba + n ≤ part.lastLba + 1 →
    (safe (.sectors lba n) ↔ meets (.sectors lba n))
  buffer : ∀ off n, off + n ≤ installFatBytes → (safe (.buffer off n) ↔ meets (.buffer off n))
  free : ∀ cluster, Exact safe meets (fatFreeChain vol cluster) fun _ => True
  alloc : ∀ bytes < 2 ^ 40, Exact safe meets (fatAllocChainScan vol bytes) fun cluster =>
    cluster = 0 ∨ (2 ≤ cluster ∧ cluster + fatClusterCount vol bytes < vol.limit)
  root : Exact safe meets (announced (fun _ => .root) (fatSet vol.rootCluster 0x0fffffff)) fun _ => True

/-- The accesses are those of `install_fat` just if what is required of the table is
met. -/
theorem MountedEsp.exactRules (hmount : MountedEsp part vol) :
    EspRules part vol (EspEvent.Safe part) (EspEvent.Meets vol) := by
  have hacts : ∀ off n, (EspEvent.buffer off n).Meets vol := fun _ _ => trivial
  constructor
  · exact fun lba n hinside => iff_of_true hinside trivial
  · exact fun off n hinside => iff_of_true hinside trivial
  · exact fun cluster => exact_announced (fun _ => trivial) (fatFreeLoop_acts hacts _ _ _)
      (fun _ => safeRun_free) fun _ _ _ => trivial
  · intro bytes hbytes
    obtain ⟨hpos, hle, -⟩ := fatClusterCount_le hmount hbytes
    refine Exact.ite (fun _ => exact_pure (.inl rfl)) fun _ => ?_
    exact exact_announced (fun _ => trivial) (fatAllocLoop_acts hacts _ _ _ _)
      (fun _ => (safeRun_alloc hpos hle).1) fun s cluster hok =>
        (@safeRun_alloc s part vol.limit _ hpos hle).2 cluster hok
  · refine exact_announced (fun _ => trivial) (fatSet_acts hacts _ _) (fun s => ?_) fun _ _ _ => trivial
    rw [trace_fatSet]
    exact List.forall_mem_singleton

/-- An event that writes, if it does, to the partition. -/
def EspEvent.WritesInside (part : GptPartition) (e : EspEvent) : Prop :=
  ∀ lba n, e = .sectors lba n → part.firstLba ≤ lba ∧ lba + n ≤ part.lastLba + 1

theorem MountedEsp.sectorRules (hmount : MountedEsp part vol) :
    EspRules part vol (EspEvent.WritesInside part) fun _ => True := by
  have hacts : ∀ off n, (EspEvent.buffer off n).WritesInside part := fun _ _ _ _ h => by cases h
  constructor
  · intro lba n hinside
    refine iff_of_true (fun lba' n' heq => ?_) trivial
    cases heq
    exact hinside
  · exact fun off n _ => iff_of_true (hacts off n) trivial
  · exact fun cluster => exact_announced (fun _ _ _ h => by cases h) (fun _ _ _ => trivial)
      (fun s => iff_of_true (fatFreeLoop_acts hacts _ _ _ s) trivial) fun _ _ _ => trivial
  · intro bytes hbytes
    obtain ⟨hpos, hle, -⟩ := fatClusterCount_le hmount hbytes
    refine Exact.ite (fun _ => exact_pure (.inl rfl)) fun _ => ?_
    exact exact_announced (fun _ _ _ h => by cases h) (fun _ _ _ => trivial)
      (fun s => iff_of_true (fatAllocLoop_acts hacts _ _ _ _ s) trivial) fun s cluster hok =>
        (@safeRun_alloc s part vol.limit _ hpos hle).2 cluster hok
  · exact exact_announced (fun _ _ _ h => by cases h) (fun _ _ _ => trivial)
      (fun s => iff_of_true (fatSet_acts hacts _ _ s) trivial) fun _ _ _ => trivial

end Rules

/-! ## Functions -/

section Functions

variable {part : GptPartition} {vol : Fat32Volume} {safe meets : EspEvent → Prop} {dirCluster : Nat}
  {shortName longName : List UInt8}

theorem espWrite_exact (hrules : EspRules part vol safe meets) {lba n : Nat} {buf : Mem}
    (h : part.firstLba ≤ lba ∧ lba + n ≤ part.lastLba + 1) :
    Exact safe meets (espWrite lba buf n) fun _ => True :=
  (exact_leave (hrules.sectors lba n h)).bind fun _ _ => (exact_reads_any _).bind fun _ _ =>
    (exact_modify _).bind fun _ _ => Exact.ite (fun _ => exact_pure trivial) fun _ => exact_stop _

theorem accessFat_exact (hrules : EspRules part vol safe meets) {off n : Nat} (h : off + n ≤ installFatBytes) :
    Exact safe meets (accessFat off n) fun _ => True :=
  (exact_leave (hrules.buffer off n h)).bind fun _ _ =>
    Exact.ite (fun _ => exact_pure trivial) fun _ => exact_stop _

theorem fatSet_exact (hrules : EspRules part vol safe meets) {cluster value : Nat} (h : InFat cluster) :
    Exact safe meets (fatSet cluster value) fun _ => True :=
  (accessFat_exact hrules h).bind fun _ _ => exact_modify _

theorem fatWriteCluster_exact (hrules : EspRules part vol safe meets) (hmount : MountedEsp part vol)
    {c : Nat} {data : Mem} (hlo : 2 ≤ c) (hhi : c < vol.limit) :
    Exact safe meets (fatWriteCluster vol c data) fun _ => True :=
  espWrite_exact hrules (hmount.cluster_inside hlo hhi)

theorem fatWriteFileData_exact (hrules : EspRules part vol safe meets) (hmount : MountedEsp part vol)
    {first size : Nat} {data : Mem} (hsize : size < 2 ^ 40) (htwo : 2 ≤ first)
    (hfit : first + fatClusterCount vol size < vol.limit) :
    Exact safe meets (fatWriteFileData vol first data size) fun _ => True := by
  obtain ⟨-, -, hbytes⟩ := fatClusterCount_le hmount hsize
  have hlimit : vol.limit < 2 ^ 32 := Nat.mod_lt _ (by decide)
  refine exact_forM fun i hi => ?_
  have hround := List.mem_range.mp hi
  unfold installClusterBytes at hround hbytes
  rw [Nat.mod_eq_of_lt (by omega)]
  exact fatWriteCluster_exact hrules hmount (by omega) (by omega)

theorem fat32LoadFat_exact (hrules : EspRules part vol safe meets) (hmount : MountedEsp part vol) :
    Exact safe meets (fat32LoadFat vol) fun _ => True := by
  have hmax := Nat.mul_le_mul_right sectorSize hmount.fatSectors.2
  refine Exact.ite (fun _ => exact_stop _) fun _ => ?_
  refine (accessFat_exact hrules (Nat.zero_add _).le).bind fun _ _ => (exact_modify _).bind fun _ _ => ?_
  refine (accessFat_exact hrules ((Nat.zero_add _).trans_le hmax)).bind fun _ _ => ?_
  refine (exact_reads_any _).bind fun read _ => ?_
  cases read with
  | none => exact exact_stop _
  | some bytes => exact exact_modify _

theorem MountedEsp.fat_inside (hmount : MountedEsp part vol) {fat s : Nat} (hfat : fat < vol.fatCount)
    (hs : s < vol.sectorsPerFat) :
    part.firstLba ≤ (vol.startLba + vol.reservedSectors + fat * vol.sectorsPerFat + s) % 2 ^ 64 ∧
      (vol.startLba + vol.reservedSectors + fat * vol.sectorsPerFat + s) % 2 ^ 64 + 1 ≤ part.lastLba + 1 := by
  have hrow : fat * vol.sectorsPerFat + vol.sectorsPerFat ≤ vol.fatCount * vol.sectorsPerFat := by
    rw [← Nat.succ_mul]
    exact Nat.mul_le_mul_right _ hfat
  have hdata := hmount.data
  have hinside := hmount.inside
  have htotal := hmount.total.1
  have hstart := hmount.start
  have hsectors := hmount.sectors
  have horder := hmount.order
  have hlast := hmount.last
  rw [Nat.mod_eq_of_lt (by omega)]
  omega

theorem fatWriteFats_exact (hrules : EspRules part vol safe meets) (hmount : MountedEsp part vol) :
    Exact safe meets (fatWriteFats vol) fun _ => True := by
  refine (fatSet_exact hrules (inFat_of_lt (by decide))).bind fun _ _ =>
    (fatSet_exact hrules (inFat_of_lt (by decide))).bind fun _ _ => hrules.root.bind fun _ _ => ?_
  refine exact_forM fun fat hfat => exact_forM fun s hs => ?_
  have hs' := List.mem_range.mp hs
  have hbound := Nat.mul_le_mul_right sectorSize (Nat.le_trans hs' hmount.fatSectors.2)
  refine (accessFat_exact hrules (by rw [← Nat.succ_mul]; exact hbound)).bind fun _ _ => ?_
  exact (exact_reads_any _).bind fun _ _ =>
    espWrite_exact hrules (hmount.fat_inside (List.mem_range.mp hfat) hs')

theorem exact_fatReadCluster : Exact safe meets (reads fun s : Esp => fatReadCluster vol s.disk dirCluster : EspM _)
    fun read => ∀ buf, read = some buf → 2 ≤ dirCluster ∧ dirCluster < vol.limit :=
  exact_reads fun _ _ => fatReadCluster_some

theorem fatDirWriteSlots_exact (hrules : EspRules part vol safe meets) (hmount : MountedEsp part vol)
    {entryOff slots : Nat} {entries : Mem} :
    Exact safe meets (fatDirWriteSlots vol dirCluster entryOff entries slots) fun _ => True := by
  refine exact_fatReadCluster.bind fun read hread => ?_
  cases read with
  | none => exact exact_stop _
  | some buf =>
      obtain ⟨hlo, hhi⟩ := hread buf rfl
      exact Exact.ite (fun _ => exact_stop _) fun _ => fatWriteCluster_exact hrules hmount hlo hhi

theorem fatDirDeleteShort_exact (hrules : EspRules part vol safe meets) (hmount : MountedEsp part vol) :
    Exact safe meets (fatDirDeleteShort vol dirCluster shortName) fun _ => True := by
  refine (exact_reads_any _).bind fun found _ => ?_
  cases found with
  | none => exact exact_pure trivial
  | some entry =>
      refine exact_fatReadCluster.bind fun read hread => ?_
      cases read with
      | none => exact exact_stop _
      | some buf =>
          obtain ⟨hlo, hhi⟩ := hread buf rfl
          refine Exact.ite (fun _ => ?_) fun _ => fatWriteCluster_exact hrules hmount hlo hhi
          exact (hrules.free _).bind fun _ _ => fatWriteCluster_exact hrules hmount hlo hhi

theorem fatDirAddShortEntry_exact (hrules : EspRules part vol safe meets) (hmount : MountedEsp part vol)
    {attr : UInt8} {firstCluster fileSize : Nat} :
    Exact safe meets (fatDirAddShortEntry vol dirCluster shortName longName attr firstCluster fileSize)
      fun _ => True := by
  refine (exact_reads_any _).bind fun free _ => ?_
  cases free with
  | none => exact exact_stop _
  | some entryOff => exact fatDirWriteSlots_exact hrules hmount

theorem fatEnsureDirShort_exact (hrules : EspRules part vol safe meets) (hmount : MountedEsp part vol) :
    Exact safe meets (fatEnsureDirShort vol dirCluster shortName) fun _ => True := by
  refine (exact_reads_any _).bind fun found _ => ?_
  cases found with
  | some entry => exact Exact.ite (fun _ => exact_stop _) fun _ => exact_pure trivial
  | none =>
      refine (hrules.alloc _ (by decide)).bind fun cluster hcluster => ?_
      refine Exact.ite (fun _ => exact_stop _) fun hnonzero => ?_
      obtain ⟨hlo, hhi⟩ := hcluster.resolve_left hnonzero
      exact (fatWriteCluster_exact hrules hmount hlo (by omega)).bind fun _ _ =>
        (fatDirAddShortEntry_exact hrules hmount).bind fun _ _ => exact_pure trivial

theorem fatWriteRegularFileShort_exact (hrules : EspRules part vol safe meets)
    (hmount : MountedEsp part vol) (file : BootFile) :
    Exact safe meets (fatWriteRegularFileShort vol dirCluster shortName longName file) fun _ => True := by
  unfold fatWriteRegularFileShort
  cases file.data with
  | none => exact exact_stop _
  | some data =>
      refine Exact.ite (fun _ => exact_stop _) fun _ => ?_
      refine (fatDirDeleteShort_exact hrules hmount).bind fun _ _ => ?_
      refine (hrules.alloc _ file.size_lt).bind fun cluster hcluster => ?_
      refine Exact.ite (fun _ => exact_stop _) fun hnonzero => ?_
      obtain ⟨hlo, hfit⟩ := hcluster.resolve_left hnonzero
      exact (fatWriteFileData_exact hrules hmount file.size_lt hlo hfit).bind fun _ _ =>
        fatDirAddShortEntry_exact hrules hmount

/-- An installation beside another system keeps to every set of rules. -/
theorem dualbootWrite_exact (hrules : EspRules part vol safe meets) (hmount : MountedEsp part vol)
    (payload : InstallBootPayload) :
    Exact safe meets (dualbootWriteSideBySideEsp vol payload) fun _ => True := by
  have hfile := fun {dir : Nat} {short long : List UInt8} (file : BootFile) =>
    @fatWriteRegularFileShort_exact part vol safe meets dir short long hrules hmount file
  refine Exact.ite (fun _ => exact_stop _) fun _ => Exact.ite (fun _ => exact_stop _) fun _ => ?_
  refine (fat32LoadFat_exact hrules hmount).bind fun _ _ =>
    (fatEnsureDirShort_exact hrules hmount).bind fun _ _ =>
    (fatEnsureDirShort_exact hrules hmount).bind fun _ _ => ?_
  refine (hfile _).bind fun _ _ => (hfile _).bind fun _ _ => (hfile _).bind fun _ _ =>
    (hfile _).bind fun _ _ => ?_
  refine Exact.ite (fun _ => ?_) fun _ => fatWriteFats_exact hrules hmount
  exact (hfile _).bind fun _ _ => (hfile _).bind fun _ _ => fatWriteFats_exact hrules hmount

end Functions

/-! ## The installation -/

section Installation

variable {d : Disk} {sectors : Nat} {part : GptPartition} {vol : Fat32Volume}

/-- On every device, all sectors that an installation beside another system writes are
sectors of the partition that was found. -/
theorem dualbootEsp_sectors (hesp : gptFindEsp d sectors = some part)
    (hmount : fat32MountExistingEsp d part = some vol) (payload : InstallBootPayload) (fat : Mem) :
    ∀ e ∈ (dualbootWriteSideBySideEsp vol payload).trace ⟨d, fat⟩, e.WritesInside part := by
  have hmounted := fat32MountExistingEsp_mounted (gptFindEsp_found hesp) hmount
  exact ((dualbootWrite_exact hmounted.sectorRules hmounted payload).events ⟨d, fat⟩).mpr fun _ _ => trivial

/-- On every device with a partition that is found and mounted, an installation beside
another system writes the sectors of that partition and accesses `install_fat` inside,
just if each use of the table meets what it requires. -/
theorem dualbootEsp_exact (hesp : gptFindEsp d sectors = some part)
    (hmount : fat32MountExistingEsp d part = some vol) (payload : InstallBootPayload) (fat : Mem) :
    (∀ e ∈ (dualbootWriteSideBySideEsp vol payload).trace ⟨d, fat⟩, e.Safe part) ↔
      ∀ e ∈ (dualbootWriteSideBySideEsp vol payload).trace ⟨d, fat⟩, e.Meets vol := by
  have hmounted := fat32MountExistingEsp_mounted (gptFindEsp_found hesp) hmount
  exact (dualbootWrite_exact hmounted.exactRules hmounted payload).events ⟨d, fat⟩

end Installation

/-- A partition of some sectors, where a file of an earlier installation begins at some
cluster. -/
def earlierEsp (sectors cluster : Nat) : Disk where
  available := true
  accessible := fun _ => true
  writable := true
  sector := fun lba =>
    if lba = 1 then putU32 (putU32 (putU64 (putBytes zeroMem 0 efiPart) 72 2) 80 1) 84 128
    else if lba = 2 then putU64 (putU64 (putBytes zeroMem 0 espType) 32 34) 40 (33 + sectors)
    else if lba = 34 then
      let boot := putU16 zeroMem 11 512
      let boot := putBytes boot 13 [1, 1, 0, 1]
      let boot := putU32 (putU32 (putU32 boot 32 sectors) 36 2048) 44 2
      putBytes (putBytes boot 82 ((cstr "FAT32").map Subtype.val)) 510 [0x55, 0xaa]
    else if lba = 2083 then fatDirAddEntry zeroMem 0 efiShort 0x10 3 0
    else if lba = 2084 then fatDirAddEntry zeroMem 0 orizonShort 0x10 4 0
    else if lba = 2085 then fatDirAddEntry zeroMem 0 bootx64Short 0x20 cluster 1
    else zeroMem

/-- The partition and the volume of it. -/
def earlierPartition (sectors : Nat) : GptPartition := ⟨1, 34, 33 + sectors, sectors⟩

def earlierVolume (sectors : Nat) : Fat32Volume := ⟨34, sectors, 1, 1, 1, 2048, 2, 2049, sectors - 2049⟩

/-- Files of one byte. -/
def smallPayload : InstallBootPayload :=
  let file : BootFile := ⟨some zeroMem, 1, by decide⟩
  let none : BootFile := ⟨none, 0, by decide⟩
  ⟨file, file, file, file, none, none⟩

/-- A partition whose clusters all have an entry in `install_fat` is extended inside. -/
theorem dualbootEsp_exact_sample :
    gptFindEsp (earlierEsp 100000 5) 200000 = some (earlierPartition 100000) ∧
      fat32MountExistingEsp (earlierEsp 100000 5) (earlierPartition 100000) = some (earlierVolume 100000) ∧
      ∀ e ∈ (dualbootWriteSideBySideEsp (earlierVolume 100000) smallPayload).trace
        ⟨earlierEsp 100000 5, zeroMem⟩, e.Safe (earlierPartition 100000) := by
  have hesp : gptFindEsp (earlierEsp 100000 5) 200000 = some (earlierPartition 100000) := by decide +kernel
  have hmount : fat32MountExistingEsp (earlierEsp 100000 5) (earlierPartition 100000) =
      some (earlierVolume 100000) := by decide +kernel
  have hsmall : ∀ e : EspEvent, e.Meets (earlierVolume 100000) :=
    EspEvent.meets_of_small (by decide) (by decide)
  exact ⟨hesp, hmount, (dualbootEsp_exact hesp hmount smallPayload zeroMem).mpr fun e _ => hsmall e⟩

theorem dualbootEsp_sectors_sample :
    gptFindEsp (earlierEsp 100000 5) 200000 = some (earlierPartition 100000) ∧
      ∀ e ∈ (dualbootWriteSideBySideEsp (earlierVolume 100000) smallPayload).trace ⟨earlierEsp 100000 5, zeroMem⟩,
        e.WritesInside (earlierPartition 100000) := by
  have hesp : gptFindEsp (earlierEsp 100000 5) 200000 = some (earlierPartition 100000) := by decide +kernel
  exact ⟨hesp, dualbootEsp_sectors hesp (by decide +kernel) smallPayload zeroMem⟩

/-- A file of an earlier installation that begins behind the end of `install_fat` is freed
there. -/
theorem dualbootEsp_exact_fails : ∃ d sectors part vol, gptFindEsp d sectors = some part ∧
    fat32MountExistingEsp d part = some vol ∧
    ¬ ∀ e ∈ (dualbootWriteSideBySideEsp vol smallPayload).trace ⟨d, zeroMem⟩, e.Safe part := by
  have hesp : gptFindEsp (earlierEsp 300000 262144) 400000 = some (earlierPartition 300000) := by
    decide +kernel
  have hmount : fat32MountExistingEsp (earlierEsp 300000 262144) (earlierPartition 300000) =
      some (earlierVolume 300000) := by decide +kernel
  exact ⟨_, _, _, _, hesp, hmount, by decide +kernel⟩

end Orizon
