import Orizon.Install.Gpt
import Orizon.Vfs.Slots

/-!
# Orizon.Install.Table

What a partition table with its backup is on a device: `ValidGpt`, said with the checksum
as a remainder and not with the loop that computes it.
-/

namespace Orizon

/-! ## Checksums -/

/-- The CRC-32 of a message. -/
def IsCrc32 (bytes : List UInt8) (crc : Nat) : Prop :=
  IsCrc (0xedb88320 : BitVec 32) (bytes.map UInt8.toBitVec) (BitVec.ofNat 32 crc)

theorem toBitVec_crc32Bit (crc : UInt32) :
    (crc32Bit crc).toBitVec = crcShift 0xedb88320 crc.toBitVec := by
  have hmask : 0#32 - (crc.toBitVec &&& 1#32) = if crc.toBitVec.getLsbD 0 then BitVec.allOnes 32 else 0#32 := by
    rw [BitVec.and_one_eq_setWidth_ofBool_getLsbD]
    cases crc.toBitVec.getLsbD 0 <;> rfl
  have hbit : (crc32Bit crc).toBitVec =
      (crc.toBitVec >>> 1) ^^^ (0xedb88320#32 &&& (0#32 - (crc.toBitVec &&& 1#32))) := rfl
  rw [hbit, hmask]
  unfold crcShift
  cases crc.toBitVec.getLsbD 0 with
  | false => simp
  | true => simp

theorem toBitVec_crc32Byte (crc : UInt32) (byte : UInt8) :
    (crc32Byte crc byte).toBitVec = crcByte 0xedb88320 crc.toBitVec byte.toBitVec := by
  have hbits : ∀ n (c : UInt32), (crc32Bit^[n] c).toBitVec = (crcShift 0xedb88320)^[n] c.toBitVec := by
    intro n
    induction n with
    | zero => exact fun _ => rfl
    | succ n ih =>
        intro c
        rw [Function.iterate_succ_apply, Function.iterate_succ_apply, ih, toBitVec_crc32Bit]
  unfold crc32Byte crcByte
  rw [hbits]
  rfl

/-- `crc32_update` computes the CRC-32, and nothing else is it. -/
theorem isCrc32_iff (bytes : List UInt8) {crc : Nat} (hcrc : crc < 2 ^ 32) :
    IsCrc32 bytes crc ↔ crc = (crc32Update 0 bytes).toNat := by
  have hbytes : ∀ (c : UInt32), (bytes.foldl crc32Byte c).toBitVec =
      crcBytes 0xedb88320 c.toBitVec (bytes.map UInt8.toBitVec) := by
    induction bytes with
    | nil => exact fun _ => rfl
    | cons byte bytes ih =>
        intro c
        rw [List.foldl_cons, ih, toBitVec_crc32Byte]
        rfl
  have hupdate : (crc32Update 0 bytes).toBitVec =
      ~~~(crcBytes 0xedb88320 (BitVec.allOnes 32) (bytes.map UInt8.toBitVec)) := by
    unfold crc32Update
    rw [UInt32.toBitVec_not, hbytes]
    rfl
  unfold IsCrc32
  rw [@isCrc_iff 24, ← hupdate]
  constructor
  · intro heq
    have hnat := congrArg BitVec.toNat heq
    rwa [BitVec.toNat_ofNat, Nat.mod_eq_of_lt hcrc] at hnat
  · rintro rfl
    exact BitVec.ofNat_toNat _ _ |>.trans (BitVec.setWidth_eq _)

/-! ## Bytes -/

section Bytes

variable {buf : Mem} {off n x : Nat}

theorem bufCopy_of_outside {src : Mem} (h : x < off ∨ off + n ≤ x) : bufCopy buf off src n x = buf x := by
  unfold bufCopy
  rw [if_neg (by omega)]

theorem load_bufCopy_of_disjoint {src : Mem} {k b : Nat} (h : b + k ≤ off ∨ off + n ≤ b) :
    load (bufCopy buf off src n) k b = load buf k b :=
  load_congr fun x hlo hhi => bufCopy_of_outside (by omega)

theorem putBytes_of_outside {bytes : List UInt8} (h : x < off ∨ off + bytes.length ≤ x) :
    putBytes buf off bytes x = buf x := bufCopy_of_outside h

theorem memcmpEq_iff {bytes : List UInt8} :
    memcmpEq buf off bytes = true ↔ ∀ i, i < bytes.length → buf (off + i) = bytes.getD i 0 := by
  unfold memcmpEq
  rw [decide_eq_true_eq]
  constructor
  · intro h i hi
    have hget := congrArg (fun l => l.getD i 0) h
    simpa [hi] using hget
  · intro h
    refine List.ext_getElem (by simp) fun i hi hi' => ?_
    rw [List.getElem_map, List.getElem_range, h i hi']
    simp [hi']

theorem memcmpEq_putBytes (bytes : List UInt8) : memcmpEq (putBytes buf off bytes) off bytes = true := by
  rw [memcmpEq_iff]
  intro i hi
  unfold putBytes bufCopy
  rw [if_pos (by omega), Nat.add_sub_cancel_left]
  rfl

theorem getU16_eq (buf : Mem) (off : Nat) :
    getU16 buf off = (buf off).toNat + 256 * (buf (off + 1)).toNat := by
  simp [getU16, load, List.range_succ]

theorem getU32_lt (buf : Mem) (off : Nat) : getU32 buf off < 2 ^ 32 := load_lt buf 4 off

theorem getU64_lt (buf : Mem) (off : Nat) : getU64 buf off < 2 ^ 64 := load_lt buf 8 off

theorem getU32_putU32_self {v : Nat} (h : v < 2 ^ 32) : getU32 (putU32 buf off v) off = v := load_store h

theorem putU32_zero (hlo : off ≤ x) (hhi : x < off + 4) : putU32 buf off 0 x = 0 := by
  obtain ⟨i, rfl⟩ := Nat.exists_eq_add_of_le hlo
  unfold putU32 store
  rw [if_pos (by omega), Nat.add_sub_cancel_left]
  have hbytes : ∀ i < 4, (leBytes 4 0).getD i 0 = 0 := by decide
  exact hbytes i (by omega)

theorem memBytes_congr {buf' : Mem} (h : ∀ i, i < n → buf (off + i) = buf' (off + i)) :
    memBytes buf off n = memBytes buf' off n :=
  List.map_congr_left fun i hi => h i (List.mem_range.mp hi)

end Bytes

/-! ## Names -/

section Names

variable {buf : Mem} {entry x : Nat} {name : List UInt8}

theorem writeGptName_of_outside (h : x < entry + 56 ∨ entry + 56 + min name.length 36 * 2 ≤ x) :
    writeGptName buf entry name x = buf x := by
  unfold writeGptName
  generalize min name.length 36 = n at h
  induction n with
  | zero => rfl
  | succ n ih =>
      rw [List.range_succ, List.foldl_append, List.foldl_cons, List.foldl_nil]
      exact (store_of_outside (by omega)).trans (ih (by omega))

theorem getU16_writeGptName {i : Nat} (hi : i < min name.length 36) :
    getU16 (writeGptName buf entry name) (entry + 56 + i * 2) = (name.getD i 0).toNat := by
  unfold writeGptName
  generalize min name.length 36 = n at hi
  induction n with
  | zero => exact absurd hi (Nat.not_lt_zero i)
  | succ n ih =>
      rw [List.range_succ, List.foldl_append, List.foldl_cons, List.foldl_nil]
      by_cases hlast : i = n
      · subst hlast
        refine load_store ?_
        have := (name.getD i 0).toNat_lt
        omega
      · exact (load_store_of_disjoint (by omega)).trans (ih (by omega))

end Names

/-! ## Writing -/

section Writing

variable {d d' : Disk} {writes : List (Nat × Mem)} {lba : Nat} {buf : Mem}

theorem writeSectors_cons (h : writeSectors ((lba, buf) :: writes) d = (true, d')) :
    d.available = true ∧ d.writable = true ∧ d.accessible lba = true ∧
      writeSectors writes { d with sector := Function.update d.sector lba buf } = (true, d') := by
  unfold writeSectors storageWrite at h
  by_cases hok : d.available = true ∧ d.writable = true ∧ d.accessible lba = true
  · rw [if_pos hok] at h
    exact ⟨hok.1, hok.2.1, hok.2.2, h⟩
  · rw [if_neg hok] at h
    cases h

theorem writeSectors_device (writes : List (Nat × Mem)) (d : Disk) :
    (writeSectors writes d).2.available = d.available ∧
      (writeSectors writes d).2.accessible = d.accessible := by
  induction writes generalizing d with
  | nil => exact ⟨rfl, rfl⟩
  | cons w writes ih =>
      obtain ⟨lba, buf⟩ := w
      unfold writeSectors storageWrite
      by_cases hok : d.available = true ∧ d.writable = true ∧ d.accessible lba = true
      · rw [if_pos hok]
        exact ih _
      · rw [if_neg hok]
        exact ⟨rfl, rfl⟩

theorem writeSectors_accessible (h : writeSectors writes d = (true, d')) {w : Nat × Mem}
    (hw : w ∈ writes) : d.available = true ∧ d.accessible w.1 = true := by
  induction writes generalizing d with
  | nil => exact absurd hw List.not_mem_nil
  | cons v writes ih =>
      obtain ⟨lba, buf⟩ := v
      obtain ⟨havail, -, hacc, hrest⟩ := writeSectors_cons h
      rcases List.mem_cons.mp hw with rfl | hw
      · exact ⟨havail, hacc⟩
      · have hlater := ih hrest hw
        exact hlater

theorem writeSectors_of_accessible (writes : List (Nat × Mem)) (havail : d.available = true)
    (hwritable : d.writable = true) (hacc : ∀ lba, d.accessible lba = true) :
    (writeSectors writes d).1 = true := by
  induction writes generalizing d with
  | nil => rfl
  | cons w writes ih =>
      obtain ⟨lba, buf⟩ := w
      unfold writeSectors storageWrite
      rw [if_pos ⟨havail, hwritable, hacc lba⟩]
      exact ih havail hwritable hacc

theorem diskBytes_of_sectors {n k : Nat} (h : ∀ i < n, d.sector (lba + i) = memFrom buf (i * sectorSize))
    (hk : k < n * sectorSize) : diskBytes d lba k = buf k := by
  unfold sectorSize at hk
  unfold diskBytes sectorSize
  rw [h (k / 512) (by omega)]
  refine congrArg buf ?_
  unfold sectorSize
  omega

theorem sector_writeSectors_of_not_mem (h : writeSectors writes d = (true, d'))
    (hno : ∀ w ∈ writes, w.1 ≠ lba) : d'.sector lba = d.sector lba := by
  induction writes generalizing d with
  | nil =>
      obtain rfl : d = d' := congrArg Prod.snd h
      rfl
  | cons v writes ih =>
      obtain ⟨first, buf⟩ := v
      obtain ⟨-, -, -, hrest⟩ := writeSectors_cons h
      rw [ih hrest fun w hw => hno w (List.mem_cons_of_mem _ hw)]
      exact Function.update_of_ne (hno (first, buf) List.mem_cons_self).symm _ _

theorem sector_writeSectors (h : writeSectors writes d = (true, d')) (hmem : (lba, buf) ∈ writes)
    (honly : ∀ w ∈ writes, w.1 = lba → w.2 = buf) : d'.sector lba = buf := by
  induction writes generalizing d with
  | nil => exact absurd hmem List.not_mem_nil
  | cons v writes ih =>
      obtain ⟨first, fbuf⟩ := v
      obtain ⟨-, -, -, hrest⟩ := writeSectors_cons h
      by_cases hlater : ∃ w ∈ writes, w.1 = lba
      · obtain ⟨w, hw, hlba⟩ := hlater
        refine ih hrest ?_ fun u hu => honly u (List.mem_cons_of_mem _ hu)
        obtain rfl : w.2 = buf := honly w (List.mem_cons_of_mem _ hw) hlba
        rw [← hlba]
        exact hw
      · rw [sector_writeSectors_of_not_mem hrest fun w hw hlba => hlater ⟨w, hw, hlba⟩]
        rcases List.mem_cons.mp hmem with hnow | hmem
        · obtain ⟨rfl, rfl⟩ := Prod.mk.inj hnow
          exact Function.update_self _ _ _
        · exact absurd ⟨_, hmem, rfl⟩ hlater

/-- What is written of a table: the entries in two places, and two headers. -/
structure TableWrites (writes : List (Nat × Mem)) (first second last n : Nat) (entries primary backup : Mem) :
    Prop where
  two : 2 ≤ first
  apart : first + n ≤ second
  before : second + n ≤ last
  mem : ∀ w, w ∈ writes ↔
    (∃ i < n, w = (first + i, memFrom entries (i * sectorSize))) ∨
    (∃ i < n, w = (second + i, memFrom entries (i * sectorSize))) ∨ w = (1, primary) ∨ w = (last, backup)

theorem TableWrites.functional {first second last n : Nat} {entries primary backup : Mem}
    (h : TableWrites writes first second last n entries primary backup) {w v : Nat × Mem} (hw : w ∈ writes)
    (hv : v ∈ writes) (hlba : w.1 = v.1) : w.2 = v.2 := by
  have htwo := h.two
  have hapart := h.apart
  have hbefore := h.before
  rcases (h.mem w).mp hw with ⟨i, hi, rfl⟩ | ⟨i, hi, rfl⟩ | rfl | rfl <;>
    rcases (h.mem v).mp hv with ⟨j, hj, rfl⟩ | ⟨j, hj, rfl⟩ | rfl | rfl <;> dsimp only at hlba ⊢
  all_goals first
    | omega
    | (obtain rfl : i = j := by omega)
      rfl

theorem TableWrites.sector {first second last n : Nat} {entries primary backup : Mem}
    (hwrites : TableWrites writes first second last n entries primary backup)
    (h : writeSectors writes d = (true, d')) (hmem : (lba, buf) ∈ writes) : d'.sector lba = buf :=
  sector_writeSectors h hmem fun _ hw hlba => hwrites.functional hw hmem hlba

end Writing

/-! ## The format -/

/-- What the checksum of a header is of: the field itself counts as zero. -/
def gptHeaderBytes (hdr : Mem) : List UInt8 := memBytes (putU32 hdr 16 0) 0 (getU32 hdr 12)

/-- The checksum that is stored over zeroes is one of the header it is stored in. -/
theorem isCrc32_header {hdr : Mem} {n : Nat} (hsize : getU32 hdr 12 = n)
    (hzero : ∀ i, 16 ≤ i → i < 20 → hdr i = 0) :
    IsCrc32 (gptHeaderBytes (putU32 hdr 16 (crc32Update 0 (memBytes hdr 0 n)).toNat))
      (getU32 (putU32 hdr 16 (crc32Update 0 (memBytes hdr 0 n)).toNat) 16) := by
  have hcrc := (crc32Update 0 (memBytes hdr 0 n)).toNat_lt
  have hfield : getU32 (putU32 hdr 16 (crc32Update 0 (memBytes hdr 0 n)).toNat) 12 = n :=
    (load_store_of_disjoint (by omega)).trans hsize
  rw [isCrc32_iff _ (getU32_lt _ _), getU32_putU32_self hcrc]
  unfold gptHeaderBytes
  rw [hfield]
  refine congrArg (fun bytes => (crc32Update 0 bytes).toNat) (memBytes_congr fun i hi => ?_)
  by_cases hin : 16 ≤ 0 + i ∧ 0 + i < 20
  · rw [hzero _ hin.1 hin.2, putU32_zero hin.1 hin.2]
  · unfold putU32
    rw [store_of_outside (by omega), store_of_outside (by omega)]

/-- The number of bytes and of sectors of the entries. -/
def gptTableSize (hdr : Mem) : Nat := getU32 hdr 80 * getU32 hdr 84

def gptTableSectors (hdr : Mem) : Nat := (gptTableSize hdr + sectorSize - 1) / sectorSize

/-- The entries a header points at. -/
def gptTable (d : Disk) (hdr : Mem) : Mem := diskBytes d (getU64 hdr 72)

/-- The place of the backup header. -/
def gptBackupLba (d : Disk) : Nat := getU64 (d.sector 1) 32

/-- A header and its entries, with their checksums. -/
structure GptHeader (d : Disk) (lba : Nat) : Prop where
  signature : memcmpEq (d.sector lba) 0 efiPart = true
  headerSize : 92 ≤ getU32 (d.sector lba) 12 ∧ getU32 (d.sector lba) 12 ≤ sectorSize
  headerCrc : IsCrc32 (gptHeaderBytes (d.sector lba)) (getU32 (d.sector lba) 16)
  myLba : getU64 (d.sector lba) 24 = lba
  entriesCrc : IsCrc32 (memBytes (gptTable d (d.sector lba)) 0 (gptTableSize (d.sector lba)))
    (getU32 (d.sector lba) 88)

/-- The backup header repeats the primary one. -/
structure GptAgrees (primary backup : Mem) : Prop where
  count : getU32 backup 80 = getU32 primary 80
  size : getU32 backup 84 = getU32 primary 84
  firstUsable : getU64 backup 40 = getU64 primary 40
  lastUsable : getU64 backup 48 = getU64 primary 48
  pointsBack : getU64 backup 32 = 1

/-- The primary entries lie before the usable sectors, the backup ones and the backup
header after them. -/
structure GptPlaced (primary backup : Mem) : Prop where
  entries : 2 ≤ getU64 primary 72
  before : getU64 primary 72 + gptTableSectors primary ≤ getU64 primary 40
  usable : getU64 primary 40 ≤ getU64 primary 48
  after : getU64 primary 48 < getU64 backup 72
  header : getU64 backup 72 + gptTableSectors primary ≤ getU64 primary 32

/-- A partition table with its backup. -/
structure ValidGpt (d : Disk) : Prop where
  primary : GptHeader d 1
  backup : GptHeader d (gptBackupLba d)
  agrees : GptAgrees (d.sector 1) (d.sector (gptBackupLba d))
  placed : GptPlaced (d.sector 1) (d.sector (gptBackupLba d))
  entries : ∀ k, k < gptTableSize (d.sector 1) →
    gptTable d (d.sector (gptBackupLba d)) k = gptTable d (d.sector 1) k

/-- The first and the last sector of a partition. -/
def gptFirst (d : Disk) (i : Nat) : Nat :=
  getU64 (gptTable d (d.sector 1)) (i * installGptEntrySize + 32)

def gptLast (d : Disk) (i : Nat) : Nat :=
  getU64 (gptTable d (d.sector 1)) (i * installGptEntrySize + 40)

/-- The sectors of the partition table itself. -/
def GptSector (d : Disk) (lba : Nat) : Prop :=
  lba ≤ 1 ∨ lba = gptBackupLba d ∨
    (getU64 (d.sector 1) 72 ≤ lba ∧
      lba < getU64 (d.sector 1) 72 + gptTableSectors (d.sector 1)) ∨
    (getU64 (d.sector (gptBackupLba d)) 72 ≤ lba ∧
      lba < getU64 (d.sector (gptBackupLba d)) 72 + gptTableSectors (d.sector 1))

theorem ValidGpt.not_gptSector {d : Disk} (h : ValidGpt d) {lba : Nat}
    (hfirst : getU64 (d.sector 1) 40 ≤ lba) (hlast : lba ≤ getU64 (d.sector 1) 48) :
    ¬ GptSector d lba := by
  have hentries := h.placed.entries
  have hbefore := h.placed.before
  have hafter := h.placed.after
  have hheader := h.placed.header
  unfold gptBackupLba at hafter hheader
  unfold GptSector gptBackupLba
  omega

end Orizon
