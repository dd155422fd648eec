import Orizon.Vfs.Snapshot

/-!
# Orizon.Vfs.Slots

What the slots of a disk hold.

The bytes of a slot are a memory, `slotImage`.  Reading a slot gives a
snapshot exactly when its image validates and its sectors can be read
(`persistReadSlotSnapshot_ok_iff`), so what a scan finds depends on the disk
alone: the newer of what the slots hold.  Writing sectors changes their part
of the image and nothing else.
-/

namespace Orizon

/-- The bytes of a disk from sector `lba` on. -/
def slotImage (d : Disk) (lba : Nat) : Mem :=
  fun i => d.sector (lba + i / sectorSize) (i % sectorSize)

/-- The first `n` sectors from `lba` can be read. -/
def Readable (d : Disk) (lba n : Nat) : Prop :=
  ∀ k, k < n → d.available = true ∧ d.accessible (lba + k) = true

/-- The slot at `lba` holds a valid snapshot. -/
def SlotHolds (d : Disk) (lba slot : Nat) (info : SnapshotMeta) : Prop :=
  persistSnapshotValidate (slotImage d lba) slot = some info ∧
    Readable d lba (persistSnapshotSectorCount info.payloadSize)

variable {d d' : Disk} {lba slot : Nat} {info : SnapshotMeta}

/-! ## Sectors -/

theorem slotImage_next (d : Disk) (lba i : Nat) :
    slotImage d (lba + 1) i = slotImage d lba (sectorSize + i) := by
  unfold slotImage
  rw [Nat.add_mod_left, Nat.add_div_left _ (by decide), Nat.add_assoc, Nat.add_comm 1]

theorem slotImage_first {i : Nat} (h : i < sectorSize) : slotImage d lba i = d.sector lba i := by
  unfold slotImage
  rw [Nat.div_eq_of_lt h, Nat.mod_eq_of_lt h, Nat.add_zero]

theorem storageRead_cases (d : Disk) (lba : Nat) :
    (d.available = true ∧ d.accessible lba = true) ∧ storageRead d lba = some (d.sector lba) ∨
      ¬ (d.available = true ∧ d.accessible lba = true) ∧ storageRead d lba = none := by
  unfold storageRead
  by_cases h : d.available = true ∧ d.accessible lba = true
  · exact Or.inl ⟨h, if_pos h⟩
  · exact Or.inr ⟨h, if_neg h⟩

/-- A read of sectors copies their bytes, or meets one it cannot read. -/
theorem persistStorageRead_cases (n : Nat) : ∀ (lba off : Nat) (buf : Mem),
    (Readable d lba n ∧ ∃ buf', persistStorageRead d lba buf off n = (true, buf') ∧
      (∀ i, i < off → buf' i = buf i) ∧
      ∀ i, i < n * sectorSize → buf' (off + i) = slotImage d lba i) ∨
    (¬ Readable d lba n ∧ ∃ buf', persistStorageRead d lba buf off n = (false, buf')) := by
  induction n with
  | zero =>
      intro lba off buf
      refine Or.inl ⟨fun k hk => absurd hk (Nat.not_lt_zero k), buf, rfl, fun _ _ => rfl,
        fun i hi => ?_⟩
      rw [Nat.zero_mul] at hi
      exact absurd hi (Nat.not_lt_zero i)
  | succ n ih =>
      intro lba off buf
      unfold persistStorageRead
      rcases storageRead_cases d lba with ⟨hread, hsec⟩ | ⟨hfail, hsec⟩ <;> rw [hsec] <;> dsimp only
      · have hiff : Readable d lba (n + 1) ↔ Readable d (lba + 1) n := by
          constructor
          · intro hall k hk
            have := hall (k + 1) (by omega)
            rwa [← Nat.add_assoc, Nat.add_right_comm] at this
          · intro hall k hk
            cases k with
            | zero => exact hread
            | succ k =>
                have := hall k (by omega)
                rwa [Nat.add_right_comm, Nat.add_assoc] at this
        rw [hiff]
        rcases ih (lba + 1) (off + sectorSize) (bufCopy buf off (d.sector lba) sectorSize) with
          ⟨hall, buf', hbuf, hbefore, hafter⟩ | ⟨hall, buf', hbuf⟩
        · refine Or.inl ⟨hall, buf', hbuf, fun i hi => ?_, fun i hi => ?_⟩
          · rw [hbefore i (by omega)]
            exact if_neg (by omega)
          · by_cases hfirst : i < sectorSize
            · rw [hbefore (off + i) (by omega), slotImage_first hfirst]
              unfold bufCopy
              rw [if_pos (by omega), Nat.add_sub_cancel_left]
            · obtain ⟨j, rfl⟩ := Nat.exists_eq_add_of_le (Nat.le_of_not_lt hfirst)
              rw [Nat.succ_mul] at hi
              rw [← Nat.add_assoc, hafter j (by omega), slotImage_next]
        · exact Or.inr ⟨hall, buf', hbuf⟩
      · refine Or.inr ⟨fun hall => hfail ?_, buf, rfl⟩
        exact hall 0 (Nat.succ_pos n)

theorem slotImage_congr {n i : Nat} (h : ∀ k, k < n → d'.sector (lba + k) = d.sector (lba + k))
    (hi : i < n * sectorSize) : slotImage d' lba i = slotImage d lba i := by
  unfold slotImage
  rw [h (i / sectorSize) (Nat.div_lt_of_lt_mul (by rwa [Nat.mul_comm]))]

/-! ## Validation -/

theorem getU32_congr {buf buf' : Mem} {off : Nat} (h : ∀ i, off ≤ i → i < off + 4 → buf i = buf' i) :
    getU32 buf off = getU32 buf' off := load_congr h

theorem memcmpEq_congr {buf buf' : Mem} {off : Nat} {bytes : List UInt8}
    (h : ∀ i, off ≤ i → i < off + bytes.length → buf i = buf' i) :
    memcmpEq buf off bytes = memcmpEq buf' off bytes := by
  unfold memcmpEq
  congr 2
  refine List.map_congr_left fun i hi => ?_
  have hlt := List.mem_range.mp hi
  exact h (off + i) (by omega) (by omega)

theorem persistChecksum_congr {buf buf' : Mem} {off n : Nat}
    (h : ∀ i, off ≤ i → i < off + n → buf i = buf' i) :
    persistChecksum buf off n = persistChecksum buf' off n := by
  unfold persistChecksum
  refine List.foldl_ext _ _ _ fun sum i hi => ?_
  have hlt := List.mem_range.mp hi
  rw [h (off + i) (by omega) (by omega)]

/-- The checks on a header that come before the payload is read. -/
def HeaderOk (buf : Mem) : Prop :=
  memcmpEq buf 0 persistMagic = true ∧
    (getU32 buf 8 = persistVersion ∨ getU32 buf 8 = persistLegacyVersion) ∧
    getU32 buf 12 ≤ maxFiles ∧ getU32 buf 16 ≤ persistBytes - persistHeaderSize

/-- The snapshot a header describes. -/
def headerMeta (buf : Mem) (slot : Nat) : SnapshotMeta where
  version := getU32 buf 8
  entryCount := getU32 buf 12
  payloadSize := getU32 buf 16
  checksum := getU32 buf 20
  sequence := if getU32 buf 8 ≥ persistVersion then getU32 buf persistSequenceOffset else 0
  slot

/-- A snapshot is valid when its header is and its payload has the checksum. -/
theorem persistSnapshotValidate_eq_some {buf : Mem} :
    persistSnapshotValidate buf slot = some info ↔ HeaderOk buf ∧
      getU32 buf 20 = persistChecksum buf persistHeaderSize (getU32 buf 16) ∧
      headerMeta buf slot = info := by
  unfold persistSnapshotValidate HeaderOk
  dsimp only
  by_cases hmagic : memcmpEq buf 0 persistMagic = true
  · by_cases hversion : getU32 buf 8 = persistVersion ∨ getU32 buf 8 = persistLegacyVersion
    · by_cases hsize : getU32 buf 12 ≤ maxFiles ∧ getU32 buf 16 ≤ persistBytes - persistHeaderSize
      · by_cases hsum : getU32 buf 20 = persistChecksum buf persistHeaderSize (getU32 buf 16)
        · rw [if_pos hmagic, if_neg (by omega), if_neg (by omega), if_neg (by omega)]
          simp only [hmagic, hversion, hsize, hsum, true_and, Option.some.injEq]
          rw [← hsum]
          rfl
        · rw [if_pos hmagic, if_neg (by omega), if_neg (by omega), if_pos (by omega)]
          simp [hsum]
      · rw [if_pos hmagic, if_neg (by omega), if_pos (by omega)]
        simp only [reduceCtorEq, false_iff, not_and]
        intro hall
        exact absurd hall.2.2 hsize
    · rw [if_pos hmagic, if_pos (by omega)]
      simp [hversion]
  · rw [if_neg hmagic]
    simp [hmagic]

section Congr

variable {buf buf' : Mem} (h : ∀ i, i < sectorSize → buf i = buf' i)

include h

theorem headerMeta_congr (slot : Nat) : headerMeta buf slot = headerMeta buf' slot := by
  have hword : ∀ off, off + 4 ≤ sectorSize → getU32 buf off = getU32 buf' off := fun off hoff =>
    getU32_congr fun i _ hi => h i (by omega)
  unfold headerMeta
  rw [hword 8 (by decide), hword 12 (by decide), hword 16 (by decide), hword 20 (by decide),
    hword persistSequenceOffset (by decide)]

theorem headerOk_congr : HeaderOk buf ↔ HeaderOk buf' := by
  have hword : ∀ off, off + 4 ≤ sectorSize → getU32 buf off = getU32 buf' off := fun off hoff =>
    getU32_congr fun i _ hi => h i (by omega)
  have hmagic : memcmpEq buf 0 persistMagic = memcmpEq buf' 0 persistMagic :=
    memcmpEq_congr fun i _ hi => h i (lt_of_lt_of_le hi (by decide))
  unfold HeaderOk
  rw [hword 8 (by decide), hword 12 (by decide), hword 16 (by decide), hmagic]

theorem persistSnapshotValidate_congr (hpayload : getU32 buf 16 ≤ persistBytes - persistHeaderSize →
      ∀ i, i < persistHeaderSize + getU32 buf 16 → buf i = buf' i) :
    persistSnapshotValidate buf slot = some info ↔
      persistSnapshotValidate buf' slot = some info := by
  have hword : ∀ off, off + 4 ≤ sectorSize → getU32 buf off = getU32 buf' off := fun off hoff =>
    getU32_congr fun i _ hi => h i (by omega)
  rw [persistSnapshotValidate_eq_some, persistSnapshotValidate_eq_some, ← headerOk_congr h,
    ← headerMeta_congr h slot, ← hword 16 (by decide), ← hword 20 (by decide)]
  refine and_congr_right fun hok => ?_
  rw [persistChecksum_congr fun i _ hi => hpayload hok.2.2.2 i hi]

end Congr

/-! ## Reading a slot -/

theorem sectorCount_covers {n : Nat} (h : n ≤ persistBytes - persistHeaderSize) :
    persistHeaderSize + n ≤ persistSnapshotSectorCount n * sectorSize ∧
      persistSnapshotSectorCount n = 1 + (n + sectorSize - 1) / sectorSize ∧
      persistSnapshotSectorCount n ≤ persistSectors := by
  unfold persistSnapshotSectorCount persistSectors persistHeaderSize sectorSize persistBytes at *
  dsimp only
  split <;> split <;> omega

theorem persistSnapshotSectorCount_pos (n : Nat) : 1 ≤ persistSnapshotSectorCount n := by
  unfold persistSnapshotSectorCount persistSectors persistHeaderSize sectorSize persistBytes
  dsimp only
  split <;> split <;> omega

/-- What reading a slot finds is what the slot holds; of the statics it changes
the buffer only, which then holds the snapshot. -/
theorem persistReadSlotSnapshot_spec (d : Disk) (p : Persist) (slot : Nat) :
    ∃ buf, (persistReadSlotSnapshot d p slot).2 = { p with buf } ∧
      (∀ info, (persistReadSlotSnapshot d p slot).1 = .ok info ↔
        slot < p.slotsAvailable ∧ SlotHolds d (persistSlotLba p slot) slot info) ∧
      ∀ info, (persistReadSlotSnapshot d p slot).1 = .ok info →
        ∀ i, i < persistHeaderSize + info.payloadSize →
          buf i = slotImage d (persistSlotLba p slot) i := by
  unfold persistReadSlotSnapshot
  generalize persistSlotLba p slot = lba
  by_cases hslot : slot ≥ p.slotsAvailable
  · rw [if_pos hslot]
    exact ⟨p.buf, rfl, fun info => iff_of_false nofun (fun h => absurd h.1 (by omega)), nofun⟩
  rw [if_neg hslot]
  dsimp only
  rcases persistStorageRead_cases (d := d) 1 lba 0 p.buf with
    ⟨hfirst, buf, hread, -, himage⟩ | ⟨hfail, buf, hread⟩ <;> rw [hread] <;> dsimp only
  swap
  · refine ⟨buf, rfl, fun info => iff_of_false nofun fun h => hfail fun k hk => ?_, nofun⟩
    exact h.2.2 k (lt_of_lt_of_le hk (persistSnapshotSectorCount_pos _))
  have hagree : ∀ i, i < sectorSize → buf i = slotImage d lba i := by
    intro i hi
    have hbyte := himage i (by omega)
    rwa [Nat.zero_add] at hbyte
  have hokiff := headerOk_congr hagree
  by_cases hok : HeaderOk buf
  swap
  · -- the header is refused
    have hresult : ∀ x : SlotStatus × Persist,
        (if ¬ memcmpEq buf 0 persistMagic = true then (SlotStatus.invalid, { p with buf })
        else if (getU32 buf 8 ≠ persistVersion ∧ getU32 buf 8 ≠ persistLegacyVersion) ∨
            getU32 buf 12 > maxFiles ∨ getU32 buf 16 > persistBytes - persistHeaderSize then
          (SlotStatus.invalid, { p with buf })
        else x) = (SlotStatus.invalid, { p with buf }) := by
      intro x
      unfold HeaderOk at hok
      by_cases hmagic : memcmpEq buf 0 persistMagic = true
      · rw [if_neg (not_not.mpr hmagic), if_pos]
        by_contra hall
        exact hok ⟨hmagic, by omega, by omega, by omega⟩
      · rw [if_pos hmagic]
    rw [hresult]
    exact ⟨buf, rfl, fun info => iff_of_false nofun fun h =>
      hok (hokiff.mpr (persistSnapshotValidate_eq_some.mp h.2.1).1), nofun⟩
  obtain ⟨hmagic, hversion, hcount, hsize⟩ := hok
  rw [if_neg (not_not.mpr hmagic), if_neg (by omega)]
  obtain ⟨hcovers, -, -⟩ := sectorCount_covers hsize
  have hpayload : getU32 buf 16 = getU32 (slotImage d lba) 16 :=
    getU32_congr fun i _ hi => hagree i (lt_of_lt_of_le hi (by decide))
  rcases persistStorageRead_cases (d := d) (persistSnapshotSectorCount (getU32 buf 16) - 1) (lba + 1)
      sectorSize buf with ⟨hrest, buf', hread', hbefore, himage'⟩ | ⟨hfail, buf', hread'⟩ <;>
    rw [hread'] <;> dsimp only
  · have hall : ∀ i, i < persistHeaderSize + getU32 buf 16 → buf' i = slotImage d lba i := by
      intro i hi
      by_cases hlt : i < sectorSize
      · rw [hbefore i hlt, hagree i hlt]
      · obtain ⟨j, rfl⟩ := Nat.exists_eq_add_of_le (Nat.le_of_not_lt hlt)
        rw [himage' j (by rw [Nat.sub_mul]; omega), slotImage_next]
    have hreadable : Readable d lba (persistSnapshotSectorCount (getU32 buf 16)) := by
      intro k hk
      cases k with
      | zero => exact hfirst 0 Nat.one_pos
      | succ k =>
          have hnext := hrest k (by omega)
          rwa [Nat.add_right_comm, Nat.add_assoc] at hnext
    have hsame : getU32 buf' 16 = getU32 buf 16 :=
      getU32_congr fun i _ hi => hbefore i (lt_of_lt_of_le hi (by decide))
    have hvalid : ∀ info, persistSnapshotValidate buf' slot = some info ↔
        persistSnapshotValidate (slotImage d lba) slot = some info := fun info =>
      persistSnapshotValidate_congr (fun i hi => hall i (by
        unfold persistHeaderSize
        omega)) fun _ i hi => hall i (by rwa [hsame] at hi)
    cases hv : persistSnapshotValidate buf' slot with
    | none =>
        refine ⟨buf', rfl, fun info => iff_of_false nofun fun h => ?_, nofun⟩
        rw [(hvalid info).mpr h.2.1] at hv
        cases hv
    | some info =>
        have hinfo : info.payloadSize = getU32 buf 16 := by
          rw [← (persistSnapshotValidate_eq_some.mp hv).2.2]
          exact hsame
        refine ⟨buf', rfl, fun info' => ?_, fun info' h i hi => ?_⟩
        · simp only [SlotStatus.ok.injEq]
          constructor
          · rintro rfl
            exact ⟨by omega, (hvalid info).mp hv, by rw [hinfo]; exact hreadable⟩
          · rintro ⟨-, hholds, -⟩
            rw [(hvalid info').mpr hholds] at hv
            exact (Option.some.inj hv).symm
        · obtain rfl : info = info' := by simpa using h
          rw [hinfo] at hi
          exact hall i hi
  · refine ⟨buf', rfl, fun info => iff_of_false nofun fun h => hfail fun k hk => ?_, nofun⟩
    have hinfo : info.payloadSize = getU32 buf 16 := by
      rw [← (persistSnapshotValidate_eq_some.mp h.2.1).2.2]
      exact hpayload.symm
    have hnext := h.2.2 (k + 1) (by rw [hinfo]; omega)
    rwa [← Nat.add_assoc, Nat.add_right_comm] at hnext

/-! ## Scanning the slots -/

/-- The snapshot in a slot, if there is a valid one. -/
def slotSnapshot (d : Disk) (p : Persist) (slot : Nat) : Option SnapshotMeta :=
  match (persistReadSlotSnapshot d p slot).1 with
  | .ok info => some info
  | _ => none

/-- The newest snapshot on the disk, as the loops over the slots select it. -/
def newestSnapshot (d : Disk) (p : Persist) : Option SnapshotMeta := (persistScanSlots d p).1

/-- The newer of two candidates; the second stays when neither is. -/
def newer (candidate best : Option SnapshotMeta) : Option SnapshotMeta :=
  if persistSnapshotIsNewer candidate best then candidate else best

variable {p p' : Persist}

theorem slotSnapshot_eq_some : slotSnapshot d p slot = some info ↔
    slot < p.slotsAvailable ∧ SlotHolds d (persistSlotLba p slot) slot info := by
  obtain ⟨-, -, hiff, -⟩ := persistReadSlotSnapshot_spec d p slot
  rw [← hiff info]
  unfold slotSnapshot
  cases (persistReadSlotSnapshot d p slot).1 <;> simp

/-- The snapshot in a slot depends on where the slots are, not on the buffer. -/
theorem slotSnapshot_congr (hlba : p'.lba = p.lba) (hslots : p'.slotsAvailable = p.slotsAvailable) :
    slotSnapshot d p' slot = slotSnapshot d p slot := by
  refine Option.ext fun info => ?_
  rw [slotSnapshot_eq_some, slotSnapshot_eq_some, hslots]
  unfold persistSlotLba
  rw [hlba]

theorem slotSnapshot_slot (h : slotSnapshot d p slot = some info) : info.slot = slot := by
  obtain ⟨-, hvalid, -⟩ := slotSnapshot_eq_some.mp h
  rw [← (persistSnapshotValidate_eq_some.mp hvalid).2.2]
  rfl

theorem slotSnapshot_of_same (havail : d'.available = d.available)
    (haccess : d'.accessible = d.accessible)
    (hsame : ∀ k, k < persistSectors →
      d'.sector (persistSlotLba p slot + k) = d.sector (persistSlotLba p slot + k)) :
    slotSnapshot d' p slot = slotSnapshot d p slot := by
  have himage : ∀ i, i < persistBytes →
      slotImage d' (persistSlotLba p slot) i = slotImage d (persistSlotLba p slot) i :=
    fun i hi => slotImage_congr hsame (lt_of_lt_of_eq hi (by decide))
  have hread : ∀ n, Readable d' (persistSlotLba p slot) n ↔ Readable d (persistSlotLba p slot) n := by
    intro n
    unfold Readable
    rw [havail, haccess]
  refine Option.ext fun info => ?_
  rw [slotSnapshot_eq_some, slotSnapshot_eq_some]
  unfold SlotHolds
  rw [hread, persistSnapshotValidate_congr (fun i hi => himage i (lt_trans hi (by decide)))]
  intro hsize i hi
  refine himage i (lt_of_lt_of_le hi ?_)
  unfold persistHeaderSize persistBytes sectorSize at *
  omega

theorem persistSnapshotIsNewer_some (c b : SnapshotMeta) :
    persistSnapshotIsNewer (some c) (some b) = true ↔ c.version > b.version ∨
      (c.version = b.version ∧ (c.sequence > b.sequence ∨
        (c.sequence = b.sequence ∧ c.slot < b.slot))) := by
  unfold persistSnapshotIsNewer
  dsimp only
  split
  · rw [decide_eq_true_eq]
    omega
  · split
    · rw [decide_eq_true_eq]
      omega
    · rw [decide_eq_true_eq]
      omega

theorem newer_none_right (c : Option SnapshotMeta) : newer c none = c := by
  cases c <;> rfl

theorem persistScanSlot_spec (d : Disk) (best : Option SnapshotMeta) (err : Bool) (p : Persist)
    (slot : Nat) : ∃ err' buf, persistScanSlot d (best, err, p) slot =
      (newer (slotSnapshot d p slot) best, err', { p with buf }) := by
  obtain ⟨buf, hp, -⟩ := persistReadSlotSnapshot_spec d p slot
  unfold persistScanSlot slotSnapshot newer
  dsimp only
  cases hread : persistReadSlotSnapshot d p slot with
  | mk status p' =>
      rw [hread] at hp
      obtain rfl := hp
      cases status with
      | ok info => exact ⟨err, buf, rfl⟩
      | ioError => exact ⟨true, buf, rfl⟩
      | invalid => exact ⟨err, buf, rfl⟩

theorem persistScanSlots_statics (d : Disk) (p : Persist) :
    ∃ buf, (persistScanSlots d p).2.2 = { p with buf } := by
  unfold persistScanSlots
  generalize List.range (persistSlotsToScan p) = slots
  have hfold : ∀ (slots : List Nat) best err (q : Persist),
      ∃ buf, (slots.foldl (persistScanSlot d) (best, err, q)).2.2 = { q with buf } := by
    intro slots
    induction slots with
    | nil => exact fun _ _ q => ⟨q.buf, rfl⟩
    | cons slot slots ih =>
        intro best err q
        obtain ⟨err', buf, hstep⟩ := persistScanSlot_spec d best err q slot
        rw [List.foldl_cons, hstep]
        obtain ⟨buf', hrest⟩ := ih (newer (slotSnapshot d q slot) best) err' { q with buf }
        exact ⟨buf', hrest⟩
  exact hfold slots none false p

theorem newestSnapshot_one (h : p.slotsAvailable = 1) :
    newestSnapshot d p = slotSnapshot d p 0 := by
  obtain ⟨err, buf, hstep⟩ := persistScanSlot_spec d none false p 0
  have hslots : persistSlotsToScan p = 1 := by
    unfold persistSlotsToScan persistSlotCount
    rw [h]
    rfl
  unfold newestSnapshot persistScanSlots
  rw [hslots]
  show (persistScanSlot d (none, false, p) 0).1 = _
  rw [hstep, newer_none_right]

theorem newestSnapshot_two (h : p.slotsAvailable = 2) :
    newestSnapshot d p = newer (slotSnapshot d p 1) (slotSnapshot d p 0) := by
  obtain ⟨err, buf, hfirst⟩ := persistScanSlot_spec d none false p 0
  obtain ⟨err', buf', hsecond⟩ :=
    persistScanSlot_spec d (newer (slotSnapshot d p 0) none) err { p with buf } 1
  have hslots : persistSlotsToScan p = 2 := by
    unfold persistSlotsToScan persistSlotCount
    rw [h]
    rfl
  unfold newestSnapshot persistScanSlots
  rw [hslots]
  show (persistScanSlot d (persistScanSlot d (none, false, p) 0) 1).1 = _
  rw [hfirst, hsecond, newer_none_right]
  exact congrArg (fun c => newer c _) (slotSnapshot_congr rfl rfl)

/-- The newest snapshot depends on where the slots are, not on the buffer. -/
theorem newestSnapshot_congr (hlba : p'.lba = p.lba) (hslots : p'.slotsAvailable = p.slotsAvailable)
    (h : p.slotsAvailable = 1 ∨ p.slotsAvailable = 2) :
    newestSnapshot d p' = newestSnapshot d p := by
  rcases h with h | h
  · rw [newestSnapshot_one h, newestSnapshot_one (hslots.trans h), slotSnapshot_congr hlba hslots]
  · rw [newestSnapshot_two h, newestSnapshot_two (hslots.trans h), slotSnapshot_congr hlba hslots,
      slotSnapshot_congr hlba hslots]

theorem slotSnapshot_of_newest (h : p.slotsAvailable = 1 ∨ p.slotsAvailable = 2)
    (hnewest : newestSnapshot d p = some info) : slotSnapshot d p info.slot = some info := by
  rcases h with h | h
  · rw [newestSnapshot_one h] at hnewest
    rwa [slotSnapshot_slot hnewest]
  · rw [newestSnapshot_two h] at hnewest
    unfold newer at hnewest
    split at hnewest <;> rwa [slotSnapshot_slot hnewest]

theorem slotSnapshot_of_newest_none (h : p.slotsAvailable = 1 ∨ p.slotsAvailable = 2)
    (hnewest : newestSnapshot d p = none) (slot : Nat) : slotSnapshot d p slot = none := by
  have hall : ∀ k, k < p.slotsAvailable → slotSnapshot d p k = none := by
    intro k hk
    rcases h with h | h
    · obtain rfl : k = 0 := by omega
      rwa [newestSnapshot_one h] at hnewest
    · rw [newestSnapshot_two h] at hnewest
      have hsecond : slotSnapshot d p 1 = none ∧ slotSnapshot d p 0 = none := by
        unfold newer at hnewest
        cases hcand : slotSnapshot d p 1 with
        | none =>
            rw [hcand] at hnewest
            exact ⟨rfl, hnewest⟩
        | some c =>
            rw [hcand] at hnewest
            split at hnewest
            · cases hnewest
            · next hnot =>
                rw [hnewest] at hnot
                exact absurd rfl hnot
      obtain rfl | rfl : k = 0 ∨ k = 1 := by omega
      · exact hsecond.2
      · exact hsecond.1
  rcases Nat.lt_or_ge slot p.slotsAvailable with hlt | hge
  · exact hall slot hlt
  · cases hsnap : slotSnapshot d p slot with
    | none => rfl
    | some info => exact absurd (slotSnapshot_eq_some.mp hsnap).1 (by omega)

/-- A valid snapshot has one of the two versions, and a 32-bit sequence number. -/
theorem slotSnapshot_bounds (h : slotSnapshot d p slot = some info) :
    (info.version = persistVersion ∨ info.version = persistLegacyVersion) ∧
      info.sequence < 2 ^ 32 := by
  obtain ⟨-, hvalid, -⟩ := slotSnapshot_eq_some.mp h
  obtain ⟨hok, -, rfl⟩ := persistSnapshotValidate_eq_some.mp hvalid
  refine ⟨hok.2.1, ?_⟩
  unfold headerMeta
  dsimp only
  split
  · exact lt_of_lt_of_eq (load_lt _ _ _) (by decide)
  · exact Nat.two_pow_pos 32

/-! ## Writing sectors -/

/-- The disk with `n` sectors from `lba` on replaced by the bytes of a buffer. -/
def writtenDisk (d : Disk) (lba : Nat) (buf : Mem) (off n : Nat) : Disk :=
  { d with sector := fun s => if lba ≤ s ∧ s < lba + n then
      fun j => buf (off + (s - lba) * sectorSize + j) else d.sector s }

theorem persistStorageWrite_cases (n : Nat) : ∀ (d : Disk) (lba off : Nat) (buf : Mem),
    (Readable d lba n ∧ persistStorageWrite d lba buf off n = (true, writtenDisk d lba buf off n)) ∨
      ∃ m, m < n ∧ persistStorageWrite d lba buf off n = (false, writtenDisk d lba buf off m) := by
  have hnone : ∀ (d : Disk) lba off buf, writtenDisk d lba buf off 0 = d := by
    intro d lba off buf
    unfold writtenDisk
    have hsame : (fun s => if lba ≤ s ∧ s < lba + 0 then
        fun j => buf (off + (s - lba) * sectorSize + j) else d.sector s) = d.sector := by
      funext s
      rw [if_neg (by omega)]
    rw [hsame]
  induction n with
  | zero =>
      intro d lba off buf
      refine Or.inl ⟨fun k hk => absurd hk (Nat.not_lt_zero k), ?_⟩
      rw [hnone]
      rfl
  | succ n ih =>
      intro d lba off buf
      unfold persistStorageWrite storageWrite
      by_cases hw : d.available = true ∧ d.writable = true ∧ d.accessible lba = true
      · rw [if_pos hw]
        dsimp only
        have hone : ∀ m, writtenDisk { d with
            sector := Function.update d.sector lba fun i => buf (off + i) } (lba + 1) buf
            (off + sectorSize) m = writtenDisk d lba buf off (m + 1) := by
          intro m
          unfold writtenDisk
          congr 1
          funext s
          by_cases hs : s = lba
          · subst hs
            rw [if_neg (by omega), if_pos (by omega), Nat.sub_self, Nat.zero_mul, Nat.add_zero]
            exact Function.update_self ..
          · by_cases hin : lba + 1 ≤ s ∧ s < lba + 1 + m
            · rw [if_pos hin, if_pos (by omega)]
              have hoff : off + sectorSize + (s - (lba + 1)) * sectorSize =
                  off + (s - lba) * sectorSize := by
                obtain ⟨k, rfl⟩ := Nat.exists_eq_add_of_le hin.1
                rw [Nat.add_sub_cancel_left, Nat.add_assoc lba, Nat.add_sub_cancel_left,
                  Nat.add_mul]
                omega
              rw [hoff]
            · rw [if_neg hin, if_neg (by omega)]
              exact Function.update_of_ne hs ..
        rcases ih { d with sector := Function.update d.sector lba fun i => buf (off + i) } (lba + 1)
            (off + sectorSize) buf with ⟨hread, hok⟩ | ⟨m, hm, hfail⟩
        · refine Or.inl ⟨fun k hk => ?_, by rw [hok, hone]⟩
          cases k with
          | zero => exact ⟨hw.1, hw.2.2⟩
          | succ k =>
              have hnext := hread k (by omega)
              rwa [Nat.add_right_comm, Nat.add_assoc] at hnext
        · exact Or.inr ⟨m + 1, by omega, by rw [hfail, hone]⟩
      · rw [if_neg hw]
        refine Or.inr ⟨0, Nat.succ_pos n, ?_⟩
        rw [hnone]

theorem slotImage_writtenDisk {buf : Mem} {off n i : Nat} (hi : i < n * sectorSize) :
    slotImage (writtenDisk d lba buf off n) lba i = buf (off + i) := by
  have hlt : i / sectorSize < n := Nat.div_lt_of_lt_mul (by rwa [Nat.mul_comm])
  unfold slotImage writtenDisk
  dsimp only
  rw [if_pos ⟨Nat.le_add_right _ _, Nat.add_lt_add_left hlt lba⟩, Nat.add_sub_cancel_left,
    Nat.add_assoc, Nat.mul_comm, Nat.div_add_mod]

theorem sector_writtenDisk {buf : Mem} {off n s : Nat} (h : s < lba ∨ lba + n ≤ s) :
    (writtenDisk d lba buf off n).sector s = d.sector s := if_neg (by omega)

end Orizon
