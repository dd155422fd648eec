import Orizon.Vfs.Slots

/-!
# Orizon.Vfs.Save

What a save writes, and where.

A save that gets to its write works with some statics `p` and an encoder `e`
(`SaveWrites`); what it puts on the disk validates as the snapshot
`savedMeta p e` (`persistSnapshotValidate_saved`).  The partition table lies
outside the slots, so the partition is found again after it
(`DataDisk.of_outside`).
-/

namespace Orizon

variable {H : Type}

/-! ## The encoder -/

/-- The data bytes an entry carries. -/
def dataSize (node : Inode) : Nat := if node.type = .file then node.size else 0

/-- The bytes of an entry: its header, path and data. -/
def entrySize (node : Inode) : Nat := 1 + 2 + 4 + node.path.val.length + dataSize node

/-- The buffer after an entry was appended at `p`. -/
def entryBuf (buf : Mem) (p : Nat) (node : Inode) : Mem :=
  let pathLen := node.path.val.length
  let buf := store buf 1 p node.type.code.toNat
  let buf := putU16 buf (p + 1) pathLen
  let buf := putU32 buf (p + 3) (dataSize node)
  let buf := bufCopy buf (p + 7) (bytesMem (node.path.val.map Subtype.val)) pathLen
  match node.data with
  | some d => if dataSize node > 0 then bufCopy buf (p + 7 + pathLen) d.bytes (dataSize node) else buf
  | none => buf

theorem persistAppendEntry_some {e e' : Encoder} {node : Inode}
    (h : persistAppendEntry e node = some e') :
    node.path.val ≠ [] ∧ e.offset + entrySize node ≤ persistBytes ∧
      e' = ⟨entryBuf e.buf e.offset node, e.offset + entrySize node, e.entryCount + 1⟩ := by
  have heq : persistAppendEntry e node =
      if node.path.val.length = 0 ∨ node.path.val.length > 0xFFFF ∨ dataSize node > 0xFFFFFFFF then
        none
      else if e.offset + entrySize node > persistBytes then none
      else some ⟨entryBuf e.buf e.offset node, e.offset + entrySize node, e.entryCount + 1⟩ := rfl
  rw [heq] at h
  split at h
  · cases h
  · next hsizes =>
      split at h
      · cases h
      · next hfit =>
          refine ⟨fun hnil => hsizes (Or.inl ?_), by omega, (Option.some.inj h).symm⟩
          rw [hnil]
          rfl

theorem entryBuf_of_lt {buf : Mem} {p i : Nat} {node : Inode} (hi : i < p) :
    entryBuf buf p node i = buf i := by
  have hcopy : ∀ (buf src : Mem) (off n : Nat), p ≤ off → bufCopy buf off src n i = buf i :=
    fun buf src off n hoff => if_neg (by omega)
  have hheader : putU32 (putU16 (store buf 1 p node.type.code.toNat) (p + 1)
      node.path.val.length) (p + 3) (dataSize node) i = buf i := by
    unfold putU32 putU16
    rw [store_of_outside (by omega), store_of_outside (by omega), store_of_outside (by omega)]
  unfold entryBuf
  cases node.data with
  | none =>
      dsimp only
      rw [hcopy _ _ _ _ (by omega), hheader]
  | some d =>
      dsimp only
      split
      · rw [hcopy _ _ _ _ (by omega), hcopy _ _ _ _ (by omega), hheader]
      · rw [hcopy _ _ _ _ (by omega), hheader]

theorem persistAppendEntries_true {nodes : List Inode} {e e' : Encoder}
    (h : persistAppendEntries nodes e = (true, e')) (hfit : e.offset ≤ persistBytes) :
    e.offset ≤ e'.offset ∧ e'.offset ≤ persistBytes ∧
      e'.entryCount = e.entryCount + nodes.length ∧ ∀ i, i < e.offset → e'.buf i = e.buf i := by
  induction nodes generalizing e with
  | nil =>
      obtain rfl := (Prod.mk.inj h).2
      exact ⟨le_rfl, hfit, rfl, fun _ _ => rfl⟩
  | cons node nodes ih =>
      unfold persistAppendEntries at h
      cases happend : persistAppendEntry e node with
      | none =>
          rw [happend] at h
          cases (Prod.mk.inj h).1
      | some e₁ =>
          rw [happend] at h
          obtain ⟨-, hle, rfl⟩ := persistAppendEntry_some happend
          obtain ⟨hoff, hle', hcount, hkeep⟩ := ih h hle
          dsimp only at hoff hcount hkeep
          refine ⟨by omega, hle', ?_, fun i hi => ?_⟩
          · rw [hcount, List.length_cons]
            omega
          · rw [hkeep i (by omega), entryBuf_of_lt hi]

theorem length_persistedInodes_le (v : Vfs H) : (persistedInodes v).length ≤ v.inodeCount := by
  have hsplit : ∀ (nodes : List Inode) (p q : Inode → Bool), (∀ n ∈ nodes, ¬ (p n ∧ q n)) →
      (nodes.filter p ++ nodes.filter q).length ≤ nodes.length := by
    intro nodes p q hdisj
    induction nodes with
    | nil => exact le_rfl
    | cons n nodes ih =>
        have hrest := ih fun m hm => hdisj m (List.mem_cons_of_mem n hm)
        have hn := hdisj n List.mem_cons_self
        rw [List.length_append] at hrest ⊢
        rw [List.filter_cons, List.filter_cons, List.length_cons]
        by_cases hp : p n = true
        · have hq : ¬ q n = true := fun hq => hn ⟨hp, hq⟩
          rw [if_pos hp, if_neg hq, List.length_cons]
          omega
        · rw [if_neg hp]
          split
          · rw [List.length_cons]
            omega
          · omega
  have hlen := hsplit ((List.range v.inodeCount).map v.inodes)
    (fun n => n.type = .dir && pathShouldPersist n.path.val && !pathIsPersistentRoot n.path.val)
    (fun n => n.type = .file && pathShouldPersist n.path.val) (by
      intro n _ hboth
      simp only [Bool.and_eq_true, decide_eq_true_eq] at hboth
      rw [hboth.1.1.1] at hboth
      exact absurd hboth.2.1 (by decide))
  rw [List.length_map, List.length_range] at hlen
  exact hlen

theorem persistChecksum_lt (buf : Mem) (off n : Nat) : persistChecksum buf off n < 2 ^ 32 := by
  unfold persistChecksum
  cases n with
  | zero => exact Nat.two_pow_pos 32
  | succ n =>
      rw [List.range_succ, List.foldl_append]
      exact Nat.mod_lt _ (Nat.two_pow_pos 32)

/-! ## The snapshot a save writes -/

/-- The snapshot a save with statics `p` and encoder `e` writes. -/
def savedMeta (p : Persist) (e : Encoder) : SnapshotMeta where
  version := persistVersion
  entryCount := e.entryCount
  payloadSize := e.offset - persistHeaderSize
  checksum := persistChecksum e.buf persistHeaderSize (e.offset - persistHeaderSize)
  sequence := persistNextSequence p
  slot := persistTargetSlot p

/-- The sectors a save writes. -/
def saveSectors (e : Encoder) : Nat :=
  if (e.offset + sectorSize - 1) / sectorSize = 0 then 1 else (e.offset + sectorSize - 1) / sectorSize

/-- The entries of a state encoded after a header. -/
def Encodes (nodes : List Inode) (next : Nat) (e : Encoder) : Prop :=
  persistAppendEntries nodes ⟨persistHeader next, persistHeaderSize, 0⟩ = (true, e)

section Encoded

variable {nodes : List Inode} {next : Nat} {e : Encoder} (h : Encodes nodes next e)

include h

theorem Encodes.bounds : persistHeaderSize ≤ e.offset ∧ e.offset ≤ persistBytes ∧
    e.entryCount = nodes.length ∧ ∀ i, i < persistHeaderSize → e.buf i = persistHeader next i := by
  obtain ⟨hlo, hhi, hcount, hkeep⟩ :=
    persistAppendEntries_true h (show persistHeaderSize ≤ persistBytes by decide)
  exact ⟨hlo, hhi, by rw [hcount, Nat.zero_add], hkeep⟩

theorem Encodes.sectorCount :
    persistSnapshotSectorCount (e.offset - persistHeaderSize) = saveSectors e ∧
      saveSectors e ≤ persistSectors ∧ e.offset ≤ saveSectors e * sectorSize := by
  obtain ⟨hlo, hhi, -⟩ := h.bounds
  unfold persistSnapshotSectorCount saveSectors
  rw [Nat.add_sub_cancel' hlo]
  unfold persistHeaderSize persistSectors persistBytes sectorSize at *
  dsimp only
  have hne : (e.offset + 512 - 1) / 512 ≠ 0 := by omega
  rw [if_neg hne, if_neg (by omega)]
  omega

theorem persistSnapshotValidate_saved (hcount : nodes.length ≤ maxFiles) (p : Persist)
    (hnext : next = persistNextSequence p) :
    persistSnapshotValidate (persistFinishHeader e) (persistTargetSlot p) =
      some (savedMeta p e) := by
  obtain ⟨hlo, hhi, hentries, hkeep⟩ := h.bounds
  have hsum := persistChecksum_lt e.buf persistHeaderSize (e.offset - persistHeaderSize)
  have hseq : next < 256 ^ 4 := by
    rw [hnext]
    unfold persistNextSequence
    dsimp only
    split <;> omega
  have hsize : e.offset - persistHeaderSize ≤ persistBytes - persistHeaderSize := by omega
  have hsizelt : e.offset - persistHeaderSize < 256 ^ 4 :=
    lt_of_le_of_lt hsize (by decide)
  have hentrieslt : e.entryCount < 256 ^ 4 := by
    rw [hentries]
    exact lt_of_le_of_lt hcount (by decide)
  -- the words at 12, 16 and 20 were stored last
  have h12 : getU32 (persistFinishHeader e) 12 = e.entryCount := by
    unfold persistFinishHeader getU32 putU32
    rw [load_store_of_disjoint (by decide), load_store_of_disjoint (by decide), load_store hentrieslt]
  have h16 : getU32 (persistFinishHeader e) 16 = e.offset - persistHeaderSize := by
    unfold persistFinishHeader getU32 putU32
    rw [load_store_of_disjoint (by decide), load_store hsizelt]
  have h20 : getU32 (persistFinishHeader e) 20 =
      persistChecksum e.buf persistHeaderSize (e.offset - persistHeaderSize) := by
    unfold persistFinishHeader getU32 putU32
    rw [load_store (lt_of_lt_of_eq hsum (by decide))]
  -- the others are those of the header the encoding started from
  have hother : ∀ i, i < persistHeaderSize → (i < 12 ∨ 24 ≤ i) →
      persistFinishHeader e i = persistHeader next i := by
    intro i hi hout
    unfold persistFinishHeader putU32
    rw [store_of_outside (by omega), store_of_outside (by omega), store_of_outside (by omega),
      hkeep i hi]
  have hpayload : ∀ i, persistHeaderSize ≤ i → persistFinishHeader e i = e.buf i := by
    intro i hi
    unfold persistHeaderSize sectorSize at hi
    unfold persistFinishHeader putU32
    rw [store_of_outside (by omega), store_of_outside (by omega), store_of_outside (by omega)]
  have h8 : getU32 (persistFinishHeader e) 8 = persistVersion := by
    rw [getU32_congr fun i hlo' hhi' => hother i (lt_trans hhi' (by decide)) (by omega)]
    unfold persistHeader getU32 putU32
    rw [load_store_of_disjoint (by decide), load_store (by decide)]
  have h24 : getU32 (persistFinishHeader e) persistSequenceOffset = next := by
    have hcongr : getU32 (persistFinishHeader e) persistSequenceOffset =
        getU32 (persistHeader next) persistSequenceOffset :=
      getU32_congr fun i hlo' hhi' => hother i (lt_trans hhi' (by decide)) (Or.inr hlo')
    rw [hcongr]
    unfold persistHeader getU32 putU32
    rw [load_store hseq]
  have hmagic : memcmpEq (persistFinishHeader e) 0 persistMagic = true := by
    have hstart : memcmpEq (persistFinishHeader e) 0 persistMagic =
        memcmpEq (bytesMem persistMagic) 0 persistMagic := by
      refine memcmpEq_congr fun i _ hi => ?_
      have hlt : i < 7 := lt_of_lt_of_eq hi (by decide)
      rw [hother i (lt_trans hlt (by decide)) (by omega)]
      unfold persistHeader putU32
      rw [store_of_outside (Or.inl (lt_trans hlt (by decide))), store_of_outside (by omega)]
      exact if_pos ⟨Nat.zero_le i, by omega⟩
    rw [hstart]
    decide
  refine persistSnapshotValidate_eq_some.mpr ⟨⟨hmagic, Or.inl h8, ?_, ?_⟩, ?_, ?_⟩
  · rw [h12, hentries]
    exact hcount
  · rw [h16]
    exact hsize
  · rw [h20, h16]
    exact (persistChecksum_congr fun i hi _ => hpayload i hi).symm
  · unfold headerMeta savedMeta
    rw [h8, h12, h16, h20, h24, if_pos le_rfl, hnext]

end Encoded

/-! ## The data partition -/

/-- The slots of a partition of `sectors` sectors. -/
def slotCount (sectors : Nat) : Nat :=
  if sectors ≥ persistSectors * persistSlotCount then persistSlotCount else 1

/-- The statics with the partition at `lba`. -/
def locate (p : Persist) (lba sectors : Nat) : Persist :=
  { p with lba, dataSectors := sectors, slotsAvailable := slotCount sectors }

section Partition

variable {d d' : Disk} {lba sectors : Nat}

theorem slotCount_cases (sectors : Nat) : slotCount sectors = 1 ∨ slotCount sectors = 2 := by
  unfold slotCount persistSlotCount
  split
  · exact Or.inr rfl
  · exact Or.inl rfl

theorem slotCount_pos (sectors : Nat) : 1 ≤ slotCount sectors := by
  unfold slotCount persistSlotCount
  split <;> decide

/-- Entry `i` of the partition table of `d` carries the data type or the data
name, and spans the sectors `first` to `last`. -/
structure IsDataEntry (d : Disk) (i first last : Nat) : Prop where
  header : memcmpEq (d.sector 1) 0 ((cstr "EFI PART").map Subtype.val) = true
  index : i < getU32 (d.sector 1) 80
  marked : memcmpEq (d.sector (gptEntryLba (getU64 (d.sector 1) 72) (getU32 (d.sector 1) 84) i))
      (i * getU32 (d.sector 1) 84 % sectorSize) orizonDataType = true ∨
    persistGptNameIsOrizonData
      (d.sector (gptEntryLba (getU64 (d.sector 1) 72) (getU32 (d.sector 1) 84) i))
      (i * getU32 (d.sector 1) 84 % sectorSize) = true
  firstLba : getU64 (d.sector (gptEntryLba (getU64 (d.sector 1) 72) (getU32 (d.sector 1) 84) i))
    (i * getU32 (d.sector 1) 84 % sectorSize + 32) = first
  lastLba : getU64 (d.sector (gptEntryLba (getU64 (d.sector 1) 72) (getU32 (d.sector 1) 84) i))
    (i * getU32 (d.sector 1) 84 % sectorSize + 40) = last

theorem gptEntry_some {sec : Mem} {off : Nat} (h : gptEntry sec off = some (lba, sectors)) :
    (memcmpEq sec off orizonDataType = true ∨ persistGptNameIsOrizonData sec off = true) ∧
      34 ≤ lba ∧ persistSectors ≤ sectors ∧ getU64 sec (off + 32) = lba ∧
      getU64 sec (off + 40) + 1 = lba + sectors := by
  unfold gptEntry at h
  dsimp only at h
  split at h
  · next hmarked =>
      split at h
      · next hbounds =>
          split at h
          · cases h
          · next hroom =>
              obtain ⟨hlba, hsectors⟩ := Prod.mk.inj (Option.some.inj h)
              exact ⟨Bool.or_eq_true_iff.mp hmarked, by omega, by omega, hlba, by omega⟩
      · cases h
  · cases h

theorem gptScan_some {entriesLba entrySize : Nat} {is : List Nat}
    (h : gptScan d entriesLba entrySize is = some (lba, sectors)) :
    ∃ i ∈ is, gptEntry (d.sector (gptEntryLba entriesLba entrySize i))
      (i * entrySize % sectorSize) = some (lba, sectors) := by
  induction is with
  | nil => cases h
  | cons i is ih =>
      unfold gptScan at h
      rcases storageRead_cases d (gptEntryLba entriesLba entrySize i) with ⟨-, hsec⟩ | ⟨-, hsec⟩ <;>
        rw [hsec] at h <;> dsimp only at h
      · split at h
        · next found hfound =>
            obtain rfl := Option.some.inj h
            exact ⟨i, List.mem_cons_self, hfound⟩
        · obtain ⟨j, hj, hfound⟩ := ih h
          exact ⟨j, List.mem_cons_of_mem i hj, hfound⟩
      · cases h

/-- The partition found is a data entry's, and holds at least one slot. -/
theorem findDataPartition_entry (h : findDataPartition d = some (lba, sectors)) :
    ∃ i last, IsDataEntry d i lba last ∧ last + 1 = lba + sectors ∧ 34 ≤ lba ∧
      persistSectors ≤ sectors := by
  unfold findDataPartition at h
  dsimp only at h
  split at h
  swap
  · cases h
  rcases storageRead_cases d 1 with ⟨-, hsec⟩ | ⟨-, hsec⟩ <;> rw [hsec] at h <;> dsimp only at h
  swap
  · cases h
  split at h
  swap
  · cases h
  next hheader =>
    split at h
    · cases h
    · obtain ⟨i, hi, hentry⟩ := gptScan_some h
      obtain ⟨hmarked, hlba, hroom, hfirst, hlast⟩ := gptEntry_some hentry
      have hindex := lt_of_lt_of_le (List.mem_range.mp hi) (Nat.min_le_left _ _)
      exact ⟨i, _, ⟨hheader, hindex, hmarked, hfirst, rfl⟩, hlast, hlba, hroom⟩

theorem findDataPartition_some (h : findDataPartition d = some (lba, sectors)) :
    d.available = true ∧ 34 ≤ lba := by
  obtain ⟨-, -, -, -, hlba, -⟩ := findDataPartition_entry h
  unfold findDataPartition at h
  split at h
  · next havail => exact ⟨havail, hlba⟩
  · cases h

theorem present_of_found (h : findDataPartition d = some (lba, sectors)) (p : Persist) :
    persistOrizonDataPartitionPresent d p = (true, locate p lba sectors) := by
  unfold persistOrizonDataPartitionPresent
  rw [h]
  rfl

/-- The snapshots depend on the partition, not on the other statics. -/
theorem slotSnapshot_locate (p q : Persist) (slot : Nat) :
    slotSnapshot d (locate p lba sectors) slot = slotSnapshot d (locate q lba sectors) slot :=
  slotSnapshot_congr rfl rfl

end Partition

/-! ## A save -/

/-- The statics a save works with: the metadata is read from the slots first
when persistence was not ready. -/
def saveStatics (d : Disk) (p : Persist) : Persist :=
  if p.ready then p else persistPrepareMetadataForSave d { p with ready := true }

/-- Where a save with statics `p` writes. -/
def saveLba (p : Persist) : Nat := persistSlotLba p (persistTargetSlot p)

/-- The state after a save wrote its snapshot. -/
def savedState (v : Vfs H) (p : Persist) (e : Encoder) : Vfs H :=
  { v with
    disk := writtenDisk v.disk (saveLba p) (persistFinishHeader e) 0 (saveSectors e)
    persist := { p with
      buf := persistFinishHeader e
      activeSlot := some (persistTargetSlot p)
      sequence := persistNextSequence p
      lastEntryCount := e.entryCount
      lastPayloadSize := e.offset - persistHeaderSize
      lastChecksum := persistChecksum e.buf persistHeaderSize (e.offset - persistHeaderSize)
      lastVersion := persistVersion } }

/-- The state after a save whose write stopped after `m` sectors. -/
def tornState (v : Vfs H) (p : Persist) (e : Encoder) (m : Nat) : Vfs H :=
  { v with
    disk := writtenDisk v.disk (saveLba p) (persistFinishHeader e) 0 m
    persist := { p with buf := persistFinishHeader e } }

section Save

variable {v : Vfs H} {lba sectors : Nat}

/-- A save of a disk with a data partition is refused while loading, does not
fit, or writes all of its snapshot, or some of it. -/
theorem vfsPersistSave_cases (hpart : findDataPartition v.disk = some (lba, sectors)) :
    (v.persist.loading = true ∧ vfsPersistSave v = (.error .einval, v)) ∨
    (v.persist.loading = false ∧ ∃ p, p = saveStatics v.disk (locate v.persist lba sectors) ∧
      ((∃ e, persistAppendEntries (persistedInodes v)
          ⟨persistHeader (persistNextSequence p), persistHeaderSize, 0⟩ = (false, e) ∧
          vfsPersistSave v = (.error .enospc, { v with persist := { p with buf := e.buf } })) ∨
        ∃ e, Encodes (persistedInodes v) (persistNextSequence p) e ∧
          ((Readable v.disk (saveLba p) (saveSectors e) ∧
              vfsPersistSave v = (.ok (), savedState v p e)) ∨
            ∃ m, m < saveSectors e ∧ vfsPersistSave v = (.error .eio, tornState v p e m)))) := by
  have havail := (findDataPartition_some hpart).1
  unfold vfsPersistSave
  cases hloading : v.persist.loading with
  | true => exact Or.inl ⟨rfl, if_pos rfl⟩
  | false =>
      refine Or.inr ⟨rfl, _, rfl, ?_⟩
      rw [if_neg (by decide), if_neg (not_not.mpr havail), present_of_found hpart]
      dsimp only
      generalize hp : saveStatics v.disk (locate v.persist lba sectors) = p
      unfold saveStatics at hp
      rw [hp]
      cases hencode : persistAppendEntries (persistedInodes v)
          ⟨persistHeader (persistNextSequence p), persistHeaderSize, 0⟩ with
      | mk fits e =>
          cases fits with
          | false => exact Or.inl ⟨e, rfl, rfl⟩
          | true =>
              refine Or.inr ⟨e, hencode, ?_⟩
              dsimp only
              rcases persistStorageWrite_cases (saveSectors e) v.disk (saveLba p) 0
                  (persistFinishHeader e) with ⟨hread, hwrite⟩ | ⟨m, hm, hwrite⟩
              · refine Or.inl ⟨hread, ?_⟩
                unfold saveSectors saveLba at hwrite
                rw [hwrite]
                rfl
              · refine Or.inr ⟨m, hm, ?_⟩
                unfold saveSectors saveLba at hwrite
                rw [hwrite]
                rfl

theorem saveStatics_where (d : Disk) (p : Persist) : (saveStatics d p).lba = p.lba ∧
    (saveStatics d p).slotsAvailable = p.slotsAvailable := by
  unfold saveStatics
  split
  · exact ⟨rfl, rfl⟩
  · obtain ⟨buf, hscan⟩ := persistScanSlots_statics d { p with ready := true }
    unfold persistPrepareMetadataForSave
    cases hslots : persistScanSlots d { p with ready := true } with
    | mk best rest =>
        rw [hslots] at hscan
        cases best with
        | none =>
            dsimp only
            rw [show rest.2 = { p with ready := true, buf } from hscan]
            exact ⟨rfl, rfl⟩
        | some best =>
            dsimp only
            rw [show rest.2 = { p with ready := true, buf } from hscan]
            exact ⟨rfl, rfl⟩

variable {p : Persist} {e : Encoder}

theorem persistTargetSlot_lt (hslots : p.slotsAvailable = slotCount sectors) :
    persistTargetSlot p < slotCount sectors := by
  have hpos := slotCount_pos sectors
  unfold persistTargetSlot
  rw [hslots]
  cases p.activeSlot with
  | none => exact hpos
  | some slot =>
      dsimp only
      split
      · exact Nat.mod_lt _ hpos
      · exact hpos

theorem slotSnapshot_saved (hslots : p.slotsAvailable = slotCount sectors)
    (hcount : (persistedInodes v).length ≤ maxFiles)
    (he : Encodes (persistedInodes v) (persistNextSequence p) e)
    (hread : Readable v.disk (saveLba p) (saveSectors e)) :
    slotSnapshot (savedState v p e).disk p (persistTargetSlot p) = some (savedMeta p e) := by
  obtain ⟨hsectors, -, hcovers⟩ := he.sectorCount
  have himage : ∀ i, i < saveSectors e * sectorSize → persistFinishHeader e i =
      slotImage (savedState v p e).disk (saveLba p) i := by
    intro i hi
    have himg : slotImage (savedState v p e).disk (saveLba p) i = persistFinishHeader e (0 + i) :=
      slotImage_writtenDisk hi
    rw [himg, Nat.zero_add]
  have hvalid := persistSnapshotValidate_saved he hcount p rfl
  have hlo := he.bounds.1
  refine slotSnapshot_eq_some.mpr ⟨?_, ?_, ?_⟩
  · rw [hslots]
    exact persistTargetSlot_lt hslots
  · refine (persistSnapshotValidate_congr (fun i hi => himage i ?_) fun _ i hi => himage i ?_).mp hvalid
    · exact lt_of_lt_of_le hi (le_trans hlo hcovers)
    · have hsize : getU32 (persistFinishHeader e) 16 = e.offset - persistHeaderSize := by
        have hmeta := (persistSnapshotValidate_eq_some.mp hvalid).2.2
        exact congrArg SnapshotMeta.payloadSize hmeta
      rw [hsize] at hi
      omega
  · have hsame : persistSnapshotSectorCount (savedMeta p e).payloadSize = saveSectors e := hsectors
    rw [hsame]
    exact hread

theorem slotSnapshot_writtenDisk {d : Disk} {slot n : Nat} {buf : Mem} (hn : n ≤ persistSectors)
    (hne : slot ≠ persistTargetSlot p) :
    slotSnapshot (writtenDisk d (saveLba p) buf 0 n) p slot = slotSnapshot d p slot := by
  refine slotSnapshot_of_same rfl rfl fun k hk => sector_writtenDisk ?_
  unfold saveLba persistSlotLba
  rcases Nat.lt_or_gt_of_ne hne with hlt | hlt
  · have hmul : (slot + 1) * persistSectors ≤ persistTargetSlot p * persistSectors :=
      Nat.mul_le_mul_right _ hlt
    rw [Nat.add_mul, Nat.one_mul] at hmul
    omega
  · have hmul : (persistTargetSlot p + 1) * persistSectors ≤ slot * persistSectors :=
      Nat.mul_le_mul_right _ hlt
    rw [Nat.add_mul, Nat.one_mul] at hmul
    omega

end Save

end Orizon
