import Orizon.Vfs.Save

/-!
# Orizon.Vfs.Within

Where a save writes.

The partition comes from a table nobody checked, its bounds, the slot count and
the slot itself from arithmetic on that table and on statics that may belong to
another disk.  Whatever the table holds, the sectors handed to the device lie in
one data entry: the slots are as many as fit (`slots_fit`), the target slot is
one of them (`persistTargetSlot_lt`), and a snapshot is no longer than a slot
(`Encodes.sectorCount`).
-/

namespace Orizon

variable {H : Type}

/-! ## The sectors handed to the device -/

/-- The sectors `persist_storage_write` hands to `storage_write`, the one that
fails included. -/
def persistStorageWriteSectors (d : Disk) (lba : Nat) (buf : Mem) (off : Nat) : Nat → List Nat
  | 0 => []
  | sectors + 1 =>
      lba :: match storageWrite d lba fun i => buf (off + i) with
        | none => []
        | some d => persistStorageWriteSectors d (lba + 1) buf (off + sectorSize) sectors

/-- The sectors `vfs_persist_save` hands to the device. -/
def vfsPersistSaveSectors (v : Vfs H) : List Nat :=
  if v.persist.loading then []
  else if ¬ v.disk.available then []
  else
    match persistOrizonDataPartitionPresent v.disk v.persist with
    | (false, _) => []
    | (true, p) =>
        let p := if p.ready then p
          else persistPrepareMetadataForSave v.disk { p with ready := true }
        match persistAppendEntries (persistedInodes v)
            ⟨persistHeader (persistNextSequence p), persistHeaderSize, 0⟩ with
        | (false, _) => []
        | (true, e) =>
            let sectors := (e.offset + sectorSize - 1) / sectorSize
            let sectors := if sectors = 0 then 1 else sectors
            persistStorageWriteSectors v.disk (persistSlotLba p (persistTargetSlot p))
              (persistFinishHeader e) 0 sectors

theorem mem_persistStorageWriteSectors {buf : Mem} {s : Nat} (n : Nat) :
    ∀ {d : Disk} {lba off : Nat}, s ∈ persistStorageWriteSectors d lba buf off n →
      lba ≤ s ∧ s < lba + n := by
  induction n with
  | zero =>
      intro d lba off h
      cases h
  | succ n ih =>
      intro d lba off h
      rcases List.mem_cons.mp h with rfl | htail
      · omega
      · cases hwrite : storageWrite d lba fun i => buf (off + i) with
        | none =>
            rw [hwrite] at htail
            cases htail
        | some d' =>
            rw [hwrite] at htail
            have hrest := ih htail
            omega

theorem sector_persistStorageWrite {buf : Mem} {s : Nat} (n : Nat) :
    ∀ {d : Disk} {lba off : Nat}, s ∉ persistStorageWriteSectors d lba buf off n →
      (persistStorageWrite d lba buf off n).2.sector s = d.sector s := by
  induction n with
  | zero =>
      intro d lba off _
      rfl
  | succ n ih =>
      intro d lba off hs
      unfold persistStorageWriteSectors at hs
      obtain ⟨hne, hrest⟩ := not_or.mp (mt List.mem_cons.mpr hs)
      unfold persistStorageWrite
      cases hwrite : storageWrite d lba fun i => buf (off + i) with
      | none => rfl
      | some d' =>
          rw [hwrite] at hrest
          dsimp only at hrest ⊢
          rw [ih hrest]
          unfold storageWrite at hwrite
          split at hwrite
          · obtain rfl := Option.some.inj hwrite
            exact Function.update_of_ne hne _ _
          · cases hwrite

/-! ## One data entry -/

/-- A save hands nothing to the device, or writes one encoding into the slot of
the partition it found. -/
theorem vfsPersistSaveSectors_cases (v : Vfs H) :
    (vfsPersistSaveSectors v = [] ∧ (vfsPersistSave v).2.disk = v.disk) ∨
      ∃ lba sectors p e, findDataPartition v.disk = some (lba, sectors) ∧
        p = saveStatics v.disk (locate v.persist lba sectors) ∧
        Encodes (persistedInodes v) (persistNextSequence p) e ∧
        vfsPersistSaveSectors v = persistStorageWriteSectors v.disk (saveLba p)
          (persistFinishHeader e) 0 (saveSectors e) ∧
        (vfsPersistSave v).2.disk = (persistStorageWrite v.disk (saveLba p)
          (persistFinishHeader e) 0 (saveSectors e)).2 := by
  unfold vfsPersistSaveSectors vfsPersistSave
  split
  · exact Or.inl ⟨rfl, rfl⟩
  split
  · exact Or.inl ⟨rfl, rfl⟩
  cases hpart : findDataPartition v.disk with
  | none =>
      unfold persistOrizonDataPartitionPresent
      rw [hpart]
      exact Or.inl ⟨rfl, rfl⟩
  | some found =>
      obtain ⟨lba, sectors⟩ := found
      rw [present_of_found hpart]
      dsimp only
      generalize hp : saveStatics v.disk (locate v.persist lba sectors) = p
      unfold saveStatics at hp
      rw [hp]
      cases hencode : persistAppendEntries (persistedInodes v)
          ⟨persistHeader (persistNextSequence p), persistHeaderSize, 0⟩ with
      | mk fits e =>
          cases fits with
          | false => exact Or.inl ⟨rfl, rfl⟩
          | true =>
              refine Or.inr ⟨lba, sectors, p, e, rfl, hp.symm, hencode, rfl, ?_⟩
              dsimp only
              change _ = (persistStorageWrite v.disk (persistSlotLba p (persistTargetSlot p))
                (persistFinishHeader e) 0 (if (e.offset + sectorSize - 1) / sectorSize = 0 then 1
                  else (e.offset + sectorSize - 1) / sectorSize)).2
              rcases persistStorageWrite v.disk (persistSlotLba p (persistTargetSlot p))
                (persistFinishHeader e) 0 (if (e.offset + sectorSize - 1) / sectorSize = 0 then 1
                  else (e.offset + sectorSize - 1) / sectorSize) with ⟨_ | _, d⟩
              · rfl
              · rfl

theorem slots_fit {sectors : Nat} (h : persistSectors ≤ sectors) :
    slotCount sectors * persistSectors ≤ sectors := by
  unfold slotCount
  split
  · next htwo => exact le_of_eq_of_le (Nat.mul_comm _ _) htwo
  · exact le_of_eq_of_le (Nat.one_mul _) h

/-- **A save stays inside one data entry**: whatever the table and the statics
hold, the sectors handed to the device lie between the first and the last sector
of one entry that carries the data type or name, and no other sector changes. -/
theorem vfsPersistSave_within (v : Vfs H) :
    (∀ s, s ∉ vfsPersistSaveSectors v → (vfsPersistSave v).2.disk.sector s = v.disk.sector s) ∧
      (vfsPersistSaveSectors v = [] ∨ ∃ i first last, IsDataEntry v.disk i first last ∧
        ∀ s ∈ vfsPersistSaveSectors v, first ≤ s ∧ s ≤ last) := by
  rcases vfsPersistSaveSectors_cases v with ⟨hnone, hdisk⟩ |
    ⟨lba, sectors, p, e, hpart, hp, hencode, hwritten, hdisk⟩
  · rw [hdisk]
    exact ⟨fun _ _ => rfl, Or.inl hnone⟩
  rw [hdisk, hwritten]
  refine ⟨fun s hs => sector_persistStorageWrite _ hs, Or.inr ?_⟩
  obtain ⟨i, last, hentry, hlast, -, hroom⟩ := findDataPartition_entry hpart
  refine ⟨i, lba, last, hentry, fun s hs => ?_⟩
  obtain ⟨hlo, hhi⟩ := mem_persistStorageWriteSectors _ hs
  obtain ⟨-, hlen, -⟩ := hencode.sectorCount
  obtain ⟨hlba, hslots⟩ := saveStatics_where v.disk (locate v.persist lba sectors)
  rw [← hp] at hlba hslots
  have hsaveLba : saveLba p = lba + persistTargetSlot p * persistSectors := by
    unfold saveLba persistSlotLba
    rw [hlba]
    rfl
  -- the target slot ends where the next one starts, and the slots all fit
  have hslot : (persistTargetSlot p + 1) * persistSectors ≤ sectors :=
    (Nat.mul_le_mul_right _ (persistTargetSlot_lt hslots)).trans (slots_fit hroom)
  rw [Nat.add_mul, Nat.one_mul] at hslot
  omega

end Orizon
