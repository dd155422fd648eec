import Orizon.Lib.Run
import Orizon.Vfs.Quiet
import Orizon.Vfs.Save
import Orizon.Vfs.Shape

/-!
# Orizon.Vfs.Persistence

The entry points of the persistence layer, and the saves they make.

A call prepares the statics and may then save (`beforeSave`).  A save leaves
one of two slots alone, the active one (`keptSlot`); what the scans select
afterwards depends on what that slot holds.
-/

namespace Orizon

variable {H : Type}

/-! ## Calls -/

/-- The entry points of the persistence layer. -/
inductive PersistCall
  | load
  | save
  | enableInstalled
  | repair
  | restoreSlot (slot : Int)

section Calls

variable [Allocator H]

/-- The state after a call, whatever it returned. -/
def persistCall (v : Vfs H) : PersistCall → Option (Vfs H)
  | .load => vfsPersistLoad v
  | .save => some (vfsPersistSave v).2
  | .enableInstalled => some (vfsPersistEnableInstalled v).2
  | .repair => some (vfsPersistRepair v).2
  | .restoreSlot slot => (vfsPersistRestoreSlot v slot).map Prod.snd

/-- `vfs_persist_load` up to its save, and whether it comes to one. -/
def loadBeforeSave (v : Vfs H) : Option (Bool × Vfs H) :=
  match persistOpenPartition v with
  | (false, v) => some (false, v)
  | (true, v) =>
      match persistScanSlots v.disk { v.persist with loading := true, ready := true } with
      | (none, _, p) => some (true, v.setPersist { persistResetMeta p with loading := false })
      | (some best, _, p) =>
          match persistReadSlotSnapshot v.disk p best.slot with
          | (.ok info, p) =>
              (persistApplySnapshotEntries (v.setPersist (persistSetLoadedMeta p info)) info).map
                fun r => (decide (info.version = persistLegacyVersion),
                  r.2.setPersist { r.2.persist with loading := false })
          | (_, p) => some (false, v.setPersist { p with loading := false })

/-- `vfs_persist_restore_slot` up to its save, and whether it comes to one. -/
def restoreBeforeSave (v : Vfs H) (slot : Int) : Option (Bool × Vfs H) :=
  match persistOpenPartition v with
  | (false, v) => some (false, v)
  | (true, v) =>
      if slot < 0 ∨ slot ≥ v.persist.slotsAvailable then some (false, v)
      else
        match persistReadSlotSnapshot v.disk v.persist slot.toNat with
        | (.ok info, p) =>
            (persistApplySnapshotEntries
              (v.setPersist (persistSetLoadedMeta { p with ready := true, loading := true } info))
              info).map fun r => (r.1, r.2.setPersist { r.2.persist with loading := false })
        | (_, p) => some (false, v.setPersist p)

/-- The state in which a call saves, or its last state if it does not. -/
def beforeSave (v : Vfs H) : PersistCall → Option (Bool × Vfs H)
  | .load => loadBeforeSave v
  | .save => some (true, v)
  | .enableInstalled => some (false, (vfsPersistEnableInstalled v).2)
  | .repair =>
      match persistOpenPartition v with
      | (false, v) => some (false, v)
      | (true, v) => some (true, v.setPersist { v.persist with ready := true, loading := false })
  | .restoreSlot slot => restoreBeforeSave v slot

/-- A call is its preparation, and then its save if it comes to one. -/
theorem persistCall_eq (v : Vfs H) (c : PersistCall) :
    persistCall v c = (beforeSave v c).map fun r => if r.1 then (vfsPersistSave r.2).2 else r.2 := by
  cases c with
  | save => rfl
  | enableInstalled => rfl
  | repair =>
      dsimp only [persistCall, beforeSave, vfsPersistRepair]
      cases persistOpenPartition v with
      | mk found u => cases found <;> rfl
  | load =>
      dsimp only [persistCall, beforeSave]
      unfold vfsPersistLoad loadBeforeSave persistOpenPartition
      dsimp only
      by_cases havail : (vfsInit v).disk.available = true
      swap
      · rw [if_pos havail, if_pos havail]
        rfl
      rw [if_neg (not_not.mpr havail), if_neg (not_not.mpr havail)]
      rcases persistOrizonDataPartitionPresent (vfsInit v).disk (vfsInit v).persist with ⟨_ | _, p⟩
      · rfl
      dsimp only [Vfs.setPersist]
      rcases persistScanSlots (vfsInit v).disk { p with loading := true, ready := true } with
        ⟨_ | best, err, p⟩
      · rfl
      dsimp only
      rcases persistReadSlotSnapshot (vfsInit v).disk p best.slot with ⟨info | _ | _, p⟩
      · dsimp only
        cases persistApplySnapshotEntries
          { vfsInit v with persist := persistSetLoadedMeta p info } info with
        | none => rfl
        | some r => by_cases hlegacy : info.version = persistLegacyVersion <;> simp [hlegacy]
      · rfl
      · rfl
  | restoreSlot slot =>
      dsimp only [persistCall, beforeSave]
      unfold vfsPersistRestoreSlot restoreBeforeSave
      rcases persistOpenPartition v with ⟨_ | _, u⟩
      · rfl
      dsimp only
      by_cases hslot : slot < 0 ∨ slot ≥ u.persist.slotsAvailable
      · rw [if_pos hslot, if_pos hslot]
        rfl
      rw [if_neg hslot, if_neg hslot]
      rcases persistReadSlotSnapshot u.disk u.persist slot.toNat with ⟨info | _ | _, p⟩
      · dsimp only
        cases persistApplySnapshotEntries
          (u.setPersist (persistSetLoadedMeta { p with ready := true, loading := true } info)) info with
        | none => rfl
        | some r => rcases r with ⟨_ | _, w⟩ <;> rfl
      · rfl
      · rfl

/-! ## What a call prepares -/

section Prepare

variable {v u : Vfs H} {c : PersistCall} {lba sectors : Nat}

theorem persistOpenPartition_of_found (hpart : findDataPartition v.disk = some (lba, sectors)) :
    persistOpenPartition v = (true, (vfsInit v).setPersist (locate v.persist lba sectors)) := by
  have hinit := quiet_vfsInit v
  unfold persistOpenPartition
  dsimp only
  rw [hinit.disk, hinit.persist, if_neg (not_not.mpr (findDataPartition_some hpart).1),
    present_of_found hpart]

/-- The same disk, and a table that still fits: what a preparation keeps. -/
structure SameDisk (v u : Vfs H) : Prop where
  disk : u.disk = v.disk
  room : v.inodeCount ≤ maxFiles → u.inodeCount ≤ maxFiles

theorem SameDisk.applied {w : Vfs H} {info : SnapshotMeta} {r : Bool × Vfs H} (h : SameDisk v w)
    (hload : w.persist.loading = true) (happly : persistApplySnapshotEntries w info = some r) :
    SameDisk v (r.2.setPersist { r.2.persist with loading := false }) ∧
      r.2.persist = w.persist := by
  have hquiet := quiet_persistApplySnapshotEntries  hload happly
  exact ⟨⟨hquiet.disk.trans h.disk, fun hv => hquiet.room (h.room hv)⟩, hquiet.persist⟩

theorem persistOpenPartition_sameDisk (v : Vfs H) : SameDisk v (persistOpenPartition v).2 := by
  have hinit := quiet_vfsInit v
  unfold persistOpenPartition
  dsimp only
  split
  · exact ⟨hinit.disk, hinit.room⟩
  · split
    · exact ⟨hinit.disk, hinit.room⟩
    · exact ⟨hinit.disk, hinit.room⟩

theorem beforeSave_sameDisk {saves : Bool} (h : beforeSave v c = some (saves, u)) :
    SameDisk v u := by
  have hopen := persistOpenPartition_sameDisk v
  cases c with
  | save =>
      obtain ⟨-, rfl⟩ := Prod.mk.inj (Option.some.inj h)
      exact ⟨rfl, id⟩
  | enableInstalled =>
      obtain ⟨-, rfl⟩ := Prod.mk.inj (Option.some.inj h)
      unfold vfsPersistEnableInstalled
      rcases hv : persistOpenPartition v with ⟨_ | _, w⟩ <;> rw [hv] at hopen
      · exact hopen
      · exact ⟨hopen.disk, hopen.room⟩
  | repair =>
      dsimp only [beforeSave] at h
      rcases hv : persistOpenPartition v with ⟨_ | _, w⟩ <;> rw [hv] at hopen h
      · obtain ⟨-, rfl⟩ := Prod.mk.inj (Option.some.inj h)
        exact hopen
      · obtain ⟨-, rfl⟩ := Prod.mk.inj (Option.some.inj h)
        exact ⟨hopen.disk, hopen.room⟩
  | load =>
      dsimp only [beforeSave] at h
      unfold loadBeforeSave at h
      rcases hv : persistOpenPartition v with ⟨_ | _, w⟩ <;> rw [hv] at hopen h
      · obtain ⟨-, rfl⟩ := Prod.mk.inj (Option.some.inj h)
        exact hopen
      dsimp only at h
      obtain ⟨buf, hscan⟩ :=
        persistScanSlots_statics w.disk { w.persist with loading := true, ready := true }
      rcases hbest : persistScanSlots w.disk { w.persist with loading := true, ready := true } with
        ⟨_ | best, err, p⟩
      · rw [hbest] at h
        obtain ⟨-, rfl⟩ := Prod.mk.inj (Option.some.inj h)
        exact ⟨hopen.disk, hopen.room⟩
      · rw [hbest] at h hscan
        dsimp only at h hscan
        subst hscan
        obtain ⟨buf', hbuf', -⟩ := persistReadSlotSnapshot_spec w.disk
          { w.persist with loading := true, ready := true, buf } best.slot
        rcases hread : persistReadSlotSnapshot w.disk
          { w.persist with loading := true, ready := true, buf } best.slot with ⟨info | _ | _, p⟩
        · rw [hread] at h hbuf'
          dsimp only at h hbuf'
          subst hbuf'
          obtain ⟨r, happly, hr⟩ := Option.map_eq_some_iff.mp h
          obtain ⟨-, rfl⟩ := Prod.mk.inj hr
          exact (SameDisk.applied (v := v) (by exact ⟨hopen.disk, hopen.room⟩) rfl happly).1
        · rw [hread] at h
          obtain ⟨-, rfl⟩ := Prod.mk.inj (Option.some.inj h)
          exact ⟨hopen.disk, hopen.room⟩
        · rw [hread] at h
          obtain ⟨-, rfl⟩ := Prod.mk.inj (Option.some.inj h)
          exact ⟨hopen.disk, hopen.room⟩
  | restoreSlot slot =>
      dsimp only [beforeSave] at h
      unfold restoreBeforeSave at h
      rcases hv : persistOpenPartition v with ⟨_ | _, w⟩ <;> rw [hv] at hopen h
      · obtain ⟨-, rfl⟩ := Prod.mk.inj (Option.some.inj h)
        exact hopen
      dsimp only at h
      split at h
      · obtain ⟨-, rfl⟩ := Prod.mk.inj (Option.some.inj h)
        exact hopen
      · rcases hread : persistReadSlotSnapshot w.disk w.persist slot.toNat with ⟨info | _ | _, p⟩ <;>
          rw [hread] at h
        · obtain ⟨r, happly, hr⟩ := Option.map_eq_some_iff.mp h
          obtain ⟨-, rfl⟩ := Prod.mk.inj hr
          exact (SameDisk.applied (v := v) (by exact ⟨hopen.disk, hopen.room⟩) rfl happly).1
        · obtain ⟨-, rfl⟩ := Prod.mk.inj (Option.some.inj h)
          exact ⟨hopen.disk, hopen.room⟩
        · obtain ⟨-, rfl⟩ := Prod.mk.inj (Option.some.inj h)
          exact ⟨hopen.disk, hopen.room⟩

theorem persistCall_room (h : persistCall v c = some u) (hv : v.inodeCount ≤ maxFiles) :
    u.inodeCount ≤ maxFiles := by
  rw [persistCall_eq] at h
  obtain ⟨⟨saves, w⟩, hbefore, hu⟩ := Option.map_eq_some_iff.mp h
  have hroom := (beforeSave_sameDisk hbefore).room hv
  dsimp only at hu
  split at hu
  · rw [← hu, (vfsPersistSave_same w).inodeCount]
    exact hroom
  · rwa [← hu]

/-- A load comes to a save when no slot holds a snapshot, or after restoring one
of the legacy version. -/
theorem loadBeforeSave_cases (hpart : findDataPartition v.disk = some (lba, sectors))
    (h : loadBeforeSave v = some (true, u)) : u.persist.ready = true ∧
      ((newestSnapshot v.disk (locate v.persist lba sectors) = none ∧
          u.persist.activeSlot = none) ∨
        ∃ info, newestSnapshot v.disk (locate v.persist lba sectors) = some info ∧
          info.version = persistLegacyVersion ∧ u.persist.activeSlot = some info.slot ∧
          u.persist.sequence = info.sequence) := by
  have hinit := quiet_vfsInit v
  unfold loadBeforeSave at h
  rw [persistOpenPartition_of_found hpart] at h
  dsimp only [Vfs.setPersist] at h
  rw [hinit.disk] at h
  have hnewest : newestSnapshot v.disk (locate v.persist lba sectors) = newestSnapshot v.disk
      { locate v.persist lba sectors with loading := true, ready := true } :=
    newestSnapshot_congr rfl rfl (slotCount_cases sectors)
  obtain ⟨buf, hscan⟩ := persistScanSlots_statics v.disk
    { locate v.persist lba sectors with loading := true, ready := true }
  rw [hnewest]
  rcases hbest : persistScanSlots v.disk
    { locate v.persist lba sectors with loading := true, ready := true } with ⟨_ | best, err, p⟩
  · rw [hbest] at h hscan
    dsimp only at h hscan
    subst hscan
    obtain ⟨-, rfl⟩ := Prod.mk.inj (Option.some.inj h)
    exact ⟨rfl, Or.inl ⟨congrArg Prod.fst hbest, rfl⟩⟩
  · rw [hbest] at h hscan
    dsimp only at h hscan
    subst hscan
    have hslot := slotSnapshot_of_newest (slotCount_cases sectors)
      (hnewest.trans (congrArg Prod.fst hbest))
    obtain ⟨buf', hbuf', hok, -⟩ := persistReadSlotSnapshot_spec v.disk
      { locate v.persist lba sectors with loading := true, ready := true, buf } best.slot
    rcases hread : persistReadSlotSnapshot v.disk
      { locate v.persist lba sectors with loading := true, ready := true, buf } best.slot with
      ⟨info | _ | _, p⟩
    · rw [hread] at h hbuf' hok
      dsimp only at h hbuf'
      subst hbuf'
      have hinfo : info = best := by
        have hsnap : slotSnapshot v.disk (locate v.persist lba sectors) best.slot = some info :=
          slotSnapshot_eq_some.mpr ((hok info).mp rfl)
        exact Option.some.inj (hsnap.symm.trans hslot)
      subst hinfo
      obtain ⟨r, happly, hr⟩ := Option.map_eq_some_iff.mp h
      obtain ⟨hlegacy, rfl⟩ := Prod.mk.inj hr
      have hpersist :=
        (quiet_persistApplySnapshotEntries (w := r.2) rfl happly).persist
      refine ⟨?_, Or.inr ⟨info, congrArg Prod.fst hbest, of_decide_eq_true hlegacy, ?_, ?_⟩⟩
      · exact congrArg Persist.ready hpersist
      · exact congrArg Persist.activeSlot hpersist
      · exact congrArg Persist.sequence hpersist
    · rw [hread] at h
      cases (Prod.mk.inj (Option.some.inj h)).1
    · rw [hread] at h
      cases (Prod.mk.inj (Option.some.inj h)).1

/-- A restore comes to a save after restoring the slot it was given. -/
theorem restoreBeforeSave_cases {slot : Int}
    (hpart : findDataPartition v.disk = some (lba, sectors))
    (h : restoreBeforeSave v slot = some (true, u)) : u.persist.ready = true ∧
      ∃ info, slotSnapshot v.disk (locate v.persist lba sectors) slot.toNat = some info ∧
        u.persist.activeSlot = some info.slot ∧ u.persist.sequence = info.sequence := by
  unfold restoreBeforeSave at h
  rw [persistOpenPartition_of_found hpart] at h
  dsimp only [Vfs.setPersist] at h
  rw [(quiet_vfsInit v).disk] at h
  split at h
  · cases (Prod.mk.inj (Option.some.inj h)).1
  · obtain ⟨buf, hbuf, hok, -⟩ :=
      persistReadSlotSnapshot_spec v.disk (locate v.persist lba sectors) slot.toNat
    rcases hread : persistReadSlotSnapshot v.disk (locate v.persist lba sectors) slot.toNat with
      ⟨info | _ | _, p⟩
    · rw [hread] at h hbuf hok
      dsimp only at h hbuf
      subst hbuf
      obtain ⟨r, happly, hr⟩ := Option.map_eq_some_iff.mp h
      obtain ⟨-, rfl⟩ := Prod.mk.inj hr
      have hpersist :=
        (quiet_persistApplySnapshotEntries (w := r.2) rfl happly).persist
      refine ⟨congrArg Persist.ready hpersist, info,
        slotSnapshot_eq_some.mpr ((hok info).mp rfl), ?_, ?_⟩
      · exact congrArg Persist.activeSlot hpersist
      · exact congrArg Persist.sequence hpersist
    · rw [hread] at h
      cases (Prod.mk.inj (Option.some.inj h)).1
    · rw [hread] at h
      cases (Prod.mk.inj (Option.some.inj h)).1

theorem repairBeforeSave_persist (hpart : findDataPartition v.disk = some (lba, sectors))
    (h : beforeSave v .repair = some (true, u)) :
    u.persist = { locate v.persist lba sectors with ready := true, loading := false } := by
  dsimp only [beforeSave] at h
  rw [persistOpenPartition_of_found hpart] at h
  obtain ⟨-, rfl⟩ := Prod.mk.inj (Option.some.inj h)
  rfl

end Prepare

end Calls

end Orizon
