import Orizon.Vfs.KernelHeap
import Orizon.Vfs.Persistence

/-!
# Orizon.Vfs.Alternation

Which slot a save writes, and what the slots hold after it.

With two slots a save writes the one that is not kept.  The snapshot it
writes is the newest exactly when the kept slot holds none that is ahead of it
(`KeptBehind`).  A save cut short leaves the kept slot as it was.
-/

namespace Orizon

variable {H : Type}

/-! ## The slot a save leaves alone -/

/-- The one of two slots that a save with statics `p` leaves alone: the active
one, or slot 1 if none is. -/
def keptSlot (p : Persist) : Nat :=
  match p.activeSlot with
  | none => 1
  | some slot => slot % 2

/-- The kept slot holds no snapshot of the current version with a sequence number
past the one a save writes, nor the same one in slot 0. -/
def KeptBehind (d : Disk) (p : Persist) : Prop :=
  ∀ info, slotSnapshot d p (keptSlot p) = some info → info.version = persistVersion →
    info.sequence < persistNextSequence p ∨
      (info.sequence = persistNextSequence p ∧ keptSlot p = 1)

section Kept

variable {d : Disk} {p p' : Persist} {lba sectors : Nat}

theorem persistTargetSlot_two (h : p.slotsAvailable = 2) :
    persistTargetSlot p = 1 - keptSlot p ∧ keptSlot p < 2 := by
  unfold persistTargetSlot keptSlot
  rw [h]
  cases p.activeSlot with
  | none => exact ⟨rfl, Nat.one_lt_two⟩
  | some slot =>
      dsimp only
      rw [if_pos Nat.one_lt_two]
      omega

theorem keptBehind_congr (hlba : p'.lba = p.lba) (hslots : p'.slotsAvailable = p.slotsAvailable)
    (hactive : p'.activeSlot = p.activeSlot) (hsequence : p'.sequence = p.sequence) :
    KeptBehind d p' ↔ KeptBehind d p := by
  unfold KeptBehind keptSlot persistNextSequence
  rw [hactive, hsequence]
  simp only [slotSnapshot_congr hlba hslots]

/-- The kept slot holds the snapshot that the sequence number was taken from: a
save is ahead of it unless its number was the last. -/
theorem keptBehind_of_active {info : SnapshotMeta} (h : p.slotsAvailable = 2)
    (hslot : slotSnapshot d p info.slot = some info) (hactive : p.activeSlot = some info.slot)
    (hsequence : p.sequence = info.sequence) :
    KeptBehind d p ↔ (info.version = persistVersion → info.sequence + 1 < 2 ^ 32) := by
  have hlt : info.slot < 2 := by
    rw [← h]
    exact (slotSnapshot_eq_some.mp hslot).1
  have hkept : keptSlot p = info.slot := by
    unfold keptSlot
    rw [hactive]
    exact Nat.mod_eq_of_lt hlt
  have hbound := (slotSnapshot_bounds hslot).2
  have hnext : info.sequence < persistNextSequence p ∨
      (info.sequence = persistNextSequence p ∧ keptSlot p = 1) ↔ info.sequence + 1 < 2 ^ 32 := by
    unfold persistNextSequence
    rw [hsequence]
    dsimp only
    split <;> omega
  unfold KeptBehind
  rw [hkept, hslot]
  constructor
  · intro hall hversion
    exact hnext.mp (by rw [hkept]; exact hall info rfl hversion)
  · rintro hall _ hinfo hversion
    obtain rfl := Option.some.inj hinfo
    rw [← hkept]
    exact hnext.mpr (hall hversion)

end Kept

/-! ## After a save -/

section Saved

variable {v : Vfs H} {p : Persist} {e : Encoder}

/-- The snapshot a save wrote is the newest when the kept slot is behind. -/
theorem newestSnapshot_savedState (hslots : p.slotsAvailable = 2)
    (hsaved : slotSnapshot (savedState v p e).disk p (persistTargetSlot p) = some (savedMeta p e))
    (hsectors : saveSectors e ≤ persistSectors) :
    newestSnapshot (savedState v p e).disk p = some (savedMeta p e) ↔ KeptBehind v.disk p := by
  obtain ⟨htarget, hkept⟩ := persistTargetSlot_two hslots
  have hother : slotSnapshot (savedState v p e).disk p (keptSlot p) =
      slotSnapshot v.disk p (keptSlot p) :=
    slotSnapshot_writtenDisk hsectors (by omega)
  have hnext : (savedMeta p e).sequence = persistNextSequence p := rfl
  have hversion : (savedMeta p e).version = persistVersion := rfl
  have hslot : (savedMeta p e).slot = persistTargetSlot p := rfl
  unfold KeptBehind
  rw [newestSnapshot_two hslots]
  obtain hzero | hone : keptSlot p = 0 ∨ keptSlot p = 1 := by omega
  · rw [hzero, Nat.sub_zero] at htarget
    rw [htarget] at hsaved hslot
    rw [hzero] at hother ⊢
    rw [hsaved, hother]
    cases hinfo : slotSnapshot v.disk p 0 with
    | none =>
        rw [newer_none_right]
        exact iff_of_true rfl nofun
    | some info =>
        have hver := (slotSnapshot_bounds hinfo).1
        have hne : some info ≠ some (savedMeta p e) := by
          intro heq
          have hsame := congrArg SnapshotMeta.slot (Option.some.inj heq)
          rw [slotSnapshot_slot hinfo, hslot] at hsame
          omega
        have hnewer : persistSnapshotIsNewer (some (savedMeta p e)) (some info) = true ↔
            (info.version = persistVersion → info.sequence < persistNextSequence p) := by
          rw [persistSnapshotIsNewer_some, hversion, hnext, hslot, slotSnapshot_slot hinfo]
          unfold persistVersion persistLegacyVersion at *
          omega
        simp only [Option.some.injEq, forall_eq', Nat.zero_ne_one, and_false, or_false]
        rw [← hnewer]
        unfold newer
        split
        · next hpos => exact iff_of_true rfl hpos
        · next hneg => exact iff_of_false hne hneg
  · rw [hone, Nat.sub_self] at htarget
    rw [htarget] at hsaved hslot
    rw [hone] at hother ⊢
    rw [hsaved, hother]
    cases hinfo : slotSnapshot v.disk p 1 with
    | none => exact iff_of_true rfl nofun
    | some info =>
        have hver := (slotSnapshot_bounds hinfo).1
        have hne : some info ≠ some (savedMeta p e) := by
          intro heq
          have hsame := congrArg SnapshotMeta.slot (Option.some.inj heq)
          rw [slotSnapshot_slot hinfo, hslot] at hsame
          omega
        have hnewer : persistSnapshotIsNewer (some info) (some (savedMeta p e)) = true ↔
            ¬ (info.version = persistVersion → info.sequence ≤ persistNextSequence p) := by
          rw [persistSnapshotIsNewer_some, hversion, hnext, hslot, slotSnapshot_slot hinfo]
          unfold persistVersion persistLegacyVersion at *
          omega
        simp only [Option.some.injEq, forall_eq', and_true, ← Nat.le_iff_lt_or_eq]
        rw [← not_iff_not, ← hnewer]
        unfold newer
        split
        · next hpos => exact iff_of_true hne hpos
        · next hneg => exact iff_of_false (not_not.mpr rfl) hneg

/-- A save that is cut short after `m` sectors leaves the kept slot alone. -/
theorem slotImage_writtenDisk_kept {m i : Nat} (hslots : p.slotsAvailable = 2)
    (hm : m ≤ persistSectors) (hi : i < persistBytes) :
    slotImage (writtenDisk v.disk (saveLba p) (persistFinishHeader e) 0 m)
      (persistSlotLba p (keptSlot p)) i = slotImage v.disk (persistSlotLba p (keptSlot p)) i := by
  obtain ⟨htarget, hkept⟩ := persistTargetSlot_two hslots
  refine slotImage_congr (n := persistSectors) (fun k hk => sector_writtenDisk ?_)
    (lt_of_lt_of_eq hi (by decide))
  unfold saveLba persistSlotLba
  rw [htarget]
  obtain hzero | hone : keptSlot p = 0 ∨ keptSlot p = 1 := by omega
  · rw [hzero]
    omega
  · rw [hone]
    omega

/-- The snapshot the last save or load recorded in the statics. -/
def lastSaved (p : Persist) : Option SnapshotMeta :=
  p.activeSlot.map fun slot =>
    { version := p.lastVersion
      entryCount := p.lastEntryCount
      payloadSize := p.lastPayloadSize
      checksum := p.lastChecksum
      sequence := p.sequence
      slot }

/-- The newest snapshot on the disk is the one the last save recorded, byte for
byte the one it built. -/
def SavedIsNewest (w : Vfs H) : Prop :=
  ∃ info, newestSnapshot w.disk w.persist = some info ∧ lastSaved w.persist = some info ∧
    ∀ i, i < persistHeaderSize + info.payloadSize →
      slotImage w.disk (persistSlotLba w.persist info.slot) i = w.persist.buf i

theorem savedIsNewest_savedState {sectors : Nat}
    (hslots : p.slotsAvailable = slotCount sectors) (htwo : slotCount sectors = 2)
    (hroom : (persistedInodes v).length ≤ maxFiles)
    (he : Encodes (persistedInodes v) (persistNextSequence p) e)
    (hread : Readable v.disk (saveLba p) (saveSectors e)) :
    SavedIsNewest (savedState v p e) ↔ KeptBehind v.disk p := by
  have hsaved := slotSnapshot_saved hslots hroom he hread
  obtain ⟨hsectors, hfit, hcovers⟩ := he.sectorCount
  have hlo := he.bounds.1
  have hstatics : newestSnapshot (savedState v p e).disk (savedState v p e).persist =
      newestSnapshot (savedState v p e).disk p :=
    newestSnapshot_congr rfl rfl (Or.inr (hslots.trans htwo))
  have hlast : lastSaved (savedState v p e).persist = some (savedMeta p e) := by
    simp only [lastSaved, savedState, savedMeta, Option.map_some]
  rw [← newestSnapshot_savedState (hslots.trans htwo) hsaved hfit]
  unfold SavedIsNewest
  rw [hstatics]
  constructor
  · rintro ⟨info, hnewest, hlast', -⟩
    rw [hnewest, ← hlast', hlast]
  · intro hnewest
    have hsize : (savedMeta p e).payloadSize = e.offset - persistHeaderSize := rfl
    have himage : ∀ i, i < persistHeaderSize + (savedMeta p e).payloadSize →
        slotImage (savedState v p e).disk (saveLba p) i = persistFinishHeader e (0 + i) := by
      intro i hi
      rw [hsize] at hi
      exact slotImage_writtenDisk (by omega)
    refine ⟨savedMeta p e, hnewest, hlast, fun i hi => ?_⟩
    have hbyte := himage i hi
    rw [Nat.zero_add] at hbyte
    exact hbyte

/-! ## A crash during a save -/

/-- The statics and the encoded snapshot with which a save starts to write. -/
def saveWrite (v : Vfs H) : Option (Persist × Encoder) :=
  if v.persist.loading ∨ ¬ v.disk.available then none
  else
    match persistOrizonDataPartitionPresent v.disk v.persist with
    | (false, _) => none
    | (true, p) =>
        let p := saveStatics v.disk p
        match persistAppendEntries (persistedInodes v)
            ⟨persistHeader (persistNextSequence p), persistHeaderSize, 0⟩ with
        | (false, _) => none
        | (true, e) => some (p, e)

/-- The disk after the first `k` sectors of a save. -/
def crashDisk (v : Vfs H) (p : Persist) (e : Encoder) (k : Nat) : Disk :=
  (persistStorageWrite v.disk (saveLba p) (persistFinishHeader e) 0 k).2

theorem saveWrite_eq_some {lba sectors : Nat}
    (hpart : findDataPartition v.disk = some (lba, sectors)) (h : saveWrite v = some (p, e)) :
    p = saveStatics v.disk (locate v.persist lba sectors) ∧
      Encodes (persistedInodes v) (persistNextSequence p) e := by
  unfold saveWrite at h
  split at h
  · cases h
  · rw [present_of_found hpart] at h
    dsimp only at h
    split at h
    · cases h
    · next hencode =>
        obtain ⟨rfl, rfl⟩ := Prod.mk.inj (Option.some.inj h)
        exact ⟨rfl, hencode⟩

/-- What a save that starts to write leaves on the disk is its last crash
point. -/
theorem disk_vfsPersistSave (h : saveWrite v = some (p, e)) :
    (vfsPersistSave v).2.disk = crashDisk v p e (saveSectors e) := by
  unfold saveWrite at h
  unfold vfsPersistSave crashDisk
  split at h
  · cases h
  · next hidle =>
      obtain ⟨hloading, havail⟩ := not_or.mp hidle
      rw [if_neg hloading, if_neg havail]
      rcases hpart : persistOrizonDataPartitionPresent v.disk v.persist with ⟨_ | _, q⟩ <;>
        rw [hpart] at h
      · cases h
      · dsimp only at h ⊢
        generalize hstatics : saveStatics v.disk q = q' at h
        unfold saveStatics at hstatics
        rw [hstatics]
        rcases hencode : persistAppendEntries (persistedInodes v)
            ⟨persistHeader (persistNextSequence q'), persistHeaderSize, 0⟩ with ⟨_ | _, e'⟩
        · rw [hencode] at h
          cases h
        · rw [hencode] at h
          obtain ⟨rfl, rfl⟩ := Prod.mk.inj (Option.some.inj h)
          dsimp only
          unfold saveSectors saveLba
          rcases persistStorageWrite v.disk (persistSlotLba q' (persistTargetSlot q'))
            (persistFinishHeader e') 0 _ with ⟨_ | _, d⟩ <;> rfl

theorem crashDisk_eq (v : Vfs H) (p : Persist) (e : Encoder) (k : Nat) :
    ∃ m, m ≤ k ∧ crashDisk v p e k = writtenDisk v.disk (saveLba p) (persistFinishHeader e) 0 m := by
  unfold crashDisk
  rcases persistStorageWrite_cases k v.disk (saveLba p) 0 (persistFinishHeader e) with
    ⟨-, hwrite⟩ | ⟨m, hm, hwrite⟩
  · exact ⟨k, le_rfl, by rw [hwrite]⟩
  · exact ⟨m, hm.le, by rw [hwrite]⟩

end Saved

/-! ## The calls -/

section Prepared

variable {d : Disk} {q : Persist} {info : SnapshotMeta}

/-- A save that finds persistence not ready takes the newest snapshot for the
active one. -/
theorem saveStatics_notReady (hready : ¬ q.ready = true)
    (hslots : q.slotsAvailable = 1 ∨ q.slotsAvailable = 2) :
    (newestSnapshot d q = none → (saveStatics d q).activeSlot = none) ∧
      ∀ info, newestSnapshot d q = some info →
        (saveStatics d q).activeSlot = some info.slot ∧
          (saveStatics d q).sequence = info.sequence := by
  have hnewest : newestSnapshot d { q with ready := true } = newestSnapshot d q :=
    newestSnapshot_congr rfl rfl hslots
  rw [← hnewest]
  unfold saveStatics persistPrepareMetadataForSave newestSnapshot
  rw [if_neg hready]
  rcases persistScanSlots d { q with ready := true } with ⟨_ | best, err, p⟩
  · exact ⟨fun _ => rfl, nofun⟩
  · refine ⟨nofun, fun info h => ?_⟩
    obtain rfl := Option.some.inj h
    exact ⟨rfl, rfl⟩

end Prepared

section Calls

variable [Allocator H] {v u : Vfs H} {c : PersistCall} {lba sectors : Nat}

/-- The save a call comes to is not behind what the other slot holds, by the
state before the call. -/
def SaveOrdered (v : Vfs H) (lba sectors : Nat) : PersistCall → Prop
  | .load => True
  | .save =>
      if v.persist.ready = true then KeptBehind v.disk (locate v.persist lba sectors)
      else ∀ info, newestSnapshot v.disk (locate v.persist lba sectors) = some info →
        info.version = persistVersion → info.sequence + 1 < 2 ^ 32
  | .enableInstalled => True
  | .repair => KeptBehind v.disk (locate v.persist lba sectors)
  | .restoreSlot slot => ∀ info,
      slotSnapshot v.disk (locate v.persist lba sectors) slot.toNat = some info →
        info.version = persistVersion → info.sequence + 1 < 2 ^ 32

/-- The slot of the snapshot that the state in memory comes from, by the state
before a call that saves: the newest snapshot's, the active slot, or the one
restored. -/
def currentSlot (v : Vfs H) (lba sectors : Nat) : PersistCall → Option Nat
  | .load => (newestSnapshot v.disk (locate v.persist lba sectors)).map SnapshotMeta.slot
  | .save =>
      if v.persist.ready = true then v.persist.activeSlot
      else (newestSnapshot v.disk (locate v.persist lba sectors)).map SnapshotMeta.slot
  | .enableInstalled => none
  | .repair => v.persist.activeSlot
  | .restoreSlot slot => some slot.toNat

/-- The save a call comes to finds the kept slot behind when `SaveOrdered` says
so. -/
theorem keptBehind_saveStatics_iff (hpart : findDataPartition v.disk = some (lba, sectors))
    (htwo : slotCount sectors = 2) (h : beforeSave v c = some (true, u)) :
    KeptBehind v.disk (saveStatics v.disk (locate u.persist lba sectors)) ↔
      SaveOrdered v lba sectors c := by
  have hnone : ∀ p : Persist, p.lba = lba → p.slotsAvailable = slotCount sectors →
      newestSnapshot v.disk (locate v.persist lba sectors) = none → KeptBehind v.disk p := by
    intro p hlba hslots hnewest info hinfo
    rw [slotSnapshot_congr (p := locate v.persist lba sectors) hlba hslots,
      slotSnapshot_of_newest_none (slotCount_cases sectors) hnewest] at hinfo
    cases hinfo
  cases c with
  | load =>
      obtain ⟨hready, ⟨hnewest, -⟩ | ⟨info, hnewest, hlegacy, hactive, hsequence⟩⟩ :=
        loadBeforeSave_cases hpart h
      · have hsame : saveStatics v.disk (locate u.persist lba sectors) =
            locate u.persist lba sectors := if_pos hready
        rw [hsame]
        exact iff_of_true (hnone _ rfl rfl hnewest) trivial
      · have hsame : saveStatics v.disk (locate u.persist lba sectors) =
            locate u.persist lba sectors := if_pos hready
        have hslot := slotSnapshot_of_newest (slotCount_cases sectors) hnewest
        rw [slotSnapshot_locate _ u.persist] at hslot
        rw [hsame, keptBehind_of_active htwo hslot hactive hsequence]
        refine iff_of_true (fun hversion => ?_) trivial
        rw [hlegacy] at hversion
        cases hversion
  | save =>
      obtain ⟨-, rfl⟩ := Prod.mk.inj (Option.some.inj h)
      dsimp only [SaveOrdered]
      by_cases hready : v.persist.ready = true
      · have hsame : saveStatics v.disk (locate v.persist lba sectors) =
            locate v.persist lba sectors := if_pos hready
        rw [if_pos hready, hsame]
      · obtain ⟨hlba, hslots⟩ := saveStatics_where v.disk (locate v.persist lba sectors)
        obtain ⟨-, hfound⟩ := saveStatics_notReady (d := v.disk)
          (q := locate v.persist lba sectors) hready (slotCount_cases sectors)
        rw [if_neg hready]
        cases hnewest : newestSnapshot v.disk (locate v.persist lba sectors) with
        | none => exact iff_of_true (hnone _ hlba hslots hnewest) nofun
        | some info =>
            obtain ⟨hactive, hsequence⟩ := hfound info hnewest
            have hslot := slotSnapshot_of_newest (slotCount_cases sectors) hnewest
            rw [keptBehind_of_active (hslots.trans htwo)
              ((slotSnapshot_congr hlba hslots).trans hslot) hactive hsequence]
            simp only [Option.some.injEq, forall_eq']
  | enableInstalled => cases (Prod.mk.inj (Option.some.inj h)).1
  | repair =>
      rw [repairBeforeSave_persist hpart h]
      exact keptBehind_congr rfl rfl rfl rfl
  | restoreSlot slot =>
      obtain ⟨hready, info, hslot, hactive, hsequence⟩ := restoreBeforeSave_cases hpart h
      have hsame : saveStatics v.disk (locate u.persist lba sectors) =
          locate u.persist lba sectors := if_pos hready
      have hown : slotSnapshot v.disk (locate u.persist lba sectors) info.slot = some info := by
        rw [slotSnapshot_slot hslot, slotSnapshot_locate _ v.persist]
        exact hslot
      rw [hsame, keptBehind_of_active htwo hown hactive hsequence]
      dsimp only [SaveOrdered]
      rw [hslot]
      simp only [Option.some.injEq, forall_eq']

theorem keptSlot_saveStatics (hpart : findDataPartition v.disk = some (lba, sectors))
    (h : beforeSave v c = some (true, u)) {slot : Nat}
    (hcurrent : currentSlot v lba sectors c = some slot) :
    keptSlot (saveStatics v.disk (locate u.persist lba sectors)) = slot % 2 := by
  have hkept : ∀ p : Persist, p.activeSlot = some slot → keptSlot p = slot % 2 := by
    intro p hactive
    unfold keptSlot
    rw [hactive]
  cases c with
  | load =>
      obtain ⟨info, hnewest, rfl⟩ := Option.map_eq_some_iff.mp hcurrent
      obtain ⟨hready, ⟨hnone, -⟩ | ⟨info', hnewest', -, hactive, -⟩⟩ :=
        loadBeforeSave_cases hpart h
      · rw [hnone] at hnewest
        cases hnewest
      · obtain rfl := Option.some.inj (hnewest'.symm.trans hnewest)
        have hsame : saveStatics v.disk (locate u.persist lba sectors) =
            locate u.persist lba sectors := if_pos hready
        rw [hsame]
        exact hkept _ hactive
  | save =>
      obtain ⟨-, rfl⟩ := Prod.mk.inj (Option.some.inj h)
      dsimp only [currentSlot] at hcurrent
      by_cases hready : v.persist.ready = true
      · rw [if_pos hready] at hcurrent
        have hsame : saveStatics v.disk (locate v.persist lba sectors) =
            locate v.persist lba sectors := if_pos hready
        rw [hsame]
        exact hkept _ hcurrent
      · rw [if_neg hready] at hcurrent
        obtain ⟨info, hnewest, rfl⟩ := Option.map_eq_some_iff.mp hcurrent
        obtain ⟨-, hfound⟩ := saveStatics_notReady (d := v.disk)
          (q := locate v.persist lba sectors) hready (slotCount_cases sectors)
        exact hkept _ (hfound info hnewest).1
  | enableInstalled => cases hcurrent
  | repair =>
      rw [repairBeforeSave_persist hpart h]
      exact hkept _ hcurrent
  | restoreSlot slot' =>
      obtain ⟨hready, info, hslot, hactive, -⟩ := restoreBeforeSave_cases hpart h
      obtain rfl := Option.some.inj hcurrent
      have hsame : saveStatics v.disk (locate u.persist lba sectors) =
          locate u.persist lba sectors := if_pos hready
      rw [hsame]
      refine hkept _ ?_
      rw [← slotSnapshot_slot hslot]
      exact hactive

/-- In every run of the entry points, whenever a call on a disk with two slots
makes a save that succeeds, that snapshot is the newest on the disk exactly when
`SaveOrdered` holds before the call. -/
theorem persistCall_savedIsNewest_iff {s w : Vfs H} {cs : List PersistCall}
    (hrun : Run (fun s c t => persistCall s c = some t) s cs v) (hroom : s.inodeCount ≤ maxFiles)
    (hpart : findDataPartition v.disk = some (lba, sectors))
    (htwo : persistSectors * persistSlotCount ≤ sectors)
    (hbefore : beforeSave v c = some (true, u)) (hok : (vfsPersistSave u).1 = .ok ())
    (hcall : persistCall v c = some w) : SavedIsNewest w ↔ SaveOrdered v lba sectors c := by
  have hslots : slotCount sectors = 2 := if_pos htwo
  have hsame := beforeSave_sameDisk hbefore
  have hcount : u.inodeCount ≤ maxFiles :=
    hsame.room (hrun.invariant hroom fun _ _ _ h hstep => persistCall_room hstep h)
  obtain rfl : (vfsPersistSave u).2 = w := by
    rw [persistCall_eq, hbefore] at hcall
    exact Option.some.inj hcall
  rw [← keptBehind_saveStatics_iff hpart hslots hbefore]
  rw [← hsame.disk] at hpart ⊢
  rcases vfsPersistSave_cases hpart with ⟨-, hsave⟩ | ⟨-, p, hp, ⟨e, -, hsave⟩ |
    ⟨e, he, ⟨hread, hsave⟩ | ⟨m, -, hsave⟩⟩⟩
  · rw [hsave] at hok
    cases hok
  · rw [hsave] at hok
    cases hok
  · rw [hsave, ← hp]
    have hwhere : p.slotsAvailable = slotCount sectors := by
      rw [hp]
      exact (saveStatics_where _ _).2
    exact savedIsNewest_savedState hwhere hslots
      (le_trans (length_persistedInodes_le u) hcount) he hread
  · rw [hsave] at hok
    cases hok

/-! ### Runs from a disk without snapshots -/

/-- A disk with a partition table and a data partition of two slots, nothing in
them. -/
def gptDisk : Disk where
  available := true
  accessible := fun _ => true
  writable := true
  sector := fun s =>
    if s = 1 then
      store (store (store (bytesMem ((cstr "EFI PART").map Subtype.val)) 8 72 2) 4 80 1) 4 84 128
    else if s = 2 then store (store (bytesMem orizonDataType) 8 32 34) 8 40 4129
    else fun _ => 0

/-- A boot over a disk. -/
def bootOver (d : Disk) : Vfs KernelHeap := vfsInit (bootVfs KernelHeap.boot d bootPersist)

/-- Two saves after boot: sequence 1 in slot 0, then sequence 2 in slot 1. -/
def savedTwice : Vfs KernelHeap := (vfsPersistSave (vfsPersistSave (bootOver gptDisk)).2).2

/-- `vfs_persist_enable_installed` after the next boot. -/
def enabledAgain : Vfs KernelHeap := (vfsPersistEnableInstalled (bootOver savedTwice.disk)).2

/-- The first save on an empty disk. -/
theorem persistCall_savedIsNewest_gptDisk :
    SavedIsNewest (vfsPersistSave (bootOver gptDisk)).2 ↔
      SaveOrdered (bootOver gptDisk) 34 4096 .save :=
  persistCall_savedIsNewest_iff (Run.nil (bootOver gptDisk)) (by decide) (by decide +kernel)
    (by decide) rfl (by decide +kernel) rfl

/-- After a reboot, `vfs_persist_enable_installed` and a save: sequence 1 goes to
slot 0, behind the sequence 2 of slot 1. -/
theorem persistCall_savedIsNewest_fails :
    ¬ ∀ (s v u w : Vfs KernelHeap) (cs : List PersistCall) (c : PersistCall) (lba sectors : Nat),
      Run (fun s c t => persistCall s c = some t) s cs v → s.inodeCount ≤ maxFiles →
      findDataPartition v.disk = some (lba, sectors) → persistSectors * persistSlotCount ≤ sectors →
      beforeSave v c = some (true, u) → (vfsPersistSave u).1 = .ok () →
      persistCall v c = some w → SavedIsNewest w := by
  intro h
  obtain ⟨info, hnewest, hlast, -⟩ := h (bootOver savedTwice.disk) enabledAgain enabledAgain _
    [.enableInstalled] .save 34 4096 (Run.cons rfl (Run.nil _)) (by decide +kernel)
    (by decide +kernel) (by decide) rfl (by decide +kernel) rfl
  have hshadowed : newestSnapshot (vfsPersistSave enabledAgain).2.disk
      (vfsPersistSave enabledAgain).2.persist ≠
        lastSaved (vfsPersistSave enabledAgain).2.persist := by
    decide +kernel
  exact hshadowed (hnewest.trans hlast.symm)

end Calls

end Orizon
