import Orizon.Vfs.Frame
import Orizon.Vfs.Load

/-!
# Orizon.Vfs.Quiet

A restore does not touch the disk.

While `persist_loading` is set no call saves, so whatever a restore does to
the tree, the disk and the persistence statics stay as they are, and no
creation goes past the end of the table.
-/

namespace Orizon

variable {H : Type} {v w u : Vfs H}

/-- The disk and the persistence statics are the same, and the table still
fits. -/
structure Quiet (v w : Vfs H) : Prop where
  disk : w.disk = v.disk
  persist : w.persist = v.persist
  room : v.inodeCount ≤ maxFiles → w.inodeCount ≤ maxFiles

theorem Quiet.refl (v : Vfs H) : Quiet v v := ⟨rfl, rfl, id⟩

theorem Quiet.trans (h : Quiet v w) (h' : Quiet w u) : Quiet v u :=
  ⟨h'.disk.trans h.disk, h'.persist.trans h.persist, fun hv => h'.room (h.room hv)⟩

theorem maybePersistPath_loading (h : v.persist.loading = true) (path : CStr) :
    maybePersistPath v path = v := by
  unfold maybePersistPath
  rw [if_neg (by simp [h])]

theorem quiet_maybePersistInode (h : v.persist.loading = true) (idx : Nat) :
    Quiet v (maybePersistInode v idx) := by
  unfold maybePersistInode
  rw [maybePersistPath_loading h, ite_self]
  exact Quiet.refl v

theorem quiet_vfsClose (h : v.persist.loading = true) (fd : Nat) : Quiet v (vfsClose v fd) := by
  unfold vfsClose
  dsimp only
  split
  · split
    · refine Quiet.trans ?_ (quiet_maybePersistInode ?_ _)
      · exact ⟨rfl, rfl, id⟩
      · exact h
    · exact ⟨rfl, rfl, id⟩
  · exact Quiet.refl v

theorem quiet_foldl {α : Type} {f : Vfs H → α → Vfs H}
    (hf : ∀ v a, v.persist.loading = true → Quiet v (f v a)) (as : List α) :
    ∀ v, v.persist.loading = true → Quiet v (as.foldl f v) := by
  induction as with
  | nil => exact fun v _ => Quiet.refl v
  | cons a as ih =>
      intro v h
      have hfirst := hf v a h
      exact hfirst.trans (ih (f v a) (by rw [hfirst.persist, h]))

/-! ## Creating -/

theorem quiet_createInode (v : Vfs H) (path : CStr) (type : InodeType) :
    Quiet v (createInode v path type).2 := by
  rcases createInode_cases v path type with hc | ⟨e, he⟩
  · rw [createInode_ok type hc]
    exact ⟨rfl, rfl, fun _ => hc.room⟩
  · rw [he]
    exact Quiet.refl v

theorem quiet_ensureParentLoop (fuel : Nat) : ∀ (v : Vfs H) (cur p : CStr),
    Quiet v (ensureParentLoop v cur p fuel).2 := by
  induction fuel with
  | zero => exact fun v _ _ => Quiet.refl v
  | succ fuel ih =>
      intro v cur p
      unfold ensureParentLoop
      split
      · exact Quiet.refl v
      · dsimp only
        split
        · exact Quiet.refl v
        · split
          · exact Quiet.refl v
          · next cur' _ =>
              split
              · exact ih ..
              · have hcreate := quiet_createInode v cur' .dir
                split <;> next heq =>
                  rw [heq] at hcreate
                  first
                  | exact hcreate
                  | exact hcreate.trans (ih ..)

theorem quiet_ensureParentDirs (v : Vfs H) (path : CStr) : Quiet v (ensureParentDirs v path).2 := by
  unfold ensureParentDirs
  split
  · exact Quiet.refl v
  · split
    · exact Quiet.refl v
    · exact quiet_ensureParentLoop ..

section Calls

variable [Allocator H]

theorem quiet_vfsInit (v : Vfs H) : Quiet v (vfsInit v) := by
  unfold vfsInit
  split
  · exact Quiet.refl v
  · have hcreate := quiet_createInode { v with
      heap := Allocator.init v.heap
      inodes := fun _ => Inode.zero
      openFiles := fun _ => File.zero
      inodeCount := 0 } [slash] .dir
    exact ⟨hcreate.disk, hcreate.persist, fun _ => hcreate.room (Nat.zero_le _)⟩

/-! ## Files -/

theorem quiet_opened (v : Vfs H) (fd idx flags : Nat) : Quiet v (opened v fd idx flags) := by
  unfold opened openInode
  split
  · exact Quiet.refl v
  · dsimp only
    split
    · constructor <;> simp [truncateInode, Vfs.setInode]
    · exact ⟨rfl, rfl, id⟩

theorem quiet_vfsOpen (v : Vfs H) (path : CStr) (flags : Nat) :
    Quiet v (vfsOpen v path flags).2 := by
  have hinit := quiet_vfsInit v
  rcases vfsOpen_cases v path flags with ⟨hopen, -⟩ | ⟨fd, -, ⟨idx, -, -, hopen⟩ | ⟨-, hc, hopen⟩⟩
  · rw [hopen]
    exact hinit
  · rw [hopen]
    exact hinit.trans (quiet_opened ..)
  · rw [hopen]
    have hadd : Quiet (vfsInit v) (addInode (vfsInit v) path .file) := ⟨rfl, rfl, fun _ => hc.room⟩
    exact (hinit.trans hadd).trans (quiet_opened ..)

theorem quiet_growInode (v : Vfs H) (idx newSize : Nat) : Quiet v (growInode v idx newSize).2 := by
  unfold growInode
  dsimp only
  split
  · split
    · exact ⟨rfl, rfl, id⟩
    · constructor <;> simp [Vfs.setInode]
  · exact Quiet.refl v

theorem quiet_vfsWrite (v : Vfs H) (fd : Nat) (buf : List UInt8) : Quiet v (vfsWrite v fd buf).2 := by
  unfold vfsWrite
  dsimp only
  split
  · exact Quiet.refl v
  · split
    · exact Quiet.refl v
    · split
      · exact Quiet.refl v
      · have hgrow := quiet_growInode v (v.openFiles fd).inode
          (sizeAdd (v.openFiles fd).pos buf.length)
        split <;> next heq =>
          rw [heq] at hgrow
          exact ⟨hgrow.disk, hgrow.persist, hgrow.room⟩

/-! ## Calls that would save -/

theorem quiet_vfsMkdir (h : v.persist.loading = true) (path : CStr) :
    Quiet v (vfsMkdir v path).2 := by
  have hcreate := (quiet_vfsInit v).trans (quiet_createInode (vfsInit v) path .dir)
  unfold vfsMkdir vfsMake
  split <;> next heq =>
    rw [heq] at hcreate
    dsimp only
    first
    | exact hcreate
    | rw [maybePersistPath_loading (by rw [hcreate.persist, h])]
      exact hcreate

theorem quiet_vfsWrite_close (h : v.persist.loading = true) (fd : Nat) (buf : List UInt8) :
    Quiet v (vfsClose (vfsWrite v fd buf).2 fd) := by
  have hwrite := quiet_vfsWrite v fd buf
  exact hwrite.trans (quiet_vfsClose (by rw [hwrite.persist, h]) fd)

theorem quiet_vfsWriteDefaultFile (h : v.persist.loading = true) (path text : CStr) :
    Quiet v (vfsWriteDefaultFile v path text) := by
  unfold vfsWriteDefaultFile
  split
  · exact Quiet.refl v
  · have hopen := quiet_vfsOpen v path (oCreat ||| oWronly)
    split <;> next heq =>
      rw [heq] at hopen
      dsimp only at hopen ⊢
      first
      | exact hopen
      | exact hopen.trans (quiet_vfsWrite_close (by rw [hopen.persist, h]) _ _)

theorem quiet_persistWriteDefaultDataFiles (h : v.persist.loading = true) :
    Quiet v (persistWriteDefaultDataFiles v) := by
  unfold persistWriteDefaultDataFiles
  dsimp only
  have hroots : Quiet v (vfsEnsureDataRoots v) :=
    quiet_foldl (fun v path h => quiet_vfsMkdir h path) dataRoots v h
  have hlayout := hroots.trans (quiet_vfsWriteDefaultFile (by rw [hroots.persist, h])
    (cstr "/system/data-layout")
    (cstr "version 1\nroots /system /home /packages /logs /workspace\n"))
  have hfirmware := hlayout.trans
    (quiet_vfsMkdir (by rw [hlayout.persist, h]) (cstr "/system/firmware"))
  exact hfirmware.trans (quiet_foldl (fun v f h => quiet_vfsWriteDefaultFile h f.1 f.2)
    defaultFiles _ (by rw [hfirmware.persist, h]))

/-! ## Clearing -/

theorem quiet_removeInode (v : Vfs H) (idx : Nat) : Quiet v (removeInode v idx) :=
  ⟨by simp [removeInode], by simp [removeInode], fun h => by
    rw [inodeCount_removeInode]
    omega⟩

theorem quiet_delete (fuel : Nat) :
    (∀ (v w : Vfs H) idx, deleteInodeIndex fuel v idx = some w → Quiet v w) ∧
      ∀ (v w : Vfs H) idx, deleteChildren fuel v idx = some w → Quiet v w := by
  induction fuel with
  | zero =>
      constructor <;> intro v w idx h
      · rw [deleteInodeIndex] at h
        cases h
      · rw [deleteChildren] at h
        cases h
  | succ fuel ih =>
      constructor <;> intro v w idx h
      · rw [deleteInodeIndex] at h
        split at h
        · obtain rfl := Option.some.inj h
          exact Quiet.refl v
        · obtain ⟨u, hchildren, rfl⟩ := Option.map_eq_some_iff.mp h
          exact (ih.2 v u idx hchildren).trans (quiet_removeInode u idx)
      · rw [deleteChildren] at h
        split at h
        · obtain rfl := Option.some.inj h
          exact Quiet.refl v
        · split at h
          · cases h
          · next u hchild => exact (ih.1 v u _ hchild).trans (ih.2 u w idx h)

theorem quiet_clearLoop {path : CStr} (fuel : Nat) : ∀ (v : Vfs H) root,
    clearLoop path fuel v root = some w → Quiet v w := by
  induction fuel with
  | zero =>
      intro v root h
      rw [clearLoop] at h
      cases h
  | succ fuel ih =>
      intro v root h
      rw [clearLoop] at h
      split at h
      · obtain rfl := Option.some.inj h
        exact Quiet.refl v
      · split at h
        · cases h
        · next u hchild =>
            have hquiet := (quiet_delete fuel).1 v u _ hchild
            split at h
            · obtain rfl := Option.some.inj h
              exact hquiet
            · exact hquiet.trans (ih u _ h)

theorem quiet_clearRoots (h : clearRoots v = some w) : Quiet v w := by
  unfold clearRoots at h
  generalize persistentRoots = roots at h
  induction roots generalizing v with
  | nil =>
      obtain rfl := Option.some.inj h
      exact Quiet.refl v
  | cons root roots ih =>
      rw [List.foldlM_cons] at h
      obtain ⟨u, hclear, hrest⟩ := Option.bind_eq_some_iff.mp h
      have hquiet : Quiet v u := by
        unfold clearDirectoryContents at hclear
        split at hclear
        · obtain rfl := Option.some.inj hclear
          exact Quiet.refl v
        · exact quiet_clearLoop clearFuel v _ hclear
      exact hquiet.trans (ih hrest)

/-! ## Entries -/

theorem quiet_applyEntry (h : v.persist.loading = true) (type : Nat) (path : CStr)
    (data : List UInt8) : Quiet v (applyEntry v type path data).2 := by
  unfold applyEntry
  split
  · exact Quiet.refl v
  · have hparents := quiet_ensureParentDirs v path
    dsimp only
    split
    · dsimp only
      split
      · exact hparents
      · exact hparents.trans (quiet_createInode ..)
    · split
      · have hopen := hparents.trans
          (quiet_vfsOpen (ensureParentDirs v path).2 path (oCreat ||| oWronly ||| oTrunc))
        split <;> next heq =>
          rw [heq] at hopen
          dsimp only at hopen ⊢
          first
          | exact hopen
          | exact hopen.trans (quiet_vfsWrite_close (by rw [hopen.persist, h]) _ _)
      · exact hparents

theorem quiet_applyEntries (buf : Mem) (limit n : Nat) : ∀ (v : Vfs H) (offset : Nat),
    v.persist.loading = true → Quiet v (applyEntries buf limit v offset n).2 := by
  induction n with
  | zero => exact fun v _ _ => Quiet.refl v
  | succ n ih =>
      intro v offset h
      unfold applyEntries
      split
      · exact Quiet.refl v
      · dsimp only
        split
        · exact Quiet.refl v
        · have hentry := quiet_applyEntry h (buf offset).toNat
            (toCStr (bufBytes buf (offset + 7) (getU16 buf (offset + 1))))
            (bufBytes buf (offset + 7 + getU16 buf (offset + 1)) (getU32 buf (offset + 3)))
          exact hentry.trans (ih _ _ (by rw [hentry.persist, h]))

theorem quiet_persistApplySnapshotEntries {info : SnapshotMeta} {wellFormed : Bool}
    (h : v.persist.loading = true)
    (happly : persistApplySnapshotEntries v info = some (wellFormed, w)) : Quiet v w := by
  unfold persistApplySnapshotEntries at happly
  cases hclear : clearRoots v with
  | none =>
      rw [hclear] at happly
      cases happly
  | some u =>
      rw [hclear] at happly
      have hcleared := quiet_clearRoots hclear
      have hentries := hcleared.trans (quiet_applyEntries u.persist.buf
        (persistHeaderSize + info.payloadSize) info.entryCount u persistHeaderSize
        (by rw [hcleared.persist, h]))
      obtain ⟨-, rfl⟩ := Prod.mk.inj (Option.some.inj happly)
      exact hentries.trans (quiet_persistWriteDefaultDataFiles (by rw [hentries.persist, h]))

end Calls

end Orizon
