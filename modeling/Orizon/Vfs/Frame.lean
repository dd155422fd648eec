import Orizon.Vfs.Files

/-!
# Orizon.Vfs.Frame

What the calls leave alone, and what a successful one has checked.

A save changes the persistence statics and the disk only.  Each of the table
functions has one inversion lemma: the checks that passed and the table
after it; on an error nothing changed.
-/

namespace Orizon

variable {H : Type} {v w : Vfs H}

/-! ## Saving -/

/-- Two states with the same tables, handles and heap. -/
structure SameFiles (v w : Vfs H) : Prop where
  inodes : w.inodes = v.inodes
  inodeCount : w.inodeCount = v.inodeCount
  openFiles : w.openFiles = v.openFiles
  vfsInitialized : w.vfsInitialized = v.vfsInitialized
  heap : w.heap = v.heap

theorem SameFiles.refl (v : Vfs H) : SameFiles v v := ⟨rfl, rfl, rfl, rfl, rfl⟩

theorem SameFiles.findInode (h : SameFiles v w) (path : CStr) :
    findInode w path = findInode v path := by
  unfold Orizon.findInode
  rw [h.inodes, h.inodeCount]

theorem vfsPersistSave_same (v : Vfs H) : SameFiles v (vfsPersistSave v).2 := by
  unfold vfsPersistSave
  split
  · exact SameFiles.refl v
  · split
    · exact SameFiles.refl v
    · split
      · exact ⟨rfl, rfl, rfl, rfl, rfl⟩
      · dsimp only
        split
        · exact ⟨rfl, rfl, rfl, rfl, rfl⟩
        · split <;> exact ⟨rfl, rfl, rfl, rfl, rfl⟩

theorem maybePersistPath_same (v : Vfs H) (path : CStr) : SameFiles v (maybePersistPath v path) := by
  unfold maybePersistPath
  split
  · exact vfsPersistSave_same v
  · exact SameFiles.refl v

theorem maybePersistInode_same (v : Vfs H) (idx : Nat) : SameFiles v (maybePersistInode v idx) := by
  unfold maybePersistInode
  split
  · exact maybePersistPath_same v _
  · exact SameFiles.refl v

theorem persistIf_same (cond : Bool) (v : Vfs H) : SameFiles v (persistIf cond v) := by
  unfold persistIf
  split
  · exact vfsPersistSave_same v
  · exact SameFiles.refl v

/-! ## Creating -/

/-- The entry `create_inode` makes. -/
def newInode (v : Vfs H) (path : CStr) (type : InodeType) : Inode :=
  { name := getFilename path
    path := strCpy maxPath path
    type
    data := none
    size := 0
    capacity := 0
    parent := findInode v (getParentPath path) }

/-- The state after `create_inode` passed its checks. -/
def addInode (v : Vfs H) (path : CStr) (type : InodeType) : Vfs H :=
  { v.setInode v.inodeCount (newInode v path type) with inodeCount := v.inodeCount + 1 }

/-- What `create_inode` checks. -/
structure Creatable (v : Vfs H) (path : CStr) : Prop where
  room : v.inodeCount < maxFiles
  fresh : findInode v path = none
  parent : path = [slash] ∨ ∃ j, findInode v (getParentPath path) = some j

theorem createInode_ok {path : CStr} (type : InodeType) (h : Creatable v path) :
    createInode v path type = (.ok v.inodeCount, addInode v path type) := by
  have hroom := h.room
  unfold createInode
  rw [if_neg (by omega), if_neg (by simp [h.fresh]), if_neg ?_]
  · rfl
  · rintro ⟨hne, hnone⟩
    rcases h.parent with heq | ⟨j, hj⟩
    · exact hne heq
    · rw [hj] at hnone
      cases hnone

/-- `create_inode` either passes its checks or changes nothing. -/
theorem createInode_cases (v : Vfs H) (path : CStr) (type : InodeType) :
    Creatable v path ∨ ∃ e, createInode v path type = (.error e, v) := by
  unfold createInode
  by_cases hroom : v.inodeCount ≥ maxFiles
  · exact Or.inr ⟨.enospc, if_pos hroom⟩
  by_cases hfresh : (findInode v path).isSome
  · exact Or.inr ⟨.eexist, by rw [if_neg hroom, if_pos hfresh]⟩
  by_cases hparent : path ≠ [slash] ∧ findInode v (getParentPath path) = none
  · exact Or.inr ⟨.enoent, by rw [if_neg hroom, if_neg hfresh]; exact if_pos hparent⟩
  · refine Or.inl ⟨by omega, by simpa using hfresh, ?_⟩
    by_cases hroot : path = [slash]
    · exact Or.inl hroot
    · refine Or.inr (Option.ne_none_iff_exists'.mp fun hnone => hparent ⟨hroot, hnone⟩)

@[simp] theorem inodeCount_addInode (v : Vfs H) (path : CStr) (type : InodeType) :
    (addInode v path type).inodeCount = v.inodeCount + 1 := rfl

theorem inodes_addInode_self (v : Vfs H) (path : CStr) (type : InodeType) :
    (addInode v path type).inodes v.inodeCount = newInode v path type :=
  Function.update_self ..

theorem inodes_addInode_of_lt {path : CStr} {type : InodeType} {i : Nat} (h : i < v.inodeCount) :
    (addInode v path type).inodes i = v.inodes i :=
  Function.update_of_ne (Nat.ne_of_lt h) ..

/-! ## Mounting -/

/-- The file system is initialised and has its root. -/
def Mounted (v : Vfs H) : Prop := v.vfsInitialized = true ∧ 0 < v.inodeCount

theorem SameFiles.mounted {w : Vfs H} (h : SameFiles v w) (hv : Mounted v) : Mounted w := by
  unfold Mounted at *
  rwa [h.vfsInitialized, h.inodeCount]

theorem mounted_addInode {path : CStr} {type : InodeType} (h : Mounted v) :
    Mounted (addInode v path type) := ⟨h.1, Nat.succ_pos _⟩

theorem Mounted.vfsInit [Allocator H] (h : Mounted v) : vfsInit v = v := if_pos h.1

/-- `vfs_create` and `vfs_mkdir` either pass the checks of `create_inode` or
change nothing. -/
theorem vfsMake_cases [Allocator H] (h : Mounted v) (path : CStr) (type : InodeType) :
    (Creatable v path ∧ (vfsMake v path type).1 = .ok v.inodeCount ∧
      SameFiles (addInode v path type) (vfsMake v path type).2) ∨
    (¬ Creatable v path ∧ ∃ e, vfsMake v path type = (.error e, v)) := by
  unfold vfsMake
  rw [h.vfsInit]
  by_cases hc : Creatable v path
  · rw [createInode_ok type hc]
    exact Or.inl ⟨hc, rfl, maybePersistPath_same _ path⟩
  · rcases createInode_cases v path type with hc' | ⟨e, he⟩
    · exact absurd hc' hc
    · rw [he]
      exact Or.inr ⟨hc, e, rfl⟩

/-! ## Renaming -/

/-- What `vfs_rename` checks before it writes. -/
structure Renamable (v : Vfs H) (oldpath newpath : CStr) (idx parent : Nat) : Prop where
  source : findInode v oldpath = some idx
  notRoot : idx ≠ 0
  fresh : findInode v newpath = none
  parentFound : findInode v (getParentPath newpath) = some parent
  parentDir : (v.inodes parent).type = .dir
  outside : ¬ ((v.inodes idx).type = .dir ∧ pathIsInside newpath oldpath = true)
  fits : (v.inodes idx).type = .dir → ∀ i, renamesWith v idx oldpath i = true →
    cInt newpath.length + ((v.inodes i).path.val.drop oldpath.length).length < maxPath

theorem vfsRename_ok {oldpath newpath : CStr} {idx parent : Nat}
    (h : Renamable v oldpath newpath idx parent) :
    vfsRename v oldpath newpath = (.ok (),
      persistIf (pathShouldPersist oldpath || pathShouldPersist newpath)
        { v with inodes := renamedInodes v idx parent oldpath newpath }) := by
  unfold vfsRename
  rw [h.source]
  dsimp only
  rw [if_neg h.notRoot, if_neg (by simp [h.fresh]), h.parentFound]
  dsimp only
  rw [if_neg (by simp [h.parentDir]), if_neg h.outside, if_neg ?_]
  rintro ⟨hdir, hany⟩
  obtain ⟨i, -, hi⟩ := List.any_eq_true.mp hany
  simp only [Bool.and_eq_true, decide_eq_true_eq] at hi
  have hfit := h.fits hdir i hi.1
  omega

/-- `vfs_rename` either passes its checks or changes nothing. -/
theorem vfsRename_cases (v : Vfs H) (oldpath newpath : CStr) :
    (∃ idx parent, Renamable v oldpath newpath idx parent) ∨
      ∃ e, vfsRename v oldpath newpath = (.error e, v) := by
  unfold vfsRename
  cases hsource : findInode v oldpath with
  | none => exact Or.inr ⟨_, rfl⟩
  | some idx =>
      dsimp only
      by_cases hroot : idx = 0
      · exact Or.inr ⟨_, if_pos hroot⟩
      by_cases hfresh : (findInode v newpath).isSome
      · exact Or.inr ⟨_, by rw [if_neg hroot, if_pos hfresh]⟩
      rw [if_neg hroot, if_neg hfresh]
      cases hparent : findInode v (getParentPath newpath) with
      | none => exact Or.inr ⟨_, rfl⟩
      | some parent =>
          dsimp only
          by_cases hdir : (v.inodes parent).type ≠ .dir
          · exact Or.inr ⟨_, if_pos hdir⟩
          by_cases hout : (v.inodes idx).type = .dir ∧ pathIsInside newpath oldpath = true
          · exact Or.inr ⟨_, by rw [if_neg hdir, if_pos hout]⟩
          rw [if_neg hdir, if_neg hout]
          split
          · exact Or.inr ⟨_, rfl⟩
          · next hfits =>
              refine Or.inl ⟨idx, parent, hsource, hroot, by simpa using hfresh, hparent,
                not_not.mp hdir, hout, fun htype i hi => ?_⟩
              by_contra hlong
              refine hfits ⟨htype, List.any_eq_true.mpr ⟨i, ?_, ?_⟩⟩
              · simp only [renamesWith, Bool.and_eq_true, decide_eq_true_eq] at hi
                exact List.mem_range.mpr hi.1.1
              · simp only [Bool.and_eq_true, decide_eq_true_eq]
                exact ⟨hi, by omega⟩

/-! ## Opening -/

section Open

variable [Allocator H]

/-- The state after `vfs_open` succeeded on entry `idx`. -/
def opened (v : Vfs H) (fd idx flags : Nat) : Vfs H := (openInode v fd idx flags).2

/-- `vfs_open` opens a file that is there, or one it creates, or fails and
changes nothing but the initialisation. -/
theorem vfsOpen_cases (v : Vfs H) (path : CStr) (flags : Nat) :
    (vfsOpen v path flags = (none, vfsInit v) ∧
      ((findFreeFile (vfsInit v)).isSome → hasFlag flags oCreat = true →
        ¬ Creatable (vfsInit v) path)) ∨
    ∃ fd, findFreeFile (vfsInit v) = some fd ∧
      ((∃ idx, findInode (vfsInit v) path = some idx ∧ ((vfsInit v).inodes idx).type = .file ∧
          vfsOpen v path flags = (some fd, opened (vfsInit v) fd idx flags)) ∨
        (hasFlag flags oCreat = true ∧ Creatable (vfsInit v) path ∧
          vfsOpen v path flags = (some fd,
            opened (addInode (vfsInit v) path .file) fd (vfsInit v).inodeCount flags))) := by
  generalize hu : vfsInit v = u
  unfold vfsOpen
  rw [hu]
  dsimp only
  cases hfd : findFreeFile u with
  | none => exact Or.inl ⟨rfl, fun hsome => by cases hsome⟩
  | some fd =>
      dsimp only
      cases hidx : findInode u path with
      | some idx =>
          dsimp only
          by_cases hdir : (u.inodes idx).type = .dir
          · refine Or.inl ⟨by rw [openInode, if_pos hdir], fun _ _ hc => ?_⟩
            have hfresh := hc.fresh
            rw [hidx] at hfresh
            cases hfresh
          · have hfile : (u.inodes idx).type = .file := by
              cases htype : (u.inodes idx).type with
              | file => rfl
              | dir => exact absurd htype hdir
            refine Or.inr ⟨fd, rfl, Or.inl ⟨idx, rfl, hfile, ?_⟩⟩
            rw [opened, openInode, if_neg hdir]
      | none =>
          dsimp only
          by_cases hcreat : hasFlag flags oCreat = true
          · rw [if_pos hcreat]
            rcases createInode_cases u path .file with hc | ⟨e, he⟩
            · rw [createInode_ok .file hc]
              dsimp only
              refine Or.inr ⟨fd, rfl, Or.inr ⟨hcreat, hc, ?_⟩⟩
              have hdir : ¬ ((addInode u path .file).inodes u.inodeCount).type = .dir := by
                rw [inodes_addInode_self]
                simp [newInode]
              rw [opened, openInode, if_neg hdir]
            · refine Or.inl ⟨by rw [he], fun _ _ hc => ?_⟩
              rw [createInode_ok .file hc] at he
              cases (Prod.mk.inj he).1
          · rw [if_neg hcreat]
            exact Or.inl ⟨rfl, fun _ hf => absurd hf hcreat⟩

theorem opened_shape (v : Vfs H) (fd idx flags : Nat) :
    (opened v fd idx flags).inodeCount = v.inodeCount ∧ ∀ i,
      ((opened v fd idx flags).inodes i).path = (v.inodes i).path ∧
      ((opened v fd idx flags).inodes i).name = (v.inodes i).name ∧
      ((opened v fd idx flags).inodes i).type = (v.inodes i).type ∧
      ((opened v fd idx flags).inodes i).parent = (v.inodes i).parent := by
  unfold opened openInode
  split
  · exact ⟨rfl, fun i => ⟨rfl, rfl, rfl, rfl⟩⟩
  · dsimp only
    split
    · refine ⟨by simp [truncateInode, Vfs.setInode], fun i => ?_⟩
      by_cases hi : i = idx
      · subst hi
        simp [truncateInode, Vfs.setInode]
      · simp [truncateInode, Vfs.setInode, Function.update_of_ne hi]
    · exact ⟨rfl, fun i => ⟨rfl, rfl, rfl, rfl⟩⟩

end Open

/-! ## Deleting -/

/-- The old index of the entry at `i` after entry `idx` was removed. -/
def movedFrom (v : Vfs H) (idx i : Nat) : Nat := if i = idx then v.inodeCount - 1 else i

/-- The new index of the entry that was at `j`, when entry `idx` was removed. -/
def movedTo (v : Vfs H) (idx j : Nat) : Nat := if j = v.inodeCount - 1 then idx else j

theorem movedTo_lt {idx j : Nat} (hidx : idx < v.inodeCount) (hj : j < v.inodeCount) (hne : j ≠ idx) :
    movedTo v idx j < v.inodeCount - 1 := by
  unfold movedTo
  split <;> omega

theorem movedFrom_lt (idx : Nat) {i : Nat} (hi : i < v.inodeCount - 1) :
    movedFrom v idx i < v.inodeCount ∧ movedFrom v idx i ≠ idx := by
  unfold movedFrom
  split <;> omega

theorem movedFrom_movedTo {idx j : Nat} (hne : j ≠ idx) : movedFrom v idx (movedTo v idx j) = j := by
  unfold movedFrom movedTo
  split <;> simp_all

theorem movedTo_movedFrom (idx : Nat) {i : Nat} (hi : i < v.inodeCount - 1) :
    movedTo v idx (movedFrom v idx i) = i := by
  unfold movedFrom movedTo
  split
  · simp_all
  · rw [if_neg (by omega)]

theorem findChildInode_none {parent i : Nat} (h : findChildInode v parent = none)
    (hi : i < v.inodeCount) : (v.inodes i).parent ≠ some parent := by
  unfold findChildInode at h
  have hall := List.find?_eq_none.mp h i (List.mem_range.mpr hi)
  simpa using hall

theorem findChildInode_some {parent i : Nat} (h : findChildInode v parent = some i) :
    i < v.inodeCount ∧ (v.inodes i).parent = some parent := by
  unfold findChildInode at h
  have hmem := List.mem_of_find?_eq_some h
  have hpar := List.find?_some h
  exact ⟨List.mem_range.mp hmem, by simpa using hpar⟩

section Delete

variable [Allocator H]

/-- What `vfs_delete` checks. -/
structure Deletable (v : Vfs H) (path : CStr) (idx : Nat) : Prop where
  source : findInode v path = some idx
  notRoot : idx ≠ 0
  empty : (v.inodes idx).type = .dir → findChildInode v idx = none

theorem vfsDelete_ok {path : CStr} {idx : Nat} (h : Deletable v path idx) :
    vfsDelete v path = (.ok (), persistIf (pathShouldPersist path) (removeInode v idx)) := by
  unfold vfsDelete
  rw [h.source]
  dsimp only
  rw [if_neg h.notRoot, if_neg ?_]
  rintro ⟨hdir, hchild⟩
  rw [h.empty hdir] at hchild
  cases hchild

/-- `vfs_delete` either passes its checks or changes nothing. -/
theorem vfsDelete_cases (v : Vfs H) (path : CStr) :
    (∃ idx, Deletable v path idx) ∨ ∃ e, vfsDelete v path = (.error e, v) := by
  unfold vfsDelete
  cases hsource : findInode v path with
  | none => exact Or.inr ⟨_, rfl⟩
  | some idx =>
      dsimp only
      by_cases hroot : idx = 0
      · exact Or.inr ⟨_, if_pos hroot⟩
      by_cases hempty : (v.inodes idx).type = .dir ∧ (findChildInode v idx).isSome
      · exact Or.inr ⟨_, by rw [if_neg hroot, if_pos hempty]⟩
      · refine Or.inl ⟨idx, hsource, hroot, fun hdir => ?_⟩
        by_contra hchild
        exact hempty ⟨hdir, Option.isSome_iff_ne_none.mpr hchild⟩

@[simp] theorem inodeCount_removeInode (v : Vfs H) (idx : Nat) :
    (removeInode v idx).inodeCount = v.inodeCount - 1 := by
  simp [removeInode]

/-- The table after a removal: the last entry fills the hole, and parents that
were the last entry follow it. -/
theorem inodes_removeInode {idx i : Nat} (hidx : idx < v.inodeCount) (hi : i < v.inodeCount - 1) :
    (removeInode v idx).inodes i = { v.inodes (movedFrom v idx i) with
      parent := (v.inodes (movedFrom v idx i)).parent.map (movedTo v idx) } := by
  have hmap : ∀ p : Option Nat, p.map (movedTo v idx) =
      if p = some (v.inodeCount - 1) then some idx else p := by
    intro p
    cases p with
    | none => rfl
    | some j =>
        by_cases hj : j = v.inodeCount - 1 <;> simp [movedTo, hj]
  rw [hmap]
  unfold removeInode movedFrom
  simp only [inodeCount_freeData, inodes_freeData]
  by_cases hlast : idx < v.inodeCount - 1
  · rw [if_pos hlast]
    unfold moveLastInode
    simp only [inodeCount_freeData, inodes_freeData, hi, true_and, Function.update_apply]
    split <;> split <;> simp_all
  · rw [if_neg hlast, if_neg (show i ≠ idx by omega)]
    have hidx' : idx = v.inodeCount - 1 := by omega
    split
    · next hp => rw [hidx', ← hp]
    · rfl

end Delete

end Orizon
