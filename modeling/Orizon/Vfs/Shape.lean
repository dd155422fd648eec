import Orizon.Vfs.KernelHeap
import Orizon.Vfs.Rename
import Orizon.Lib.Run

/-!
# Orizon.Vfs.Shape

When the inode table stays a tree.

`TreeShape` asks that every entry but the root has a directory as its parent
and that stored paths are distinct.  Deletion keeps it.  Creation keeps it
exactly when the parent is a directory and the path as stored is new, which
`create_inode` does not check; a rename keeps it exactly when no entry outside
the renamed subtree has one of the rewritten paths.  The runs of calls whose
every state has the shape are the runs whose every step meets that condition.
-/

namespace Orizon

variable {H : Type}

/-- The tree calls of the file system. -/
inductive TreeCall
  | create (path : CStr)
  | mkdir (path : CStr)
  | openFile (path : CStr) (flags : Nat)
  | delete (path : CStr)
  | rename (oldpath newpath : CStr)

/-- The state after a call, whatever it returned. -/
def treeCall [Allocator H] (v : Vfs H) : TreeCall → Vfs H
  | .create path => (vfsCreate v path).2
  | .mkdir path => (vfsMkdir v path).2
  | .openFile path flags => (vfsOpen v path flags).2
  | .delete path => (vfsDelete v path).2
  | .rename oldpath newpath => (vfsRename v oldpath newpath).2

/-- The statics at boot, over some heap, disk and persistence state. -/
def bootVfs (heap : H) (disk : Disk) (persist : Persist) : Vfs H where
  inodes := fun _ => Inode.zero
  inodeCount := 0
  openFiles := fun _ => File.zero
  vfsInitialized := false
  persist
  disk
  heap

/-- Every entry other than the root has an existing directory as its parent,
and no two entries have equal stored paths. -/
structure TreeShape (v : Vfs H) : Prop where
  parent : ∀ i, i < v.inodeCount → i ≠ 0 →
    ∃ j, (v.inodes i).parent = some j ∧ j < v.inodeCount ∧ (v.inodes j).type = .dir
  distinct : ∀ i j, i < v.inodeCount → j < v.inodeCount →
    (v.inodes i).path = (v.inodes j).path → i = j

/-- A creation whose new entry has a directory as its parent and a stored path
of its own. -/
def CreationFits (v : Vfs H) (path : CStr) : Prop :=
  (∃ j, findInode v (getParentPath path) = some j ∧ (v.inodes j).type = .dir) ∧
    ∀ i, i < v.inodeCount → (v.inodes i).path ≠ strCpy maxPath path

/-- The condition on a call and the state before it. -/
def TreeCallOk [Allocator H] (v : Vfs H) : TreeCall → Prop
  | .create path => Creatable v path → CreationFits v path
  | .mkdir path => Creatable v path → CreationFits v path
  | .openFile path flags => (findFreeFile v).isSome → hasFlag flags oCreat = true →
      Creatable v path → CreationFits v path
  | .delete _ => True
  | .rename oldpath newpath => ∀ idx parent, Renamable v oldpath newpath idx parent →
      RenameFits v idx oldpath newpath

/-! ## Tables with the same shape -/

/-- Equal counts, paths, types and parents. -/
structure SameShape (v w : Vfs H) : Prop where
  inodeCount : w.inodeCount = v.inodeCount
  path : ∀ i, (w.inodes i).path = (v.inodes i).path
  type : ∀ i, (w.inodes i).type = (v.inodes i).type
  parent : ∀ i, (w.inodes i).parent = (v.inodes i).parent

section SameShape

variable {v w : Vfs H}

theorem SameShape.treeShape_iff (h : SameShape v w) : TreeShape w ↔ TreeShape v := by
  constructor
  · rintro ⟨hparent, hdistinct⟩
    constructor
    · simpa only [h.inodeCount, h.type, h.parent] using hparent
    · simpa only [h.inodeCount, h.path] using hdistinct
  · rintro ⟨hparent, hdistinct⟩
    constructor
    · simpa only [h.inodeCount, h.type, h.parent] using hparent
    · simpa only [h.inodeCount, h.path] using hdistinct

theorem SameFiles.sameShape (h : SameFiles v w) : SameShape v w :=
  ⟨h.inodeCount, fun i => by rw [h.inodes], fun i => by rw [h.inodes], fun i => by rw [h.inodes]⟩

theorem sameShape_opened [Allocator H] (v : Vfs H) (fd idx flags : Nat) :
    SameShape v (opened v fd idx flags) := by
  obtain ⟨hcount, hentry⟩ := opened_shape v fd idx flags
  exact ⟨hcount, fun i => (hentry i).1, fun i => (hentry i).2.2.1, fun i => (hentry i).2.2.2⟩

end SameShape

/-! ## One call -/

section Calls

variable {v : Vfs H}

theorem treeShape_addInode_iff {path : CStr} {type : InodeType} (hpos : 0 < v.inodeCount)
    (hv : TreeShape v) : TreeShape (addInode v path type) ↔ CreationFits v path := by
  have hold : ∀ {i}, i < v.inodeCount → (addInode v path type).inodes i = v.inodes i :=
    inodes_addInode_of_lt
  have hnew := inodes_addInode_self v path type
  constructor
  · intro h
    constructor
    · obtain ⟨j, hj, hlt, hdir⟩ := h.parent v.inodeCount (Nat.lt_succ_self _) (by omega)
      rw [hnew] at hj
      obtain ⟨hfind, -⟩ := findInode_some hj
      rw [hold hfind] at hdir
      exact ⟨j, hj, hdir⟩
    · intro i hi heq
      have hdup := h.distinct i v.inodeCount (by simp; omega) (Nat.lt_succ_self _)
        (by rw [hold hi, hnew]; exact heq)
      omega
  · rintro ⟨⟨j, hj, hdir⟩, hfresh⟩
    obtain ⟨hjlt, -⟩ := findInode_some hj
    constructor
    · intro i hi hne
      rw [inodeCount_addInode] at hi
      by_cases hlast : i = v.inodeCount
      · subst hlast
        rw [hnew]
        exact ⟨j, hj, by simp; omega, by rw [hold hjlt]; exact hdir⟩
      · obtain ⟨k, hk, hklt, hkdir⟩ := hv.parent i (by omega) hne
        rw [hold (by omega)]
        exact ⟨k, hk, by simp; omega, by rw [hold hklt]; exact hkdir⟩
    · intro i k hi hk heq
      rw [inodeCount_addInode] at hi hk
      by_cases hilast : i = v.inodeCount <;> by_cases hklast : k = v.inodeCount
      · omega
      · subst hilast
        rw [hnew, hold (by omega)] at heq
        exact absurd heq.symm (hfresh k (by omega))
      · subst hklast
        rw [hnew, hold (by omega)] at heq
        exact absurd heq (hfresh i (by omega))
      · rw [hold (by omega), hold (by omega)] at heq
        exact hv.distinct i k (by omega) (by omega) heq

theorem treeShape_removeInode [Allocator H] {idx : Nat} (hidx : idx < v.inodeCount) (hroot : idx ≠ 0)
    (hempty : (v.inodes idx).type = .dir → findChildInode v idx = none) (hv : TreeShape v) :
    TreeShape (removeInode v idx) := by
  constructor
  · intro i hi hne
    rw [inodeCount_removeInode] at hi ⊢
    obtain ⟨hflt, hfne⟩ := movedFrom_lt idx hi
    have hf0 : movedFrom v idx i ≠ 0 := by
      unfold movedFrom
      split <;> omega
    obtain ⟨j, hj, hjlt, hjdir⟩ := hv.parent _ hflt hf0
    have hjne : j ≠ idx := by
      rintro rfl
      exact findChildInode_none (hempty hjdir) hflt hj
    have hto := movedTo_lt hidx hjlt hjne
    refine ⟨movedTo v idx j, ?_, hto, ?_⟩
    · rw [inodes_removeInode hidx hi, hj]
      rfl
    · rw [inodes_removeInode hidx hto, movedFrom_movedTo hjne]
      exact hjdir
  · intro i j hi hj heq
    rw [inodeCount_removeInode] at hi hj
    rw [inodes_removeInode hidx hi, inodes_removeInode hidx hj] at heq
    have hsame := hv.distinct _ _ (movedFrom_lt idx hi).1 (movedFrom_lt idx hj).1 heq
    rw [← movedTo_movedFrom idx hi, hsame, movedTo_movedFrom idx hj]

theorem treeShape_rename_iff {oldpath newpath : CStr} {idx parent : Nat}
    (hr : Renamable v oldpath newpath idx parent) (hv : TreeShape v) :
    TreeShape { v with inodes := renamedInodes v idx parent oldpath newpath } ↔
      RenameFits v idx oldpath newpath := by
  rw [← pathAfterRename_injective_iff hr hv.distinct]
  constructor
  · intro h i j hi hj heq
    exact h.distinct i j hi hj (by rw [renamedInodes_path, renamedInodes_path]; exact heq)
  · intro hfits
    constructor
    · intro i hi hne
      simp only [renamedInodes_type, renamedInodes_parent]
      by_cases hidx : i = idx
      · obtain ⟨hlt, -⟩ := findInode_some hr.parentFound
        exact ⟨parent, if_pos hidx, hlt, hr.parentDir⟩
      · simp only [if_neg hidx]
        exact hv.parent i hi hne
    · intro i j hi hj heq
      rw [renamedInodes_path, renamedInodes_path] at heq
      exact hfits i j hi hj heq

end Calls

section Runs

variable {v : Vfs H}

variable [Allocator H]

theorem vfsInitialized_opened (v : Vfs H) (fd idx flags : Nat) :
    (opened v fd idx flags).vfsInitialized = v.vfsInitialized := by
  unfold opened openInode
  split
  · rfl
  · dsimp only
    split <;> simp [truncateInode, Vfs.setInode]

theorem mounted_opened {fd idx flags : Nat} (h : Mounted v) : Mounted (opened v fd idx flags) := by
  refine ⟨?_, ?_⟩
  · rw [vfsInitialized_opened]
    exact h.1
  · rw [(opened_shape v fd idx flags).1]
    exact h.2

theorem mounted_treeCall (h : Mounted v) (c : TreeCall) : Mounted (treeCall v c) := by
  have hmake : ∀ path type, Mounted (vfsMake v path type).2 := by
    intro path type
    rcases vfsMake_cases h path type with ⟨-, -, hsame⟩ | ⟨-, e, he⟩
    · exact hsame.mounted (mounted_addInode h)
    · rw [he]
      exact h
  cases c with
  | create path => exact hmake path .file
  | mkdir path => exact hmake path .dir
  | openFile path flags =>
      dsimp only [treeCall]
      rcases vfsOpen_cases v path flags with ⟨heq, -⟩ | ⟨fd, -, ⟨idx, -, -, heq⟩ | ⟨-, -, heq⟩⟩
      · rw [heq, h.vfsInit]
        exact h
      · rw [heq, h.vfsInit]
        exact mounted_opened h
      · rw [heq, h.vfsInit]
        exact mounted_opened (mounted_addInode h)
  | delete path =>
      dsimp only [treeCall]
      rcases vfsDelete_cases v path with ⟨idx, hd⟩ | ⟨e, he⟩
      · rw [vfsDelete_ok hd]
        refine (persistIf_same _ _).mounted ⟨by simpa [removeInode] using h.1, ?_⟩
        have hlt := (findInode_some hd.source).1
        have hroot := hd.notRoot
        rw [inodeCount_removeInode]
        omega
      · rw [he]
        exact h
  | rename oldpath newpath =>
      dsimp only [treeCall]
      rcases vfsRename_cases v oldpath newpath with ⟨idx, parent, hr⟩ | ⟨e, he⟩
      · rw [vfsRename_ok hr]
        exact (persistIf_same _ _).mounted h
      · rw [he]
        exact h

/-- In a tree, a call leads to a tree exactly when it meets its condition. -/
theorem treeShape_treeCall_iff (h : Mounted v) (hv : TreeShape v) (c : TreeCall) :
    TreeShape (treeCall v c) ↔ TreeCallOk v c := by
  have hmake : ∀ path type, TreeShape (vfsMake v path type).2 ↔
      (Creatable v path → CreationFits v path) := by
    intro path type
    rcases vfsMake_cases h path type with ⟨hc, -, hsame⟩ | ⟨hc, e, he⟩
    · rw [hsame.sameShape.treeShape_iff, treeShape_addInode_iff h.2 hv]
      exact (imp_iff_right hc).symm
    · rw [he]
      exact iff_of_true hv fun hc' => absurd hc' hc
  cases c with
  | create path => exact hmake path .file
  | mkdir path => exact hmake path .dir
  | openFile path flags =>
      dsimp only [treeCall, TreeCallOk]
      rcases vfsOpen_cases v path flags with ⟨heq, hno⟩ | ⟨fd, hfd, ⟨idx, hidx, -, heq⟩ | ⟨hf, hc, heq⟩⟩
      · rw [h.vfsInit] at heq hno
        rw [heq]
        exact iff_of_true hv fun hfree hf hc => absurd hc (hno hfree hf)
      · rw [h.vfsInit] at hidx heq
        rw [heq, (sameShape_opened _ _ _ _).treeShape_iff]
        refine iff_of_true hv fun _ _ hc => ?_
        rw [hc.fresh] at hidx
        cases hidx
      · rw [h.vfsInit] at hfd hc heq
        rw [heq, (sameShape_opened _ _ _ _).treeShape_iff, treeShape_addInode_iff h.2 hv]
        exact ⟨fun hfits _ _ _ => hfits, fun hall => hall (by rw [hfd]; rfl) hf hc⟩
  | delete path =>
      refine iff_of_true ?_ trivial
      dsimp only [treeCall]
      rcases vfsDelete_cases v path with ⟨idx, hd⟩ | ⟨e, he⟩
      · rw [vfsDelete_ok hd, (persistIf_same _ _).sameShape.treeShape_iff]
        exact treeShape_removeInode (findInode_some hd.source).1 hd.notRoot hd.empty hv
      · rw [he]
        exact hv
  | rename oldpath newpath =>
      dsimp only [treeCall, TreeCallOk]
      rcases vfsRename_cases v oldpath newpath with ⟨idx, parent, hr⟩ | ⟨e, he⟩
      · rw [vfsRename_ok hr, (persistIf_same _ _).sameShape.treeShape_iff,
          treeShape_rename_iff hr hv]
        constructor
        · intro hfits idx' parent' hr'
          obtain rfl : idx = idx' := Option.some.inj (hr.source.symm.trans hr'.source)
          exact hfits
        · exact fun hall => hall idx parent hr
      · rw [he]
        refine iff_of_true hv fun idx parent hr => ?_
        rw [vfsRename_ok hr] at he
        cases (Prod.mk.inj he).1

/-- `vfs_init` makes the root. -/
theorem vfsInit_bootVfs_eq (heap : H) (disk : Disk) (persist : Persist) :
    vfsInit (bootVfs heap disk persist) =
      { addInode (bootVfs (Allocator.init heap) disk persist) [slash] .dir with
        vfsInitialized := true } := by
  have hc : Creatable (bootVfs (Allocator.init heap) disk persist) [slash] :=
    ⟨Nat.succ_pos _, rfl, Or.inl rfl⟩
  have hcreate := createInode_ok .dir hc
  have hboot : ¬ (bootVfs heap disk persist).vfsInitialized = true := Bool.false_ne_true
  unfold vfsInit
  rw [if_neg hboot]
  exact congrArg (fun r : Except Errno Nat × Vfs H => { r.2 with vfsInitialized := true }) hcreate

/-- `vfs_init` mounts a tree. -/
theorem vfsInit_bootVfs (heap : H) (disk : Disk) (persist : Persist) :
    Mounted (vfsInit (bootVfs heap disk persist)) ∧
      TreeShape (vfsInit (bootVfs heap disk persist)) := by
  rw [vfsInit_bootVfs_eq]
  refine ⟨⟨rfl, Nat.succ_pos _⟩, ⟨fun i hi hne => ?_, fun i j hi hj _ => ?_⟩⟩
  · exact absurd (Nat.lt_one_iff.mp hi) hne
  · rw [Nat.lt_one_iff.mp hi, Nat.lt_one_iff.mp hj]

/-- From `vfs_init`, whatever the heap, the disk and the persistence state:
every state of a run is a tree exactly when every creation in it has a
directory as parent and a stored path of its own, and every rename goes to a
free destination. -/
theorem vfs_run_treeShape_iff (heap : H) (disk : Disk) (persist : Persist) (calls : List TreeCall) :
    AllStates treeCall TreeShape (vfsInit (bootVfs heap disk persist)) calls ↔
      AllSteps treeCall TreeCallOk (vfsInit (bootVfs heap disk persist)) calls :=
  allStates_iff_allSteps (fun _ c _ h => mounted_treeCall h c)
    (fun _ c _ h hv => treeShape_treeCall_iff h hv c) (vfsInit_bootVfs heap disk persist).1
    (vfsInit_bootVfs heap disk persist).2

end Runs

/-! ## A run that leaves the tree -/

/-- No disk is selected. -/
def noDisk : Disk := ⟨false, fun _ => false, false, fun _ _ => 0⟩

/-- The persistence statics at boot; `persist_lba` is `ORIZON_PERSIST_LBA`. -/
def bootPersist : Persist := ⟨false, false, 1048576, 0, 0, 0, 0, 0, 0, 0, none, fun _ => 0⟩

/-- `vfs_create("/a")` and `vfs_create("/a/b")` after boot: the second file's
parent is the first file. -/
theorem vfs_run_treeShape_fails :
    ¬ ∀ calls, AllStates treeCall TreeShape
      (vfsInit (bootVfs KernelHeap.boot noDisk bootPersist)) calls := by
  intro h
  obtain ⟨-, -, hshape⟩ := h [.create (cstr "/a"), .create (cstr "/a/b")]
  have hrun : (treeCall (treeCall (vfsInit (bootVfs KernelHeap.boot noDisk bootPersist))
      (.create (cstr "/a"))) (.create (cstr "/a/b"))).inodeCount = 3 ∧
      ((treeCall (treeCall (vfsInit (bootVfs KernelHeap.boot noDisk bootPersist))
        (.create (cstr "/a"))) (.create (cstr "/a/b"))).inodes 2).parent = some 1 ∧
      ((treeCall (treeCall (vfsInit (bootVfs KernelHeap.boot noDisk bootPersist))
        (.create (cstr "/a"))) (.create (cstr "/a/b"))).inodes 1).type = .file := by
    decide +kernel
  obtain ⟨hcount, hparent, htype⟩ := hrun
  obtain ⟨j, hj, -, hdir⟩ := hshape.parent 2 (by rw [hcount]; decide) (by decide)
  rw [hparent] at hj
  obtain rfl := Option.some.inj hj
  rw [htype] at hdir
  cases hdir

end Orizon
