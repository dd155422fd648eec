import Orizon.Vfs.Handles

/-!
# Orizon.Vfs.Elsewhere

What a call on a path leaves alone: the entries at every other path, as a bag, since a deletion
moves the last entry of the table.

The equations need no invariant of the table.
-/

namespace Orizon

variable {H : Type} {u v w : Vfs H} {path : CStr} {fd idx i : Nat}

/-! ## Entries -/

/-- An entry as the calls show it. -/
def Inode.entry (node : Inode) : CStr × CStr × InodeType × List UInt8 :=
  (node.path.val, node.name.val, node.type, node.contents)

/-- The entries at other paths. -/
def entriesElsewhere (v : Vfs H) (path : CStr) : List (CStr × CStr × InodeType × List UInt8) :=
  ((List.range v.inodeCount).map fun i => (v.inodes i).entry).filter (·.1 ≠ path)

/-- Only entries at the path differ. -/
def SameElsewhere (path : CStr) (v w : Vfs H) : Prop := (entriesElsewhere w path).Perm (entriesElsewhere v path)

theorem SameElsewhere.refl (path : CStr) (v : Vfs H) : SameElsewhere path v v := List.Perm.refl _

theorem SameElsewhere.trans (h : SameElsewhere path u v) (h' : SameElsewhere path v w) : SameElsewhere path u w :=
  List.Perm.trans h' h

/-- The table of the same length with entries of the same kind, but for those at the path. -/
theorem sameElsewhere_of_entries (hcount : w.inodeCount = v.inodeCount)
    (hsame : ∀ i < v.inodeCount, (w.inodes i).entry = (v.inodes i).entry ∨
      (w.inodes i).path.val = path ∧ (v.inodes i).path.val = path) :
    SameElsewhere path v w := by
  have hlist : ∀ l : List Nat, (∀ i ∈ l, i < v.inodeCount) →
      (l.map fun i => (w.inodes i).entry).filter (·.1 ≠ path) =
        (l.map fun i => (v.inodes i).entry).filter (·.1 ≠ path) := by
    intro l
    induction l with
    | nil => simp
    | cons i l ih =>
        intro hl
        have hrest := ih fun j hj => hl j (by simp [hj])
        rw [List.map_cons, List.map_cons]
        obtain heq | ⟨hw, hv⟩ := hsame i (hl i (by simp))
        · rw [heq, List.filter_cons, List.filter_cons, hrest]
        · rw [List.filter_cons_of_neg (by simp [Inode.entry, hw]), List.filter_cons_of_neg (by simp [Inode.entry, hv]),
            hrest]
  rw [SameElsewhere, entriesElsewhere, entriesElsewhere, hcount, hlist _ fun i hi => List.mem_range.mp hi]

theorem SameFiles.sameElsewhere (h : SameFiles v w) : SameElsewhere path v w :=
  sameElsewhere_of_entries h.inodeCount fun i _ => .inl (by rw [h.inodes])

theorem sameElsewhere_addInode (hlen : path.length < maxPath) (type : InodeType) :
    SameElsewhere path v (addInode v path type) := by
  have hnew : (newInode v path type).entry.1 = path := by
    simp [Inode.entry, newInode, strCpy_of_lt hlen]
  have hold : (List.range v.inodeCount).map (fun i => ((addInode v path type).inodes i).entry) =
      (List.range v.inodeCount).map fun i => (v.inodes i).entry :=
    List.map_congr_left fun i hi => by rw [inodes_addInode_of_lt (List.mem_range.mp hi)]
  rw [SameElsewhere, entriesElsewhere, entriesElsewhere, inodeCount_addInode, List.range_succ, List.map_append, hold,
    List.map_singleton, inodes_addInode_self, List.filter_append, List.filter_cons_of_neg (by simp [hnew]),
    List.filter_nil, List.append_nil]

theorem range_perm_removed (h : idx < v.inodeCount) :
    (List.range v.inodeCount).Perm (idx :: (List.range (v.inodeCount - 1)).map (movedFrom v idx)) := by
  rw [List.perm_ext_iff_of_nodup List.nodup_range]
  · intro i
    simp only [List.mem_range, List.mem_cons, List.mem_map]
    constructor
    · intro hi
      by_cases hidx : i = idx
      · exact .inl hidx
      · exact .inr ⟨movedTo v idx i, movedTo_lt h hi hidx, movedFrom_movedTo hidx⟩
    · rintro (rfl | ⟨j, hj, rfl⟩)
      · exact h
      · exact (movedFrom_lt idx hj).1
  · refine List.nodup_cons.mpr ⟨?_, List.Nodup.map_on ?_ List.nodup_range⟩
    · rintro hmem
      obtain ⟨i, hi, heq⟩ := List.mem_map.mp hmem
      have hi := List.mem_range.mp hi
      unfold movedFrom at heq
      split at heq <;> omega
    · intro i hi j hj heq
      have hi := movedTo_movedFrom idx (List.mem_range.mp hi)
      rw [heq, movedTo_movedFrom idx (List.mem_range.mp hj)] at hi
      exact hi.symm

/-! ## Calls -/

variable [Allocator H]

theorem sameElsewhere_removeInode (h : idx < v.inodeCount) (hpath : (v.inodes idx).path.val = path) :
    SameElsewhere path v (removeInode v idx) := by
  have hmoved : (List.range (v.inodeCount - 1)).map (fun i => ((removeInode v idx).inodes i).entry) =
      ((List.range (v.inodeCount - 1)).map (movedFrom v idx)).map fun i => (v.inodes i).entry := by
    rw [List.map_map]
    refine List.map_congr_left fun i hi => ?_
    rw [inodes_removeInode h (List.mem_range.mp hi)]
    rfl
  have hperm := ((range_perm_removed h).map fun i => (v.inodes i).entry).filter (·.1 ≠ path)
  rw [List.map_cons, List.filter_cons_of_neg (by simp [Inode.entry, hpath])] at hperm
  rw [SameElsewhere, entriesElsewhere, entriesElsewhere, inodeCount_removeInode, hmoved]
  exact hperm.symm

theorem sameElsewhere_vfsMake (hlen : path.length < maxPath) (type : InodeType) :
    SameElsewhere path (vfsInit v) (vfsMake v path type).2 := by
  unfold vfsMake
  obtain hc | ⟨e, he⟩ := createInode_cases (vfsInit v) path type
  · rw [createInode_ok type hc]
    exact (sameElsewhere_addInode hlen type).trans (maybePersistPath_same _ path).sameElsewhere
  · rw [he]
    exact SameElsewhere.refl path _

theorem sameElsewhere_vfsDelete : SameElsewhere path v (vfsDelete v path).2 := by
  obtain ⟨idx, hd⟩ | ⟨e, he⟩ := vfsDelete_cases v path
  · obtain ⟨hidx, hpath⟩ := findInode_some hd.source
    rw [vfsDelete_ok hd]
    exact (sameElsewhere_removeInode hidx hpath).trans (persistIf_same _ _).sameElsewhere
  · rw [he]
    exact SameElsewhere.refl path v

/-- A handle on an entry at the path. -/
def HandleAt (v : Vfs H) (fd : Nat) (path : CStr) : Prop :=
  (v.openFiles fd).inode < v.inodeCount ∧ (v.inodes (v.openFiles fd).inode).path.val = path

theorem inodes_opened_of_ne {flags : Nat} (h : i ≠ idx) : (opened v fd idx flags).inodes i = v.inodes i := by
  unfold opened openInode
  split
  · rfl
  · dsimp only
    split
    · simp [truncateInode, Vfs.setInode, Function.update_of_ne h]
    · rfl

theorem sameElsewhere_opened (hidx : idx < v.inodeCount) (h : (v.inodes idx).path.val = path)
    (hfile : (v.inodes idx).type = .file) (flags : Nat) :
    SameElsewhere path v (opened v fd idx flags) ∧ HandleAt (opened v fd idx flags) fd path := by
  obtain ⟨hcount, hshape⟩ := opened_shape v fd idx flags
  have hpath : ((opened v fd idx flags).inodes idx).path.val = path := by rw [(hshape idx).1, h]
  refine ⟨sameElsewhere_of_entries hcount fun i _ => ?_, ?_⟩
  · by_cases hi : i = idx
    · rw [hi]
      exact .inr ⟨hpath, h⟩
    · exact .inl (by rw [inodes_opened_of_ne hi])
  · rw [HandleAt, (openFiles_opened fd flags hfile).2, hcount]
    exact ⟨hidx, hpath⟩

theorem sameElsewhere_vfsOpen (hlen : path.length < maxPath) (flags : Nat) :
    SameElsewhere path (vfsInit v) (vfsOpen v path flags).2 ∧
      ∀ fd, (vfsOpen v path flags).1 = some fd → HandleAt (vfsOpen v path flags).2 fd path := by
  obtain ⟨heq, -⟩ | ⟨fd, -, ⟨idx, hfind, hfile, heq⟩ | ⟨-, -, heq⟩⟩ := vfsOpen_cases v path flags
  · rw [heq]
    exact ⟨SameElsewhere.refl path _, fun fd h => nomatch h⟩
  · obtain ⟨hidx, hpath⟩ := findInode_some hfind
    obtain ⟨hsame, hhandle⟩ := sameElsewhere_opened hidx hpath hfile flags
    rw [heq]
    exact ⟨hsame, fun _ h => Option.some.inj h ▸ hhandle⟩
  · have hnew := inodes_addInode_self (vfsInit v) path .file
    obtain ⟨hsame, hhandle⟩ :=
        @sameElsewhere_opened _ (addInode (vfsInit v) path .file) path fd (vfsInit v).inodeCount _
      (by simp) (by rw [hnew]; exact strCpy_of_lt hlen) (by rw [hnew]; rfl) flags
    rw [heq]
    exact ⟨(sameElsewhere_addInode hlen .file).trans hsame, fun _ h => Option.some.inj h ▸ hhandle⟩

theorem sameElsewhere_vfsWrite (h : HandleAt v fd path) (buf : List UInt8) :
    SameElsewhere path v (vfsWrite v fd buf).2 ∧ HandleAt (vfsWrite v fd buf).2 fd path := by
  obtain ⟨e, heap, heq⟩ | ⟨-, heq⟩ | ⟨heap, data, size, capacity, heq, -⟩ := vfsWrite_cases v fd buf
  · rw [heq]
    exact ⟨sameElsewhere_of_entries rfl fun i _ => .inl rfl, h⟩
  · rw [heq]
    exact ⟨SameElsewhere.refl path v, h⟩
  · have hentry : ∀ i, (written v fd data size capacity i).path = (v.inodes i).path := by
      intro i
      unfold written
      by_cases hi : i = (v.openFiles fd).inode
      · rw [hi, Function.update_self]
      · rw [Function.update_of_ne hi]
    rw [heq]
    refine ⟨sameElsewhere_of_entries rfl fun i _ => ?_, ?_⟩
    · by_cases hi : i = (v.openFiles fd).inode
      · exact .inr ⟨by rw [hentry, hi, h.2], by rw [hi, h.2]⟩
      · exact .inl (by simp [written, Function.update_of_ne hi])
    · simp only [HandleAt, Function.update_self]
      exact ⟨h.1, by rw [hentry, h.2]⟩

omit [Allocator H] in
theorem sameElsewhere_vfsClose (fd : Nat) : SameElsewhere path v (vfsClose v fd) := by
  obtain hsame | heq := vfsClose_state v fd
  · have hclosed : SameElsewhere path v (v.closeFile fd) := sameElsewhere_of_entries rfl fun i _ => .inl rfl
    exact hclosed.trans hsame.sameElsewhere
  · rw [heq]
    exact SameElsewhere.refl path v

end Orizon
