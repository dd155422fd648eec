import Orizon.Vfs.Elsewhere
import Orizon.Vfs.ReadBack

/-!
# Orizon.Vfs.FileAt

What the calls leave of the file at another path.

A directory that is made changes no file at all.  The other calls change the entry of their path,
so they are seen at that path alone.
-/

namespace Orizon

variable {H : Type} {v w : Vfs H} {path q : CStr} {fd idx count flags : Nat} {bytes : List UInt8}

/-! ## Tables -/

theorem fileAt_of_entry_ne (hcount : w.inodeCount = v.inodeCount) (hother : ∀ i, i ≠ idx → w.inodes i = v.inodes i)
    (hpath : (w.inodes idx).path = (v.inodes idx).path) (hne : (v.inodes idx).path.val ≠ q) :
    fileAt w q = fileAt v q := by
  have hpaths : ∀ i, i < v.inodeCount → (w.inodes i).path = (v.inodes i).path := by
    intro i _
    by_cases hi : i = idx
    · rw [hi, hpath]
    · rw [hother i hi]
  unfold fileAt
  rw [findInode_congr hcount hpaths]
  cases hj : findInode v q with
  | none => rfl
  | some j =>
      have hji : j ≠ idx := fun h => hne (h ▸ (findInode_some hj).2)
      dsimp only
      rw [hother j hji]

/-- A new entry is found at its path only, and there behind the others. -/
theorem findInode_addInode (v : Vfs H) (path q : CStr) (type : InodeType) :
    findInode (addInode v path type) q =
      (findInode v q).or (if (newInode v path type).path.val = q then some v.inodeCount else none) := by
  have hold : (List.range v.inodeCount).find? (fun i => ((addInode v path type).inodes i).path.val = q) =
      findInode v q :=
    List.find?_congr fun i hi => by rw [inodes_addInode_of_lt (List.mem_range.mp hi)]
  rw [findInode, inodeCount_addInode, List.range_succ, List.find?_append, hold, List.find?_singleton,
    inodes_addInode_self]
  by_cases hq : (newInode v path type).path.val = q <;> simp [hq]

theorem fileAt_addInode_of_find (hfind : (findInode v q).isSome) (type : InodeType) :
    fileAt (addInode v path type) q = fileAt v q := by
  obtain ⟨j, hj⟩ := Option.isSome_iff_exists.mp hfind
  rw [fileAt, fileAt, findInode_addInode, hj]
  dsimp only [Option.some_or]
  rw [inodes_addInode_of_lt (findInode_some hj).1]

theorem fileAt_addInode_ne (hlen : path.length < maxPath) (hne : path ≠ q) (type : InodeType) :
    fileAt (addInode v path type) q = fileAt v q := by
  by_cases hfind : (findInode v q).isSome
  · exact fileAt_addInode_of_find hfind type
  · have hnone : findInode v q = none := by simpa using hfind
    have hpath : (newInode v path type).path.val = path := strCpy_of_lt hlen
    rw [fileAt, fileAt, findInode_addInode, hnone, hpath, if_neg hne]
    rfl

theorem fileAt_addInode_dir (v : Vfs H) (path q : CStr) : fileAt (addInode v path .dir) q = fileAt v q := by
  by_cases hfind : (findInode v q).isSome
  · exact fileAt_addInode_of_find hfind .dir
  · have hnone : findInode v q = none := by simpa using hfind
    rw [fileAt, fileAt, findInode_addInode, hnone, Option.none_or]
    by_cases hq : (newInode v path .dir).path.val = q
    · rw [if_pos hq]
      dsimp only
      rw [inodes_addInode_self]
      rfl
    · rw [if_neg hq]

/-! ## Calls -/

variable [Allocator H]

theorem fileAt_vfsMkdir (v : Vfs H) (path q : CStr) : fileAt (vfsMkdir v path).2 q = fileAt (vfsInit v) q := by
  unfold vfsMkdir vfsMake
  obtain hc | ⟨e, he⟩ := createInode_cases (vfsInit v) path .dir
  · rw [createInode_ok .dir hc]
    dsimp only
    rw [(maybePersistPath_same _ path).fileAt_eq, fileAt_addInode_dir]
  · rw [he]

theorem vfsInitialized_vfsMkdir (v : Vfs H) (path : CStr) : (vfsMkdir v path).2.vfsInitialized = true := by
  unfold vfsMkdir vfsMake
  obtain hc | ⟨e, he⟩ := createInode_cases (vfsInit v) path .dir
  · rw [createInode_ok .dir hc]
    exact (maybePersistPath_same _ path).vfsInitialized.trans (vfsInitialized_vfsInit v)
  · rw [he]
    exact vfsInitialized_vfsInit v

theorem fileAt_opened_ne (hne : (v.inodes idx).path.val ≠ q) (fd flags : Nat) :
    fileAt (opened v fd idx flags) q = fileAt v q := by
  obtain ⟨hcount, hshape⟩ := opened_shape v fd idx flags
  exact fileAt_of_entry_ne hcount (fun i hi => inodes_opened_of_ne hi) (hshape idx).1 hne

theorem fileAt_vfsOpen_ne (hlen : path.length < maxPath) (hne : path ≠ q) (flags : Nat) :
    fileAt (vfsOpen v path flags).2 q = fileAt (vfsInit v) q := by
  obtain ⟨heq, -⟩ | ⟨fd, -, ⟨idx, hfind, -, heq⟩ | ⟨-, -, heq⟩⟩ := vfsOpen_cases v path flags
  · rw [heq]
  · rw [heq]
    exact fileAt_opened_ne (by rw [(findInode_some hfind).2]; exact hne) fd flags
  · have hpath : ((addInode (vfsInit v) path .file).inodes (vfsInit v).inodeCount).path.val = path := by
      rw [inodes_addInode_self]
      exact strCpy_of_lt hlen
    rw [heq]
    dsimp only
    rw [fileAt_opened_ne (hpath.symm ▸ hne), fileAt_addInode_ne hlen hne]

theorem fileAt_vfsWrite_ne (h : HandleAt v fd path) (hne : path ≠ q) (buf : List UInt8) :
    fileAt (vfsWrite v fd buf).2 q = fileAt v q := by
  obtain ⟨e, heap, heq⟩ | ⟨-, heq⟩ | ⟨heap, data, size, capacity, heq, -⟩ := vfsWrite_cases v fd buf
  · rw [heq]
    rfl
  · rw [heq]
  · rw [heq]
    refine fileAt_of_entry_ne rfl (fun i hi => Function.update_of_ne hi ..) ?_ ?_
    · simp [written]
    · rw [h.2]
      exact hne

theorem fileAt_vfsPut_ne (hlen : path.length < maxPath) (hne : path ≠ q) (flags : Nat) (bytes : List UInt8) :
    fileAt (vfsPut v path flags bytes).2 q = fileAt (vfsInit v) q := by
  have hopened := fileAt_vfsOpen_ne (v := v) hlen hne flags
  obtain ⟨-, hhandle⟩ := sameElsewhere_vfsOpen (v := v) hlen flags
  obtain ⟨-, heq⟩ | ⟨fd, hfd, -, heq | heq⟩ := vfsPut_state v path flags bytes
  · rw [heq, hopened]
  · rw [heq, fileAt_vfsClose, hopened]
  · rw [heq, fileAt_vfsClose, fileAt_vfsWrite_ne (hhandle fd hfd) hne, hopened]

end Orizon
