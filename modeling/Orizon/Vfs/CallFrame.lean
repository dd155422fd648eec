import Orizon.Vfs.Fill
import Orizon.Vfs.WellFormed

/-!
# Orizon.Vfs.CallFrame

Relations between file systems that calls with a known footprint keep.

A `CallFrame` holds across every call that makes directories in `Mk` or writes files in `Wr`, and
so across every program that makes only such calls.  The instance says what that means for a path
outside the footprint with nothing there (`StaysAbsent`).
-/

namespace Orizon

variable {H : Type} [Allocator H] {u v w : Vfs H} {path q : CStr} {fd idx flags : Nat} {buf : List UInt8}

/-- What the calls keep that make directories in `Mk` and write files in `Wr`. -/
structure CallFrame (Mk Wr : CStr → Prop) (R : Vfs H → Vfs H → Prop) : Prop where
  trans : ∀ {u v w}, R u v → R v w → R u w
  same : ∀ {v w}, SameFiles v w → R v w
  handles : ∀ v files, R v { v with openFiles := files }
  mount : ∀ v, R v (vfsInit v)
  short : ∀ {path}, Wr path → path.length < maxPath
  mkdir : ∀ {path} v, Mk path → R v (vfsMkdir v path).2
  openFile : ∀ {path} v flags, Wr path → R v (vfsOpen v path flags).2
  write : ∀ {v fd path} buf, HandleAt v fd path → Wr path → R v (vfsWrite v fd buf).2

/-- The same for calls that also delete paths in `Rm`. -/
structure DeleteFrame (Mk Wr Rm : CStr → Prop) (R : Vfs H → Vfs H → Prop) : Prop extends CallFrame Mk Wr R where
  delete : ∀ {path} v, Rm path → R v (vfsDelete v path).2

namespace CallFrame

variable {Mk Wr : CStr → Prop} {R : Vfs H → Vfs H → Prop} (F : CallFrame Mk Wr R)

include F

theorem refl (v : Vfs H) : R v v := F.same (SameFiles.refl v)

theorem close (v : Vfs H) (fd : Nat) : R v (vfsClose v fd) := by
  obtain hsame | heq := vfsClose_state v fd
  · exact F.trans (F.handles v _) (F.same hsame)
  · rw [heq]
    exact F.refl v

theorem read (v : Vfs H) (fd count : Nat) : R v (vfsRead v fd count).2 := by
  obtain ⟨pos, hpos⟩ := vfsRead_state v fd count
  rw [hpos]
  exact F.handles v _

theorem save (v : Vfs H) : R v (vfsPersistSave v).2 := F.same (vfsPersistSave_same v)

theorem put (v : Vfs H) (hpath : Wr path) (flags : Nat) (bytes : List UInt8) : R v (vfsPut v path flags bytes).2 := by
  have hopened := F.openFile v flags hpath
  obtain ⟨-, hhandle⟩ := sameElsewhere_vfsOpen (v := v) (F.short hpath) flags
  obtain ⟨-, heq⟩ | ⟨fd, hfd, -, heq | heq⟩ := vfsPut_state v path flags bytes
  · rw [heq]
    exact hopened
  · rw [heq]
    exact F.trans hopened (F.close _ fd)
  · rw [heq]
    exact F.trans (F.trans hopened (F.write bytes (hhandle fd hfd) hpath)) (F.close _ fd)

end CallFrame

/-! ## Paths with nothing there -/

/-- Nothing comes to be at `q`. -/
def StaysAbsent (q : CStr) (v w : Vfs H) : Prop :=
  v.vfsInitialized = true → findInode v q = none → w.vfsInitialized = true ∧ findInode w q = none

omit [Allocator H] in
theorem findInode_addInode_ne (hlen : path.length < maxPath) (hne : path ≠ q) (hnone : findInode v q = none)
    (type : InodeType) : findInode (addInode v path type) q = none := by
  have hpath : (newInode v path type).path.val = path := strCpy_of_lt hlen
  rw [findInode_addInode, hnone, hpath, if_neg hne]
  rfl

/-- Nothing comes to be at `q` if only other paths are made. -/
theorem staysAbsent_frame (q : CStr) :
    DeleteFrame (H := H) (fun path => path.length < maxPath ∧ path ≠ q) (fun path => path.length < maxPath ∧ path ≠ q)
      (fun _ => True) (StaysAbsent q) where
  trans h h' := fun hinit hnone => by
    obtain ⟨hv, hvnone⟩ := h hinit hnone
    exact h' hv hvnone
  same h := fun hinit hnone => ⟨h.vfsInitialized.trans hinit, (h.findInode q).trans hnone⟩
  handles v files := fun hinit hnone => ⟨hinit, hnone⟩
  mount v := fun hinit hnone => by
    rw [show vfsInit v = v from if_pos hinit]
    exact ⟨hinit, hnone⟩
  short h := h.1
  mkdir {path} v h := fun hinit hnone => by
    refine ⟨vfsInitialized_vfsMkdir v path, ?_⟩
    have hmounted : vfsInit v = v := if_pos hinit
    unfold vfsMkdir vfsMake
    rw [hmounted]
    obtain hc | ⟨e, he⟩ := createInode_cases v path .dir
    · rw [createInode_ok .dir hc]
      exact ((maybePersistPath_same _ path).findInode q).trans (findInode_addInode_ne h.1 h.2 hnone .dir)
    · rw [he]
      exact hnone
  openFile {path} v flags h := fun hinit hnone => by
    refine ⟨vfsInitialized_vfsOpen v path flags, ?_⟩
    have hmounted : vfsInit v = v := if_pos hinit
    have hopened : ∀ {x : Vfs H} fd idx, findInode x q = none → findInode (opened x fd idx flags) q = none :=
      fun fd idx hx => (findInode_congr (opened_shape _ fd idx flags).1
        (fun i _ => ((opened_shape _ fd idx flags).2 i).1) q).trans hx
    have hcases := vfsOpen_cases v path flags
    rw [hmounted] at hcases
    obtain ⟨heq, -⟩ | ⟨fd, -, ⟨idx, -, -, heq⟩ | ⟨-, -, heq⟩⟩ := hcases
    · rw [heq]
      exact hnone
    · rw [heq]
      exact hopened fd idx hnone
    · rw [heq]
      exact hopened fd _ (findInode_addInode_ne h.1 h.2 hnone .file)
  write {v fd path} buf _ _ := fun hinit hnone => by
    refine ⟨(vfsInitialized_vfsWrite v fd buf).trans hinit, ?_⟩
    obtain ⟨e, heap, heq⟩ | ⟨-, heq⟩ | ⟨heap, data, size, capacity, heq, -⟩ := vfsWrite_cases v fd buf
    · rw [heq]
      exact hnone
    · rw [heq]
      exact hnone
    · rw [heq]
      refine Eq.trans (findInode_congr ?_ (fun i _ => ?_) q) hnone
      · rfl
      dsimp only [written]
      by_cases hi : i = (v.openFiles fd).inode
      · rw [hi, Function.update_self]
      · rw [Function.update_of_ne hi]
  delete {path} v _ := fun hinit hnone => by
    obtain ⟨idx, hd⟩ | ⟨e, he⟩ := vfsDelete_cases v path
    · have hsame := persistIf_same (pathShouldPersist path) (removeInode v idx)
      rw [vfsDelete_ok hd]
      refine ⟨hsame.vfsInitialized.trans (by simpa [removeInode] using hinit), (hsame.findInode q).trans ?_⟩
      rw [findInode_eq_none] at hnone ⊢
      intro i hi heq
      rw [inodeCount_removeInode] at hi
      rw [inodes_removeInode (findInode_some hd.source).1 hi] at heq
      exact hnone _ (movedFrom_lt idx hi).1 heq
    · rw [he]
      exact ⟨hinit, hnone⟩

end Orizon
