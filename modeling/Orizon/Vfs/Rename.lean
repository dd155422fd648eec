import Orizon.Vfs.Frame

/-!
# Orizon.Vfs.Rename

What a rename does to the inode table.

A rename rewrites the paths of the entry and of everything inside it, and
gives the entry its new name and parent.  Types, sizes and data stay.  The
rewritten paths stay distinct exactly when the destination is free.
-/

namespace Orizon

variable {H : Type} {v : Vfs H} {idx parent : Nat} {oldpath newpath : CStr}

/-! ## Definitions -/

/-- The entries a rename gives new paths besides `idx`. -/
def Moved (v : Vfs H) (idx : Nat) (oldpath : CStr) (i : Nat) : Prop :=
  (v.inodes idx).type = .dir ∧ renamesWith v idx oldpath i = true

/-- A rename whose destination is free: no entry outside the renamed subtree
has one of the paths the rename stores, and the paths below the directory
are not cut. -/
structure RenameFits (v : Vfs H) (idx : Nat) (oldpath newpath : CStr) : Prop where
  target : ∀ j, j < v.inodeCount → j ≠ idx → ¬ Moved v idx oldpath j →
    (v.inodes j).path ≠ strCpy maxPath newpath
  below : ∀ i j, Moved v idx oldpath i → j < v.inodeCount → j ≠ idx → ¬ Moved v idx oldpath j →
    (v.inodes j).path ≠ renamedPath oldpath newpath (v.inodes i).path.val
  length : ∀ i, Moved v idx oldpath i →
    newpath.length + ((v.inodes i).path.val.drop oldpath.length).length < maxPath

/-- The stored path of entry `i` after a rename. -/
def pathAfterRename (v : Vfs H) (idx : Nat) (oldpath newpath : CStr) (i : Nat) : CBuf maxPath :=
  if i = idx then strCpy maxPath newpath
  else if (v.inodes idx).type = .dir ∧ renamesWith v idx oldpath i then
    renamedPath oldpath newpath (v.inodes i).path.val
  else (v.inodes i).path

/-! ## The table after a rename -/

theorem renamedInodes_path (v : Vfs H) (idx parent : Nat) (oldpath newpath : CStr) (i : Nat) :
    (renamedInodes v idx parent oldpath newpath i).path =
      pathAfterRename v idx oldpath newpath i := by
  unfold renamedInodes pathAfterRename
  by_cases hi : i = idx
  · subst hi
    simp
  · simp only [Function.update_of_ne hi, if_neg hi]
    split <;> rfl

theorem renamedInodes_kept (v : Vfs H) (idx parent : Nat) (oldpath newpath : CStr) (i : Nat) :
    (renamedInodes v idx parent oldpath newpath i).type = (v.inodes i).type ∧
      (renamedInodes v idx parent oldpath newpath i).data = (v.inodes i).data ∧
      (renamedInodes v idx parent oldpath newpath i).size = (v.inodes i).size := by
  unfold renamedInodes
  by_cases hi : i = idx
  · subst hi
    simp only [Function.update_self]
    split <;> exact ⟨rfl, rfl, rfl⟩
  · simp only [Function.update_of_ne hi]
    split <;> exact ⟨rfl, rfl, rfl⟩

theorem renamedInodes_type (v : Vfs H) (idx parent : Nat) (oldpath newpath : CStr) (i : Nat) :
    (renamedInodes v idx parent oldpath newpath i).type = (v.inodes i).type :=
  (renamedInodes_kept v idx parent oldpath newpath i).1

theorem renamedInodes_contents (v : Vfs H) (idx parent : Nat) (oldpath newpath : CStr) (i : Nat) :
    (renamedInodes v idx parent oldpath newpath i).contents = (v.inodes i).contents := by
  obtain ⟨-, hdata, hsize⟩ := renamedInodes_kept v idx parent oldpath newpath i
  unfold Inode.contents
  rw [hdata, hsize]

theorem renamedInodes_parent (v : Vfs H) (idx parent : Nat) (oldpath newpath : CStr) (i : Nat) :
    (renamedInodes v idx parent oldpath newpath i).parent =
      if i = idx then some parent else (v.inodes i).parent := by
  unfold renamedInodes
  by_cases hi : i = idx
  · subst hi
    simp
  · simp only [Function.update_of_ne hi, if_neg hi]
    split <;> rfl

/-! ## Where paths go -/

theorem Moved.spec {i : Nat} (h : Moved v idx oldpath i) :
    i < v.inodeCount ∧ i ≠ idx ∧ pathIsInside (v.inodes i).path.val oldpath = true := by
  have hcond := h.2
  simp only [renamesWith, Bool.and_eq_true, decide_eq_true_eq] at hcond
  exact ⟨hcond.1.1, hcond.1.2, hcond.2⟩

theorem pathAfterRename_self :
    pathAfterRename v idx oldpath newpath idx = strCpy maxPath newpath := if_pos rfl

theorem pathAfterRename_moved {i : Nat} (h : Moved v idx oldpath i) :
    pathAfterRename v idx oldpath newpath i =
      renamedPath oldpath newpath (v.inodes i).path.val := by
  unfold pathAfterRename
  rw [if_neg h.spec.2.1]
  exact if_pos h

theorem pathAfterRename_kept {i : Nat} (hne : i ≠ idx) (h : ¬ Moved v idx oldpath i) :
    pathAfterRename v idx oldpath newpath i = (v.inodes i).path := by
  unfold pathAfterRename
  rw [if_neg hne]
  exact if_neg h

theorem renamedPath_of_lt {path : CStr}
    (h : newpath.length + (path.drop oldpath.length).length < maxPath) :
    (renamedPath oldpath newpath path).val = newpath ++ path.drop oldpath.length := by
  have hcat : (newpath ++ path.drop oldpath.length).length < maxPath := by
    rw [List.length_append]
    exact h
  unfold renamedPath
  rw [strCpy_of_lt (by rw [strCpy_of_lt hcat]; exact hcat), strCpy_of_lt hcat]

/-- The rewritten paths of distinct entries are distinct exactly when the
destination is free. -/
theorem pathAfterRename_injective_iff (hr : Renamable v oldpath newpath idx parent)
    (hdistinct : ∀ i j, i < v.inodeCount → j < v.inodeCount →
      (v.inodes i).path = (v.inodes j).path → i = j) :
    (∀ i j, i < v.inodeCount → j < v.inodeCount →
      pathAfterRename v idx oldpath newpath i = pathAfterRename v idx oldpath newpath j → i = j) ↔
      RenameFits v idx oldpath newpath := by
  obtain ⟨hidx, hold⟩ := findInode_some hr.source
  constructor
  · intro hinj
    refine ⟨fun j hj hne hk heq => ?_, fun i j hi hj hne hk heq => ?_, fun i hi => ?_⟩
    · exact hne (hinj j idx hj hidx (by rw [pathAfterRename_kept hne hk, pathAfterRename_self, heq]))
    · obtain rfl := hinj j i hj hi.spec.1 (by
        rw [pathAfterRename_kept hne hk, pathAfterRename_moved hi, heq])
      exact hk hi
    · -- a longer path was let through by the `int` comparison, and is cut to the target's
      obtain ⟨hilt, hine, -⟩ := hi.spec
      have hfit := hr.fits hi.1 i hi.2
      by_contra hlong
      have hbig : maxPath ≤ newpath.length := by
        by_contra hsmall
        have hint : cInt newpath.length = newpath.length :=
          cInt_of_lt (by unfold maxPath at hsmall; omega)
        rw [hint] at hfit
        omega
      have hcut : renamedPath oldpath newpath (v.inodes i).path.val = strCpy maxPath newpath := by
        refine Subtype.ext ?_
        simp only [renamedPath, strCpy, List.take_take, Nat.min_self]
        exact List.take_append_of_le_length (by omega)
      exact hine (hinj i idx hilt hidx (by
        rw [pathAfterRename_moved hi, pathAfterRename_self, hcut]))
  · intro hfits
    have htarget : ∀ {i}, Moved v idx oldpath i →
        renamedPath oldpath newpath (v.inodes i).path.val ≠ strCpy maxPath newpath := by
      intro i hi heq
      obtain ⟨hilt, hine, hin⟩ := hi.spec
      have hipath := drop_of_pathIsInside hin
      have hlt := hfits.length i hi
      have hval := congrArg Subtype.val heq
      rw [renamedPath_of_lt hlt, strCpy_of_lt (by omega), List.append_right_eq_self] at hval
      rw [hval, List.append_nil, ← hold] at hipath
      exact hine (hdistinct i idx hilt hidx (Subtype.ext hipath))
    intro i j hi hj heq
    by_cases hii : i = idx <;> by_cases hji : j = idx
    · rw [hii, hji]
    · subst hii
      rw [pathAfterRename_self] at heq
      by_cases hmj : Moved v i oldpath j
      · rw [pathAfterRename_moved hmj] at heq
        exact absurd heq.symm (htarget hmj)
      · rw [pathAfterRename_kept hji hmj] at heq
        exact absurd heq.symm (hfits.target j hj hji hmj)
    · subst hji
      rw [pathAfterRename_self] at heq
      by_cases hmi : Moved v j oldpath i
      · rw [pathAfterRename_moved hmi] at heq
        exact absurd heq (htarget hmi)
      · rw [pathAfterRename_kept hii hmi] at heq
        exact absurd heq (hfits.target i hi hii hmi)
    · by_cases hmi : Moved v idx oldpath i <;> by_cases hmj : Moved v idx oldpath j
      · rw [pathAfterRename_moved hmi, pathAfterRename_moved hmj] at heq
        have hval := congrArg Subtype.val heq
        rw [renamedPath_of_lt (hfits.length i hmi), renamedPath_of_lt (hfits.length j hmj),
          List.append_cancel_left_eq] at hval
        refine hdistinct i j hi hj (Subtype.ext ?_)
        rw [drop_of_pathIsInside hmi.spec.2.2, drop_of_pathIsInside hmj.spec.2.2, hval]
      · rw [pathAfterRename_moved hmi, pathAfterRename_kept hji hmj] at heq
        exact absurd heq.symm (hfits.below i j hmi hj hji hmj)
      · rw [pathAfterRename_moved hmj, pathAfterRename_kept hii hmi] at heq
        exact absurd heq (hfits.below j i hmj hi hii hmi)
      · rw [pathAfterRename_kept hii hmi, pathAfterRename_kept hji hmj] at heq
        exact hdistinct i j hi hj heq

end Orizon
