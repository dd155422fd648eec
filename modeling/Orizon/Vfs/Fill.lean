import Orizon.Vfs.FileAt

/-!
# Orizon.Vfs.Fill

Writing a file piece by piece through a handle, and which entries that leaves alone.

Opening, writing and closing keep every entry of another path; making a directory keeps every
entry that is there (`Keeps`).  `Spares` is what a mounted file system shows of that at one path.
-/

namespace Orizon

variable {H : Type} {u v w : Vfs H} {path q : CStr} {fd idx flags : Nat} {bytes buf : List UInt8}

/-! ## Entries that are kept -/

/-- The entry of a path is the same, if there was one. -/
def Keeps (q : CStr) (v w : Vfs H) : Prop :=
  ∀ idx, findInode v q = some idx → findInode w q = some idx ∧ w.inodes idx = v.inodes idx

theorem Keeps.refl (q : CStr) (v : Vfs H) : Keeps q v v := fun _ h => ⟨h, rfl⟩

theorem Keeps.trans (h : Keeps q u v) (h' : Keeps q v w) : Keeps q u w := by
  intro idx hidx
  obtain ⟨hv, hnode⟩ := h idx hidx
  obtain ⟨hw, hnode'⟩ := h' idx hv
  exact ⟨hw, hnode'.trans hnode⟩

theorem SameFiles.keeps (h : SameFiles v w) (q : CStr) : Keeps q v w :=
  fun idx hidx => ⟨(h.findInode q).trans hidx, by rw [h.inodes]⟩

theorem keeps_of_entry_ne (hcount : w.inodeCount = v.inodeCount) (hother : ∀ i, i ≠ idx → w.inodes i = v.inodes i)
    (hpath : (w.inodes idx).path = (v.inodes idx).path) (hne : (v.inodes idx).path.val ≠ q) : Keeps q v w := by
  have hpaths : ∀ i, i < v.inodeCount → (w.inodes i).path = (v.inodes i).path := by
    intro i _
    by_cases hi : i = idx
    · rw [hi, hpath]
    · rw [hother i hi]
  intro j hj
  have hji : j ≠ idx := fun h => hne (h ▸ (findInode_some hj).2)
  exact ⟨(findInode_congr hcount hpaths q).trans hj, hother j hji⟩

theorem keeps_addInode (v : Vfs H) (path q : CStr) (type : InodeType) : Keeps q v (addInode v path type) := by
  intro j hj
  rw [findInode_addInode, hj, inodes_addInode_of_lt (findInode_some hj).1]
  exact ⟨rfl, rfl⟩

theorem keeps_vfsClose (v : Vfs H) (fd : Nat) (q : CStr) : Keeps q v (vfsClose v fd) := by
  obtain hsame | heq := vfsClose_state v fd
  · have hclosed : Keeps q v (v.closeFile fd) := fun idx hidx => ⟨hidx, rfl⟩
    exact hclosed.trans (hsame.keeps q)
  · rw [heq]
    exact Keeps.refl q v

variable [Allocator H]

theorem keeps_vfsMkdir (hinit : v.vfsInitialized = true) (path q : CStr) : Keeps q v (vfsMkdir v path).2 := by
  have hmounted : vfsInit v = v := if_pos hinit
  unfold vfsMkdir vfsMake
  rw [hmounted]
  obtain hc | ⟨e, he⟩ := createInode_cases v path .dir
  · rw [createInode_ok .dir hc]
    exact (keeps_addInode v path q .dir).trans ((maybePersistPath_same _ path).keeps q)
  · rw [he]
    exact Keeps.refl q v

theorem keeps_opened (hne : (v.inodes idx).path.val ≠ q) (fd flags : Nat) : Keeps q v (opened v fd idx flags) := by
  obtain ⟨hcount, hshape⟩ := opened_shape v fd idx flags
  exact keeps_of_entry_ne hcount (fun i hi => inodes_opened_of_ne hi) (hshape idx).1 hne

theorem keeps_vfsOpen (hinit : v.vfsInitialized = true) (hlen : path.length < maxPath) (hne : path ≠ q) (flags : Nat) :
    Keeps q v (vfsOpen v path flags).2 := by
  have hmounted : vfsInit v = v := if_pos hinit
  have hcases := vfsOpen_cases v path flags
  rw [hmounted] at hcases
  obtain ⟨heq, -⟩ | ⟨fd, -, ⟨idx, hfind, -, heq⟩ | ⟨-, -, heq⟩⟩ := hcases
  · rw [heq]
    exact Keeps.refl q v
  · rw [heq]
    exact keeps_opened (by rw [(findInode_some hfind).2]; exact hne) fd flags
  · have hpath : ((addInode v path .file).inodes v.inodeCount).path.val = path := by
      rw [inodes_addInode_self]
      exact strCpy_of_lt hlen
    rw [heq]
    exact (keeps_addInode v path q .file).trans (keeps_opened (hpath.symm ▸ hne) fd flags)

theorem keeps_vfsWrite (h : HandleAt v fd path) (hne : path ≠ q) (buf : List UInt8) :
    Keeps q v (vfsWrite v fd buf).2 := by
  obtain ⟨e, heap, heq⟩ | ⟨-, heq⟩ | ⟨heap, data, size, capacity, heq, -⟩ := vfsWrite_cases v fd buf
  · rw [heq]
    exact fun idx hidx => ⟨hidx, rfl⟩
  · rw [heq]
    exact Keeps.refl q v
  · rw [heq]
    refine keeps_of_entry_ne rfl (fun i hi => Function.update_of_ne hi ..) ?_ ?_
    · simp [written]
    · rw [h.2]
      exact hne

/-! ## A file and its bytes -/

/-- The file at a path, whose bytes lie in its buffer. -/
def Holding (v : Vfs H) (path : CStr) (bytes : List UInt8) : Prop :=
  ∃ idx, findInode v path = some idx ∧ (v.inodes idx).type = .file ∧ (v.inodes idx).Stored ∧
    (v.inodes idx).contents = bytes

/-- A handle at the end of the file at a path. -/
def Filling (v : Vfs H) (fd : Nat) (path : CStr) (bytes : List UInt8) : Prop :=
  ∃ idx, findInode v path = some idx ∧ AtEnd v fd idx ∧ (v.inodes idx).contents = bytes

omit [Allocator H] in
theorem Holding.fileAt (h : Holding v path bytes) : fileAt v path = some bytes := by
  obtain ⟨idx, hidx, hfile, -, rfl⟩ := h
  exact fileAt_of_find hidx hfile

omit [Allocator H] in
theorem Holding.keep (h : Holding v path bytes) (hkeep : Keeps path v w) : Holding w path bytes := by
  obtain ⟨idx, hidx, hfile, hstored, hbytes⟩ := h
  obtain ⟨hw, hnode⟩ := hkeep idx hidx
  exact ⟨idx, hw, hnode ▸ hfile, hnode ▸ hstored, hnode ▸ hbytes⟩

omit [Allocator H] in
theorem Filling.handleAt (h : Filling v fd path bytes) : HandleAt v fd path := by
  obtain ⟨idx, hidx, hend, -⟩ := h
  rw [HandleAt, hend.inode]
  exact findInode_some hidx

omit [Allocator H] in
theorem Filling.holding (h : Filling v fd path bytes) : Holding v path bytes := by
  obtain ⟨idx, hidx, hend, hbytes⟩ := h
  exact ⟨idx, hidx, hend.file, hend.stored, hbytes⟩

omit [Allocator H] in
theorem Filling.close (h : Filling v fd path bytes) : Holding (vfsClose v fd) path bytes :=
  h.holding.keep (keeps_vfsClose v fd path)

theorem filling_vfsOpen (hinit : v.vfsInitialized = true) (hlen : path.length < maxPath)
    (hend : StartsAtEnd v path flags) : vfsOpen v path flags = (none, v) ∨
      ∃ fd, (vfsOpen v path flags).1 = some fd ∧ Filling (vfsOpen v path flags).2 fd path (putBase v path flags) := by
  obtain hnone | ⟨fd, idx, w, hopen, hidx, hatEnd, hfiles⟩ := vfsOpen_atEnd hinit hlen hend
  · exact .inl hnone
  · have hhere := hfiles path
    rw [if_pos rfl, fileAt_of_find hidx hatEnd.file] at hhere
    rw [hopen]
    exact .inr ⟨fd, rfl, idx, hidx, hatEnd, Option.some.inj hhere⟩

theorem Filling.write (h : Filling v fd path bytes) (hsmall : bytes.length + buf.length + 4095 < 2 ^ 64) {n : Nat}
    (hok : vfsWrite v fd buf = (.ok n, w)) : Filling w fd path (bytes ++ buf) := by
  by_cases hne : buf = []
  · obtain ⟨idx, hidx, hend, hbytes⟩ := h
    have hvalid : ¬ ¬ (v.openFiles fd).valid = true := not_not.mpr hend.valid
    rw [vfsWrite, if_neg hvalid, if_pos (by simp [hne])] at hok
    obtain ⟨-, rfl⟩ := Prod.mk.inj hok
    exact ⟨idx, hidx, hend, by simp [hbytes, hne]⟩
  · obtain ⟨idx, hidx, hend, hbytes⟩ := h
    have hsize : (v.inodes idx).size = bytes.length := by rw [← hbytes, length_contents hend.stored]
    obtain ⟨-, heap, hwrite⟩ | ⟨-, heap, node, pos, hwrite, hpath, htype, hnode, hsize', hstored⟩ :=
      vfsWrite_atEnd hend hne (by omega)
    · rw [hwrite] at hok
      cases (Prod.mk.inj hok).1
    · have hpos : (vfsWrite v fd buf).2.openFiles fd = { v.openFiles fd with pos := node.size } := by
        obtain ⟨e, heap', heq⟩ | ⟨hnil, -⟩ | ⟨heap', data, size, capacity, heq, -⟩ := vfsWrite_cases v fd buf
        · rw [heq] at hok
          cases (Prod.mk.inj hok).1
        · exact absurd hnil hne
        · rw [heq, hsize', hend.pos.symm]
          simp only [Function.update_self]
          rw [sizeAdd, Nat.mod_eq_of_lt (by rw [hend.pos]; omega)]
      rw [hok] at hpos hwrite
      obtain ⟨-, rfl⟩ := Prod.mk.inj hwrite
      refine ⟨idx, ?_, ⟨?_, ?_, ?_, ?_, ?_⟩, ?_⟩
      · rw [← hidx]
        refine findInode_congr ?_ (fun i _ => ?_) path
        · rfl
        dsimp only
        by_cases hi : i = idx
        · rw [hi, Function.update_self, hpath]
        · rw [Function.update_of_ne hi]
      · rw [hpos]
        exact hend.valid
      · rw [hpos]
        exact hend.inode
      · rw [hpos]
        simp
      · simp only [Function.update_self]
        rw [htype, hend.file]
      · simp only [Function.update_self]
        exact hstored (by omega)
      · simp only [Function.update_self]
        rw [hnode, hbytes]

theorem keeps_vfsPut (hinit : v.vfsInitialized = true) (hlen : path.length < maxPath) (hne : path ≠ q) (flags : Nat)
    (bytes : List UInt8) : Keeps q v (vfsPut v path flags bytes).2 := by
  have hopened := keeps_vfsOpen (q := q) hinit hlen hne flags
  obtain ⟨-, hhandle⟩ := sameElsewhere_vfsOpen (v := v) hlen flags
  obtain ⟨-, heq⟩ | ⟨fd, hfd, -, heq | heq⟩ := vfsPut_state v path flags bytes
  · rw [heq]
    exact hopened
  · rw [heq]
    exact hopened.trans (keeps_vfsClose _ fd q)
  · rw [heq]
    exact (hopened.trans (keeps_vfsWrite (hhandle fd hfd) hne bytes)).trans (keeps_vfsClose _ fd q)

theorem holding_vfsPut (hinit : v.vfsInitialized = true) (hlen : path.length < maxPath)
    (hend : StartsAtEnd v path flags) (hsmall : (putBase v path flags).length + bytes.length + 4095 < 2 ^ 64)
    (hdone : (vfsPut v path flags bytes).1 = .done) :
    Holding (vfsPut v path flags bytes).2 path (putBase v path flags ++ bytes) := by
  unfold vfsPut at hdone ⊢
  obtain hnone | ⟨fd, hfd, hfill⟩ := filling_vfsOpen hinit hlen hend
  · rw [hnone] at hdone
    cases hdone
  · obtain ⟨w, hopen⟩ : ∃ w, vfsOpen v path flags = (some fd, w) := ⟨_, Prod.ext hfd rfl⟩
    rw [hopen] at hfill hdone ⊢
    dsimp only at hfill hdone ⊢
    by_cases hpos : bytes.length > 0
    · rw [if_pos hpos] at hdone ⊢
      cases hw : vfsWrite w fd bytes with
      | mk r w' =>
          rw [hw] at hdone
          cases r with
          | ok n => exact (hfill.write hsmall hw).close
          | error e => cases hdone
    · have hnil : bytes = [] := List.length_eq_zero_iff.mp (by omega)
      rw [if_neg hpos, hnil, List.append_nil]
      exact hfill.close

/-! ## Calls that spare a path -/

/-- A mounted file system stays mounted, with the same file and the same entry at the path. -/
def Spares (q : CStr) (v w : Vfs H) : Prop :=
  v.vfsInitialized = true → w.vfsInitialized = true ∧ Keeps q v w ∧ fileAt w q = fileAt v q

omit [Allocator H] in
theorem Spares.refl (q : CStr) (v : Vfs H) : Spares q v v := fun hinit => ⟨hinit, Keeps.refl q v, rfl⟩

omit [Allocator H] in
theorem Spares.trans (h : Spares q u v) (h' : Spares q v w) : Spares q u w := by
  intro hinit
  obtain ⟨hv, hkeep, hfile⟩ := h hinit
  obtain ⟨hw, hkeep', hfile'⟩ := h' hv
  exact ⟨hw, hkeep.trans hkeep', hfile'.trans hfile⟩

omit [Allocator H] in
theorem SameFiles.spares (h : SameFiles v w) (q : CStr) : Spares q v w :=
  fun hinit => ⟨h.vfsInitialized.trans hinit, h.keeps q, h.fileAt_eq q⟩

omit [Allocator H] in
theorem spares_vfsClose (v : Vfs H) (fd : Nat) (q : CStr) : Spares q v (vfsClose v fd) :=
  fun hinit => ⟨(vfsInitialized_vfsClose v fd).trans hinit, keeps_vfsClose v fd q, fileAt_vfsClose v fd q⟩

theorem spares_vfsMkdir (v : Vfs H) (path q : CStr) : Spares q v (vfsMkdir v path).2 := by
  intro hinit
  have hmounted : vfsInit v = v := if_pos hinit
  exact ⟨vfsInitialized_vfsMkdir v path, keeps_vfsMkdir hinit path q,
    (fileAt_vfsMkdir v path q).trans (by rw [hmounted])⟩

theorem spares_vfsOpen (hlen : path.length < maxPath) (hne : path ≠ q) (v : Vfs H) (flags : Nat) :
    Spares q v (vfsOpen v path flags).2 := by
  intro hinit
  have hmounted : vfsInit v = v := if_pos hinit
  exact ⟨vfsInitialized_vfsOpen v path flags, keeps_vfsOpen hinit hlen hne flags,
    (fileAt_vfsOpen_ne hlen hne flags).trans (by rw [hmounted])⟩

theorem spares_vfsWrite (h : HandleAt v fd path) (hne : path ≠ q) (buf : List UInt8) :
    Spares q v (vfsWrite v fd buf).2 :=
  fun hinit => ⟨(vfsInitialized_vfsWrite v fd buf).trans hinit, keeps_vfsWrite h hne buf, fileAt_vfsWrite_ne h hne buf⟩

theorem spares_vfsPut (hlen : path.length < maxPath) (hne : path ≠ q) (v : Vfs H) (flags : Nat) (bytes : List UInt8) :
    Spares q v (vfsPut v path flags bytes).2 := by
  intro hinit
  have hmounted : vfsInit v = v := if_pos hinit
  exact ⟨vfsInitialized_vfsPut v path flags bytes, keeps_vfsPut hinit hlen hne flags bytes,
    (fileAt_vfsPut_ne hlen hne flags bytes).trans (by rw [hmounted])⟩

/-! ## Whatever file is there -/

/-- If there is a file at the path, its bytes lie in its buffer and satisfy `P`. -/
def FileGood (P : List UInt8 → Prop) (v : Vfs H) (q : CStr) : Prop :=
  ∀ idx, findInode v q = some idx → (v.inodes idx).type = .file → (v.inodes idx).Stored ∧ P (v.inodes idx).contents

variable {P Q : List UInt8 → Prop}

omit [Allocator H] in
theorem Holding.fileGood (h : Holding v q bytes) (hP : P bytes) : FileGood P v q := by
  obtain ⟨idx, hidx, -, hstored, hbytes⟩ := h
  intro i hi _
  obtain rfl := Option.some.inj (hidx.symm.trans hi)
  exact ⟨hstored, hbytes ▸ hP⟩

omit [Allocator H] in
theorem FileGood.mono (h : FileGood P v q) (himp : ∀ bytes, P bytes → Q bytes) : FileGood Q v q :=
  fun idx hidx hfile => ⟨(h idx hidx hfile).1, himp _ (h idx hidx hfile).2⟩

omit [Allocator H] in
theorem FileGood.of_none (h : fileAt v q = none) : FileGood P v q := by
  intro idx hidx hfile
  rw [fileAt_of_find hidx hfile] at h
  cases h

omit [Allocator H] in
theorem FileGood.fileAt (h : FileGood P v q) (hfile : fileAt v q = some bytes) : P bytes := by
  unfold Orizon.fileAt at hfile
  cases hidx : findInode v q with
  | none => simp [hidx] at hfile
  | some idx =>
      rw [hidx] at hfile
      by_cases htype : (v.inodes idx).type = .file
      · simp only [htype, if_true] at hfile
        rw [← Option.some.inj hfile]
        exact (h idx hidx htype).2
      · simp [htype] at hfile

omit [Allocator H] in
theorem FileGood.spared (h : FileGood P v q) (hinit : v.vfsInitialized = true) (hspares : Spares q v w) :
    FileGood P w q := by
  obtain ⟨-, hkeep, hfile⟩ := hspares hinit
  cases hv : findInode v q with
  | none => exact FileGood.of_none (hfile.trans (by simp [Orizon.fileAt, hv]))
  | some idx =>
      obtain ⟨hw, hnode⟩ := hkeep idx hv
      intro i hi
      obtain rfl := Option.some.inj (hw.symm.trans hi)
      rw [hnode]
      exact h _ hv

theorem filling_append (hinit : v.vfsInitialized = true) (hlen : path.length < maxPath) (hgood : FileGood P v path)
    (hflags : hasFlag flags oTrunc = false) (happend : hasFlag flags oAppend = true) :
    vfsOpen v path flags = (none, v) ∨
      ∃ fd, (vfsOpen v path flags).1 = some fd ∧
        Filling (vfsOpen v path flags).2 fd path ((fileAt v path).getD []) := by
  have hmounted : vfsInit v = v := if_pos hinit
  by_cases hdir : ∃ idx, findInode v path = some idx ∧ (v.inodes idx).type ≠ .file
  · -- a directory is not opened
    obtain ⟨idx, hidx, hne⟩ := hdir
    have hcases := vfsOpen_cases v path flags
    rw [hmounted] at hcases
    obtain ⟨heq, -⟩ | ⟨fd, -, ⟨j, hj, hfile, -⟩ | ⟨-, hc, -⟩⟩ := hcases
    · exact .inl heq
    · exact absurd (Option.some.inj (hidx.symm.trans hj) ▸ hfile) hne
    · have hfresh := hc.fresh
      rw [hidx] at hfresh
      cases hfresh
  · have hend : StartsAtEnd v path flags := by
      refine .inr ⟨happend, fun idx hidx => ?_⟩
      have hfile : (v.inodes idx).type = .file := by
        by_contra hne
        exact hdir ⟨idx, hidx, hne⟩
      exact (hgood idx hidx hfile).1
    have hopen := filling_vfsOpen hinit hlen hend
    rwa [putBase, hflags, if_neg (by simp)] at hopen

end Orizon
