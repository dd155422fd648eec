import Orizon.Vfs.CallFrame

/-!
# Orizon.Vfs.Grow

Calls that make directories and write whole files: what they add to the table, that they leave no
handle open, and what stops them.

A path at which nothing can be created stays such a path while others are created, unless its
parent is one of them (`CreatesOnly.not_creatable`).
-/

namespace Orizon

variable {H : Type} [Allocator H] {u v w : Vfs H} {p q path : CStr} {fd flags : Nat} {bytes : List UInt8}

/-! ## Tables that grow -/

/-- Every path that was there is there, and there are as many entries at least. -/
def Grows (v w : Vfs H) : Prop :=
  v.vfsInitialized = true → w.vfsInitialized = true ∧ v.inodeCount ≤ w.inodeCount ∧
    ∀ q, (findInode v q).isSome → (findInode w q).isSome

omit [Allocator H] in
theorem Grows.trans (h : Grows u v) (h' : Grows v w) : Grows u w := fun hinit => by
  obtain ⟨hv, hcount, hfind⟩ := h hinit
  obtain ⟨hw, hcount', hfind'⟩ := h' hv
  exact ⟨hw, hcount.trans hcount', fun q hq => hfind' q (hfind q hq)⟩

omit [Allocator H] in
theorem SameFiles.grows (h : SameFiles v w) : Grows v w :=
  fun hinit => ⟨h.vfsInitialized.trans hinit, h.inodeCount.ge, fun q hq => by rwa [h.findInode]⟩

omit [Allocator H] in
theorem grows_addInode (v : Vfs H) (path : CStr) (type : InodeType) : Grows v (addInode v path type) :=
  fun hinit => ⟨hinit, Nat.le_succ _, fun q hq => by simp [findInode_addInode, hq]⟩

omit [Allocator H] in
theorem grows_of_paths (hinit : w.vfsInitialized = v.vfsInitialized) (hcount : w.inodeCount = v.inodeCount)
    (hpaths : ∀ i, (w.inodes i).path = (v.inodes i).path) : Grows v w :=
  fun h => ⟨hinit.trans h, hcount.ge, fun q hq => by rwa [findInode_congr hcount fun i _ => hpaths i]⟩

theorem grows_opened (v : Vfs H) (fd idx flags : Nat) : Grows v (opened v fd idx flags) :=
  grows_of_paths (vfsInitialized_opened v fd idx flags) (opened_shape v fd idx flags).1
    fun i => ((opened_shape v fd idx flags).2 i).1

theorem grows_vfsMkdir (v : Vfs H) (path : CStr) : Grows v (vfsMkdir v path).2 := fun hinit => by
  have hmounted : vfsInit v = v := if_pos hinit
  unfold vfsMkdir vfsMake
  rw [hmounted]
  obtain hc | ⟨e, he⟩ := createInode_cases v path .dir
  · rw [createInode_ok .dir hc]
    exact ((grows_addInode v path .dir).trans (maybePersistPath_same _ path).grows) hinit
  · rw [he]
    exact ⟨hinit, le_rfl, fun _ h => h⟩

theorem grows_vfsOpen (v : Vfs H) (path : CStr) (flags : Nat) : Grows v (vfsOpen v path flags).2 := fun hinit => by
  have hmounted : vfsInit v = v := if_pos hinit
  have hcases := vfsOpen_cases v path flags
  rw [hmounted] at hcases
  obtain ⟨heq, -⟩ | ⟨fd, -, ⟨idx, -, -, heq⟩ | ⟨-, -, heq⟩⟩ := hcases
  · rw [heq]
    exact ⟨hinit, le_rfl, fun _ h => h⟩
  · rw [heq]
    exact grows_opened v fd idx flags hinit
  · rw [heq]
    exact ((grows_addInode v path .file).trans (grows_opened _ fd _ flags)) hinit

theorem grows_vfsWrite (v : Vfs H) (fd : Nat) (buf : List UInt8) : Grows v (vfsWrite v fd buf).2 := by
  obtain ⟨e, heap, heq⟩ | ⟨-, heq⟩ | ⟨heap, data, size, capacity, heq, -⟩ := vfsWrite_cases v fd buf
  · rw [heq]
    exact grows_of_paths rfl rfl fun _ => rfl
  · rw [heq]
    exact grows_of_paths rfl rfl fun _ => rfl
  · rw [heq]
    refine grows_of_paths rfl rfl fun i => ?_
    dsimp only [written]
    by_cases hi : i = (v.openFiles fd).inode
    · rw [hi, Function.update_self]
    · rw [Function.update_of_ne hi]

theorem grows_frame : CallFrame (H := H) (fun _ => True) (·.length < maxPath) Grows where
  trans := Grows.trans
  same h := h.grows
  handles v files := grows_of_paths rfl rfl fun _ => rfl
  mount v := fun hinit => by
    rw [show vfsInit v = v from if_pos hinit]
    exact ⟨hinit, le_rfl, fun _ h => h⟩
  short h := h
  mkdir v _ := grows_vfsMkdir v _
  openFile v flags _ := grows_vfsOpen v _ flags
  write buf _ _ := grows_vfsWrite _ _ buf

/-! ## Handles -/

/-- The same handles are open. -/
def SameOpen (v w : Vfs H) : Prop := ∀ i, (w.openFiles i).valid = (v.openFiles i).valid

omit [Allocator H] in
theorem SameOpen.trans (h : SameOpen u v) (h' : SameOpen v w) : SameOpen u w := fun i => (h' i).trans (h i)

omit [Allocator H] in
theorem SameOpen.findFreeFile_eq (h : SameOpen v w) : findFreeFile w = findFreeFile v := by
  unfold findFreeFile
  exact List.find?_congr fun i _ => by rw [h i]

theorem openFiles_vfsWrite_valid (v : Vfs H) (fd : Nat) (buf : List UInt8) : SameOpen v (vfsWrite v fd buf).2 := by
  obtain ⟨e, heap, heq⟩ | ⟨-, heq⟩ | ⟨heap, data, size, capacity, heq, -⟩ := vfsWrite_cases v fd buf
  · rw [heq]
    exact fun _ => rfl
  · rw [heq]
    exact fun _ => rfl
  · rw [heq]
    intro i
    by_cases hi : i = fd
    · simp [hi]
    · simp [Function.update_of_ne hi]

omit [Allocator H] in
/-- The handle of a close is not open any more, and the others are what they were. -/
theorem openFiles_vfsClose_valid (v : Vfs H) (fd i : Nat) :
    ((vfsClose v fd).openFiles i).valid = if i = fd then false else (v.openFiles i).valid := by
  by_cases hi : i = fd
  · rw [if_pos hi, hi, valid_vfsClose]
  · rw [if_neg hi]
    obtain hsame | heq := vfsClose_state v fd
    · simp [hsame.openFiles, Vfs.closeFile, Function.update_of_ne hi]
    · rw [heq]

theorem sameOpen_vfsMkdir (hinit : v.vfsInitialized = true) (path : CStr) : SameOpen v (vfsMkdir v path).2 := by
  have hmounted : vfsInit v = v := if_pos hinit
  unfold vfsMkdir vfsMake
  rw [hmounted]
  obtain hc | ⟨e, he⟩ := createInode_cases v path .dir
  · rw [createInode_ok .dir hc]
    intro i
    rw [(maybePersistPath_same (addInode v path .dir) path).openFiles]
    rfl
  · rw [he]
    exact fun _ => rfl

theorem openFiles_vfsOpen_valid (hinit : v.vfsInitialized = true) (path : CStr) (flags : Nat) :
    vfsOpen v path flags = (none, v) ∨ ∃ fd, (vfsOpen v path flags).1 = some fd ∧ (v.openFiles fd).valid = false ∧
      ∀ i, i ≠ fd → ((vfsOpen v path flags).2.openFiles i).valid = (v.openFiles i).valid := by
  have hmounted : vfsInit v = v := if_pos hinit
  have hopened : ∀ {x : Vfs H} {fd idx i}, i ≠ fd → (opened x fd idx flags).openFiles i = x.openFiles i := by
    intro x fd idx i hi
    unfold opened openInode
    split
    · rfl
    · dsimp only
      rw [Function.update_of_ne hi]
      split <;> simp [truncateInode, Vfs.setInode]
  have hcases := vfsOpen_cases v path flags
  rw [hmounted] at hcases
  obtain ⟨heq, -⟩ | ⟨fd, hfd, ⟨idx, -, -, heq⟩ | ⟨-, -, heq⟩⟩ := hcases
  · exact .inl heq
  · refine .inr ⟨fd, by rw [heq], findFreeFile_some hfd, fun i hi => ?_⟩
    rw [heq, hopened hi]
  · refine .inr ⟨fd, by rw [heq], findFreeFile_some hfd, fun i hi => ?_⟩
    rw [heq, hopened hi]
    rfl

theorem sameOpen_vfsPut (hinit : v.vfsInitialized = true) (path : CStr) (flags : Nat) (bytes : List UInt8) :
    SameOpen v (vfsPut v path flags bytes).2 := by
  obtain hnone | ⟨fd, hfd, hfree, hothers⟩ := openFiles_vfsOpen_valid hinit path flags
  · rw [vfsPut, hnone]
    exact fun _ => rfl
  · have hclosed : ∀ {x : Vfs H}, SameOpen (vfsOpen v path flags).2 x → SameOpen v (vfsClose x fd) := by
      intro x hx i
      rw [openFiles_vfsClose_valid]
      by_cases hi : i = fd
      · rw [if_pos hi, hi, hfree]
      · rw [if_neg hi, hx i, hothers i hi]
    obtain ⟨hnone, -⟩ | ⟨fd', hfd', -, heq | heq⟩ := vfsPut_state v path flags bytes
    · cases hnone.symm.trans hfd
    · obtain rfl := Option.some.inj (hfd'.symm.trans hfd)
      rw [heq]
      exact hclosed fun _ => rfl
    · obtain rfl := Option.some.inj (hfd'.symm.trans hfd)
      rw [heq]
      exact hclosed (openFiles_vfsWrite_valid _ fd' bytes)

/-! ## Reading -/

/-- Only handles that are not open have changed. -/
structure OnlyReads (v w : Vfs H) : Prop where
  inodes : w.inodes = v.inodes
  inodeCount : w.inodeCount = v.inodeCount
  vfsInitialized : w.vfsInitialized = v.vfsInitialized
  sameOpen : SameOpen v w

omit [Allocator H] in
theorem OnlyReads.refl (v : Vfs H) : OnlyReads v v := ⟨rfl, rfl, rfl, fun _ => rfl⟩

omit [Allocator H] in
theorem OnlyReads.trans (h : OnlyReads u v) (h' : OnlyReads v w) : OnlyReads u w :=
  ⟨h'.inodes.trans h.inodes, h'.inodeCount.trans h.inodeCount, h'.vfsInitialized.trans h.vfsInitialized,
    h.sameOpen.trans h'.sameOpen⟩

omit [Allocator H] in
theorem OnlyReads.findInode_eq (h : OnlyReads v w) (q : CStr) : findInode w q = findInode v q :=
  findInode_congr h.inodeCount (fun i _ => by rw [h.inodes]) q

omit [Allocator H] in
theorem OnlyReads.fileAt_eq (h : OnlyReads v w) (q : CStr) : fileAt w q = fileAt v q := by
  unfold fileAt
  rw [h.findInode_eq, h.inodes]

omit [Allocator H] in
theorem vfsReadLoop_state (cap fd fuel : Nat) (v : Vfs H) (buf : List UInt8) :
    ∃ pos, (vfsReadLoop cap fd fuel v buf).2 = v.setPos fd pos := by
  induction fuel generalizing v buf with
  | zero => exact ⟨_, (setPos_self v fd).symm⟩
  | succ fuel ih =>
      rw [vfsReadLoop]
      split
      · obtain ⟨pos, hpos⟩ := vfsRead_state v fd (cap - 1 - buf.length)
        cases hread : vfsRead v fd (cap - 1 - buf.length) with
        | mk r w =>
            obtain rfl : w = v.setPos fd pos := by rw [hread] at hpos; exact hpos
            cases r with
            | ok bytes =>
                dsimp only
                split
                · obtain ⟨pos', hpos'⟩ := ih (v.setPos fd pos) (buf ++ bytes)
                  refine ⟨pos', hpos'.trans ?_⟩
                  simp [Vfs.setPos]
                · exact ⟨pos, rfl⟩
            | error e => exact ⟨pos, rfl⟩
      · exact ⟨_, (setPos_self v fd).symm⟩

theorem idle_vfsReadText (hinit : v.vfsInitialized = true) (path : CStr) (cap : Nat) :
    OnlyReads v (vfsReadText v path cap).2 := by
  unfold vfsReadText
  have hmounted : vfsInit v = v := if_pos hinit
  have hcases := vfsOpen_cases v path 0
  rw [hmounted] at hcases
  obtain ⟨heq, -⟩ | ⟨fd, hfd, ⟨idx, -, hfile, heq⟩ | ⟨hcreat, -, -⟩⟩ := hcases
  · rw [heq]
    exact OnlyReads.refl v
  · have hopened : opened v fd idx 0 = { v with openFiles := (opened v fd idx 0).openFiles } := by
      simp [opened, openInode, hfile, hasFlag]
    have hfiles : (opened v fd idx 0).openFiles = Function.update v.openFiles fd ⟨true, idx, 0, 0⟩ := by
      simp [opened, openInode, hfile, hasFlag]
    obtain ⟨pos, hpos⟩ := vfsReadLoop_state cap fd cap (opened v fd idx 0) []
    rw [heq]
    dsimp only
    rw [hpos]
    obtain hsame | hself := vfsClose_state ((opened v fd idx 0).setPos fd pos) fd
    · have hinodes : (vfsClose ((opened v fd idx 0).setPos fd pos) fd).inodes = v.inodes := by
        rw [hsame.inodes, hopened]
        rfl
      have hcount : (vfsClose ((opened v fd idx 0).setPos fd pos) fd).inodeCount = v.inodeCount := by
        rw [hsame.inodeCount, hopened]
        rfl
      have hready : (vfsClose ((opened v fd idx 0).setPos fd pos) fd).vfsInitialized = v.vfsInitialized := by
        rw [hsame.vfsInitialized, hopened]
        rfl
      refine ⟨hinodes, hcount, hready, fun i => ?_⟩
      rw [openFiles_vfsClose_valid]
      by_cases hi : i = fd
      · rw [if_pos hi, hi, findFreeFile_some hfd]
      · rw [if_neg hi]
        simp [Vfs.setPos, hfiles, Function.update_of_ne hi]
    · -- the handle is open, so the close is not idle
      have hvalid := valid_vfsClose ((opened v fd idx 0).setPos fd pos) fd
      rw [hself] at hvalid
      simp [Vfs.setPos, hfiles] at hvalid
  · cases hcreat

/-! ## What can be created -/

/-- At most `p` has been created. -/
structure CreatesOnly (p : CStr) (v w : Vfs H) : Prop where
  vfsInitialized : w.vfsInitialized = true
  inodeCount : v.inodeCount ≤ w.inodeCount
  there : ∀ q, (findInode v q).isSome → (findInode w q).isSome
  absent : ∀ q, q ≠ p → findInode v q = none → findInode w q = none
  sameOpen : SameOpen v w

theorem createsOnly_vfsMkdir (hinit : v.vfsInitialized = true) (hlen : p.length < maxPath) :
    CreatesOnly p v (vfsMkdir v p).2 := by
  obtain ⟨hready, hcount, hthere⟩ := grows_vfsMkdir v p hinit
  exact ⟨hready, hcount, hthere, fun q hq hnone => ((staysAbsent_frame q).mkdir v ⟨hlen, Ne.symm hq⟩ hinit hnone).2,
    sameOpen_vfsMkdir hinit p⟩

theorem createsOnly_vfsPut (hinit : v.vfsInitialized = true) (hlen : p.length < maxPath) (flags : Nat)
    (bytes : List UInt8) : CreatesOnly p v (vfsPut v p flags bytes).2 := by
  obtain ⟨hready, hcount, hthere⟩ := grows_frame.put v hlen flags bytes hinit
  exact ⟨hready, hcount, hthere,
    fun q hq hnone => ((staysAbsent_frame q).toCallFrame.put v ⟨hlen, Ne.symm hq⟩ flags bytes hinit hnone).2,
    sameOpen_vfsPut hinit p flags bytes⟩

omit [Allocator H] in
theorem OnlyReads.createsOnly (h : OnlyReads v w) (hinit : v.vfsInitialized = true) (p : CStr) : CreatesOnly p v w :=
  ⟨h.vfsInitialized.trans hinit, h.inodeCount.ge, fun q hq => by rwa [h.findInode_eq],
    fun q _ hq => by rwa [h.findInode_eq], h.sameOpen⟩

omit [Allocator H] in
theorem CreatesOnly.trans (h : CreatesOnly p u v) (h' : CreatesOnly p v w) : CreatesOnly p u w :=
  ⟨h'.vfsInitialized, h.inodeCount.trans h'.inodeCount, fun q hq => h'.there q (h.there q hq),
    fun q hne hq => h'.absent q hne (h.absent q hne hq), h.sameOpen.trans h'.sameOpen⟩

omit [Allocator H] in
theorem CreatesOnly.not_creatable (h : CreatesOnly p v w) (hq : getParentPath q ≠ p) (hnot : ¬ Creatable v q) :
    ¬ Creatable w q := fun hc => hnot <| by
  have hcount := h.inodeCount
  have hroom := hc.room
  refine ⟨by omega, ?_, hc.parent.imp id fun hparent => ?_⟩
  · by_contra hne
    have hthere := h.there q (Option.isSome_iff_ne_none.mpr hne)
    rw [hc.fresh] at hthere
    cases hthere
  · obtain ⟨j, hj⟩ := hparent
    refine Option.ne_none_iff_exists'.mp fun hnone => ?_
    rw [h.absent _ hq hnone] at hj
    cases hj

/-- A directory is there after `vfs_mkdir`, or cannot be created. -/
theorem not_creatable_vfsMkdir (hinit : v.vfsInitialized = true) (hlen : p.length < maxPath) :
    ¬ Creatable (vfsMkdir v p).2 p := by
  have hmounted : vfsInit v = v := if_pos hinit
  unfold vfsMkdir vfsMake
  rw [hmounted]
  by_cases hc : Creatable v p
  · rw [createInode_ok .dir hc]
    intro hc'
    have hfresh := hc'.fresh
    rw [(maybePersistPath_same (addInode v p .dir) p).findInode, findInode_addInode, hc.fresh,
      show (newInode v p .dir).path.val = p from strCpy_of_lt hlen, if_pos rfl] at hfresh
    cases hfresh
  · obtain hc' | ⟨e, he⟩ := createInode_cases v p .dir
    · exact absurd hc' hc
    · rw [he]
      exact hc

theorem vfsMkdir_blocked (hinit : v.vfsInitialized = true) (h : ¬ Creatable v p) : (vfsMkdir v p).2 = v := by
  have hmounted : vfsInit v = v := if_pos hinit
  unfold vfsMkdir vfsMake
  rw [hmounted]
  obtain hc | ⟨e, he⟩ := createInode_cases v p .dir
  · exact absurd hc h
  · rw [he]

theorem vfsOpen_blocked (hinit : v.vfsInitialized = true) (hnone : findInode v p = none)
    (h : ¬ Creatable v p ∨ findFreeFile v = none) (flags : Nat) : vfsOpen v p flags = (none, v) := by
  have hmounted : vfsInit v = v := if_pos hinit
  have hcases := vfsOpen_cases v p flags
  rw [hmounted] at hcases
  obtain ⟨heq, -⟩ | ⟨fd, hfd, ⟨idx, hidx, -, -⟩ | ⟨-, hc, -⟩⟩ := hcases
  · exact heq
  · rw [hnone] at hidx
    cases hidx
  · obtain hnot | hfull := h
    · exact absurd hc hnot
    · rw [hfull] at hfd
      cases hfd

theorem not_creatable_vfsPut (hinit : v.vfsInitialized = true) (hlen : p.length < maxPath)
    (hcreat : hasFlag flags oCreat = true) :
    ¬ Creatable (vfsPut v p flags bytes).2 p ∨ findFreeFile (vfsPut v p flags bytes).2 = none := by
  have hmounted : vfsInit v = v := if_pos hinit
  by_cases hopen : (vfsOpen v p flags).1 = none
  · have hcases := vfsOpen_cases v p flags
    rw [hmounted] at hcases
    obtain ⟨heq, hblocked⟩ | ⟨fd, -, ⟨idx, -, -, heq⟩ | ⟨-, -, heq⟩⟩ := hcases
    · have hput : (vfsPut v p flags bytes).2 = v := by rw [vfsPut, heq]
      rw [hput]
      cases hfree : findFreeFile v with
      | none => exact .inr rfl
      | some fd => exact .inl (hblocked (by rw [hfree]; rfl) hcreat)
    · rw [heq] at hopen
      cases hopen
    · rw [heq] at hopen
      cases hopen
  · refine .inl fun hc => ?_
    have hthere : (findInode (vfsPut v p flags bytes).2 p).isSome := by
      have hready := vfsInitialized_vfsOpen v p flags
      obtain ⟨-, hhandle⟩ := sameElsewhere_vfsOpen (v := v) hlen flags
      obtain ⟨hnone, -⟩ | ⟨fd, hfd, -, hput⟩ := vfsPut_state v p flags bytes
      · exact absurd hnone hopen
      have hfound : (findInode (vfsOpen v p flags).2 p).isSome := findInode_isSome_iff.mpr ⟨_, hhandle fd hfd⟩
      obtain heq | heq := hput
      · rw [heq]
        exact (grows_frame.close _ fd hready).2.2 p hfound
      · rw [heq]
        exact ((grows_vfsWrite _ fd bytes).trans (grows_frame.close _ fd) hready).2.2 p hfound
    simp [hc.fresh] at hthere

/-! ## How far a write came -/

/-- What a write of a whole file leaves there, if it begins at the end of `base`. -/
theorem vfsPut_filling {base : List UInt8} (hopen : vfsOpen v path flags = (none, v) ∨
      ∃ fd, (vfsOpen v path flags).1 = some fd ∧ Filling (vfsOpen v path flags).2 fd path base)
    (hsmall : base.length + bytes.length + 4095 < 2 ^ 64) :
    vfsPut v path flags bytes = (.notOpened, v) ∨
      (vfsPut v path flags bytes).1 = .done ∧ Holding (vfsPut v path flags bytes).2 path (base ++ bytes) ∨
        (vfsPut v path flags bytes).1 = .notWritten ∧ Holding (vfsPut v path flags bytes).2 path base := by
  unfold vfsPut
  obtain hnone | ⟨fd, hfd, hfill⟩ := hopen
  · rw [hnone]
    exact .inl rfl
  · obtain ⟨w, hopen⟩ : ∃ w, vfsOpen v path flags = (some fd, w) := ⟨_, Prod.ext hfd rfl⟩
    rw [hopen] at hfill ⊢
    dsimp only at hfill ⊢
    refine .inr ?_
    by_cases hpos : bytes.length > 0
    · rw [if_pos hpos]
      obtain ⟨e, heap, heq⟩ | ⟨hnil, -⟩ | ⟨heap, data, size, capacity, heq, -⟩ := vfsWrite_cases w fd bytes
      · have hheap : Filling { w with heap } fd path base := by
          obtain ⟨idx, hidx, hatEnd, hbytes⟩ := hfill
          exact ⟨idx, hidx, ⟨hatEnd.valid, hatEnd.inode, hatEnd.pos, hatEnd.file, hatEnd.stored⟩, hbytes⟩
        rw [heq]
        exact .inr ⟨rfl, hheap.close⟩
      · simp [hnil] at hpos
      · have hwritten := (hfill.write hsmall heq).close
        rw [heq]
        dsimp only
        rw [if_pos rfl]
        exact .inl ⟨rfl, hwritten⟩
    · have hnil : bytes = [] := List.length_eq_zero_iff.mp (by omega)
      rw [if_neg hpos, hnil, List.append_nil]
      exact .inl ⟨rfl, hfill.close⟩

/-- Without truncation a write that does not come to its end leaves the table alone. -/
theorem vfsPut_unwritten (hinit : v.vfsInitialized = true) (hblocked : ¬ Creatable v path ∨ findFreeFile v = none)
    (htrunc : hasFlag flags oTrunc = false) (hdone : (vfsPut v path flags bytes).1 ≠ .done) :
    (vfsPut v path flags bytes).2.inodes = v.inodes ∧ (vfsPut v path flags bytes).2.inodeCount = v.inodeCount := by
  have hmounted : vfsInit v = v := if_pos hinit
  have hcases := vfsOpen_cases v path flags
  rw [hmounted] at hcases
  have hclosed : ∀ {x : Vfs H} {fd : Nat}, x.inodes = v.inodes → x.inodeCount = v.inodeCount →
      (vfsClose x fd).inodes = v.inodes ∧ (vfsClose x fd).inodeCount = v.inodeCount := by
    intro x fd hinodes hcount
    obtain hsame | heq := vfsClose_state x fd
    · exact ⟨hsame.inodes.trans hinodes, hsame.inodeCount.trans hcount⟩
    · rw [heq]
      exact ⟨hinodes, hcount⟩
  unfold vfsPut at hdone ⊢
  obtain ⟨heq, -⟩ | ⟨fd, hfd, ⟨idx, -, hfile, heq⟩ | ⟨-, hc, -⟩⟩ := hcases
  · rw [heq]
    exact ⟨rfl, rfl⟩
  · have hopened : (opened v fd idx flags).inodes = v.inodes ∧ (opened v fd idx flags).inodeCount = v.inodeCount := by
      simp [opened, openInode, hfile, htrunc]
    rw [heq] at hdone ⊢
    dsimp only at hdone ⊢
    split at hdone
    next hpos =>
      rw [if_pos hpos]
      obtain ⟨e, heap, hwrite⟩ | ⟨hnil, -⟩ | ⟨heap, data, size, capacity, hwrite, -⟩ :=
        vfsWrite_cases (opened v fd idx flags) fd bytes
      · rw [hwrite]
        exact hclosed hopened.1 hopened.2
      · simp [hnil] at hpos
      · rw [hwrite] at hdone
        simp at hdone
    next => exact absurd rfl hdone
  · obtain hnot | hfull := hblocked
    · exact absurd hc hnot
    · rw [hfull] at hfd
      cases hfd

/-- With memory for every request a write of a whole file comes to its end if it is opened. -/
theorem vfsPut_ne_notWritten {base : List UInt8} (hroom : ∀ (h : H) n, (Allocator.malloc h n).1.isSome)
    (hopen : vfsOpen v path flags = (none, v) ∨
      ∃ fd, (vfsOpen v path flags).1 = some fd ∧ Filling (vfsOpen v path flags).2 fd path base) :
    (vfsPut v path flags bytes).1 ≠ .notWritten := by
  have hgrow : ∀ (x : Vfs H) idx n, (growInode x idx n).1 = true := by
    intro x idx n
    unfold growInode
    dsimp only
    split
    · have hsome := hroom x.heap (sizeAdd n 4095 / 4096 * 4096)
      split
      next hnone => simp [hnone] at hsome
      next => rfl
    · rfl
  unfold vfsPut
  obtain hnone | ⟨fd, hfd, idx, -, hend, -⟩ := hopen
  · simp [hnone]
  · obtain ⟨w, hw⟩ : ∃ w, vfsOpen v path flags = (some fd, w) := ⟨_, Prod.ext hfd rfl⟩
    rw [hw] at hend ⊢
    dsimp only at hend ⊢
    split
    next hpos =>
      have hdir : ¬ (w.inodes (w.openFiles fd).inode).type = .dir := by
        rw [hend.inode, hend.file]
        decide
      have hok : (vfsWrite w fd bytes).1 = .ok bytes.length := by
        have htrue := hgrow w (w.openFiles fd).inode (sizeAdd (w.openFiles fd).pos bytes.length)
        unfold vfsWrite
        dsimp only
        rw [if_neg (not_not.mpr hend.valid), if_neg (by omega), if_neg hdir]
        split
        next hfalse => simp [hfalse] at htrue
        next => rfl
      obtain ⟨w', hwrite⟩ : ∃ w', vfsWrite w fd bytes = (.ok bytes.length, w') := ⟨_, Prod.ext hok rfl⟩
      simp [hwrite]
    next => simp

/-- Nothing is opened without a free handle, or where there is no file and none can be created. -/
theorem vfsOpen_none (hinit : v.vfsInitialized = true)
    (h : findFreeFile v = none ∨ fileAt v path = none ∧ (¬ Creatable v path ∨ hasFlag flags oCreat = false)) :
    vfsOpen v path flags = (none, v) := by
  have hmounted : vfsInit v = v := if_pos hinit
  have hcases := vfsOpen_cases v path flags
  rw [hmounted] at hcases
  obtain ⟨heq, -⟩ | ⟨fd, hfd, hrest⟩ := hcases
  · exact heq
  · obtain hfull | ⟨hnone, hnot⟩ := h
    · rw [hfull] at hfd
      cases hfd
    · obtain ⟨idx, hidx, hfile, -⟩ | ⟨hcreat, hc, -⟩ := hrest
      · rw [fileAt_of_find hidx hfile] at hnone
        cases hnone
      · obtain hnot | hflag := hnot
        · exact absurd hc hnot
        · rw [hcreat] at hflag
          cases hflag

theorem vfsOpen_some (hinit : v.vfsInitialized = true) (hfree : (findFreeFile v).isSome)
    (hfile : (fileAt v path).isSome) (flags : Nat) : (vfsOpen v path flags).1 ≠ none := by
  have hmounted : vfsInit v = v := if_pos hinit
  obtain ⟨fd, hfd⟩ := Option.isSome_iff_exists.mp hfree
  unfold fileAt at hfile
  cases hidx : findInode v path with
  | none => simp [hidx] at hfile
  | some idx =>
      have htype : (v.inodes idx).type = .file := by
        by_contra hne
        simp [hidx, hne] at hfile
      simp [vfsOpen, hmounted, hfd, hidx, openInode, htype]

theorem vfsPut_ne_notOpened (h : (vfsOpen v path flags).1 ≠ none) : (vfsPut v path flags bytes).1 ≠ .notOpened := by
  obtain ⟨hnone, -⟩ | ⟨fd, -, hopened, -⟩ := vfsPut_state v path flags bytes
  · exact absurd hnone h
  · exact hopened

end Orizon
