import Orizon.Vfs.Shape

/-!
# Orizon.Vfs.Handles

What an open handle acts on.

A handle stores an index into the inode table.  Reading and writing through
it touch the entry at that index and no other (`vfsRead_contents`,
`vfsWrite_cases`).  Creating, opening and renaming other files leave the
entry where it is.  Deleting one moves the last entry into the hole and does
not look at the handles, so a handle keeps its file exactly when no deletion
finds the file in the last entry.
-/

namespace Orizon

variable {H : Type}

/-! ## Handles and files -/

/-- The handle `fd` is open on the file at `path`. -/
structure HandleOn (v : Vfs H) (fd : Nat) (path : CStr) : Prop where
  valid : (v.openFiles fd).valid = true
  live : (v.openFiles fd).inode < v.inodeCount
  named : (v.inodes (v.openFiles fd).inode).path.val = path
  file : (v.inodes (v.openFiles fd).inode).type = .file

/-- Reading and writing through `fd` act on the file at `path` and on no other
entry: a read returns the file's bytes from the handle's position on, a write
puts its bytes there, and neither moves or changes any other entry. -/
structure ActsOn [Allocator H] (v : Vfs H) (fd : Nat) (path : CStr) : Prop
    extends HandleOn v fd path where
  reads : ∀ count, (vfsRead v fd count).1 = .ok
    (((v.inodes (v.openFiles fd).inode).contents.drop (v.openFiles fd).pos).take count)
  readsOnly : ∀ count, (vfsRead v fd count).2.inodes = v.inodes
  writes : ∀ buf n, (vfsWrite v fd buf).1 = .ok n → n = buf.length ∧
    ∀ d, ((vfsWrite v fd buf).2.inodes (v.openFiles fd).inode).data = some d →
      ∀ k, k < buf.length → d.bytes ((v.openFiles fd).pos + k) = buf.getD k 0
  writesOnly : ∀ buf i, i ≠ (v.openFiles fd).inode → (vfsWrite v fd buf).2.inodes i = v.inodes i
  writesOn : ∀ buf, HandleOn (vfsWrite v fd buf).2 fd path

/-- A call while a handle is open. -/
inductive HandleCall
  | tree (c : TreeCall)
  | close (fd : Nat)
  | read (fd count : Nat)
  | write (fd : Nat) (buf : List UInt8)
  | seek (fd : Nat) (offset : Int) (whence : Whence)

/-- The state after a call, whatever it returned. -/
def handleCall [Allocator H] (v : Vfs H) : HandleCall → Vfs H
  | .tree c => treeCall v c
  | .close fd => vfsClose v fd
  | .read fd count => (vfsRead v fd count).2
  | .write fd buf => (vfsWrite v fd buf).2
  | .seek fd offset whence => (vfsSeek v fd offset whence).2

/-- A call on other paths: it neither names `path` nor renames a directory
`path` lies in, and does not close `fd`. -/
def Elsewhere (fd : Nat) (path : CStr) : HandleCall → Prop
  | .tree (.create q) => q ≠ path
  | .tree (.mkdir q) => q ≠ path
  | .tree (.openFile q _) => q ≠ path
  | .tree (.delete q) => q ≠ path
  | .tree (.rename oldpath newpath) => newpath ≠ path ∧ ¬ pathIsInside path oldpath = true
  | .close fd' => fd' ≠ fd
  | .read _ _ => True
  | .write _ _ => True
  | .seek _ _ _ => True

/-- The condition on a call and the state before it: a deletion does not find
the handle's file in the last entry. -/
def HandleCallOk (fd : Nat) (v : Vfs H) : HandleCall → Prop
  | .tree (.delete q) => ∀ idx, Deletable v q idx → (v.openFiles fd).inode ≠ v.inodeCount - 1
  | _ => True

/-! ## Reading and writing -/

section ReadWrite

variable {v : Vfs H} {fd : Nat} {path : CStr}

theorem vfsRead_contents (hvalid : (v.openFiles fd).valid = true)
    (hfile : (v.inodes (v.openFiles fd).inode).type = .file) (count : Nat) :
    (vfsRead v fd count).1 = .ok
      (((v.inodes (v.openFiles fd).inode).contents.drop (v.openFiles fd).pos).take count) := by
  have hdir : (v.inodes (v.openFiles fd).inode).type ≠ .dir := by
    rw [hfile]
    decide
  unfold vfsRead Inode.contents
  dsimp only
  rw [if_neg (not_not.mpr hvalid), if_neg hdir]
  by_cases hend : (v.openFiles fd).pos ≥ (v.inodes (v.openFiles fd).inode).size
  · rw [if_pos hend]
    cases (v.inodes (v.openFiles fd).inode).data with
    | none => simp
    | some d =>
        dsimp only
        rw [List.drop_of_length_le (by simpa using hend), List.take_nil]
  · rw [if_neg hend]
    cases (v.inodes (v.openFiles fd).inode).data with
    | none => simp
    | some d =>
        refine congrArg Except.ok (List.ext_getElem (by simp) fun i hi hi' => ?_)
        simp

/-- A handle at another position. -/
def Vfs.setPos (v : Vfs H) (fd pos : Nat) : Vfs H :=
  { v with openFiles := Function.update v.openFiles fd { v.openFiles fd with pos } }

theorem setPos_self (v : Vfs H) (fd : Nat) : v.setPos fd (v.openFiles fd).pos = v := by
  unfold Vfs.setPos
  rw [Function.update_eq_self]

theorem openFiles_setPos (v : Vfs H) (fd fd' pos : Nat) :
    ((v.setPos fd' pos).openFiles fd).valid = (v.openFiles fd).valid ∧
      ((v.setPos fd' pos).openFiles fd).inode = (v.openFiles fd).inode := by
  unfold Vfs.setPos
  dsimp only
  by_cases hfd : fd = fd'
  · subst hfd
    rw [Function.update_self]
    exact ⟨rfl, rfl⟩
  · rw [Function.update_of_ne hfd]
    exact ⟨rfl, rfl⟩

theorem vfsRead_state (v : Vfs H) (fd count : Nat) :
    ∃ pos, (vfsRead v fd count).2 = v.setPos fd pos := by
  have hself : ∃ pos, v = v.setPos fd pos := ⟨_, (setPos_self v fd).symm⟩
  unfold vfsRead
  dsimp only
  split
  · exact hself
  · split
    · exact hself
    · split
      · exact hself
      · exact ⟨_, rfl⟩

theorem vfsSeek_state (v : Vfs H) (fd : Nat) (offset : Int) (whence : Whence) :
    ∃ pos, (vfsSeek v fd offset whence).2 = v.setPos fd pos := by
  have hself : ∃ pos, v = v.setPos fd pos := ⟨_, (setPos_self v fd).symm⟩
  unfold vfsSeek
  dsimp only
  split
  · exact hself
  · cases whence with
    | set => exact ⟨_, rfl⟩
    | cur => exact ⟨_, rfl⟩
    | fromEnd => exact ⟨_, rfl⟩
    | other => exact hself

/-- A handle closed. -/
def Vfs.closeFile (v : Vfs H) (fd : Nat) : Vfs H :=
  { v with openFiles := Function.update v.openFiles fd { v.openFiles fd with valid := false } }

theorem vfsClose_state (v : Vfs H) (fd : Nat) :
    SameFiles (v.closeFile fd) (vfsClose v fd) ∨ vfsClose v fd = v := by
  unfold vfsClose
  dsimp only
  split
  · refine Or.inl ?_
    split
    · exact maybePersistInode_same _ _
    · exact SameFiles.refl _
  · exact Or.inr rfl

theorem growInode_cases [Allocator H] (v : Vfs H) (idx newSize : Nat) :
    (∃ heap, growInode v idx newSize = (false, { v with heap })) ∨
      ∃ heap data capacity, growInode v idx newSize =
        (true, { v with
          inodes := Function.update v.inodes idx { v.inodes idx with data, capacity }
          heap }) := by
  unfold growInode
  dsimp only
  by_cases hgrow : newSize > (v.inodes idx).capacity
  · rw [if_pos hgrow]
    cases hmalloc : Allocator.malloc v.heap (sizeAdd newSize 4095 / 4096 * 4096) with
    | mk newData heap =>
        cases newData with
        | none => exact Or.inl ⟨heap, rfl⟩
        | some newData =>
            refine Or.inr ?_
            dsimp only
            cases hdata : (v.inodes idx).data with
            | none => exact ⟨heap, _, _, rfl⟩
            | some d => exact ⟨_, _, _, rfl⟩
  · rw [if_neg hgrow]
    refine Or.inr ⟨v.heap, (v.inodes idx).data, (v.inodes idx).capacity, ?_⟩
    rw [Function.update_eq_self]

/-- The table after a write: the data, size and capacity of one entry. -/
def written (v : Vfs H) (fd : Nat) (data : Option DataBuf) (size capacity : Nat) : Nat → Inode :=
  Function.update v.inodes (v.openFiles fd).inode
    { v.inodes (v.openFiles fd).inode with data, size, capacity }

/-- A write fails and changes at most the heap, has nothing to write, or puts
its bytes into the handle's entry and moves the position. -/
theorem vfsWrite_cases [Allocator H] (v : Vfs H) (fd : Nat) (buf : List UInt8) :
    (∃ e heap, vfsWrite v fd buf = (.error e, { v with heap })) ∨
    (buf = [] ∧ vfsWrite v fd buf = (.ok 0, v)) ∨
    ∃ heap data size capacity,
      vfsWrite v fd buf = (.ok buf.length, { v with
        inodes := written v fd data size capacity
        openFiles := Function.update v.openFiles fd
          { v.openFiles fd with pos := sizeAdd (v.openFiles fd).pos buf.length }
        heap }) ∧
      ∀ d, data = some d → ∀ k, k < buf.length →
        d.bytes ((v.openFiles fd).pos + k) = buf.getD k 0 := by
  unfold vfsWrite
  dsimp only
  by_cases hvalid : ¬ (v.openFiles fd).valid = true
  · exact Or.inl ⟨.ebadf, v.heap, by rw [if_pos hvalid]⟩
  rw [if_neg hvalid]
  by_cases hempty : buf.length = 0
  · exact Or.inr (Or.inl ⟨List.length_eq_zero_iff.mp hempty, if_pos hempty⟩)
  rw [if_neg hempty]
  by_cases hdir : (v.inodes (v.openFiles fd).inode).type = .dir
  · exact Or.inl ⟨.eisdir, v.heap, by rw [if_pos hdir]⟩
  rw [if_neg hdir]
  rcases growInode_cases v (v.openFiles fd).inode (sizeAdd (v.openFiles fd).pos buf.length) with
    ⟨heap, hgrow⟩ | ⟨heap, data, capacity, hgrow⟩
  · exact Or.inl ⟨.enomem, heap, by rw [hgrow]⟩
  · rw [hgrow]
    have hbytes : ∀ d, data.map (fun d => { d with
        bytes := bufCopy d.bytes (v.openFiles fd).pos (bytesMem buf) buf.length }) = some d →
        ∀ k, k < buf.length → d.bytes ((v.openFiles fd).pos + k) = buf.getD k 0 := by
      intro d hd k hk
      obtain ⟨d', -, rfl⟩ := Option.map_eq_some_iff.mp hd
      simp [bufCopy, bytesMem, hk]
    refine Or.inr (Or.inr ⟨heap, _, if sizeAdd (v.openFiles fd).pos buf.length >
      (v.inodes (v.openFiles fd).inode).size then sizeAdd (v.openFiles fd).pos buf.length
      else (v.inodes (v.openFiles fd).inode).size, capacity, ?_, hbytes⟩)
    dsimp only
    simp only [written, Vfs.setInode, Function.update_self, Function.update_idem]

theorem HandleOn.actsOn [Allocator H] (h : HandleOn v fd path) : ActsOn v fd path where
  toHandleOn := h
  reads := vfsRead_contents h.valid h.file
  readsOnly count := by
    obtain ⟨pos, hpos⟩ := vfsRead_state v fd count
    rw [hpos]
    rfl
  writes buf n hn := by
    rcases vfsWrite_cases v fd buf with ⟨e, heap, he⟩ | ⟨rfl, he⟩ | ⟨heap, data, size, cap, he, hd⟩
    · rw [he] at hn
      cases hn
    · rw [he] at hn
      obtain rfl := Except.ok.inj hn
      exact ⟨rfl, fun d _ k hk => absurd hk (Nat.not_lt_zero k)⟩
    · rw [he] at hn ⊢
      obtain rfl := Except.ok.inj hn
      refine ⟨rfl, fun d hdata => hd d ?_⟩
      simpa [written] using hdata
  writesOnly buf i hi := by
    rcases vfsWrite_cases v fd buf with ⟨e, heap, he⟩ | ⟨-, he⟩ | ⟨heap, data, size, cap, he, -⟩ <;>
      rw [he]
    exact Function.update_of_ne hi ..
  writesOn buf := by
    rcases vfsWrite_cases v fd buf with ⟨e, heap, he⟩ | ⟨-, he⟩ | ⟨heap, data, size, cap, he, -⟩
    · rw [he]
      exact ⟨h.valid, h.live, h.named, h.file⟩
    · rw [he]
      exact h
    · rw [he]
      constructor <;> simp only [written, Function.update_self]
      · exact h.valid
      · exact h.live
      · exact h.named
      · exact h.file

end ReadWrite

/-! ## One call -/

section Calls

variable {v w : Vfs H} {fd : Nat} {path : CStr}

/-- A handle follows its file to a state where the handle, the entry's path
and the entry's type are the same. -/
theorem HandleOn.transport (h : HandleOn v fd path)
    (hfile : (w.openFiles fd).valid = (v.openFiles fd).valid ∧
      (w.openFiles fd).inode = (v.openFiles fd).inode)
    (hlive : (v.openFiles fd).inode < w.inodeCount)
    (hentry : (w.inodes (v.openFiles fd).inode).path = (v.inodes (v.openFiles fd).inode).path ∧
      (w.inodes (v.openFiles fd).inode).type = (v.inodes (v.openFiles fd).inode).type) :
    HandleOn w fd path := by
  obtain ⟨hvalid, hinode⟩ := hfile
  obtain ⟨hpath, htype⟩ := hentry
  constructor
  · rw [hvalid]
    exact h.valid
  · rw [hinode]
    exact hlive
  · rw [hinode, hpath]
    exact h.named
  · rw [hinode, htype]
    exact h.file

theorem SameFiles.handleOn_iff (h : SameFiles v w) : HandleOn w fd path ↔ HandleOn v fd path := by
  have hopen := h.openFiles
  have hnodes := h.inodes
  have hcount := h.inodeCount
  constructor
  · intro hw
    exact hw.transport (by rw [hopen]; exact ⟨rfl, rfl⟩) (by rw [← hcount]; exact hw.live)
      (by rw [hnodes]; exact ⟨rfl, rfl⟩)
  · intro hv
    exact hv.transport (by rw [hopen]; exact ⟨rfl, rfl⟩) (by rw [hcount]; exact hv.live)
      (by rw [hnodes]; exact ⟨rfl, rfl⟩)

theorem HandleOn.setPos (h : HandleOn v fd path) (fd' pos : Nat) :
    HandleOn (v.setPos fd' pos) fd path :=
  h.transport (openFiles_setPos v fd fd' pos) h.live ⟨rfl, rfl⟩

theorem HandleOn.addInode (h : HandleOn v fd path) (q : CStr) (type : InodeType) :
    HandleOn (addInode v q type) fd path := by
  refine h.transport ⟨rfl, rfl⟩ (Nat.lt_succ_of_lt h.live) ?_
  rw [inodes_addInode_of_lt h.live]
  exact ⟨rfl, rfl⟩

theorem HandleOn.opened [Allocator H] (h : HandleOn v fd path) {fd' : Nat} (hne : fd ≠ fd')
    (idx flags : Nat) : HandleOn (opened v fd' idx flags) fd path := by
  obtain ⟨hcount, hentry⟩ := opened_shape v fd' idx flags
  refine h.transport ?_ (by rw [hcount]; exact h.live) ⟨(hentry _).1, (hentry _).2.2.1⟩
  unfold Orizon.opened openInode
  split
  · exact ⟨rfl, rfl⟩
  · dsimp only
    rw [Function.update_of_ne hne]
    split
    · simp [truncateInode, Vfs.setInode]
    · exact ⟨rfl, rfl⟩

theorem findFreeFile_some {fd' : Nat} (h : findFreeFile v = some fd') :
    (v.openFiles fd').valid = false := by
  unfold findFreeFile at h
  simpa using List.find?_some h

theorem HandleOn.rename (h : HandleOn v fd path) {oldpath newpath : CStr} {idx parent : Nat}
    (hr : Renamable v oldpath newpath idx parent) (hout : ¬ pathIsInside path oldpath = true) :
    HandleOn { v with inodes := renamedInodes v idx parent oldpath newpath } fd path := by
  have hne : (v.openFiles fd).inode ≠ idx := by
    rintro heq
    have hpath := h.named
    rw [heq, (findInode_some hr.source).2] at hpath
    exact hout (pathIsInside_iff.mpr ⟨[], by simp [hpath], Or.inl rfl⟩)
  refine h.transport ⟨rfl, rfl⟩ h.live ?_
  dsimp only
  unfold renamedInodes
  rw [Function.update_of_ne hne]
  dsimp only
  rw [if_neg]
  · exact ⟨rfl, rfl⟩
  · rintro ⟨-, hmoved⟩
    simp only [renamesWith, Bool.and_eq_true] at hmoved
    rw [h.named] at hmoved
    exact hout hmoved.2

/-- A deletion keeps the handle on its file exactly when the file is not the
entry that moves. -/
theorem handleOn_removeInode_iff [Allocator H] (h : HandleOn v fd path) {q : CStr} {idx : Nat}
    (hd : Deletable v q idx) (hq : q ≠ path) :
    HandleOn (removeInode v idx) fd path ↔ (v.openFiles fd).inode ≠ v.inodeCount - 1 := by
  obtain ⟨hidx, hpath⟩ := findInode_some hd.source
  have hopen : (removeInode v idx).openFiles = v.openFiles := by simp [removeInode]
  constructor
  · intro hw hlast
    have hlive := hw.live
    rw [hopen, inodeCount_removeInode] at hlive
    omega
  · intro hlast
    have hlive := h.live
    have hne : (v.openFiles fd).inode ≠ idx := by
      intro heq
      apply hq
      rw [← hpath, ← heq, h.named]
    have hlt : (v.openFiles fd).inode < v.inodeCount - 1 := by omega
    refine h.transport (by rw [hopen]; exact ⟨rfl, rfl⟩) (by rw [inodeCount_removeInode]; exact hlt) ?_
    rw [inodes_removeInode hidx hlt]
    unfold movedFrom
    rw [if_neg hne]
    exact ⟨rfl, rfl⟩

theorem mounted_handleCall [Allocator H] (h : Mounted v) (c : HandleCall) :
    Mounted (handleCall v c) := by
  cases c with
  | tree c => exact mounted_treeCall h c
  | close fd' =>
      dsimp only [handleCall]
      rcases vfsClose_state v fd' with hsame | heq
      · exact hsame.mounted h
      · rw [heq]
        exact h
  | read fd' count =>
      dsimp only [handleCall]
      obtain ⟨pos, hpos⟩ := vfsRead_state v fd' count
      rw [hpos]
      exact h
  | write fd' buf =>
      dsimp only [handleCall]
      rcases vfsWrite_cases v fd' buf with
        ⟨e, heap, he⟩ | ⟨-, he⟩ | ⟨heap, data, size, cap, he, -⟩ <;> rw [he] <;> exact h
  | seek fd' offset whence =>
      dsimp only [handleCall]
      obtain ⟨pos, hpos⟩ := vfsSeek_state v fd' offset whence
      rw [hpos]
      exact h

theorem HandleOn.write [Allocator H] (h : HandleOn v fd path) (fd' : Nat) (buf : List UInt8) :
    HandleOn (vfsWrite v fd' buf).2 fd path := by
  rcases vfsWrite_cases v fd' buf with ⟨e, heap, he⟩ | ⟨-, he⟩ | ⟨heap, data, size, cap, he, -⟩ <;>
    rw [he]
  · exact ⟨h.valid, h.live, h.named, h.file⟩
  · exact h
  · refine h.transport (openFiles_setPos v fd fd' _) h.live ?_
    unfold written
    dsimp only
    by_cases hi : (v.openFiles fd).inode = (v.openFiles fd').inode
    · rw [hi, Function.update_self]
      exact ⟨rfl, rfl⟩
    · rw [Function.update_of_ne hi]
      exact ⟨rfl, rfl⟩

/-- A call on other paths keeps the handle on its file exactly when it does not
move the file's entry. -/
theorem handleOn_handleCall_iff [Allocator H] (hm : Mounted v) (h : HandleOn v fd path)
    {c : HandleCall} (hc : Elsewhere fd path c) :
    HandleOn (handleCall v c) fd path ↔ HandleCallOk fd v c := by
  have hmake : ∀ q type, HandleOn (vfsMake v q type).2 fd path := by
    intro q type
    rcases vfsMake_cases hm q type with ⟨-, -, hsame⟩ | ⟨-, e, he⟩
    · exact hsame.handleOn_iff.mpr (h.addInode q type)
    · rw [he]
      exact h
  cases c with
  | tree c =>
      cases c with
      | create q => exact iff_of_true (hmake q .file) trivial
      | mkdir q => exact iff_of_true (hmake q .dir) trivial
      | openFile q flags =>
          refine iff_of_true ?_ trivial
          dsimp only [handleCall, treeCall]
          rcases vfsOpen_cases v q flags with ⟨heq, -⟩ | ⟨fd', hfd', hrest⟩
          · rw [heq, hm.vfsInit]
            exact h
          · rw [hm.vfsInit] at hfd' hrest
            have hne : fd ≠ fd' := by
              rintro rfl
              have hfree := findFreeFile_some hfd'
              rw [h.valid] at hfree
              cases hfree
            rcases hrest with ⟨idx, -, -, heq⟩ | ⟨-, -, heq⟩
            · rw [heq]
              exact h.opened hne idx flags
            · rw [heq]
              exact (h.addInode q .file).opened hne _ flags
      | delete q =>
          dsimp only [handleCall, treeCall, HandleCallOk]
          rcases vfsDelete_cases v q with ⟨idx, hd⟩ | ⟨e, he⟩
          · rw [vfsDelete_ok hd, (persistIf_same _ _).handleOn_iff,
              handleOn_removeInode_iff h hd hc]
            exact ⟨fun hlast _ _ => hlast, fun hall => hall idx hd⟩
          · rw [he]
            refine iff_of_true h fun idx hd => ?_
            rw [vfsDelete_ok hd] at he
            cases (Prod.mk.inj he).1
      | rename oldpath newpath =>
          refine iff_of_true ?_ trivial
          dsimp only [handleCall, treeCall]
          rcases vfsRename_cases v oldpath newpath with ⟨idx, parent, hr⟩ | ⟨e, he⟩
          · rw [vfsRename_ok hr, (persistIf_same _ _).handleOn_iff]
            exact h.rename hr hc.2
          · rw [he]
            exact h
  | close fd' =>
      refine iff_of_true ?_ trivial
      dsimp only [handleCall]
      rcases vfsClose_state v fd' with hsame | heq
      · refine hsame.handleOn_iff.mpr (h.transport ?_ h.live ⟨rfl, rfl⟩)
        unfold Vfs.closeFile
        dsimp only
        rw [Function.update_of_ne (Ne.symm hc)]
        exact ⟨rfl, rfl⟩
      · rw [heq]
        exact h
  | read fd' count =>
      refine iff_of_true ?_ trivial
      dsimp only [handleCall]
      obtain ⟨pos, hpos⟩ := vfsRead_state v fd' count
      rw [hpos]
      exact h.setPos fd' pos
  | write fd' buf => exact iff_of_true (h.write fd' buf) trivial
  | seek fd' offset whence =>
      refine iff_of_true ?_ trivial
      dsimp only [handleCall]
      obtain ⟨pos, hpos⟩ := vfsSeek_state v fd' offset whence
      rw [hpos]
      exact h.setPos fd' pos

end Calls

/-! ## Runs -/

section Runs

variable [Allocator H] {v w : Vfs H} {fd : Nat} {path : CStr}

theorem openFiles_opened (fd flags : Nat) {idx : Nat} (hfile : (v.inodes idx).type = .file) :
    ((opened v fd idx flags).openFiles fd).valid = true ∧
      ((opened v fd idx flags).openFiles fd).inode = idx := by
  have hdir : (v.inodes idx).type ≠ .dir := by
    rw [hfile]
    decide
  unfold opened openInode
  rw [if_neg hdir]
  dsimp only
  rw [Function.update_self]
  exact ⟨rfl, rfl⟩

theorem handleOn_opened {idx flags : Nat} (hidx : idx < v.inodeCount)
    (hpath : (v.inodes idx).path.val = path) (hfile : (v.inodes idx).type = .file) :
    HandleOn (opened v fd idx flags) fd path := by
  obtain ⟨hvalid, hinode⟩ := openFiles_opened fd flags hfile
  obtain ⟨hcount, hentry⟩ := opened_shape v fd idx flags
  constructor
  · exact hvalid
  · rw [hinode, hcount]
    exact hidx
  · rw [hinode, (hentry idx).1]
    exact hpath
  · rw [hinode, (hentry idx).2.2.1]
    exact hfile

theorem vfsInitialized_vfsInit (v : Vfs H) : (vfsInit v).vfsInitialized = true := by
  unfold vfsInit
  split
  · assumption
  · rfl

/-- The handle `vfs_open` returns is on the file it named, unless the path was
cut. -/
theorem handleOn_vfsOpen {flags : Nat} (h : vfsOpen v path flags = (some fd, w))
    (hlen : path.length < maxPath) : Mounted w ∧ HandleOn w fd path := by
  have hon : HandleOn w fd path ∧ w.vfsInitialized = true := by
    rcases vfsOpen_cases v path flags with ⟨heq, -⟩ | ⟨fd', -, ⟨idx, hidx, hfile, heq⟩ | ⟨-, -, heq⟩⟩
    · rw [heq] at h
      cases (Prod.mk.inj h).1
    · rw [heq] at h
      obtain ⟨hfd, rfl⟩ := Prod.mk.inj h
      obtain rfl := Option.some.inj hfd
      obtain ⟨hlt, hpath⟩ := findInode_some hidx
      exact ⟨handleOn_opened hlt hpath hfile, by
        rw [vfsInitialized_opened, vfsInitialized_vfsInit]⟩
    · rw [heq] at h
      obtain ⟨hfd, rfl⟩ := Prod.mk.inj h
      obtain rfl := Option.some.inj hfd
      refine ⟨handleOn_opened (Nat.lt_succ_self _) ?_ ?_, ?_⟩
      · rw [inodes_addInode_self]
        exact strCpy_of_lt hlen
      · rw [inodes_addInode_self]
        rfl
      · rw [vfsInitialized_opened]
        exact vfsInitialized_vfsInit v
  exact ⟨⟨hon.2, Nat.zero_lt_of_lt hon.1.live⟩, hon.1⟩

end Runs

/-! ## Two runs -/

/-- The state after booting and creating a file. -/
def bootWith (path : CStr) : Vfs KernelHeap :=
  (vfsCreate (bootVfs KernelHeap.boot noDisk bootPersist) path).2

end Orizon
