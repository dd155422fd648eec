import Orizon.Vfs.Extent

/-!
# Orizon.Vfs.LastWritten

The bytes of a file that several handles write.

The abstract file is the log of its writes and truncations: an offset holds the
byte last written there since the last truncation, and zero where nothing was
written (`byteAt`).  `vfs_write` stores into a buffer fresh from `kmalloc` and
does not clear what lies between the old end of the file and the position it
writes at.  As long as no write starts behind the end there is no such gap, and
a read returns what the log says (`FileHolds.reads`).
-/

namespace Orizon

/-! ## The log -/

/-- What happens to the bytes of a file. -/
inductive FileEvent
  | truncated
  | wrote (pos : Nat) (buf : List UInt8)

/-- The byte at an offset, the newest event first. -/
def byteAt : List FileEvent → Nat → UInt8
  | [], _ => 0
  | .truncated :: _, _ => 0
  | .wrote pos buf :: log, i =>
      if pos ≤ i ∧ i < pos + buf.length then buf.getD (i - pos) 0 else byteAt log i

/-- The size of the file. -/
def sizeAfter : List FileEvent → Nat
  | [] => 0
  | .truncated :: _ => 0
  | .wrote pos buf :: log => max (sizeAfter log) (pos + buf.length)

/-- What a read of `count` bytes at `pos` returns. -/
def logRead (log : List FileEvent) (pos count : Nat) : List UInt8 :=
  (List.range (min count (sizeAfter log - pos))).map fun i => byteAt log (pos + i)

/-! ## Calls on one file -/

/-- A call on a file, or through a handle. -/
inductive FileCall
  | openFile (flags : Nat)
  | close (fd : Nat)
  | read (fd count : Nat)
  | write (fd : Nat) (buf : List UInt8)
  | seek (fd : Nat) (offset : Int) (whence : Whence)

/-- The call, made on the file at `path`. -/
def FileCall.on (path : CStr) : FileCall → HandleCall
  | .openFile flags => .tree (.openFile path flags)
  | .close fd => .close fd
  | .read fd count => .read fd count
  | .write fd buf => .write fd buf
  | .seek fd offset whence => .seek fd offset whence

/-- A file system, and the log of one of its files. -/
structure LoggedVfs where
  vfs : Vfs KernelHeap
  log : List FileEvent

/-- What a call does to the bytes of the file at `idx`: an open that returns a
handle may truncate it, and a write through a handle on it that is not refused
writes. -/
def fileEvents (path : CStr) (idx : Nat) (v : Vfs KernelHeap) : FileCall → List FileEvent
  | .openFile flags =>
      if (vfsOpen v path flags).1.isSome ∧ hasFlag flags oTrunc then [.truncated] else []
  | .write fd buf =>
      if (vfsWrite v fd buf).1.isOk ∧ buf ≠ [] ∧ (v.openFiles fd).inode = idx then
        [.wrote (v.openFiles fd).pos buf]
      else []
  | _ => []

/-- A call on the file at `path`, whose entry is `idx`. -/
def LoggedVfs.next (path : CStr) (idx : Nat) (s : LoggedVfs) (c : FileCall) : LoggedVfs :=
  ⟨handleCall s.vfs (c.on path), fileEvents path idx s.vfs c ++ s.log⟩

/-- A read through any handle on the file returns what its log says. -/
def ReadsBack (idx : Nat) (s : LoggedVfs) : Prop :=
  ∀ fd count, (s.vfs.openFiles fd).valid = true → (s.vfs.openFiles fd).inode = idx →
    (vfsRead s.vfs fd count).1 = .ok (logRead s.log (s.vfs.openFiles fd).pos count)

/-- The condition on a call and the state before it: a write that is not refused
starts at most at the end of the file. -/
def NoGap (idx : Nat) (s : LoggedVfs) : FileCall → Prop
  | .write fd buf => Writes s.vfs fd buf → (s.vfs.openFiles fd).inode = idx →
      ((s.vfs.openFiles fd).pos ≤ (s.vfs.inodes idx).size ∧
          (s.vfs.openFiles fd).pos + buf.length < 2 ^ 64) ∨
        GrowthRefused s.vfs idx (sizeAdd (s.vfs.openFiles fd).pos buf.length)
  | _ => True

/-! ## The invariant -/

/-- The file at `path` is the entry `idx`, and its bytes are those of the log. -/
structure FileHolds (path : CStr) (idx : Nat) (s : LoggedVfs) : Prop where
  backed : s.vfs.Backed
  found : findInode s.vfs path = some idx
  file : (s.vfs.inodes idx).type = .file
  size : (s.vfs.inodes idx).size = sizeAfter s.log
  bytes : ∀ i, i < sizeAfter s.log → (s.vfs.inodes idx).contents.getD i 0 = byteAt s.log i

section Invariant

variable {path : CStr} {idx : Nat} {s : LoggedVfs} {w : Vfs KernelHeap}

theorem FileHolds.reads (h : FileHolds path idx s) : ReadsBack idx s := by
  intro fd count hvalid hinode
  have hlen := length_contents (h.backed.entry idx).toStored
  have hread := vfsRead_contents hvalid (by rw [hinode]; exact h.file) count
  rw [hinode] at hread
  rw [hread]
  refine congrArg Except.ok (List.ext_getElem ?_ fun i hi hi' => ?_)
  · rw [List.length_take, List.length_drop, hlen, h.size]
    simp [logRead]
  · rw [List.length_take, List.length_drop, hlen, h.size] at hi
    have hbyte := h.bytes ((s.vfs.openFiles fd).pos + i) (by omega)
    rw [List.getD_eq_getElem?_getD, List.getElem?_eq_getElem (by rw [hlen, h.size]; omega),
      Option.getD_some] at hbyte
    simp only [logRead, List.getElem_take, List.getElem_drop, List.getElem_map, List.getElem_range]
    exact hbyte

theorem fileHolds_contents {v : Vfs KernelHeap} (hv : v.Backed) (hfind : findInode v path = some idx)
    (hfile : (v.inodes idx).type = .file) :
    FileHolds path idx ⟨v, [.wrote 0 (v.inodes idx).contents]⟩ := by
  have hlen := length_contents (hv.entry idx).toStored
  refine ⟨hv, hfind, hfile, ?_, fun i hi => ?_⟩
  · simp [sizeAfter, hlen]
  · have hi' : i < (v.inodes idx).contents.length := by simpa [sizeAfter] using hi
    simp [byteAt, hi']

theorem FileHolds.transport (h : FileHolds path idx s) (hbacked : w.Backed)
    (hfind : findInode w path = findInode s.vfs path)
    (hnode : w.inodes idx = s.vfs.inodes idx) : FileHolds path idx ⟨w, s.log⟩ := by
  refine ⟨hbacked, hfind.trans h.found, ?_, ?_, ?_⟩
  · rw [hnode]
    exact h.file
  · rw [hnode]
    exact h.size
  · rw [hnode]
    exact h.bytes

theorem FileHolds.openFile (h : FileHolds path idx s) (flags : Nat) :
    FileHolds path idx (s.next path idx (.openFile flags)) := by
  have hbacked := backed_handleCall h.backed (FileCall.on path (.openFile flags))
  have hinit := h.backed.mounted.vfsInit
  unfold LoggedVfs.next fileEvents
  dsimp only [FileCall.on, handleCall, treeCall] at hbacked ⊢
  rcases vfsOpen_cases s.vfs path flags with ⟨heq, -⟩ | ⟨fd, -, ⟨i, hi, -, heq⟩ | ⟨-, hc, -⟩⟩
  · rw [heq, hinit] at hbacked ⊢
    rw [if_neg (by simp)]
    exact h
  · rw [hinit, h.found] at hi
    obtain rfl := Option.some.inj hi
    have hdir : (s.vfs.inodes idx).type ≠ .dir := by
      rw [h.file]
      decide
    rw [heq, hinit] at hbacked ⊢
    have hfind : findInode (opened s.vfs fd idx flags) path = findInode s.vfs path := by
      obtain ⟨hcount, hentry⟩ := opened_shape s.vfs fd idx flags
      exact findInode_congr hcount (fun j _ => (hentry j).1) path
    by_cases htrunc : hasFlag flags oTrunc = true
    · rw [if_pos ⟨rfl, htrunc⟩]
      have hnode : (opened s.vfs fd idx flags).inodes idx =
          { s.vfs.inodes idx with data := none, size := 0, capacity := 0 } := by
        unfold opened openInode
        rw [if_neg hdir]
        dsimp only
        rw [if_pos htrunc]
        exact Function.update_self ..
      refine ⟨hbacked, hfind.trans h.found, ?_, ?_, ?_⟩
      · dsimp only
        rw [hnode]
        exact h.file
      · dsimp only
        rw [hnode]
        rfl
      · intro i hi
        exact absurd hi (Nat.not_lt_zero i)
    · rw [if_neg fun hboth => htrunc hboth.2]
      refine h.transport hbacked hfind ?_
      unfold opened openInode
      rw [if_neg hdir]
      dsimp only
      rw [if_neg htrunc]
  · rw [hinit] at hc
    have hfresh := hc.fresh
    rw [h.found] at hfresh
    cases hfresh

/-- The bytes of an entry after a write that starts at most at its end. -/
theorem contents_writtenNode {node : Inode} {data : Option DataBuf} {pos : Nat}
    {buf : List UInt8} (capacity : Nat) (hpos : pos ≤ node.size) (hend : pos + buf.length < 2 ^ 64)
    (hsome : data ≠ none)
    (hold : ∀ d, data = some d → ∀ i, i < node.size → d.bytes i = node.contents.getD i 0) :
    (writtenNode node data capacity pos buf).size = max node.size (pos + buf.length) ∧
      ∀ i, i < max node.size (pos + buf.length) →
        (writtenNode node data capacity pos buf).contents.getD i 0 =
          if pos ≤ i ∧ i < pos + buf.length then buf.getD (i - pos) 0 else node.contents.getD i 0 := by
  have hsum : sizeAdd pos buf.length = pos + buf.length := Nat.mod_eq_of_lt hend
  have hsize : (writtenNode node data capacity pos buf).size = max node.size (pos + buf.length) := by
    unfold writtenNode
    dsimp only
    rw [hsum]
    split <;> omega
  refine ⟨hsize, fun i hi => ?_⟩
  obtain ⟨d, rfl⟩ := Option.ne_none_iff_exists'.mp hsome
  have hbyte : (writtenNode node (some d) capacity pos buf).contents.getD i 0 =
      bufCopy d.bytes pos (bytesMem buf) buf.length i := by
    have hrange : i < (writtenNode node (some d) capacity pos buf).size := by rwa [hsize]
    have hlist : (writtenNode node (some d) capacity pos buf).contents =
        (List.range (writtenNode node (some d) capacity pos buf).size).map
          (bufCopy d.bytes pos (bytesMem buf) buf.length) := rfl
    rw [hlist]
    simp [hrange]
  rw [hbyte]
  by_cases hin : pos ≤ i ∧ i < pos + buf.length
  · rw [if_pos hin]
    simp [bufCopy, bytesMem, hin]
  · rw [if_neg hin, ← hold d rfl i (by omega)]
    exact if_neg hin

theorem path_update_writtenNode (inodes : Nat → Inode) (idx : Nat) (data : Option DataBuf) (capacity pos : Nat)
    (buf : List UInt8) (j : Nat) :
    (Function.update inodes idx (writtenNode (inodes idx) data capacity pos buf) j).path = (inodes j).path := by
  by_cases hj : j = idx
  · subst hj
    rw [Function.update_self]
    rfl
  · rw [Function.update_of_ne hj]

theorem FileHolds.write (h : FileHolds path idx s) {fd : Nat} {buf : List UInt8}
    (hgap : NoGap idx s (.write fd buf)) : FileHolds path idx (s.next path idx (.write fd buf)) := by
  have hbacked := backed_handleCall h.backed (FileCall.on path (.write fd buf))
  unfold LoggedVfs.next fileEvents
  dsimp only [FileCall.on, handleCall] at hbacked ⊢
  rcases vfsWrite_kernel h.backed fd buf with ⟨-, ⟨e, he⟩ | ⟨hnil, he⟩⟩ | ⟨-, -, heap, he⟩ |
    ⟨hwrites, hgrown, heap, data, capacity, he, hend, -, -, hnone, hold⟩
  · rw [he, if_neg fun hall => Bool.false_ne_true hall.1]
    exact h
  · rw [he, if_neg fun hall => hall.2.1 hnil]
    exact h
  · rw [he] at hbacked ⊢
    rw [if_neg fun hall => Bool.false_ne_true hall.1]
    exact h.transport hbacked rfl rfl
  rw [he] at hbacked ⊢
  dsimp only at hbacked
  have hlen : 0 < buf.length := List.length_pos_iff.mpr hwrites.some
  have hpaths := path_update_writtenNode s.vfs.inodes (s.vfs.openFiles fd).inode data capacity
    (s.vfs.openFiles fd).pos buf
  have hfind : ∀ u : Vfs KernelHeap, u.inodeCount = s.vfs.inodeCount →
      (∀ j, (u.inodes j).path = (s.vfs.inodes j).path) →
      findInode u path = findInode s.vfs path :=
    fun u hcount hsame => findInode_congr hcount (fun j _ => hsame j) path
  dsimp only
  by_cases hidx : (s.vfs.openFiles fd).inode = idx
  swap
  · -- another file's entry is written
    rw [if_neg fun hall => hidx hall.2.2]
    refine h.transport hbacked (hfind _ rfl hpaths) ?_
    exact Function.update_of_ne (Ne.symm hidx) _ _
  rw [if_pos ⟨rfl, hwrites.some, hidx⟩]
  subst hidx
  obtain ⟨hpos, hlt⟩ := (hgap hwrites rfl).resolve_right hgrown
  have hsum : sizeAdd (s.vfs.openFiles fd).pos buf.length = (s.vfs.openFiles fd).pos + buf.length :=
    Nat.mod_eq_of_lt hlt
  have hsome : data ≠ none := by
    intro hd
    have hzero := hnone hd
    omega
  obtain ⟨hsize, hbytes⟩ := contents_writtenNode capacity hpos hlt hsome hold
  refine ⟨hbacked, ?_, ?_, ?_, ?_⟩
  · refine Eq.trans (hfind _ ?_ ?_) h.found
    · rfl
    · exact hpaths
  · dsimp only
    rw [Function.update_self]
    exact h.file
  · dsimp only
    rw [Function.update_self, hsize, h.size]
    rfl
  · intro i hi
    dsimp only at hi ⊢
    rw [Function.update_self]
    have hi' : i < max (sizeAfter s.log) ((s.vfs.openFiles fd).pos + buf.length) := hi
    rw [h.size] at hbytes hpos
    rw [hbytes i hi']
    change _ = if (s.vfs.openFiles fd).pos ≤ i ∧ i < (s.vfs.openFiles fd).pos + buf.length then
      buf.getD (i - (s.vfs.openFiles fd).pos) 0 else byteAt s.log i
    split
    · rfl
    · exact h.bytes i (by omega)

theorem FileHolds.next (h : FileHolds path idx s) {c : FileCall} (hgap : NoGap idx s c) :
    FileHolds path idx (s.next path idx c) := by
  have hbacked := backed_handleCall h.backed (c.on path)
  cases c with
  | openFile flags => exact h.openFile flags
  | write fd buf => exact h.write hgap
  | close fd =>
      unfold LoggedVfs.next fileEvents
      dsimp only [FileCall.on, handleCall] at hbacked ⊢
      rcases vfsClose_state s.vfs fd with hsame | heq
      · refine h.transport hbacked ?_ ?_
        · exact (hsame.findInode path).trans rfl
        · rw [hsame.inodes]
          rfl
      · rw [heq]
        exact h
  | read fd count =>
      unfold LoggedVfs.next fileEvents
      dsimp only [FileCall.on, handleCall] at hbacked ⊢
      obtain ⟨pos, hpos⟩ := vfsRead_state s.vfs fd count
      rw [hpos] at hbacked ⊢
      exact h.transport hbacked rfl rfl
  | seek fd offset whence =>
      unfold LoggedVfs.next fileEvents
      dsimp only [FileCall.on, handleCall] at hbacked ⊢
      obtain ⟨pos, hpos⟩ := vfsSeek_state s.vfs fd offset whence
      rw [hpos] at hbacked ⊢
      exact h.transport hbacked rfl rfl

end Invariant

/-! ## Runs -/

theorem backed_run {v : Vfs KernelHeap} (h : v.Backed) (calls : List HandleCall) :
    (calls.foldl handleCall v).Backed := by
  induction calls generalizing v with
  | nil => exact h
  | cons c calls ih => exact ih (backed_handleCall h c)

/-- A store of another owner of a block. -/
def KernelHeap.write (h : KernelHeap) (ptr offset : Nat) (byte : UInt8) : KernelHeap :=
  match hlive : h.session.live ptr with
  | none => h
  | some n =>
      if hoff : offset < n then
        ⟨⟨{ h.session.heap with mem := store h.session.heap.mem 1 (ptr + offset) byte.toNat },
          h.session.live⟩, Or.inr (write_kept (kept_of_live h.inv hlive) hlive hoff)⟩
      else h

/-- The heap after its first block was allocated, written and released. -/
def usedHeap : KernelHeap :=
  ((KernelHeap.malloc KernelHeap.boot 4096).2.write (2 ^ 20 + 32) 0 9).free (2 ^ 20 + 32)

/-- The state after `vfs_create("/a")` on a heap. -/
def createdOn (heap : KernelHeap) : Vfs KernelHeap :=
  [HandleCall.tree (.create (cstr "/a"))].foldl handleCall (vfsInit (bootVfs heap noDisk bootPersist))

end Orizon
