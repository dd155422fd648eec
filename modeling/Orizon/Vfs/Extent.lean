import Orizon.Vfs.WholeFile

/-!
# Orizon.Vfs.Extent

Writes inside their buffer.

No call leaves an entry with more bytes than its buffer has room for
(`backed_handleCall`): the tree calls move, drop or keep buffers
(`buffer_treeCall`), and a write grows the buffer to what it compares the
capacity with (`growInode_kernel`).  That is the end of the write modulo 2⁶⁴,
and `vfs_seek` takes any offset; so a write stores inside the buffer exactly if
its end does not wrap, or if it wraps and the heap refuses the growth.
-/

namespace Orizon

/-! ## The kernel's allocator -/

/-- `kmalloc(0)` is `NULL`. -/
theorem KernelHeap.malloc_zero (h : KernelHeap) : (Allocator.malloc h 0).1 = none := by
  have hrun : kmalloc h.session.heap 0 = some (0, kmallocInit h.session.heap) := by
    unfold kmalloc
    exact if_pos rfl
  change (KernelHeap.malloc h 0).1 = none
  unfold KernelHeap.malloc
  rw [dif_pos (by decide)]
  split
  · rfl
  · next ptr heap hsome =>
      rw [hrun] at hsome
      obtain ⟨rfl, -⟩ := Prod.mk.inj (Option.some.inj hsome)
      rfl

/-! ## The buffers of a table -/

variable {H : Type}

/-- What an entry knows of its bytes. -/
def Inode.buffer (node : Inode) : Option DataBuf × Nat × Nat := (node.data, node.size, node.capacity)

section Buffers

variable [Allocator H] {v : Vfs H}

omit [Allocator H] in
theorem SameFiles.buffer_eq {w : Vfs H} (h : SameFiles v w) (i : Nat) :
    (w.inodes i).buffer = (v.inodes i).buffer := by
  rw [h.inodes]

omit [Allocator H] in
theorem buffer_addInode (v : Vfs H) (path : CStr) (type : InodeType) (i : Nat) :
    ((addInode v path type).inodes i).buffer = (v.inodes i).buffer ∨
      ((addInode v path type).inodes i).buffer = (none, 0, 0) := by
  by_cases hi : i = v.inodeCount
  · subst hi
    rw [inodes_addInode_self]
    exact Or.inr rfl
  · exact Or.inl (congrArg Inode.buffer (Function.update_of_ne hi _ _))

theorem buffer_opened (v : Vfs H) (fd idx flags : Nat) (i : Nat) :
    ((opened v fd idx flags).inodes i).buffer = (v.inodes i).buffer ∨
      ((opened v fd idx flags).inodes i).buffer = (none, 0, 0) := by
  unfold opened openInode
  split
  · exact Or.inl rfl
  · dsimp only
    split
    · unfold truncateInode Vfs.setInode
      dsimp only
      by_cases hi : i = idx
      · subst hi
        rw [Function.update_self]
        exact Or.inr rfl
      · rw [Function.update_of_ne hi, inodes_freeData]
        exact Or.inl rfl
    · exact Or.inl rfl

theorem buffer_removeInode (v : Vfs H) (idx i : Nat) :
    ∃ j, ((removeInode v idx).inodes i).buffer = (v.inodes j).buffer := by
  unfold removeInode
  simp only [inodeCount_freeData, inodes_freeData]
  split
  · unfold moveLastInode
    simp only [inodeCount_freeData, inodes_freeData]
    by_cases hi : i = idx
    · subst hi
      simp only [Function.update_self]
      split
      · exact ⟨_, rfl⟩
      · exact ⟨_, rfl⟩
    · simp only [Function.update_of_ne hi]
      split
      · exact ⟨i, rfl⟩
      · exact ⟨i, rfl⟩
  · exact ⟨i, rfl⟩

omit [Allocator H] in
theorem buffer_renamedInodes (v : Vfs H) (idx parent : Nat) (oldpath newpath : CStr) (i : Nat) :
    (renamedInodes v idx parent oldpath newpath i).buffer = (v.inodes i).buffer := by
  have hmoved : ∀ j, (if (v.inodes idx).type = .dir ∧ renamesWith v idx oldpath j = true then
      { v.inodes j with path := renamedPath oldpath newpath (v.inodes j).path.val }
      else v.inodes j).buffer = (v.inodes j).buffer := by
    intro j
    split <;> rfl
  unfold renamedInodes
  dsimp only
  by_cases hi : i = idx
  · subst hi
    rw [Function.update_self]
    exact hmoved i
  · rw [Function.update_of_ne hi]
    exact hmoved i

theorem buffer_treeCall (h : Mounted v) (c : TreeCall) (i : Nat) :
    (∃ j, ((treeCall v c).inodes i).buffer = (v.inodes j).buffer) ∨
      ((treeCall v c).inodes i).buffer = (none, 0, 0) := by
  have hmake : ∀ path type, ((vfsMake v path type).2.inodes i).buffer = (v.inodes i).buffer ∨
      ((vfsMake v path type).2.inodes i).buffer = (none, 0, 0) := by
    intro path type
    rcases vfsMake_cases h path type with ⟨-, -, hsame⟩ | ⟨-, e, he⟩
    · rw [hsame.buffer_eq]
      exact buffer_addInode v path type i
    · rw [he]
      exact Or.inl rfl
  cases c with
  | create path => exact (hmake path .file).imp_left fun heq => ⟨i, heq⟩
  | mkdir path => exact (hmake path .dir).imp_left fun heq => ⟨i, heq⟩
  | openFile path flags =>
      dsimp only [treeCall]
      rcases vfsOpen_cases v path flags with ⟨heq, -⟩ | ⟨fd, -, ⟨idx, -, -, heq⟩ | ⟨-, -, heq⟩⟩ <;>
        rw [heq, h.vfsInit]
      · exact Or.inl ⟨i, rfl⟩
      · exact (buffer_opened v fd idx flags i).imp_left fun heq => ⟨i, heq⟩
      · rcases buffer_opened (addInode v path .file) fd v.inodeCount flags i with heq | heq
        · rw [heq]
          exact (buffer_addInode v path .file i).imp_left fun heq => ⟨i, heq⟩
        · exact Or.inr heq
  | delete path =>
      dsimp only [treeCall]
      rcases vfsDelete_cases v path with ⟨idx, hd⟩ | ⟨e, he⟩
      · rw [vfsDelete_ok hd, (persistIf_same _ _).buffer_eq]
        exact Or.inl (buffer_removeInode v idx i)
      · rw [he]
        exact Or.inl ⟨i, rfl⟩
  | rename oldpath newpath =>
      dsimp only [treeCall]
      rcases vfsRename_cases v oldpath newpath with ⟨idx, parent, hr⟩ | ⟨e, he⟩
      · rw [vfsRename_ok hr, (persistIf_same _ _).buffer_eq]
        exact Or.inl ⟨i, buffer_renamedInodes v idx parent oldpath newpath i⟩
      · rw [he]
        exact Or.inl ⟨i, rfl⟩

end Buffers

/-! ## Growing -/

/-- `vfs_write` needs a larger buffer, and `kmalloc` has none. -/
def GrowthRefused [Allocator H] (v : Vfs H) (idx newSize : Nat) : Prop :=
  newSize > (v.inodes idx).capacity ∧
    (Allocator.malloc v.heap (sizeAdd newSize 4095 / 4096 * 4096)).1 = none

/-- An entry whose bytes lie in a buffer that has room for them, of a size a
`size_t` holds. -/
structure Inode.Backed (node : Inode) : Prop extends node.Stored where
  small : node.capacity < 2 ^ 64

theorem Inode.Backed.congr {node node' : Inode} (h : node.Backed)
    (hbuffer : node'.buffer = node.buffer) : node'.Backed := by
  obtain ⟨hdata, hrest⟩ := Prod.mk.inj hbuffer
  obtain ⟨hsize, hcapacity⟩ := Prod.mk.inj hrest
  constructor
  · constructor
    · rw [hdata, hcapacity]
      exact h.empty
    · rw [hsize, hcapacity]
      exact h.fits
  · rw [hcapacity]
    exact h.small

theorem backed_empty {node : Inode} (hbuffer : node.buffer = (none, 0, 0)) : node.Backed := by
  obtain ⟨hdata, hrest⟩ := Prod.mk.inj hbuffer
  obtain ⟨hsize, hcapacity⟩ := Prod.mk.inj hrest
  exact ⟨⟨fun _ => hcapacity, by omega⟩, by omega⟩

/-- Every entry is backed. -/
structure Vfs.Backed (v : Vfs H) : Prop where
  mounted : Mounted v
  entry : ∀ i, (v.inodes i).Backed

/-- Growing is refused, or the buffer has room for the new size and holds the
old bytes. -/
theorem growInode_kernel {v : Vfs KernelHeap} {idx newSize : Nat} (h : (v.inodes idx).Backed)
    (hlt : newSize < 2 ^ 64) :
    (GrowthRefused v idx newSize ∧ ∃ heap, growInode v idx newSize = (false, { v with heap })) ∨
      ¬ GrowthRefused v idx newSize ∧ ∃ heap data capacity, growInode v idx newSize =
          (true, { v with
            inodes := Function.update v.inodes idx { v.inodes idx with data, capacity }
            heap }) ∧
        newSize ≤ capacity ∧ (v.inodes idx).size ≤ capacity ∧ capacity < 2 ^ 64 ∧
        (data = none → capacity = 0) ∧
        ∀ d, data = some d → ∀ i, i < (v.inodes idx).size →
          d.bytes i = (v.inodes idx).contents.getD i 0 := by
  have hfits := h.fits
  have hread : ∀ d, (v.inodes idx).data = some d → ∀ i, i < (v.inodes idx).size →
      d.bytes i = (v.inodes idx).contents.getD i 0 := by
    intro d hd i hi
    simp [Inode.contents, hd, hi]
  unfold growInode
  dsimp only
  by_cases hgrow : newSize > (v.inodes idx).capacity
  swap
  · rw [if_neg hgrow]
    refine Or.inr ⟨fun hrefused => hgrow hrefused.1, v.heap, (v.inodes idx).data,
      (v.inodes idx).capacity, ?_, Nat.not_lt.mp hgrow, hfits, h.small, h.empty, hread⟩
    rw [Function.update_eq_self]
  rw [if_pos hgrow]
  cases hmalloc : Allocator.malloc v.heap (sizeAdd newSize 4095 / 4096 * 4096) with
  | mk fresh heap =>
      cases fresh with
      | none => exact Or.inl ⟨⟨hgrow, congrArg Prod.fst hmalloc⟩, heap, rfl⟩
      | some fresh =>
          -- a size that wraps in the rounding asks for nothing, and gets nothing
          have hround : newSize + 4095 < 2 ^ 64 := by
            by_contra hwrap
            have hzero : sizeAdd newSize 4095 / 4096 * 4096 = 0 := by
              unfold sizeAdd
              omega
            have hnull := KernelHeap.malloc_zero v.heap
            rw [← hzero, hmalloc] at hnull
            cases hnull
          have hcap : sizeAdd newSize 4095 = newSize + 4095 := Nat.mod_eq_of_lt hround
          refine Or.inr ⟨fun hrefused => ?_, ?_⟩
          · have hnull := hrefused.2
            rw [hmalloc] at hnull
            cases hnull
          dsimp only
          rw [hcap]
          cases hdata : (v.inodes idx).data with
          | none =>
              refine ⟨heap, some fresh, (newSize + 4095) / 4096 * 4096, rfl, by omega, by omega,
                by omega, fun hnull => absurd hnull (Option.some_ne_none _), fun d _ i hi => ?_⟩
              have hzero := h.empty hdata
              omega
          | some d =>
              refine ⟨_, some { fresh with bytes := bufCopy fresh.bytes 0 d.bytes (v.inodes idx).size },
                (newSize + 4095) / 4096 * 4096, rfl, by omega, by omega, by omega,
                fun hnull => absurd hnull (Option.some_ne_none _), ?_⟩
              intro d' hd' i hi
              obtain rfl := Option.some.inj hd'
              rw [← hread d hdata i hi]
              simp [bufCopy, hi]

/-! ## Writing -/

/-- A handle open for writing, with something to write. -/
structure Writes (v : Vfs H) (fd : Nat) (buf : List UInt8) : Prop where
  valid : (v.openFiles fd).valid = true
  some : buf ≠ []
  notDir : (v.inodes (v.openFiles fd).inode).type ≠ .dir

/-- The entry after a write of `buf` at `pos` into a buffer `data`. -/
def writtenNode (node : Inode) (data : Option DataBuf) (capacity pos : Nat) (buf : List UInt8) :
    Inode :=
  { node with
    data := data.map fun d => { d with bytes := bufCopy d.bytes pos (bytesMem buf) buf.length }
    size := if sizeAdd pos buf.length > node.size then sizeAdd pos buf.length else node.size
    capacity }

section Write

variable {v : Vfs KernelHeap} {fd : Nat} {buf : List UInt8}

/-- A write fails or has nothing to do, and changes at most the heap; or its
growth is refused; or it stores its bytes in a buffer that its end, as computed,
fits. -/
theorem vfsWrite_kernel (h : v.Backed) (fd : Nat) (buf : List UInt8) :
    (¬ Writes v fd buf ∧ ((∃ e, vfsWrite v fd buf = (.error e, v)) ∨
        buf = [] ∧ vfsWrite v fd buf = (.ok 0, v))) ∨
    (Writes v fd buf ∧
        GrowthRefused v (v.openFiles fd).inode (sizeAdd (v.openFiles fd).pos buf.length) ∧
        ∃ heap, vfsWrite v fd buf = (.error .enomem, { v with heap })) ∨
      Writes v fd buf ∧
        ¬ GrowthRefused v (v.openFiles fd).inode (sizeAdd (v.openFiles fd).pos buf.length) ∧
        ∃ heap data capacity, vfsWrite v fd buf = (.ok buf.length, { v with
            inodes := Function.update v.inodes (v.openFiles fd).inode (writtenNode
              (v.inodes (v.openFiles fd).inode) data capacity (v.openFiles fd).pos buf)
            openFiles := Function.update v.openFiles fd
              { v.openFiles fd with pos := sizeAdd (v.openFiles fd).pos buf.length }
            heap }) ∧
          sizeAdd (v.openFiles fd).pos buf.length ≤ capacity ∧
          (v.inodes (v.openFiles fd).inode).size ≤ capacity ∧ capacity < 2 ^ 64 ∧
          (data = none → capacity = 0) ∧
          ∀ d, data = some d → ∀ i, i < (v.inodes (v.openFiles fd).inode).size →
            d.bytes i = (v.inodes (v.openFiles fd).inode).contents.getD i 0 := by
  unfold vfsWrite
  dsimp only
  by_cases hvalid : ¬ (v.openFiles fd).valid = true
  · rw [if_pos hvalid]
    exact Or.inl ⟨fun hw => hvalid hw.valid, Or.inl ⟨.ebadf, rfl⟩⟩
  rw [if_neg hvalid]
  by_cases hempty : buf.length = 0
  · rw [if_pos hempty]
    have hnil := List.length_eq_zero_iff.mp hempty
    exact Or.inl ⟨fun hw => hw.some hnil, Or.inr ⟨hnil, rfl⟩⟩
  rw [if_neg hempty]
  by_cases hdir : (v.inodes (v.openFiles fd).inode).type = .dir
  · rw [if_pos hdir]
    exact Or.inl ⟨fun hw => hw.notDir hdir, Or.inl ⟨.eisdir, rfl⟩⟩
  rw [if_neg hdir]
  have hwrites : Writes v fd buf :=
    ⟨not_not.mp hvalid, fun hnil => hempty (List.length_eq_zero_iff.mpr hnil), hdir⟩
  rcases growInode_kernel (h.entry (v.openFiles fd).inode)
      (show sizeAdd (v.openFiles fd).pos buf.length < 2 ^ 64 from Nat.mod_lt _ (by decide)) with
    ⟨hrefused, heap, hgrow⟩ | ⟨hgrown, heap, data, capacity, hgrow, hroom⟩
  · rw [hgrow]
    exact Or.inr (Or.inl ⟨hwrites, hrefused, heap, rfl⟩)
  · rw [hgrow]
    refine Or.inr (Or.inr ⟨hwrites, hgrown, heap, data, capacity, ?_, hroom⟩)
    simp only [writtenNode, Vfs.setInode, Function.update_self, Function.update_idem]

theorem backed_handleCall (h : v.Backed) (c : HandleCall) : (handleCall v c).Backed := by
  refine ⟨mounted_handleCall h.mounted c, fun i => ?_⟩
  cases c with
  | tree c =>
      rcases buffer_treeCall h.mounted c i with ⟨j, heq⟩ | heq
      · exact (h.entry j).congr heq
      · exact backed_empty heq
  | close fd' =>
      dsimp only [handleCall]
      rcases vfsClose_state v fd' with hsame | heq
      · exact (h.entry i).congr (hsame.buffer_eq i)
      · rw [heq]
        exact h.entry i
  | read fd' count =>
      dsimp only [handleCall]
      obtain ⟨pos, hpos⟩ := vfsRead_state v fd' count
      rw [hpos]
      exact h.entry i
  | seek fd' offset whence =>
      dsimp only [handleCall]
      obtain ⟨pos, hpos⟩ := vfsSeek_state v fd' offset whence
      rw [hpos]
      exact h.entry i
  | write fd' buf =>
      dsimp only [handleCall]
      rcases vfsWrite_kernel h fd' buf with ⟨-, ⟨e, he⟩ | ⟨-, he⟩⟩ | ⟨-, -, heap, he⟩ |
        ⟨-, -, heap, data, capacity, he, hend, hsize, hsmall, hnone, -⟩
      · rw [he]
        exact h.entry i
      · rw [he]
        exact h.entry i
      · rw [he]
        exact h.entry i
      · rw [he]
        dsimp only
        by_cases hi : i = (v.openFiles fd').inode
        · subst hi
          rw [Function.update_self]
          refine ⟨⟨fun hmap => hnone (Option.map_eq_none_iff.mp hmap), ?_⟩, hsmall⟩
          unfold writtenNode
          dsimp only
          split <;> omega
        · rw [Function.update_of_ne hi]
          exact h.entry i

theorem backed_vfsInit (heap : KernelHeap) (disk : Disk) (persist : Persist) :
    (vfsInit (bootVfs heap disk persist)).Backed := by
  refine ⟨(vfsInit_bootVfs heap disk persist).1, fun i => ?_⟩
  rw [vfsInit_bootVfs_eq]
  refine backed_empty ?_
  rcases buffer_addInode (bootVfs (Allocator.init heap) disk persist) [slash] .dir i with heq | heq
  · exact heq.trans rfl
  · exact heq

end Write

/-! ## One call -/

/-- The position a seek asks for. -/
def seekTarget (v : Vfs H) (fd : Nat) (offset : Int) : Whence → Option Int
  | .set => some offset
  | .cur => some ((v.openFiles fd).pos + offset)
  | .fromEnd => some ((v.inodes (v.openFiles fd).inode).size + offset)
  | .other => none

/-- A seek to no offset of a file is refused; a write that is not refused has
stored its bytes inside the buffer of its entry. -/
def StoresInside (v : Vfs KernelHeap) : HandleCall → Prop
  | .seek fd offset whence => ∀ target, seekTarget v fd offset whence = some target →
      target < 0 ∨ 2 ^ 64 ≤ target → ∃ e, vfsSeek v fd offset whence = (.error e, v)
  | .write fd buf => ∀ n, (vfsWrite v fd buf).1 = .ok n → buf ≠ [] →
      (∃ d, ((vfsWrite v fd buf).2.inodes (v.openFiles fd).inode).data = some d ∧
        ∀ k, k < buf.length → d.bytes ((v.openFiles fd).pos + k) = buf.getD k 0) ∧
      (v.openFiles fd).pos + buf.length ≤
        ((vfsWrite v fd buf).2.inodes (v.openFiles fd).inode).capacity
  | _ => True

/-- A call stores inside its buffer, and afterwards no entry has more bytes than
its buffer. -/
def CallInside (v : Vfs KernelHeap) (c : HandleCall) : Prop :=
  StoresInside v c ∧ ∀ i, ((handleCall v c).inodes i).size ≤ ((handleCall v c).inodes i).capacity

/-- The condition on a call and the state before it: a seek asks for an offset
that a `size_t` holds, and a write ends at one, or at one it cannot grow to. -/
def ExtentOk (v : Vfs KernelHeap) : HandleCall → Prop
  | .seek fd offset whence => (v.openFiles fd).valid = true →
      ∀ target, seekTarget v fd offset whence = some target → 0 ≤ target ∧ target < 2 ^ 64
  | .write fd buf => Writes v fd buf → (v.openFiles fd).pos + buf.length < 2 ^ 64 ∨
      GrowthRefused v (v.openFiles fd).inode (sizeAdd (v.openFiles fd).pos buf.length)
  | _ => True

section Calls

variable {v : Vfs KernelHeap}

theorem vfsSeek_accepted {fd : Nat} {offset target : Int} {whence : Whence}
    (hvalid : (v.openFiles fd).valid = true) (htarget : seekTarget v fd offset whence = some target) :
    ∃ pos, (vfsSeek v fd offset whence).1 = .ok pos := by
  unfold vfsSeek
  dsimp only
  rw [if_neg (not_not.mpr hvalid)]
  cases whence with
  | set => exact ⟨_, rfl⟩
  | cur => exact ⟨_, rfl⟩
  | fromEnd => exact ⟨_, rfl⟩
  | other => cases htarget

theorem storesInside_seek_iff (fd : Nat) (offset : Int) (whence : Whence) :
    StoresInside v (.seek fd offset whence) ↔ ExtentOk v (.seek fd offset whence) := by
  dsimp only [StoresInside, ExtentOk]
  by_cases hvalid : (v.openFiles fd).valid = true
  · constructor
    · intro hrefused _ target htarget
      by_contra hout
      obtain ⟨e, he⟩ := hrefused target htarget (by omega)
      obtain ⟨pos, hpos⟩ := vfsSeek_accepted hvalid htarget
      rw [he] at hpos
      cases hpos
    · intro hok target htarget hout
      have hin := hok hvalid target htarget
      omega
  · refine iff_of_true (fun target _ _ => ⟨.ebadf, ?_⟩) fun hopen => absurd hopen hvalid
    unfold vfsSeek
    exact if_pos hvalid

theorem storesInside_write_iff (h : v.Backed) (fd : Nat) (buf : List UInt8) :
    StoresInside v (.write fd buf) ↔ ExtentOk v (.write fd buf) := by
  dsimp only [StoresInside, ExtentOk]
  rcases vfsWrite_kernel h fd buf with ⟨hno, hres⟩ | ⟨-, hrefused, heap, he⟩ |
    ⟨hwrites, hgrown, heap, data, capacity, he, hend, -, hsmall, hnone, -⟩
  · refine iff_of_true (fun n hn hne => ?_) fun hwrites => absurd hwrites hno
    rcases hres with ⟨e, he⟩ | ⟨hnil, -⟩
    · rw [he] at hn
      cases hn
    · exact absurd hnil hne
  · refine iff_of_true (fun n hn => ?_) fun _ => Or.inr hrefused
    rw [he] at hn
    cases hn
  · rw [he]
    dsimp only
    rw [Function.update_self]
    have hpos : 0 < buf.length := List.length_pos_iff.mpr hwrites.some
    constructor
    · intro hstores _
      obtain ⟨-, hin⟩ := hstores buf.length rfl hwrites.some
      exact Or.inl (lt_of_le_of_lt hin hsmall)
    · intro hok n _ _
      have hlt : (v.openFiles fd).pos + buf.length < 2 ^ 64 :=
        (hok hwrites).resolve_right hgrown
      have hsum : sizeAdd (v.openFiles fd).pos buf.length = (v.openFiles fd).pos + buf.length :=
        Nat.mod_eq_of_lt hlt
      rw [hsum] at hend
      refine ⟨?_, hend⟩
      cases data with
      | none =>
          have hzero := hnone rfl
          omega
      | some d =>
          refine ⟨_, rfl, fun k hk => ?_⟩
          simp [bufCopy, bytesMem, hk]

theorem callInside_iff (h : v.Backed) (c : HandleCall) : CallInside v c ↔ ExtentOk v c := by
  have hsizes := fun i => ((backed_handleCall h c).entry i).fits
  unfold CallInside
  rw [and_iff_left hsizes]
  cases c with
  | tree c => exact Iff.rfl
  | close fd' => exact Iff.rfl
  | read fd' count => exact Iff.rfl
  | seek fd' offset whence => exact storesInside_seek_iff fd' offset whence
  | write fd' buf => exact storesInside_write_iff h fd' buf

end Calls

/-! ## Runs -/

/-- **Writes inside their buffer**: from `vfs_init`, whatever the heap, the disk
and the persistence state, every call of a run is inside exactly if every seek
asks for an offset a `size_t` holds, and every write ends at one or is refused
for want of memory. -/
theorem handle_run_inside_iff (heap : KernelHeap) (disk : Disk) (persist : Persist)
    (calls : List HandleCall) :
    AllSteps handleCall CallInside (vfsInit (bootVfs heap disk persist)) calls ↔
      AllSteps handleCall ExtentOk (vfsInit (bootVfs heap disk persist)) calls :=
  allSteps_iff (fun _ c h => backed_handleCall h c) (fun _ c h => callInside_iff h c)
    (backed_vfsInit heap disk persist)

/-- `vfs_open("/a", O_CREAT)`, a write of one byte, a seek to -1 and another
write: the second write is stored in front of the buffer. -/
theorem handle_run_inside_fails :
    ¬ ∀ (heap : KernelHeap) (disk : Disk) (persist : Persist) (calls : List HandleCall),
      AllSteps handleCall CallInside (vfsInit (bootVfs heap disk persist)) calls := by
  intro h
  obtain ⟨-, -, -, ⟨hstores, -⟩, -⟩ := h KernelHeap.boot noDisk bootPersist
    [.tree (.openFile (cstr "/a") oCreat), .write 0 [1], .seek 0 (-1) .set, .write 0 [7]]
  obtain ⟨-, hin⟩ := hstores 1 (by decide +kernel) (by decide)
  revert hin
  decide +kernel

end Orizon
