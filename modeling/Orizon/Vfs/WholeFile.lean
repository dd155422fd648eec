import Mathlib.Data.List.Find
import Orizon.Vfs.Handles

/-!
# Orizon.Vfs.WholeFile

Writing a file in one go: open it, write all bytes, close it.  The editor and the shell
both do so.

What is at each path afterwards depends on how far the call came (`fileAt_vfsPut`).  A
truncating open has emptied the file before the write, so a write that fails leaves it
empty.
-/

namespace Orizon

variable {H : Type}

/-- The bytes of the regular file at a path. -/
def fileAt (v : Vfs H) (path : CStr) : Option (List UInt8) :=
  match findInode v path with
  | some i => if (v.inodes i).type = .file then some (v.inodes i).contents else none
  | none => none

/-- How far a write of a whole file came. -/
inductive PutOutcome
  | notOpened
  | notWritten
  | done
  deriving DecidableEq

/-- Open, write all bytes unless there are none, and close: what the callers of `vfs_open`
do that write a whole file. -/
def vfsPut [Allocator H] (v : Vfs H) (path : CStr) (flags : Nat) (bytes : List UInt8) : PutOutcome × Vfs H :=
  match vfsOpen v path flags with
  | (none, v) => (.notOpened, v)
  | (some fd, v) =>
      if bytes.length > 0 then
        match vfsWrite v fd bytes with
        | (.ok n, v) => (if n = bytes.length then .done else .notWritten, vfsClose v fd)
        | (.error _, v) => (.notWritten, vfsClose v fd)
      else (.done, vfsClose v fd)

/-! ## Entries -/

section Entries

variable {v w : Vfs H} {path q : CStr} {idx : Nat}

theorem fileAt_of_find (h : findInode v path = some idx) (hfile : (v.inodes idx).type = .file) :
    fileAt v path = some (v.inodes idx).contents := by
  simp [fileAt, h, hfile]

theorem findInode_congr (hcount : w.inodeCount = v.inodeCount)
    (hpaths : ∀ i, i < v.inodeCount → (w.inodes i).path = (v.inodes i).path) (q : CStr) :
    findInode w q = findInode v q := by
  unfold findInode
  rw [hcount]
  refine List.find?_congr fun i hi => ?_
  rw [hpaths i (List.mem_range.mp hi)]

theorem SameFiles.fileAt_eq (h : SameFiles v w) (q : CStr) : fileAt w q = fileAt v q := by
  unfold fileAt
  rw [findInode_congr h.inodeCount (fun i _ => by rw [h.inodes]) q, h.inodes]

/-- A change to one entry that keeps its path and type is seen at its path alone. -/
theorem fileAt_entry_changed (hidx : findInode v path = some idx) (hcount : w.inodeCount = v.inodeCount)
    (hother : ∀ i, i ≠ idx → w.inodes i = v.inodes i)
    (hself : (w.inodes idx).path = (v.inodes idx).path ∧ (w.inodes idx).type = (v.inodes idx).type)
    (q : CStr) :
    fileAt w q = if q = path ∧ (v.inodes idx).type = .file then some (w.inodes idx).contents else fileAt v q := by
  have hpaths : ∀ i, i < v.inodeCount → (w.inodes i).path = (v.inodes i).path := by
    intro i _
    by_cases hi : i = idx
    · rw [hi, hself.1]
    · rw [hother i hi]
  unfold fileAt
  rw [findInode_congr hcount hpaths]
  by_cases hq : q = path
  · subst hq
    rw [hidx]
    dsimp only
    rw [hself.2]
    split <;> simp_all
  · rw [if_neg (fun h => hq h.1)]
    cases hj : findInode v q with
    | none => rfl
    | some j =>
        have hne : j ≠ idx := by
          rintro rfl
          exact hq ((findInode_some hj).2.symm.trans (findInode_some hidx).2)
        dsimp only
        rw [hother j hne]

theorem fileAt_addInode (hfresh : findInode v path = none) (hlen : path.length < maxPath) (q : CStr) :
    fileAt (addInode v path .file) q = if q = path then some [] else fileAt v q := by
  have hnew : ((addInode v path .file).inodes v.inodeCount).path.val = path := by
    rw [inodes_addInode_self]
    exact strCpy_of_lt hlen
  have hold : (List.range v.inodeCount).find? (fun i => ((addInode v path .file).inodes i).path.val = q) =
      findInode v q :=
    List.find?_congr fun i hi => by rw [inodes_addInode_of_lt (List.mem_range.mp hi)]
  have hfind : findInode (addInode v path .file) q = (findInode v q).or
      (if path = q then some v.inodeCount else none) := by
    rw [findInode, inodeCount_addInode, List.range_succ, List.find?_append, hold, List.find?_singleton, hnew]
    by_cases hq : path = q <;> simp [hq]
  unfold fileAt
  rw [hfind]
  by_cases hq : q = path
  · subst hq
    rw [hfresh]
    simp [inodes_addInode_self, newInode, Inode.contents]
  · rw [if_neg hq, if_neg (Ne.symm hq), Option.or_none]
    cases hj : findInode v q with
    | none => rfl
    | some j =>
        dsimp only
        rw [inodes_addInode_of_lt (findInode_some hj).1]

end Entries

/-! ## The three calls -/

/-- The bytes of an entry lie in a buffer that has room for them. -/
structure Inode.Stored (node : Inode) : Prop where
  empty : node.data = none → node.capacity = 0
  fits : node.size ≤ node.capacity

section Calls

variable [Allocator H] {v w : Vfs H} {path q : CStr} {fd idx flags : Nat} {bytes : List UInt8}

theorem length_contents {node : Inode} (h : node.Stored) : node.contents.length = node.size := by
  unfold Inode.contents
  cases hdata : node.data with
  | none =>
      have hzero := h.empty hdata
      have hfits := h.fits
      dsimp only
      rw [List.length_nil]
      omega
  | some d => simp

/-- A handle at the end of its file. -/
structure AtEnd (v : Vfs H) (fd idx : Nat) : Prop where
  valid : (v.openFiles fd).valid = true
  inode : (v.openFiles fd).inode = idx
  pos : (v.openFiles fd).pos = (v.inodes idx).size
  file : (v.inodes idx).type = .file
  stored : (v.inodes idx).Stored

/-- The bytes of a file whose old bytes and new bytes lie one behind the other. -/
theorem contents_extended (node : Inode) (d : DataBuf) (size : Nat) (old : List UInt8)
    (hold : old.length = node.size)
    (hkept : ∀ i, i < node.size → d.bytes i = old.getD i 0) (hsize : size = node.size + bytes.length)
    (capacity : Nat) :
    Inode.contents { node with
      data := some { d with bytes := bufCopy d.bytes node.size (bytesMem bytes) bytes.length }
      size := size
      capacity := capacity } = old ++ bytes := by
  subst hsize
  refine List.ext_getElem (by simp [Inode.contents, hold]) fun i hi hi' => ?_
  simp only [Inode.contents, List.getElem_map, List.getElem_range, bufCopy, bytesMem]
  rw [List.getElem_append]
  by_cases hlt : i < old.length
  · rw [dif_pos hlt, if_neg (by omega), hkept i (by omega), List.getD_eq_getElem?_getD,
      List.getElem?_eq_getElem hlt, Option.getD_some]
  · have hrest : i - old.length < bytes.length := by
      rw [List.length_append] at hi'
      omega
    rw [dif_neg hlt, if_pos (by omega), ← hold, List.getD_eq_getElem?_getD, List.getElem?_eq_getElem hrest,
      Option.getD_some]

/-- Room for more bytes is made or not; the bytes of the entry stay. -/
theorem growInode_stored (hstored : (v.inodes idx).Stored) {newSize : Nat} (hpos : 0 < newSize) :
    (∃ heap, growInode v idx newSize = (false, { v with heap })) ∨
      ∃ heap d capacity, growInode v idx newSize =
          (true, { v with
            inodes := Function.update v.inodes idx { v.inodes idx with data := some d, capacity }
            heap }) ∧
        (newSize + 4095 < 2 ^ 64 → newSize ≤ capacity) ∧
        ∀ i, i < (v.inodes idx).size → d.bytes i = (v.inodes idx).contents.getD i 0 := by
  have hlen := length_contents hstored
  have hread : ∀ d, (v.inodes idx).data = some d → ∀ i, i < (v.inodes idx).size →
      d.bytes i = (v.inodes idx).contents.getD i 0 := by
    intro d hd i hi
    simp [Inode.contents, hd, hi]
  have hround : newSize + 4095 < 2 ^ 64 → newSize ≤ sizeAdd newSize 4095 / 4096 * 4096 := by
    intro h
    rw [show sizeAdd newSize 4095 = newSize + 4095 from Nat.mod_eq_of_lt h]
    omega
  unfold growInode
  dsimp only
  by_cases hgrow : newSize > (v.inodes idx).capacity
  · rw [if_pos hgrow]
    cases Allocator.malloc v.heap (sizeAdd newSize 4095 / 4096 * 4096) with
    | mk newData heap =>
        cases newData with
        | none => exact .inl ⟨heap, rfl⟩
        | some newData =>
            refine .inr ?_
            dsimp only
            cases hdata : (v.inodes idx).data with
            | none =>
                refine ⟨heap, newData, sizeAdd newSize 4095 / 4096 * 4096, rfl, hround, fun i hi => ?_⟩
                have hzero := hstored.empty hdata
                have hfits := hstored.fits
                omega
            | some d =>
                refine ⟨_, { newData with bytes := bufCopy newData.bytes 0 d.bytes (v.inodes idx).size },
                  sizeAdd newSize 4095 / 4096 * 4096, rfl, hround, fun i hi => ?_⟩
                rw [← hread d hdata i hi]
                simp [bufCopy, hi]
  · rw [if_neg hgrow]
    cases hdata : (v.inodes idx).data with
    | none =>
        have hzero := hstored.empty hdata
        omega
    | some d =>
        refine .inr ⟨v.heap, d, (v.inodes idx).capacity, ?_, fun _ => Nat.not_lt.mp hgrow, hread d hdata⟩
        rw [← hdata, Function.update_eq_self]

/-- At the end of its file a write appends, or fails and changes nothing but the heap. -/
theorem vfsWrite_atEnd (h : AtEnd v fd idx) (hne : bytes ≠ [])
    (hsmall : (v.inodes idx).size + bytes.length < 2 ^ 64) :
    ((growInode v idx ((v.inodes idx).size + bytes.length)).1 = false ∧
        ∃ heap, vfsWrite v fd bytes = (.error .enomem, { v with heap })) ∨
      (growInode v idx ((v.inodes idx).size + bytes.length)).1 = true ∧
        ∃ heap node pos, vfsWrite v fd bytes = (.ok bytes.length,
            { v with
              inodes := Function.update v.inodes idx node
              openFiles := Function.update v.openFiles fd { v.openFiles fd with pos }
              heap }) ∧
          node.path = (v.inodes idx).path ∧ node.type = (v.inodes idx).type ∧
          node.contents = (v.inodes idx).contents ++ bytes ∧ node.size = (v.inodes idx).size + bytes.length ∧
          ((v.inodes idx).size + bytes.length + 4095 < 2 ^ 64 → node.Stored) := by
  obtain rfl := h.inode
  have hlen : ¬ bytes.length = 0 := fun hzero => hne (List.length_eq_zero_iff.mp hzero)
  have hpos := h.pos
  have hdir : ¬ (v.inodes (v.openFiles fd).inode).type = .dir := by
    rw [h.file]
    decide
  have hsum : sizeAdd (v.openFiles fd).pos bytes.length =
      (v.inodes (v.openFiles fd).inode).size + bytes.length := by
    rw [hpos]
    exact Nat.mod_eq_of_lt hsmall
  unfold vfsWrite
  dsimp only
  rw [if_neg (by simp [h.valid]), if_neg hlen, if_neg hdir, hsum]
  obtain ⟨heap, hgrow⟩ | ⟨heap, d, capacity, hgrow, hcapacity, hkept⟩ := growInode_stored h.stored
    (show 0 < (v.inodes (v.openFiles fd).inode).size + bytes.length by omega)
  · rw [hgrow]
    exact .inl ⟨rfl, heap, rfl⟩
  · rw [hgrow]
    have hsize : (if (v.inodes (v.openFiles fd).inode).size + bytes.length > (v.inodes (v.openFiles fd).inode).size then
        (v.inodes (v.openFiles fd).inode).size + bytes.length else (v.inodes (v.openFiles fd).inode).size) =
        (v.inodes (v.openFiles fd).inode).size + bytes.length := if_pos (by omega)
    refine .inr ⟨rfl, heap,
      { v.inodes (v.openFiles fd).inode with
        data := some { d with
          bytes := bufCopy d.bytes (v.inodes (v.openFiles fd).inode).size (bytesMem bytes) bytes.length }
        size := (v.inodes (v.openFiles fd).inode).size + bytes.length
        capacity },
      (v.inodes (v.openFiles fd).inode).size + bytes.length, ?_, rfl, rfl, ?_, rfl, fun hfit => ⟨nofun, hcapacity hfit⟩⟩
    · simp only [Vfs.setInode, Function.update_self, Function.update_idem, Option.map_some, hsize, hpos]
    · exact contents_extended (v.inodes (v.openFiles fd).inode) d _ _ (length_contents h.stored) hkept rfl capacity

/-! ## A whole file -/

/-- What the file holds when the write begins. -/
def putBase (v : Vfs H) (path : CStr) (flags : Nat) : List UInt8 :=
  if hasFlag flags oTrunc then [] else (fileAt v path).getD []

/-- What a write of a whole file leaves at each path. -/
structure PutResult (v : Vfs H) (path : CStr) (flags : Nat) (bytes : List UInt8) (r : PutOutcome × Vfs H) : Prop where
  other : ∀ q, q ≠ path → fileAt r.2 q = fileAt v q
  notOpened : r.1 = .notOpened → fileAt r.2 path = fileAt v path
  notWritten : r.1 = .notWritten → fileAt r.2 path = some (putBase v path flags)
  done : r.1 = .done → fileAt r.2 path = some (putBase v path flags ++ bytes)

omit [Allocator H] in
theorem fileAt_vfsClose (v : Vfs H) (fd : Nat) (q : CStr) : fileAt (vfsClose v fd) q = fileAt v q := by
  obtain hsame | heq := vfsClose_state v fd
  · exact (hsame.fileAt_eq q).trans rfl
  · rw [heq]

/-- The flags under which a write starts at the end of the file. -/
def StartsAtEnd (v : Vfs H) (path : CStr) (flags : Nat) : Prop :=
  hasFlag flags oTrunc = true ∨
    hasFlag flags oAppend = true ∧ ∀ idx, findInode v path = some idx → (v.inodes idx).Stored

theorem atEnd_opened (hidx : findInode v path = some idx) (hfile : (v.inodes idx).type = .file)
    (hend : StartsAtEnd v path flags) :
    findInode (opened v fd idx flags) path = some idx ∧ AtEnd (opened v fd idx flags) fd idx ∧
      ∀ q, fileAt (opened v fd idx flags) q = if q = path then some (putBase v path flags) else fileAt v q := by
  have hshape := opened_shape v fd idx flags
  have hfound : findInode (opened v fd idx flags) path = some idx := by
    rw [findInode_congr hshape.1 (fun i _ => (hshape.2 i).1), hidx]
  have hdir : ¬ (v.inodes idx).type = .dir := by
    rw [hfile]
    decide
  have hfile' : ((opened v fd idx flags).inodes idx).type = .file := by rw [(hshape.2 idx).2.2.1, hfile]
  have hother : ∀ i, i ≠ idx → (opened v fd idx flags).inodes i = v.inodes i := by
    intro i hi
    unfold opened openInode
    rw [if_neg hdir]
    dsimp only
    split
    · simp [truncateInode, Vfs.setInode, Function.update_of_ne hi]
    · rfl
  have hhere := fileAt_of_find hidx hfile
  have hcontents : ((opened v fd idx flags).inodes idx).contents = putBase v path flags := by
    unfold opened openInode putBase
    rw [if_neg hdir]
    dsimp only
    by_cases htrunc : hasFlag flags oTrunc = true
    · simp [htrunc, truncateInode, Vfs.setInode, Inode.contents]
    · simp [htrunc, hhere]
  refine ⟨hfound, ⟨?_, ?_, ?_, hfile', ?_⟩, fun q => ?_⟩
  · unfold opened openInode
    rw [if_neg hdir]
    simp
  · unfold opened openInode
    rw [if_neg hdir]
    simp
  · unfold opened openInode
    rw [if_neg hdir]
    by_cases htrunc : hasFlag flags oTrunc = true
    · simp [htrunc, truncateInode, Vfs.setInode]
    · have happend : hasFlag flags oAppend = true := (hend.resolve_left htrunc).1
      simp [htrunc, happend]
  · unfold opened openInode
    rw [if_neg hdir]
    by_cases htrunc : hasFlag flags oTrunc = true
    · simp only [htrunc, if_true, truncateInode, Vfs.setInode, Function.update_self]
      exact ⟨fun _ => rfl, Nat.le_refl _⟩
    · simp only [htrunc, if_false, Bool.false_eq_true]
      exact (hend.resolve_left htrunc).2 idx hidx
  · rw [fileAt_entry_changed hidx hshape.1 hother ⟨(hshape.2 idx).1, (hshape.2 idx).2.2.1⟩ q, hcontents]
    simp [hfile]

theorem vfsOpen_atEnd (hinit : v.vfsInitialized = true) (hlen : path.length < maxPath)
    (hend : StartsAtEnd v path flags) : vfsOpen v path flags = (none, v) ∨
    ∃ fd idx w, vfsOpen v path flags = (some fd, w) ∧ findInode w path = some idx ∧ AtEnd w fd idx ∧
      ∀ q, fileAt w q = if q = path then some (putBase v path flags) else fileAt v q := by
  have hmounted : vfsInit v = v := if_pos hinit
  have hcases := vfsOpen_cases v path flags
  rw [hmounted] at hcases
  obtain ⟨heq, -⟩ | ⟨fd, -, ⟨idx, hidx, hfile, heq⟩ | ⟨-, hcreatable, heq⟩⟩ := hcases
  · exact .inl heq
  · exact .inr ⟨fd, idx, _, heq, atEnd_opened hidx hfile hend⟩
  · have hadded : ∀ q, fileAt (addInode v path .file) q = if q = path then some [] else fileAt v q :=
      fileAt_addInode hcreatable.fresh hlen
    have hself := inodes_addInode_self v path .file
    have hidx : findInode (addInode v path .file) path = some v.inodeCount := by
      have hhere := hadded path
      rw [if_pos rfl] at hhere
      unfold fileAt at hhere
      cases hfound : findInode (addInode v path .file) path with
      | none => simp [hfound] at hhere
      | some j =>
          have hj := (findInode_some hfound).1
          rw [inodeCount_addInode] at hj
          obtain hold | rfl := Nat.lt_succ_iff_lt_or_eq.mp hj
          · have hpath := (findInode_some hfound).2
            rw [inodes_addInode_of_lt hold] at hpath
            exact absurd hpath (findInode_none hcreatable.fresh hold)
          · rfl
    have hend' : StartsAtEnd (addInode v path .file) path flags := by
      refine hend.imp id fun happend => ⟨happend.1, fun j hj => ?_⟩
      obtain rfl : v.inodeCount = j := Option.some.inj (hidx.symm.trans hj)
      rw [hself]
      exact ⟨fun _ => rfl, Nat.le_refl _⟩
    obtain ⟨hfound, hatEnd, hfiles⟩ :=
      @atEnd_opened H _ (addInode v path .file) path fd v.inodeCount flags hidx (by rw [hself]; rfl) hend'
    refine .inr ⟨fd, v.inodeCount, _, heq, hfound, hatEnd, fun q => ?_⟩
    rw [hfiles q, hadded q]
    have hnone : fileAt v path = none := by simp [fileAt, hcreatable.fresh]
    have hbase : putBase (addInode v path .file) path flags = putBase v path flags := by
      simp [putBase, hadded, hnone]
    rw [hbase]
    split <;> rfl

/-- A write of a whole file opens it, writes unless there is nothing to write, and closes it. -/
theorem vfsPut_state (v : Vfs H) (path : CStr) (flags : Nat) (bytes : List UInt8) :
    (vfsOpen v path flags).1 = none ∧ vfsPut v path flags bytes = (.notOpened, (vfsOpen v path flags).2) ∨
      ∃ fd, (vfsOpen v path flags).1 = some fd ∧ (vfsPut v path flags bytes).1 ≠ .notOpened ∧
        ((vfsPut v path flags bytes).2 = vfsClose (vfsOpen v path flags).2 fd ∨
          (vfsPut v path flags bytes).2 = vfsClose (vfsWrite (vfsOpen v path flags).2 fd bytes).2 fd) := by
  unfold vfsPut
  obtain ⟨fd, w, hopen⟩ : ∃ fd w, vfsOpen v path flags = (fd, w) := ⟨_, _, rfl⟩
  rw [hopen]
  cases fd with
  | none => exact .inl ⟨rfl, rfl⟩
  | some fd =>
      refine .inr ⟨fd, rfl, ?_⟩
      dsimp only
      split
      · cases vfsWrite w fd bytes with
        | mk r w' =>
            cases r with
            | ok n => exact ⟨by dsimp only; split <;> simp, .inr rfl⟩
            | error e => exact ⟨by simp, .inr rfl⟩
      · exact ⟨by simp, .inl rfl⟩

/-- Writing a whole file changes the file at its path alone: it holds what it held when the
write began, and behind it the bytes if the write succeeded. -/
theorem fileAt_vfsPut (hinit : v.vfsInitialized = true) (hlen : path.length < maxPath)
    (hend : StartsAtEnd v path flags) (hsmall : (putBase v path flags).length + bytes.length < 2 ^ 64) :
    PutResult v path flags bytes (vfsPut v path flags bytes) := by
  unfold vfsPut
  obtain hnone | ⟨fd, idx, w, hopen, hidx, hatEnd, hfiles⟩ := vfsOpen_atEnd hinit hlen hend
  · rw [hnone]
    exact ⟨fun _ _ => rfl, fun _ => rfl, nofun, nofun⟩
  rw [hopen]
  dsimp only
  have hhere : fileAt w path = some (putBase v path flags) := by rw [hfiles, if_pos rfl]
  have hother : ∀ q, q ≠ path → fileAt w q = fileAt v q := fun q hq => by rw [hfiles, if_neg hq]
  by_cases hne : bytes.length > 0
  · rw [if_pos hne]
    have hbase : (w.inodes idx).contents = putBase v path flags :=
      Option.some.inj ((fileAt_of_find hidx hatEnd.file).symm.trans hhere)
    have hsize : (w.inodes idx).size = (putBase v path flags).length := by
      rw [← hbase, length_contents hatEnd.stored]
    obtain ⟨-, heap, hwrite⟩ | ⟨-, heap, node, pos, hwrite, hpath, htype, hnode, -⟩ :=
      vfsWrite_atEnd hatEnd (List.ne_nil_of_length_pos hne) (by omega)
    · rw [hwrite]
      refine ⟨fun q hq => ?_, nofun, fun _ => ?_, nofun⟩
      · exact (fileAt_vfsClose _ fd q).trans (hother q hq)
      · exact (fileAt_vfsClose _ fd path).trans hhere
    · rw [hwrite]
      dsimp only
      rw [if_pos rfl]
      have hchanged : ∀ q, fileAt _ q = _ := fileAt_entry_changed (w :=
        { w with
          inodes := Function.update w.inodes idx node
          openFiles := Function.update w.openFiles fd { w.openFiles fd with pos }
          heap }) hidx rfl (fun i hi => Function.update_of_ne hi _ _)
          (by simp only [Function.update_self]; exact ⟨hpath, htype⟩)
      refine ⟨fun q hq => ?_, nofun, nofun, fun _ => ?_⟩
      · rw [fileAt_vfsClose, hchanged, if_neg (fun h => hq h.1)]
        exact hother q hq
      · rw [fileAt_vfsClose, hchanged, if_pos ⟨rfl, hatEnd.file⟩]
        simp only [Function.update_self, hnode, hbase]
  · rw [if_neg hne]
    have hnil : bytes = [] := List.length_eq_zero_iff.mp (by omega)
    refine ⟨fun q hq => ?_, nofun, nofun, fun _ => ?_⟩
    · exact (fileAt_vfsClose _ fd q).trans (hother q hq)
    · rw [hnil, List.append_nil]
      exact (fileAt_vfsClose _ fd path).trans hhere

/-- The allocator has room for `len` bytes behind the handle's position. -/
def putHasRoom (v : Vfs H) (path : CStr) (flags len : Nat) : Bool :=
  match vfsOpen v path flags with
  | (none, _) => true
  | (some fd, w) => (growInode w (w.openFiles fd).inode (sizeAdd (w.openFiles fd).pos len)).1

/-- A write of a whole file is complete if it can be opened and there is room. -/
theorem vfsPut_outcome (hinit : v.vfsInitialized = true) (hlen : path.length < maxPath)
    (hend : StartsAtEnd v path flags) (hsmall : (putBase v path flags).length + bytes.length < 2 ^ 64) :
    (vfsPut v path flags bytes).1 =
      if (vfsOpen v path flags).1 = none then .notOpened
      else if bytes = [] ∨ putHasRoom v path flags bytes.length = true then .done else .notWritten := by
  unfold vfsPut
  obtain hnone | ⟨fd, idx, w, hopen, hidx, hatEnd, hfiles⟩ := vfsOpen_atEnd hinit hlen hend
  · simp [hnone]
  have hsize : (w.inodes idx).size = (putBase v path flags).length := by
    have hhere := hfiles path
    rw [if_pos rfl, fileAt_of_find hidx hatEnd.file] at hhere
    rw [← Option.some.inj hhere, length_contents hatEnd.stored]
  have hsum : sizeAdd (w.openFiles fd).pos bytes.length = (w.inodes idx).size + bytes.length := by
    rw [hatEnd.pos]
    exact Nat.mod_eq_of_lt (by omega)
  have hhasRoom : putHasRoom v path flags bytes.length =
      (growInode w idx ((w.inodes idx).size + bytes.length)).1 := by
    rw [putHasRoom, hopen]
    dsimp only
    rw [hatEnd.inode, hsum]
  have hopened : ¬ (some fd = none) := by simp
  rw [hhasRoom, hopen]
  dsimp only
  rw [if_neg hopened]
  by_cases hne : bytes.length > 0
  · have hbytes := List.ne_nil_of_length_pos hne
    rw [if_pos hne]
    obtain ⟨hroom, heap, hwrite⟩ | ⟨hroom, heap, node, pos, hwrite, -⟩ :=
      vfsWrite_atEnd hatEnd hbytes (by omega)
    · rw [hwrite]
      simp [hbytes, hroom]
    · rw [hwrite]
      simp [hroom]
  · have hnil : bytes = [] := List.length_eq_zero_iff.mp (by omega)
    simp [hnil]

/-! ## Further writes -/

/-- An entry that can take `room` more bytes. -/
structure Inode.Fits (room : Nat) (node : Inode) : Prop where
  stored : node.Stored
  small : node.size + room + 4096 ≤ 2 ^ 64

/-- A mounted file system in which every entry can take `room` more bytes. -/
structure Vfs.Holds (v : Vfs H) (room : Nat) : Prop where
  mounted : v.vfsInitialized = true
  small : room + 4096 ≤ 2 ^ 64
  entries : ∀ i, i < v.inodeCount → (v.inodes i).Fits room

variable {room : Nat}

omit [Allocator H] in
theorem Vfs.Holds.mono {room' : Nat} (h : v.Holds room) (hle : room' ≤ room) : v.Holds room' := by
  have hsmall := h.small
  refine ⟨h.mounted, by omega, fun i hi => ⟨(h.entries i hi).stored, ?_⟩⟩
  have hentry := (h.entries i hi).small
  omega

theorem fits_empty {node : Inode} (hroom : room + 4096 ≤ 2 ^ 64) (hsize : node.size = 0)
    (hcapacity : node.capacity = 0) :
    node.Fits room :=
  ⟨⟨fun _ => hcapacity, by omega⟩, by omega⟩

theorem holds_opened (h : v.Holds room) (fd idx flags : Nat) : (opened v fd idx flags).Holds room := by
  unfold opened openInode
  split
  · exact h
  · dsimp only
    split
    · refine ⟨by simp [truncateInode, Vfs.setInode, h.mounted], h.small, fun i hi => ?_⟩
      simp only [truncateInode, Vfs.setInode, inodeCount_freeData, inodes_freeData] at hi ⊢
      by_cases hidx : i = idx
      · rw [hidx, Function.update_self]
        exact fits_empty h.small rfl rfl
      · rw [Function.update_of_ne hidx]
        exact h.entries i hi
    · exact ⟨h.mounted, h.small, h.entries⟩

theorem holds_vfsOpen (h : v.Holds room) (path : CStr) (flags : Nat) :
    (vfsOpen v path flags).2.Holds room := by
  have hmounted : vfsInit v = v := if_pos h.mounted
  have hcases := vfsOpen_cases v path flags
  rw [hmounted] at hcases
  obtain ⟨heq, -⟩ | ⟨fd, -, ⟨idx, -, -, heq⟩ | ⟨-, -, heq⟩⟩ := hcases
  · rw [heq]
    exact h
  · rw [heq]
    exact holds_opened h fd idx flags
  · rw [heq]
    have hadded : (addInode v path .file).Holds room := by
      refine ⟨h.mounted, h.small, fun i hi => ?_⟩
      obtain hold | rfl := Nat.lt_succ_iff_lt_or_eq.mp hi
      · rw [inodes_addInode_of_lt hold]
        exact h.entries i hold
      · rw [inodes_addInode_self]
        exact fits_empty h.small rfl rfl
    exact holds_opened hadded fd _ flags

omit [Allocator H] in
theorem holds_vfsClose (h : v.Holds room) (fd : Nat) : (vfsClose v fd).Holds room := by
  obtain hsame | heq := vfsClose_state v fd
  · refine ⟨hsame.vfsInitialized.trans h.mounted, h.small, fun i hi => ?_⟩
    rw [hsame.inodeCount] at hi
    rw [hsame.inodes]
    exact h.entries i hi
  · rw [heq]
    exact h

/-- After the write of a whole file there is room for what was left. -/
theorem holds_vfsPut (h : v.Holds (bytes.length + room)) (hlen : path.length < maxPath)
    (hend : StartsAtEnd v path flags) : (vfsPut v path flags bytes).2.Holds room := by
  have hle : room ≤ bytes.length + room := Nat.le_add_left ..
  have hopened := holds_vfsOpen h path flags
  unfold vfsPut
  obtain hnone | ⟨fd, idx, w, hopen, hidx, hatEnd, -⟩ := vfsOpen_atEnd h.mounted hlen hend
  · rw [hnone]
    exact h.mono hle
  rw [hopen] at hopened ⊢
  dsimp only at hopened ⊢
  have hentry := (hopened.entries idx (findInode_some hidx).1).small
  by_cases hne : bytes.length > 0
  · rw [if_pos hne]
    obtain ⟨-, heap, hwrite⟩ | ⟨-, heap, node, pos, hwrite, -, -, -, hsize, hstored⟩ :=
      vfsWrite_atEnd hatEnd (List.ne_nil_of_length_pos hne) (by omega)
    · rw [hwrite]
      dsimp only
      apply holds_vfsClose
      exact ⟨hopened.mounted, (hopened.mono hle).small, (hopened.mono hle).entries⟩
    · rw [hwrite]
      dsimp only
      apply holds_vfsClose
      refine ⟨hopened.mounted, (hopened.mono hle).small, fun i hi => ?_⟩
      by_cases hi' : i = idx
      · subst hi'
        simp only [Function.update_self]
        exact ⟨hstored (by omega), by omega⟩
      · simp only [Function.update_of_ne hi']
        exact (hopened.mono hle).entries i hi
  · rw [if_neg hne]
    exact holds_vfsClose (hopened.mono hle) fd

end Calls

end Orizon
