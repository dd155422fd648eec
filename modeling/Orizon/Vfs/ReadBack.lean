import Orizon.Vfs.WholeFile

/-!
# Orizon.Vfs.ReadBack

Reading a file with one `vfs_read`, and reading back what `vfsPut` wrote.

The results hold in any table: a file that is truncated when it is opened begins empty.
-/

namespace Orizon

variable {H : Type} {v w : Vfs H} {path q : CStr} {fd count flags : Nat} {bytes : List UInt8}

/-- Open for reading, read at most `count` bytes once and close: what the callers of `vfs_open`
do that read a small file.  `none` is a file that cannot be opened. -/
def vfsGet [Allocator H] (v : Vfs H) (path : CStr) (count : Nat) : Option (Except Errno (List UInt8)) × Vfs H :=
  match vfsOpen v path 0 with
  | (none, v) => (none, v)
  | (some fd, v) => (some (vfsRead v fd count).1, vfsClose (vfsRead v fd count).2 fd)

/-- The loop of the callers of `vfs_read` that fill an array of `cap` bytes, with room for a NUL.
A round that goes on has read a byte, so the size of the array is fuel enough. -/
def vfsReadLoop (cap fd : Nat) : Nat → Vfs H → List UInt8 → List UInt8 × Vfs H
  | 0, v, buf => (buf, v)
  | fuel + 1, v, buf =>
      if buf.length < cap - 1 then
        match vfsRead v fd (cap - 1 - buf.length) with
        | (.ok bytes, w) => if bytes.length > 0 then vfsReadLoop cap fd fuel w (buf ++ bytes) else (buf, w)
        | (.error _, w) => (buf, w)
      else (buf, v)

/-- Open for reading, fill an array of `cap` bytes and close.  `none` is a file that cannot be opened. -/
def vfsReadText [Allocator H] (v : Vfs H) (path : CStr) (cap : Nat) : Option (List UInt8) × Vfs H :=
  match vfsOpen v path 0 with
  | (none, v) => (none, v)
  | (some fd, v) =>
      let r := vfsReadLoop cap fd cap v []
      (some r.1, vfsClose r.2 fd)

/-! ## Handles -/

theorem lt_of_findFreeFile (h : findFreeFile v = some fd) : fd < maxOpen :=
  List.mem_range.mp (List.mem_of_find?_eq_some h)

theorem valid_vfsClose (v : Vfs H) (fd : Nat) : ((vfsClose v fd).openFiles fd).valid = false := by
  obtain hsame | heq := vfsClose_state v fd
  · simp [hsame.openFiles, Vfs.closeFile]
  · by_cases hvalid : (v.openFiles fd).valid = true
    · -- a close of a valid handle marks it free, so it cannot be the identity
      have hsame : SameFiles (v.closeFile fd) (vfsClose v fd) := by
        rw [vfsClose, if_pos hvalid]
        dsimp only
        split
        · exact maybePersistInode_same _ _
        · exact SameFiles.refl _
      simp [hsame.openFiles, Vfs.closeFile]
    · rw [heq]
      simpa using hvalid

theorem findFreeFile_vfsClose (hfd : fd < maxOpen) : (findFreeFile (vfsClose v fd)).isSome := by
  rw [findFreeFile, List.find?_isSome]
  exact ⟨fd, List.mem_range.mpr hfd, by simp [valid_vfsClose]⟩

/-! ## The mount -/

theorem vfsInitialized_vfsClose (v : Vfs H) (fd : Nat) : (vfsClose v fd).vfsInitialized = v.vfsInitialized := by
  obtain hsame | heq := vfsClose_state v fd
  · exact hsame.vfsInitialized
  · rw [heq]

/-! ## The read loop -/

/-- A read that returns bytes moves the handle behind them, and nothing else. -/
theorem vfsRead_moves (h : HandleOn v fd path) {count : Nat} {bytes : List UInt8}
    (hread : (vfsRead v fd count).1 = .ok bytes) (hne : bytes ≠ []) :
    (vfsRead v fd count).2 = v.setPos fd ((v.openFiles fd).pos + bytes.length) := by
  have hdir : ¬ (v.inodes (v.openFiles fd).inode).type = .dir := by
    rw [h.file]
    decide
  unfold vfsRead at hread ⊢
  dsimp only at hread ⊢
  rw [if_neg (not_not.mpr h.valid), if_neg hdir] at hread ⊢
  by_cases hend : (v.openFiles fd).pos ≥ (v.inodes (v.openFiles fd).inode).size
  · rw [if_pos hend] at hread
    exact absurd (Except.ok.inj hread).symm hne
  · rw [if_neg hend] at hread ⊢
    have hbytes := Except.ok.inj hread
    cases hdata : (v.inodes (v.openFiles fd).inode).data with
    | none =>
        rw [hdata] at hbytes
        exact absurd hbytes.symm hne
    | some d =>
        rw [hdata] at hbytes
        have hlen := congrArg List.length hbytes
        rw [List.length_map, List.length_range] at hlen
        rw [hlen]
        rfl

theorem vfsReadLoop_eq {c buf : List UInt8} {cap fuel : Nat} (h : HandleOn v fd path)
    (hc : (v.inodes (v.openFiles fd).inode).contents = c) (hfuel : 2 ≤ fuel) :
    (vfsReadLoop cap fd fuel v buf).1 = buf ++ (c.drop (v.openFiles fd).pos).take (cap - 1 - buf.length) := by
  obtain ⟨fuel, rfl⟩ := Nat.exists_eq_add_of_le' hfuel
  rw [vfsReadLoop]
  by_cases hroom : buf.length < cap - 1
  · rw [if_pos hroom]
    have hread := vfsRead_contents h.valid h.file (cap - 1 - buf.length)
    rw [hc] at hread
    generalize hbytes : (c.drop (v.openFiles fd).pos).take (cap - 1 - buf.length) = bytes at hread ⊢
    have hmoves := vfsRead_moves h hread
    rw [Prod.mk.eta.symm.trans (congrArg₂ Prod.mk hread rfl)]
    dsimp only
    by_cases hne : bytes.length > 0
    · rw [if_pos hne, hmoves (List.ne_nil_of_length_pos hne), vfsReadLoop]
      split
      next hmore =>
        -- the read was cut short by the end of the file
        have hrest : c.drop ((v.openFiles fd).pos + bytes.length) = [] := by
          have hlen := congrArg List.length hbytes
          rw [List.length_take, List.length_drop] at hlen
          rw [List.length_append] at hmore
          exact List.drop_eq_nil_of_le (by omega)
        have hread' := vfsRead_contents (v := v.setPos fd ((v.openFiles fd).pos + bytes.length))
          ((openFiles_setPos v fd fd _).1.trans h.valid) (by rw [(openFiles_setPos v fd fd _).2]; exact h.file)
          (cap - 1 - (buf ++ bytes).length)
        rw [(openFiles_setPos v fd fd _).2] at hread'
        have hpos : ((v.setPos fd ((v.openFiles fd).pos + bytes.length)).openFiles fd).pos =
            (v.openFiles fd).pos + bytes.length := by simp [Vfs.setPos]
        have hend : (vfsRead (v.setPos fd ((v.openFiles fd).pos + bytes.length)) fd
            (cap - 1 - (buf ++ bytes).length)).1 = .ok [] := by
          rw [hread', hpos]
          exact congrArg Except.ok (by rw [show (v.setPos fd _).inodes = v.inodes from rfl, hc, hrest, List.take_nil])
        rw [Prod.mk.eta.symm.trans (congrArg₂ Prod.mk hend rfl)]
        simp
      · rfl
    · rw [if_neg hne, List.length_eq_zero_iff.mp (Nat.le_zero.mp (Nat.not_lt.mp hne)), List.append_nil]
  · rw [if_neg hroom, Nat.sub_eq_zero_of_le (Nat.not_lt.mp hroom), List.take_zero, List.append_nil]

variable [Allocator H]

theorem vfsInit_vfsInit (v : Vfs H) : vfsInit (vfsInit v) = vfsInit v := if_pos (vfsInitialized_vfsInit v)

theorem vfsOpen_vfsInit (v : Vfs H) (path : CStr) (flags : Nat) :
    vfsOpen (vfsInit v) path flags = vfsOpen v path flags := by
  simp only [vfsOpen, vfsInit_vfsInit]

theorem vfsPut_vfsInit (v : Vfs H) (path : CStr) (flags : Nat) (bytes : List UInt8) :
    vfsPut (vfsInit v) path flags bytes = vfsPut v path flags bytes := by
  simp only [vfsPut, vfsOpen_vfsInit]

theorem vfsInitialized_vfsOpen (v : Vfs H) (path : CStr) (flags : Nat) :
    (vfsOpen v path flags).2.vfsInitialized = true := by
  obtain ⟨heq, -⟩ | ⟨fd, -, ⟨idx, -, -, heq⟩ | ⟨-, -, heq⟩⟩ := vfsOpen_cases v path flags
  · rw [heq, vfsInitialized_vfsInit]
  · rw [heq, vfsInitialized_opened, vfsInitialized_vfsInit]
  · rw [heq, vfsInitialized_opened]
    exact vfsInitialized_vfsInit v

theorem vfsInitialized_vfsWrite (v : Vfs H) (fd : Nat) (buf : List UInt8) :
    (vfsWrite v fd buf).2.vfsInitialized = v.vfsInitialized := by
  obtain ⟨e, heap, heq⟩ | ⟨-, heq⟩ | ⟨heap, data, size, capacity, heq, -⟩ := vfsWrite_cases v fd buf <;> rw [heq]

theorem lt_of_vfsOpen (h : (vfsOpen v path flags).1 = some fd) : fd < maxOpen := by
  obtain ⟨heq, -⟩ | ⟨fd', hfd, ⟨idx, -, -, heq⟩ | ⟨-, -, heq⟩⟩ := vfsOpen_cases v path flags <;>
    rw [heq] at h
  · cases h
  · exact Option.some.inj h ▸ lt_of_findFreeFile hfd
  · exact Option.some.inj h ▸ lt_of_findFreeFile hfd

theorem vfsPut_closes (v : Vfs H) (path : CStr) (flags : Nat) (bytes : List UInt8) :
    (vfsOpen v path flags).1 = none ∧ vfsPut v path flags bytes = (.notOpened, (vfsOpen v path flags).2) ∨
      ∃ fd w, fd < maxOpen ∧ w.vfsInitialized = true ∧ (vfsPut v path flags bytes).2 = vfsClose w fd := by
  have hmounted := vfsInitialized_vfsOpen v path flags
  obtain hnone | ⟨fd, hfd, -, heq | heq⟩ := vfsPut_state v path flags bytes
  · exact .inl hnone
  · exact .inr ⟨fd, _, lt_of_vfsOpen hfd, hmounted, heq⟩
  · exact .inr ⟨fd, _, lt_of_vfsOpen hfd, (vfsInitialized_vfsWrite ..).trans hmounted, heq⟩

theorem vfsInitialized_vfsPut (v : Vfs H) (path : CStr) (flags : Nat) (bytes : List UInt8) :
    (vfsPut v path flags bytes).2.vfsInitialized = true := by
  obtain ⟨-, heq⟩ | ⟨fd, w, -, hw, heq⟩ := vfsPut_closes v path flags bytes
  · rw [heq, vfsInitialized_vfsOpen]
  · rw [heq, vfsInitialized_vfsClose, hw]

/-- A handle is free after a write of a whole file that could be opened. -/
theorem findFreeFile_vfsPut (h : (vfsPut v path flags bytes).1 ≠ .notOpened) :
    (findFreeFile (vfsPut v path flags bytes).2).isSome := by
  obtain ⟨-, heq⟩ | ⟨fd, w, hfd, -, heq⟩ := vfsPut_closes v path flags bytes
  · simp [heq] at h
  · rw [heq]
    exact findFreeFile_vfsClose hfd

/-! ## Reading -/

theorem vfsOpen_there (hinit : v.vfsInitialized = true) (hfile : fileAt v path = some bytes)
    (hfree : (findFreeFile v).isSome) : ∃ fd, vfsOpen v path 0 =
      (some fd, { v with openFiles := Function.update v.openFiles fd ⟨true, (findInode v path).getD 0, 0, 0⟩ }) := by
  have hmounted : vfsInit v = v := if_pos hinit
  obtain ⟨fd, hfd⟩ := Option.isSome_iff_exists.mp hfree
  unfold fileAt at hfile
  cases hidx : findInode v path with
  | none => simp [hidx] at hfile
  | some idx =>
      have htype : (v.inodes idx).type = .file := by
        rw [hidx] at hfile
        by_contra hne
        simp [hne] at hfile
      refine ⟨fd, ?_⟩
      simp [vfsOpen, hmounted, hfd, hidx, openInode, htype, hasFlag]

theorem vfsGet_fileAt (hinit : v.vfsInitialized = true) (hfile : fileAt v path = some bytes)
    (hfree : (findFreeFile v).isSome) : (vfsGet v path count).1 = some (.ok (bytes.take count)) := by
  obtain ⟨fd, hopen⟩ := vfsOpen_there hinit hfile hfree
  rw [vfsGet, hopen]
  unfold fileAt at hfile
  cases hidx : findInode v path with
  | none => simp [hidx] at hfile
  | some idx =>
      have hentry : (v.inodes idx).type = .file ∧ (v.inodes idx).contents = bytes := by
        rw [hidx] at hfile
        simpa using hfile
      dsimp only
      rw [vfsRead_contents (by simp) (by simpa using hentry.1)]
      simp [hentry.2]

theorem vfsReadText_fileAt {cap : Nat} (hinit : v.vfsInitialized = true) (hfile : fileAt v path = some bytes)
    (hfree : (findFreeFile v).isSome) (hcap : 2 ≤ cap) : (vfsReadText v path cap).1 = some (bytes.take (cap - 1)) := by
  obtain ⟨fd, hopen⟩ := vfsOpen_there hinit hfile hfree
  rw [vfsReadText, hopen]
  unfold fileAt at hfile
  cases hidx : findInode v path with
  | none => simp [hidx] at hfile
  | some idx =>
      have hentry : (v.inodes idx).type = .file ∧ (v.inodes idx).contents = bytes := by
        rw [hidx] at hfile
        simpa using hfile
      dsimp only
      have hloop := @vfsReadLoop_eq H { v with openFiles := Function.update v.openFiles fd ⟨true, idx, 0, 0⟩ } path fd
        bytes [] cap cap ⟨by simp, by simpa using (findInode_some hidx).1, by simpa using (findInode_some hidx).2,
          by simpa using hentry.1⟩ (by simpa using hentry.2) hcap
      simpa using hloop

theorem fileAt_vfsPut_trunc (hlen : path.length < maxPath) (htrunc : hasFlag flags oTrunc = true)
    (hsmall : bytes.length < 2 ^ 64) (hdone : (vfsPut v path flags bytes).1 = .done) :
    fileAt (vfsPut v path flags bytes).2 path = some bytes := by
  rw [← vfsPut_vfsInit] at hdone ⊢
  have hbase : putBase (vfsInit v) path flags = [] := if_pos htrunc
  have hresult := fileAt_vfsPut (vfsInitialized_vfsInit v) hlen (.inl htrunc)
    (by rw [hbase]; simpa using hsmall)
  rw [hresult.done hdone, hbase, List.nil_append]

end Orizon
