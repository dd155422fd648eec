import Orizon.Vfs.Alternation
import Orizon.Vfs.Decode
import Orizon.Vfs.WholeFile

/-!
# Orizon.Vfs.Restore

What `vfs_persist_restore_slot` leaves in memory when it reports malformed entries.

The persistent roots are cleared and the entries before the malformed one applied before it
is found, so the error leaves the tree as it was only if that brings everything back.
-/

namespace Orizon

/-! ## Files -/

section Files

variable {H : Type} {u v w : Vfs H} {p : CStr → Prop} {path q : CStr}

/-- A regular file of the table is named `q`. -/
def HasFile (v : Vfs H) (q : CStr) : Prop :=
  ∃ i, i < v.inodeCount ∧ (v.inodes i).path.val = q ∧ (v.inodes i).type = .file

instance (v : Vfs H) (q : CStr) : Decidable (HasFile v q) :=
  decidable_of_iff (∃ i, i < v.inodeCount ∧ (v.inodes i).path.val = q ∧ (v.inodes i).type = .file) Iff.rfl

/-- New files are named by `p`. -/
def FilesFrom (p : CStr → Prop) (v w : Vfs H) : Prop := ∀ q, HasFile w q → HasFile v q ∨ p q

theorem FilesFrom.refl (p : CStr → Prop) (v : Vfs H) : FilesFrom p v v := fun _ => .inl

theorem FilesFrom.trans (h : FilesFrom p v w) (h' : FilesFrom p w u) : FilesFrom p v u :=
  fun q hq => (h' q hq).elim (h q) .inr

theorem FilesFrom.mono {p' : CStr → Prop} (h : FilesFrom p v w) (hp : ∀ q, p q → p' q) : FilesFrom p' v w :=
  fun q hq => (h q hq).imp id (hp q)

theorem filesFrom_of_same (hcount : w.inodeCount = v.inodeCount)
    (hsame : ∀ i, (w.inodes i).path = (v.inodes i).path ∧ (w.inodes i).type = (v.inodes i).type) :
    FilesFrom p v w := by
  rintro q ⟨i, hi, hpath, hfile⟩
  rw [hcount] at hi
  rw [(hsame i).1] at hpath
  rw [(hsame i).2] at hfile
  exact .inl ⟨i, hi, hpath, hfile⟩

theorem filesFrom_addInode (type : InodeType) (hp : type = .file → p (strCpy maxPath path).val) :
    FilesFrom p v (addInode v path type) := by
  rintro q ⟨i, hi, hpath, hfile⟩
  obtain hold | rfl := Nat.lt_succ_iff_lt_or_eq.mp hi
  · rw [inodes_addInode_of_lt hold] at hpath hfile
    exact .inl ⟨i, hold, hpath, hfile⟩
  · rw [inodes_addInode_self] at hpath hfile
    exact .inr (hpath ▸ hp hfile)

theorem filesFrom_createInode (v : Vfs H) (path : CStr) : FilesFrom p v (createInode v path .dir).2 := by
  obtain hc | ⟨e, he⟩ := createInode_cases v path .dir
  · rw [createInode_ok .dir hc]
    exact filesFrom_addInode .dir nofun
  · rw [he]
    exact .refl p v

theorem filesFrom_ensureParentLoop (fuel : Nat) (v : Vfs H) (cur rest : CStr) :
    FilesFrom p v (ensureParentLoop v cur rest fuel).2 := by
  induction fuel generalizing v cur rest with
  | zero => exact .refl p v
  | succ fuel ih =>
      unfold ensureParentLoop
      split
      · exact .refl p v
      dsimp only
      split
      · exact .refl p v
      split
      · exact .refl p v
      next cur' _ =>
      split
      · exact ih v cur' _
      · have hcreate : FilesFrom p v (createInode v cur' .dir).2 := filesFrom_createInode v cur'
        split <;> next heq =>
          rw [heq] at hcreate
          first
          | exact hcreate
          | exact hcreate.trans (ih _ cur' _)

theorem filesFrom_ensureParentDirs (v : Vfs H) (path : CStr) : FilesFrom p v (ensureParentDirs v path).2 := by
  unfold ensureParentDirs
  split
  · exact .refl p v
  · split
    · exact .refl p v
    · exact filesFrom_ensureParentLoop _ v _ _

theorem filesFrom_of_sameFiles (h : SameFiles v w) : FilesFrom p v w :=
  filesFrom_of_same h.inodeCount fun i => by
    rw [h.inodes]
    exact ⟨rfl, rfl⟩

theorem filesFrom_vfsClose (v : Vfs H) (fd : Nat) : FilesFrom p v (vfsClose v fd) := by
  obtain hsame | heq := vfsClose_state v fd
  · have hclosed : FilesFrom p v (v.closeFile fd) := filesFrom_of_same rfl fun _ => ⟨rfl, rfl⟩
    exact hclosed.trans (filesFrom_of_sameFiles hsame)
  · rw [heq]
    exact .refl p v

variable [Allocator H]

theorem filesFrom_vfsInit (v : Vfs H) : FilesFrom p v (vfsInit v) := by
  by_cases hmounted : v.vfsInitialized = true
  · rw [vfsInit, if_pos hmounted]
    exact .refl p v
  · have hempty : ∀ (heap : H), FilesFrom p v { v with
        heap, inodes := fun _ => Inode.zero, openFiles := fun _ => File.zero, inodeCount := 0 } := by
      rintro heap q ⟨i, hi, -⟩
      exact absurd hi (Nat.not_lt_zero i)
    rw [vfsInit, if_neg hmounted]
    exact ((hempty _).trans (filesFrom_createInode _ [slash])).trans (filesFrom_of_same rfl fun _ => ⟨rfl, rfl⟩)

theorem filesFrom_opened (v : Vfs H) (fd idx flags : Nat) : FilesFrom p v (opened v fd idx flags) := by
  have hshape := opened_shape v fd idx flags
  exact filesFrom_of_same hshape.1 fun i => ⟨(hshape.2 i).1, (hshape.2 i).2.2.1⟩

theorem filesFrom_vfsOpen (v : Vfs H) (flags : Nat) (hlen : path.length < maxPath) :
    FilesFrom (· = path) v (vfsOpen v path flags).2 := by
  refine (filesFrom_vfsInit v).trans ?_
  obtain ⟨heq, -⟩ | ⟨fd, -, ⟨idx, -, -, heq⟩ | ⟨-, -, heq⟩⟩ := vfsOpen_cases v path flags
  · rw [heq]
    exact .refl _ _
  · rw [heq]
    exact filesFrom_opened _ fd idx flags
  · rw [heq]
    have hcopy : (strCpy maxPath path).val = path := strCpy_of_lt hlen
    exact (filesFrom_addInode .file fun _ => hcopy).trans (filesFrom_opened _ fd _ flags)

theorem filesFrom_vfsWrite (v : Vfs H) (fd : Nat) (bytes : List UInt8) :
    FilesFrom p v (vfsWrite v fd bytes).2 := by
  obtain ⟨e, heap, heq⟩ | ⟨-, heq⟩ | ⟨heap, data, size, capacity, heq, -⟩ := vfsWrite_cases v fd bytes
  · rw [heq]
    exact filesFrom_of_same rfl fun _ => ⟨rfl, rfl⟩
  · rw [heq]
    exact .refl p v
  · rw [heq]
    refine filesFrom_of_same rfl fun i => ?_
    dsimp only [written]
    by_cases hi : i = (v.openFiles fd).inode
    · rw [hi, Function.update_self]
      exact ⟨rfl, rfl⟩
    · rw [Function.update_of_ne hi]
      exact ⟨rfl, rfl⟩

theorem filesFrom_vfsMkdir (v : Vfs H) (path : CStr) : FilesFrom p v (vfsMkdir v path).2 := by
  have hcreate : FilesFrom p v (createInode (vfsInit v) path .dir).2 :=
    (filesFrom_vfsInit v).trans (filesFrom_createInode _ path)
  unfold vfsMkdir vfsMake
  split <;> next heq =>
    rw [heq] at hcreate
    first
    | exact hcreate
    | exact hcreate.trans (filesFrom_of_sameFiles (maybePersistPath_same _ path))

/-! ### Entries and defaults -/

theorem filesFrom_apply (v : Vfs H) {e : SnapshotEntry} (hlen : e.path.length < maxPath) :
    FilesFrom (fun q => e.Applied ∧ e.path = q) v (e.apply v) := by
  by_cases happlied : e.Applied
  · have hopen := fun v : Vfs H => (filesFrom_vfsOpen v (oCreat ||| oWronly ||| oTrunc) hlen).mono
      fun q (hq : q = e.path) => (⟨happlied, hq.symm⟩ : e.Applied ∧ e.path = q)
    have hparents : FilesFrom (fun q => e.Applied ∧ e.path = q) v (ensureParentDirs v e.path).2 :=
      filesFrom_ensureParentDirs v e.path
    unfold SnapshotEntry.apply applyEntry
    split
    · exact .refl _ v
    dsimp only
    split
    · dsimp only
      split
      · exact hparents
      · exact hparents.trans (filesFrom_createInode _ _)
    split
    · have hopened := hparents.trans (hopen _)
      split <;> next heq =>
        rw [heq] at hopened
        first
        | exact hopened
        | exact (hopened.trans (filesFrom_vfsWrite _ _ _)).trans (filesFrom_vfsClose _ _)
    · exact hparents
  · rw [e.apply_skipped happlied]
    exact .refl _ v

omit [Allocator H] in
theorem length_path_of_mem {buf : Mem} {limit offset n : Nat} {e : SnapshotEntry}
    (h : e ∈ snapshotEntries buf limit offset n) : e.path.length < maxPath := by
  induction n generalizing offset with
  | zero => cases h
  | succ n ih =>
      unfold snapshotEntries at h
      split at h
      · cases h
      next e' he =>
        obtain rfl | hmem := List.mem_cons.mp h
        · exact (snapshotEntryAt_in he).2.length_path_lt
        · exact ih hmem

omit [Allocator H] in
theorem filesFrom_foldl {α : Type} {f : Vfs H → α → Vfs H} (as : List α)
    (hf : ∀ v, ∀ a ∈ as, FilesFrom p v (f v a)) (v : Vfs H) : FilesFrom p v (as.foldl f v) := by
  induction as generalizing v with
  | nil => exact .refl p v
  | cons a as ih =>
      exact (hf v a (.head _)).trans (ih (fun v b hb => hf v b (.tail _ hb)) (f v a))

/-- The entries of a snapshot create the files they are named after. -/
theorem filesFrom_entries (v : Vfs H) (buf : Mem) (limit offset n : Nat) :
    FilesFrom (fun q => ∃ e ∈ snapshotEntries buf limit offset n, e.Applied ∧ e.path = q) v
      ((snapshotEntries buf limit offset n).foldl (fun v e => e.apply v) v) :=
  filesFrom_foldl _ (fun v e hmem => (filesFrom_apply v (length_path_of_mem hmem)).mono
    fun _ hq => ⟨e, hmem, hq⟩) v

/-- The files that `persist_write_default_data_files` writes. -/
def defaultPaths : List CStr := cstr "/system/data-layout" :: defaultFiles.map Prod.fst

theorem filesFrom_vfsWriteDefaultFile (v : Vfs H) (text : CStr) (hpath : path ∈ defaultPaths) :
    FilesFrom (· ∈ defaultPaths) v (vfsWriteDefaultFile v path text) := by
  have hshort : ∀ path ∈ defaultPaths, path.length < maxPath := by decide
  have hopen : FilesFrom (· ∈ defaultPaths) v (vfsOpen v path (oCreat ||| oWronly)).2 :=
    (filesFrom_vfsOpen v _ (hshort path hpath)).mono fun q (hq : q = path) => hq ▸ hpath
  unfold vfsWriteDefaultFile
  split
  · exact .refl _ v
  · split <;> next heq =>
      rw [heq] at hopen
      first
      | exact hopen
      | exact (hopen.trans (filesFrom_vfsWrite _ _ _)).trans (filesFrom_vfsClose _ _)

theorem filesFrom_persistWriteDefaultDataFiles (v : Vfs H) :
    FilesFrom (· ∈ defaultPaths) v (persistWriteDefaultDataFiles v) := by
  have hroots : FilesFrom (· ∈ defaultPaths) v (vfsEnsureDataRoots v) :=
    filesFrom_foldl dataRoots (fun v root _ => filesFrom_vfsMkdir v root) v
  have hfiles : ∀ v : Vfs H, FilesFrom (· ∈ defaultPaths) v
      (defaultFiles.foldl (fun v f => vfsWriteDefaultFile v f.1 f.2) v) :=
    filesFrom_foldl defaultFiles fun v f hf => filesFrom_vfsWriteDefaultFile v f.2 (.tail _ (List.mem_map_of_mem hf))
  unfold persistWriteDefaultDataFiles
  dsimp only
  exact ((hroots.trans (filesFrom_vfsWriteDefaultFile _ _ (.head _))).trans (filesFrom_vfsMkdir _ _)).trans (hfiles _)

end Files

/-! ## The restore -/

section Restore

variable {H : Type} [Allocator H]

/-- All entries are there, and the loop knows their types. -/
def SnapshotWellFormed (buf : Mem) (info : SnapshotMeta) : Prop :=
  (snapshotEntries buf (persistHeaderSize + info.payloadSize) persistHeaderSize info.entryCount).length =
      info.entryCount ∧
    ∀ e ∈ snapshotEntries buf (persistHeaderSize + info.payloadSize) persistHeaderSize info.entryCount, e.WellTyped

/-- The snapshot that a restore of `slot` reads, and the state in which it applies the
entries. -/
def restoreReads (v : Vfs H) (slot : Int) : Option (SnapshotMeta × Vfs H) :=
  match persistOpenPartition v with
  | (false, _) => none
  | (true, v) =>
      if slot < 0 ∨ slot ≥ v.persist.slotsAvailable then none
      else
        match persistReadSlotSnapshot v.disk v.persist slot.toNat with
        | (.ok info, p) =>
            some (info, v.setPersist (persistSetLoadedMeta { p with ready := true, loading := true } info))
        | _ => none

/-- The type and the bytes of the entry at a path. -/
def entryAt (v : Vfs H) (q : CStr) : Option (InodeType × List UInt8) :=
  (findInode v q).map fun i => ((v.inodes i).type, (v.inodes i).contents)

/-- The path is a persistent root or inside one. -/
def UnderRoots (q : CStr) : Prop := q ∈ persistentRoots ∨ InsideRoot q

/-- The restore reads a snapshot and returns an error because its entries are malformed. -/
def RestoreMalformed (v : Vfs H) (slot : Int) (w : Vfs H) : Prop :=
  ∃ info u, restoreReads v slot = some (info, u) ∧ ¬ SnapshotWellFormed u.persist.buf info ∧
    vfsPersistRestoreSlot v slot = some (.error .einval, w)

/-- What is asked of that error: the tree under the roots is as before the call. -/
def RestoreKeeps (v : Vfs H) (slot : Int) : Prop :=
  ∀ w, RestoreMalformed v slot w → ∀ q, UnderRoots q → entryAt w q = entryAt v q

/-- The snapshot of the slot can be read, and is malformed. -/
def SlotMalformed (v : Vfs H) (slot : Int) : Prop :=
  ∃ info u, restoreReads v slot = some (info, u) ∧ ¬ SnapshotWellFormed u.persist.buf info

/-- A file under the roots that is cleared, and that neither an entry of the snapshot nor a
default file is named after. -/
structure Lost (info : SnapshotMeta) (v u cleared : Vfs H) (q : CStr) : Prop where
  under : UnderRoots q
  there : ∃ bytes, entryAt v q = some (.file, bytes)
  cleared : ¬ HasFile cleared q
  notNamed : ∀ e ∈ snapshotEntries u.persist.buf (persistHeaderSize + info.payloadSize) persistHeaderSize
    info.entryCount, e.Applied → e.path ≠ q
  notDefault : q ∉ defaultPaths

/-- A malformed snapshot whose restore loses a file. -/
def RestoreLoses (v : Vfs H) (slot : Int) : Prop :=
  ∃ info u cleared q, restoreReads v slot = some (info, u) ∧ ¬ SnapshotWellFormed u.persist.buf info ∧
    clearRoots u = some cleared ∧ Lost info v u cleared q

variable {v u w cleared : Vfs H} {slot : Int} {info : SnapshotMeta} {q : CStr}

omit [Allocator H] in
theorem hasFile_of_entryAt {bytes : List UInt8} (h : entryAt v q = some (.file, bytes)) : HasFile v q := by
  unfold entryAt at h
  obtain ⟨i, hi, heq⟩ := Option.map_eq_some_iff.mp h
  obtain ⟨hlt, hpath⟩ := findInode_some hi
  exact ⟨i, hlt, hpath, (Prod.mk.inj heq).1⟩

omit [Allocator H] in
theorem hasFile_setPersist {p : Persist} : HasFile (v.setPersist p) q ↔ HasFile v q := Iff.rfl

theorem vfsPersistRestoreSlot_reads (h : restoreReads v slot = some (info, u)) :
    vfsPersistRestoreSlot v slot =
      match persistApplySnapshotEntries u info with
      | none => none
      | some (wellFormed, v) =>
          let v := v.setPersist { v.persist with loading := false }
          if wellFormed then some (vfsPersistSave v) else some (.error .einval, v) := by
  unfold restoreReads at h
  unfold vfsPersistRestoreSlot
  generalize persistOpenPartition v = opened at h ⊢
  obtain ⟨ok, v'⟩ := opened
  cases ok with
  | false => cases h
  | true =>
      dsimp only at h ⊢
      by_cases hslot : slot < 0 ∨ slot ≥ v'.persist.slotsAvailable
      · rw [if_pos hslot] at h
        cases h
      · rw [if_neg hslot] at h ⊢
        generalize persistReadSlotSnapshot v'.disk v'.persist slot.toNat = read at h ⊢
        obtain ⟨status, p⟩ := read
        cases status with
        | ok info' =>
            obtain ⟨rfl, rfl⟩ := Prod.mk.inj (Option.some.inj h)
            rfl
        | ioError => cases h
        | invalid => cases h

theorem persistApplySnapshotEntries_malformed (hclear : clearRoots u = some cleared)
    (h : ¬ SnapshotWellFormed u.persist.buf info) :
    persistApplySnapshotEntries u info = some (false, persistWriteDefaultDataFiles
      ((snapshotEntries u.persist.buf (persistHeaderSize + info.payloadSize) persistHeaderSize
        info.entryCount).foldl (fun v e => e.apply v) cleared)) := by
  have hbuf : cleared.persist.buf = u.persist.buf := by rw [(quiet_clearRoots hclear).persist]
  obtain ⟨hstate, hflag⟩ := applyEntries_eq u.persist.buf (persistHeaderSize + info.payloadSize) cleared
    persistHeaderSize info.entryCount
  have hfalse : (applyEntries u.persist.buf (persistHeaderSize + info.payloadSize) cleared persistHeaderSize
      info.entryCount).1 = false := Bool.eq_false_iff.mpr fun htrue => h (hflag.mp htrue)
  unfold persistApplySnapshotEntries
  rw [hclear]
  dsimp only
  rw [hbuf, hstate, hfalse]

theorem restoreMalformed_of_clears (hreads : restoreReads v slot = some (info, u))
    (hmalformed : ¬ SnapshotWellFormed u.persist.buf info) (hclear : clearRoots u = some cleared) :
    ∃ p, RestoreMalformed v slot ((persistWriteDefaultDataFiles
      ((snapshotEntries u.persist.buf (persistHeaderSize + info.payloadSize) persistHeaderSize
        info.entryCount).foldl (fun v e => e.apply v) cleared)).setPersist p) := by
  have hrestore := vfsPersistRestoreSlot_reads hreads
  rw [persistApplySnapshotEntries_malformed hclear hmalformed] at hrestore
  exact ⟨_, info, u, hreads, hmalformed, hrestore⟩

/-- A file that is cleared and that nothing brings back is gone after the error. -/
theorem not_keeps_of_loses (h : RestoreLoses v slot) : ¬ RestoreKeeps v slot := by
  obtain ⟨info, u, cleared, q, hreads, hmalformed, hclear, hlost⟩ := h
  obtain ⟨p, herror⟩ := restoreMalformed_of_clears hreads hmalformed hclear
  intro hkeeps
  have hsame := hkeeps _ herror q hlost.under
  obtain ⟨bytes, hthere⟩ := hlost.there
  have hafter := hasFile_setPersist.mp (hasFile_of_entryAt (hsame.trans hthere))
  have hold := (filesFrom_persistWriteDefaultDataFiles _ q hafter).resolve_right hlost.notDefault
  obtain hkept | ⟨e, hmem, happlied, hpath⟩ := filesFrom_entries cleared _ _ _ _ q hold
  · exact hlost.cleared hkept
  · exact hlost.notNamed e hmem happlied hpath

end Restore

/-! ## An entry without a path -/

/-- An entry whose path has no characters. -/
def emptyEntry : List UInt8 := [0, 0, 0, 0, 0, 0, 0]

/-- The header of a snapshot of `emptyEntry`. -/
def emptyHeader : List UInt8 :=
  persistMagic ++ [0, 2, 0, 0, 0, 1, 0, 0, 0, 7, 0, 0, 0] ++
    (List.range 4).map fun i => UInt8.ofNat (persistChecksum (bytesMem emptyEntry) 0 7 / 256 ^ i)

/-- That snapshot in slot 0 of the data partition. -/
def emptyEntryDisk : Disk :=
  { gptDisk with
    sector := fun s =>
      if s = 34 then bytesMem emptyHeader
      else if s = 35 then bytesMem emptyEntry
      else gptDisk.sector s }

/-- A boot over it, and the file `/workspace/a`. -/
def workspaceFile : Vfs KernelHeap :=
  treeCall (treeCall (bootOver emptyEntryDisk) (.mkdir (cstr "/workspace"))) (.create (cstr "/workspace/a"))

end Orizon
