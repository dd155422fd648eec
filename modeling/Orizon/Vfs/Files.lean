import Orizon.Vfs.Snapshot
import Orizon.Vfs.Tree

/-!
# Orizon.Vfs.Files

The file and directory calls of `fs/vfs.c`.  A file pointer is the index of
its entry in `open_files`.  Calls on persistent paths end in a save, which
touches only the persistence statics and the disk.
-/

namespace Orizon

/-! ## Flags -/

/-- `O_WRONLY`. -/
def oWronly : Nat := 0x0001

/-- `O_RDWR`. -/
def oRdwr : Nat := 0x0002

/-- `O_CREAT`. -/
def oCreat : Nat := 0x0100

/-- `O_TRUNC`. -/
def oTrunc : Nat := 0x0200

/-- `O_APPEND`. -/
def oAppend : Nat := 0x0400

/-- `flags & mask`. -/
def hasFlag (flags mask : Nat) : Bool := flags &&& mask ≠ 0

/-- The `whence` argument of `vfs_seek`. -/
inductive Whence
  | set | cur | fromEnd | other
  deriving DecidableEq, Repr

variable {H : Type}

/-! ## Saving after a change -/

/-- `maybe_persist_path`. -/
def maybePersistPath (v : Vfs H) (path : CStr) : Vfs H :=
  if v.persist.ready ∧ ¬ v.persist.loading ∧ pathShouldPersist path then (vfsPersistSave v).2 else v

/-- `maybe_persist_inode`. -/
def maybePersistInode (v : Vfs H) (idx : Nat) : Vfs H :=
  if idx < v.inodeCount then maybePersistPath v (v.inodes idx).path.val else v

/-- The save at the end of `vfs_delete` and `vfs_rename`. -/
def persistIf (cond : Bool) (v : Vfs H) : Vfs H := if cond then (vfsPersistSave v).2 else v

/-! ## Handles -/

section Handles

variable [Allocator H]

/-- The free handle `vfs_open` takes. -/
def findFreeFile (v : Vfs H) : Option Nat :=
  (List.range maxOpen).find? fun i => !(v.openFiles i).valid

/-- The truncation of `vfs_open`. -/
def truncateInode (v : Vfs H) (idx : Nat) : Vfs H :=
  let node := v.inodes idx
  (v.freeData node.data).setInode idx { node with data := none, size := 0, capacity := 0 }

/-- The end of `vfs_open`: truncate if asked to, and set up the handle. -/
def openInode (v : Vfs H) (fd idx flags : Nat) : Option Nat × Vfs H :=
  if (v.inodes idx).type = .dir then (none, v)
  else
    let v := if hasFlag flags oTrunc then truncateInode v idx else v
    let file : File :=
      { valid := true
        inode := idx
        flags
        pos := if hasFlag flags oAppend then (v.inodes idx).size else 0 }
    (some fd, { v with openFiles := Function.update v.openFiles fd file })

/-- `vfs_open`; `none` is `NULL`. -/
def vfsOpen (v : Vfs H) (path : CStr) (flags : Nat) : Option Nat × Vfs H :=
  let v := vfsInit v
  match findFreeFile v with
  | none => (none, v)
  | some fd =>
      match findInode v path with
      | some idx => openInode v fd idx flags
      | none =>
          if hasFlag flags oCreat then
            match createInode v path .file with
            | (.error _, v) => (none, v)
            | (.ok idx, v) => openInode v fd idx flags
          else (none, v)

/-- `vfs_close`. -/
def vfsClose (v : Vfs H) (fd : Nat) : Vfs H :=
  let file := v.openFiles fd
  if file.valid then
    let v := { v with openFiles := Function.update v.openFiles fd { file with valid := false } }
    if hasFlag file.flags (oWronly ||| oRdwr ||| oCreat ||| oTrunc ||| oAppend) then
      maybePersistInode v file.inode
    else v
  else v

/-- `vfs_read` of `count` bytes: the bytes that were copied to the caller. -/
def vfsRead (v : Vfs H) (fd count : Nat) : Except Errno (List UInt8) × Vfs H :=
  let file := v.openFiles fd
  if ¬ file.valid then (.error .ebadf, v)
  else
    let node := v.inodes file.inode
    if node.type = .dir then (.error .eisdir, v)
    else if file.pos ≥ node.size then (.ok [], v)
    else
      let toRead := min count (node.size - file.pos)
      let bytes := match node.data with
        | some d => (List.range toRead).map fun i => d.bytes (file.pos + i)
        | none => []
      (.ok bytes, { v with
        openFiles := Function.update v.openFiles fd { file with pos := file.pos + toRead } })

/-- A `size_t` sum. -/
def sizeAdd (a b : Nat) : Nat := (a + b) % 2 ^ 64

/-- The growth of `vfs_write`: make room for `newSize` bytes; `false` if
`kmalloc` fails. -/
def growInode (v : Vfs H) (idx newSize : Nat) : Bool × Vfs H :=
  let node := v.inodes idx
  if newSize > node.capacity then
    let newCap := sizeAdd newSize 4095 / 4096 * 4096
    match Allocator.malloc v.heap newCap with
    | (none, heap) => (false, { v with heap })
    | (some newData, heap) =>
        let newData := match node.data with
          | some d => { newData with bytes := bufCopy newData.bytes 0 d.bytes node.size }
          | none => newData
        let v := { v with heap }.freeData node.data
        (true, v.setInode idx { node with data := some newData, capacity := newCap })
  else (true, v)

/-- `vfs_write` of the bytes `buf`. -/
def vfsWrite (v : Vfs H) (fd : Nat) (buf : List UInt8) : Except Errno Nat × Vfs H :=
  let file := v.openFiles fd
  if ¬ file.valid then (.error .ebadf, v)
  else if buf.length = 0 then (.ok 0, v)
  else
    let idx := file.inode
    if (v.inodes idx).type = .dir then (.error .eisdir, v)
    else
      match growInode v idx (sizeAdd file.pos buf.length) with
      | (false, v) => (.error .enomem, v)
      | (true, v) =>
          let node := v.inodes idx
          let data := node.data.map fun d =>
            { d with bytes := bufCopy d.bytes file.pos (bytesMem buf) buf.length }
          let pos := sizeAdd file.pos buf.length
          let size := if pos > node.size then pos else node.size
          let v := v.setInode idx { node with data, size }
          (.ok buf.length,
            { v with openFiles := Function.update v.openFiles fd { file with pos } })

/-- `vfs_seek`: the new position as an `int`. -/
def vfsSeek (v : Vfs H) (fd : Nat) (offset : Int) (whence : Whence) : Except Errno Int × Vfs H :=
  let file := v.openFiles fd
  if ¬ file.valid then (.error .ebadf, v)
  else
    let seek (base : Nat) : Except Errno Int × Vfs H :=
      let pos := ((base + offset) % 2 ^ 64).toNat
      (.ok (cInt pos), { v with openFiles := Function.update v.openFiles fd { file with pos } })
    match whence with
    | .set => seek 0
    | .cur => seek file.pos
    | .fromEnd => seek (v.inodes file.inode).size
    | .other => (.error .einval, v)

/-! ## Paths -/

/-- `vfs_mkdir` and `vfs_create`, which differ in the type alone. -/
def vfsMake (v : Vfs H) (path : CStr) (type : InodeType) : Except Errno Nat × Vfs H :=
  match createInode (vfsInit v) path type with
  | (.ok idx, v) => (.ok idx, maybePersistPath v path)
  | (.error e, v) => (.error e, v)

/-- `vfs_mkdir`. -/
def vfsMkdir (v : Vfs H) (path : CStr) : Except Errno Nat × Vfs H := vfsMake v path .dir

/-- `vfs_create`. -/
def vfsCreate (v : Vfs H) (path : CStr) : Except Errno Nat × Vfs H := vfsMake v path .file

/-- `dirent_t`. -/
structure Dirent where
  name : CBuf maxName
  type : InodeType
  size : Nat

/-- `vfs_readdir`: the first `maxEntries` entries of a directory.  Mounting, if need be,
is all it changes. -/
def vfsReaddir (v : Vfs H) (path : CStr) (maxEntries : Nat) : Except Errno (List Dirent) :=
  let v := vfsInit v
  match findInode v path with
  | none => .error .enoent
  | some dir =>
      if (v.inodes dir).type ≠ .dir then .error .enotdir
      else
        let children := (List.range v.inodeCount).filter fun i => (v.inodes i).parent = some dir
        .ok ((children.take maxEntries).map fun i => ⟨(v.inodes i).name, (v.inodes i).type, (v.inodes i).size⟩)

/-- `vfs_stat`: the size and the type. -/
def vfsStat (v : Vfs H) (path : CStr) : Except Errno (Nat × InodeType) :=
  match findInode v path with
  | none => .error .enoent
  | some idx => .ok ((v.inodes idx).size, (v.inodes idx).type)

/-- `vfs_exists`. -/
def vfsExists (v : Vfs H) (path : CStr) : Bool := (findInode v path).isSome

/-- `vfs_delete`. -/
def vfsDelete (v : Vfs H) (path : CStr) : Except Errno Unit × Vfs H :=
  match findInode v path with
  | none => (.error .enoent, v)
  | some idx =>
      if idx = 0 then (.error .einval, v)
      else if (v.inodes idx).type = .dir ∧ (findChildInode v idx).isSome then
        (.error .enotempty, v)
      else (.ok (), persistIf (pathShouldPersist path) (removeInode v idx))

end Handles

/-- The entries whose path `vfs_rename` rewrites with the directory at `idx`. -/
def renamesWith (v : Vfs H) (idx : Nat) (oldpath : CStr) (i : Nat) : Bool :=
  i < v.inodeCount && i ≠ idx && pathIsInside (v.inodes i).path.val oldpath

/-- The path of an entry below a renamed directory: `snprintf` into
`char[MAX_PATH]`, then `str_cpy`. -/
def renamedPath (oldpath newpath path : CStr) : CBuf maxPath :=
  strCpy maxPath (strCpy maxPath (newpath ++ path.drop oldpath.length)).val

/-- The table after a rename. -/
def renamedInodes (v : Vfs H) (idx parent : Nat) (oldpath newpath : CStr) : Nat → Inode :=
  let inodes := fun i =>
    let node := v.inodes i
    if (v.inodes idx).type = .dir ∧ renamesWith v idx oldpath i then
      { node with path := renamedPath oldpath newpath node.path.val }
    else node
  Function.update inodes idx
    { inodes idx with
      path := strCpy maxPath newpath
      name := getFilename newpath
      parent := some parent }

/-- `vfs_rename`. -/
def vfsRename (v : Vfs H) (oldpath newpath : CStr) : Except Errno Unit × Vfs H :=
  match findInode v oldpath with
  | none => (.error .enoent, v)
  | some idx =>
      if idx = 0 then (.error .einval, v)
      else if (findInode v newpath).isSome then (.error .eexist, v)
      else
        match findInode v (getParentPath newpath) with
        | none => (.error .enoent, v)
        | some parent =>
            if (v.inodes parent).type ≠ .dir then (.error .enotdir, v)
            else if (v.inodes idx).type = .dir ∧ pathIsInside newpath oldpath then
              (.error .einval, v)
            else if (v.inodes idx).type = .dir ∧ (List.range v.inodeCount).any (fun i =>
                renamesWith v idx oldpath i &&
                  cInt newpath.length + ((v.inodes i).path.val.drop oldpath.length).length ≥
                    maxPath) then
              (.error .enametoolong, v)
            else
              (.ok (), persistIf (pathShouldPersist oldpath || pathShouldPersist newpath)
                { v with inodes := renamedInodes v idx parent oldpath newpath })

end Orizon
