import Orizon.Lib.Memory
import Orizon.Vfs.Path

/-!
# Orizon.Vfs.State

The static data of `fs/vfs.c` and the block device below it.

The inode table is the whole array: entries at or past `inodeCount` are
stale and stay as the code left them.  A file's bytes live in a buffer of
the allocator; the table entry owns the buffer, so the model keeps the
buffer's pointer (which `kfree` gets back) together with its bytes.  The
allocator itself is a parameter with the three calls the file system makes.
-/

namespace Orizon

/-- `MAX_FILES`. -/
def maxFiles : Nat := 256

/-- `MAX_OPEN`. -/
def maxOpen : Nat := 32

/-- The error codes of `vfs.h`, returned negated. -/
inductive Errno
  | enoent | eio | ebadf | enomem | eexist | enotdir | eisdir | einval | enospc | enametoolong
  | enotempty
  deriving DecidableEq, Repr

/-- `inode_t.type`. -/
inductive InodeType
  | file | dir
  deriving DecidableEq, Repr

/-- A buffer of the allocator: its address and its bytes. -/
structure DataBuf where
  ptr : Nat
  bytes : Mem

/-- `inode_t`; a `parent` of -1 is `none`, a `data` of `NULL` is `none`. -/
structure Inode where
  name : CBuf maxName
  path : CBuf maxPath
  type : InodeType
  data : Option DataBuf
  size : Nat
  capacity : Nat
  parent : Option Nat

/-- `file_t`. -/
structure File where
  valid : Bool
  inode : Nat
  flags : Nat
  pos : Nat
  deriving DecidableEq, Repr

/-- A zeroed table entry. -/
def Inode.zero : Inode := ⟨⟨[], by decide⟩, ⟨[], by decide⟩, .file, none, 0, 0, some 0⟩

/-- A zeroed handle. -/
def File.zero : File := ⟨false, 0, 0, 0⟩

/-- The bytes of a file. -/
def Inode.contents (node : Inode) : List UInt8 :=
  match node.data with
  | none => []
  | some d => (List.range node.size).map d.bytes

/-- The block device: whether one is selected, which sectors transfer, whether
it is writable, and its bytes by sector and offset. -/
structure Disk where
  available : Bool
  accessible : Nat → Bool
  writable : Bool
  sector : Nat → Nat → UInt8

/-- The persistence statics of `vfs.c`; a `persist_active_slot` of -1 is
`none`. -/
structure Persist where
  ready : Bool
  loading : Bool
  lba : Nat
  dataSectors : Nat
  slotsAvailable : Nat
  sequence : Nat
  lastEntryCount : Nat
  lastPayloadSize : Nat
  lastChecksum : Nat
  lastVersion : Nat
  activeSlot : Option Nat
  buf : Mem

/-- The allocator as the file system uses it.  A successful `malloc` returns
the address and whatever bytes the block holds. -/
class Allocator (H : Type) where
  init : H → H
  malloc : H → Nat → Option DataBuf × H
  free : H → Nat → H

/-- The file system's statics, the device and the heap. -/
structure Vfs (H : Type) where
  inodes : Nat → Inode
  inodeCount : Nat
  openFiles : Nat → File
  vfsInitialized : Bool
  persist : Persist
  disk : Disk
  heap : H

variable {H : Type}

/-- `find_inode`. -/
def findInode (v : Vfs H) (path : CStr) : Option Nat :=
  (List.range v.inodeCount).find? fun i => (v.inodes i).path.val = path

/-- Replace one table entry. -/
def Vfs.setInode (v : Vfs H) (i : Nat) (node : Inode) : Vfs H :=
  { v with inodes := Function.update v.inodes i node }

/-- `kfree` of a buffer, if there is one. -/
def Vfs.freeData [Allocator H] (v : Vfs H) (data : Option DataBuf) : Vfs H :=
  match data with
  | none => v
  | some d => { v with heap := Allocator.free v.heap d.ptr }

section FreeData

variable [Allocator H] (v : Vfs H) (data : Option DataBuf)

@[simp] theorem inodes_freeData : (v.freeData data).inodes = v.inodes := by cases data <;> rfl

@[simp] theorem inodeCount_freeData : (v.freeData data).inodeCount = v.inodeCount := by
  cases data <;> rfl

@[simp] theorem openFiles_freeData : (v.freeData data).openFiles = v.openFiles := by
  cases data <;> rfl

@[simp] theorem vfsInitialized_freeData : (v.freeData data).vfsInitialized = v.vfsInitialized := by
  cases data <;> rfl

@[simp] theorem persist_freeData : (v.freeData data).persist = v.persist := by cases data <;> rfl

@[simp] theorem disk_freeData : (v.freeData data).disk = v.disk := by cases data <;> rfl

end FreeData

/-! ## The device -/

/-- `ORIZON_SECTOR_SIZE`. -/
def sectorSize : Nat := 512

/-- `storage_read` of one sector. -/
def storageRead (d : Disk) (lba : Nat) : Option Mem :=
  if d.available ∧ d.accessible lba then some (d.sector lba) else none

/-- `storage_write` of one sector. -/
def storageWrite (d : Disk) (lba : Nat) (bytes : Mem) : Option Disk :=
  if d.available ∧ d.writable ∧ d.accessible lba then
    some { d with sector := Function.update d.sector lba bytes }
  else none

/-! ## Lookup -/

section Lookup

variable {v : Vfs H} {path : CStr} {i : Nat}

theorem findInode_some (h : findInode v path = some i) :
    i < v.inodeCount ∧ (v.inodes i).path.val = path := by
  unfold findInode at h
  have hmem := List.mem_of_find?_eq_some h
  have hpath := List.find?_some h
  exact ⟨List.mem_range.mp hmem, by simpa using hpath⟩

theorem findInode_none (h : findInode v path = none) (hi : i < v.inodeCount) :
    (v.inodes i).path.val ≠ path := by
  unfold findInode at h
  have hall := List.find?_eq_none.mp h i (List.mem_range.mpr hi)
  simpa using hall

theorem findInode_isSome_iff :
    (findInode v path).isSome ↔ ∃ i, i < v.inodeCount ∧ (v.inodes i).path.val = path := by
  unfold findInode
  rw [List.find?_isSome]
  simp

end Lookup

end Orizon
