import Orizon.Lib.Memory

/-!
# Orizon.Kmalloc.Heap

The allocator of `mm/kmalloc.c`: a first-fit heap in a static array, with
doubly linked block headers embedded in the array's bytes.

Every header access is a word access at its offset in `block_t`; pointers
are addresses and `NULL` is 0.  The list walk runs on fuel, and `none`
stands for a walk that does not end.
-/

namespace Orizon

/-- `HEAP_SIZE`. -/
def heapSize : Nat := 64 * 1024 * 1024

/-- `MIN_BLOCK_SIZE`. -/
def minBlockSize : Nat := 64

/-- `BLOCK_MAGIC`. -/
def blockMagic : Nat := 0xDEADBEEF

/-- `sizeof(block_t)`: three 32-bit words, padding, two pointers. -/
def sizeofBlock : Nat := 32

/-- A `size_t` result. -/
def sizeT (x : Nat) : Nat := x % 2 ^ 64

/-! ## Block headers -/

section Fields

variable (m : Mem) (block v : Nat)

def magicAt : Nat := load m 4 block
def sizeAt : Nat := load m 4 (block + 4)
def freeAt : Nat := load m 4 (block + 8)
def nextAt : Nat := load m 8 (block + 16)
def prevAt : Nat := load m 8 (block + 24)

def setMagic : Mem := store m 4 block v
def setSize : Mem := store m 4 (block + 4) v
def setFree : Mem := store m 4 (block + 8) v
def setNext : Mem := store m 8 (block + 16) v
def setPrev : Mem := store m 8 (block + 24) v

end Fields

/-- The allocator's static data: the memory, the address of `heap_memory`
(any 16-byte aligned array that fits the address space), `free_list` and
`heap_initialized`. -/
structure Heap where
  mem : Mem
  heapMemory : Nat
  freeList : Nat
  heapInitialized : Bool
  aligned : 16 ∣ heapMemory
  heapMemory_pos : 0 < heapMemory
  heapMemory_le : heapMemory + heapSize ≤ 2 ^ 64

/-! ## The functions -/

/-- `kmalloc_init`. -/
def kmallocInit (h : Heap) : Heap :=
  if h.heapInitialized then h
  else
    let block := h.heapMemory
    let m := setMagic h.mem block blockMagic
    let m := setSize m block heapSize
    let m := setFree m block 1
    let m := setNext m block 0
    let m := setPrev m block 0
    { h with mem := m, freeList := block, heapInitialized := true }

/-- The loop of `find_free_block` from `block`. -/
def findFreeFrom (m : Mem) (size : Nat) : Nat → Nat → Option Nat
  | 0, _ => none
  | fuel + 1, block =>
      if block = 0 then some 0
      else if freeAt m block ≠ 0 ∧ sizeAt m block ≥ sizeT (size + sizeofBlock) then some block
      else findFreeFrom m size fuel (nextAt m block)

/-- `find_free_block`.  A list of disjoint headers has at most
`heapSize / sizeofBlock` blocks. -/
def findFreeBlock (h : Heap) (size : Nat) : Option Nat :=
  findFreeFrom h.mem size (heapSize / sizeofBlock + 1) h.freeList

/-- `split_block`. -/
def splitBlock (m : Mem) (block size : Nat) : Mem :=
  let totalNeeded := sizeT (size + sizeofBlock)
  if sizeAt m block ≥ sizeT (totalNeeded + minBlockSize + sizeofBlock) then
    let newBlock := block + totalNeeded
    let m := setMagic m newBlock blockMagic
    let m := setSize m newBlock (sizeAt m block - totalNeeded)
    let m := setFree m newBlock 1
    let m := setNext m newBlock (nextAt m block)
    let m := setPrev m newBlock block
    let m := if nextAt m block ≠ 0 then setPrev m (nextAt m block) newBlock else m
    let m := setSize m block totalNeeded
    setNext m block newBlock
  else m

/-- One half of `coalesce`: `first` takes over the size and the `next` link of
`second`, the block after it. -/
def mergeInto (m : Mem) (first second : Nat) : Mem :=
  let m := setSize m first (sizeAt m first + sizeAt m second)
  let m := setNext m first (nextAt m second)
  if nextAt m second ≠ 0 then setPrev m (nextAt m second) first else m

/-- `coalesce`, merging with the next block. -/
def coalesceNext (m : Mem) (block : Nat) : Mem :=
  if nextAt m block ≠ 0 ∧ freeAt m (nextAt m block) ≠ 0 then mergeInto m block (nextAt m block)
  else m

/-- `coalesce`, merging with the previous block. -/
def coalescePrev (m : Mem) (block : Nat) : Mem :=
  if prevAt m block ≠ 0 ∧ freeAt m (prevAt m block) ≠ 0 then mergeInto m (prevAt m block) block
  else m

/-- `coalesce`. -/
def coalesce (m : Mem) (block : Nat) : Mem := coalescePrev (coalesceNext m block) block

/-- `(size + 15) & ~15`. -/
def alignSize (size : Nat) : Nat := sizeT (size + 15) / 16 * 16

/-- `kmalloc`: the returned pointer and the heap after the call. -/
def kmalloc (h : Heap) (size : Nat) : Option (Nat × Heap) :=
  let h := kmallocInit h
  if size = 0 then some (0, h)
  else
    let size := alignSize size
    match findFreeBlock h size with
    | none => none
    | some block =>
        if block = 0 then some (0, h)
        else
          let m := splitBlock h.mem block size
          let m := setFree m block 0
          some (block + sizeofBlock, { h with mem := m })

/-- `kzalloc`. -/
def kzalloc (h : Heap) (size : Nat) : Option (Nat × Heap) :=
  match kmalloc h size with
  | none => none
  | some (ptr, h) =>
      if ptr ≠ 0 then some (ptr, { h with mem := memset h.mem ptr 0 size }) else some (ptr, h)

/-- `kfree`. -/
def kfree (h : Heap) (ptr : Nat) : Heap :=
  if ptr = 0 then h
  else
    let block := ptr - sizeofBlock
    if magicAt h.mem block ≠ blockMagic then h
    else { h with mem := coalesce (setFree h.mem block 1) block }

/-- `krealloc`. -/
def krealloc (h : Heap) (ptr newSize : Nat) : Option (Nat × Heap) :=
  if ptr = 0 then kmalloc h newSize
  else if newSize = 0 then some (0, kfree h ptr)
  else
    let block := ptr - sizeofBlock
    let oldSize := sizeAt h.mem block - sizeofBlock
    if newSize ≤ oldSize then some (ptr, h)
    else
      match kmalloc h newSize with
      | none => none
      | some (newPtr, h) =>
          if newPtr ≠ 0 then
            some (newPtr, kfree { h with mem := memcpy h.mem newPtr ptr oldSize } ptr)
          else some (newPtr, h)

/-! ## Statistics -/

/-- `kmalloc_stats_t`. -/
structure KmallocStats where
  total : Nat
  used : Nat
  free : Nat
  largestFree : Nat
  blocks : Nat
  freeBlocks : Nat
  usedBlocks : Nat
  deriving DecidableEq, Repr

/-- The loop body of `kmalloc_get_stats` for a block of `size` bytes. -/
def KmallocStats.count (stats : KmallocStats) (size free : Nat) : KmallocStats :=
  let payload := if size > sizeofBlock then size - sizeofBlock else 0
  let stats := { stats with blocks := sizeT (stats.blocks + 1) }
  if free ≠ 0 then
    { stats with
      free := sizeT (stats.free + payload)
      freeBlocks := sizeT (stats.freeBlocks + 1)
      largestFree := if payload > stats.largestFree then payload else stats.largestFree }
  else
    { stats with
      used := sizeT (stats.used + payload)
      usedBlocks := sizeT (stats.usedBlocks + 1) }

/-- The loop of `kmalloc_get_stats` from `block`. -/
def statsFrom (m : Mem) : Nat → Nat → KmallocStats → Option KmallocStats
  | 0, _, _ => none
  | fuel + 1, block, stats =>
      if block = 0 then some stats
      else statsFrom m fuel (nextAt m block) (stats.count (sizeAt m block) (freeAt m block))

/-- `kmalloc_get_stats`: the statistics and the heap after the call. -/
def kmallocGetStats (h : Heap) : Option (KmallocStats × Heap) :=
  let h := kmallocInit h
  (statsFrom h.mem (heapSize / sizeofBlock + 1) h.freeList ⟨heapSize, 0, 0, 0, 0, 0, 0⟩).map
    fun stats => (stats, h)

/-- `kmalloc_get_largest_free`. -/
def kmallocGetLargestFree (h : Heap) : Option (Nat × Heap) :=
  (kmallocGetStats h).map fun r => (r.1.largestFree, r.2)

end Orizon
