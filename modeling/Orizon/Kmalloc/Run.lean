import Orizon.Kmalloc.Spec
import Orizon.Lib.Run

/-!
# Orizon.Kmalloc.Run

Clients of the allocator, over whole runs.

A session is the heap with a ghost table of the live pointers and the sizes
they were requested with.  The invariant ties the two together: the used
blocks of the tiling are exactly the live pointers' blocks
(`Owned`).  `heap_run_tiled` reads it back in terms of the headers in memory.
-/

namespace Orizon

/-! ## Sessions -/

/-- The heap and the live pointers with their requested sizes. -/
structure HeapSession where
  heap : Heap
  live : Nat → Option Nat

/-- A call of a client, or a store of a client into its memory. -/
inductive HeapCall
  | kmalloc (size : Nat)
  | kzalloc (size : Nat)
  | krealloc (ptr newSize : Nat)
  | kfree (ptr : Nat)
  | write (ptr offset : Nat) (byte : UInt8)

/-- The live pointers after a call returned `ptr` for a request of `size`
bytes. -/
def recordAlloc (live : Nat → Option Nat) (ptr size : Nat) : Nat → Option Nat :=
  if ptr = 0 then live else Function.update live ptr (some size)

/-- The live pointers after `ptr` was released. -/
def recordFree (live : Nat → Option Nat) (ptr : Nat) : Nat → Option Nat :=
  Function.update live ptr none

/-- The live pointers after `krealloc` of `ptr` to `newSize` bytes returned
`newPtr`: a request that failed leaves `ptr` live. -/
def recordRealloc (live : Nat → Option Nat) (ptr newSize newPtr : Nat) : Nat → Option Nat :=
  if ptr = 0 then recordAlloc live newPtr newSize
  else if newSize = 0 then recordFree live ptr
  else if newPtr = 0 then live
  else recordAlloc (recordFree live ptr) newPtr newSize

/-- The calls a client may make: sizes up to `HEAP_SIZE`, live pointers or
`NULL`, and stores inside the requested bytes. -/
def HeapSession.Permitted (s : HeapSession) : HeapCall → Prop
  | .kmalloc size => size ≤ heapSize
  | .kzalloc size => size ≤ heapSize
  | .krealloc ptr newSize => newSize ≤ heapSize ∧ (ptr = 0 ∨ ∃ n, s.live ptr = some n)
  | .kfree ptr => ptr = 0 ∨ ∃ n, s.live ptr = some n
  | .write ptr offset _ => ∃ n, s.live ptr = some n ∧ offset < n

/-- The calls a client may make whatever size it asks for: live pointers or
`NULL`, and stores inside the requested bytes. -/
def HeapSession.Proper (s : HeapSession) : HeapCall → Prop
  | .kmalloc size => size < 2 ^ 64
  | .kzalloc size => size < 2 ^ 64
  | .krealloc ptr newSize => newSize < 2 ^ 64 ∧ (ptr = 0 ∨ ∃ n, s.live ptr = some n)
  | .kfree ptr => ptr = 0 ∨ ∃ n, s.live ptr = some n
  | .write ptr offset _ => ∃ n, s.live ptr = some n ∧ offset < n

/-- A call whose request does not wrap. -/
def HeapSession.Unwraps (s : HeapSession) : HeapCall → Prop
  | .kmalloc size => Unwrapped s.heap size
  | .kzalloc size => Unwrapped s.heap size
  | .krealloc _ newSize => Unwrapped s.heap newSize
  | .kfree _ => True
  | .write _ _ _ => True

/-- The session after a call; `none` if the call does not return. -/
def HeapSession.call (s : HeapSession) : HeapCall → Option HeapSession
  | .kmalloc size =>
      (Orizon.kmalloc s.heap size).map fun r => ⟨r.2, recordAlloc s.live r.1 size⟩
  | .kzalloc size =>
      (Orizon.kzalloc s.heap size).map fun r => ⟨r.2, recordAlloc s.live r.1 size⟩
  | .krealloc ptr newSize =>
      (Orizon.krealloc s.heap ptr newSize).map fun r =>
        ⟨r.2, recordRealloc s.live ptr newSize r.1⟩
  | .kfree ptr => some ⟨Orizon.kfree s.heap ptr, recordFree s.live ptr⟩
  | .write ptr offset byte =>
      some ⟨{ s.heap with mem := store s.heap.mem 1 (ptr + offset) byte.toNat }, s.live⟩

/-- A step of a session: a permitted call that returns. -/
def HeapStep (s : HeapSession) (c : HeapCall) (t : HeapSession) : Prop :=
  s.Permitted c ∧ s.call c = some t

/-- A boot state: the allocator's statics are zero and nothing is live. -/
structure HeapSession.Boot (s : HeapSession) : Prop where
  uninitialized : s.heap.heapInitialized = false
  live : ∀ p, s.live p = none

/-! ## The invariant -/

/-- The used blocks are the live pointers' blocks, large enough for the
requests. -/
structure Owned (a : Nat) (bs : List Block) (live : Nat → Option Nat) : Prop where
  used : ∀ p n, live p = some n →
    ∃ x t, p = x + sizeofBlock ∧ UsedAt a bs x t ∧ n + sizeofBlock ≤ t
  live : ∀ x t, UsedAt a bs x t → ∃ n, live (x + sizeofBlock) = some n

/-- A session whose heap is laid out and owned, or not yet initialised. -/
def HeapSession.Inv (s : HeapSession) : Prop :=
  (s.heap.heapInitialized = false ∧ ∀ p, s.live p = none) ∨
    ∃ bs, Layout s.heap bs ∧ Owned s.heap.heapMemory bs s.live

section Owned

variable {a x t n : Nat} {bs bs' : List Block} {live : Nat → Option Nat}

theorem Owned.live_zero (h : Owned a bs live) : live 0 = none := by
  cases hz : live 0 with
  | none => rfl
  | some n =>
      obtain ⟨x, t, hx, -⟩ := h.used 0 n hz
      unfold sizeofBlock at hx
      omega

theorem Owned.add (h : Owned a bs live) (hadd : AddsUsed a bs bs' x t)
    (hn : n + sizeofBlock ≤ t) :
    Owned a bs' (recordAlloc live (x + sizeofBlock) n) := by
  have hrec : recordAlloc live (x + sizeofBlock) n =
      Function.update live (x + sizeofBlock) (some n) := if_neg (by unfold sizeofBlock; omega)
  rw [hrec]
  constructor
  · intro p k hp
    by_cases hpx : p = x + sizeofBlock
    · subst hpx
      rw [Function.update_self] at hp
      obtain rfl := Option.some.inj hp
      exact ⟨x, t, rfl, (hadd.1 x t).mpr (Or.inr ⟨rfl, rfl⟩), hn⟩
    · rw [Function.update_of_ne hpx] at hp
      obtain ⟨y, u, hy, hused, hk⟩ := h.used p k hp
      exact ⟨y, u, hy, (hadd.1 y u).mpr (Or.inl hused), hk⟩
  · intro y u hused
    rcases (hadd.1 y u).mp hused with hold | ⟨rfl, -⟩
    · obtain ⟨k, hk⟩ := h.live y u hold
      have hne : y + sizeofBlock ≠ x + sizeofBlock := by
        intro heq
        obtain rfl : y = x := by omega
        exact hadd.2 u hold
      exact ⟨k, by rw [Function.update_of_ne hne, hk]⟩
    · exact ⟨n, Function.update_self ..⟩

theorem Owned.remove (h : Owned a bs live) (hadd : AddsUsed a bs' bs x t) :
    Owned a bs' (recordFree live (x + sizeofBlock)) := by
  unfold recordFree
  constructor
  · intro p k hp
    have hpx : p ≠ x + sizeofBlock := by
      rintro rfl
      rw [Function.update_self] at hp
      cases hp
    rw [Function.update_of_ne hpx] at hp
    obtain ⟨y, u, rfl, hused, hk⟩ := h.used p k hp
    rcases (hadd.1 y u).mp hused with hnew | ⟨rfl, -⟩
    · exact ⟨y, u, rfl, hnew, hk⟩
    · exact absurd rfl hpx
  · intro y u hused
    obtain ⟨k, hk⟩ := h.live y u ((hadd.1 y u).mpr (Or.inl hused))
    have hne : y + sizeofBlock ≠ x + sizeofBlock := by
      intro heq
      obtain rfl : y = x := by omega
      exact hadd.2 u hused
    exact ⟨k, by rw [Function.update_of_ne hne, hk]⟩

theorem Owned.resize (h : Owned a bs live) (hused : UsedAt a bs x t)
    (hn : n + sizeofBlock ≤ t) :
    Owned a bs (recordAlloc (recordFree live (x + sizeofBlock)) (x + sizeofBlock) n) := by
  have hrec : recordAlloc (recordFree live (x + sizeofBlock)) (x + sizeofBlock) n =
      Function.update live (x + sizeofBlock) (some n) := by
    unfold recordAlloc recordFree
    rw [if_neg (by unfold sizeofBlock; omega), Function.update_idem]
  rw [hrec]
  constructor
  · intro p k hp
    by_cases hpx : p = x + sizeofBlock
    · subst hpx
      rw [Function.update_self] at hp
      obtain rfl := Option.some.inj hp
      exact ⟨x, t, rfl, hused, hn⟩
    · rw [Function.update_of_ne hpx] at hp
      exact h.used p k hp
  · intro y u hy
    by_cases hyx : y + sizeofBlock = x + sizeofBlock
    · exact ⟨n, by rw [hyx, Function.update_self]⟩
    · rw [Function.update_of_ne hyx]
      exact h.live y u hy

end Owned

/-! ## One call -/

/-- A laid out heap owned by the live pointers. -/
def Kept (h : Heap) (live : Nat → Option Nat) : Prop :=
  ∃ bs, Layout h bs ∧ Owned h.heapMemory bs live

section Calls

variable {s : HeapSession} {h : Heap} {live : Nat → Option Nat} {size : Nat}

theorem kept_kmallocInit (hs : s.Inv) : Kept (kmallocInit s.heap) s.live := by
  rcases hs with ⟨huninit, hlive⟩ | ⟨bs, hl, howned⟩
  · refine ⟨_, layout_kmallocInit s.heap huninit, ⟨fun p n hp => ?_, fun x t hx => ?_⟩⟩
    · rw [hlive p] at hp
      cases hp
    · simp [UsedAt] at hx
  · rw [hl.kmallocInit]
    exact ⟨bs, hl, howned⟩

theorem kmallocInit_kmallocInit (h : Heap) : kmallocInit (kmallocInit h) = kmallocInit h := by
  cases hinit : h.heapInitialized with
  | false => exact (layout_kmallocInit h hinit).kmallocInit
  | true =>
      have hsame : kmallocInit h = h := if_pos hinit
      rw [hsame, hsame]

theorem kmalloc_kmallocInit (h : Heap) (size : Nat) :
    kmalloc (kmallocInit h) size = kmalloc h size := by
  unfold kmalloc
  rw [kmallocInit_kmallocInit]

theorem kzalloc_kmallocInit (h : Heap) (size : Nat) :
    kzalloc (kmallocInit h) size = kzalloc h size := by
  unfold kzalloc
  rw [kmalloc_kmallocInit]

theorem kmallocGetStats_kmallocInit (h : Heap) :
    kmallocGetStats (kmallocInit h) = kmallocGetStats h := by
  unfold kmallocGetStats
  rw [kmallocInit_kmallocInit]

theorem unwrapped_kmallocInit (h : Heap) : Unwrapped (kmallocInit h) size ↔ Unwrapped h size := by
  unfold Unwrapped
  rw [kmallocGetStats_kmallocInit, kmallocInit_kmallocInit]

/-- `kmalloc` returns and records its block, whose payload holds the request. -/
theorem kmalloc_kept (hk : Kept h live) (hsize : Unwrapped h size) :
    ∃ ptr h', kmalloc h size = some (ptr, h') ∧ Kept h' (recordAlloc live ptr size) ∧
      (ptr = 0 → h' = h) ∧ (ptr ≠ 0 → ∃ bs bs' x t, Layout h bs ∧ Owned h.heapMemory bs live ∧
        Layout h' bs' ∧ h'.heapMemory = h.heapMemory ∧ ptr = x + sizeofBlock ∧
        size + sizeofBlock ≤ t ∧ AddsUsed h.heapMemory bs bs' x t) := by
  obtain ⟨bs, hl, howned⟩ := hk
  by_cases hzero : size = 0
  · subst hzero
    refine ⟨0, h, ?_, ⟨bs, hl, by simpa [recordAlloc] using howned⟩, fun _ => rfl, by simp⟩
    unfold kmalloc
    rw [hl.kmallocInit]
    rfl
  rcases hl.unwrapped_iff.mp hsize with hlt | hfull
  swap
  · exact ⟨0, h, kmalloc_full hl hfull, ⟨bs, hl, by simpa [recordAlloc] using howned⟩,
      fun _ => rfl, by simp⟩
  · obtain ⟨ptr, h', hrun, hmem, hres⟩ := kmalloc_spec hl (Nat.pos_of_ne_zero hzero) hlt
    rcases hres with ⟨rfl, rfl⟩ | ⟨bs', x, t, hl', rfl, hfit, hadd⟩
    · exact ⟨0, h', hrun, ⟨bs, hl, by simpa [recordAlloc] using howned⟩, fun _ => rfl, by simp⟩
    · refine ⟨_, h', hrun, ⟨bs', hl', ?_⟩, fun hptr => ?_, fun _ => ?_⟩
      · rw [hmem]
        exact howned.add hadd hfit
      · unfold sizeofBlock at hptr
        omega
      · exact ⟨bs, bs', x, t, hl, howned, hl', hmem, rfl, hfit, hadd⟩

theorem kzalloc_kept (hk : Kept h live) (hsize : Unwrapped h size) :
    ∃ ptr h', kzalloc h size = some (ptr, h') ∧ Kept h' (recordAlloc live ptr size) := by
  obtain ⟨ptr, h', hrun, hk', hnull, hnew⟩ := kmalloc_kept hk hsize
  unfold kzalloc
  rw [hrun]
  by_cases hptr : ptr = 0
  · exact ⟨ptr, h', if_neg (by simp [hptr]), hk'⟩
  · obtain ⟨bs, bs', x, t, -, howned, hl', hmem, rfl, hfit, hadd⟩ := hnew hptr
    refine ⟨_, _, if_pos hptr, bs', ?_, ?_⟩
    · refine hl'.payload (x := x) (s := t) ?_ fun y hy => (memset_of_outside (by omega)).symm
      rw [hmem]
      exact (hadd.1 x t).mpr (Or.inr ⟨rfl, rfl⟩)
    · rw [← hmem] at howned hadd
      exact howned.add hadd hfit

theorem kfree_kept {ptr n : Nat} (hk : Kept h live) (hptr : live ptr = some n) :
    Kept (kfree h ptr) (recordFree live ptr) := by
  obtain ⟨bs, hl, howned⟩ := hk
  obtain ⟨x, t, rfl, hused, -⟩ := howned.used ptr n hptr
  obtain ⟨bs', hl', hmem, hadd⟩ := kfree_spec hl hused
  refine ⟨bs', hl', ?_⟩
  rw [hmem]
  exact howned.remove hadd

/-- `krealloc` of a live pointer moves at most its own block. -/
theorem krealloc_kept {ptr n : Nat} (hk : Kept h live) (hptr : live ptr = some n)
    (hsize : Unwrapped h size) :
    ∃ newPtr h', krealloc h ptr size = some (newPtr, h') ∧
      Kept h' (recordRealloc live ptr size newPtr) := by
  obtain ⟨bs, hl, howned⟩ := id hk
  obtain ⟨x, t, rfl, hused, -⟩ := howned.used ptr n hptr
  have hne : x + sizeofBlock ≠ 0 := by
    unfold sizeofBlock
    omega
  unfold krealloc recordRealloc
  simp only [if_neg hne]
  by_cases hzero : size = 0
  · simp only [if_pos hzero]
    exact ⟨0, _, rfl, kfree_kept hk hptr⟩
  have hblock : sizeAt h.mem x = t := by
    obtain ⟨xs, ys, rfl, rfl⟩ := mem_placed_iff.mp hused
    exact (congrArg Header.size hl.tiled.chain.header_eq :)
  simp only [if_neg hzero, Nat.add_sub_cancel, hblock]
  by_cases hfits : size ≤ t - sizeofBlock
  · -- the request still fits the block
    have ht := hl.pos_of_used hused
    simp only [if_pos hfits]
    refine ⟨_, h, rfl, bs, hl, ?_⟩
    rw [if_neg hne]
    exact howned.resize hused (by omega)
  · simp only [if_neg hfits]
    obtain ⟨newPtr, h', hrun, hk', hnull, hnew⟩ := kmalloc_kept hk hsize
    rw [hrun]
    by_cases hnp : newPtr = 0
    · obtain rfl := hnull hnp
      exact ⟨newPtr, h', if_neg (by simp [hnp]), by rw [if_pos hnp]; exact hk⟩
    · obtain ⟨bs₀, bs', x', t', hl₀, howned₀, hl', hmem, rfl, hfit, hadd⟩ := hnew hnp
      obtain ⟨x₀, t₀, hx₀, hused₀, -⟩ := howned₀.used _ n hptr
      obtain rfl : x = x₀ := by omega
      have hxx' : x + sizeofBlock ≠ x' + sizeofBlock := by
        intro heq
        obtain rfl : x = x' := by omega
        exact hadd.2 t₀ hused₀
      -- the copy stays inside the new payload
      let m' := memcpy h'.mem (x' + sizeofBlock) (x + sizeofBlock) (t - sizeofBlock)
      have hcopy : Kept { h' with mem := m' } (recordAlloc live (x' + sizeofBlock) size) := by
        refine ⟨bs', ?_, ?_⟩
        · refine hl'.payload (x := x') (s := t') ?_
            fun y hy => (memcpy_of_outside (by omega)).symm
          rw [hmem]
          exact (hadd.1 x' t').mpr (Or.inr ⟨rfl, rfl⟩)
        · rw [← hmem] at howned₀ hadd
          exact howned₀.add hadd hfit
      have hlive : recordAlloc live (x' + sizeofBlock) size (x + sizeofBlock) = some n := by
        unfold recordAlloc
        rw [if_neg hnp, Function.update_of_ne hxx', hptr]
      refine ⟨_, _, if_pos hnp, ?_⟩
      have hcomm : recordAlloc (recordFree live (x + sizeofBlock)) (x' + sizeofBlock) size =
          recordFree (recordAlloc live (x' + sizeofBlock) size) (x + sizeofBlock) := by
        unfold recordAlloc recordFree
        rw [if_neg hnp, if_neg hnp]
        exact Function.update_comm hxx' _ _ _
      rw [if_neg hnp, hcomm]
      exact kfree_kept hcopy hlive

theorem write_kept {ptr n offset : Nat} {byte : UInt8} (hk : Kept h live)
    (hptr : live ptr = some n) (hoff : offset < n) :
    Kept { h with mem := store h.mem 1 (ptr + offset) byte.toNat } live := by
  obtain ⟨bs, hl, howned⟩ := hk
  obtain ⟨x, t, rfl, hused, hn⟩ := howned.used ptr n hptr
  exact ⟨bs, hl.payload hused fun y hy => (store_of_outside (by omega)).symm, howned⟩

theorem inv_live_zero (hs : s.Inv) : s.live 0 = none := by
  rcases hs with ⟨-, hlive⟩ | ⟨bs, -, howned⟩
  · exact hlive 0
  · exact howned.live_zero

theorem recordFree_of_none {ptr : Nat} (hptr : live ptr = none) : recordFree live ptr = live := by
  unfold recordFree
  rw [← hptr, Function.update_eq_self]

theorem kept_of_live {ptr n : Nat} (hs : s.Inv) (hptr : s.live ptr = some n) :
    Kept s.heap s.live := by
  rcases hs with ⟨-, hlive⟩ | hk
  · rw [hlive ptr] at hptr
    cases hptr
  · exact hk

theorem unwrapped_of_le_heapSize (hle : size ≤ heapSize) : Unwrapped h size := by
  unfold heapSize at hle
  exact Or.inl (by omega)

theorem proper_of_permitted {c : HeapCall} (hc : s.Permitted c) : s.Proper c ∧ s.Unwraps c := by
  have hlt : heapSize < 2 ^ 64 := by decide
  cases c with
  | kmalloc size => exact ⟨lt_of_le_of_lt hc hlt, unwrapped_of_le_heapSize hc⟩
  | kzalloc size => exact ⟨lt_of_le_of_lt hc hlt, unwrapped_of_le_heapSize hc⟩
  | krealloc ptr newSize =>
      exact ⟨⟨lt_of_le_of_lt hc.1 hlt, hc.2⟩, unwrapped_of_le_heapSize hc.1⟩
  | kfree ptr => exact ⟨hc, trivial⟩
  | write ptr offset byte => exact ⟨hc, trivial⟩

/-- Every proper call that does not wrap returns and keeps the invariant. -/
theorem call_spec (hs : s.Inv) {c : HeapCall} (hc : s.Proper c) (hsize : s.Unwraps c) :
    ∃ t, s.call c = some t ∧ t.Inv := by
  have hk := kept_kmallocInit hs
  cases c with
  | kmalloc size =>
      obtain ⟨ptr, h', hrun, hk', -, -⟩ := kmalloc_kept hk ((unwrapped_kmallocInit _).mpr hsize)
      rw [kmalloc_kmallocInit] at hrun
      refine ⟨⟨h', recordAlloc s.live ptr size⟩, ?_, Or.inr hk'⟩
      simp [HeapSession.call, hrun]
  | kzalloc size =>
      obtain ⟨ptr, h', hrun, hk'⟩ := kzalloc_kept hk ((unwrapped_kmallocInit _).mpr hsize)
      rw [kzalloc_kmallocInit] at hrun
      refine ⟨⟨h', recordAlloc s.live ptr size⟩, ?_, Or.inr hk'⟩
      simp [HeapSession.call, hrun]
  | krealloc ptr newSize =>
      rcases hc.2 with rfl | ⟨n, hptr⟩
      · obtain ⟨ptr, h', hrun, hk', -, -⟩ := kmalloc_kept hk ((unwrapped_kmallocInit _).mpr hsize)
        rw [kmalloc_kmallocInit] at hrun
        refine ⟨⟨h', recordAlloc s.live ptr newSize⟩, ?_, Or.inr hk'⟩
        simp [HeapSession.call, Orizon.krealloc, hrun, recordRealloc]
      · obtain ⟨newPtr, h', hrun, hk'⟩ := krealloc_kept (kept_of_live hs hptr) hptr hsize
        refine ⟨⟨h', recordRealloc s.live ptr newSize newPtr⟩, ?_, Or.inr hk'⟩
        simp [HeapSession.call, hrun]
  | kfree ptr =>
      refine ⟨_, rfl, ?_⟩
      rcases hc with rfl | ⟨n, hptr⟩
      · rw [recordFree_of_none (inv_live_zero hs)]
        exact hs
      · exact Or.inr (kfree_kept (kept_of_live hs hptr) hptr)
  | write ptr offset byte =>
      obtain ⟨n, hptr, hoff⟩ := hc
      exact ⟨_, rfl, Or.inr (write_kept (kept_of_live hs hptr) hptr hoff)⟩

end Calls

theorem HeapSession.Boot.inv {s : HeapSession} (h : s.Boot) : s.Inv :=
  Or.inl ⟨h.uninitialized, h.live⟩

theorem heap_run_inv {s t : HeapSession} {calls : List HeapCall} (hboot : s.Boot)
    (hrun : Run HeapStep s calls t) : t.Inv := by
  refine hrun.invariant hboot.inv fun u c v hu hstep => ?_
  obtain ⟨hproper, hsize⟩ := proper_of_permitted hstep.1
  obtain ⟨v', hv', hinv⟩ := call_spec hu hproper hsize
  rw [hstep.2] at hv'
  exact Option.some.inj hv' ▸ hinv

/-! ## Reading the headers back -/

/-- The block list in memory, from `free_list` along the `next` links: blocks
start where the previous one ends, `prev` inverts `next`, the sizes sum to
`HEAP_SIZE`, and no two neighbours are both free. -/
structure BlockList (h : Heap) (blocks : List Nat) : Prop where
  start : blocks.head? = some h.freeList ∧ h.freeList = h.heapMemory
  link : blocks.IsChain fun b c =>
    c = b + sizeAt h.mem b ∧ nextAt h.mem b = c ∧ prevAt h.mem c = b
  first : prevAt h.mem h.freeList = 0
  last : ∀ b ∈ blocks.getLast?, nextAt h.mem b = 0
  sum : (blocks.map (sizeAt h.mem)).sum = heapSize
  coalesced : blocks.IsChain fun b c => ¬ (freeAt h.mem b ≠ 0 ∧ freeAt h.mem c ≠ 0)

/-- The end of the payload at `ptr`. -/
def payloadEnd (h : Heap) (ptr : Nat) : Nat :=
  ptr - sizeofBlock + sizeAt h.mem (ptr - sizeofBlock)

/-- Every live pointer is the payload of a used block that holds its request,
and no two payloads overlap. -/
structure Payloads (s : HeapSession) (blocks : List Nat) : Prop where
  used : ∀ p n, s.live p = some n → sizeofBlock ≤ p ∧ p - sizeofBlock ∈ blocks ∧
    freeAt s.heap.mem (p - sizeofBlock) = 0 ∧ p + n ≤ payloadEnd s.heap p
  disjoint : ∀ p q n k, s.live p = some n → s.live q = some k → p ≠ q →
    payloadEnd s.heap p ≤ q ∨ payloadEnd s.heap q ≤ p

section Readback

variable {h : Heap} {m : Mem} {p a : Nat} {bs : List Block}

private theorem chain_link (hc : Chain m p a bs 0) :
    ((placed a bs).map Prod.fst).IsChain fun b c =>
      c = b + sizeAt m b ∧ nextAt m b = c ∧ prevAt m c = b := by
  induction bs generalizing p a with
  | nil => exact List.IsChain.nil
  | cons b bs ih =>
      cases bs with
      | nil => exact List.IsChain.singleton _
      | cons c bs =>
          refine List.isChain_cons_cons.mpr ⟨⟨?_, ?_, ?_⟩, ih hc.2⟩
          · rw [show sizeAt m a = b.size from (congrArg Header.size hc.1 :)]
          · exact (congrArg Header.next hc.1 :)
          · exact (congrArg Header.prev hc.2.1 :)

private theorem chain_coalesced (hc : Chain m p a bs 0) (hcoal : Coalesced bs) :
    ((placed a bs).map Prod.fst).IsChain fun b c => ¬ (freeAt m b ≠ 0 ∧ freeAt m c ≠ 0) := by
  induction bs generalizing p a with
  | nil => exact List.IsChain.nil
  | cons b bs ih =>
      cases bs with
      | nil => exact List.IsChain.singleton _
      | cons c bs =>
          obtain ⟨hapart, hrest⟩ := List.isChain_cons_cons.mp hcoal
          refine List.isChain_cons_cons.mpr ⟨?_, ih hc.2 hrest⟩
          have hb : freeAt m a = b.free.toNat := (congrArg Header.free hc.1 :)
          have hc' : freeAt m (a + b.size) = c.free.toNat := (congrArg Header.free hc.2.1 :)
          rw [hb, hc']
          unfold Apart at hapart
          simpa using hapart

private theorem chain_last (hc : Chain m p a bs 0) :
    ∀ b ∈ ((placed a bs).map Prod.fst).getLast?, nextAt m b = 0 := by
  induction bs generalizing p a with
  | nil => simp
  | cons b bs ih =>
      cases bs with
      | nil =>
          have hnext : nextAt m a = 0 := (congrArg Header.next hc.1 :)
          simpa using hnext
      | cons c bs => simpa [List.getLast?_cons_cons] using ih hc.2

private theorem chain_sizes (hc : Chain m p a bs 0) :
    ((placed a bs).map Prod.fst).map (sizeAt m) = bs.map Block.size := by
  induction bs generalizing p a with
  | nil => rfl
  | cons b bs ih =>
      rw [placed_cons, List.map_cons, List.map_cons, List.map_cons, ih hc.2,
        show sizeAt m a = b.size from (congrArg Header.size hc.1 :)]

theorem Layout.ne_nil (hl : Layout h bs) : bs ≠ [] := by
  rintro rfl
  exact absurd hl.tiled.total_eq (by decide)

theorem Layout.blockList (hl : Layout h bs) :
    BlockList h ((placed h.heapMemory bs).map Prod.fst) := by
  obtain ⟨b, bs, rfl⟩ := List.exists_cons_of_ne_nil hl.ne_nil
  refine ⟨⟨by rw [hl.freeList]; rfl, hl.freeList⟩, chain_link hl.tiled.chain, ?_,
    chain_last hl.tiled.chain, ?_, chain_coalesced hl.tiled.chain hl.coalesced⟩
  · rw [hl.freeList]
    exact (congrArg Header.prev hl.tiled.chain.1 :)
  · rw [chain_sizes hl.tiled.chain]
    exact hl.tiled.total_eq

theorem Layout.header_of_used {x t : Nat} (hl : Layout h bs) (hused : UsedAt h.heapMemory bs x t) :
    sizeAt h.mem x = t ∧ freeAt h.mem x = 0 := by
  obtain ⟨xs, ys, rfl, rfl⟩ := mem_placed_iff.mp hused
  exact ⟨(congrArg Header.size hl.tiled.chain.header_eq :),
    (congrArg Header.free hl.tiled.chain.header_eq :)⟩

theorem Layout.payloads {live : Nat → Option Nat} (hl : Layout h bs)
    (ho : Owned h.heapMemory bs live) :
    Payloads ⟨h, live⟩ ((placed h.heapMemory bs).map Prod.fst) := by
  constructor
  · intro p n hp
    obtain ⟨x, t, rfl, hused, hn⟩ := ho.used p n hp
    obtain ⟨hsize, hfree⟩ := hl.header_of_used hused
    simp only [payloadEnd, Nat.add_sub_cancel, hsize, hfree]
    exact ⟨Nat.le_add_left _ _, List.mem_map.mpr ⟨_, hused, rfl⟩, trivial, by omega⟩
  · intro p q n k hp hq hpq
    obtain ⟨x, t, rfl, hx, -⟩ := ho.used p n hp
    obtain ⟨y, u, rfl, hy, -⟩ := ho.used q k hq
    simp only [payloadEnd, Nat.add_sub_cancel, (hl.header_of_used hx).1, (hl.header_of_used hy).1]
    rcases placed_disjoint hx hy with ⟨rfl, -⟩ | hlt | hlt
    · exact absurd rfl hpq
    · exact Or.inl (by simpa using Nat.le_trans hlt (Nat.le_add_right y _))
    · exact Or.inr (by simpa using Nat.le_trans hlt (Nat.le_add_right x _))

theorem Layout.single (hl : Layout h bs) (hnone : ∀ x t, ¬ UsedAt h.heapMemory bs x t) :
    bs = [⟨heapSize, true⟩] := by
  have hfree : ∀ b ∈ bs, b.free = true := by
    intro b hb
    obtain ⟨xs, ys, rfl⟩ := List.append_of_mem hb
    cases hbf : b.free with
    | true => rfl
    | false =>
        refine absurd (mem_placed_iff.mpr ⟨xs, ys, ?_, rfl⟩) (hnone (h.heapMemory + total xs) b.size)
        rw [← hbf]
  have htotal := hl.tiled.total_eq
  have hcoal := hl.coalesced
  obtain ⟨b, bs, rfl⟩ := List.exists_cons_of_ne_nil hl.ne_nil
  cases bs with
  | nil =>
      obtain ⟨size, free⟩ := b
      obtain rfl : free = true := hfree _ List.mem_cons_self
      simpa using htotal
  | cons c bs =>
      exact absurd ⟨hfree b (by simp), hfree c (by simp)⟩ (List.isChain_cons_cons.mp hcoal).1

end Readback

/-- In every session reached from boot by permitted calls: the block list
tiles the heap, maximally coalesced, and every live payload is a block of its
own; with nothing live the heap is one free block of `HEAP_SIZE` bytes.
Before the first allocation nothing is live, and every permitted call
returns. -/
theorem heap_run_tiled {s t : HeapSession} {calls : List HeapCall} (hboot : s.Boot)
    (hrun : Run HeapStep s calls t) :
    (t.heap.heapInitialized = true → ∃ blocks, BlockList t.heap blocks ∧ Payloads t blocks ∧
      ((∀ p, t.live p = none) → blocks = [t.heap.heapMemory] ∧
        sizeAt t.heap.mem t.heap.heapMemory = heapSize ∧
        freeAt t.heap.mem t.heap.heapMemory = 1)) ∧
    (t.heap.heapInitialized = false → ∀ p, t.live p = none) ∧
    ∀ c, t.Permitted c → ∃ u, t.call c = some u := by
  have hinv := heap_run_inv hboot hrun
  refine ⟨fun hinit => ?_, fun hinit => ?_, fun c hc => ?_⟩
  · rcases hinv with ⟨huninit, -⟩ | ⟨bs, hl, howned⟩
    · rw [hinit] at huninit
      cases huninit
    · refine ⟨_, hl.blockList, hl.payloads howned, fun hnone => ?_⟩
      have hsingle : bs = [⟨heapSize, true⟩] := by
        refine hl.single fun x t hused => ?_
        obtain ⟨n, hn⟩ := howned.live x t hused
        rw [hnone] at hn
        cases hn
      subst hsingle
      have hhdr := hl.tiled.chain.1
      exact ⟨rfl, (congrArg Header.size hhdr :), (congrArg Header.free hhdr :)⟩
  · rcases hinv with ⟨-, hlive⟩ | ⟨bs, hl, -⟩
    · exact hlive
    · rw [hl.initialized] at hinit
      cases hinit
  · obtain ⟨hproper, hsize⟩ := proper_of_permitted hc
    obtain ⟨u, hu, -⟩ := call_spec hinv hproper hsize
    exact ⟨u, hu⟩

/-- A boot state with the heap at 1 MiB. -/
def bootSession : HeapSession where
  heap := ⟨fun _ => 0, 2 ^ 20, 0, false, by decide, by decide, by decide⟩
  live := fun _ => none

/-- Allocate twice, free the first block: an instance of the theorem on a run
whose heap has three blocks. -/
theorem heap_run_tiled_sample : ∃ t,
    Run HeapStep bootSession [.kmalloc 100, .kzalloc 40, .kfree (2 ^ 20 + 32)] t ∧
      t.live (2 ^ 20 + 176) = some 40 ∧ ∃ blocks, BlockList t.heap blocks ∧ Payloads t blocks := by
  have hboot : bootSession.Boot := ⟨rfl, fun _ => rfl⟩
  have hsome : ((bootSession.call (.kmalloc 100)).bind fun s => (s.call (.kzalloc 40)).bind fun t =>
      (t.call (.kfree (2 ^ 20 + 32))).map fun u =>
        (t.live (2 ^ 20 + 32), u.heap.heapInitialized, u.live (2 ^ 20 + 176))) =
      some (some 100, true, some 40) := by
    decide +kernel
  simp only [Option.bind_eq_some_iff, Option.map_eq_some_iff, Prod.mk.injEq] at hsome
  obtain ⟨s₁, h₁, s₂, h₂, s₃, h₃, hfirst, hinit, hlive⟩ := hsome
  have hrun : Run HeapStep bootSession [.kmalloc 100, .kzalloc 40, .kfree (2 ^ 20 + 32)] s₃ :=
    .cons ⟨show 100 ≤ heapSize by decide, h₁⟩ (.cons ⟨show 40 ≤ heapSize by decide, h₂⟩
      (.cons ⟨Or.inr ⟨100, hfirst⟩, h₃⟩ (.nil _)))
  obtain ⟨blocks, hlist, hpay, -⟩ := (heap_run_tiled hboot hrun).1 hinit
  exact ⟨s₃, hrun, hlive, blocks, hlist, hpay⟩

end Orizon
