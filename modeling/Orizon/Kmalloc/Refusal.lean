import Orizon.Kmalloc.Run

/-!
# Orizon.Kmalloc.Refusal

Requests larger than the largest free payload.

`alignSize size + sizeofBlock` is computed in 64 bits and compared with the
32-bit sizes of the headers.  Below 2⁶⁴ - 47 it does not wrap, and a request no
free block can hold is refused (`kmalloc_large`).  From there on it wraps to at
most a header, which every free block has, so the request is answered by the
first of them (`kmalloc_wrapped`).
-/

namespace Orizon

/-- The payload bytes of the block at `ptr`, as `krealloc` reads them. -/
def payloadAt (h : Heap) (ptr : Nat) : Nat := sizeAt h.mem (ptr - sizeofBlock) - sizeofBlock

/-- What a request of `size` bytes may return: `NULL` on the same block list if
`size` is larger than the largest free payload, and never a block whose payload
is smaller than `size`. -/
def Honest (h : Heap) (size : Nat) (r : Option (Nat × Heap)) : Prop :=
  ∃ largest ptr h', kmallocGetLargestFree h = some (largest, kmallocInit h) ∧
    r = some (ptr, h') ∧ (largest < size → ptr = 0 ∧ h' = kmallocInit h) ∧
    (ptr ≠ 0 → size ≤ payloadAt h' ptr)

section Requests

variable {h : Heap} {bs : List Block} {live : Nat → Option Nat} {size : Nat}

/-- The largest free payload of a tiling. -/
def largestFree (bs : List Block) : Nat :=
  (countBlocks bs ⟨heapSize, 0, 0, 0, 0, 0, 0⟩).largestFree

theorem kmallocGetLargestFree_spec (hl : Layout h bs) :
    kmallocGetLargestFree h = some (largestFree bs, h) := by
  unfold kmallocGetLargestFree
  rw [kmallocGetStats_spec hl]
  rfl

theorem honest_iff (hl : Layout h bs) {r : Option (Nat × Heap)} : Honest h size r ↔
    ∃ ptr h', r = some (ptr, h') ∧ (largestFree bs < size → ptr = 0 ∧ h' = h) ∧
      (ptr ≠ 0 → size ≤ payloadAt h' ptr) := by
  unfold Honest
  rw [kmallocGetLargestFree_spec hl, hl.kmallocInit]
  constructor
  · rintro ⟨largest, ptr, h', hlargest, hres⟩
    obtain ⟨rfl, -⟩ := Prod.mk.inj (Option.some.inj hlargest)
    exact ⟨ptr, h', hres⟩
  · rintro ⟨ptr, h', hres⟩
    exact ⟨_, ptr, h', rfl, hres⟩

theorem le_payloadAt {ptr n : Nat} (hk : Kept h live) (hptr : live ptr = some n) :
    n ≤ payloadAt h ptr := by
  obtain ⟨bs, hl, howned⟩ := hk
  obtain ⟨x, t, rfl, hused, hn⟩ := howned.used ptr n hptr
  unfold payloadAt
  rw [Nat.add_sub_cancel, (hl.header_of_used hused).1]
  omega

/-- A request that does not wrap and that no free block can hold is refused. -/
theorem kmalloc_large (hl : Layout h bs) (hsize : Unwrapped h size)
    (hlarge : largestFree bs < size) : kmalloc h size = some (0, h) := by
  rcases hl.unwrapped_iff.mp hsize with hlt | hfull
  · rcases kmalloc_cases hl (Nat.zero_lt_of_lt hlarge) with ⟨hrun, -⟩ | ⟨xs, b, ys, rfl, hb, hfit, -⟩
    · exact hrun
    · have hle : b.size - sizeofBlock ≤ largestFree (xs ++ b :: ys) :=
        le_largestFree (List.mem_append_right xs List.mem_cons_self) hb
      obtain ⟨hneed, halign⟩ := need_eq hlt
      rw [hneed] at hfit
      omega
  · exact kmalloc_full hl hfull

/-- A request that wraps is answered, by a block that cannot hold it. -/
theorem kmalloc_wrapped (hl : Layout h bs) (hlt : size < 2 ^ 64) (hwrap : ¬ Unwrapped h size) :
    largestFree bs < size ∧ ∃ ptr h', kmalloc h size = some (ptr, h') ∧ ptr ≠ 0 := by
  rw [hl.unwrapped_iff, not_or] at hwrap
  obtain ⟨hhigh, hfree⟩ := hwrap
  have hbound : ∀ b ∈ bs, b.size ≤ heapSize := by
    intro b hb
    obtain ⟨xs, ys, rfl⟩ := List.append_of_mem hb
    rw [← hl.tiled.total_eq, total_append, total_cons]
    omega
  have hlargest : largestFree bs ≤ heapSize := largestFree_le hbound (Nat.zero_le _)
  have hheap : heapSize < 2 ^ 64 - 47 := by decide
  -- what `find_free_block` compares with is at most a header
  have hneed : sizeT (alignSize size + sizeofBlock) ≤ sizeofBlock := by
    unfold alignSize sizeT sizeofBlock
    omega
  have hpos : 0 < size := by omega
  refine ⟨by omega, ?_⟩
  rcases kmalloc_cases hl hpos with ⟨-, hsmall⟩ | ⟨xs, b, ys, -, -, -, hrun⟩
  · push Not at hfree
    obtain ⟨b, hb, hbfree⟩ := hfree
    have hlow := hsmall b hb (by simpa using hbfree)
    have hhead := hl.tiled.header_le b hb
    omega
  · exact ⟨_, _, hrun, Nat.ne_of_gt (Nat.add_pos_right _ (by decide))⟩

/-- `kmalloc` is honest exactly about the requests that do not wrap. -/
theorem kmalloc_honest_iff (hk : Kept h live) (hlt : size < 2 ^ 64) :
    Honest h size (kmalloc h size) ↔ Unwrapped h size := by
  obtain ⟨bs, hl, howned⟩ := id hk
  rw [honest_iff hl]
  constructor
  · rintro ⟨ptr, h', hrun, hnull, -⟩
    by_contra hwrap
    obtain ⟨hlarge, ptr', h'', hrun', hne⟩ := kmalloc_wrapped hl hlt hwrap
    rw [hrun] at hrun'
    obtain ⟨rfl, -⟩ := Prod.mk.inj (Option.some.inj hrun')
    exact hne (hnull hlarge).1
  · intro hsize
    obtain ⟨ptr, h', hrun, hk', -, -⟩ := kmalloc_kept hk hsize
    refine ⟨ptr, h', hrun, fun hlarge => ?_, fun hne => le_payloadAt hk' ?_⟩
    · rw [kmalloc_large hl hsize hlarge] at hrun
      obtain ⟨rfl, rfl⟩ := Prod.mk.inj (Option.some.inj hrun)
      exact ⟨rfl, rfl⟩
    · unfold recordAlloc
      rw [if_neg hne, Function.update_self]

theorem kzalloc_honest_iff : Honest h size (kzalloc h size) ↔ Honest h size (kmalloc h size) := by
  have hptr : ∀ ptr h', kmalloc h size = some (ptr, h') → ptr ≠ 0 → sizeofBlock ≤ ptr := by
    intro ptr h' hrun hne
    unfold kmalloc at hrun
    dsimp only at hrun
    split at hrun
    · obtain ⟨rfl, -⟩ := Prod.mk.inj (Option.some.inj hrun)
      exact absurd rfl hne
    · split at hrun
      · cases hrun
      · split at hrun
        · obtain ⟨rfl, -⟩ := Prod.mk.inj (Option.some.inj hrun)
          exact absurd rfl hne
        · obtain ⟨rfl, -⟩ := Prod.mk.inj (Option.some.inj hrun)
          exact Nat.le_add_left _ _
  unfold kzalloc
  cases hrun : kmalloc h size with
  | none => exact Iff.rfl
  | some r =>
      obtain ⟨ptr, h'⟩ := r
      dsimp only
      by_cases hne : ptr ≠ 0
      swap
      · rw [if_neg hne]
      rw [if_pos hne]
      have hge := hptr ptr h' hrun hne
      have hpayload : payloadAt { h' with mem := memset h'.mem ptr 0 size } ptr =
          payloadAt h' ptr := by
        unfold payloadAt sizeAt
        unfold sizeofBlock at hge ⊢
        rw [load_congr fun x hlo hhi => memset_of_outside (by omega)]
      unfold Honest
      constructor
      · rintro ⟨largest, p, g, hlargest, hres, hnull, hfits⟩
        obtain ⟨rfl, rfl⟩ := Prod.mk.inj (Option.some.inj hres)
        refine ⟨largest, ptr, h', hlargest, rfl, fun hlarge => absurd (hnull hlarge).1 hne, ?_⟩
        rwa [hpayload] at hfits
      · rintro ⟨largest, p, g, hlargest, hres, hnull, hfits⟩
        obtain ⟨rfl, rfl⟩ := Prod.mk.inj (Option.some.inj hres)
        refine ⟨largest, ptr, _, hlargest, rfl, fun hlarge => absurd (hnull hlarge).1 hne, ?_⟩
        rwa [hpayload]

theorem Kept.live_ne_zero {ptr n : Nat} (hk : Kept h live) (hptr : live ptr = some n) : ptr ≠ 0 := by
  obtain ⟨bs, -, howned⟩ := hk
  rintro rfl
  rw [howned.live_zero] at hptr
  cases hptr

/-- A request that the block holds is answered in place, and one of no bytes releases it. -/
theorem krealloc_held_honest_iff {ptr : Nat} (hl : Layout h bs) (hne : ptr ≠ 0)
    (hheld : size ≤ payloadAt h ptr) : Honest h size (krealloc h ptr size) ↔ size ≤ largestFree bs := by
  rw [honest_iff hl]
  by_cases hzero : size = 0
  · subst hzero
    have hrun : krealloc h ptr 0 = some (0, kfree h ptr) := by
      unfold krealloc
      rw [if_neg hne, if_pos rfl]
    rw [hrun]
    exact iff_of_true ⟨0, _, rfl, fun hlow => absurd hlow (Nat.not_lt_zero _),
      fun h0 => absurd rfl h0⟩ (Nat.zero_le _)
  · have hrun : krealloc h ptr size = some (ptr, h) := by
      unfold krealloc
      rw [if_neg hne, if_neg hzero]
      exact if_pos hheld
    rw [hrun]
    constructor
    · rintro ⟨p, g, hres, hnull, -⟩
      obtain ⟨rfl, -⟩ := Prod.mk.inj (Option.some.inj hres)
      by_contra hlarge
      exact hne (hnull (Nat.lt_of_not_le hlarge)).1
    · exact fun hle => ⟨ptr, h, rfl, fun hlarge => absurd hle (Nat.not_le_of_lt hlarge),
        fun _ => hheld⟩

/-- A request that the block does not hold goes to `kmalloc`. -/
theorem krealloc_moves {ptr newPtr : Nat} {g : Heap} (hne : ptr ≠ 0) (hheld : ¬ size ≤ payloadAt h ptr)
    (hnew : kmalloc h size = some (newPtr, g)) : krealloc h ptr size =
      if newPtr ≠ 0 then
        some (newPtr, kfree { g with mem := memcpy g.mem newPtr ptr (payloadAt h ptr) } ptr)
      else some (newPtr, g) := by
  have hzero : size ≠ 0 := by omega
  unfold krealloc
  rw [if_neg hne, if_neg hzero]
  refine (if_neg hheld).trans ?_
  rw [hnew]
  rfl

theorem krealloc_moved_honest_iff {ptr n : Nat} (hk : Kept h live) (hptr : live ptr = some n)
    (hheld : ¬ size ≤ payloadAt h ptr) (hlt : size < 2 ^ 64) :
    Honest h size (krealloc h ptr size) ↔ Unwrapped h size := by
  obtain ⟨bs, hl, -⟩ := id hk
  have hne := hk.live_ne_zero hptr
  have hzero : size ≠ 0 := by omega
  rw [honest_iff hl]
  constructor
  · rintro ⟨p, g, hres, hnull, -⟩
    by_contra hwrap
    obtain ⟨hlarge, newPtr, g', hnew, hnp⟩ := kmalloc_wrapped hl hlt hwrap
    rw [krealloc_moves hne hheld hnew, if_pos hnp] at hres
    obtain ⟨rfl, -⟩ := Prod.mk.inj (Option.some.inj hres)
    exact hnp (hnull hlarge).1
  · intro hsize
    obtain ⟨newPtr, h', hres, hk'⟩ := krealloc_kept hk hptr hsize
    refine ⟨newPtr, h', hres, fun hlarge => ?_, fun hnp => le_payloadAt hk' ?_⟩
    · rw [krealloc_moves hne hheld (kmalloc_large hl hsize hlarge), if_neg (fun hnull => hnull rfl)] at hres
      obtain ⟨rfl, rfl⟩ := Prod.mk.inj (Option.some.inj hres)
      exact ⟨rfl, rfl⟩
    · unfold recordRealloc recordAlloc
      rw [if_neg hne, if_neg hzero, if_neg hnp, if_neg hnp, Function.update_self]

/-- `krealloc` of a live pointer is honest about the requests its block does not
hold exactly if they do not wrap; what the block holds is answered in place. -/
theorem krealloc_honest_iff {ptr n : Nat} (hk : Kept h live) (hptr : live ptr = some n)
    (hlt : size < 2 ^ 64) : Honest h size (krealloc h ptr size) ↔
      if size ≤ payloadAt h ptr then
        ∃ largest, kmallocGetLargestFree h = some (largest, h) ∧ size ≤ largest
      else Unwrapped h size := by
  obtain ⟨bs, hl, -⟩ := id hk
  by_cases hheld : size ≤ payloadAt h ptr
  · rw [if_pos hheld, krealloc_held_honest_iff hl (hk.live_ne_zero hptr) hheld, kmallocGetLargestFree_spec hl]
    simp
  · rw [if_neg hheld]
    exact krealloc_moved_honest_iff hk hptr hheld hlt

end Requests

/-! ## Runs -/

/-- A proper call whose request does not wrap, and that returns. -/
def UnwrappedStep (s : HeapSession) (c : HeapCall) (t : HeapSession) : Prop :=
  (s.Proper c ∧ s.Unwraps c) ∧ s.call c = some t

/-- What a call returns in a state is honest. -/
def HeapSession.HonestCall (s : HeapSession) : HeapCall → Prop
  | .kmalloc size => Honest s.heap size (Orizon.kmalloc s.heap size)
  | .kzalloc size => Honest s.heap size (Orizon.kzalloc s.heap size)
  | .krealloc ptr newSize => Honest s.heap newSize (Orizon.krealloc s.heap ptr newSize)
  | .kfree _ => True
  | .write _ _ _ => True

/-- A request does not wrap, and its pointer's block does not hold it already
when no free block does. -/
def HeapSession.Refusable (s : HeapSession) : HeapCall → Prop
  | .kmalloc size => Unwrapped s.heap size
  | .kzalloc size => Unwrapped s.heap size
  | .krealloc ptr newSize =>
      if ptr ≠ 0 ∧ newSize ≤ payloadAt s.heap ptr then
        ∃ largest, kmallocGetLargestFree s.heap = some (largest, s.heap) ∧ newSize ≤ largest
      else Unwrapped s.heap newSize
  | .kfree _ => True
  | .write _ _ _ => True

theorem honest_kmallocInit {h : Heap} {size : Nat} {r : Option (Nat × Heap)} :
    Honest (kmallocInit h) size r ↔ Honest h size r := by
  unfold Honest kmallocGetLargestFree
  rw [kmallocGetStats_kmallocInit, kmallocInit_kmallocInit]

/-- In a state of the invariant a request is honest exactly if it is refusable. -/
theorem honestCall_iff {s : HeapSession} (hs : s.Inv) {c : HeapCall} (hc : s.Proper c) :
    s.HonestCall c ↔ s.Refusable c := by
  have hk := kept_kmallocInit hs
  have hkmalloc : ∀ size, size < 2 ^ 64 →
      (Honest s.heap size (kmalloc s.heap size) ↔ Unwrapped s.heap size) := by
    intro size hlt
    have hiff := kmalloc_honest_iff hk hlt
    rwa [kmalloc_kmallocInit, honest_kmallocInit, unwrapped_kmallocInit] at hiff
  cases c with
  | kmalloc size => exact hkmalloc size hc
  | kzalloc size => exact kzalloc_honest_iff.trans (hkmalloc size hc)
  | krealloc ptr newSize =>
      dsimp only [HeapSession.HonestCall, HeapSession.Refusable]
      rcases hc.2 with rfl | ⟨n, hptr⟩
      · rw [if_neg fun hheld => hheld.1 rfl]
        unfold krealloc
        rw [if_pos rfl]
        exact hkmalloc newSize hc.1
      · have hne := (kept_of_live hs hptr).live_ne_zero hptr
        rw [krealloc_honest_iff (kept_of_live hs hptr) hptr hc.1]
        simp only [hne, ne_eq, not_false_eq_true, true_and]
  | kfree ptr => exact Iff.rfl
  | write ptr offset byte => exact Iff.rfl

/-- The invariant holds after every run of requests that do not wrap. -/
theorem unwrapped_run_inv {s t : HeapSession} {calls : List HeapCall} (hboot : s.Boot)
    (hrun : Run UnwrappedStep s calls t) : t.Inv := by
  refine hrun.invariant hboot.inv fun u c v hu hstep => ?_
  obtain ⟨v', hv', hinv⟩ := call_spec hu hstep.1.1 hstep.1.2
  rw [hstep.2] at hv'
  exact Option.some.inj hv' ▸ hinv

/-- **Requests larger than the largest free payload**: in every state reached by
requests that do not wrap, a request is refused when it is larger than the
largest free payload, with the block list unchanged, and never answered by a
smaller block, exactly if it does not wrap itself and is not one that
`krealloc` answers in place. -/
theorem heap_run_honest {s t : HeapSession} {calls : List HeapCall} (hboot : s.Boot)
    (hrun : Run UnwrappedStep s calls t) {c : HeapCall} (hc : t.Proper c) :
    t.HonestCall c ↔ t.Refusable c :=
  honestCall_iff (unwrapped_run_inv hboot hrun) hc

/-- A request of 2⁴⁰ bytes for a block of 100 is refused. -/
theorem heap_run_honest_sample : ∃ t,
    Run UnwrappedStep bootSession [.kmalloc 100] t ∧
      t.HonestCall (.krealloc (2 ^ 20 + 32) (2 ^ 40)) := by
  have hboot : bootSession.Boot := ⟨rfl, fun _ => rfl⟩
  have hsome : (bootSession.call (.kmalloc 100)).map (fun t => t.live (2 ^ 20 + 32)) =
      some (some 100) := by
    decide +kernel
  obtain ⟨t, hcall, hlive⟩ := Option.map_eq_some_iff.mp hsome
  have hrun : Run UnwrappedStep bootSession [.kmalloc 100] t :=
    .cons ⟨⟨show 100 < 2 ^ 64 by decide, Or.inl (by decide)⟩, hcall⟩ (.nil _)
  have hpayload : payloadAt t.heap (2 ^ 20 + 32) < 2 ^ 32 :=
    lt_of_le_of_lt (Nat.sub_le _ _) (lt_of_lt_of_eq (load_lt _ _ _) (by decide))
  have hproper : t.Proper (.krealloc (2 ^ 20 + 32) (2 ^ 40)) :=
    ⟨by decide, Or.inr ⟨100, hlive⟩⟩
  refine ⟨t, hrun, (heap_run_honest hboot hrun hproper).mpr ?_⟩
  dsimp only [HeapSession.Refusable]
  rw [if_neg (by omega)]
  exact Or.inl (by decide)

/-- A proper call that returns, whatever it requests. -/
def ProperStep (s : HeapSession) (c : HeapCall) (t : HeapSession) : Prop :=
  s.Proper c ∧ s.call c = some t

/-- `kmalloc(SIZE_MAX)` at boot returns a block without payload. -/
theorem kmalloc_max_answered : ¬ ∀ (s t : HeapSession) (calls : List HeapCall), s.Boot →
    Run ProperStep s calls t → ∀ c, t.Proper c → t.HonestCall c := by
  intro hall
  have hboot : bootSession.Boot := ⟨rfl, fun _ => rfl⟩
  obtain ⟨-, ptr, h', -, hrun, -, hfits⟩ := hall bootSession bootSession [] hboot (.nil _)
    (.kmalloc (2 ^ 64 - 1)) (show 2 ^ 64 - 1 < 2 ^ 64 by decide)
  have hsome : (kmalloc bootSession.heap (2 ^ 64 - 1)).map (fun r => (r.1, payloadAt r.2 r.1)) =
      some (2 ^ 20 + 32, 0) := by
    decide +kernel
  rw [hrun] at hsome
  obtain ⟨rfl, hpayload⟩ := Prod.mk.inj (Option.some.inj hsome)
  have hle := hfits (by decide)
  dsimp only at hpayload
  rw [hpayload] at hle
  exact absurd hle (by decide)

end Orizon
