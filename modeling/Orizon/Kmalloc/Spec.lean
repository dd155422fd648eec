import Orizon.Kmalloc.Chain

/-!
# Orizon.Kmalloc.Spec

What each allocator function does to the tiling.

`Tiled m a bs` says that the heap at `a` is laid out as the tiling `bs`, and
`UsedAt a bs x s` that a used block of `s` bytes lies at `x`.  `kmalloc`
adds one used block and `kfree` removes one; neither moves or resizes another
used block.
-/

namespace Orizon

/-- The heap at `a` is laid out as `bs`. -/
structure Tiled (m : Mem) (a : Nat) (bs : List Block) : Prop where
  chain : Chain m 0 a bs 0
  header_le : ∀ b ∈ bs, sizeofBlock ≤ b.size
  total_eq : total bs = heapSize

/-- A used block of `s` bytes at `x`. -/
def UsedAt (a : Nat) (bs : List Block) (x s : Nat) : Prop := (x, ⟨s, false⟩) ∈ placed a bs

section Used

variable {a x s : Nat} {xs ys : List Block} {b : Block}

theorem usedAt_append : UsedAt a (xs ++ ys) x s ↔ UsedAt a xs x s ∨ UsedAt (a + total xs) ys x s := by
  simp [UsedAt]

theorem usedAt_cons : UsedAt a (b :: ys) x s ↔
    (x = a ∧ b = ⟨s, false⟩) ∨ UsedAt (a + b.size) ys x s := by
  simp [UsedAt, eq_comm]

theorem usedAt_cons_free (h : b.free = true) :
    UsedAt a (b :: ys) x s ↔ UsedAt (a + b.size) ys x s := by
  rw [usedAt_cons, or_iff_right]
  rintro ⟨-, rfl⟩
  cases h

theorem UsedAt.bounds (h : UsedAt a xs x s) : a ≤ x ∧ x + s ≤ a + total xs := placed_le h

end Used

/-! ## Merging -/

section Coalesce

variable {m : Mem} {a : Nat} {xs ys : List Block} {b : Block}

theorem Tiled.total_lt {bs : List Block} (h : Tiled m a bs) : total bs < 2 ^ 32 := by
  rw [h.total_eq]
  decide

theorem Tiled.merge {x : Block} (h : Tiled m a (xs ++ x :: b :: ys)) (ha : 0 < a)
    (htop : a + heapSize ≤ 2 ^ 64) :
    Tiled (mergeInto m (a + total xs) (a + total xs + x.size)) a
      (xs ++ ⟨x.size + b.size, x.free⟩ :: ys) := by
  refine ⟨chain_merge h.chain h.header_le ha (by rw [h.total_eq]; exact htop) h.total_lt, ?_, ?_⟩
  · intro c hc
    have hx := h.header_le x (by simp)
    rcases List.mem_append.mp hc with hc | hc
    · exact h.header_le c (List.mem_append_left _ hc)
    · rcases List.mem_cons.mp hc with rfl | hc
      · exact Nat.le_trans hx (Nat.le_add_right _ _)
      · exact h.header_le c (by simp [hc])
  · have htotal := h.total_eq
    simp only [total_append, total_cons] at htotal ⊢
    omega

/-- `coalesce`, first half: afterwards no free block follows. -/
theorem coalesceNext_spec (h : Tiled m a (xs ++ b :: ys)) (ha : 0 < a)
    (htop : a + heapSize ≤ 2 ^ 64) (hys : Coalesced ys) :
    ∃ c zs, Tiled (coalesceNext m (a + total xs)) a (xs ++ c :: zs) ∧ c.free = b.free ∧
      Coalesced zs ∧ EdgeUsed zs.head? ∧
      ∀ x s, UsedAt (a + total xs + c.size) zs x s ↔ UsedAt (a + total xs + b.size) ys x s := by
  have hhdr := h.chain.header_eq
  have hnext : nextAt m (a + total xs) = linkTo ys (a + total xs + b.size) 0 :=
    (congrArg Header.next hhdr :)
  unfold coalesceNext
  rw [hnext]
  cases ys with
  | nil =>
      rw [linkTo_nil, if_neg (by simp)]
      exact ⟨b, [], h, rfl, hys, by simp [EdgeUsed], fun x s => Iff.rfl⟩
  | cons y ys =>
      rw [linkTo_cons]
      have hyhdr := (show Chain m 0 a ((xs ++ [b]) ++ y :: ys) 0 by simpa using h.chain).header_eq
      have hyfree : freeAt m (a + total xs + b.size) = y.free.toNat := by
        have hfree : freeAt m (a + total (xs ++ [b])) = y.free.toNat :=
          (congrArg Header.free hyhdr :)
        simpa [Nat.add_assoc] using hfree
      rw [hyfree]
      by_cases hy : y.free = true
      · have hcond : a + total xs + b.size ≠ 0 ∧ y.free.toNat ≠ 0 := by simp [hy]; omega
        rw [if_pos hcond]
        refine ⟨_, ys, h.merge ha htop, rfl, (List.isChain_cons.mp hys).2, hys.edge_after hy, ?_⟩
        intro x s
        rw [usedAt_cons_free hy]
        simp [Nat.add_assoc]
      · have hused : y.free = false := by simpa using hy
        rw [if_neg (by simp [hused])]
        exact ⟨b, y :: ys, h, rfl, hys, by simp [EdgeUsed, hused], fun x s => Iff.rfl⟩

/-- `coalesce`, second half: afterwards no free block precedes. -/
theorem coalescePrev_spec (h : Tiled m a (xs ++ b :: ys)) (ha : 0 < a)
    (htop : a + heapSize ≤ 2 ^ 64) (hxs : Coalesced xs) (hb : b.free = true) :
    ∃ ws c, Tiled (coalescePrev m (a + total xs)) a (ws ++ c :: ys) ∧ c.free = true ∧
      Coalesced ws ∧ EdgeUsed ws.getLast? ∧ a + total ws + c.size = a + total xs + b.size ∧
      ∀ x s, UsedAt a ws x s ↔ UsedAt a xs x s := by
  have hhdr := h.chain.header_eq
  have hprev : prevAt m (a + total xs) = linkFrom 0 a xs := (congrArg Header.prev hhdr :)
  unfold coalescePrev
  rw [hprev]
  rcases List.eq_nil_or_concat' xs with rfl | ⟨ws, w, rfl⟩
  · rw [linkFrom, if_neg (by simp)]
    exact ⟨[], b, h, hb, hxs, by simp [EdgeUsed], rfl, fun x s => Iff.rfl⟩
  · rw [linkFrom_concat]
    have h' : Tiled m a (ws ++ w :: b :: ys) := by simpa using h
    have hwfree : freeAt m (a + total ws) = w.free.toNat :=
      (congrArg Header.free h'.chain.header_eq :)
    rw [hwfree]
    by_cases hw : w.free = true
    · have hcond : a + total ws ≠ 0 ∧ w.free.toNat ≠ 0 := by simp [hw]; omega
      rw [if_pos hcond]
      have hmerge := h'.merge ha htop
      have haddr : a + total (ws ++ [w]) = a + total ws + w.size := by simp [Nat.add_assoc]
      rw [haddr]
      refine ⟨ws, _, hmerge, hw, ?_, hxs.edge_before hw, by simp [Nat.add_assoc], ?_⟩
      · exact (coalesced_zip.mp hxs).1
      · intro x s
        rw [usedAt_append, usedAt_cons_free hw]
        simp [UsedAt]
    · have hused : w.free = false := by simpa using hw
      rw [if_neg (by simp [hused])]
      exact ⟨ws ++ [w], b, h, hb, hxs, by simp [EdgeUsed, hused], rfl, fun x s => Iff.rfl⟩

end Coalesce

/-! ## The heap -/

/-- An initialised heap whose block list is the tiling `bs`. -/
structure Layout (h : Heap) (bs : List Block) : Prop where
  initialized : h.heapInitialized = true
  freeList : h.freeList = h.heapMemory
  tiled : Tiled h.mem h.heapMemory bs
  coalesced : Coalesced bs

/-- The used blocks after a block of `s` bytes at `x` was added to those of `bs`. -/
def AddsUsed (a : Nat) (bs bs' : List Block) (x s : Nat) : Prop :=
  (∀ y t, UsedAt a bs' y t ↔ UsedAt a bs y t ∨ (y = x ∧ t = s)) ∧ ∀ t, ¬ UsedAt a bs x t

section Specs

variable {h : Heap} {bs xs ys : List Block} {b : Block} {size : Nat}

theorem Layout.kmallocInit (hl : Layout h bs) : kmallocInit h = h := if_pos hl.initialized

/-- The list of a laid out heap starts at `free_list`. -/
theorem Layout.linkTo_eq (hl : Layout h bs) : linkTo bs h.heapMemory 0 = h.freeList := by
  rw [hl.freeList]
  refine if_neg ?_
  rintro rfl
  exact absurd hl.tiled.total_eq (by decide)

/-- `kmalloc_init` makes one free block of the whole array. -/
theorem layout_kmallocInit (h : Heap) (huninit : h.heapInitialized = false) :
    Layout (kmallocInit h) [⟨heapSize, true⟩] := by
  have htop := h.heapMemory_le
  unfold Orizon.kmallocInit
  rw [if_neg (by simp [huninit])]
  refine ⟨rfl, rfl, ⟨⟨?_, trivial⟩, by simp [heapSize, sizeofBlock], by simp⟩, by simp [Coalesced]⟩
  rw [header_setPrev (by decide), header_setNext (by decide), header_setFree (by decide),
    header_setSize (by decide), header_setMagic (by decide)]
  rfl

/-- The list walk ends, at the first free block that is large enough or at
the end of the list. -/
theorem findFreeFrom_spec {m : Mem} {p a need fuel : Nat} (hc : Chain m p a bs 0)
    (hneed : sizeT (size + sizeofBlock) = need) (ha : 0 < a) (hfuel : bs.length < fuel) :
    ∃ r, findFreeFrom m size fuel (linkTo bs a 0) = some r ∧
      ((r = 0 ∧ ∀ b ∈ bs, b.free = true → b.size < need) ∨ ∃ xs b ys,
        bs = xs ++ b :: ys ∧ b.free = true ∧ need ≤ b.size ∧ r = a + total xs) := by
  induction bs generalizing p a fuel with
  | nil =>
      obtain ⟨fuel, rfl⟩ := Nat.exists_eq_succ_of_ne_zero (Nat.ne_of_gt hfuel)
      exact ⟨0, by simp [findFreeFrom], Or.inl ⟨rfl, by simp⟩⟩
  | cons b bs ih =>
      obtain ⟨fuel, rfl⟩ := Nat.exists_eq_succ_of_ne_zero (Nat.ne_of_gt (Nat.zero_lt_of_lt hfuel))
      have hfree : freeAt m a = b.free.toNat := (congrArg Header.free hc.1 :)
      have hsize : sizeAt m a = b.size := (congrArg Header.size hc.1 :)
      have hnext : nextAt m a = linkTo bs (a + b.size) 0 := (congrArg Header.next hc.1 :)
      rw [linkTo_cons, findFreeFrom, if_neg (Nat.ne_of_gt ha), hneed, hfree, hsize, hnext]
      by_cases hfit : b.free.toNat ≠ 0 ∧ b.size ≥ need
      · rw [if_pos hfit]
        have hb : b.free = true := by simpa using hfit.1
        exact ⟨a, rfl, Or.inr ⟨[], b, bs, rfl, hb, hfit.2, rfl⟩⟩
      · rw [if_neg hfit]
        obtain ⟨r, hr, hres⟩ := ih hc.2 (by omega) (by simpa using hfuel)
        refine ⟨r, hr, hres.imp ?_ ?_⟩
        · rintro ⟨hnull, hsmall⟩
          refine ⟨hnull, fun c hc' hcfree => ?_⟩
          rcases List.mem_cons.mp hc' with rfl | hc'
          · exact Nat.lt_of_not_le fun hle => hfit ⟨by simp [hcfree], hle⟩
          · exact hsmall c hc' hcfree
        · rintro ⟨xs, c, ys, rfl, hcfree, hcsize, rfl⟩
          exact ⟨b :: xs, c, ys, rfl, hcfree, hcsize, by simp [Nat.add_assoc]⟩

theorem Tiled.length_lt {m : Mem} {a : Nat} (ht : Tiled m a bs) :
    bs.length < heapSize / sizeofBlock + 1 := by
  have hlen := length_mul_le_total ht.header_le
  rw [ht.total_eq] at hlen
  unfold heapSize sizeofBlock at *
  omega

theorem addsUsed_use {a : Nat} (hb : b.free = true) (hsize : ∀ c ∈ xs ++ b :: ys, sizeofBlock ≤ c.size)
    {zs : List Block} {s : Nat} (hzs : ∀ y t, UsedAt (a + total xs + s) zs y t ↔
      UsedAt (a + total xs + b.size) ys y t) :
    AddsUsed a (xs ++ b :: ys) (xs ++ ⟨s, false⟩ :: zs) (a + total xs) s := by
  constructor
  · intro y t
    rw [usedAt_append, usedAt_append, usedAt_cons_free hb, usedAt_cons, hzs]
    simp only [Block.mk.injEq, and_true]
    tauto
  · intro t hused
    have hb' : (a + total xs, b) ∈ placed a (xs ++ b :: ys) := mem_placed_iff.mpr ⟨xs, ys, rfl, rfl⟩
    obtain ⟨us, vs, hsplit, -⟩ := mem_placed_iff.mp hused
    have ht : sizeofBlock ≤ t := hsize ⟨t, false⟩ (by simp [hsplit])
    have hbpos := hsize b (by simp)
    have heq := placed_unique hb' hused (by unfold sizeofBlock at hbpos; omega)
      (by unfold sizeofBlock at ht; simpa using Nat.lt_of_lt_of_le (by decide) ht)
    rw [heq] at hb
    cases hb

/-- Carving a used block of `need` bytes, or of the whole block if the rest is
too small, out of a free block. -/
theorem Tiled.carve {m : Mem} {a need : Nat} (ht : Tiled m a (xs ++ b :: ys)) (ha : 0 < a)
    (htop : a + heapSize ≤ 2 ^ 64) (hcoal : Coalesced (xs ++ b :: ys)) (hb : b.free = true)
    (hneed : sizeT (size + sizeofBlock) = need) (hpos : sizeofBlock ≤ need)
    (hfit : need ≤ b.size) :
    ∃ bs' s, Tiled (setFree (splitBlock m (a + total xs) size) (a + total xs) 0) a bs' ∧
      Coalesced bs' ∧ need ≤ s ∧ AddsUsed a (xs ++ b :: ys) bs' (a + total xs) s := by
  have htotal := ht.total_eq
  have hsb : sizeAt m (a + total xs) = b.size := (congrArg Header.size ht.chain.header_eq :)
  by_cases hrest : need + minBlockSize + sizeofBlock ≤ b.size
  · have hsplit := chain_split ht.chain ht.header_le ha (by rw [htotal]; exact htop) ht.total_lt
      hneed hpos hrest
    have hsize : ∀ c ∈ xs ++ ⟨need, b.free⟩ :: ⟨b.size - need, true⟩ :: ys,
        sizeofBlock ≤ c.size := by
      intro c hc
      rcases List.mem_append.mp hc with hc | hc
      · exact ht.header_le c (List.mem_append_left _ hc)
      · rcases List.mem_cons.mp hc with rfl | hc
        · exact hpos
        · rcases List.mem_cons.mp hc with rfl | hc
          · exact Nat.le_sub_of_add_le (by omega)
          · exact ht.header_le c (by simp [hc])
    refine ⟨xs ++ ⟨need, false⟩ :: ⟨b.size - need, true⟩ :: ys, need,
      ⟨chain_setFree hsplit hsize false, ?_, ?_⟩, hcoal.split hb, Nat.le_refl _, ?_⟩
    · intro c hc
      rcases List.mem_append.mp hc with hc | hc
      · exact ht.header_le c (List.mem_append_left _ hc)
      · rcases List.mem_cons.mp hc with rfl | hc
        · exact hpos
        · exact hsize c (by simp [hc])
    · simp only [total_append, total_cons] at htotal ⊢
      omega
    · refine addsUsed_use hb ht.header_le fun y t => ?_
      rw [usedAt_cons_free rfl]
      simp only [show a + total xs + need + (b.size - need) = a + total xs + b.size by omega]
  · have hguard : ¬ sizeAt m (a + total xs) ≥ sizeT (need + minBlockSize + sizeofBlock) := by
      rw [hsb]
      have hmod : sizeT (need + minBlockSize + sizeofBlock) = need + minBlockSize + sizeofBlock := by
        have hbt : b.size ≤ heapSize := by
          rw [← htotal, total_append, total_cons]
          omega
        unfold heapSize at hbt
        unfold sizeT minBlockSize sizeofBlock
        omega
      rw [hmod]
      exact hrest
    have hsplit : splitBlock m (a + total xs) size = m := by
      unfold splitBlock
      rw [hneed]
      exact if_neg hguard
    rw [hsplit]
    refine ⟨xs ++ ⟨b.size, false⟩ :: ys, b.size, ⟨chain_setFree ht.chain ht.header_le false, ?_, ?_⟩,
      hcoal.use, hfit, addsUsed_use hb ht.header_le fun y t => Iff.rfl⟩
    · intro c hc
      rcases List.mem_append.mp hc with hc | hc
      · exact ht.header_le c (List.mem_append_left _ hc)
      · rcases List.mem_cons.mp hc with rfl | hc
        · exact ht.header_le b (by simp)
        · exact ht.header_le c (by simp [hc])
    · simpa using htotal

theorem Layout.withMem (hl : Layout h bs) {m : Mem} {bs' : List Block}
    (ht : Tiled m h.heapMemory bs') (hc : Coalesced bs') : Layout { h with mem := m } bs' :=
  ⟨hl.initialized, hl.freeList, ht, hc⟩

/-- `kmalloc` returns: `NULL` when no free block has the bytes it looks for, or
the payload of the first that has them. -/
theorem kmalloc_cases (hl : Layout h bs) (hpos : 0 < size) :
    (kmalloc h size = some (0, h) ∧
        ∀ b ∈ bs, b.free = true → b.size < sizeT (alignSize size + sizeofBlock)) ∨
      ∃ xs b ys, bs = xs ++ b :: ys ∧ b.free = true ∧
        sizeT (alignSize size + sizeofBlock) ≤ b.size ∧
        kmalloc h size = some (h.heapMemory + total xs + sizeofBlock, { h with
          mem := setFree (splitBlock h.mem (h.heapMemory + total xs) (alignSize size))
            (h.heapMemory + total xs) 0 }) := by
  have ha := h.heapMemory_pos
  obtain ⟨r, hr, hres⟩ := findFreeFrom_spec hl.tiled.chain
    (rfl : sizeT (alignSize size + sizeofBlock) = _) ha hl.tiled.length_lt
  rw [hl.linkTo_eq] at hr
  have hrun : kmalloc h size = if r = 0 then some (0, h) else some (r + sizeofBlock,
      { h with mem := setFree (splitBlock h.mem r (alignSize size)) r 0 }) := by
    unfold kmalloc findFreeBlock
    rw [hl.kmallocInit]
    simp only [Nat.ne_of_gt hpos, if_false, hr]
  rw [hrun]
  rcases hres with ⟨rfl, hsmall⟩ | ⟨xs, b, ys, rfl, hb, hfit, rfl⟩
  · exact Or.inl ⟨if_pos rfl, hsmall⟩
  · exact Or.inr ⟨xs, b, ys, rfl, hb, hfit, if_neg (by omega)⟩

theorem need_eq (hlt : size + 47 < 2 ^ 64) :
    sizeT (alignSize size + sizeofBlock) = alignSize size + sizeofBlock ∧
      size ≤ alignSize size := by
  unfold alignSize sizeT sizeofBlock
  omega

/-- `kmalloc` returns: `NULL` on an unchanged heap, or the payload of a new
used block.  Only a request within 48 bytes of 2⁶⁴ wraps. -/
theorem kmalloc_spec (hl : Layout h bs) (hpos : 0 < size) (hlt : size + 47 < 2 ^ 64) :
    ∃ ptr h', kmalloc h size = some (ptr, h') ∧ h'.heapMemory = h.heapMemory ∧
      ((ptr = 0 ∧ h' = h) ∨ ∃ bs' x s, Layout h' bs' ∧ ptr = x + sizeofBlock ∧
        size + sizeofBlock ≤ s ∧ AddsUsed h.heapMemory bs bs' x s) := by
  have ha := h.heapMemory_pos
  have htop := h.heapMemory_le
  obtain ⟨hneed, halign⟩ := need_eq hlt
  rcases kmalloc_cases hl hpos with ⟨hrun, -⟩ | ⟨xs, b, ys, rfl, hb, hfit, hrun⟩
  · exact ⟨0, h, hrun, rfl, Or.inl ⟨rfl, rfl⟩⟩
  · rw [hneed] at hfit
    obtain ⟨bs', s, htiled, hcoal, hs, hadd⟩ := hl.tiled.carve ha htop hl.coalesced hb hneed
      (Nat.le_add_left _ _) hfit
    exact ⟨_, _, hrun, rfl, Or.inr ⟨bs', h.heapMemory + total xs, s,
      hl.withMem htiled hcoal, rfl, by omega, hadd⟩⟩

theorem Layout.payload {x s : Nat} (hl : Layout h bs) (hused : UsedAt h.heapMemory bs x s)
    {m' : Mem} (hm : ∀ y, y < x + sizeofBlock ∨ x + s ≤ y → h.mem y = m' y) :
    Layout { h with mem := m' } bs := by
  obtain ⟨xs, ys, rfl, rfl⟩ := mem_placed_iff.mp hused
  exact hl.withMem ⟨chain_payload hl.tiled.chain hl.tiled.header_le hm, hl.tiled.header_le,
    hl.tiled.total_eq⟩ hl.coalesced

theorem Layout.pos_of_used {y t : Nat} (hl : Layout h bs) (hused : UsedAt h.heapMemory bs y t) :
    sizeofBlock ≤ t := by
  obtain ⟨us, vs, rfl, -⟩ := mem_placed_iff.mp hused
  exact hl.tiled.header_le ⟨t, false⟩ (by simp)

/-- `kfree` of a live pointer takes its block out of the used blocks. -/
theorem kfree_spec {x s : Nat} (hl : Layout h bs) (hused : UsedAt h.heapMemory bs x s) :
    ∃ bs', Layout (kfree h (x + sizeofBlock)) bs' ∧
      (kfree h (x + sizeofBlock)).heapMemory = h.heapMemory ∧
      AddsUsed h.heapMemory bs' bs x s := by
  have ha := h.heapMemory_pos
  have htop := h.heapMemory_le
  have hs := hl.pos_of_used hused
  obtain ⟨xs, ys, rfl, rfl⟩ := mem_placed_iff.mp hused
  obtain ⟨hxs, hys, -, -⟩ := coalesced_zip.mp hl.coalesced
  have hmagic : magicAt h.mem (h.heapMemory + total xs) = blockMagic :=
    (congrArg Header.magic hl.tiled.chain.header_eq :)
  have hfree : Tiled (setFree h.mem (h.heapMemory + total xs) 1) h.heapMemory
      (xs ++ ⟨s, true⟩ :: ys) := by
    refine ⟨chain_setFree hl.tiled.chain hl.tiled.header_le true, ?_, ?_⟩
    · intro c hc
      rcases List.mem_append.mp hc with hc | hc
      · exact hl.tiled.header_le c (List.mem_append_left _ hc)
      · rcases List.mem_cons.mp hc with rfl | hc
        · exact hs
        · exact hl.tiled.header_le c (by simp [hc])
    · simpa using hl.tiled.total_eq
  obtain ⟨c, zs, hnext, hc, hzs, hzedge, hzused⟩ := coalesceNext_spec hfree ha htop hys
  obtain ⟨ws, d, hprev, hd, hws, hwedge, hsum, hwused⟩ := coalescePrev_spec hnext ha htop hxs hc
  rw [← coalesce] at hprev
  have hrun : kfree h (h.heapMemory + total xs + sizeofBlock) = { h with
      mem := coalesce (setFree h.mem (h.heapMemory + total xs) 1) (h.heapMemory + total xs) } := by
    unfold kfree
    rw [if_neg (by unfold sizeofBlock; omega), Nat.add_sub_cancel, if_neg (by simp [hmagic])]
  rw [hrun]
  have hl' := hl.withMem hprev (coalesced_free hws hzs hwedge hzedge)
  have hiff : ∀ y t, UsedAt h.heapMemory (ws ++ d :: zs) y t ↔
      UsedAt h.heapMemory xs y t ∨ UsedAt (h.heapMemory + total xs + s) ys y t := by
    intro y t
    rw [usedAt_append, usedAt_cons_free hd, hwused, hsum, hzused]
  refine ⟨_, hl', rfl, ?_, ?_⟩
  · intro y t
    rw [hiff, usedAt_append, usedAt_cons]
    simp only [Block.mk.injEq, and_true]
    rw [and_congr_right fun _ : y = _ => eq_comm (a := s) (b := t), or_assoc,
      or_comm (a := UsedAt _ ys y t)]
  · intro t ht
    have hpos := hl'.pos_of_used ht
    unfold sizeofBlock at hpos hs
    rcases (hiff _ t).mp ht with hin | hin
    · have hbounds := hin.bounds
      omega
    · have hbounds := hin.bounds
      omega

end Specs

/-! ## Statistics -/

/-- What `kmalloc_get_stats` counts along a list of blocks. -/
def countBlocks (bs : List Block) (stats : KmallocStats) : KmallocStats :=
  bs.foldl (fun stats b => stats.count b.size b.free.toNat) stats

section Stats

variable {h : Heap} {bs : List Block} {stats : KmallocStats} {b : Block}

/-- The walk of `kmalloc_get_stats` ends, and counts every block. -/
theorem statsFrom_spec {m : Mem} {p a fuel : Nat} (hc : Chain m p a bs 0) (ha : 0 < a)
    (hfuel : bs.length < fuel) :
    statsFrom m fuel (linkTo bs a 0) stats = some (countBlocks bs stats) := by
  induction bs generalizing p a fuel stats with
  | nil =>
      obtain ⟨fuel, rfl⟩ := Nat.exists_eq_succ_of_ne_zero (Nat.ne_of_gt hfuel)
      simp [statsFrom, countBlocks]
  | cons b bs ih =>
      obtain ⟨fuel, rfl⟩ := Nat.exists_eq_succ_of_ne_zero (Nat.ne_of_gt (Nat.zero_lt_of_lt hfuel))
      have hfree : freeAt m a = b.free.toNat := (congrArg Header.free hc.1 :)
      have hsize : sizeAt m a = b.size := (congrArg Header.size hc.1 :)
      have hnext : nextAt m a = linkTo bs (a + b.size) 0 := (congrArg Header.next hc.1 :)
      rw [linkTo_cons, statsFrom, if_neg (Nat.ne_of_gt ha), hfree, hsize, hnext]
      exact ih hc.2 (by omega) (by simpa using hfuel)

/-- Counting a block raises the largest free payload to the block's, if it is free. -/
theorem largestFree_count (stats : KmallocStats) (b : Block) :
    (stats.count b.size b.free.toNat).largestFree =
      if b.free then max stats.largestFree (b.size - sizeofBlock) else stats.largestFree := by
  have hpayload : (if b.size > sizeofBlock then b.size - sizeofBlock else 0) =
      b.size - sizeofBlock := by
    split <;> omega
  unfold KmallocStats.count
  dsimp only
  rw [hpayload]
  cases b.free with
  | false => rfl
  | true =>
      change (if b.size - sizeofBlock > stats.largestFree then b.size - sizeofBlock
        else stats.largestFree) = max stats.largestFree (b.size - sizeofBlock)
      split <;> omega

/-- The largest free payload counted is no smaller than a free block's. -/
theorem le_largestFree (hb : b ∈ bs) (hfree : b.free = true) :
    b.size - sizeofBlock ≤ (countBlocks bs stats).largestFree := by
  have hgrows : ∀ (cs : List Block) (st : KmallocStats),
      st.largestFree ≤ (countBlocks cs st).largestFree := by
    intro cs
    induction cs with
    | nil => exact fun st => le_rfl
    | cons c cs ih =>
        intro st
        refine le_trans ?_ (ih (st.count c.size c.free.toNat))
        rw [largestFree_count]
        split
        · exact le_max_left _ _
        · exact le_rfl
  induction bs generalizing stats with
  | nil => cases hb
  | cons c cs ih =>
      rcases List.mem_cons.mp hb with rfl | hb
      · refine le_trans ?_ (hgrows cs (stats.count b.size b.free.toNat))
        rw [largestFree_count, if_pos hfree]
        exact le_max_right _ _
      · exact ih hb

/-- The largest free payload counted is smaller than a heap of that size. -/
theorem largestFree_le {k : Nat} (hbs : ∀ b ∈ bs, b.size ≤ k) (hstats : stats.largestFree ≤ k) :
    (countBlocks bs stats).largestFree ≤ k := by
  induction bs generalizing stats with
  | nil => exact hstats
  | cons b bs ih =>
      refine ih (fun c hc => hbs c (List.mem_cons_of_mem b hc)) ?_
      have hb := hbs b List.mem_cons_self
      rw [largestFree_count]
      split
      · exact max_le hstats (by omega)
      · exact hstats

theorem freeBlocks_countBlocks (hroom : stats.freeBlocks + bs.length < 2 ^ 64) :
    (countBlocks bs stats).freeBlocks = stats.freeBlocks + bs.countP Block.free := by
  induction bs generalizing stats with
  | nil => rfl
  | cons b bs ih =>
      rw [List.length_cons] at hroom
      have hcount : (stats.count b.size b.free.toNat).freeBlocks =
          stats.freeBlocks + b.free.toNat := by
        unfold KmallocStats.count sizeT
        cases b.free with
        | false => rfl
        | true => exact Nat.mod_eq_of_lt (show stats.freeBlocks + 1 < 2 ^ 64 by omega)
      have hb := Bool.toNat_le b.free
      have hrest : (countBlocks bs (stats.count b.size b.free.toNat)).freeBlocks =
          (stats.count b.size b.free.toNat).freeBlocks + bs.countP Block.free :=
        ih (by rw [hcount]; omega)
      change (countBlocks bs (stats.count b.size b.free.toNat)).freeBlocks = _
      rw [hrest, hcount, List.countP_cons]
      cases b.free with
      | false => simp
      | true =>
          simp
          omega

/-- `kmalloc_get_stats` of a laid out heap. -/
theorem kmallocGetStats_spec (hl : Layout h bs) :
    kmallocGetStats h = some (countBlocks bs ⟨heapSize, 0, 0, 0, 0, 0, 0⟩, h) := by
  have hwalk : statsFrom h.mem (heapSize / sizeofBlock + 1) (linkTo bs h.heapMemory 0)
      ⟨heapSize, 0, 0, 0, 0, 0, 0⟩ = some (countBlocks bs ⟨heapSize, 0, 0, 0, 0, 0, 0⟩) :=
    statsFrom_spec hl.tiled.chain h.heapMemory_pos hl.tiled.length_lt
  unfold kmallocGetStats
  rw [hl.kmallocInit]
  dsimp only
  rw [← hl.linkTo_eq, hwalk]
  rfl

theorem freeBlocks_eq_zero_iff (hl : Layout h bs) :
    (countBlocks bs ⟨heapSize, 0, 0, 0, 0, 0, 0⟩).freeBlocks = 0 ↔ ∀ b ∈ bs, b.free = false := by
  have hlen := hl.tiled.length_lt
  have hmax : heapSize / sizeofBlock + 1 < 2 ^ 64 := by decide
  have hroom : 0 + bs.length < 2 ^ 64 := by omega
  rw [freeBlocks_countBlocks hroom, Nat.zero_add, List.countP_eq_zero]
  simp

/-! ## Requests that do not wrap -/

/-- A request of `size` bytes keeps the arithmetic of `kmalloc` below 2⁶⁴, or
finds no free block to compare with. -/
def Unwrapped (h : Heap) (size : Nat) : Prop :=
  size + 47 < 2 ^ 64 ∨
    ∃ stats, kmallocGetStats h = some (stats, kmallocInit h) ∧ stats.freeBlocks = 0

theorem Layout.unwrapped_iff {size : Nat} (hl : Layout h bs) :
    Unwrapped h size ↔ size + 47 < 2 ^ 64 ∨ ∀ b ∈ bs, b.free = false := by
  unfold Unwrapped
  rw [kmallocGetStats_spec hl, hl.kmallocInit, ← freeBlocks_eq_zero_iff hl]
  simp only [Option.some.injEq, Prod.mk.injEq, and_true, exists_eq_left']

theorem kmalloc_full {size : Nat} (hl : Layout h bs) (hfull : ∀ b ∈ bs, b.free = false) :
    kmalloc h size = some (0, h) := by
  by_cases hzero : size = 0
  · unfold kmalloc
    rw [hl.kmallocInit]
    exact if_pos hzero
  · rcases kmalloc_cases hl (Nat.pos_of_ne_zero hzero) with ⟨hrun, -⟩ | ⟨xs, b, ys, rfl, hb, -⟩
    · exact hrun
    · rw [hfull b (by simp)] at hb
      cases hb

end Stats

end Orizon
