import Orizon.Kmalloc.Heap
import Orizon.Lib.Tiling

/-!
# Orizon.Kmalloc.Chain

The block list in memory.

`Chain m p a bs n` lays the tiling `bs` out from address `a`: every block has
a header whose links name its neighbours, the first one's `prev` is `p` and
the last one's `next` is `n`.  A chain splits at any block (`chain_append`)
and survives writes outside its bytes (`Chain.congr`), so the edits of
`split_block` and `coalesce` are local (`chain_split`, `chain_merge`).
-/

namespace Orizon

/-! ## Headers -/

/-- The contents of a `block_t`. -/
structure Header where
  magic : Nat
  size : Nat
  free : Nat
  next : Nat
  prev : Nat
  deriving DecidableEq

/-- The header at an address. -/
def header (m : Mem) (a : Nat) : Header :=
  ⟨magicAt m a, sizeAt m a, freeAt m a, nextAt m a, prevAt m a⟩

section Headers

variable {m m' : Mem} {a b c n v : Nat}

theorem header_congr (h : ∀ x, a ≤ x → x < a + sizeofBlock → m x = m' x) :
    header m a = header m' a := by
  unfold header magicAt sizeAt freeAt nextAt prevAt
  unfold sizeofBlock at h
  rw [load_congr (n := 4) (a := a) fun x hlo hhi => h x (by omega) (by omega),
    load_congr (n := 4) (a := a + 4) fun x hlo hhi => h x (by omega) (by omega),
    load_congr (n := 4) (a := a + 8) fun x hlo hhi => h x (by omega) (by omega),
    load_congr (n := 8) (a := a + 16) fun x hlo hhi => h x (by omega) (by omega),
    load_congr (n := 8) (a := a + 24) fun x hlo hhi => h x (by omega) (by omega)]

theorem header_store (h : c + n ≤ a ∨ a + sizeofBlock ≤ c) :
    header (store m n c v) a = header m a :=
  header_congr fun x hlo hhi => store_of_outside (by omega)

theorem header_setMagic (h : v < 2 ^ 32) :
    header (setMagic m a v) a = { header m a with magic := v } := by
  have hword : v < 256 ^ 4 := by omega
  unfold header magicAt sizeAt freeAt nextAt prevAt setMagic
  simp (disch := omega) only [load_store hword, load_store_of_disjoint]

theorem header_setSize (h : v < 2 ^ 32) :
    header (setSize m a v) a = { header m a with size := v } := by
  have hword : v < 256 ^ 4 := by omega
  unfold header magicAt sizeAt freeAt nextAt prevAt setSize
  simp (disch := omega) only [load_store hword, load_store_of_disjoint]

theorem header_setFree (h : v < 2 ^ 32) :
    header (setFree m a v) a = { header m a with free := v } := by
  have hword : v < 256 ^ 4 := by omega
  unfold header magicAt sizeAt freeAt nextAt prevAt setFree
  simp (disch := omega) only [load_store hword, load_store_of_disjoint]

theorem header_setNext (h : v < 2 ^ 64) :
    header (setNext m a v) a = { header m a with next := v } := by
  have hword : v < 256 ^ 8 := by omega
  unfold header magicAt sizeAt freeAt nextAt prevAt setNext
  simp (disch := omega) only [load_store hword, load_store_of_disjoint]

theorem header_setPrev (h : v < 2 ^ 64) :
    header (setPrev m a v) a = { header m a with prev := v } := by
  have hword : v < 256 ^ 8 := by omega
  unfold header magicAt sizeAt freeAt nextAt prevAt setPrev
  simp (disch := omega) only [load_store hword, load_store_of_disjoint]

end Headers

/-! ## Chains -/

/-- The `next` link before the blocks `bs` at `a`. -/
def linkTo (bs : List Block) (a n : Nat) : Nat := if bs = [] then n else a

@[simp] theorem linkTo_nil (a n : Nat) : linkTo [] a n = n := rfl

@[simp] theorem linkTo_cons (b : Block) (bs : List Block) (a n : Nat) :
    linkTo (b :: bs) a n = a := rfl

/-- The header a block has in a chain. -/
def blockHeader (b : Block) (next prev : Nat) : Header :=
  ⟨blockMagic, b.size, b.free.toNat, next, prev⟩

/-- The blocks `bs` from address `a`, linked to `p` before and `n` after. -/
def Chain (m : Mem) : Nat → Nat → List Block → Nat → Prop
  | _, _, [], _ => True
  | p, a, b :: bs, n =>
      header m a = blockHeader b (linkTo bs (a + b.size) n) p ∧ Chain m a (a + b.size) bs n

/-- The `prev` link after the blocks `bs` at `a`. -/
def linkFrom : Nat → Nat → List Block → Nat
  | p, _, [] => p
  | _, a, b :: bs => linkFrom a (a + b.size) bs

section Chains

variable {m m' : Mem} {p a n : Nat} {xs ys bs : List Block} {b x : Block}

theorem linkFrom_concat (xs : List Block) (x : Block) (p a : Nat) :
    linkFrom p a (xs ++ [x]) = a + total xs := by
  induction xs generalizing p a with
  | nil => rfl
  | cons y xs ih =>
      rw [List.cons_append, linkFrom, ih, total_cons, Nat.add_assoc]

theorem chain_append : Chain m p a (xs ++ ys) n ↔
    Chain m p a xs (linkTo ys (a + total xs) n) ∧ Chain m (linkFrom p a xs) (a + total xs) ys n := by
  induction xs generalizing p a with
  | nil => simp [Chain, linkFrom]
  | cons x xs ih =>
      have hlink : linkTo (xs ++ ys) (a + x.size) n =
          linkTo xs (a + x.size) (linkTo ys (a + (x.size + total xs)) n) := by
        cases xs <;> simp
      rw [List.cons_append, Chain, Chain, ih, hlink, linkFrom, total_cons, and_assoc,
        Nat.add_assoc]

theorem Chain.congr (h : Chain m p a bs n) (hsize : ∀ b ∈ bs, sizeofBlock ≤ b.size)
    (hm : ∀ x, a ≤ x → x < a + total bs → m x = m' x) : Chain m' p a bs n := by
  induction bs generalizing p a with
  | nil => trivial
  | cons b bs ih =>
      have hb := hsize b List.mem_cons_self
      rw [total_cons] at hm
      refine ⟨?_, ih h.2 (fun c hc => hsize c (List.mem_cons_of_mem b hc))
        fun x hlo hhi => hm x (by omega) (by omega)⟩
      rw [← h.1]
      exact (header_congr fun x hlo hhi => hm x (by omega) (by omega)).symm

theorem Chain.store {c k v : Nat} (h : Chain m p a bs n) (hsize : ∀ b ∈ bs, sizeofBlock ≤ b.size)
    (hout : c + k ≤ a ∨ a + total bs ≤ c) : Chain (store m k c v) p a bs n :=
  h.congr hsize fun x hlo hhi => (store_of_outside (by omega)).symm

theorem Chain.setPrev {q : Nat} (h : Chain m p a bs n) (hsize : ∀ b ∈ bs, sizeofBlock ≤ b.size)
    (hne : bs ≠ []) (hq : q < 2 ^ 64) : Chain (setPrev m a q) q a bs n := by
  cases bs with
  | nil => exact absurd rfl hne
  | cons b bs =>
      have hb := hsize b List.mem_cons_self
      unfold sizeofBlock at hb
      refine ⟨?_, h.2.store (fun c hc => hsize c (List.mem_cons_of_mem b hc)) (by omega)⟩
      rw [header_setPrev hq, h.1]
      rfl

end Chains

/-! ## Edits -/

section Edits

variable {m m' : Mem} {p a n : Nat} {xs ys : List Block} {b x : Block}

theorem Chain.header_eq (h : Chain m p a (xs ++ b :: ys) n) :
    header m (a + total xs) =
      blockHeader b (linkTo ys (a + total xs + b.size) n) (linkFrom p a xs) :=
  (chain_append.mp h).2.1

theorem Chain.replace {b' : Block} (h : Chain m p a (xs ++ b :: ys) n)
    (hsize : ∀ c ∈ xs ++ b :: ys, sizeofBlock ≤ c.size) (hb : b'.size = b.size)
    (hm : ∀ x, x < a + total xs ∨ a + total xs + b.size ≤ x → m x = m' x)
    (hhdr : header m' (a + total xs) =
      blockHeader b' (linkTo ys (a + total xs + b.size) n) (linkFrom p a xs)) :
    Chain m' p a (xs ++ b' :: ys) n := by
  obtain ⟨hxs, hhead, hys⟩ := chain_append.mp h
  refine chain_append.mpr ⟨?_, ?_, ?_⟩
  · exact hxs.congr (fun c hc => hsize c (List.mem_append_left _ hc))
      fun x hlo hhi => hm x (Or.inl hhi)
  · rw [hhdr, hb]
  · rw [hb]
    refine hys.congr (fun c hc => hsize c ?_) fun x hlo hhi => hm x (Or.inr hlo)
    exact List.mem_append_right _ (List.mem_cons_of_mem b hc)

theorem chain_setFree (h : Chain m p a (xs ++ b :: ys) n)
    (hsize : ∀ c ∈ xs ++ b :: ys, sizeofBlock ≤ c.size) (free : Bool) :
    Chain (setFree m (a + total xs) free.toNat) p a (xs ++ ⟨b.size, free⟩ :: ys) n := by
  have hb := hsize b (by simp)
  unfold sizeofBlock at hb
  have hfree := Bool.toNat_lt free
  refine h.replace hsize rfl (fun x hx => (store_of_outside (by omega)).symm) ?_
  rw [header_setFree (by omega), h.header_eq]
  rfl

theorem chain_payload (h : Chain m p a (xs ++ b :: ys) n)
    (hsize : ∀ c ∈ xs ++ b :: ys, sizeofBlock ≤ c.size)
    (hm : ∀ x, x < a + total xs + sizeofBlock ∨ a + total xs + b.size ≤ x → m x = m' x) :
    Chain m' p a (xs ++ b :: ys) n := by
  have hb := hsize b (by simp)
  refine h.replace hsize rfl (fun x hx => hm x (by omega)) ?_
  rw [← h.header_eq]
  exact (header_congr fun x hlo hhi => hm x (by omega)).symm

/-- The writes of `mergeInto` to the first header. -/
private theorem mergeInto_eq (X B : Nat) (hdis : X + sizeofBlock ≤ B)
    (hsmall : sizeAt m X + sizeAt m B < 2 ^ 32) :
    ∃ m', mergeInto m X B =
        (if nextAt m B ≠ 0 then setPrev m' (nextAt m B) X else m') ∧
      header m' X = { header m X with size := sizeAt m X + sizeAt m B, next := nextAt m B } ∧
      ∀ y, y < X ∨ X + sizeofBlock ≤ y → m y = m' y := by
  unfold sizeofBlock at hdis
  have hnext : ∀ v, nextAt (setSize m X v) B = nextAt m B := by
    intro v
    unfold nextAt setSize
    exact load_store_of_disjoint (by omega)
  have hnext' : ∀ v w, nextAt (setNext (setSize m X v) X w) B = nextAt m B := by
    intro v w
    rw [← hnext v]
    unfold nextAt setNext
    exact load_store_of_disjoint (by omega)
  have hlt : nextAt m B < 2 ^ 64 := by
    have hload := load_lt m 8 (B + 16)
    unfold nextAt
    omega
  refine ⟨setNext (setSize m X (sizeAt m X + sizeAt m B)) X (nextAt m B), ?_, ?_, ?_⟩
  · unfold mergeInto
    simp only [hnext, hnext']
  · rw [header_setNext hlt, header_setSize hsmall]
  · intro y hy
    unfold sizeofBlock at hy
    unfold setNext setSize
    rw [store_of_outside (by omega), store_of_outside (by omega)]

theorem chain_merge (h : Chain m p a (xs ++ x :: b :: ys) 0)
    (hsize : ∀ c ∈ xs ++ x :: b :: ys, sizeofBlock ≤ c.size) (ha : 0 < a)
    (htop : a + total (xs ++ x :: b :: ys) ≤ 2 ^ 64)
    (hsmall : total (xs ++ x :: b :: ys) < 2 ^ 32) :
    Chain (mergeInto m (a + total xs) (a + total xs + x.size)) p a
      (xs ++ ⟨x.size + b.size, x.free⟩ :: ys) 0 := by
  have hx := hsize x (by simp)
  have hb := hsize b (by simp)
  have hxsize : ∀ c ∈ xs, sizeofBlock ≤ c.size := fun c hc => hsize c (by simp [hc])
  have hysize : ∀ c ∈ ys, sizeofBlock ≤ c.size := fun c hc => hsize c (by simp [hc])
  rw [total_append, total_cons, total_cons] at htop hsmall
  obtain ⟨hxs, hhx, hhb, hys⟩ := chain_append.mp h
  have hsx : sizeAt m (a + total xs) = x.size := (congrArg Header.size hhx :)
  have hsb : sizeAt m (a + total xs + x.size) = b.size := (congrArg Header.size hhb :)
  have hnb : nextAt m (a + total xs + x.size) = linkTo ys (a + total xs + x.size + b.size) 0 :=
    (congrArg Header.next hhb :)
  obtain ⟨m', hm', hhx', hout⟩ := mergeInto_eq (a + total xs) (a + total xs + x.size) (by omega)
    (by omega : sizeAt m _ + sizeAt m _ < 2 ^ 32)
  rw [hsx, hsb, hnb, hhx] at hhx'
  rw [hm', hnb]
  unfold sizeofBlock at hx hb hout
  have hxs' : Chain m' p a xs (a + total xs) := hxs.congr hxsize fun y _ hy => hout y (Or.inl hy)
  have hys' : Chain m' (a + total xs + x.size) (a + total xs + x.size + b.size) ys 0 :=
    hys.congr hysize fun y hy _ => hout y (Or.inr (by omega))
  by_cases hne : ys = []
  · subst hne
    exact chain_append.mpr ⟨hxs', hhx', trivial⟩
  · have hlink : linkTo ys (a + total xs + x.size + b.size) 0 = a + total xs + x.size + b.size :=
      if_neg hne
    rw [hlink, if_pos (by omega)]
    rw [hlink] at hhx'
    have hleft : Chain (setPrev m' (a + total xs + x.size + b.size) (a + total xs)) p a xs
        (a + total xs) := by
      unfold setPrev
      exact hxs'.store hxsize (by omega)
    refine chain_append.mpr ⟨hleft, ?_, ?_⟩
    · rw [setPrev, header_store (by unfold sizeofBlock; omega), hhx', ← Nat.add_assoc, hlink]
      rfl
    · rw [← Nat.add_assoc]
      exact hys'.setPrev hysize hne (by omega)

/-- The writes of `split_block` to the new header. -/
private theorem splitBlock_eq {X size total : Nat} (htotal : sizeT (size + sizeofBlock) = total)
    (hpos : sizeofBlock ≤ total) (hfits : total + minBlockSize + sizeofBlock ≤ sizeAt m X)
    (hsmall : sizeAt m X < 2 ^ 32) (htop : X + sizeAt m X ≤ 2 ^ 64) :
    ∃ m', splitBlock m X size = setNext (setSize (if nextAt m X ≠ 0
        then setPrev m' (nextAt m X) (X + total) else m') X total) X (X + total) ∧
      header m' (X + total) = ⟨blockMagic, sizeAt m X - total, 1, nextAt m X, X⟩ ∧
      ∀ y, y < X + total ∨ X + total + sizeofBlock ≤ y → m y = m' y := by
  have hblock : sizeofBlock = 32 := rfl
  have hlt : nextAt m X < 2 ^ 64 := by
    have hload := load_lt m 8 (X + 16)
    unfold nextAt
    omega
  have hguard : sizeAt m X ≥ sizeT (total + minBlockSize + sizeofBlock) :=
    Nat.le_trans (Nat.mod_le _ _) hfits
  -- the new header does not overlap the split block's
  have hsz : ∀ v, sizeAt (setMagic m (X + total) v) X = sizeAt m X := by
    intro v
    unfold sizeAt setMagic
    exact load_store_of_disjoint (by omega)
  have hnx : ∀ u v w, nextAt (setFree (setSize (setMagic m (X + total) u) (X + total) v)
      (X + total) w) X = nextAt m X := by
    intro u v w
    unfold nextAt setFree setSize setMagic
    simp (disch := omega) only [load_store_of_disjoint]
  have hnx' : ∀ u v w z q, nextAt (setPrev (setNext (setFree (setSize (setMagic m (X + total) u)
      (X + total) v) (X + total) w) (X + total) z) (X + total) q) X = nextAt m X := by
    intro u v w z q
    rw [← hnx u v w]
    unfold nextAt setPrev setNext
    simp (disch := omega) only [load_store_of_disjoint]
  refine ⟨setPrev (setNext (setFree (setSize (setMagic m (X + total) blockMagic) (X + total)
    (sizeAt m X - total)) (X + total) 1) (X + total) (nextAt m X)) (X + total) X, ?_, ?_, ?_⟩
  · unfold splitBlock
    simp only [htotal]
    rw [if_pos hguard]
    simp only [hsz, hnx, hnx']
  · rw [header_setPrev (by omega), header_setNext hlt, header_setFree (by decide),
      header_setSize (by omega), header_setMagic (by decide)]
  · intro y hy
    unfold setPrev setNext setFree setSize setMagic
    simp (disch := omega) only [store_of_outside]

/-- The last writes of `split_block`: the split block shrinks to `need` bytes
in front of the new block `c`. -/
private theorem chain_shrink {c : Block} {need next : Nat} (hxs : Chain m p a xs (a + total xs))
    (hhb : header m (a + total xs) = blockHeader b next (linkFrom p a xs))
    (hrest : Chain m (a + total xs) (a + total xs + need) (c :: ys) 0)
    (hxsize : ∀ c ∈ xs, sizeofBlock ≤ c.size) (hrsize : ∀ d ∈ c :: ys, sizeofBlock ≤ d.size)
    (hpos : sizeofBlock ≤ need) (hneed : need < 2 ^ 32) (htop : a + total xs + need < 2 ^ 64) :
    Chain (setNext (setSize m (a + total xs) need) (a + total xs) (a + total xs + need)) p a
      (xs ++ ⟨need, b.free⟩ :: c :: ys) 0 := by
  have hblock : sizeofBlock = 32 := rfl
  refine chain_append.mpr ⟨?_, ?_, ?_⟩
  · unfold setNext setSize
    exact (hxs.store hxsize (by omega)).store hxsize (by omega)
  · rw [header_setNext htop, header_setSize hneed, hhb]
    rfl
  · unfold setNext setSize
    exact (hrest.store hrsize (by omega)).store hrsize (by omega)

theorem chain_split {size need : Nat} (h : Chain m p a (xs ++ b :: ys) 0)
    (hsize : ∀ c ∈ xs ++ b :: ys, sizeofBlock ≤ c.size) (ha : 0 < a)
    (htop : a + total (xs ++ b :: ys) ≤ 2 ^ 64) (hsmall : total (xs ++ b :: ys) < 2 ^ 32)
    (hneed : sizeT (size + sizeofBlock) = need) (hpos : sizeofBlock ≤ need)
    (hfits : need + minBlockSize + sizeofBlock ≤ b.size) :
    Chain (splitBlock m (a + total xs) size) p a
      (xs ++ ⟨need, b.free⟩ :: ⟨b.size - need, true⟩ :: ys) 0 := by
  have hxsize : ∀ c ∈ xs, sizeofBlock ≤ c.size := fun c hc => hsize c (by simp [hc])
  have hysize : ∀ c ∈ ys, sizeofBlock ≤ c.size := fun c hc => hsize c (by simp [hc])
  rw [total_append, total_cons] at htop hsmall
  obtain ⟨hxs, hhb, hys⟩ := chain_append.mp h
  have hsb : sizeAt m (a + total xs) = b.size := (congrArg Header.size hhb :)
  have hnb : nextAt m (a + total xs) = linkTo ys (a + total xs + b.size) 0 :=
    (congrArg Header.next hhb :)
  obtain ⟨m', hm', hhn, hout⟩ := splitBlock_eq (m := m) (X := a + total xs) hneed hpos (by omega)
    (by omega) (by omega)
  rw [hsb, hnb] at hhn
  rw [hm', hnb]
  have hblock : sizeofBlock = 32 := rfl
  have hminblock : minBlockSize = 64 := rfl
  have hend : a + total xs + need + (b.size - need) = a + total xs + b.size := by omega
  have hxs' : Chain m' p a xs (a + total xs) :=
    hxs.congr hxsize fun y _ hy => hout y (Or.inl (by omega))
  have hhb' : header m' (a + total xs) = header m (a + total xs) :=
    header_congr fun y _ hy => (hout y (Or.inl (by omega))).symm
  have hys' : Chain m' (a + total xs) (a + total xs + b.size) ys 0 :=
    hys.congr hysize fun y hy _ => hout y (Or.inr (by omega))
  have hrsize : ∀ d ∈ (⟨b.size - need, true⟩ : Block) :: ys, sizeofBlock ≤ d.size := by
    intro d hd
    rcases List.mem_cons.mp hd with rfl | hd
    · exact Nat.le_sub_of_add_le (by omega)
    · exact hysize d hd
  rw [← hhb'] at hhb
  by_cases hne : ys = []
  · subst hne
    rw [linkTo_nil, if_neg (by simp)]
    exact chain_shrink hxs' hhb ⟨hhn, trivial⟩ hxsize hrsize hpos (by omega) (by omega)
  · have hlink : linkTo ys (a + total xs + b.size) 0 = a + total xs + b.size := if_neg hne
    rw [hlink, if_pos (by omega)]
    rw [hlink] at hhn
    have hout' : ∀ y, y < a + total xs + b.size → m' y =
        setPrev m' (a + total xs + b.size) (a + total xs + need) y := by
      intro y hy
      unfold setPrev
      exact (store_of_outside (by omega)).symm
    have hhb'' : header (setPrev m' (a + total xs + b.size) (a + total xs + need)) (a + total xs) =
        blockHeader b (linkTo ys (a + total xs + b.size) 0) (linkFrom p a xs) := by
      rw [← hhb]
      exact (header_congr fun y _ hy => hout' y (by omega)).symm
    refine chain_shrink (hxs'.congr hxsize fun y _ hy => hout' y (by omega)) hhb'' ⟨?_, ?_⟩ hxsize
      hrsize hpos (by omega) (by omega)
    · rw [← header_congr fun y _ hy => hout' y (by omega), hhn, hend, hlink]
      rfl
    · rw [hend]
      exact hys'.setPrev hysize hne (by omega)

end Edits

end Orizon
