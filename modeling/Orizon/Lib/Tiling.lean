import Mathlib.Data.List.Chain
import Mathlib.Algebra.BigOperators.Group.List.Basic
import Mathlib.Tactic.Ring

/-!
# Orizon.Lib.Tiling

A region of addresses tiled by blocks, each free or used.

A tiling is the list of its blocks in address order.  `placed` gives each
block its address, so disjointness of blocks is a fact about sums of sizes.
`Coalesced` says that no two neighbours are both free; the lemmas of the last
section are the edits an allocator makes.
-/

namespace Orizon

/-- A block of a tiling. -/
structure Block where
  size : Nat
  free : Bool
  deriving DecidableEq, Repr

/-- The number of bytes a list of blocks covers. -/
def total (bs : List Block) : Nat := (bs.map Block.size).sum

@[simp] theorem total_nil : total [] = 0 := rfl

@[simp] theorem total_cons (b : Block) (bs : List Block) : total (b :: bs) = b.size + total bs := by
  simp [total]

@[simp] theorem total_append (xs ys : List Block) : total (xs ++ ys) = total xs + total ys := by
  simp [total]

/-- Blocks of at least `k` bytes bound the length of the list. -/
theorem length_mul_le_total {k : Nat} {bs : List Block} (h : ∀ b ∈ bs, k ≤ b.size) :
    bs.length * k ≤ total bs := by
  induction bs with
  | nil => simp
  | cons b bs ih =>
      have hb := h b List.mem_cons_self
      have hbs := ih fun x hx => h x (List.mem_cons_of_mem b hx)
      rw [List.length_cons, Nat.add_mul, total_cons]
      omega

/-! ## Addresses -/

/-- The blocks with their addresses, the first one at `a`. -/
def placed (a : Nat) : List Block → List (Nat × Block)
  | [] => []
  | b :: bs => (a, b) :: placed (a + b.size) bs

@[simp] theorem placed_nil (a : Nat) : placed a [] = [] := rfl

@[simp] theorem placed_cons (a : Nat) (b : Block) (bs : List Block) :
    placed a (b :: bs) = (a, b) :: placed (a + b.size) bs := rfl

@[simp] theorem placed_append (a : Nat) (xs ys : List Block) :
    placed a (xs ++ ys) = placed a xs ++ placed (a + total xs) ys := by
  induction xs generalizing a with
  | nil => simp
  | cons x xs ih => simp [ih, Nat.add_assoc]

theorem mem_placed_iff {a x : Nat} {b : Block} {bs : List Block} :
    (x, b) ∈ placed a bs ↔ ∃ xs ys, bs = xs ++ b :: ys ∧ x = a + total xs := by
  constructor
  · intro h
    induction bs generalizing a with
    | nil => simp at h
    | cons c bs ih =>
        rcases List.mem_cons.mp h with heq | htail
        · obtain ⟨rfl, rfl⟩ := Prod.mk.injEq .. ▸ heq
          exact ⟨[], bs, rfl, rfl⟩
        · obtain ⟨xs, ys, rfl, rfl⟩ := ih htail
          exact ⟨c :: xs, ys, rfl, by rw [total_cons, Nat.add_assoc]⟩
  · rintro ⟨xs, ys, rfl, rfl⟩
    simp

theorem placed_le {a x : Nat} {b : Block} {bs : List Block} (h : (x, b) ∈ placed a bs) :
    a ≤ x ∧ x + b.size ≤ a + total bs := by
  obtain ⟨xs, ys, rfl, rfl⟩ := mem_placed_iff.mp h
  rw [total_append, total_cons]
  omega

theorem placed_disjoint {a x y : Nat} {b c : Block} {bs : List Block}
    (hb : (x, b) ∈ placed a bs) (hc : (y, c) ∈ placed a bs) :
    (x = y ∧ b = c) ∨ x + b.size ≤ y ∨ y + c.size ≤ x := by
  induction bs generalizing a with
  | nil => simp at hb
  | cons d bs ih =>
      rcases List.mem_cons.mp hb with hb | hb <;> rcases List.mem_cons.mp hc with hc | hc
      · obtain ⟨rfl, rfl⟩ := Prod.mk.injEq .. ▸ hb
        obtain ⟨rfl, rfl⟩ := Prod.mk.injEq .. ▸ hc
        exact Or.inl ⟨rfl, rfl⟩
      · obtain ⟨rfl, rfl⟩ := Prod.mk.injEq .. ▸ hb
        exact Or.inr (Or.inl (placed_le hc).1)
      · obtain ⟨rfl, rfl⟩ := Prod.mk.injEq .. ▸ hc
        exact Or.inr (Or.inr (placed_le hb).1)
      · exact ih hb hc

theorem placed_unique {a x : Nat} {b c : Block} {bs : List Block} (hb : (x, b) ∈ placed a bs)
    (hc : (x, c) ∈ placed a bs) (hbpos : 0 < b.size) (hcpos : 0 < c.size) : b = c := by
  rcases placed_disjoint hb hc with ⟨-, heq⟩ | hlt | hlt
  · exact heq
  · omega
  · omega

/-! ## Coalescing -/

/-- Two neighbours that may stand next to each other. -/
def Apart (a b : Block) : Prop := ¬ (a.free = true ∧ b.free = true)

/-- No two neighbouring blocks are both free. -/
def Coalesced (bs : List Block) : Prop := bs.IsChain Apart

/-- No list edge next to a free block. -/
def EdgeUsed (b : Option Block) : Prop := ∀ x ∈ b, x.free = false

section Edits

variable {xs ys : List Block} {b c : Block} {s t : Nat}

theorem coalesced_zip : Coalesced (xs ++ b :: ys) ↔
    Coalesced xs ∧ Coalesced ys ∧ (∀ x ∈ xs.getLast?, Apart x b) ∧ ∀ y ∈ ys.head?, Apart b y := by
  unfold Coalesced
  rw [List.isChain_append, List.isChain_cons]
  simp only [List.head?_cons, Option.mem_def, Option.some.injEq, forall_eq']
  grind

theorem apart_used_left (h : b.free = false) : Apart b c := by simp [Apart, h]

theorem apart_used_right (h : c.free = false) : Apart b c := by simp [Apart, h]

theorem Coalesced.use (h : Coalesced (xs ++ b :: ys)) : Coalesced (xs ++ ⟨s, false⟩ :: ys) := by
  rw [coalesced_zip] at *
  exact ⟨h.1, h.2.1, fun x _ => apart_used_right rfl, fun y _ => apart_used_left rfl⟩

theorem Coalesced.split (h : Coalesced (xs ++ b :: ys)) (hb : b.free = true) :
    Coalesced (xs ++ ⟨s, false⟩ :: ⟨t, true⟩ :: ys) := by
  rw [coalesced_zip] at *
  obtain ⟨hxs, hys, -, hright⟩ := h
  refine ⟨hxs, ?_, fun x _ => apart_used_right rfl, fun y _ => apart_used_left rfl⟩
  refine List.isChain_cons.mpr ⟨fun y hy => ?_, hys⟩
  have hy := hright y hy
  unfold Apart at *
  simp_all

theorem coalesced_free (hxs : Coalesced xs) (hys : Coalesced ys) (hl : EdgeUsed xs.getLast?)
    (hr : EdgeUsed ys.head?) : Coalesced (xs ++ b :: ys) :=
  coalesced_zip.mpr ⟨hxs, hys, fun x hx => apart_used_left (hl x hx),
    fun y hy => apart_used_right (hr y hy)⟩

theorem Coalesced.edge_after (h : Coalesced (b :: ys)) (hb : b.free = true) :
    EdgeUsed ys.head? := by
  intro y hy
  have hapart := (List.isChain_cons.mp h).1 y hy
  unfold Apart at hapart
  simp_all

theorem Coalesced.edge_before (h : Coalesced (xs ++ [b])) (hb : b.free = true) :
    EdgeUsed xs.getLast? := by
  intro x hx
  have hapart := (coalesced_zip.mp h).2.2.1 x hx
  unfold Apart at hapart
  simp_all

end Edits

end Orizon
