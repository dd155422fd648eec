import Mathlib.Data.Set.Card
import Mathlib.Logic.Relation

/-!
# Orizon.Lib.Reindex

Compacting a table: some entries go, the others get new indices.

`Reindex n m gone σ` says that `σ` renumbers the entries of a table of `n` that
are not `gone` onto a table of `m`, and that an entry whose index is still
below `m` keeps it.  Filling the hole of a removed entry with the last one is
such a step, and steps compose.  When every entry points to another and the
pointers are renumbered with the entries, the entries below a kept one are the
same before and after (`Reindex.transGen_iff`).
-/

namespace Orizon

/-- `σ` maps the kept indices below `n` one to one onto the indices below `m`,
and moves none that is already below `m`. -/
structure Reindex (n m : Nat) (gone : Nat → Prop) (σ : Nat → Nat) : Prop where
  maps : ∀ i, i < n → ¬ gone i → σ i < m
  injective : ∀ i j, i < n → j < n → ¬ gone i → ¬ gone j → σ i = σ j → i = j
  onto : ∀ j, j < m → ∃ i, i < n ∧ ¬ gone i ∧ σ i = j
  stable : ∀ i, i < m → ¬ gone i → σ i = i
  le : m ≤ n

namespace Reindex

variable {n m k : Nat} {gone gone' : Nat → Prop} {σ τ : Nat → Nat}

theorem refl (n : Nat) : Reindex n n (fun _ => False) id where
  maps _ hi _ := hi
  injective _ _ _ _ _ _ h := h
  onto j hj := ⟨j, hj, not_false, rfl⟩
  stable _ _ _ := rfl
  le := le_rfl

theorem comp (h : Reindex n m gone σ) (h' : Reindex m k gone' τ) :
    Reindex n k (fun i => gone i ∨ gone' (σ i)) (τ ∘ σ) where
  maps i hi hkept := h'.maps _ (h.maps i hi (not_or.mp hkept).1) (not_or.mp hkept).2
  injective i j hi hj hikept hjkept heq := by
    obtain ⟨hikept, hikept'⟩ := not_or.mp hikept
    obtain ⟨hjkept, hjkept'⟩ := not_or.mp hjkept
    exact h.injective i j hi hj hikept hjkept
      (h'.injective _ _ (h.maps i hi hikept) (h.maps j hj hjkept) hikept' hjkept' heq)
  onto l hl := by
    obtain ⟨j, hj, hjkept, rfl⟩ := h'.onto l hl
    obtain ⟨i, hi, hikept, rfl⟩ := h.onto j hj
    exact ⟨i, hi, not_or.mpr ⟨hikept, hjkept⟩, rfl⟩
  stable i hi hkept := by
    obtain ⟨hkept, hkept'⟩ := not_or.mp hkept
    have hfix := h.stable i (lt_of_lt_of_le hi h'.le) hkept
    rw [Function.comp_apply, hfix]
    rw [hfix] at hkept'
    exact h'.stable i hi hkept'
  le := le_trans h'.le h.le

theorem congr (h : Reindex n m gone σ) (hiff : ∀ i, i < n → (gone' i ↔ gone i)) :
    Reindex n m gone' σ where
  maps i hi hkept := h.maps i hi (mt (hiff i hi).mpr hkept)
  injective i j hi hj hikept hjkept :=
    h.injective i j hi hj (mt (hiff i hi).mpr hikept) (mt (hiff j hj).mpr hjkept)
  onto j hj := by
    obtain ⟨i, hi, hkept, heq⟩ := h.onto j hj
    exact ⟨i, hi, mt (hiff i hi).mp hkept, heq⟩
  stable i hi hkept := h.stable i hi (mt (hiff i (lt_of_lt_of_le hi h.le)).mpr hkept)
  le := h.le

theorem swapRemove {idx : Nat} (hidx : idx < n) :
    Reindex n (n - 1) (fun i => i = idx) (fun i => if i = n - 1 then idx else i) where
  maps i hi hkept := by
    split <;> omega
  injective i j hi hj hikept hjkept heq := by
    split at heq <;> split at heq <;> omega
  onto j hj := by
    by_cases hhole : j = idx
    · exact ⟨n - 1, by omega, by omega, by rw [if_pos rfl, hhole]⟩
    · exact ⟨j, by omega, hhole, if_neg (by omega)⟩
  stable i hi _ := if_neg (by omega)
  le := Nat.sub_le n 1

/-! ## Counting -/

section Count

/-- How many indices below `n` satisfy `p`. -/
noncomputable def count (n : Nat) (p : Nat → Prop) : Nat := Set.ncard {i | i < n ∧ p i}

variable {p q : Nat → Prop}

theorem finite_below (n : Nat) (p : Nat → Prop) : {i | i < n ∧ p i}.Finite :=
  (Set.finite_lt_nat n).subset fun _ hi => hi.1

theorem count_congr (h : ∀ i, i < n → (p i ↔ q i)) : count n p = count n q := by
  unfold count
  congr 1
  ext i
  exact and_congr_right (h i)

theorem count_or (hdisj : ∀ i, i < n → p i → ¬ q i) :
    count n (fun i => p i ∨ q i) = count n p + count n q := by
  unfold count
  rw [← Set.ncard_union_eq _ (finite_below n p) (finite_below n q)]
  · congr 1
    ext i
    exact and_or_left
  · refine Set.disjoint_left.mpr fun i hi hi' => ?_
    exact hdisj i hi.1 hi.2 hi'.2

theorem count_true (n : Nat) : count n (fun _ => True) = n := by
  unfold count
  have hset : {i | i < n ∧ True} = (Finset.range n : Set Nat) := by
    ext i
    simp
  rw [hset, Set.ncard_coe_finset, Finset.card_range]

theorem count_lt_of_imp (h : ∀ i, i < n → p i → q i) {a : Nat} (ha : a < n) (hp : ¬ p a)
    (hq : q a) : count n p < count n q := by
  unfold count
  refine Set.ncard_lt_ncard ⟨fun i hi => ⟨hi.1, h i hi.1 hi.2⟩, fun hsub => ?_⟩ (finite_below n q)
  exact hp (hsub ⟨ha, hq⟩).2

theorem count_eq_zero (h : ∀ i, i < n → ¬ p i) : count n p = 0 := by
  unfold count
  rw [Set.ncard_eq_zero (finite_below n p)]
  exact Set.eq_empty_iff_forall_notMem.mpr fun i hi => h i hi.1 hi.2

theorem count_eq (h : Reindex n m gone σ) (hkept : ∀ i, i < n → p i → ¬ gone i)
    (hiff : ∀ i, i < n → ¬ gone i → (p i ↔ q (σ i))) : count n p = count m q := by
  unfold count
  refine Set.ncard_congr (fun i _ => σ i) (fun i hi => ?_) (fun i j hi hj => ?_) (fun j hj => ?_)
  · have hk := hkept i hi.1 hi.2
    exact ⟨h.maps i hi.1 hk, (hiff i hi.1 hk).mp hi.2⟩
  · exact h.injective i j hi.1 hj.1 (hkept i hi.1 hi.2) (hkept j hj.1 hj.2)
  · obtain ⟨i, hi, hk, rfl⟩ := h.onto j hj.1
    exact ⟨i, ⟨hi, (hiff i hi hk).mpr hj.2⟩, rfl⟩

theorem count_gone (h : Reindex n m gone σ) : m + count n gone = n := by
  have hkept : count n (fun i => ¬ gone i) = m := by
    rw [h.count_eq (q := fun _ => True) (fun _ _ hk => hk) (fun i _ hk => iff_of_true hk trivial),
      count_true]
  have hall : count n (fun i => ¬ gone i ∨ gone i) = n := by
    rw [count_congr (q := fun _ => True) fun i _ => iff_of_true (Classical.em (gone i)).symm trivial,
      count_true]
  rw [count_or fun i _ hk => hk, hkept] at hall
  exact hall

end Count

/-! ## Pointers -/

section Pointers

variable {next next' : Nat → Option Nat}

/-- The entries that reach a kept entry by following pointers are the same
before and after, when what points to a gone entry is gone too. -/
theorem transGen_iff (h : Reindex n m gone σ)
    (hnext : ∀ i, i < n → ¬ gone i → next' (σ i) = (next i).map σ)
    (hlt : ∀ i j, i < n → next i = some j → j < n)
    (hgone : ∀ i j, i < n → next i = some j → gone j → gone i) {i j : Nat}
    (hi : i < n) (hik : ¬ gone i) (hj : j < n) (hjk : ¬ gone j) :
    Relation.TransGen (fun a b => next' a = some b) (σ i) (σ j) ↔
      Relation.TransGen (fun a b => next a = some b) i j := by
  have hstep : ∀ {a c}, a < n → ¬ gone a → next' (σ a) = some c →
      ∃ b, next a = some b ∧ b < n ∧ ¬ gone b ∧ σ b = c := by
    intro a c ha hk hc
    rw [hnext a ha hk] at hc
    obtain ⟨b, hb, rfl⟩ := Option.map_eq_some_iff.mp hc
    exact ⟨b, hb, hlt a b ha hb, fun hg => hk (hgone a b ha hb hg), rfl⟩
  constructor
  · intro hpath
    generalize hs : σ i = s at hpath
    induction hpath using Relation.TransGen.head_induction_on generalizing i with
    | single hc =>
        subst hs
        obtain ⟨b, hb, hblt, hbk, heq⟩ := hstep hi hik hc
        obtain rfl := h.injective b j hblt hj hbk hjk heq
        exact Relation.TransGen.single hb
    | head hc _ ih =>
        subst hs
        obtain ⟨b, hb, hblt, hbk, heq⟩ := hstep hi hik hc
        exact Relation.TransGen.head hb (ih hblt hbk heq)
  · intro hpath
    induction hpath using Relation.TransGen.head_induction_on with
    | single hc =>
        refine Relation.TransGen.single ?_
        rw [hnext _ hi hik, hc]
        rfl
    | head hc _ ih =>
        refine Relation.TransGen.head ?_ (ih (hlt _ _ hi hc) fun hg => hik (hgone _ _ hi hc hg))
        rw [hnext _ hi hik, hc]
        rfl

end Pointers

end Reindex

end Orizon
