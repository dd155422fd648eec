import Mathlib

/-!
# Orizon.Lib.CutInto

Sets that are cut into numbered parts.

`CutInto s n f` says that the first `n` sets of a family are parts of `s` and that each point of
`s` is in just one of them.  A part can be cut off in front (`CutInto.cons`), two families can be
put one behind the other (`CutInto.append`), and an interval is cut at points that go up
(`cutInto_Ico`).
-/

namespace Orizon

variable {α β : Type*} {s a b : Set α} {f g : ℕ → Set α} {m n t u : ℕ}

/-- The first `n` sets are parts of `s`, and each point of `s` is in just one of them. -/
structure CutInto (s : Set α) (n : ℕ) (f : ℕ → Set α) : Prop where
  inside : ∀ t < n, f t ⊆ s
  once : ∀ p ∈ s, ∃! t, t < n ∧ p ∈ f t

theorem CutInto.congr (h : CutInto s n f) (hfg : ∀ t < n, g t = f t) : CutInto s n g where
  inside t ht := by
    rw [hfg t ht]
    exact h.inside t ht
  once p hp := by
    obtain ⟨t, ⟨ht, hmem⟩, honly⟩ := h.once p hp
    refine ⟨t, ⟨ht, by rwa [hfg t ht]⟩, fun u hu => honly u ⟨hu.1, ?_⟩⟩
    rw [← hfg u hu.1]
    exact hu.2

theorem CutInto.disjoint (h : CutInto s n f) (ht : t < n) (hu : u < n) (hne : t ≠ u) : Disjoint (f t) (f u) := by
  rw [Set.disjoint_left]
  intro p hpt hpu
  exact hne ((h.once p (h.inside t ht hpt)).unique ⟨ht, hpt⟩ ⟨hu, hpu⟩)

theorem cutInto_one (h : f 0 = s) : CutInto s 1 f where
  inside t ht := by
    obtain rfl := Nat.lt_one_iff.mp ht
    exact h.subset
  once p hp := ⟨0, ⟨Nat.one_pos, h ▸ hp⟩, fun _ hu => Nat.lt_one_iff.mp hu.1⟩

theorem CutInto.append (ha : CutInto a m f) (hb : CutInto b n fun t => f (m + t)) (hs : a ∪ b = s)
    (hab : Disjoint a b) :
    CutInto s (m + n) f := by
  have hleft : ∀ t < m, f t ⊆ a := ha.inside
  have hright : ∀ t, m ≤ t → t < m + n → f t ⊆ b := by
    intro t hmt ht
    obtain ⟨k, rfl⟩ := Nat.exists_eq_add_of_le hmt
    exact hb.inside k (by omega)
  subst hs
  refine ⟨fun t ht => ?_, fun p hp => ?_⟩
  · by_cases hmt : t < m
    · exact (hleft t hmt).trans Set.subset_union_left
    · exact (hright t (by omega) ht).trans Set.subset_union_right
  · obtain hp | hp := hp
    · obtain ⟨t, ⟨ht, hmem⟩, honly⟩ := ha.once p hp
      refine ⟨t, ⟨by omega, hmem⟩, fun u hu => ?_⟩
      by_cases hmu : u < m
      · exact honly u ⟨hmu, hu.2⟩
      · exact absurd (hright u (by omega) hu.1 hu.2) (Set.disjoint_left.mp hab hp)
    · obtain ⟨t, ⟨ht, hmem⟩, honly⟩ := hb.once p hp
      refine ⟨m + t, ⟨by omega, hmem⟩, fun u hu => ?_⟩
      by_cases hmu : u < m
      · exact absurd hp (Set.disjoint_left.mp hab (hleft u hmu hu.2))
      · obtain ⟨k, rfl⟩ := Nat.exists_eq_add_of_le (Nat.le_of_not_lt hmu)
        rw [honly k ⟨by omega, hu.2⟩]

theorem CutInto.cons (hb : CutInto b n fun t => f (t + 1)) (hs : f 0 ∪ b = s) (hab : Disjoint (f 0) b) :
    CutInto s (n + 1) f := by
  have h := (cutInto_one (f := f) rfl).append (b := b) (n := n) (hb.congr fun t _ => by rw [Nat.add_comm]) hs hab
  rwa [Nat.add_comm] at h

theorem CutInto.prod (h : CutInto s n f) (c : Set β) : CutInto (c ×ˢ s) n fun t => c ×ˢ f t where
  inside t ht := Set.prod_mono_right (h.inside t ht)
  once p hp := by
    obtain ⟨t, ⟨ht, hmem⟩, honly⟩ := h.once p.2 hp.2
    exact ⟨t, ⟨ht, hp.1, hmem⟩, fun u hu => honly u ⟨hu.1, hu.2.2⟩⟩

theorem cutInto_Ico {γ : Type*} [LinearOrder γ] {c : ℕ → γ} (hc : Monotone c) (n : ℕ) :
    CutInto (Set.Ico (c 0) (c (n + 1))) (n + 1) fun t => Set.Ico (c t) (c (t + 1)) := by
  induction n with
  | zero => exact cutInto_one rfl
  | succ n ih =>
      have hunion := Set.Ico_union_Ico_eq_Ico (hc (Nat.zero_le (n + 1))) (hc (Nat.le_succ (n + 1)))
      refine ih.append (n := 1) (cutInto_one rfl) hunion ?_
      rw [Set.disjoint_left]
      exact fun p hp hp' => absurd hp'.1 (not_le_of_gt hp.2)

end Orizon
