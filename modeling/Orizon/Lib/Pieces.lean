import Mathlib.Data.List.Basic

/-!
# Orizon.Lib.Pieces

Two texts that are put together from the same pieces, where some pieces come out differently.

A piece that differs may be shorter in one text than in the other, and a later piece could make
up for it.  It cannot if every difference is of the kind `Behind`: the first text is then ahead of
the second by a stretch that no later piece takes up (`Ahead.not_begins`), so that one text is a
beginning of the other only if no piece differs (`eq_of_flatMap_begins`).
-/

namespace Orizon

variable {α β : Type*} {x : β} {a b d t u : List β} {l : List α} {f g : α → List β}

/-- A difference: where `b` is the longer one, it is so by a leading `x`, which `a` does not have;
and `a` does not end with `x`. -/
structure Behind (x : β) (a b : List β) : Prop where
  ne : a ≠ b
  ne_nil : a ≠ []
  last : a.getLast? ≠ some x
  longer : a.length < b.length → b.length = a.length + 1 ∧ b.head? = some x ∧ a.head? ≠ some x

theorem Behind.map {γ : Type*} {e : β → γ} (he : Function.Injective e) (h : Behind x a b) :
    Behind (e x) (a.map e) (b.map e) where
  ne heq := h.ne (he.list_map heq)
  ne_nil heq := h.ne_nil (List.map_eq_nil_iff.mp heq)
  last := by
    have hlast := h.last
    cases ha : a.getLast? <;> simp_all [he.eq_iff]
  longer hlen := by
    obtain ⟨hlength, hhead, hne⟩ := h.longer (by simpa using hlen)
    refine ⟨by simpa using hlength, by simp [hhead], ?_⟩
    cases ha : a.head? <;> simp_all [he.eq_iff]

/-- A stretch by which one text is ahead. -/
structure Ahead (x : β) (d : List β) : Prop where
  ne_nil : d ≠ []
  ne_single : d ≠ [x]

theorem ahead_of_last (hd : d ≠ []) (hlast : (a ++ d).getLast? ≠ some x) : Ahead x d where
  ne_nil := hd
  ne_single hsingle := by simp [hsingle] at hlast

theorem Ahead.step (hd : Ahead x d) (hpiece : a = b ∨ Behind x a b) (h : d ++ (a ++ t) <+: b ++ u) :
    ∃ d', Ahead x d' ∧ d' ++ t <+: u := by
  have hpos := List.length_pos_iff.mpr hd.ne_nil
  rw [← List.append_assoc] at h
  obtain hshort | hlong := Nat.lt_or_ge b.length (d ++ a).length
  · obtain ⟨d', hd'⟩ : b <+: d ++ a :=
      List.prefix_of_prefix_length_le (List.prefix_append b u) ((List.prefix_append _ t).trans h) (Nat.le_of_lt hshort)
    have hnil : d' ≠ [] := by
      rintro rfl
      rw [← hd', List.append_nil] at hshort
      omega
    rw [← hd', List.append_assoc, List.prefix_append_right_inj] at h
    refine ⟨d', ?_, h⟩
    obtain rfl | hbehind := hpiece
    · -- the stretch moves past the piece
      refine ⟨hnil, fun hsingle => hd.ne_single ?_⟩
      have hperm : (a ++ d).Perm (a ++ [x]) := by
        rw [← hsingle, hd']
        exact List.perm_append_comm
      exact List.perm_singleton.mp ((List.perm_append_left_iff a).mp hperm)
    · refine ahead_of_last (a := b) hnil ?_
      rw [hd', List.getLast?_append_of_ne_nil d hbehind.ne_nil]
      exact hbehind.last
  · -- the piece of the second text takes up the whole stretch
    rw [List.length_append] at hlong
    obtain rfl | hbehind := hpiece
    · omega
    · obtain ⟨hlen, hhead, -⟩ := hbehind.longer (by omega)
      obtain ⟨y, rfl⟩ := List.length_eq_one_iff.mp (show d.length = 1 by omega)
      obtain ⟨z, rest, rfl⟩ := List.exists_cons_of_length_pos (show 0 < b.length by omega)
      rw [List.append_assoc, List.singleton_append, List.cons_append, List.cons_prefix_cons] at h
      have hyx : y = x := h.1.trans (Option.some.inj hhead)
      exact absurd (by rw [hyx]) hd.ne_single

theorem Ahead.not_begins (hd : Ahead x d) (hpieces : ∀ p ∈ l, f p = g p ∨ Behind x (f p) (g p)) :
    ¬ d ++ l.flatMap f <+: l.flatMap g := by
  induction l generalizing d with
  | nil =>
      intro h
      simp [hd.ne_nil] at h
  | cons p l ih =>
      intro h
      rw [List.flatMap_cons, List.flatMap_cons] at h
      obtain ⟨d', hd', hrest⟩ := hd.step (hpieces p List.mem_cons_self) h
      exact ih hd' (fun q hq => hpieces q (List.mem_cons_of_mem _ hq)) hrest

theorem eq_of_flatMap_begins (hpieces : ∀ p ∈ l, f p = g p ∨ Behind x (f p) (g p))
    (h : l.flatMap f <+: l.flatMap g) : ∀ p ∈ l, f p = g p := by
  induction l with
  | nil => simp
  | cons p l ih =>
      have hrest := fun q hq => hpieces q (List.mem_cons_of_mem p hq)
      rw [List.flatMap_cons, List.flatMap_cons] at h
      obtain heq | hbehind := hpieces p List.mem_cons_self
      · rw [heq, List.prefix_append_right_inj] at h
        exact List.forall_mem_cons.mpr ⟨heq, ih hrest h⟩
      · exfalso
        have hleft : f p <+: g p ++ l.flatMap g := (List.prefix_append _ _).trans h
        obtain hshort | hlong := Nat.lt_or_ge (f p).length (g p).length
        · -- the two pieces begin differently
          obtain ⟨-, hhead, hne⟩ := hbehind.longer hshort
          obtain ⟨r, hr⟩ := List.prefix_of_prefix_length_le hleft (List.prefix_append _ _) (Nat.le_of_lt hshort)
          rw [← hr, List.head?_append_of_ne_nil _ hbehind.ne_nil] at hhead
          exact hne hhead
        · obtain ⟨d, hd⟩ := List.prefix_of_prefix_length_le (List.prefix_append _ _) hleft hlong
          have hahead : Ahead x d := by
            refine ahead_of_last (a := g p) ?_ (hd ▸ hbehind.last)
            rintro rfl
            exact hbehind.ne (by simpa using hd.symm)
          rw [← hd, List.append_assoc, List.prefix_append_right_inj] at h
          exact hahead.not_begins hrest h

end Orizon
