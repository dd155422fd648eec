import Mathlib.Algebra.GroupWithZero.Nat
import Mathlib.Data.List.Basic
import Mathlib.Data.List.Forall2

/-!
# Orizon.Lib.Labels

A text as the parts between its separators, by `List.splitOn`: unlike lines, one part
more than there are separators, and the text is given back by joining them.
-/

namespace Orizon

variable {α β : Type*} [DecidableEq α] [DecidableEq β] {sep : α} {l first : List α} {rest : List (List α)}

theorem splitOn_injective (sep : α) : Function.Injective (List.splitOn sep) := by
  intro a b h
  have ha : [sep].intercalate (a.splitOn sep) = a := List.intercalate_splitOn sep
  rw [← ha, h, List.intercalate_splitOn]

theorem not_mem_of_mem_splitOn (h : first ∈ l.splitOn sep) : sep ∉ first := by
  induction l generalizing first with
  | nil => simp_all
  | cons c l ih =>
      rw [List.splitOn_cons_eq_if_modifyHead] at h
      split at h
      · grind
      · next hc =>
          cases hl : l.splitOn sep with
          | nil => simp [hl] at h
          | cons head tail =>
              rw [hl, List.modifyHead_cons, List.mem_cons] at h
              have hhead : head ∈ l.splitOn sep := by simp [hl]
              have htail : ∀ x ∈ tail, x ∈ l.splitOn sep := by simp_all
              grind

/-- The first part and what follows it: nothing, or the separator and the other parts. -/
theorem splitOn_eq_cons_iff :
    l.splitOn sep = first :: rest ↔
      sep ∉ first ∧ (rest = [] ∧ l = first ∨ ∃ tail, l = first ++ sep :: tail ∧ rest = tail.splitOn sep) := by
  constructor
  · intro h
    have hfirst : sep ∉ first := not_mem_of_mem_splitOn (h ▸ List.mem_cons_self)
    have hl : [sep].intercalate (first :: rest) = l := h ▸ List.intercalate_splitOn sep
    refine ⟨hfirst, ?_⟩
    cases rest with
    | nil => exact .inl ⟨rfl, hl.symm.trans (by simp [List.intercalate])⟩
    | cons second rest =>
        have hparts : ∀ x ∈ second :: rest, sep ∉ x := fun x hx =>
          not_mem_of_mem_splitOn (h ▸ List.mem_cons_of_mem _ hx)
        refine .inr ⟨[sep].intercalate (second :: rest), ?_, (List.splitOn_intercalate sep hparts (by simp)).symm⟩
        rw [← hl]
        simp [List.intercalate]
  · rintro ⟨hfirst, ⟨rfl, rfl⟩ | ⟨tail, rfl, rfl⟩⟩
    · exact List.splitOn_eq_singleton hfirst
    · exact List.splitOn_append_cons_self_of_not_mem hfirst tail

theorem splitOn_map {sep' : β} {f : α → β} (hf : ∀ x, f x = sep' ↔ x = sep) (l : List α) :
    (l.map f).splitOn sep' = (l.splitOn sep).map (·.map f) := by
  induction l with
  | nil => simp
  | cons c l ih =>
      rw [List.map_cons, List.splitOn_cons_eq_if_modifyHead, List.splitOn_cons_eq_if_modifyHead, ih]
      by_cases hc : c = sep
      · simp [hc, (hf sep).mpr rfl]
      · have hne : ¬ f c = sep' := fun h => hc ((hf c).mp h)
        cases l.splitOn sep <;> simp [hc, hne]

/-- Two texts have, part by part, the same image exactly when the whole texts have. -/
theorem forall₂_splitOn_iff {sep' : β} {f : α → β} (hf : ∀ x, f x = sep' ↔ x = sep) (l l' : List α) :
    List.Forall₂ (fun x y => x.map f = y.map f) (l.splitOn sep) (l'.splitOn sep) ↔ l.map f = l'.map f := by
  have hmap := List.forall₂_map_left_iff (R := fun x y => x = y.map f) (f := fun x : List α => x.map f)
    (l := l.splitOn sep) (u := l'.splitOn sep)
  rw [← hmap, ← List.forall₂_map_right_iff, List.forall₂_eq_eq_eq, ← splitOn_map hf, ← splitOn_map hf]
  exact (splitOn_injective sep').eq_iff

/-- The parts with one separator each are one separator more than the text. -/
theorem sum_length_splitOn (sep : α) (l : List α) :
    ((l.splitOn sep).map fun part => part.length + 1).sum = l.length + 1 := by
  induction l with
  | nil => simp
  | cons c l ih =>
      rw [List.splitOn_cons_eq_if_modifyHead]
      by_cases hc : c = sep
      · simp [hc, ih]
        omega
      · cases hl : l.splitOn sep with
        | nil => exact absurd hl (List.splitOn_ne_nil _ _)
        | cons head tail =>
            rw [hl, List.map_cons, List.sum_cons] at ih
            rw [if_neg (by simpa using hc), List.modifyHead_cons, List.map_cons, List.sum_cons,
              List.length_cons, List.length_cons]
            omega

end Orizon
