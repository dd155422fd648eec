import Mathlib.Data.List.Nodup

/-!
# Orizon.Lib.Recent

Most recently used lists: every use moves an entry to the front, so the list is the log of
the uses without repetitions.
-/

namespace Orizon

section Recent

variable {α : Type*} [DecidableEq α] {x y : α} {l log : List α}

/-- `x` goes to the front. -/
def toFront (x : α) (l : List α) : List α := x :: l.filter (· ≠ x)

/-- The entries of a log, the latest first and each of them once. -/
def recent : List α → List α
  | [] => []
  | x :: log => toFront x (recent log)

@[simp] theorem mem_toFront : y ∈ toFront x l ↔ y = x ∨ y ∈ l := by
  by_cases h : y = x <;> simp [toFront, h]

theorem nodup_toFront (h : l.Nodup) : (toFront x l).Nodup :=
  List.nodup_cons.mpr ⟨by simp, h.filter _⟩

@[simp] theorem mem_recent : y ∈ recent log ↔ y ∈ log := by
  induction log with
  | nil => simp [recent]
  | cons x log ih => simp [recent, ih]

theorem nodup_recent (log : List α) : (recent log).Nodup := by
  induction log with
  | nil => exact List.nodup_nil
  | cons x log ih => exact nodup_toFront ih

@[simp] theorem head?_recent (log : List α) : (recent log).head? = log.head? := by
  cases log <;> simp [recent, toFront]

theorem recent_filter (p : α → Bool) (log : List α) : recent (log.filter p) = (recent log).filter p := by
  induction log with
  | nil => rfl
  | cons x log ih =>
      by_cases hp : p x
      · have hcomm : ((recent log).filter p).filter (· ≠ x) = ((recent log).filter (· ≠ x)).filter p :=
          List.filter_comm ..
        rw [List.filter_cons_of_pos hp, recent, recent, toFront, toFront, ih, hcomm,
          List.filter_cons_of_pos hp]
      · have hgone : ((recent log).filter (· ≠ x)).filter p = (recent log).filter p := by
          rw [List.filter_filter]
          refine List.filter_congr fun y _ => ?_
          by_cases hy : y = x
          · simp [hy, hp]
          · simp [hy]
        rw [List.filter_cons_of_neg hp, recent, toFront, ih, List.filter_cons_of_neg hp, hgone]

theorem recent_sorted (log : List α) : (recent log).Pairwise fun x y => log.idxOf x < log.idxOf y := by
  induction log with
  | nil => exact List.Pairwise.nil
  | cons x log ih =>
      refine List.pairwise_cons.mpr ⟨fun y hy => ?_, ?_⟩
      · have hne : y ≠ x := by simpa using (List.mem_filter.mp hy).2
        simp [List.idxOf_cons_ne log hne.symm]
      · refine (ih.filter _).imp_of_mem fun {a b} ha hb hlt => ?_
        have hane : a ≠ x := by simpa using (List.mem_filter.mp ha).2
        have hbne : b ≠ x := by simpa using (List.mem_filter.mp hb).2
        simpa [List.idxOf_cons_ne log hane.symm, List.idxOf_cons_ne log hbne.symm] using hlt

end Recent

end Orizon
