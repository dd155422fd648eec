import Mathlib.Data.List.Basic

/-!
# Orizon.Lib.Diff

Comparing two buffers by the differences of their bytes, or-ed together: the
comparison that does not stop at the first difference.
-/

namespace Orizon

/-- The differences of the two buffers, or-ed together. -/
def bytesDiff (a b : List UInt8) : UInt8 := (List.zipWith (· ^^^ ·) a b).foldl (· ||| ·) 0

theorem foldl_or_eq_zero (xs : List UInt8) (acc : UInt8) :
    xs.foldl (· ||| ·) acc = 0 ↔ acc = 0 ∧ ∀ x ∈ xs, x = 0 := by
  induction xs generalizing acc with
  | nil => simp
  | cons x xs ih =>
      rw [List.foldl_cons, ih, UInt8.or_eq_zero_iff]
      simp [and_assoc]

theorem bytesDiff_eq_zero_iff {a b : List UInt8} (hlen : a.length = b.length) :
    bytesDiff a b = 0 ↔ a = b := by
  rw [bytesDiff, foldl_or_eq_zero]
  simp only [true_and]
  induction a generalizing b with
  | nil => simp_all [eq_comm]
  | cons x a ih =>
      cases b with
      | nil => simp at hlen
      | cons y b =>
          have hlen' : a.length = b.length := by simpa using hlen
          simp [ih hlen']

end Orizon
