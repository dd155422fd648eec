import Mathlib.Data.List.Basic
import Mathlib.Data.Nat.ModEq
import Mathlib.Logic.Function.Basic

/-!
# Orizon.Lib.LogRing

A ring of `n` slots that is written without end: every new element goes to the
head, over the oldest one once the ring is full.

What the ring holds is stated against everything ever written (`Logged`): the
element written as number `j` is in slot `j % n` until `n` more have followed.
So the last elements can be read from any point of the ring (`Logged.read`),
whether it has wrapped or not.

A log that is moved up instead, and so keeps its oldest element in slot 0, holds the
same elements in the order of its slots (`newest`).
-/

namespace Orizon

variable {α : Type*} {n head count k start : Nat} {slots : Nat → α} {written : List α}

/-- The ring holds the last elements of `written`, and the next one goes to `head`. -/
structure Logged (n : Nat) (slots : Nat → α) (head count : Nat) (written : List α) : Prop where
  head_eq : head = written.length % n
  count_eq : count = min written.length n
  slot : ∀ j, j < written.length → written.length ≤ j + n → written[j]? = some (slots (j % n))

theorem logged_nil (n : Nat) (slots : Nat → α) : Logged n slots 0 0 [] where
  head_eq := (Nat.zero_mod n).symm
  count_eq := (Nat.zero_min n).symm
  slot := by simp

/-- Two numbers less than `n` apart have different slots. -/
theorem mod_ne_of_close {i j : Nat} (hij : i < j) (hclose : j < i + n) : i % n ≠ j % n := by
  intro h
  have hdvd : n ∣ j - i := (Nat.modEq_iff_dvd' hij.le).mp h
  have hle := Nat.le_of_dvd (by omega) hdvd
  omega

/-- One more element: it takes the head's slot, and no slot that is still in use. -/
theorem Logged.push (h : Logged n slots head count written) (a : α) :
    Logged n (Function.update slots head a) ((head + 1) % n) (if count < n then count + 1 else count)
      (written ++ [a]) where
  head_eq := by rw [h.head_eq, Nat.mod_add_mod, List.length_append, List.length_singleton]
  count_eq := by
    rw [h.count_eq, List.length_append, List.length_singleton]
    split <;> omega
  slot := by
    intro j hj hclose
    rw [List.length_append, List.length_singleton] at hj hclose
    rw [h.head_eq]
    obtain hold | rfl := Nat.lt_succ_iff_lt_or_eq.mp hj
    · have hne : j % n ≠ written.length % n := mod_ne_of_close hold (by omega)
      rw [List.getElem?_append_left hold, h.slot j hold (by omega), Function.update_of_ne hne]
    · rw [List.getElem?_concat_length, Function.update_self]

/-- From the right point of the ring, the last `k` elements are read. -/
theorem Logged.read (h : Logged n slots head count written) (hk : k ≤ count)
    (hstart : start % n = (written.length - k) % n) :
    (List.range k).map (fun i => slots ((start + i) % n)) = written.drop (written.length - k) := by
  have hcount := h.count_eq
  refine List.ext_getElem? fun i => ?_
  rw [List.getElem?_map, List.getElem?_drop]
  by_cases hi : i < k
  · have hslot := h.slot (written.length - k + i) (by omega) (by omega)
    rw [hslot, List.getElem?_range hi, Option.map_some, Nat.add_mod, hstart, ← Nat.add_mod]
  · rw [List.getElem?_eq_none (by simpa using hi), List.getElem?_eq_none (by omega)]
    rfl

/-! ## The newest elements -/

/-- The last `n` elements, or all if there are fewer. -/
def newest (n : Nat) (written : List α) : List α := written.drop (written.length - n)

@[simp] theorem newest_nil (n : Nat) : newest n ([] : List α) = [] := List.drop_nil

@[simp] theorem length_newest (n : Nat) (written : List α) :
    (newest n written).length = min n written.length := by
  simp [newest]
  omega

theorem newest_append_of_lt (h : (newest n written).length < n) (a : α) :
    newest n (written ++ [a]) = newest n written ++ [a] := by
  rw [length_newest] at h
  have hzero : written.length - n = 0 := by omega
  have hnext : (written ++ [a]).length - n = 0 := by
    rw [List.length_append, List.length_singleton]
    omega
  rw [newest, newest, hzero, hnext, List.drop_zero, List.drop_zero]

theorem newest_append_of_full (hpos : 0 < n) (h : (newest n written).length = n) (a : α) :
    newest n (written ++ [a]) = (newest n written).tail ++ [a] := by
  rw [length_newest] at h
  have hnext : (written ++ [a]).length - n = written.length - n + 1 := by
    rw [List.length_append, List.length_singleton]
    omega
  rw [newest, newest, hnext, List.tail_drop, List.drop_append_of_le_length (by omega)]

end Orizon
