import Mathlib.Data.List.Basic
import Mathlib.Data.Nat.ModEq
import Mathlib.Logic.Function.Basic

/-!
# Orizon.Lib.Ring

A ring of `n` slots between one writer and one reader, who know each other by an index
only: the slots from `read` up to `closed` hold what was written and not yet read.

The ring is the queue of these slots (`contents`): writing appends to it as long as a slot stays
free, and reading takes its head.  Equal indices mean an empty ring, so at most `n - 1` slots
can be in use.
-/

namespace Orizon

/-- A ring of `n` slots. -/
structure Ring (α : Type*) (n : Nat) where
  slots : Nat → α
  read : Nat
  closed : Nat
  read_lt : read < n
  closed_lt : closed < n

namespace Ring

variable {α : Type*} {n : Nat}

/-- The number of slots in use. -/
def count (r : Ring α n) : Nat := (r.closed + (n - r.read)) % n

/-- What was written and not yet read, the oldest first. -/
def contents (r : Ring α n) : List α := (List.range r.count).map fun i => r.slots ((r.read + i) % n)

/-- The writer fills the next slot. -/
def post (r : Ring α n) (a : α) : Ring α n where
  slots := Function.update r.slots r.closed a
  read := r.read
  closed := (r.closed + 1) % n
  read_lt := r.read_lt
  closed_lt := Nat.mod_lt _ (Nat.zero_lt_of_lt r.closed_lt)

/-- The slot the reader is at, if it is in use. -/
def next? (r : Ring α n) : Option α := if r.read = r.closed then none else some (r.slots r.read)

/-- The reader goes on to the next slot. -/
def skip (r : Ring α n) : Ring α n where
  slots := r.slots
  read := (r.read + 1) % n
  closed := r.closed
  read_lt := Nat.mod_lt _ (Nat.zero_lt_of_lt r.read_lt)
  closed_lt := r.closed_lt

/-- The reader starts over at the first slot. -/
def rewind (r : Ring α n) : Ring α n where
  slots := r.slots
  read := 0
  closed := r.closed
  read_lt := Nat.zero_lt_of_lt r.read_lt
  closed_lt := r.closed_lt

/-- The writer fills slot after slot. -/
def postAll (r : Ring α n) (as : List α) : Ring α n := as.foldl post r

@[simp] theorem length_contents (r : Ring α n) : r.contents.length = r.count := by simp [contents]

theorem count_lt (r : Ring α n) : r.count < n := Nat.mod_lt _ (Nat.zero_lt_of_lt r.read_lt)

/-- `count` without the remainder. -/
theorem count_eq (r : Ring α n) :
    r.count = if r.read ≤ r.closed then r.closed - r.read else n - r.read + r.closed := by
  have hread := r.read_lt
  have hclosed := r.closed_lt
  rw [count]
  split
  · rw [show r.closed + (n - r.read) = r.closed - r.read + n by omega, Nat.add_mod_right,
      Nat.mod_eq_of_lt (by omega)]
  · rw [Nat.mod_eq_of_lt (by omega)]
    omega

theorem succ_mod {i : Nat} (h : i < n) : (i + 1) % n = if i + 1 = n then 0 else i + 1 := by
  split
  · rename_i heq
    rw [heq, Nat.mod_self]
  · exact Nat.mod_eq_of_lt (by omega)

theorem count_post {r : Ring α n} (a : α) (h : r.count + 1 < n) : (r.post a).count = r.count + 1 := by
  have hread := r.read_lt
  have hclosed := r.closed_lt
  rw [count_eq] at h ⊢
  simp only [post, count_eq, succ_mod hclosed]
  grind

theorem count_skip {r : Ring α n} (h : 0 < r.count) : r.skip.count = r.count - 1 := by
  have hread := r.read_lt
  have hclosed := r.closed_lt
  rw [count_eq] at h ⊢
  simp only [skip, count_eq, succ_mod hread]
  grind

theorem contents_post {r : Ring α n} (a : α) (h : r.count + 1 < n) :
    (r.post a).contents = r.contents ++ [a] := by
  have hread := r.read_lt
  have hclosed := r.closed_lt
  have hnext : (r.read + r.count) % n = r.closed := by
    rw [count_eq]
    split
    · rw [Nat.add_sub_cancel' ‹_›, Nat.mod_eq_of_lt hclosed]
    · rw [show r.read + (n - r.read + r.closed) = r.closed + n by omega, Nat.add_mod_right,
        Nat.mod_eq_of_lt hclosed]
  rw [contents, contents, count_post a h, List.range_succ, List.map_append, List.map_singleton]
  have hold : ∀ i ∈ List.range r.count, (r.post a).slots (((r.post a).read + i) % n) =
      r.slots ((r.read + i) % n) := by
    intro i hi
    rw [List.mem_range] at hi
    have hne : (r.read + i) % n ≠ r.closed := by
      rw [← hnext]
      intro heq
      have hmod : i ≡ r.count [MOD n] := Nat.ModEq.add_left_cancel' r.read heq
      rw [Nat.ModEq, Nat.mod_eq_of_lt (hi.trans r.count_lt), Nat.mod_eq_of_lt r.count_lt] at hmod
      omega
    exact Function.update_of_ne hne _ _
  rw [List.map_congr_left hold]
  have hlast : (r.post a).slots (((r.post a).read + r.count) % n) = a := by
    rw [show ((r.post a).read + r.count) % n = r.closed from hnext]
    exact Function.update_self _ _ _
  rw [hlast]

theorem next?_eq (r : Ring α n) : r.next? = r.contents.head? := by
  have hread := r.read_lt
  have hclosed := r.closed_lt
  rw [next?]
  split
  · rename_i heq
    have hcount : r.count = 0 := by
      rw [count_eq, if_pos heq.le]
      omega
    simp [contents, hcount]
  · rename_i hne
    obtain ⟨k, hk⟩ : ∃ k, r.count = k + 1 := Nat.exists_eq_succ_of_ne_zero (by
      rw [count_eq]
      split <;> omega)
    simp [contents, hk, List.range_succ_eq_map, Nat.mod_eq_of_lt hread]

theorem contents_skip {r : Ring α n} {a : α} {as : List α} (h : r.contents = a :: as) :
    r.skip.contents = as := by
  have hpos : 0 < r.count := by rw [← length_contents, h]; simp
  obtain ⟨k, hk⟩ : ∃ k, r.count = k + 1 := Nat.exists_eq_succ_of_ne_zero (by omega)
  have hskip : r.skip.contents = (List.range k).map fun i => r.slots ((r.read + 1 + i) % n) := by
    rw [contents, count_skip hpos, hk]
    simp [skip]
  have hall : r.contents = r.slots (r.read % n) ::
      (List.range k).map fun i => r.slots ((r.read + 1 + i) % n) := by
    rw [contents, hk, List.range_succ_eq_map]
    simp [Nat.add_comm, Nat.add_left_comm]
  rw [hall, List.cons.injEq] at h
  rw [hskip, h.2]

@[simp] theorem postAll_nil (r : Ring α n) : r.postAll [] = r := rfl

theorem contents_postAll {r : Ring α n} {as : List α} (h : r.count + as.length < n) :
    (r.postAll as).contents = r.contents ++ as := by
  induction as generalizing r with
  | nil => simp
  | cons a as ih =>
      rw [List.length_cons] at h
      have hpost := count_post a (show r.count + 1 < n by omega)
      rw [show r.postAll (a :: as) = (r.post a).postAll as from rfl, ih (by omega),
        contents_post a (by omega), List.append_assoc]
      rfl

end Ring

end Orizon
