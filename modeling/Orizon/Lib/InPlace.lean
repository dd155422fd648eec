import Orizon.Lib.Memory

/-!
# Orizon.Lib.InPlace

Loops over two regions of a memory that read byte `i` of the one and write byte
`i` of the other, in ascending order.

The regions may be one and the same, or overlap from behind: what matters is
that no byte is written before it has been read (`ReadsAhead`).  Then the
result is that of a function from the old memory (`mapBytes_succ`,
`bytesAt_mapBytes`).
-/

namespace Orizon

/-- The `n` bytes from `a`. -/
def bytesAt (m : Mem) (a n : Nat) : List UInt8 := (List.range n).map fun i => m (a + i)

/-- No byte of `[src, src + n)` is written before it is read, when byte `i` of the
region at `dest` is written after byte `i` of the region at `src` is read. -/
def ReadsAhead (src dest n : Nat) : Prop := dest ≤ src ∨ src + n ≤ dest

/-- Byte `i` of `[dest, dest + n)` is `f i` of byte `i` from `src`. -/
def mapBytes (f : Nat → UInt8 → UInt8) (m : Mem) (src dest n : Nat) : Mem :=
  fun a => if dest ≤ a ∧ a < dest + n then f (a - dest) (m (src + (a - dest))) else m a

variable {f : Nat → UInt8 → UInt8} {m m' : Mem} {src dest a n k : Nat}

@[simp] theorem length_bytesAt (m : Mem) (a n : Nat) : (bytesAt m a n).length = n := by
  simp [bytesAt]

theorem getElem?_bytesAt (m : Mem) (a : Nat) {n i : Nat} (hi : i < n) :
    (bytesAt m a n)[i]? = some (m (a + i)) := by
  simp [bytesAt, hi]

theorem bytesAt_inj (h : bytesAt m a n = bytesAt m' k n) : ∀ i < n, m (a + i) = m' (k + i) := by
  intro i hi
  have hget := congrArg (fun bs => bs[i]?) h
  simpa [getElem?_bytesAt _ _ hi] using hget

@[simp] theorem mapBytes_zero : mapBytes f m src dest 0 = m := by
  funext a
  rw [mapBytes, if_neg (by omega)]

theorem mapBytes_of_outside (h : a < dest ∨ dest + n ≤ a) : mapBytes f m src dest n a = m a := by
  rw [mapBytes, if_neg (by omega)]

theorem mapBytes_of_inside {i : Nat} (hi : i < n) :
    mapBytes f m src dest n (dest + i) = f i (m (src + i)) := by
  rw [mapBytes, if_pos (by omega), Nat.add_sub_cancel_left]

/-- One more byte: it is read from a place that has not been written. -/
theorem mapBytes_succ (h : ReadsAhead src dest (n + 1)) :
    Function.update (mapBytes f m src dest n) (dest + n)
      (f n (mapBytes f m src dest n (src + n))) = mapBytes f m src dest (n + 1) := by
  have hread : mapBytes f m src dest n (src + n) = m (src + n) := by
    refine mapBytes_of_outside ?_
    rcases h with h | h <;> omega
  funext a
  by_cases ha : a = dest + n
  · subst ha
    rw [Function.update_self, hread, mapBytes_of_inside (Nat.lt_succ_self n)]
  · rw [Function.update_of_ne ha]
    by_cases hin : dest ≤ a ∧ a < dest + n
    · rw [mapBytes, mapBytes, if_pos hin, if_pos (by omega)]
    · rw [mapBytes, mapBytes, if_neg hin, if_neg (by omega)]

theorem bytesAt_mapBytes : bytesAt (mapBytes f m src dest n) dest n =
    (bytesAt m src n).mapIdx f := by
  refine List.ext_getElem? fun i => ?_
  by_cases hi : i < n
  · rw [getElem?_bytesAt _ _ hi, mapBytes_of_inside hi, List.getElem?_mapIdx, getElem?_bytesAt _ _ hi,
      Option.map_some]
  · rw [List.getElem?_eq_none (by simpa using hi), List.getElem?_eq_none (by simpa using hi)]

theorem memset_of_inside {c : UInt8} {i : Nat} (hi : i < n) : memset m a c n (a + i) = c := by
  induction n generalizing m a i with
  | zero => omega
  | succ n ih =>
      rw [memset]
      cases i with
      | zero =>
          rw [memset_of_outside (by omega), store, if_pos (by omega)]
          simp [leBytes]
      | succ i =>
          rw [show a + (i + 1) = a + 1 + i by omega]
          exact ih (by omega)

end Orizon
