import Orizon.Lib.Digits

/-!
# Orizon.Lib.Memory

Byte-addressed memory with little-endian words.

A word access touches the bytes `[a, a + n)` and nothing else: `load_store`
reads back what was stored, `load_store_of_disjoint` reads around a store,
and `load_congr` carries a word between memories that agree on its bytes.
-/

namespace Orizon

/-- A byte-addressed memory. -/
abbrev Mem := Nat → UInt8

/-- The `n`-byte word at `a`. -/
def load (m : Mem) (n a : Nat) : Nat := leNat ((List.range n).map fun i => m (a + i))

/-- Store the `n` low bytes of `v` at `a`. -/
def store (m : Mem) (n a v : Nat) : Mem :=
  fun x => if a ≤ x ∧ x < a + n then (leBytes n v).getD (x - a) 0 else m x

/-- `memset`: `n` bytes from `a` become `c`. -/
def memset (m : Mem) (a : Nat) (c : UInt8) : Nat → Mem
  | 0 => m
  | n + 1 => memset (store m 1 a c.toNat) (a + 1) c n

/-- `memcpy`: `n` bytes from `src` to `dest`, in ascending order. -/
def memcpy (m : Mem) (dest src : Nat) : Nat → Mem
  | 0 => m
  | n + 1 => memcpy (store m 1 dest (m src).toNat) (dest + 1) (src + 1) n

variable {m m' : Mem} {a b k n v x : Nat}

/-! ## Words -/

theorem load_congr (h : ∀ x, a ≤ x → x < a + n → m x = m' x) : load m n a = load m' n a := by
  unfold load
  congr 1
  refine List.map_congr_left fun i hi => ?_
  have hlt := List.mem_range.mp hi
  exact h (a + i) (by omega) (by omega)

theorem store_of_outside (h : x < a ∨ a + n ≤ x) : store m n a v x = m x := by
  unfold store
  rw [if_neg (by omega)]

theorem load_store (h : v < 256 ^ n) : load (store m n a v) n a = v := by
  have hbytes : (List.range n).map (fun i => store m n a v (a + i)) = leBytes n v := by
    refine List.ext_getElem (by simp) fun i hi hi' => ?_
    have hlt : i < n := by simpa using hi
    simp [store, hlt]
  unfold load
  rw [hbytes, leNat_leBytes h]

theorem load_store_of_disjoint (h : b + k ≤ a ∨ a + n ≤ b) :
    load (store m n a v) k b = load m k b :=
  load_congr fun x hlo hhi => store_of_outside (by omega)

theorem load_lt (m : Mem) (n a : Nat) : load m n a < 256 ^ n := by
  have h := leNat_lt ((List.range n).map fun i => m (a + i))
  simpa [load] using h

/-! ## Blocks of bytes -/

theorem memset_of_outside {c : UInt8} (h : x < a ∨ a + n ≤ x) : memset m a c n x = m x := by
  induction n generalizing m a with
  | zero => rfl
  | succ n ih =>
      rw [memset, ih (by omega), store_of_outside (by omega)]

theorem memcpy_of_outside {dest src : Nat} (h : x < dest ∨ dest + n ≤ x) :
    memcpy m dest src n x = m x := by
  induction n generalizing m dest src with
  | zero => rfl
  | succ n ih =>
      rw [memcpy, ih (by omega), store_of_outside (by omega)]

end Orizon
