import Orizon.Lib.Memory

/-!
# Orizon.Lib.Strncpy

`strncpy` of string.c, with the stores it makes.

Its two loops share the counter `n`.  The first one stores the terminator
without counting it, so a source that ends early leaves one store too many:
`strncpy_exact_iff` says when exactly the `n` bytes are written.
-/

namespace Orizon

/-! ## The code -/

/-- A memory and the stores made to it, in order. -/
structure Stores where
  mem : Mem
  done : List (Nat × UInt8)

/-- `*a = c`. -/
def Stores.put (s : Stores) (a : Nat) (c : UInt8) : Stores :=
  { mem := store s.mem 1 a c.toNat, done := s.done ++ [(a, c)] }

/-- `while (n && (*d++ = *src++)) n--`: what is stored, and `d` and `n` after the loop. -/
def strncpyCopy (s : Stores) (d src : Nat) : Nat → Stores × Nat × Nat
  | 0 => (s, d, 0)
  | n + 1 =>
      let c := s.mem src
      -- the terminator leaves the loop before `n--`
      if c = 0 then (s.put d c, d + 1, n + 1)
      else strncpyCopy (s.put d c) (d + 1) (src + 1) n

/-- `while (n--) *d++ = '\0'`. -/
def strncpyPad (s : Stores) (d : Nat) : Nat → Stores
  | 0 => s
  | n + 1 => strncpyPad (s.put d 0) (d + 1) n

/-- `strncpy`. -/
def strncpy (s : Stores) (dest src n : Nat) : Stores :=
  let (s, d, n) := strncpyCopy s dest src n
  strncpyPad s d n

/-! ## What it is for -/

/-- Character `i` of the string at `src`, NUL behind its terminator. -/
def paddedChar (m : Mem) (src i : Nat) : UInt8 :=
  if ∀ j ≤ i, m (src + j) ≠ 0 then m (src + i) else 0

/-- `strncpy` stores to the `n` bytes at `dest` and to no other byte, and leaves the
string of `src` there, padded with NULs. -/
structure StrncpyExact (m : Mem) (dest src n : Nat) : Prop where
  extent : ∀ a, a ∈ (strncpy ⟨m, []⟩ dest src n).done.map Prod.fst ↔ dest ≤ a ∧ a < dest + n
  content : ∀ i < n, (strncpy ⟨m, []⟩ dest src n).mem (dest + i) = paddedChar m src i
  frame : ∀ a, a < dest ∨ dest + n ≤ a → (strncpy ⟨m, []⟩ dest src n).mem a = m a

/-- A byte of the source that lies in the destination is overwritten before it is read;
it is then overwritten with itself. -/
def SurvivesCopy (m : Mem) (dest src n : Nat) : Prop :=
  src < dest → ∀ i < n, ∀ j, src + i = dest + j → m (src + i) = m (src + j)

variable {m : Mem} {s : Stores} {dest src d n i j : Nat}

@[simp] theorem put_mem (s : Stores) (a : Nat) (c : UInt8) :
    (s.put a c).mem = store s.mem 1 a c.toNat := rfl

@[simp] theorem put_done (s : Stores) (a : Nat) (c : UInt8) :
    (s.put a c).done = s.done ++ [(a, c)] := rfl

/-! ## Bytes copied in ascending order -/

theorem store_byte (m : Mem) (a : Nat) (c : UInt8) : store m 1 a c.toNat a = c := by
  rw [store, if_pos (by omega)]
  simp [leBytes]

/-- A copied byte is the one that stood at its place when it was read. -/
theorem memcpy_of_inside (hj : j < n) :
    memcpy m dest src n (dest + j) = memcpy m dest src j (src + j) := by
  induction n generalizing m dest src j with
  | zero => omega
  | succ n ih =>
      cases j with
      | zero =>
          simp only [memcpy, Nat.add_zero]
          rw [memcpy_of_outside (by omega), store_byte]
      | succ j =>
          have h := @ih (store m 1 dest (m src).toNat) (dest + 1) (src + 1) j (by omega)
          rw [memcpy, show dest + (j + 1) = dest + 1 + j by omega, h, memcpy,
            show src + (j + 1) = src + 1 + j by omega]

theorem memcpy_read (h : dest ≤ src ∨ src + i < dest) :
    memcpy m dest src i (src + i) = m (src + i) :=
  memcpy_of_outside (by omega)

/-- A byte inside the destination is read as it was written, `dest - src` bytes before. -/
theorem memcpy_read_again (h : src < dest) (hij : src + i = dest + j) :
    memcpy m dest src i (src + i) = memcpy m dest src j (src + j) := by
  rw [hij, memcpy_of_inside (by omega)]

theorem memcpy_read_of_survives (h : SurvivesCopy m dest src n) (hi : i < n) :
    memcpy m dest src i (src + i) = m (src + i) := by
  induction i using Nat.strong_induction_on with
  | _ i ih =>
      by_cases hover : src < dest ∧ dest ≤ src + i
      · obtain ⟨hlt, hle⟩ := hover
        have hij : src + i = dest + (src + i - dest) := by omega
        rw [memcpy_read_again hlt hij, ih _ (by omega) (by omega), h hlt i hi _ hij]
      · exact memcpy_read (by omega)

/-! ## The loops -/

/-- While no terminator is read, the first loop is `memcpy`. -/
theorem strncpyCopy_of_ne_zero (h : ∀ i < n, memcpy s.mem d src i (src + i) ≠ 0) :
    (strncpyCopy s d src n).1.mem = memcpy s.mem d src n ∧
      (strncpyCopy s d src n).1.done.map Prod.fst =
        s.done.map Prod.fst ++ (List.range n).map (d + ·) ∧
      (strncpyCopy s d src n).2 = (d + n, 0) := by
  induction n generalizing s d src with
  | zero => simp [strncpyCopy, memcpy]
  | succ n ih =>
      have h0 : s.mem src ≠ 0 := by simpa [memcpy] using h 0 (by omega)
      have hrest : ∀ i < n, memcpy (s.put d (s.mem src)).mem (d + 1) (src + 1) i (src + 1 + i) ≠ 0 := by
        intro i hi
        have hi' := h (i + 1) (by omega)
        rwa [memcpy, show src + (i + 1) = src + 1 + i by omega] at hi'
      obtain ⟨hmem, hdone, hend⟩ := ih hrest
      simp only [strncpyCopy, if_neg h0]
      refine ⟨by rw [hmem]; rfl, ?_, by rw [hend]; congr 1; omega⟩
      rw [hdone, put_done, List.range_succ_eq_map]
      simp [Function.comp_def, Nat.add_assoc, Nat.add_comm 1]

theorem strncpyPad_done (s : Stores) (d n : Nat) :
    (strncpyPad s d n).done.map Prod.fst = s.done.map Prod.fst ++ (List.range n).map (d + ·) := by
  induction n generalizing s d with
  | zero => simp [strncpyPad]
  | succ n ih =>
      rw [strncpyPad, ih, put_done, List.range_succ_eq_map]
      simp [Function.comp_def, Nat.add_assoc, Nat.add_comm 1]

/-- A terminator read before the count runs out is one store too many. -/
theorem mem_strncpy_done (h : ∃ i < n, memcpy s.mem d src i (src + i) = 0) :
    d + n ∈ (strncpy s d src n).done.map Prod.fst := by
  induction n generalizing s d src with
  | zero => simp at h
  | succ n ih =>
      by_cases h0 : s.mem src = 0
      · simp only [strncpy, strncpyCopy, h0, if_true, strncpyPad_done]
        exact List.mem_append_right _ (List.mem_map.mpr ⟨n, by simp, by omega⟩)
      · obtain ⟨i, hi, hz⟩ := h
        cases i with
        | zero => exact absurd hz h0
        | succ i =>
            have hz' : memcpy (s.put d (s.mem src)).mem (d + 1) (src + 1) i (src + 1 + i) = 0 := by
              rwa [memcpy, show src + (i + 1) = src + 1 + i by omega] at hz
            have hrest := ih ⟨i, by omega, hz'⟩
            simp only [strncpy, strncpyCopy, if_neg h0] at hrest ⊢
            rwa [show d + (n + 1) = d + 1 + n by omega]

theorem strncpy_of_ne_zero (h : ∀ i < n, memcpy m dest src i (src + i) ≠ 0) :
    (strncpy ⟨m, []⟩ dest src n).mem = memcpy m dest src n ∧
      (strncpy ⟨m, []⟩ dest src n).done.map Prod.fst = (List.range n).map (dest + ·) := by
  obtain ⟨hmem, hdone, hend⟩ := strncpyCopy_of_ne_zero (s := ⟨m, []⟩) h
  simp only [strncpy, hend, strncpyPad]
  exact ⟨hmem, by simpa using hdone⟩

/-! ## The extent -/

theorem ne_zero_of_paddedChar (h : paddedChar m src i ≠ 0) :
    m (src + i) ≠ 0 ∧ paddedChar m src i = m (src + i) := by
  have hall : ∀ j ≤ i, m (src + j) ≠ 0 := by
    by_contra hnul
    exact h (if_neg hnul)
  exact ⟨hall i (Nat.le_refl i), if_pos hall⟩

theorem paddedChar_of_ne_zero (h : ∀ i < n, m (src + i) ≠ 0) (hi : i < n) :
    paddedChar m src i = m (src + i) :=
  if_pos fun j hj => h j (by omega)

/-- Exactly the `n` bytes are stored when the source does not end before the count does. -/
theorem strncpy_exact_iff (m : Mem) (dest src n : Nat) :
    StrncpyExact m dest src n ↔
      (∀ i < n, m (src + i) ≠ 0) ∧ SurvivesCopy m dest src n := by
  constructor
  · intro h
    have hread : ∀ i < n, memcpy m dest src i (src + i) ≠ 0 := by
      intro i hi hz
      have hlast := (h.extent _).mp (mem_strncpy_done (s := ⟨m, []⟩) ⟨i, hi, hz⟩)
      omega
    have hsame : ∀ i < n, m (src + i) ≠ 0 ∧ memcpy m dest src i (src + i) = m (src + i) := by
      intro i hi
      have hpad : memcpy m dest src i (src + i) = paddedChar m src i := by
        rw [← h.content i hi, (strncpy_of_ne_zero hread).1, memcpy_of_inside hi]
      have hne : paddedChar m src i ≠ 0 := hpad ▸ hread i hi
      exact ⟨(ne_zero_of_paddedChar hne).1, hpad.trans (ne_zero_of_paddedChar hne).2⟩
    refine ⟨fun i hi => (hsame i hi).1, fun hlt i hi j hij => ?_⟩
    rw [← (hsame i hi).2, memcpy_read_again hlt hij, (hsame j (by omega)).2]
  · rintro ⟨hne, hlives⟩
    have hread : ∀ i < n, memcpy m dest src i (src + i) = m (src + i) :=
      fun i hi => memcpy_read_of_survives hlives hi
    obtain ⟨hmem, hdone⟩ := strncpy_of_ne_zero fun i hi => by rw [hread i hi]; exact hne i hi
    refine ⟨fun a => ?_, fun i hi => ?_, fun a ha => ?_⟩
    · rw [hdone, List.mem_map]
      constructor
      · rintro ⟨i, hi, rfl⟩
        have hlt := List.mem_range.mp hi
        omega
      · exact fun ha => ⟨a - dest, List.mem_range.mpr (by omega), by omega⟩
    · rw [hmem, memcpy_of_inside hi, hread i hi, paddedChar_of_ne_zero hne hi]
    · rw [hmem, memcpy_of_outside ha]

/-- The string "a" copied with room for four: five bytes are stored. -/
theorem not_strncpy_exact :
    ¬ ∀ (m : Mem) (dest src n : Nat), StrncpyExact m dest src n := by
  intro h
  have hlast := ((h (fun a => if a = 0 then 97 else 0) 16 0 4).extent 20).mp (by decide)
  omega

end Orizon
