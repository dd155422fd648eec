import Mathlib.Data.List.Basic
import Mathlib.Logic.Function.Iterate
import Mathlib.Tactic.Common

/-!
# Orizon.Lib.CounterMode

Counter mode over an arbitrary block function: a counter is turned into a pad,
the text is combined with the pads byte by byte, and the counter advances once
for every pad that was started.

Each byte of the result is the byte of the text against one byte of a key
stream that the first counter fixes (`getElem_counterCrypt`).  So applying it
twice gives the text back, and a prefix can be treated by itself.
-/

namespace Orizon

section CounterMode

variable {β : Type*} (pad : β → List UInt8) (next : β → β) (size : Nat)

/-- The bytes and the counter after them.  Every round takes a byte, so `fuel`
rounds are enough for `fuel` bytes. -/
def counterCrypt : Nat → β → List UInt8 → List UInt8 × β
  | 0, c, _ => ([], c)
  | fuel + 1, c, input =>
      if input.length = 0 then ([], c)
      else
        let rest := counterCrypt fuel (next c) (input.drop size)
        (List.zipWith (· ^^^ ·) (input.take size) (pad c) ++ rest.1, rest.2)

/-- Byte `i` of the key stream from counter `c`. -/
def keyStream (c : β) (i : Nat) : UInt8 := (pad (next^[i / size] c)).getD (i % size) 0

variable {pad next size}

theorem counterCrypt_nil (fuel : Nat) (c : β) : counterCrypt pad next size fuel c [] = ([], c) := by
  cases fuel <;> rfl

theorem counterCrypt_cons {fuel : Nat} {c : β} {input : List UInt8} (h : input ≠ []) :
    counterCrypt pad next size (fuel + 1) c input =
      (List.zipWith (· ^^^ ·) (input.take size) (pad c) ++
        (counterCrypt pad next size fuel (next c) (input.drop size)).1,
        (counterCrypt pad next size fuel (next c) (input.drop size)).2) := by
  rw [counterCrypt, if_neg (by simpa using h)]

/-- The key stream after the first pad is the one of the next counter. -/
theorem keyStream_next (hsize : 0 < size) (c : β) {i : Nat} (h : size ≤ i) :
    keyStream pad next size (next c) (i - size) = keyStream pad next size c i := by
  obtain ⟨j, rfl⟩ := Nat.exists_eq_add_of_le h
  rw [keyStream, keyStream, Nat.add_sub_cancel_left, Nat.add_div_left j hsize,
    Nat.add_mod_left, Function.iterate_succ_apply]

section Sized

variable (hsize : 0 < size) (hpad : ∀ c, (pad c).length = size) {fuel : Nat} {c : β}
  {input : List UInt8}

include hsize hpad

theorem length_counterCrypt (hfuel : input.length ≤ fuel) :
    (counterCrypt pad next size fuel c input).1.length = input.length := by
  induction fuel generalizing c input with
  | zero => simp_all [counterCrypt]
  | succ fuel ih =>
      by_cases hnil : input = []
      · rw [hnil, counterCrypt_nil]
      have hpos := List.length_pos_iff.mpr hnil
      rw [counterCrypt_cons hnil, List.length_append, ih (by rw [List.length_drop]; omega)]
      simp only [List.length_zipWith, List.length_take, List.length_drop, hpad]
      omega

theorem getElem?_counterCrypt (hfuel : input.length ≤ fuel) (i : Nat) :
    (counterCrypt pad next size fuel c input).1[i]? =
      input[i]?.map (· ^^^ keyStream pad next size c i) := by
  induction fuel generalizing c input i with
  | zero =>
      have hnil : input = [] := List.length_eq_zero_iff.mp (by omega)
      rw [hnil, counterCrypt_nil]
      rfl
  | succ fuel ih =>
      by_cases hnil : input = []
      · rw [hnil, counterCrypt_nil]
        rfl
      have hpos := List.length_pos_iff.mpr hnil
      rw [counterCrypt_cons hnil]
      have hlen : (List.zipWith (· ^^^ ·) (input.take size) (pad c)).length =
          min input.length size := by
        simp only [List.length_zipWith, List.length_take, hpad]
        omega
      by_cases hi : i < size
      · by_cases hin : i < input.length
        · have hk : i < (pad c).length := by rw [hpad]; exact hi
          have hstream : keyStream pad next size c i = (pad c)[i] := by
            rw [keyStream, Nat.div_eq_of_lt hi, Nat.mod_eq_of_lt hi, Function.iterate_zero_apply]
            simp [hk]
          rw [List.getElem?_append_left (by omega), hstream]
          simp [List.getElem?_zipWith, hi, hin, hk]
        · rw [List.getElem?_eq_none (l := input) (by omega), Option.map_none,
            List.getElem?_eq_none]
          rw [List.length_append, hlen, length_counterCrypt hsize hpad
            (by rw [List.length_drop]; omega), List.length_drop]
          omega
      · by_cases hin : size ≤ input.length
        · rw [List.getElem?_append_right (by omega), hlen, Nat.min_eq_right hin,
            ih (by rw [List.length_drop]; omega), List.getElem?_drop,
            keyStream_next hsize c (by omega), Nat.add_sub_cancel' (by omega)]
        · rw [List.getElem?_eq_none (l := input) (by omega), Option.map_none,
            List.getElem?_eq_none]
          rw [List.length_append, hlen, length_counterCrypt hsize hpad
            (by rw [List.length_drop]; omega), List.length_drop]
          omega

/-- What has been encrypted from a counter is decrypted from that counter. -/
theorem counterCrypt_counterCrypt {fuel' : Nat} (hfuel : input.length ≤ fuel)
    (hfuel' : input.length ≤ fuel') :
    (counterCrypt pad next size fuel' c (counterCrypt pad next size fuel c input).1).1 = input := by
  have hlen : (counterCrypt pad next size fuel c input).1.length = input.length :=
    length_counterCrypt hsize hpad hfuel
  refine List.ext_getElem? fun i => ?_
  rw [getElem?_counterCrypt hsize hpad (by omega), getElem?_counterCrypt hsize hpad hfuel,
    Option.map_map]
  cases input[i]? with
  | none => rfl
  | some x => simp [UInt8.xor_assoc]

theorem counterCrypt_take {fuel' : Nat} (k : Nat) (hfuel : input.length ≤ fuel)
    (hfuel' : (input.take k).length ≤ fuel') :
    (counterCrypt pad next size fuel' c (input.take k)).1 =
      (counterCrypt pad next size fuel c input).1.take k := by
  refine List.ext_getElem? fun i => ?_
  rw [getElem?_counterCrypt hsize hpad hfuel', List.getElem?_take, List.getElem?_take]
  by_cases hi : i < k
  · rw [if_pos hi, if_pos hi, getElem?_counterCrypt hsize hpad hfuel]
  · rw [if_neg hi, if_neg hi]
    rfl

end Sized

theorem counterCrypt_counter (hsize : 0 < size) {fuel fuel' : Nat} {c : β}
    {input input' : List UInt8} (hlen : input.length = input'.length)
    (hfuel : input.length ≤ fuel) (hfuel' : input'.length ≤ fuel') :
    (counterCrypt pad next size fuel c input).2 =
      (counterCrypt pad next size fuel' c input').2 := by
  induction fuel generalizing fuel' c input input' with
  | zero =>
      have hnil : input = [] := List.length_eq_zero_iff.mp (by omega)
      have hnil' : input' = [] := List.length_eq_zero_iff.mp (by omega)
      rw [hnil, hnil', counterCrypt_nil, counterCrypt_nil]
  | succ fuel ih =>
      by_cases hnil : input = []
      · have hnil' : input' = [] := List.length_eq_zero_iff.mp (by rw [← hlen, hnil]; rfl)
        rw [hnil, hnil', counterCrypt_nil, counterCrypt_nil]
      have hpos := List.length_pos_iff.mpr hnil
      have hnil' : input' ≠ [] := List.length_pos_iff.mp (by omega)
      obtain ⟨fuel', rfl⟩ : ∃ n, fuel' = n + 1 := ⟨fuel' - 1, by omega⟩
      rw [counterCrypt_cons hnil, counterCrypt_cons hnil']
      refine ih ?_ ?_ ?_
      · rw [List.length_drop, List.length_drop, hlen]
      · rw [List.length_drop]; omega
      · rw [List.length_drop]; omega

theorem counterCrypt_whole (hsize : 0 < size) {fuel : Nat} {c : β} {input : List UInt8} (hfuel : input.length ≤ fuel)
    (h : input.length % size = 0) : (counterCrypt pad next size fuel c input).2 = next^[input.length / size] c := by
  induction fuel generalizing c input with
  | zero =>
      have hnil : input = [] := List.length_eq_zero_iff.mp (by omega)
      rw [hnil, counterCrypt_nil]
      simp
  | succ fuel ih =>
      by_cases hnil : input = []
      · rw [hnil, counterCrypt_nil]
        simp
      have hpos := List.length_pos_iff.mpr hnil
      have hle : size ≤ input.length := Nat.le_of_dvd hpos (Nat.dvd_of_mod_eq_zero h)
      have hdiv : input.length / size = (input.length - size) / size + 1 := by
        rw [← Nat.add_div_right _ hsize, Nat.sub_add_cancel hle]
      have hrest : (input.drop size).length % size = 0 := by
        rw [List.length_drop, ← Nat.mod_eq_sub_mod hle, h]
      rw [counterCrypt_cons hnil, ih (by rw [List.length_drop]; omega) hrest, List.length_drop, hdiv,
        Function.iterate_succ_apply]

end CounterMode

end Orizon
