import Orizon.Terminal.Installer
import Mathlib.Data.List.Infix
import Mathlib.Tactic.IntervalCases
import Mathlib.Tactic.Ring

/-!
# Orizon.System.Text

String functions of the kernel's C library, over strings as the lists of their bytes.
-/

namespace Orizon

/-! ## Strings in arrays -/

/-- The string an array holds: its bytes before the first NUL. -/
def bytesCstr : List UInt8 → CStr
  | [] => []
  | c :: bytes => if h : c ≠ 0 then ⟨c, h⟩ :: bytesCstr bytes else []

/-- `strstr(text, needle) != NULL`. -/
def strstrFound (text needle : CStr) : Bool := needle <:+: text

/-- A line end. -/
def isLineEnd (c : CChar) : Bool := c = cchar '\n' || c = cchar '\r'

/-- `%lu`. -/
def cstrNat (n : Nat) : CStr := cstr (toString n)

/-- A decimal digit. -/
def isDecimal (c : CChar) : Bool := 0x30 ≤ c.val && c.val ≤ 0x39

/-- The number that digits denote. -/
def decimalValue (digits : CStr) : Nat := digits.foldl (fun value c => value * 10 + (c.val.toNat - 0x30)) 0

section Lemmas

variable {s t : CStr} {bytes : List UInt8} {n m : Nat}

@[simp] theorem strBytes_append : strBytes (s ++ t) = strBytes s ++ strBytes t := List.map_append

@[simp] theorem length_strBytes : (strBytes s).length = s.length := List.length_map _

theorem strBytes_inj (h : strBytes s = strBytes t) : s = t :=
  List.map_injective_iff.mpr Subtype.val_injective h

theorem strBytes_bytesCstr (bytes : List UInt8) : strBytes (bytesCstr bytes) = bytes.takeWhile (· ≠ 0) := by
  induction bytes with
  | nil => rfl
  | cons c bytes ih =>
      by_cases hc : c = 0
      · simp [bytesCstr, strBytes, hc]
      · simpa [bytesCstr, strBytes, hc, List.takeWhile_cons] using ih

theorem length_bytesCstr_le (bytes : List UInt8) : (bytesCstr bytes).length ≤ bytes.length := by
  rw [← length_strBytes, strBytes_bytesCstr]
  exact (List.takeWhile_prefix _).length_le

@[simp] theorem bytesCstr_strBytes (s : CStr) : bytesCstr (strBytes s) = s := by
  induction s with
  | nil => rfl
  | cons c s ih => simpa [bytesCstr, strBytes, c.property] using ih

theorem strstrFound_iff : strstrFound s t = true ↔ t <:+: s := by simp [strstrFound]

/-! ## Numbers -/

theorem isDigit_iff {c : Char} : c.isDigit = true ↔ 0x30 ≤ c.toNat ∧ c.toNat ≤ 0x39 := by
  simp [Char.isDigit, UInt32.le_iff_toNat_le]

theorem toNat_cchar {c : Char} (h : c.isDigit = true) : (cchar c).val.toNat = c.toNat := by
  have hrange := isDigit_iff.mp h
  have hval : (UInt8.ofNat c.toNat).toNat = c.toNat := by
    rw [UInt8.toNat_ofNat']
    omega
  have hne : UInt8.ofNat c.toNat ≠ 0 := by
    intro hzero
    rw [hzero] at hval
    have hz : (0 : UInt8).toNat = 0 := rfl
    omega
  rw [cchar, dif_pos hne]
  exact hval

theorem cstrNat_eq (n : Nat) : cstrNat n = (Nat.toDigits 10 n).map cchar := by
  rw [cstrNat, cstr, Nat.toString_eq_ofList_toDigits, String.toList_ofList]

theorem length_cstrNat_le {k : Nat} (hk : 0 < k) (h : n < 10 ^ k) : (cstrNat n).length ≤ k := by
  rw [cstrNat_eq, List.length_map]
  exact Nat.toDigits_length 10 n k hk h

theorem mem_cstrNat {c : CChar} (h : c ∈ cstrNat n) : 0x30 ≤ c.val.toNat ∧ c.val.toNat ≤ 0x39 := by
  rw [cstrNat_eq, List.mem_map] at h
  obtain ⟨d, hd, rfl⟩ := h
  have hdigit := Nat.isDigit_of_mem_toDigits (by decide) (by decide) hd
  rw [toNat_cchar hdigit]
  exact isDigit_iff.mp hdigit

theorem value_cstrNat (n : Nat) : (cstrNat n).foldl (fun value c => 10 * value + (c.val.toNat - 0x30)) 0 = n := by
  have hfold : ∀ (digits : List Char) (value : Nat), (∀ d ∈ digits, d.isDigit = true) →
      (digits.map cchar).foldl (fun value c => 10 * value + (c.val.toNat - 0x30)) value =
        Nat.ofDigitChars 10 digits value := by
    intro digits
    induction digits with
    | nil => simp
    | cons d digits ih =>
        intro value hdigits
        rw [List.map_cons, List.foldl_cons, ih _ (fun x hx => hdigits x (by simp [hx])),
          toNat_cchar (hdigits d (by simp)), Nat.ofDigitChars_cons]
        rfl
  rw [cstrNat_eq, hfold _ _ fun d hd => Nat.isDigit_of_mem_toDigits (by decide) (by decide) hd,
    Nat.ofDigitChars_ten_toDigits]

theorem cstrNat_inj (h : cstrNat n = cstrNat m) : n = m := by
  rw [← value_cstrNat n, h, value_cstrNat]

@[simp] theorem decimalValue_cstrNat (n : Nat) : decimalValue (cstrNat n) = n := by
  simpa only [decimalValue, Nat.mul_comm] using value_cstrNat n

theorem isDecimal_iff {c : CChar} : isDecimal c = true ↔ 0x30 ≤ c.val.toNat ∧ c.val.toNat ≤ 0x39 := by
  simp [isDecimal, UInt8.le_iff_toNat_le]

theorem isDecimal_of_mem_cstrNat {c : CChar} (h : c ∈ cstrNat n) : isDecimal c = true :=
  isDecimal_iff.mpr (mem_cstrNat h)

theorem cstrNat_ne_nil (n : Nat) : cstrNat n ≠ [] := by
  simp [cstrNat_eq, Nat.toDigits_ne_nil]

theorem le_foldl_decimal (digits : CStr) (start : Nat) :
    start * 10 ^ digits.length ≤ digits.foldl (fun value c => value * 10 + (c.val.toNat - 0x30)) start := by
  induction digits generalizing start with
  | nil => simp
  | cons c digits ih =>
      calc start * 10 ^ (digits.length + 1) = start * 10 * 10 ^ digits.length := by ring
        _ ≤ (start * 10 + (c.val.toNat - 0x30)) * 10 ^ digits.length :=
          Nat.mul_le_mul_right _ (Nat.le_add_right _ _)
        _ ≤ _ := ih _

theorem decimalValue_append_le (a b : CStr) : decimalValue a * 10 ^ b.length ≤ decimalValue (a ++ b) := by
  rw [decimalValue, decimalValue, List.foldl_append]
  exact le_foldl_decimal b _

theorem decimalValue_concat (digits : CStr) (c : CChar) :
    decimalValue (digits ++ [c]) = decimalValue digits * 10 + (c.val.toNat - 0x30) := by
  simp [decimalValue]

theorem cstrNat_digit {c : CChar} (hc : isDecimal c = true) : cstrNat (c.val.toNat - 0x30) = [c] := by
  have hrange := isDecimal_iff.mp hc
  have hdigit : (c.val.toNat - 0x30).digitChar.isDigit = true := by
    have hlt : c.val.toNat - 0x30 < 10 := by omega
    interval_cases c.val.toNat - 0x30 <;> rfl
  rw [cstrNat_eq, Nat.toDigits_of_lt_base (by omega), List.map_singleton, List.singleton_inj]
  refine Subtype.ext (UInt8.toNat_inj.mp ?_)
  rw [toNat_cchar hdigit]
  have hvalue : (c.val.toNat - 0x30).digitChar.toNat = c.val.toNat - 0x30 + 0x30 := by
    have hlt : c.val.toNat - 0x30 < 10 := by omega
    interval_cases c.val.toNat - 0x30 <;> rfl
  omega

theorem cstrNat_concat {c : CChar} (hn : 0 < n) (hc : isDecimal c = true) :
    cstrNat n ++ [c] = cstrNat (n * 10 + (c.val.toNat - 0x30)) := by
  have hrange := isDecimal_iff.mp hc
  have happend := Nat.toDigits_append_toDigits (b := 10) (d := c.val.toNat - 0x30) (by decide) hn (by omega)
  rw [← cstrNat_digit hc, cstrNat_eq, cstrNat_eq, ← List.map_append, happend, cstrNat_eq, Nat.mul_comm n]

/-- Digits are what is printed of their value, up to zeros before it. -/
theorem exists_zeros_cstrNat (hdigits : ∀ c ∈ s, isDecimal c = true) (hne : s ≠ []) :
    ∃ k, s = List.replicate k (cchar '0') ++ cstrNat (decimalValue s) := by
  induction s using List.reverseRecOn with
  | nil => exact absurd rfl hne
  | append_singleton digits c ih =>
      have hc : isDecimal c = true := hdigits c (by simp)
      rw [decimalValue_concat]
      by_cases hnil : digits = []
      · exact ⟨0, by simp [hnil, decimalValue, cstrNat_digit hc]⟩
      · obtain ⟨k, hk⟩ := ih (fun d hd => hdigits d (by simp [hd])) hnil
        obtain hzero | hpos := Nat.eq_zero_or_pos (decimalValue digits)
        · refine ⟨k + 1, ?_⟩
          rw [hzero] at hk
          rw [hzero, Nat.zero_mul, Nat.zero_add, cstrNat_digit hc, hk, List.replicate_succ']
          rfl
        · refine ⟨k, ?_⟩
          rw [← cstrNat_concat hpos hc, ← List.append_assoc, ← hk]

theorem decimalValue_zeros (k : Nat) (digits : CStr) :
    decimalValue (List.replicate k (cchar '0') ++ digits) = decimalValue digits := by
  induction k with
  | zero => rfl
  | succ k ih =>
      rw [List.replicate_succ, List.cons_append, ← ih]
      rfl

end Lemmas

end Orizon
