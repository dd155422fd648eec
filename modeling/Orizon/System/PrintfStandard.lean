import Orizon.Lib.Pieces
import Orizon.System.Printf

/-!
# Orizon.System.PrintfStandard

`snprintf` of `lib/string.c` against the C standard.

A format is a sequence of pieces, each a character or one of the conversions the formatter
supports, with the argument it takes.  `FormatPiece.standard` is what the standard makes of a
piece and `FormatPiece.written` what the formatter does.  They differ in three cases
(`FormatPiece.Diverges`): a `long` outside the range of `int` is cut to one, zeros are put before
a sign, and the character 0 is not written.
-/

namespace Orizon

/-! ## Formats -/

/-- Flags and width of a conversion. -/
structure PieceSpec where
  flags : CStr
  digits : CStr
  flags_flag : ∀ c ∈ flags, isFormatFlag c = true
  digits_decimal : ∀ c ∈ digits, isDecimal c = true
  digits_head : digits.head? ≠ some (cchar '0')

def PieceSpec.source (spec : PieceSpec) : CStr := spec.flags ++ spec.digits

/-- Their meaning: `-` overrides `0`. -/
def PieceSpec.meaning (spec : PieceSpec) (isLong : Bool) : FormatSpec where
  leftAlign := cchar '-' ∈ spec.flags
  padZero := cchar '0' ∈ spec.flags ∧ cchar '-' ∉ spec.flags
  width := decimalValue spec.digits
  isLong := isLong

/-- The length modifier. -/
inductive FormatLength
  | int
  | long
  | longLong
deriving DecidableEq

def FormatLength.source : FormatLength → CStr
  | .int => []
  | .long => [cchar 'l']
  | .longLong => [cchar 'l', cchar 'l']

def FormatLength.isLong : FormatLength → Bool
  | .int => false
  | .long | .longLong => true

/-- The conversions of numbers. -/
inductive NumberConversion
  | d
  | i
  | u
  | x
deriving DecidableEq

def NumberConversion.source : NumberConversion → CChar
  | .d => cchar 'd'
  | .i => cchar 'i'
  | .u => cchar 'u'
  | .x => cchar 'x'

/-- A piece of a format, and its argument.  The flag `0` has no meaning for characters and strings. -/
inductive FormatPiece
  | plain (c : CChar) (h : c ≠ cchar '%')
  | percent
  | number (spec : PieceSpec) (length : FormatLength) (conversion : NumberConversion) (value : UInt64)
  | char (spec : PieceSpec) (h : cchar '0' ∉ spec.flags) (value : UInt64)
  | text (spec : PieceSpec) (h : cchar '0' ∉ spec.flags) (s : CStr)

def FormatPiece.source : FormatPiece → CStr
  | .plain c _ => [c]
  | .percent => [cchar '%', cchar '%']
  | .number spec length conversion _ => cchar '%' :: (spec.source ++ length.source ++ [conversion.source])
  | .char spec _ _ => cchar '%' :: (spec.source ++ [cchar 'c'])
  | .text spec _ _ => cchar '%' :: (spec.source ++ [cchar 's'])

def FormatPiece.args : FormatPiece → List FormatArg
  | .plain _ _ | .percent => []
  | .number _ _ _ value | .char _ _ value => [.word value]
  | .text _ _ s => [.text (some s)]

/-! ## The standard -/

/-- The signed value of an argument. -/
def standardSigned (length : FormatLength) (value : UInt64) : Int :=
  if length.isLong then (if value.toNat < 2 ^ 63 then value.toNat else value.toNat - 2 ^ 64) else cInt value.toNat

/-- A field: zeros stand between the sign and the digits. -/
def standardField (spec : FormatSpec) (sign body : CStr) : CStr :=
  let pad := spec.width - (sign.length + body.length)
  if spec.leftAlign then sign ++ (body ++ List.replicate pad (cchar ' '))
  else if spec.padZero then sign ++ List.replicate pad (cchar '0') ++ body
  else List.replicate pad (cchar ' ') ++ sign ++ body

/-- The sign of a number. -/
def standardSign (value : Int) : CStr := if value < 0 then [cchar '-'] else []

/-- A number. -/
def standardNumber (spec : FormatSpec) (length : FormatLength) (conversion : NumberConversion)
    (value : UInt64) : CStr :=
  match conversion with
  | .d | .i =>
      standardField spec (standardSign (standardSigned length value)) (utoa (standardSigned length value).natAbs 10)
  | .u => standardField spec [] (utoa (formatUnsigned length.isLong value) 10)
  | .x => standardField spec [] (utoa (formatUnsigned length.isLong value) 16)

/-- A byte in its width, also the byte 0. -/
def standardChar (spec : FormatSpec) (c : UInt8) : List UInt8 :=
  if spec.leftAlign then c :: List.replicate (spec.width - 1) 0x20 else List.replicate (spec.width - 1) 0x20 ++ [c]

/-- What the standard makes of a piece. -/
def FormatPiece.standard : FormatPiece → List UInt8
  | .plain c _ => [c.val]
  | .percent => [0x25]
  | .number spec length conversion value =>
      strBytes (standardNumber (spec.meaning length.isLong) length conversion value)
  | .char spec _ value => standardChar (spec.meaning false) value.toUInt8
  | .text spec _ s => strBytes (standardField (spec.meaning false) [] s)

/-- What `snprintf` is to leave at `str`, and to return, for these pieces. -/
def SnprintfStandard (str : List UInt8) (size : Nat) (pieces : List FormatPiece) : Prop :=
  snprintfInto str size (pieces.flatMap FormatPiece.source) (pieces.flatMap FormatPiece.args) =
    some (if size = 0 then str else (pieces.flatMap FormatPiece.standard).take (size - 1) ++
        0 :: str.drop (((pieces.flatMap FormatPiece.standard).take (size - 1)).length + 1),
      ((pieces.flatMap FormatPiece.standard).length : Int))

/-! ## The code -/

/-- The digits the formatter makes of a number. -/
def writtenNumber (length : FormatLength) (conversion : NumberConversion) (value : UInt64) : CStr :=
  match conversion with
  | .d | .i => itoa (cInt value.toNat)
  | .u => utoa (formatUnsigned length.isLong value) 10
  | .x => utoa (formatUnsigned length.isLong value) 16

/-- What the formatter makes of a piece. -/
def FormatPiece.written : FormatPiece → CStr
  | .plain c _ => [c]
  | .percent => [cchar '%']
  | .number spec length conversion value =>
      formatPad (spec.meaning length.isLong) (writtenNumber length conversion value)
  | .char spec _ value => formatPad (spec.meaning false) (bytesCstr [value.toUInt8])
  | .text spec _ s => formatPad (spec.meaning false) s

/-- The pieces that come out differently: a `long` outside the range of `int`, a negative number
with zeros before it, and the character 0. -/
def FormatPiece.Diverges : FormatPiece → Prop
  | .number spec length conversion value =>
      (conversion = .d ∨ conversion = .i) ∧
        (standardSigned length value ≠ cInt value.toNat ∨
          (standardSigned length value < 0 ∧ (spec.meaning length.isLong).padZero = true ∧
            (utoa (standardSigned length value).natAbs 10).length + 1 < (spec.meaning length.isLong).width))
  | .char _ _ value => value.toUInt8 = 0
  | _ => False

/-! ## What the formatter reads -/

section Source

variable {spec : PieceSpec} {length : FormatLength} {c : CChar} {rest text s : CStr} {args left : List FormatArg}

theorem while_append {p : CChar → Bool} {a b : CStr} (ha : ∀ c ∈ a, p c = true) (hb : ∀ c ∈ b.head?, p c = false) :
    (a ++ b).takeWhile p = a ∧ (a ++ b).dropWhile p = b := by
  rw [List.takeWhile_append_of_pos ha, List.dropWhile_append_of_pos ha]
  cases b with
  | nil => simp
  | cons c b => simp [hb c rfl]

theorem formatLong_source (hc : c ≠ cchar 'l') : formatLong (length.source ++ c :: rest) =
    (length.isLong, c :: rest) := by
  cases length <;> simp [formatLong, FormatLength.source, FormatLength.isLong, hc]

theorem formatSpec_source (hflag : isFormatFlag c = false) (hdigit : isDecimal c = false) (hc : c ≠ cchar 'l') :
    formatSpec (spec.source ++ length.source ++ c :: rest) = (spec.meaning length.isLong, c :: rest) := by
  have hhead (p : CChar → Bool) (hl : p (cchar 'l') = false) (hp : p c = false) :
      ∀ d ∈ (length.source ++ c :: rest).head?, p d = false := by
    cases length <;> simp [FormatLength.source, hl, hp]
  obtain ⟨hdigits, hafter⟩ := while_append spec.digits_decimal (hhead isDecimal rfl hdigit)
  -- a width begins with none of the flags
  obtain ⟨hflags, hwidth⟩ := while_append (b := spec.digits ++ (length.source ++ c :: rest)) spec.flags_flag (by
    intro d hd
    rw [List.head?_append] at hd
    cases hfirst : spec.digits.head? with
    | none => exact hhead isFormatFlag rfl hflag d (by simpa [hfirst] using hd)
    | some e =>
        obtain rfl : e = d := by simpa [hfirst] using hd
        have hdecimal := isDecimal_iff.mp (spec.digits_decimal e (List.mem_of_head? hfirst))
        have hzero : e ≠ cchar '0' := fun h => spec.digits_head (h ▸ hfirst)
        have hminus : e ≠ cchar '-' := by
          rintro rfl
          exact absurd hdecimal (by decide)
        simp [isFormatFlag, hzero, hminus])
  simp only [formatSpec, PieceSpec.source, List.append_assoc, hflags, hwidth, hdigits, hafter, formatLong_source hc]
  rfl

theorem Formats.piece {p : FormatPiece} (h : Formats rest left text) :
    Formats (p.source ++ rest) (p.args ++ left) (p.written ++ text) := by
  cases p with
  | plain c hc => exact h.char hc
  | percent =>
      have hspec : formatSpec (cchar '%' :: rest) = (⟨false, false, 0, false⟩, cchar '%' :: rest) := rfl
      have hconv : formatConversion false (cchar '%') left = some ([cchar '%'], left) := rfl
      exact Formats.conversion hspec hconv h
  | number spec length conversion value =>
      have hspec : formatSpec (spec.source ++ length.source ++ conversion.source :: rest) =
          (spec.meaning length.isLong, conversion.source :: rest) := by
        cases conversion <;> exact formatSpec_source rfl rfl (by decide)
      have hconv : formatConversion (spec.meaning length.isLong).isLong conversion.source (.word value :: left) =
          some (writtenNumber length conversion value, left) := by
        cases conversion <;> rfl
      have hout := Formats.conversion hspec hconv h
      simpa [FormatPiece.source, FormatPiece.args, FormatPiece.written] using hout
  | char spec hzero value =>
      have hspec : formatSpec (spec.source ++ FormatLength.int.source ++ cchar 'c' :: rest) =
          (spec.meaning false, cchar 'c' :: rest) := formatSpec_source rfl rfl (by decide)
      have hconv : formatConversion (spec.meaning false).isLong (cchar 'c') (.word value :: left) =
          some (bytesCstr [value.toUInt8], left) := rfl
      have hout := Formats.conversion hspec hconv h
      simpa [FormatPiece.source, FormatPiece.args, FormatPiece.written, FormatLength.source,
        FormatLength.isLong] using hout
  | text spec hzero s =>
      have hspec : formatSpec (spec.source ++ FormatLength.int.source ++ cchar 's' :: rest) =
          (spec.meaning false, cchar 's' :: rest) := formatSpec_source rfl rfl (by decide)
      have hconv : formatConversion (spec.meaning false).isLong (cchar 's') (.text (some s) :: left) =
          some (s, left) := rfl
      have hout := Formats.conversion hspec hconv h
      simpa [FormatPiece.source, FormatPiece.args, FormatPiece.written, FormatLength.source,
        FormatLength.isLong] using hout

theorem formats_pieces (pieces : List FormatPiece) :
    Formats (pieces.flatMap FormatPiece.source) (pieces.flatMap FormatPiece.args)
      (pieces.flatMap FormatPiece.written) := by
  induction pieces with
  | nil => exact .nil
  | cons p pieces ih => exact ih.piece

end Source

/-! ## What it writes -/

section Field

variable {spec : FormatSpec} {v k : Int} {n : Nat} {c : CChar}

theorem itoa_eq (v : Int) : itoa v = standardSign v ++ cstrNat v.natAbs := by
  unfold itoa standardSign
  rw [utoa, ← cstrNat_eq]
  split <;> rfl

theorem standardField_nil (spec : FormatSpec) (s : CStr) : standardField spec [] s = formatPad spec s := by
  unfold standardField formatPad
  split
  · simp
  · split <;> simp

theorem standardField_number
    (h : v < 0 → spec.padZero = true → spec.width ≤ (cstrNat v.natAbs).length + 1) :
    standardField spec (standardSign v) (cstrNat v.natAbs) = formatPad spec (itoa v) := by
  rw [itoa_eq]
  obtain hneg | hpos := lt_or_ge v 0
  · unfold standardField formatPad
    split
    · simp
    · split
      next hzero =>
        have hwidth := h hneg hzero
        simp [standardSign, hneg, show spec.width - ((cstrNat v.natAbs).length + 1) = 0 by omega,
          show spec.width - (1 + (cstrNat v.natAbs).length) = 0 by omega]
      next => simp
  · rw [show standardSign v = [] from if_neg (by omega), standardField_nil, List.nil_append]

theorem not_mem_digits : cchar '-' ∉ cstrNat n := fun h => absurd (mem_cstrNat h) (by decide)

/-- A field is a sign and digits, with spaces or zeros between and around them. -/
structure IsField (sign digits field : CStr) : Prop where
  sign_iff : cchar '-' ∈ field ↔ cchar '-' ∈ sign
  digits_eq : decimalValue (field.filter isDecimal) = decimalValue digits

theorem filter_digits : (cstrNat n).filter isDecimal = cstrNat n :=
  List.filter_eq_self.mpr fun _ hc => isDecimal_of_mem_cstrNat hc

theorem filter_sign : (standardSign v).filter isDecimal = [] := by
  unfold standardSign
  split <;> rfl

theorem isDecimal_padding : isDecimal (cchar ' ') = false ∧ isDecimal (cchar '0') = true := ⟨rfl, rfl⟩

theorem minus_padding : cchar '-' ≠ cchar ' ' ∧ cchar '-' ≠ cchar '0' := by decide

theorem isField_standardField :
    IsField (standardSign v) (cstrNat n) (standardField spec (standardSign v) (cstrNat n)) := by
  unfold standardField
  split
  · constructor <;> simp [filter_digits, filter_sign, isDecimal_padding, minus_padding, not_mem_digits]
  · split
    · constructor <;>
        simp [filter_digits, filter_sign, isDecimal_padding, minus_padding, not_mem_digits, decimalValue_zeros]
    · constructor <;> simp [filter_digits, filter_sign, isDecimal_padding, minus_padding, not_mem_digits]

theorem isField_formatPad : IsField (standardSign v) (cstrNat v.natAbs) (formatPad spec (itoa v)) := by
  rw [itoa_eq]
  unfold formatPad
  split
  · constructor <;> simp [filter_digits, filter_sign, isDecimal_padding, minus_padding, not_mem_digits]
  · split
    · constructor <;>
        simp [filter_digits, filter_sign, isDecimal_padding, minus_padding, not_mem_digits, decimalValue_zeros]
    · constructor <;> simp [filter_digits, filter_sign, isDecimal_padding, minus_padding, not_mem_digits]

theorem mem_standardSign : cchar '-' ∈ standardSign v ↔ v < 0 := by
  unfold standardSign
  split <;> simp [*]

theorem standardField_ne (h : v ≠ k) :
    standardField spec (standardSign v) (cstrNat v.natAbs) ≠ formatPad spec (itoa k) := by
  intro heq
  have hv := @isField_standardField spec v v.natAbs
  have hk := @isField_formatPad spec k
  rw [heq] at hv
  have hsign : v < 0 ↔ k < 0 := by
    rw [← mem_standardSign, ← hv.sign_iff, hk.sign_iff, mem_standardSign]
  have hdigits : v.natAbs = k.natAbs := by
    rw [← decimalValue_cstrNat v.natAbs, ← hv.digits_eq, hk.digits_eq, decimalValue_cstrNat]
  omega

theorem length_standardSign : (standardSign v).length = if v < 0 then 1 else 0 := by
  unfold standardSign
  split <;> rfl

theorem length_standardField : (standardField spec (standardSign v) (cstrNat n)).length =
    max spec.width ((standardSign v).length + (cstrNat n).length) := by
  unfold standardField
  grind

theorem length_formatPad {s : CStr} : (formatPad spec s).length = max spec.width s.length := by
  unfold formatPad
  grind

theorem formatPad_of_le {s : CStr} (h : spec.width ≤ s.length) : formatPad spec s = s := by
  have hpad : spec.width - s.length = 0 := by omega
  simp [formatPad, hpad]

theorem getLast?_standardField : (standardField spec (standardSign v) (cstrNat n)).getLast? ≠ some (cchar '-') := by
  have hend {a b : CStr} (hb : b ≠ []) (hnot : cchar '-' ∉ b) : (a ++ b).getLast? ≠ some (cchar '-') := by
    rw [List.getLast?_append_of_ne_nil a hb]
    exact fun h => hnot (List.mem_of_getLast? h)
  have hdigits := cstrNat_ne_nil n
  unfold standardField
  split
  · exact hend (by simp [hdigits]) (by simp [not_mem_digits, minus_padding])
  · split <;> exact hend hdigits not_mem_digits

theorem behind_zeros (hv : v < 0) (hleft : spec.leftAlign = false) (hzero : spec.padZero = true)
    (hwidth : (cstrNat v.natAbs).length + 1 < spec.width) :
    Behind (cchar '-') (standardField spec (standardSign v) (cstrNat v.natAbs)) (formatPad spec (itoa v)) := by
  have hlen : (standardField spec (standardSign v) (cstrNat v.natAbs)).length = (formatPad spec (itoa v)).length := by
    rw [length_standardField, length_formatPad, itoa_eq, List.length_append]
  have hfront : spec.width - (standardSign v ++ cstrNat v.natAbs).length =
      spec.width - ((cstrNat v.natAbs).length + 2) + 1 := by
    rw [List.length_append, length_standardSign, if_pos hv]
    omega
  have hne : standardField spec (standardSign v) (cstrNat v.natAbs) ≠ formatPad spec (itoa v) := by
    rw [itoa_eq]
    unfold standardField formatPad
    rw [hfront, standardSign, if_pos hv]
    simp [hleft, hzero, List.replicate_succ, minus_padding]
  refine ⟨hne, fun hnil => ?_, getLast?_standardField, fun h => by omega⟩
  rw [hnil, List.length_nil, length_formatPad] at hlen
  omega

/-- A number that is cut to another one of at most ten digits is behind. -/
theorem behind_range (hne : v ≠ k) (hv : 10 ^ 9 ≤ v.natAbs) (hk : k.natAbs < 10 ^ 10) :
    Behind (cchar '-') (standardField spec (standardSign v) (cstrNat v.natAbs)) (formatPad spec (itoa k)) := by
  have hvlen : 9 < (cstrNat v.natAbs).length := by
    rw [cstrNat_eq, List.length_map, ← Nat.not_le, Nat.length_toDigits_le_iff (by decide) (by decide)]
    omega
  have hklen : (cstrNat k.natAbs).length ≤ 10 := length_cstrNat_le (by decide) hk
  have hlen := @length_standardField spec v v.natAbs
  refine ⟨standardField_ne hne, fun hnil => ?_, getLast?_standardField, fun hlonger => ?_⟩
  · rw [hnil, List.length_nil] at hlen
    omega
  · rw [length_formatPad, itoa_eq, List.length_append, hlen, length_standardSign, length_standardSign] at hlonger
    have hvpos : ¬ v < 0 := fun h => by
      rw [if_pos h] at hlonger
      split at hlonger <;> omega
    have hkneg : k < 0 := by
      by_contra h
      rw [if_neg h] at hlonger
      omega
    rw [if_neg hvpos, if_pos hkneg] at hlonger
    have hsign : itoa k = cchar '-' :: cstrNat k.natAbs := by
      rw [itoa_eq, standardSign, if_pos hkneg]
      rfl
    have hcode : formatPad spec (itoa k) = itoa k := formatPad_of_le (by
      rw [hsign, List.length_cons]
      omega)
    have hstandard : standardField spec (standardSign v) (cstrNat v.natAbs) = cstrNat v.natAbs := by
      rw [show standardSign v = [] from if_neg hvpos, standardField_nil, formatPad_of_le (by omega)]
    rw [hcode, hstandard, hsign]
    refine ⟨?_, rfl, fun hhead => not_mem_digits (List.mem_of_head? hhead)⟩
    rw [List.length_cons]
    omega

end Field

/-! ## Where the two agree -/

section Agreement

variable {p : FormatPiece} {pieces : List FormatPiece}

theorem meaning_leftAlign {spec : PieceSpec} {isLong : Bool} (h : (spec.meaning isLong).padZero = true) :
    (spec.meaning isLong).leftAlign = false := by
  simp [PieceSpec.meaning] at h ⊢
  exact h.2

/-- Cutting to `int` changes only what is out of its range. -/
theorem standardSigned_eq_or (length : FormatLength) (value : UInt64) :
    standardSigned length value = cInt value.toNat ∨ 10 ^ 9 ≤ (standardSigned length value).natAbs := by
  have hlt := value.toNat_lt
  unfold standardSigned cInt
  split <;> [split; skip] <;> omega

theorem cInt_natAbs_lt (n : Nat) : (cInt n).natAbs < 10 ^ 10 := by
  unfold cInt
  split <;> omega

theorem standardChar_eq {spec : FormatSpec} {c : UInt8} (hzero : spec.padZero = false) (hc : c ≠ 0) :
    standardChar spec c = strBytes (formatPad spec (bytesCstr [c])) := by
  have hs : bytesCstr [c] = [⟨c, hc⟩] := by simp [bytesCstr, hc]
  have hspace : (cchar ' ').val = 0x20 := rfl
  rw [hs]
  unfold standardChar formatPad
  split <;> simp [strBytes, hzero, hspace]

theorem zero_mem_standardChar (spec : FormatSpec) : 0 ∈ standardChar spec 0 := by
  unfold standardChar
  split <;> simp

theorem standardNumber_signed {spec : FormatSpec} {length : FormatLength} {conversion : NumberConversion}
    {value : UInt64}
    (h : conversion = .d ∨ conversion = .i) :
    standardNumber spec length conversion value =
        standardField spec (standardSign (standardSigned length value)) (cstrNat (standardSigned length value).natAbs) ∧
      writtenNumber length conversion value = itoa (cInt value.toNat) := by
  obtain rfl | rfl := h <;> exact ⟨by rw [cstrNat_eq]; rfl, rfl⟩

theorem standard_eq (h : ¬ p.Diverges) : p.standard = strBytes p.written := by
  cases p with
  | plain c hc => rfl
  | percent => rfl
  | text spec hzero s => rw [FormatPiece.standard, FormatPiece.written, standardField_nil]
  | char spec hzero value => exact standardChar_eq (by simp [PieceSpec.meaning, hzero]) h
  | number spec length conversion value =>
      rw [FormatPiece.standard, FormatPiece.written]
      congr 1
      by_cases hsigned : conversion = .d ∨ conversion = .i
      · obtain ⟨hstandard, hwritten⟩ :=
            @standardNumber_signed (spec.meaning length.isLong) length conversion value hsigned
        rw [FormatPiece.Diverges, not_and, not_or, not_not] at h
        obtain ⟨hint, hzeros⟩ := h hsigned
        rw [hstandard, hwritten, ← hint]
        refine standardField_number fun hneg hzero => ?_
        rw [cstrNat_eq, List.length_map]
        by_contra hwide
        exact hzeros ⟨hneg, hzero, by rw [utoa, List.length_map]; omega⟩
      · cases conversion with
        | d => exact absurd (.inl rfl) hsigned
        | i => exact absurd (.inr rfl) hsigned
        | u => exact standardField_nil _ _
        | x => exact standardField_nil _ _

theorem zero_mem_or_behind (h : p.Diverges) : 0 ∈ p.standard ∨ Behind 0x2d p.standard (strBytes p.written) := by
  cases p with
  | plain c hc => exact h.elim
  | percent => exact h.elim
  | text spec hzero s => exact h.elim
  | char spec hzero value =>
      have hvalue : value.toUInt8 = 0 := h
      left
      rw [FormatPiece.standard, hvalue]
      exact zero_mem_standardChar _
  | number spec length conversion value =>
      right
      obtain ⟨hsigned, hcase⟩ := h
      obtain ⟨hstandard, hwritten⟩ :=
          @standardNumber_signed (spec.meaning length.isLong) length conversion value hsigned
      rw [FormatPiece.standard, FormatPiece.written, hstandard, hwritten]
      refine Behind.map (x := cchar '-') Subtype.val_injective ?_
      by_cases hint : standardSigned length value = cInt value.toNat
      · obtain hne | ⟨hneg, hzero, hwide⟩ := hcase
        · exact absurd hint hne
        · rw [← hint]
          refine behind_zeros hneg (meaning_leftAlign hzero) hzero ?_
          rwa [cstrNat_eq]
      · exact behind_range hint ((standardSigned_eq_or length value).resolve_left hint) (cInt_natAbs_lt _)

/-- The whole text is the standard's, or begins like it, only if no piece diverges. -/
theorem not_diverges (h : pieces.flatMap FormatPiece.standard <+: strBytes (pieces.flatMap FormatPiece.written)) :
    ∀ p ∈ pieces, ¬ p.Diverges := by
  have hwritten : strBytes (pieces.flatMap FormatPiece.written) = pieces.flatMap fun p => strBytes p.written := by
    rw [strBytes, List.map_flatMap]
    rfl
  rw [hwritten] at h
  -- no string has a byte 0
  have hzero : ∀ p ∈ pieces, 0 ∉ p.standard := fun p hp hmem => by
    obtain ⟨q, -, hq⟩ := List.mem_flatMap.mp (h.subset (List.mem_flatMap.mpr ⟨p, hp, hmem⟩))
    obtain ⟨c, -, hc⟩ := List.mem_map.mp hq
    exact c.property hc
  have hequal := eq_of_flatMap_begins (x := 0x2d) (fun p hp => by
    by_cases hdiverges : p.Diverges
    · exact .inr ((zero_mem_or_behind hdiverges).resolve_left (hzero p hp))
    · exact .inl (standard_eq hdiverges)) h
  intro p hp hdiverges
  exact ((zero_mem_or_behind hdiverges).resolve_left (hzero p hp)).ne (hequal p hp)

theorem strBytes_written (h : ∀ p ∈ pieces, ¬ p.Diverges) :
    strBytes (pieces.flatMap FormatPiece.written) = pieces.flatMap FormatPiece.standard := by
  rw [strBytes, List.map_flatMap]
  exact List.flatMap_congr fun p hp => (standard_eq (h p hp)).symm

/-- What `snprintf` leaves and returns. -/
theorem snprintfInto_pieces (str : List UInt8) (size : Nat) (pieces : List FormatPiece) :
    snprintfInto str size (pieces.flatMap FormatPiece.source) (pieces.flatMap FormatPiece.args) =
      some (if size = 0 then str else strBytes ((pieces.flatMap FormatPiece.written).take (size - 1)) ++
          0 :: str.drop (((pieces.flatMap FormatPiece.written).take (size - 1)).length + 1),
        cInt ((pieces.flatMap FormatPiece.written).take (size - 1)).length) := by
  rw [snprintfInto, (formats_pieces pieces).snprintf_eq]
  by_cases hsize : size = 0
  · simp [hsize, cInt]
  · simp only [if_neg hsize, Option.map_some]

theorem drop_snprintfInto {str : List UInt8} {size : Nat} {text : CStr} (h : text.length ≤ size - 1)
    (hsize : size ≠ 0) :
    (strBytes text ++ 0 :: str.drop (text.length + 1)).drop size = str.drop size := by
  obtain ⟨k, rfl⟩ : ∃ k, size = text.length + 1 + k := ⟨size - (text.length + 1), by omega⟩
  rw [← List.drop_drop, ← List.drop_drop, ← length_strBytes (s := text)]
  simp

end Agreement

/-- `snprintf` reads no format past its end and writes nothing beyond the array.  It leaves and returns
what the standard asks for exactly if the whole text fits, its length is an `int`, and no piece diverges. -/
theorem snprintf_standard_iff (str : List UInt8) (size : Nat) (pieces : List FormatPiece) :
    (∃ memory value, snprintfInto str size (pieces.flatMap FormatPiece.source) (pieces.flatMap FormatPiece.args) =
        some (memory, value) ∧ memory.drop size = str.drop size) ∧
    (SnprintfStandard str size pieces ↔
      (pieces.flatMap FormatPiece.standard).length ≤ size - 1 ∧
        (pieces.flatMap FormatPiece.standard).length < 2 ^ 31 ∧ ∀ p ∈ pieces, ¬ p.Diverges) := by
  have hcode := snprintfInto_pieces str size pieces
  have hroom := List.length_take_le (size - 1) (pieces.flatMap FormatPiece.written)
  refine ⟨⟨_, _, hcode, ?_⟩, ?_⟩
  · split
    next => rfl
    next hsize => exact drop_snprintfInto hroom hsize
  · rw [SnprintfStandard, hcode, Option.some.injEq, Prod.mk.injEq]
    constructor
    · rintro ⟨hmemory, hvalue⟩
      -- the value is at most what was written
      have hint : cInt ((pieces.flatMap FormatPiece.written).take (size - 1)).length ≤
          ((pieces.flatMap FormatPiece.written).take (size - 1)).length := by
        unfold cInt
        split <;> omega
      have hsmall : cInt ((pieces.flatMap FormatPiece.written).take (size - 1)).length < 2 ^ 31 := by
        unfold cInt
        split <;> omega
      have hle : (pieces.flatMap FormatPiece.standard).length ≤
          ((pieces.flatMap FormatPiece.written).take (size - 1)).length := by omega
      have hfits : (pieces.flatMap FormatPiece.standard).length ≤ size - 1 := by omega
      have hwritten : strBytes ((pieces.flatMap FormatPiece.written).take (size - 1)) <+:
          strBytes (pieces.flatMap FormatPiece.written) := (List.take_prefix _ _).map _
      refine ⟨hfits, by omega, not_diverges (.trans ?_ hwritten)⟩
      by_cases hsize : size = 0
      · rw [hsize, Nat.zero_sub, Nat.le_zero, List.length_eq_zero_iff] at hfits
        rw [hfits]
        exact List.nil_prefix
      · rw [if_neg hsize, if_neg hsize, List.take_of_length_le hfits] at hmemory
        refine List.prefix_of_prefix_length_le (List.prefix_append _ _) (hmemory ▸ List.prefix_append _ _) ?_
        rwa [length_strBytes]
    · rintro ⟨hfits, hlength, hpieces⟩
      have hbytes := strBytes_written hpieces
      have hlen : (pieces.flatMap FormatPiece.written).length = (pieces.flatMap FormatPiece.standard).length := by
        rw [← hbytes, length_strBytes]
      rw [List.take_of_length_le (by omega), List.take_of_length_le hfits, hbytes, hlen]
      refine ⟨rfl, ?_⟩
      unfold cInt
      split <;> omega

/-- Of two characters one fits, and the value does not say so. -/
theorem snprintf_cut :
    ¬ SnprintfStandard [7, 7, 7] 2 [.text ⟨[], [], by simp, by simp, by simp⟩ (by simp) [cchar 'a', cchar 'b']] := by
  rw [SnprintfStandard, snprintfInto_pieces]
  decide

end Orizon
