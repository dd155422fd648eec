import Orizon.System.Text

/-!
# Orizon.System.Printf

The formatter `snprintf` of `lib/string.c`.

It stops when the array is full, and returns how much it has written.  The value it returns is
less than the size whatever the text would have been (`length_snprintf_lt`), so that a caller
does not learn from it that the text was cut.

`Formats format args text` says what a format expands to; then the formatter writes what of
`text` the array holds (`Formats.snprintf_eq`).
-/

namespace Orizon

/-! ## The code -/

/-- An argument behind the format. -/
inductive FormatArg
  | word (value : UInt64)
  | text (s : Option CStr)
deriving DecidableEq

/-- What stands between `%` and the conversion. -/
structure FormatSpec where
  leftAlign : Bool
  padZero : Bool
  width : Nat
  isLong : Bool
deriving DecidableEq, Repr

/-- `-` or `0`. -/
def isFormatFlag (c : CChar) : Bool := c = cchar '-' ∨ c = cchar '0'

/-- The length modifier and what follows it. -/
def formatLong (format : CStr) : Bool × CStr :=
  match format with
  | c :: rest =>
      if c = cchar 'l' then
        match rest with
        | d :: rest => if d = cchar 'l' then (true, rest) else (true, d :: rest)
        | [] => (true, [])
      else (false, c :: rest)
  | [] => (false, [])

/-- Flags, width and length modifier. -/
def formatSpec (format : CStr) : FormatSpec × CStr :=
  let flags := format.takeWhile isFormatFlag
  let rest := format.dropWhile isFormatFlag
  let long := formatLong (rest.dropWhile isDecimal)
  ({ leftAlign := cchar '-' ∈ flags
     padZero := cchar '0' ∈ flags ∧ cchar '-' ∉ flags
     width := decimalValue (rest.takeWhile isDecimal)
     isLong := long.1 }, long.2)

/-- `utoa`. -/
def utoa (value base : Nat) : CStr := (Nat.toDigits base value).map cchar

/-- `itoa` in base 10. -/
def itoa (value : Int) : CStr := if value < 0 then cchar '-' :: utoa value.natAbs 10 else utoa value.natAbs 10

/-- An unsigned argument, read as `unsigned long` or `unsigned int`. -/
def formatUnsigned (isLong : Bool) (value : UInt64) : Nat := if isLong then value.toNat else value.toNat % 2 ^ 32

/-- The text of a conversion and the arguments it leaves; `none` if there is no argument of its kind. -/
def formatConversion (isLong : Bool) (c : CChar) (args : List FormatArg) : Option (CStr × List FormatArg) :=
  if c = cchar 'd' ∨ c = cchar 'i' then
    match args with
    | .word value :: args => some (itoa (cInt value.toNat), args)
    | _ => none
  else if c = cchar 'u' then
    match args with
    | .word value :: args => some (utoa (formatUnsigned isLong value) 10, args)
    | _ => none
  else if c = cchar 'x' ∨ c = cchar 'X' then
    match args with
    | .word value :: args => some (utoa (formatUnsigned isLong value) 16, args)
    | _ => none
  else if c = cchar 's' then
    match args with
    | .text s :: args => some (s.getD (cstr "(null)"), args)
    | _ => none
  else if c = cchar 'c' then
    match args with
    | .word value :: args => some (bytesCstr [value.toUInt8], args)
    | _ => none
  else if c = cchar '%' then some ([cchar '%'], args)
  else some ([cchar '%', c], args)

/-- The text of a conversion in its width. -/
def formatPad (spec : FormatSpec) (s : CStr) : CStr :=
  if spec.leftAlign then s ++ List.replicate (spec.width - s.length) (cchar ' ')
  else List.replicate (spec.width - s.length) (if spec.padZero then cchar '0' else cchar ' ') ++ s

theorem length_formatLong_le (format : CStr) : (formatLong format).2.length ≤ format.length := by
  unfold formatLong
  grind

theorem length_formatSpec_le (format : CStr) : (formatSpec format).2.length ≤ format.length := by
  refine (length_formatLong_le _).trans ?_
  exact ((List.dropWhile_suffix _).trans (List.dropWhile_suffix _)).length_le

/-- The loop of `snprintf` with room for so many characters.  `none`: an argument is missing, or
the format ends within a conversion. -/
def snprintfFrom (room : Nat) (format : CStr) (args : List FormatArg) : Option CStr :=
  match format with
  | [] => some []
  | c :: format =>
      if room = 0 then some []
      else if c = cchar '%' then
        match _hspec : (formatSpec format).2 with
        | [] => none
        | conversion :: rest =>
            match formatConversion (formatSpec format).1.isLong conversion args with
            | none => none
            | some (s, args) =>
                let put := (formatPad (formatSpec format).1 s).take room
                (snprintfFrom (room - put.length) rest args).map (put ++ ·)
      else (snprintfFrom (room - 1) format args).map (c :: ·)
termination_by format.length
decreasing_by
  · have hle := length_formatSpec_le format
    rw [_hspec] at hle
    simp at hle ⊢
    omega
  · simp

/-- `snprintf` to an array of `size` bytes: the text it leaves there.  It returns the length of it. -/
def snprintf (size : Nat) (format : CStr) (args : List FormatArg) : Option CStr :=
  if size = 0 then some [] else snprintfFrom (size - 1) format args

/-- `snprintf` to `str`, as the memory it leaves from there on and the value it returns. -/
def snprintfInto (str : List UInt8) (size : Nat) (format : CStr) (args : List FormatArg) :
    Option (List UInt8 × Int) :=
  if size = 0 then some (str, 0)
  else (snprintf size format args).map fun text =>
    (strBytes text ++ 0 :: str.drop (text.length + 1), cInt text.length)

/-! ## Its length -/

section Lemmas

variable {room size : Nat} {format lit text s : CStr} {args : List FormatArg}

theorem length_snprintfFrom_le (h : snprintfFrom room format args = some text) : text.length ≤ room := by
  fun_induction snprintfFrom room format args generalizing text with
  | case1 => simp_all
  | case2 => simp_all
  | case3 => cases h
  | case4 => cases h
  | case5 =>
      rename_i room _ _ _ _ _ _ _ _ _ put ih
      obtain ⟨tail, htail, rfl⟩ := Option.map_eq_some_iff.mp h
      have hput : put.length ≤ room := List.length_take_le _ _
      have hrest := ih htail
      rw [List.length_append]
      omega
  | case6 room args c format hroom hc ih =>
      obtain ⟨tail, htail, rfl⟩ := Option.map_eq_some_iff.mp h
      have hrest := ih htail
      rw [List.length_cons]
      omega

/-- What `snprintf` returns is less than the size, also where the text does not fit. -/
theorem length_snprintf_lt (hsize : 0 < size) (h : snprintf size format args = some text) : text.length < size := by
  rw [snprintf, if_neg (by omega)] at h
  have hle := length_snprintfFrom_le h
  omega

/-! ## What a format expands to -/

/-- With these arguments the format expands to the text. -/
def Formats (format : CStr) (args : List FormatArg) (text : CStr) : Prop :=
  ∀ room, snprintfFrom room format args = some (text.take room)

theorem Formats.nil : Formats [] args [] := fun room => by
  rw [snprintfFrom, List.take_nil]

theorem Formats.char {c : CChar} (hc : c ≠ cchar '%') (h : Formats format args text) :
    Formats (c :: format) args (c :: text) := fun room => by
  rw [snprintfFrom, if_neg hc, h (room - 1)]
  cases room with
  | zero => rfl
  | succ room => rfl

theorem Formats.literal (hlit : cchar '%' ∉ lit) (h : Formats format args text) :
    Formats (lit ++ format) args (lit ++ text) := by
  induction lit with
  | nil => exact h
  | cons c lit ih =>
      rw [List.mem_cons, not_or] at hlit
      exact (ih hlit.2).char (Ne.symm hlit.1)

theorem snprintfFrom_conversion {spec : FormatSpec} {conversion : CChar} {rest : CStr} {left : List FormatArg}
    (hroom : room ≠ 0) (hspec : formatSpec format = (spec, conversion :: rest))
    (hconv : formatConversion spec.isLong conversion args = some (s, left)) :
    snprintfFrom room (cchar '%' :: format) args =
      (snprintfFrom (room - ((formatPad spec s).take room).length) rest left).map
        ((formatPad spec s).take room ++ ·) := by
  rw [snprintfFrom, if_neg hroom, if_pos rfl]
  split
  next hnil => simp [hspec] at hnil
  next c tail htail =>
    rw [hspec, List.cons.injEq] at htail
    obtain ⟨rfl, rfl⟩ := htail
    simp only [hspec, hconv]

theorem Formats.conversion {spec : FormatSpec} {conversion : CChar} {rest : CStr} {left : List FormatArg}
    (hspec : formatSpec format = (spec, conversion :: rest))
    (hconv : formatConversion spec.isLong conversion args = some (s, left)) (h : Formats rest left text) :
    Formats (cchar '%' :: format) args (formatPad spec s ++ text) := fun room => by
  by_cases hroom : room = 0
  · rw [snprintfFrom, if_pos hroom, hroom, List.take_zero]
  · rw [snprintfFrom_conversion hroom hspec hconv, h, Option.map_some, List.take_append]
    congr 2
    grind

/-- `%s`. -/
theorem Formats.string (h : Formats format args text) :
    Formats (cchar '%' :: cchar 's' :: format) (.text (some s) :: args) (s ++ text) := by
  have hspec : formatSpec (cchar 's' :: format) = (⟨false, false, 0, false⟩, cchar 's' :: format) := rfl
  have hpad : formatPad ⟨false, false, 0, false⟩ s = s := by simp [formatPad]
  have hconv : formatConversion false (cchar 's') (.text (some s) :: args) = some (s, args) := rfl
  have hout := Formats.conversion hspec hconv h
  rwa [hpad] at hout

theorem Formats.snprintf_eq (h : Formats format args text) (size : Nat) :
    snprintf size format args = some (text.take (size - 1)) := by
  unfold snprintf
  split
  next hsize => simp [hsize]
  next => exact h _

end Lemmas

end Orizon
