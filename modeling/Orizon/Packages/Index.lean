import Mathlib.Data.List.DropRight
import Orizon.Lib.Lines
import Orizon.System.Text

/-!
# Orizon.Packages.Index

The line reader of `system/packages.c`, through which all its texts are read: a line is cut to fit
the caller's array, loses its carriage returns at the end, and is then used as a string, so it
ends at a NUL.

The two parsers of the package index: `parse_package_index` of `system/update.c`, which the
updater trusts, and `pkg_validate_remote_index` of `system/packages.c`, which reports on the
cached copy.

They read a package line alike where both read it: a line that the package manager takes is read
as the same entry by the updater (`parsePackageIndexLine_of_remote`).  They differ in which lines
they read (`packageIndex_agree_iff`).
-/

namespace Orizon

/-! ## The line reader -/

section Reader

/-- `PKG_MAX_BYTES`. -/
def pkgMaxBytes : Nat := 48 * 1024

/-- `PKG_MAX_LINE`. -/
def pkgMaxLine : Nat := 768

/-- `'\n'` as a byte. -/
def isNewline (c : UInt8) : Bool := c = 0x0a

/-- What `reader_line` keeps of a line, in `line[PKG_MAX_LINE]`. -/
def readerText (piece : List UInt8) : List UInt8 := (piece.take (pkgMaxLine - 1)).rdropWhile (· = 0x0d)

/-- `reader_line`: the line as a string, and the text behind it. -/
def readerLine (data : List UInt8) : Option (CStr × List UInt8) :=
  if data = [] then none
  else
    let piece := data.takeWhile (!isNewline ·)
    some (bytesCstr (readerText piece), data.drop (piece.length + 1))

variable {data rest : List UInt8} {line : CStr}

/-- The lines that a loop of `reader_line` sees. -/
def readerLines (data : List UInt8) : List CStr := (lines isNewline data).map fun piece => bytesCstr (readerText piece)

theorem readerLines_eq (data : List UInt8) :
    readerLines data = match readerLine data with
      | none => []
      | some (line, rest) => line :: readerLines rest := by
  unfold readerLine readerLines
  by_cases hdata : data = []
  · simp [hdata]
  · rw [if_neg hdata, lines_step hdata, List.map_cons]

/-! ## Strings -/

/-- What the reader keeps of a line of a string. -/
def lineView (line : CStr) : CStr := (line.take (pkgMaxLine - 1)).rdropWhile (· = cchar '\r')

/-- The lines of a string. -/
def cstrLines (text : CStr) : List CStr := lines (· = cchar '\n') text

theorem rdropWhile_map {α β : Type} {f : α → β} {p : β → Bool} (l : List α) :
    (l.map f).rdropWhile p = (l.rdropWhile fun a => p (f a)).map f := by
  rw [List.rdropWhile, List.rdropWhile, ← List.map_reverse, List.dropWhile_map, List.map_reverse]
  rfl

theorem cchar_eq_iff {c d : CChar} : c = d ↔ c.val = d.val := Subtype.ext_iff

theorem readerText_strBytes (line : CStr) : readerText (strBytes line) = strBytes (lineView line) := by
  rw [readerText, strBytes, ← List.map_take, rdropWhile_map, lineView, strBytes]
  simp only [cchar_eq_iff]
  rfl

theorem readerLines_strBytes (text : CStr) : readerLines (strBytes text) = (cstrLines text).map lineView := by
  have hnewline : ∀ c : CChar, isNewline c.val = decide (c = cchar '\n') := by
    intro c
    rw [isNewline, Bool.eq_iff_iff, decide_eq_true_eq, decide_eq_true_eq, cchar_eq_iff]
    rfl
  rw [readerLines, strBytes, lines_map hnewline, List.map_map, cstrLines]
  refine List.map_congr_left fun line _ => ?_
  exact (congrArg bytesCstr (readerText_strBytes line)).trans (bytesCstr_strBytes _)

theorem prefix_rdropWhile {α : Type} {p : α → Bool} {pre l : List α} {c : α} (h : pre ++ [c] <+: l) (hc : p c = false) :
    pre ++ [c] <+: l.rdropWhile p := by
  by_cases hlen : (pre ++ [c]).length ≤ (l.rdropWhile p).length
  · exact List.prefix_of_prefix_length_le h (List.rdropWhile_prefix p l) hlen
  · -- otherwise the character would be among those that are dropped
    obtain ⟨t, ht⟩ := List.prefix_of_prefix_length_le (List.rdropWhile_prefix p l) h (by omega)
    rw [← @List.rdropWhile_append_rtakeWhile _ p l, ← ht, List.prefix_append_right_inj] at h
    obtain rfl | ⟨t', d, rfl⟩ := List.eq_nil_or_concat t
    · rw [List.append_nil] at ht
      rw [← ht] at hlen
      omega
    · rw [List.concat_eq_append, ← List.append_assoc] at ht
      obtain ⟨-, hd⟩ := List.append_inj' ht rfl
      obtain rfl : d = c := by simpa using hd
      have hmem : d ∈ l.rtakeWhile p := h.subset (by simp)
      rw [List.mem_rtakeWhile_imp hmem] at hc
      cases hc

/-- A line that fits is its view and the carriage returns behind it. -/
theorem lineView_append {line : CStr} (h : line.length < pkgMaxLine) :
    ∃ tail, line = lineView line ++ tail ∧ ∀ c ∈ tail, c = cchar '\r' := by
  refine ⟨line.rtakeWhile (· = cchar '\r'), ?_, fun c hc => by simpa using List.mem_rtakeWhile_imp hc⟩
  rw [lineView, List.take_of_length_le (by omega), List.rdropWhile_append_rtakeWhile]

theorem lineView_isPrefix (line : CStr) : lineView line <+: line :=
  (List.rdropWhile_prefix _ _).trans (List.take_prefix _ _)

end Reader

/-! ## Tokens -/

/-- A character that ends a token. -/
def isTokenEnd (c : CChar) : Bool := isBlank c || isLineEnd c

/-- `pkg_copy_token` into an array of `size` bytes: the token and the text behind it. -/
def pkgCopyToken (size : Nat) (p : CStr) : Option (CStr × CStr) :=
  let p := p.dropWhile isBlank
  let token := p.takeWhile (!isTokenEnd ·)
  if token.length = 0 ∨ token.length ≥ size then none else some (token, p.drop token.length)

/-- `copy_token` of `system/update.c`; its text is `pkg_copy_token`'s. -/
def copyToken (size : Nat) (p : CStr) : Option (CStr × CStr) := pkgCopyToken size p

/-- `pkg_starts_with`. -/
def pkgStartsWith (s pre : CStr) : Bool := strncmpEq s pre pre.length

/-- A letter or a digit. -/
def isAlphanumeric (c : CChar) : Bool :=
  (0x61 ≤ c.val && c.val ≤ 0x7a) || (0x41 ≤ c.val && c.val ≤ 0x5a) || (0x30 ≤ c.val && c.val ≤ 0x39)

/-- `pkg_name_safe`. -/
def pkgNameSafe (name : CStr) : Bool :=
  name.all (fun c => isAlphanumeric c || c = cchar '-' || c = cchar '_' || c = cchar '.') && !name.isEmpty

/-- `package_name_safe` of `system/update.c`; its text is `pkg_name_safe`'s. -/
def packageNameSafe (name : CStr) : Bool := pkgNameSafe name

/-- `pkg_version_safe`. -/
def pkgVersionSafe (version : CStr) : Bool :=
  version.all (fun c => isAlphanumeric c || c = cchar '-' || c = cchar '_' || c = cchar '.' || c = cchar '+' ||
    c = cchar ':' || c = cchar '*') && !version.isEmpty

/-- A hexadecimal digit. -/
def isHexDigit (c : CChar) : Bool :=
  (0x30 ≤ c.val && c.val ≤ 0x39) || (0x61 ≤ c.val && c.val ≤ 0x66) || (0x41 ≤ c.val && c.val ≤ 0x46)

/-- `hex_is_valid`. -/
def hexIsValid (hex : CStr) : Bool := hex.length == 64 && hex.all isHexDigit

/-- `sha256_text_valid` of `system/update.c`; its text is `hex_is_valid`'s. -/
def sha256TextValid (text : CStr) : Bool := hexIsValid text

/-! ## Paths and sizes -/

/-- Two dots one behind the other, for which both parsers look. -/
def hasDotDot (path : CStr) : Bool := strstrFound path (cstr "..")

/-- `pkg_remote_path_safe`. -/
def pkgRemotePathSafe (path : CStr) : Bool :=
  !(path.head? = some slash || !strncmpEq path (cstr "packages/x86_64/") 16) &&
    !(path.length ≤ 5 || path.drop (path.length - 5) ≠ cstr ".opkg") &&
    !(path.any isTokenEnd || hasDotDot path)

/-- `package_path_safe` of `system/update.c`. -/
def packagePathSafe (path : CStr) : Bool :=
  !(path.head? = some slash || !strstrFound path (cstr ".opkg") || !strncmpEq path (cstr "packages/x86_64/") 16) &&
    !hasDotDot path

/-- `pkg_parse_size_value`; `none` is -1. -/
def pkgParseSizeValue (text : CStr) : Option Nat := do
  let digits := (text.dropWhile isBlank).takeWhile (!isTokenEnd ·)
  let value ← digits.foldlM (fun value c =>
    if isDecimal c then
      let value := value * 10 + (c.val.toNat - 0x30)
      if value > pkgMaxBytes then none else some value
    else none) 0
  if digits = [] ∨ value = 0 then none else some value

/-- `parse_size_value` of `system/update.c`; a `size_t` wraps. -/
def parseSizeValue (text : CStr) : Option Nat :=
  let digits := text.takeWhile isDecimal
  let value := digits.foldl (fun value c => (value * 10 + (c.val.toNat - 0x30)) % 2 ^ 64) 0
  let ends := match (text.drop digits.length).head? with
    | none => true
    | some c => isLineEnd c || c = cchar ' '
  if digits = [] ∨ !ends then none else some value

/-! ## Lines -/

/-- An entry of the index. -/
structure IndexEntry where
  name : CStr
  version : CStr
  path : CStr
  size : Nat
  sha256 : CStr
  deriving DecidableEq

/-- `parse_remote_index_line`; `none` is -1. -/
def parseRemoteIndexLine (line : CStr) : Option IndexEntry := do
  if !pkgStartsWith line (cstr "package ") then none
  else
    let (name, p) ← pkgCopyToken 64 (line.drop 8)
    let (version, p) ← pkgCopyToken 64 p
    let (path, p) ← pkgCopyToken 160 p
    let (sizeText, p) ← pkgCopyToken 32 p
    let size ← pkgParseSizeValue sizeText
    let (sha256, p) ← pkgCopyToken 65 p
    if !pkgNameSafe name || !pkgVersionSafe version || !pkgRemotePathSafe path || !hexIsValid sha256 then none
    else if p.dropWhile isBlank ≠ [] then none
    else some ⟨name, version, path, size, sha256⟩

/-- `UPDATE_PACKAGE_MAX`. -/
def updatePackageMax : Nat := 48 * 1024

/-- `parse_package_index_line` of `system/update.c`; `none` is -1. -/
def parsePackageIndexLine (line : CStr) : Option IndexEntry := do
  let (name, p) ← copyToken 64 (line.drop 8)
  let (version, p) ← copyToken 64 p
  let (path, p) ← copyToken 180 p
  let (sizeText, p) ← copyToken 32 p
  let size ← parseSizeValue sizeText
  let (sha256, _) ← copyToken 65 p
  if !packageNameSafe name || !packagePathSafe path || version.isEmpty || size = 0 || size > updatePackageMax ||
      !sha256TextValid sha256 then none
  else some ⟨name, version, path, size, sha256⟩

/-! ## The updater -/

/-- `UPDATE_PACKAGE_MAX_ENTRIES`. -/
def updatePackageMaxEntries : Nat := 16

/-- The updater parses the line: it fits `copy[320]` and begins like a package line. -/
def isPackageLine (line : CStr) : Bool :=
  0 < line.length && line.length < 320 && (8 < line.length && strncmpEq line (cstr "package ") 8)

/-- One line in the loop of `parse_package_index`. -/
def packageIndexStep (entries : List IndexEntry) (line : CStr) : Option (List IndexEntry) :=
  if isPackageLine line then
    if entries.length ≥ updatePackageMaxEntries then none
    else (parsePackageIndexLine line).map fun entry => entries ++ [entry]
  else some entries

/-- The loop of `parse_package_index` from `p` on. -/
def packageIndexLoop (entries : List IndexEntry) (p : CStr) : Option (List IndexEntry) :=
  if p = [] then some entries
  else
    let line := p.takeWhile fun c => !decide (c = cchar '\n')
    match packageIndexStep entries line with
    | none => none
    | some entries => packageIndexLoop entries (p.drop (line.length + 1))
termination_by p.length
decreasing_by
  have hpos := List.length_pos_of_ne_nil ‹¬ p = []›
  rw [List.length_drop]
  omega

/-- `parse_package_index`; `none` is -1. -/
def parsePackageIndex (text : CStr) : Option (List IndexEntry) :=
  if !strstrFound text (cstr "index-version 1") || !strstrFound text (cstr "os Orizon OS") then none
  else packageIndexLoop [] text

/-! ## The package manager -/

/-- `PKG_MAX_REMOTE_ENTRIES`. -/
def pkgMaxRemoteEntries : Nat := 32

/-- `pkg_remote_validation_t`, the names seen and the entries of the valid lines. -/
structure RemoteValidation where
  bytes : Nat
  totalLines : Nat
  validEntries : Nat
  invalidLines : Nat
  duplicateNames : Nat
  seenNames : List CStr
  entries : List IndexEntry

/-- One line in the loop of `pkg_validate_remote_index`. -/
def remoteIndexStep (v : RemoteValidation) (line : CStr) : RemoteValidation :=
  if line.head? = none ∨ line.head? = some (cchar '#') then v
  else
    let v := { v with totalLines := v.totalLines + 1 }
    match (if pkgStartsWith line (cstr "package ") then parseRemoteIndexLine line else none) with
    | none => { v with invalidLines := v.invalidLines + 1 }
    | some entry =>
        let v :=
          if entry.name ∈ v.seenNames then { v with duplicateNames := v.duplicateNames + 1 }
          else if v.seenNames.length < pkgMaxRemoteEntries then { v with seenNames := v.seenNames ++ [entry.name] }
          else { v with duplicateNames := v.duplicateNames + 1 }
        { v with validEntries := v.validEntries + 1, entries := v.entries ++ [entry] }

/-- `pkg_validate_remote_index` of the bytes that `pkg_read_file` returned: the result code and the
statistics. -/
def pkgValidateRemoteIndex (data : List UInt8) : Int × RemoteValidation :=
  let v : RemoteValidation := ⟨data.length, 0, 0, 0, 0, [], []⟩
  if data.length = 0 then (-1, v)
  else
    let v := (readerLines data).foldl remoteIndexStep v
    (if v.invalidLines > 0 ∨ v.duplicateNames > 0 then 1 else 0, v)

/-! ## One line -/

section Line

variable {size size' : Nat} {p token rest tail line text : CStr} {entry : IndexEntry}

/-- What a token is: it is not empty, it fits, and nothing in it ends it. -/
theorem pkgCopyToken_spec (h : pkgCopyToken size p = some (token, rest)) :
    token ≠ [] ∧ token.length < size ∧ (∀ c ∈ token, isTokenEnd c = false) ∧ p.dropWhile isBlank = token ++ rest := by
  unfold pkgCopyToken at h
  dsimp only at h
  split_ifs at h with hsize
  obtain ⟨htoken, hrest⟩ := Prod.mk.inj (Option.some.inj h)
  rw [not_or, htoken] at hsize
  refine ⟨fun hnil => hsize.1 (by rw [hnil]; rfl), by omega, ?_, ?_⟩
  · rw [← htoken]
    exact takeWhile_not_sep
  · rw [← hrest, htoken, ← htoken, drop_takeWhile, List.takeWhile_append_dropWhile]

theorem pkgCopyToken_mono (hle : size ≤ size') (h : pkgCopyToken size p = some (token, rest)) :
    pkgCopyToken size' p = some (token, rest) := by
  unfold pkgCopyToken at h ⊢
  dsimp only at h ⊢
  split_ifs at h with hsize
  rw [if_neg (by omega), h]

theorem pkgCopyToken_append (h : pkgCopyToken size p = some (token, rest)) (htail : ∀ c ∈ tail, c = cchar '\r') :
    pkgCopyToken size (p ++ tail) = some (token, rest ++ tail) := by
  obtain ⟨hne, hlen, hplain, hsplit⟩ := pkgCopyToken_spec h
  have htake : (p.dropWhile isBlank).takeWhile (!isTokenEnd ·) = token := by
    unfold pkgCopyToken at h
    dsimp only at h
    split_ifs at h
    exact (Prod.mk.inj (Option.some.inj h)).1
  have hdrop : (p ++ tail).dropWhile isBlank = token ++ (rest ++ tail) := by
    rw [List.dropWhile_append, hsplit, if_neg (by simp [hne]), List.append_assoc]
  have htoken : (token ++ (rest ++ tail)).takeWhile (!isTokenEnd ·) = token := by
    rw [hsplit, List.takeWhile_append_of_pos (by simpa using hplain)] at htake
    have hrest : rest.takeWhile (!isTokenEnd ·) = [] := List.append_right_eq_self.mp htake
    rw [List.takeWhile_append_of_pos (by simpa using hplain)]
    cases rest with
    | nil =>
        cases tail with
        | nil => simp
        | cons c tail =>
            obtain rfl := htail c (by simp)
            rw [List.nil_append, List.takeWhile_cons_of_neg (by decide), List.append_nil]
    | cons c rest =>
        have hc : isTokenEnd c = true := by
          by_contra hc
          rw [List.takeWhile_cons_of_pos (by simpa using hc)] at hrest
          cases hrest
        rw [List.cons_append, List.takeWhile_cons_of_neg (by simp [hc]), List.append_nil]
  have hsize : ¬ (token.length = 0 ∨ token.length ≥ size) := by
    have hpos := List.length_pos_of_ne_nil hne
    omega
  unfold pkgCopyToken
  dsimp only
  rw [hdrop, htoken, if_neg hsize, List.drop_left]

/-- A size that the package manager takes is a number of at most 48 KiB, which does not wrap. -/
theorem parseSizeValue_of_pkg {value : Nat} (hplain : ∀ c ∈ text, isTokenEnd c = false)
    (h : pkgParseSizeValue text = some value) :
    parseSizeValue text = some value ∧ value ≠ 0 ∧ value ≤ updatePackageMax := by
  have hfold : ∀ (digits : CStr) (acc : Nat), acc ≤ pkgMaxBytes → digits.foldlM (fun value c =>
      if isDecimal c then
        let value := value * 10 + (c.val.toNat - 0x30)
        if value > pkgMaxBytes then none else some value
      else none) acc = some value →
      (∀ c ∈ digits, isDecimal c = true) ∧ value ≤ pkgMaxBytes ∧
        digits.foldl (fun value c => (value * 10 + (c.val.toNat - 0x30)) % 2 ^ 64) acc = value := by
    intro digits
    induction digits with
    | nil =>
        intro acc hacc h
        obtain rfl := Option.some.inj h
        exact ⟨by simp, hacc, rfl⟩
    | cons c digits ih =>
        intro acc hacc h
        rw [List.foldlM_cons] at h
        dsimp only at h
        split_ifs at h with hc hbig
        · cases h
        · have hsmall : pkgMaxBytes < 2 ^ 64 := by decide
          obtain ⟨hall, hle, hvalue⟩ := ih _ (Nat.le_of_not_lt hbig) h
          refine ⟨by simpa [hc] using hall, hle, ?_⟩
          rw [List.foldl_cons, Nat.mod_eq_of_lt (by omega)]
          exact hvalue
        · cases h
  have hblank : text.dropWhile isBlank = text := by
    cases text with
    | nil => rfl
    | cons c text =>
        have hc := hplain c (by simp)
        rw [isTokenEnd, Bool.or_eq_false_iff] at hc
        rw [List.dropWhile_cons_of_neg (by simp [hc.1])]
  have hall : text.takeWhile (!isTokenEnd ·) = text := List.takeWhile_eq_self_iff.mpr (by simpa using hplain)
  rw [pkgParseSizeValue, hblank, hall] at h
  obtain ⟨v, hv, h⟩ := Option.bind_eq_some_iff.mp h
  split_ifs at h with hzero
  obtain rfl := Option.some.inj h
  obtain ⟨hdecimal, hle, hvalue⟩ := hfold text 0 (Nat.zero_le _) hv
  rw [not_or] at hzero
  have htake : text.takeWhile isDecimal = text := List.takeWhile_eq_self_iff.mpr hdecimal
  refine ⟨?_, hzero.2, hle⟩
  unfold parseSizeValue
  simp only [htake, hvalue, List.drop_length, List.head?_nil]
  rw [if_neg (by simpa using hzero.1)]

theorem packagePathSafe_of_remote {path : CStr} (h : pkgRemotePathSafe path = true) : packagePathSafe path = true := by
  simp only [pkgRemotePathSafe, packagePathSafe, Bool.and_eq_true, Bool.not_eq_true', Bool.or_eq_false_iff,
    decide_eq_false_iff_not, Bool.not_eq_false'] at h ⊢
  obtain ⟨⟨⟨hslash, hpre⟩, hlen, hsuffix⟩, -, hdots⟩ := h
  refine ⟨⟨⟨hslash, ?_⟩, hpre⟩, hdots⟩
  rw [strstrFound_iff]
  exact ⟨path.take (path.length - 5), [], by rw [List.append_nil, ← not_not.mp hsuffix, List.take_append_drop]⟩

/-- What the package manager takes as a package line, the updater reads as the same entry, also
with carriage returns behind it. -/
theorem parsePackageIndexLine_of_remote (h : parseRemoteIndexLine line = some entry)
    (htail : ∀ c ∈ tail, c = cchar '\r') :
    parsePackageIndexLine (line ++ tail) = some entry ∧ strncmpEq line (cstr "package ") 8 = true ∧ 8 < line.length := by
  unfold parseRemoteIndexLine at h
  split_ifs at h with hstart
  have hpre : strncmpEq line (cstr "package ") 8 = true := by simpa [pkgStartsWith, cstr] using hstart
  have hlen : 8 ≤ line.length := by
    have htake : line.take 8 = (cstr "package ").take 8 := by simpa [strncmpEq] using hpre
    have hlength := congrArg List.length htake
    rw [List.length_take] at hlength
    have height : ((cstr "package ").take 8).length = 8 := by decide
    omega
  obtain ⟨⟨name, p₁⟩, hname, h⟩ := Option.bind_eq_some_iff.mp h
  obtain ⟨⟨version, p₂⟩, hversion, h⟩ := Option.bind_eq_some_iff.mp h
  obtain ⟨⟨path, p₃⟩, hpath, h⟩ := Option.bind_eq_some_iff.mp h
  obtain ⟨⟨sizeText, p₄⟩, hsize, h⟩ := Option.bind_eq_some_iff.mp h
  obtain ⟨value, hvalue, h⟩ := Option.bind_eq_some_iff.mp h
  obtain ⟨⟨sha256, p₅⟩, hsha, h⟩ := Option.bind_eq_some_iff.mp h
  dsimp only at h
  split_ifs at h with hsafe hend
  obtain rfl := Option.some.inj h
  simp only [Bool.or_eq_true, Bool.not_eq_true', not_or, Bool.not_eq_false] at hsafe
  obtain ⟨⟨⟨hname', hversion'⟩, hpath'⟩, hsha'⟩ := hsafe
  obtain ⟨hvalue', hzero, hmax⟩ := parseSizeValue_of_pkg (pkgCopyToken_spec hsize).2.2.1 hvalue
  have hlong : 8 < line.length := by
    have hne := (pkgCopyToken_spec hname).1
    by_contra hshort
    rw [List.drop_of_length_le (by omega)] at hname
    have hsplit := (pkgCopyToken_spec hname).2.2.2
    simp [hne] at hsplit
  refine ⟨?_, hpre, hlong⟩
  unfold parsePackageIndexLine copyToken
  rw [List.drop_append_of_le_length hlen, pkgCopyToken_append hname htail, Option.bind_eq_bind, Option.bind_some]
  dsimp only
  rw [pkgCopyToken_append hversion htail, Option.bind_some]
  dsimp only
  rw [pkgCopyToken_append (pkgCopyToken_mono (by decide) hpath) htail, Option.bind_some]
  dsimp only
  rw [pkgCopyToken_append hsize htail, Option.bind_some]
  dsimp only
  rw [hvalue', Option.bind_eq_bind, Option.bind_some, pkgCopyToken_append hsha htail, Option.bind_some]
  dsimp only
  have hempty : version.isEmpty = false := by simpa using (pkgCopyToken_spec hversion).1
  simp [packageNameSafe, sha256TextValid, hname', packagePathSafe_of_remote hpath', hsha', hzero, hmax, hempty]

end Line

/-! ## The loops -/

section Loops

variable {ls : List CStr} {line text : CStr} {entries found : List IndexEntry}

theorem packageIndexLoop_eq (entries : List IndexEntry) (p : CStr) :
    packageIndexLoop entries p = (cstrLines p).foldlM packageIndexStep entries := by
  induction hlen : p.length using Nat.strong_induction_on generalizing p entries with
  | _ n ih =>
      subst hlen
      rw [packageIndexLoop]
      by_cases hp : p = []
      · rw [if_pos hp, hp]
        rfl
      · have hpos := List.length_pos_of_ne_nil hp
        rw [if_neg hp, cstrLines, lines_step hp, List.foldlM_cons]
        dsimp only
        cases packageIndexStep entries (p.takeWhile fun c => !decide (c = cchar '\n')) with
        | none => rfl
        | some entries => exact ih _ (by rw [List.length_drop]; omega) entries _ rfl

/-- The lines that the updater parses. -/
def packageLines (ls : List CStr) : List CStr := ls.filter isPackageLine

/-- The updater parses each of its lines, and keeps the entries if they are not too many. -/
theorem foldlM_packageIndexStep (hroom : entries.length ≤ updatePackageMaxEntries) :
    ls.foldlM packageIndexStep entries = some found ↔
      (∀ line ∈ packageLines ls, (parsePackageIndexLine line).isSome) ∧
        entries.length + (packageLines ls).length ≤ updatePackageMaxEntries ∧
        found = entries ++ (packageLines ls).filterMap parsePackageIndexLine := by
  induction ls generalizing entries with
  | nil =>
      rw [List.foldlM_nil]
      simp only [packageLines, List.filter_nil, List.not_mem_nil, false_imp_iff, implies_true, true_and,
        List.length_nil, Nat.add_zero, List.filterMap_nil, List.append_nil]
      exact ⟨fun h => ⟨hroom, (Option.some.inj h).symm⟩, fun h => congrArg some h.2.symm⟩
  | cons line ls ih =>
      rw [List.foldlM_cons, packageIndexStep]
      by_cases hline : isPackageLine line = true
      · have hcons : packageLines (line :: ls) = line :: packageLines ls := List.filter_cons_of_pos hline
        rw [if_pos hline, hcons, List.length_cons]
        by_cases hfull : entries.length ≥ updatePackageMaxEntries
        · rw [if_pos hfull]
          constructor
          · rintro ⟨⟩
          · rintro ⟨-, hle, -⟩
            omega
        · rw [if_neg hfull]
          cases hparse : parsePackageIndexLine line with
          | none =>
              constructor
              · rintro ⟨⟩
              · rintro ⟨hall, -⟩
                simpa [hparse] using hall line (by simp)
          | some entry =>
              have hlen : (entries ++ [entry]).length = entries.length + 1 := by simp
              rw [Option.map_some, Option.bind_eq_bind, Option.bind_some, ih (by omega), hlen,
                List.filterMap_cons_some hparse,
                List.append_assoc, List.singleton_append, List.forall_mem_cons, hparse]
              simp only [Option.isSome_some, true_and]
              rw [show entries.length + 1 + (packageLines ls).length =
                entries.length + ((packageLines ls).length + 1) by omega]
      · have hcons : packageLines (line :: ls) = packageLines ls := List.filter_cons_of_neg hline
        rw [if_neg hline, hcons]
        exact ih hroom

/-- The package manager skips a line that is empty or a comment. -/
def isSkippedLine (line : CStr) : Bool := line.head? = none || line.head? = some (cchar '#')

theorem pkgStartsWith_of_remote {entry : IndexEntry} (h : parseRemoteIndexLine line = some entry) :
    pkgStartsWith line (cstr "package ") = true := by
  unfold parseRemoteIndexLine at h
  split_ifs at h with hstart
  simpa using hstart

theorem remote_of_skipped (h : isSkippedLine line = true) : parseRemoteIndexLine line = none := by
  cases hparse : parseRemoteIndexLine line with
  | none => rfl
  | some entry =>
      have hstart := pkgStartsWith_of_remote hparse
      cases line with
      | nil => cases hstart
      | cons c line =>
          obtain rfl : c = cchar '#' := by simpa [isSkippedLine] using h
          simp [pkgStartsWith, strncmpEq, cstr] at hstart
          exact absurd hstart.1 (by decide)

theorem remoteIndexStep_cases (v : RemoteValidation) (line : CStr) :
    (isSkippedLine line = true ∧ remoteIndexStep v line = v) ∨
    (isSkippedLine line = false ∧ parseRemoteIndexLine line = none ∧
      (remoteIndexStep v line).invalidLines = v.invalidLines + 1 ∧
      (remoteIndexStep v line).seenNames = v.seenNames ∧ (remoteIndexStep v line).entries = v.entries) ∨
    ∃ entry, isSkippedLine line = false ∧ parseRemoteIndexLine line = some entry ∧
      (remoteIndexStep v line).invalidLines = v.invalidLines ∧
      (remoteIndexStep v line).entries = v.entries ++ [entry] ∧
      if entry.name ∉ v.seenNames ∧ v.seenNames.length < pkgMaxRemoteEntries then
        (remoteIndexStep v line).duplicateNames = v.duplicateNames ∧
          (remoteIndexStep v line).seenNames = v.seenNames ++ [entry.name]
      else (remoteIndexStep v line).duplicateNames = v.duplicateNames + 1 ∧
          (remoteIndexStep v line).seenNames = v.seenNames := by
  by_cases hskip : isSkippedLine line = true
  · refine .inl ⟨hskip, ?_⟩
    rw [remoteIndexStep, if_pos (by simpa [isSkippedLine] using hskip)]
  · have hparse : (if pkgStartsWith line (cstr "package ") then parseRemoteIndexLine line else none) =
        parseRemoteIndexLine line := by
      cases hremote : parseRemoteIndexLine line with
      | none => simp
      | some entry => rw [if_pos (pkgStartsWith_of_remote hremote)]
    rw [remoteIndexStep, if_neg (by simpa [isSkippedLine] using hskip), hparse]
    cases hremote : parseRemoteIndexLine line with
    | none => exact .inr (.inl ⟨by simpa using hskip, rfl, rfl, rfl, rfl⟩)
    | some entry =>
        refine .inr (.inr ⟨entry, by simpa using hskip, rfl, ?_, ?_, ?_⟩)
        · dsimp only
          split_ifs <;> rfl
        · dsimp only
          split_ifs <;> rfl
        · dsimp only
          by_cases hseen : entry.name ∈ v.seenNames
          · simp [hseen]
          · by_cases hfull : v.seenNames.length < pkgMaxRemoteEntries <;> simp [hseen, hfull]

/-- The lines that the package manager reads are valid: each is skipped or parsed, and the names
differ and are not too many. -/
structure ValidLines (seen : List CStr) (ls : List CStr) : Prop where
  parsed : ∀ line ∈ ls, isSkippedLine line = true ∨ (parseRemoteIndexLine line).isSome
  nodup : ((ls.filterMap parseRemoteIndexLine).map IndexEntry.name).Nodup
  fresh : ∀ entry ∈ ls.filterMap parseRemoteIndexLine, entry.name ∉ seen
  room : seen.length + (ls.filterMap parseRemoteIndexLine).length ≤ pkgMaxRemoteEntries

theorem validLines_cons_none {seen : List CStr} (hnone : parseRemoteIndexLine line = none) :
    ValidLines seen (line :: ls) ↔ isSkippedLine line = true ∧ ValidLines seen ls := by
  have hmap : (line :: ls).filterMap parseRemoteIndexLine = ls.filterMap parseRemoteIndexLine :=
    List.filterMap_cons_none hnone
  constructor
  · intro h
    have hparsed := List.forall_mem_cons.mp h.parsed
    exact ⟨by simpa [hnone] using hparsed.1, hparsed.2, hmap ▸ h.nodup, hmap ▸ h.fresh, hmap ▸ h.room⟩
  · rintro ⟨hskip, h⟩
    exact ⟨List.forall_mem_cons.mpr ⟨.inl hskip, h.parsed⟩, hmap.symm ▸ h.nodup, hmap.symm ▸ h.fresh,
      hmap.symm ▸ h.room⟩

theorem validLines_cons_some {seen : List CStr} {entry : IndexEntry} (hsome : parseRemoteIndexLine line = some entry) :
    ValidLines seen (line :: ls) ↔ entry.name ∉ seen ∧ ValidLines (seen ++ [entry.name]) ls := by
  have hmap : (line :: ls).filterMap parseRemoteIndexLine = entry :: ls.filterMap parseRemoteIndexLine :=
    List.filterMap_cons_some hsome
  constructor
  · intro h
    have hnodup := h.nodup
    have hfresh := h.fresh
    have hroom := h.room
    rw [hmap] at hnodup hfresh hroom
    rw [List.map_cons, List.nodup_cons] at hnodup
    rw [List.forall_mem_cons] at hfresh
    refine ⟨hfresh.1, fun l hl => h.parsed l (by simp [hl]), hnodup.2, fun other hother hmem => ?_, ?_⟩
    · obtain hmem | hmem := List.mem_append.mp hmem
      · exact hfresh.2 other hother hmem
      · exact hnodup.1 (List.mem_singleton.mp hmem ▸ List.mem_map_of_mem hother)
    · rw [List.length_append, List.length_singleton]
      rw [List.length_cons] at hroom
      omega
  · rintro ⟨hnew, h⟩
    have hroom := h.room
    rw [List.length_append, List.length_singleton] at hroom
    refine ⟨List.forall_mem_cons.mpr ⟨.inr (by simp [hsome]), h.parsed⟩, ?_, ?_, ?_⟩
    · rw [hmap, List.map_cons, List.nodup_cons]
      refine ⟨fun hmem => ?_, h.nodup⟩
      obtain ⟨other, hother, heq⟩ := List.mem_map.mp hmem
      exact h.fresh other hother (by simp [heq])
    · rw [hmap, List.forall_mem_cons]
      exact ⟨hnew, fun other hother hmem => h.fresh other hother (List.mem_append_left _ hmem)⟩
    · rw [hmap, List.length_cons]
      omega

/-- The package manager collects the entries of the lines it can parse, and finds nothing wrong
exactly with valid lines. -/
theorem foldl_remoteIndexStep {v : RemoteValidation} (ls : List CStr)
    (hroom : v.seenNames.length ≤ pkgMaxRemoteEntries) :
    (ls.foldl remoteIndexStep v).entries = v.entries ++ ls.filterMap parseRemoteIndexLine ∧
      ((ls.foldl remoteIndexStep v).invalidLines = 0 ∧ (ls.foldl remoteIndexStep v).duplicateNames = 0 ↔
        v.invalidLines = 0 ∧ v.duplicateNames = 0 ∧ ValidLines v.seenNames ls) := by
  induction ls generalizing v with
  | nil =>
      refine ⟨by simp, ⟨fun h => ⟨h.1, h.2, by simp, by simp, by simp, by simpa using hroom⟩, fun h => ⟨h.1, h.2.1⟩⟩⟩
  | cons line ls ih =>
      rw [List.foldl_cons]
      obtain ⟨hskip, hstep⟩ | ⟨hskip, hparse, hinvalid, hseen, hentries⟩ |
        ⟨entry, hskip, hparse, hinvalid, hentries, hname⟩ := remoteIndexStep_cases v line
      · -- a line that is skipped
        have hnone := remote_of_skipped hskip
        obtain ⟨hfound, hiff⟩ := ih hroom
        rw [hstep, List.filterMap_cons_none hnone, validLines_cons_none hnone]
        exact ⟨hfound, by simpa [hskip] using hiff⟩
      · -- a line that cannot be parsed
        obtain ⟨hfound, hiff⟩ := ih (v := remoteIndexStep v line) (by rw [hseen]; exact hroom)
        rw [List.filterMap_cons_none hparse, validLines_cons_none hparse, hfound, hentries]
        exact ⟨rfl, hiff.trans (by simp [hinvalid, hskip])⟩
      · -- an entry, whose name must be new and must still be recorded
        rw [List.filterMap_cons_some hparse, validLines_cons_some hparse]
        split_ifs at hname with hok
        · obtain ⟨hdup, hseen⟩ := hname
          obtain ⟨hfound, hiff⟩ := ih (v := remoteIndexStep v line) (by
            rw [hseen, List.length_append]
            exact hok.2)
          rw [hinvalid, hdup, hseen] at hiff
          exact ⟨by rw [hfound, hentries, List.append_assoc, List.singleton_append], by simpa [hok.1] using hiff⟩
        · obtain ⟨hdup, hseen⟩ := hname
          obtain ⟨hfound, hiff⟩ := ih (v := remoteIndexStep v line) (by rw [hseen]; exact hroom)
          refine ⟨by rw [hfound, hentries, List.append_assoc, List.singleton_append], hiff.trans ⟨?_, ?_⟩⟩
          · rintro ⟨-, h₂, -⟩
            rw [hdup] at h₂
            cases h₂
          · rintro ⟨-, -, hnew, h⟩
            have hfull := h.room
            rw [List.length_append, List.length_singleton] at hfull
            exact absurd ⟨hnew, by omega⟩ hok

end Loops

/-! ## Agreement -/

section Agreement

variable {line text : CStr} {found : List IndexEntry} {entry : IndexEntry}

/-- The two phrases that the updater looks for anywhere in the text. -/
def HasIndexHeader (text : CStr) : Prop :=
  strstrFound text (cstr "index-version 1") = true ∧ strstrFound text (cstr "os Orizon OS") = true

instance : DecidablePred HasIndexHeader := fun text =>
  inferInstanceAs (Decidable (strstrFound text (cstr "index-version 1") = true ∧ strstrFound text (cstr "os Orizon OS") = true))

/-- What the updater asks of a text: the header, and at most 16 package lines, all parsed. -/
structure UpdaterIndex (text : CStr) : Prop where
  header : HasIndexHeader text
  parsed : ∀ line ∈ packageLines (cstrLines text), (parsePackageIndexLine line).isSome
  room : (packageLines (cstrLines text)).length ≤ updatePackageMaxEntries

/-- What the package manager asks of a text: it is not empty, and its lines are valid. -/
structure ManagerIndex (text : CStr) : Prop where
  nonempty : text ≠ []
  valid : ValidLines [] ((cstrLines text).map lineView)

theorem parsePackageIndex_eq_some : parsePackageIndex text = some found ↔
    UpdaterIndex text ∧ found = (packageLines (cstrLines text)).filterMap parsePackageIndexLine := by
  rw [parsePackageIndex]
  by_cases hheader : HasIndexHeader text
  · rw [if_neg (by simp [hheader.1, hheader.2]), packageIndexLoop_eq, foldlM_packageIndexStep (by simp)]
    simp only [List.length_nil, Nat.zero_add, List.nil_append]
    exact ⟨fun h => ⟨⟨hheader, h.1, h.2.1⟩, h.2.2⟩, fun h => ⟨h.1.parsed, h.1.room, h.2⟩⟩
  · have hmissing : (!strstrFound text (cstr "index-version 1") || !strstrFound text (cstr "os Orizon OS")) = true := by
      rw [HasIndexHeader, not_and_or] at hheader
      simpa using hheader
    rw [if_pos hmissing]
    exact ⟨fun h => (nomatch h), fun h => absurd h.1.header hheader⟩

theorem pkgValidateRemoteIndex_spec (text : CStr) :
    ((pkgValidateRemoteIndex (strBytes text)).1 = 0 ↔ ManagerIndex text) ∧
    (pkgValidateRemoteIndex (strBytes text)).2.entries =
      ((cstrLines text).map lineView).filterMap parseRemoteIndexLine := by
  rw [pkgValidateRemoteIndex]
  by_cases htext : text = []
  · rw [if_pos (by simp [htext])]
    refine ⟨⟨fun h => (nomatch h), fun h => absurd htext h.nonempty⟩, by simp [htext, cstrLines]⟩
  · have hlen : ¬ (strBytes text).length = 0 := by simpa using htext
    obtain ⟨hentries, hvalid⟩ := foldl_remoteIndexStep (v := ⟨(strBytes text).length, 0, 0, 0, 0, [], []⟩)
      ((cstrLines text).map lineView) (by simp)
    rw [if_neg hlen, readerLines_strBytes]
    dsimp only
    refine ⟨?_, by simpa using hentries⟩
    have hmanager : ManagerIndex text ↔ ValidLines [] ((cstrLines text).map lineView) :=
      ⟨fun h => h.valid, fun h => ⟨htext, h⟩⟩
    simp only [true_and] at hvalid
    rw [hmanager, ← hvalid]
    split_ifs with hbad
    · refine ⟨fun h => (nomatch h), fun h => ?_⟩
      omega
    · refine ⟨fun _ => ?_, fun _ => rfl⟩
      omega

/-- The line begins like a package line. -/
def startsPackage (line : CStr) : Bool := strncmpEq line (cstr "package ") 8

/-- A line that begins like a package line is not skipped by the package manager. -/
theorem isSkippedLine_of_starts (h : startsPackage line = true) : isSkippedLine (lineView line) = false := by
  have height : (cstr "package ").take 8 = cstr "package" ++ [cchar ' '] := by decide
  have htake : (line.take (pkgMaxLine - 1)).take 8 = cstr "package" ++ [cchar ' '] := by
    rw [List.take_take, ← height, show min 8 (pkgMaxLine - 1) = 8 from rfl]
    simpa [startsPackage, strncmpEq] using h
  have hpre : cstr "package" ++ [cchar ' '] <+: line.take (pkgMaxLine - 1) := htake ▸ List.take_prefix 8 _
  obtain ⟨t, ht⟩ : cstr "package" ++ [cchar ' '] <+: lineView line := prefix_rdropWhile hpre (by decide)
  rw [← ht]
  rfl

/-- A line that the package manager takes as an entry begins like a package line, and the updater
reads it as the same entry if it is short. -/
theorem updater_of_remote (h : parseRemoteIndexLine (lineView line) = some entry) :
    startsPackage line = true ∧
      (line.length < 320 → isPackageLine line = true ∧ parsePackageIndexLine line = some entry) := by
  have hstart : startsPackage line = true := by
    obtain ⟨-, hview, hlen⟩ := parsePackageIndexLine_of_remote h (List.forall_mem_nil _)
    obtain ⟨t, ht⟩ := lineView_isPrefix line
    rw [startsPackage, strncmpEq, ← ht, List.take_append_of_le_length (by omega)]
    simpa [strncmpEq] using hview
  refine ⟨hstart, fun hshort => ?_⟩
  obtain ⟨tail, htail, hcr⟩ := lineView_append (show line.length < pkgMaxLine by rw [pkgMaxLine]; omega)
  obtain ⟨hparse, -, hlong⟩ := parsePackageIndexLine_of_remote h hcr
  rw [← htail] at hparse
  have hlen : (lineView line).length ≤ line.length := (lineView_isPrefix line).length_le
  refine ⟨?_, hparse⟩
  rw [isPackageLine, ← startsPackage, hstart]
  simp
  omega

/-- The package lines that the package manager sees. -/
def remoteLines (ls : List CStr) : List CStr := ls.filter startsPackage

theorem isPackageLine_starts (h : isPackageLine line = true) : startsPackage line = true ∧ line.length < 320 := by
  simp only [isPackageLine, Bool.and_eq_true, decide_eq_true_eq] at h
  exact ⟨h.2.2, h.1.2⟩

theorem packageLines_remoteLines (ls : List CStr) : packageLines (remoteLines ls) = packageLines ls := by
  rw [packageLines, remoteLines, List.filter_filter, packageLines]
  refine List.filter_congr fun line _ => ?_
  cases h : isPackageLine line with
  | true => simp [(isPackageLine_starts h).1]
  | false => simp

/-- In a text that the package manager takes, the updater reads the short package lines as the same
entries; it reads all entries exactly if all package lines are short. -/
theorem entries_eq_iff (h : ManagerIndex text) :
    (∀ line ∈ packageLines (cstrLines text), (parsePackageIndexLine line).isSome) ∧
      (((cstrLines text).map lineView).filterMap parseRemoteIndexLine =
          (packageLines (cstrLines text)).filterMap parsePackageIndexLine ↔
        ∀ line ∈ cstrLines text, startsPackage line = true → line.length < 320) := by
  have hentry : ∀ line ∈ cstrLines text, startsPackage line = true →
      ∃ entry, parseRemoteIndexLine (lineView line) = some entry := by
    intro line hline hstart
    have hok := h.valid.parsed (lineView line) (List.mem_map_of_mem hline)
    rw [isSkippedLine_of_starts hstart] at hok
    exact Option.isSome_iff_exists.mp (hok.resolve_left (by simp))
  have hshort : ∀ line ∈ packageLines (cstrLines text),
      parsePackageIndexLine line = parseRemoteIndexLine (lineView line) := by
    intro line hline
    obtain ⟨hmem, hpackage⟩ := List.mem_filter.mp hline
    obtain ⟨hstart, hlen⟩ := isPackageLine_starts hpackage
    obtain ⟨entry, hentry⟩ := hentry line hmem hstart
    rw [hentry, ((updater_of_remote hentry).2 hlen).2]
  -- the package manager's entries are those of the lines that begin like package lines
  have hremote : ((cstrLines text).map lineView).filterMap parseRemoteIndexLine =
      (remoteLines (cstrLines text)).filterMap fun line => parseRemoteIndexLine (lineView line) := by
    rw [List.filterMap_map, remoteLines, List.filterMap_filter]
    refine List.filterMap_congr fun line _ => ?_
    dsimp only [Function.comp]
    cases hparse : parseRemoteIndexLine (lineView line) with
    | none => simp
    | some entry => rw [if_pos (updater_of_remote hparse).1]
  have hupdater : (packageLines (cstrLines text)).filterMap parsePackageIndexLine =
      (packageLines (remoteLines (cstrLines text))).filterMap fun line => parseRemoteIndexLine (lineView line) := by
    rw [packageLines_remoteLines]
    exact List.filterMap_congr hshort
  have hlength : ∀ ls : List CStr, (∀ line ∈ ls, line ∈ remoteLines (cstrLines text)) →
      (ls.filterMap fun line => parseRemoteIndexLine (lineView line)).length = ls.length := by
    intro ls hls
    rw [List.filterMap_length_eq_length]
    intro line hline
    obtain ⟨hmem, hstart⟩ := List.mem_filter.mp (hls line hline)
    obtain ⟨entry, hentry⟩ := hentry line hmem hstart
    simp [hentry]
  refine ⟨fun line hline => ?_, ?_⟩
  · obtain ⟨hmem, hpackage⟩ := List.mem_filter.mp hline
    obtain ⟨entry, hentry⟩ := hentry line hmem (isPackageLine_starts hpackage).1
    simp [hshort line hline, hentry]
  · rw [hremote, hupdater]
    constructor
    · intro heq line hline hstart
      have hlen := congrArg List.length heq
      rw [hlength _ fun _ hl => hl,
        hlength (packageLines (remoteLines (cstrLines text))) fun _ hl => (List.mem_filter.mp hl).1] at hlen
      have hsame : packageLines (remoteLines (cstrLines text)) = remoteLines (cstrLines text) :=
        List.filter_sublist.eq_of_length hlen.symm
      have hmem : line ∈ packageLines (remoteLines (cstrLines text)) := by
        rw [hsame]
        exact List.mem_filter.mpr ⟨hline, hstart⟩
      exact (isPackageLine_starts (List.mem_filter.mp hmem).2).2
    · intro hall
      have hsame : packageLines (remoteLines (cstrLines text)) = remoteLines (cstrLines text) := by
        refine List.filter_eq_self.mpr fun line hline => ?_
        obtain ⟨hmem, hstart⟩ := List.mem_filter.mp hline
        obtain ⟨entry, hentry⟩ := hentry line hmem hstart
        exact ((updater_of_remote hentry).2 (hall line hmem hstart)).1
      rw [hsame]

/-- The two parsers agree on a text: one accepts it exactly when the other reports it valid, and
then the entries are the same. -/
def IndexAgree (text : CStr) : Prop :=
  ((parsePackageIndex text).isSome ↔ (pkgValidateRemoteIndex (strBytes text)).1 = 0) ∧
    ∀ entries, parsePackageIndex text = some entries → (pkgValidateRemoteIndex (strBytes text)).2.entries = entries

/-- They agree on a text that the package manager takes if it has the updater's header, at most 16
package lines and no package line of 320 characters, and on any other text if the updater refuses
it too. -/
theorem packageIndex_agree_iff (text : CBuf (pkgMaxBytes + 1)) : IndexAgree text.val ↔
    ManagerIndex text.val ∧ HasIndexHeader text.val ∧
        (packageLines (cstrLines text.val)).length ≤ updatePackageMaxEntries ∧
        (∀ line ∈ cstrLines text.val, startsPackage line = true → line.length < 320) ∨
      ¬ ManagerIndex text.val ∧ ¬ UpdaterIndex text.val := by
  obtain ⟨hzero, hentries⟩ := pkgValidateRemoteIndex_spec text.val
  have hsome : (parsePackageIndex text.val).isSome ↔ UpdaterIndex text.val := by
    rw [Option.isSome_iff_exists]
    exact ⟨fun ⟨_, h⟩ => (parsePackageIndex_eq_some.mp h).1, fun h => ⟨_, parsePackageIndex_eq_some.mpr ⟨h, rfl⟩⟩⟩
  rw [IndexAgree, hsome, hzero, hentries]
  by_cases hmanager : ManagerIndex text.val
  · obtain ⟨hparsed, hiff⟩ := entries_eq_iff hmanager
    simp only [hmanager, iff_true, true_and, not_true_eq_false, false_and, or_false]
    constructor
    · rintro ⟨hupdater, hsame⟩
      exact ⟨hupdater.header, hupdater.room,
        hiff.mp (hsame _ (parsePackageIndex_eq_some.mpr ⟨hupdater, rfl⟩))⟩
    · rintro ⟨hheader, hroom, hall⟩
      refine ⟨⟨hheader, hparsed, hroom⟩, fun entries hparse => ?_⟩
      rw [(parsePackageIndex_eq_some.mp hparse).2]
      exact hiff.mpr hall
  · simp only [hmanager, iff_false, false_and, not_false_eq_true, true_and, false_or]
    refine ⟨fun h => h.1, fun h => ⟨h, fun entries hparse => ?_⟩⟩
    exact absurd (parsePackageIndex_eq_some.mp hparse).1 h

/-- The updater's header lines are invalid for the package manager. -/
theorem packageIndex_header_differs : ¬ ∀ text : CBuf (pkgMaxBytes + 1), IndexAgree text.val := by
  intro h
  have hlines : cstrLines (cstr "index-version 1\n" ++ cstr "os Orizon OS\n") = [cstr "index-version 1", cstr "os Orizon OS"] := by
    decide
  have hupdater : UpdaterIndex (cstr "index-version 1\n" ++ cstr "os Orizon OS\n") := by
    refine ⟨by decide, ?_, ?_⟩ <;> rw [hlines] <;> decide
  have hagree := (h ⟨cstr "index-version 1\n" ++ cstr "os Orizon OS\n", by decide⟩).1
  rw [(pkgValidateRemoteIndex_spec _).1, parsePackageIndex_eq_some.mpr ⟨hupdater, rfl⟩] at hagree
  have hvalid := (hagree.mp rfl).valid.parsed (lineView (cstr "index-version 1")) (by rw [hlines]; simp)
  revert hvalid
  decide

end Agreement

end Orizon
