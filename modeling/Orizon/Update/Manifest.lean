import Orizon.Packages.Index
import Orizon.Update.Limine

/-!
# Orizon.Update.Manifest

The update manifest: `parse_update_manifest` of `system/update.c`.

A value is copied into an array and cut to it without a word, a size is cut to 31 characters
first and then read in 64 bits.  Of an accepted manifest the fields are the values of their
lines exactly if no value is longer than its array and no size is written with more than 31
digits or is 2^64 or more (`parseUpdateManifest_exact_iff`).
-/

namespace Orizon

/-! ## Lines -/

/-- The test of `manifest_copy_value` on a line. -/
def isManifestLine (key text : CStr) : Bool :=
  text.length > key.length && strncmpEq text key key.length && text[key.length]? = some (cchar ' ')

/-- The loop of `manifest_copy_value`: what follows the key in the first line of it. -/
def manifestValueLoop (key : CStr) (p : CStr) : Option CStr :=
  if p = [] then none
  else
    let line := p.takeWhile fun c => !decide (c = cchar '\n')
    if isManifestLine key line then some (line.drop (key.length + 1))
    else manifestValueLoop key (p.drop (line.length + 1))
termination_by p.length
decreasing_by
  have hpos := List.length_pos_of_ne_nil ‹¬ p = []›
  rw [List.length_drop]
  omega

/-- `manifest_copy_value` into an array of `outSize` bytes; `none` is -1. -/
def manifestCopyValue (manifest key : CStr) (outSize : Nat) : Option CStr :=
  (manifestValueLoop key manifest).map (·.take (outSize - 1))

/-- `manifest_size_value`; `none` is -1. -/
def manifestSizeValue (manifest key : CStr) : Option Nat := do
  let value ← manifestCopyValue manifest key 32
  parseSizeValue value

/-! ## Checks -/

/-- `update_token_safe`. -/
def updateTokenSafe (text : CStr) : Bool :=
  text.all (fun c => isAlphanumeric c || c = cchar '-' || c = cchar '_' || c = cchar '.' || c = cchar ':') &&
    !text.isEmpty

/-- `update_path_safe`. -/
def updatePathSafe (path start suffix : CStr) : Bool :=
  !(path.head? = some slash || !strncmpEq path start start.length) &&
    !(path.length ≤ suffix.length || path.drop (path.length - suffix.length) ≠ suffix) &&
      !(path.any isTokenEnd || hasDotDot path)

/-- `UPDATE_CHANNEL`. -/
def updateChannel : CStr := cstr "main"

/-- `UPDATE_SOURCE`. -/
def updateSource : CStr := cstr "https://github.com/Orizon-cmd/Orizon-OS"

/-- `UPDATE_PACKAGE_SOURCE`. -/
def updatePackageSource : CStr := cstr "https://github.com/Orizon-cmd/Orizon-Packages"

/-- `UPDATE_KERNEL_MAX`. -/
def updateKernelMax : Nat := 4 * 1024 * 1024

/-- `UPDATE_EFI_MAX`. -/
def updateEfiMax : Nat := 512 * 1024

/-- `UPDATE_PACKAGE_INDEX_MAX`. -/
def updatePackageIndexMax : Nat := 8192

/-! ## The manifest -/

/-- `update_manifest_t`. -/
structure UpdateManifest where
  version : CStr
  commit : CStr
  channel : CStr
  source : CStr
  kernelPath : CStr
  kernelSha256 : CStr
  kernelSize : Nat
  efiPath : CStr
  efiSha256 : CStr
  efiSize : Nat
  liminePath : CStr
  limineSha256 : CStr
  limineSize : Nat
  packageSource : CStr
  packageCommit : CStr
  packageIndexPath : CStr
  packageIndexSha256 : CStr
  packageIndexSize : Nat
deriving DecidableEq

/-- The sizes `parse_update_manifest` lets through. -/
def UpdateManifest.sizesAllowed (m : UpdateManifest) : Bool :=
  !(m.kernelSize = 0 || m.kernelSize > updateKernelMax || m.efiSize = 0 || m.efiSize > updateEfiMax ||
    m.limineSize = 0 || m.limineSize ≥ updateConfMax ||
    m.packageIndexSize = 0 || m.packageIndexSize ≥ updatePackageIndexMax)

/-- The texts it lets through. -/
def UpdateManifest.textsAllowed (m : UpdateManifest) : Bool :=
  updateTokenSafe m.version && updateTokenSafe m.commit && m.channel = updateChannel &&
    (m.source = updateSource || m.source = updateSource ++ cstr ".git") &&
    (m.packageSource = updatePackageSource || m.packageSource = updatePackageSource ++ cstr ".git") &&
    updateTokenSafe m.packageCommit &&
    updatePathSafe m.kernelPath (cstr "updates/x86_64/") (cstr ".elf") &&
    updatePathSafe m.efiPath (cstr "updates/x86_64/") (cstr ".EFI") &&
    updatePathSafe m.liminePath (cstr "updates/x86_64/") (cstr ".conf") &&
    updatePathSafe m.packageIndexPath (cstr "packages/x86_64/") (cstr ".txt") &&
    sha256TextValid m.kernelSha256 && sha256TextValid m.efiSha256 && sha256TextValid m.limineSha256 &&
    sha256TextValid m.packageIndexSha256

/-- What `parse_update_manifest` copies from the text, in its order. -/
def updateManifestFields (text : CStr) : Option UpdateManifest := do
  let version ← manifestCopyValue text (cstr "version") 64
  let commit ← manifestCopyValue text (cstr "commit") 64
  let channel ← manifestCopyValue text (cstr "channel") 32
  let source ← manifestCopyValue text (cstr "source") 96
  let kernelPath ← manifestCopyValue text (cstr "kernel-path") 160
  let kernelSha256 ← manifestCopyValue text (cstr "kernel-sha256") 65
  let kernelSize ← manifestSizeValue text (cstr "kernel-size")
  let efiPath ← manifestCopyValue text (cstr "efi-path") 160
  let efiSha256 ← manifestCopyValue text (cstr "efi-sha256") 65
  let efiSize ← manifestSizeValue text (cstr "efi-size")
  let liminePath ← manifestCopyValue text (cstr "limine-path") 160
  let limineSha256 ← manifestCopyValue text (cstr "limine-sha256") 65
  let limineSize ← manifestSizeValue text (cstr "limine-size")
  let packageSource ← manifestCopyValue text (cstr "package-source") 96
  let packageCommit ← manifestCopyValue text (cstr "package-commit") 64
  let packageIndexPath ← manifestCopyValue text (cstr "package-index-path") 180
  let packageIndexSize ← manifestSizeValue text (cstr "package-index-size")
  let packageIndexSha256 ← manifestCopyValue text (cstr "package-index-sha256") 65
  some {
    version, commit, channel, source, kernelPath, kernelSha256, kernelSize, efiPath, efiSha256, efiSize, liminePath,
    limineSha256, limineSize, packageSource, packageCommit, packageIndexPath, packageIndexSha256, packageIndexSize }

/-- `parse_update_manifest`; `none` is -1. -/
def parseUpdateManifest (text : CStr) : Option UpdateManifest :=
  if !strstrFound text (cstr "manifest-version 1") || !strstrFound text (cstr "os Orizon OS") then none
  else
    match updateManifestFields text with
    | none => none
    | some manifest =>
        if !manifest.sizesAllowed then none
        else if !manifest.textsAllowed then none
        else some manifest

/-! ## Its fields -/

/-- The texts of a manifest. -/
inductive ManifestText
  | version
  | commit
  | channel
  | source
  | kernelPath
  | kernelSha256
  | efiPath
  | efiSha256
  | liminePath
  | limineSha256
  | packageSource
  | packageCommit
  | packageIndexPath
  | packageIndexSha256
deriving DecidableEq, Repr

/-- The sizes of a manifest. -/
inductive ManifestSize
  | kernel
  | efi
  | limine
  | packageIndex
deriving DecidableEq, Repr

/-- The key of a text and the size of its array. -/
def ManifestText.spec : ManifestText → CStr × Nat
  | .version => (cstr "version", 64)
  | .commit => (cstr "commit", 64)
  | .channel => (cstr "channel", 32)
  | .source => (cstr "source", 96)
  | .kernelPath => (cstr "kernel-path", 160)
  | .kernelSha256 => (cstr "kernel-sha256", 65)
  | .efiPath => (cstr "efi-path", 160)
  | .efiSha256 => (cstr "efi-sha256", 65)
  | .liminePath => (cstr "limine-path", 160)
  | .limineSha256 => (cstr "limine-sha256", 65)
  | .packageSource => (cstr "package-source", 96)
  | .packageCommit => (cstr "package-commit", 64)
  | .packageIndexPath => (cstr "package-index-path", 180)
  | .packageIndexSha256 => (cstr "package-index-sha256", 65)

/-- The key of a size. -/
def ManifestSize.key : ManifestSize → CStr
  | .kernel => cstr "kernel-size"
  | .efi => cstr "efi-size"
  | .limine => cstr "limine-size"
  | .packageIndex => cstr "package-index-size"

def UpdateManifest.text (m : UpdateManifest) : ManifestText → CStr
  | .version => m.version
  | .commit => m.commit
  | .channel => m.channel
  | .source => m.source
  | .kernelPath => m.kernelPath
  | .kernelSha256 => m.kernelSha256
  | .efiPath => m.efiPath
  | .efiSha256 => m.efiSha256
  | .liminePath => m.liminePath
  | .limineSha256 => m.limineSha256
  | .packageSource => m.packageSource
  | .packageCommit => m.packageCommit
  | .packageIndexPath => m.packageIndexPath
  | .packageIndexSha256 => m.packageIndexSha256

def UpdateManifest.size (m : UpdateManifest) : ManifestSize → Nat
  | .kernel => m.kernelSize
  | .efi => m.efiSize
  | .limine => m.limineSize
  | .packageIndex => m.packageIndexSize

/-- The whole value of the line of a key: what follows it in the first line that has it. -/
def manifestLineValue (text key : CStr) : Option CStr :=
  ((cstrLines text).find? (isManifestLine key)).map (·.drop (key.length + 1))

/-- The digits at the start of a value. -/
def sizeDigits (value : CStr) : CStr := value.takeWhile isDecimal

/-- What can stand behind a number. -/
def SizeEnds (rest : CStr) : Prop := ∀ c ∈ rest.head?, isLineEnd c = true ∨ c = cchar ' '

/-- A value is, up to a space or a line end, the number. -/
structure WrittenSize (value : CStr) (n : Nat) : Prop where
  digits : sizeDigits value ≠ []
  ends : SizeEnds (value.drop (sizeDigits value).length)
  number : decimalValue (sizeDigits value) = n

/-- A manifest has what the text says: the texts are the whole values of their lines, the sizes the
numbers that stand there. -/
structure ManifestExact (text : CStr) (m : UpdateManifest) : Prop where
  texts : ∀ f : ManifestText, manifestLineValue text f.spec.1 = some (m.text f)
  sizes : ∀ f : ManifestSize, ∃ value, manifestLineValue text f.key = some value ∧ WrittenSize value (m.size f)

/-- A size that is read as it is written. -/
structure SizeFits (value : CStr) : Prop where
  short : (sizeDigits value).length ≤ 31
  small : decimalValue (sizeDigits value) < 2 ^ 64
  ends : SizeEnds (value.drop (sizeDigits value).length)

/-- The values have room in their arrays, and the sizes in 31 digits and 64 bits. -/
structure ManifestFits (text : CStr) : Prop where
  texts : ∀ f : ManifestText, ∀ value ∈ manifestLineValue text f.spec.1, value.length < f.spec.2
  sizes : ∀ f : ManifestSize, ∀ value ∈ manifestLineValue text f.key, SizeFits value

section Fields

variable {text key value : CStr} {m : UpdateManifest} {n size : Nat}

theorem manifestValueLoop_eq (key p : CStr) : manifestValueLoop key p = manifestLineValue p key := by
  induction hlen : p.length using Nat.strong_induction_on generalizing p with
  | _ n ih =>
      subst hlen
      rw [manifestValueLoop, manifestLineValue]
      by_cases hp : p = []
      · rw [if_pos hp, hp]
        rfl
      · have hpos := List.length_pos_of_ne_nil hp
        rw [if_neg hp, cstrLines, lines_step hp, List.find?_cons]
        dsimp only
        cases isManifestLine key (p.takeWhile fun c => !decide (c = cchar '\n')) with
        | true => rfl
        | false => exact ih _ (by rw [List.length_drop]; omega) _ rfl

theorem manifestCopyValue_eq (text key : CStr) (size : Nat) :
    manifestCopyValue text key size = (manifestLineValue text key).map (·.take (size - 1)) := by
  rw [manifestCopyValue, manifestValueLoop_eq]

/-- What the parser has read: the cut values of the lines, with the checks passed. -/
structure ManifestRead (text : CStr) (m : UpdateManifest) : Prop where
  texts : ∀ f : ManifestText, manifestCopyValue text f.spec.1 f.spec.2 = some (m.text f)
  sizes : ∀ f : ManifestSize, manifestSizeValue text f.key = some (m.size f)
  sizesAllowed : m.sizesAllowed = true
  textsAllowed : m.textsAllowed = true

theorem updateManifestFields_read (h : updateManifestFields text = some m) :
    (∀ f : ManifestText, manifestCopyValue text f.spec.1 f.spec.2 = some (m.text f)) ∧
      ∀ f : ManifestSize, manifestSizeValue text f.key = some (m.size f) := by
  unfold updateManifestFields at h
  obtain ⟨version, hversion, h⟩ := Option.bind_eq_some_iff.mp h
  obtain ⟨commit, hcommit, h⟩ := Option.bind_eq_some_iff.mp h
  obtain ⟨channel, hchannel, h⟩ := Option.bind_eq_some_iff.mp h
  obtain ⟨source, hsource, h⟩ := Option.bind_eq_some_iff.mp h
  obtain ⟨kernelPath, hkernelPath, h⟩ := Option.bind_eq_some_iff.mp h
  obtain ⟨kernelSha256, hkernelSha256, h⟩ := Option.bind_eq_some_iff.mp h
  obtain ⟨kernelSize, hkernelSize, h⟩ := Option.bind_eq_some_iff.mp h
  obtain ⟨efiPath, hefiPath, h⟩ := Option.bind_eq_some_iff.mp h
  obtain ⟨efiSha256, hefiSha256, h⟩ := Option.bind_eq_some_iff.mp h
  obtain ⟨efiSize, hefiSize, h⟩ := Option.bind_eq_some_iff.mp h
  obtain ⟨liminePath, hliminePath, h⟩ := Option.bind_eq_some_iff.mp h
  obtain ⟨limineSha256, hlimineSha256, h⟩ := Option.bind_eq_some_iff.mp h
  obtain ⟨limineSize, hlimineSize, h⟩ := Option.bind_eq_some_iff.mp h
  obtain ⟨packageSource, hpackageSource, h⟩ := Option.bind_eq_some_iff.mp h
  obtain ⟨packageCommit, hpackageCommit, h⟩ := Option.bind_eq_some_iff.mp h
  obtain ⟨packageIndexPath, hpackageIndexPath, h⟩ := Option.bind_eq_some_iff.mp h
  obtain ⟨packageIndexSize, hpackageIndexSize, h⟩ := Option.bind_eq_some_iff.mp h
  obtain ⟨packageIndexSha256, hpackageIndexSha256, h⟩ := Option.bind_eq_some_iff.mp h
  obtain rfl := Option.some.inj h
  constructor
  · intro f
    match f with
    | .version => exact hversion
    | .commit => exact hcommit
    | .channel => exact hchannel
    | .source => exact hsource
    | .kernelPath => exact hkernelPath
    | .kernelSha256 => exact hkernelSha256
    | .efiPath => exact hefiPath
    | .efiSha256 => exact hefiSha256
    | .liminePath => exact hliminePath
    | .limineSha256 => exact hlimineSha256
    | .packageSource => exact hpackageSource
    | .packageCommit => exact hpackageCommit
    | .packageIndexPath => exact hpackageIndexPath
    | .packageIndexSha256 => exact hpackageIndexSha256
  · intro f
    match f with
    | .kernel => exact hkernelSize
    | .efi => exact hefiSize
    | .limine => exact hlimineSize
    | .packageIndex => exact hpackageIndexSize

theorem updateManifestFields_eq_some
    (htexts : ∀ f : ManifestText, manifestCopyValue text f.spec.1 f.spec.2 = some (m.text f))
    (hsizes : ∀ f : ManifestSize, manifestSizeValue text f.key = some (m.size f)) :
    updateManifestFields text = some m := by
  refine Option.bind_eq_some_iff.mpr ⟨_, htexts .version, ?_⟩
  refine Option.bind_eq_some_iff.mpr ⟨_, htexts .commit, ?_⟩
  refine Option.bind_eq_some_iff.mpr ⟨_, htexts .channel, ?_⟩
  refine Option.bind_eq_some_iff.mpr ⟨_, htexts .source, ?_⟩
  refine Option.bind_eq_some_iff.mpr ⟨_, htexts .kernelPath, ?_⟩
  refine Option.bind_eq_some_iff.mpr ⟨_, htexts .kernelSha256, ?_⟩
  refine Option.bind_eq_some_iff.mpr ⟨_, hsizes .kernel, ?_⟩
  refine Option.bind_eq_some_iff.mpr ⟨_, htexts .efiPath, ?_⟩
  refine Option.bind_eq_some_iff.mpr ⟨_, htexts .efiSha256, ?_⟩
  refine Option.bind_eq_some_iff.mpr ⟨_, hsizes .efi, ?_⟩
  refine Option.bind_eq_some_iff.mpr ⟨_, htexts .liminePath, ?_⟩
  refine Option.bind_eq_some_iff.mpr ⟨_, htexts .limineSha256, ?_⟩
  refine Option.bind_eq_some_iff.mpr ⟨_, hsizes .limine, ?_⟩
  refine Option.bind_eq_some_iff.mpr ⟨_, htexts .packageSource, ?_⟩
  refine Option.bind_eq_some_iff.mpr ⟨_, htexts .packageCommit, ?_⟩
  refine Option.bind_eq_some_iff.mpr ⟨_, htexts .packageIndexPath, ?_⟩
  refine Option.bind_eq_some_iff.mpr ⟨_, hsizes .packageIndex, ?_⟩
  refine Option.bind_eq_some_iff.mpr ⟨_, htexts .packageIndexSha256, ?_⟩
  rfl

/-- A manifest is accepted if its two marks are there and its fields pass the checks. -/
theorem parseUpdateManifest_eq_some : parseUpdateManifest text = some m ↔
    (strstrFound text (cstr "manifest-version 1") = true ∧ strstrFound text (cstr "os Orizon OS") = true) ∧
      ManifestRead text m := by
  unfold parseUpdateManifest
  constructor
  · intro h
    split at h
    · cases h
    next hmarks =>
    split at h
    · cases h
    next manifest hfields =>
    split at h
    · cases h
    next hsizes =>
    split at h
    · cases h
    next htexts =>
      obtain rfl := Option.some.inj h
      have hread := updateManifestFields_read hfields
      exact ⟨by simpa using hmarks, hread.1, hread.2, by simpa using hsizes, by simpa using htexts⟩
  · rintro ⟨⟨hversion, hos⟩, hread⟩
    simp [hversion, hos, updateManifestFields_eq_some hread.texts hread.sizes, hread.sizesAllowed, hread.textsAllowed]

/-! ## Sizes -/

theorem foldl_decimal_mod (digits : CStr) (start : Nat) :
    digits.foldl (fun value c => (value * 10 + (c.val.toNat - 0x30)) % 2 ^ 64) (start % 2 ^ 64) =
      digits.foldl (fun value c => value * 10 + (c.val.toNat - 0x30)) start % 2 ^ 64 := by
  induction digits generalizing start with
  | nil => rfl
  | cons c digits ih =>
      have hstep : (start % 2 ^ 64 * 10 + (c.val.toNat - 0x30)) % 2 ^ 64 = (start * 10 + (c.val.toNat - 0x30))
          % 2 ^ 64 := by
        omega
      rw [List.foldl_cons, List.foldl_cons, hstep, ih]

theorem parseSizeValue_eq_some : parseSizeValue value = some n ↔
    sizeDigits value ≠ [] ∧ SizeEnds (value.drop (sizeDigits value).length) ∧
      decimalValue (sizeDigits value) % 2 ^ 64 = n := by
  have hvalue : (sizeDigits value).foldl (fun value c => (value * 10 + (c.val.toNat - 0x30)) % 2 ^ 64) 0 =
      decimalValue (sizeDigits value) % 2 ^ 64 := foldl_decimal_mod _ 0
  have hends : (value.drop (sizeDigits value).length).head?.all (fun c => isLineEnd c || c = cchar ' ') = true ↔
      SizeEnds (value.drop (sizeDigits value).length) := by
    unfold SizeEnds
    cases (value.drop (sizeDigits value).length).head? <;> simp
  have heq : parseSizeValue value =
      if sizeDigits value = [] ∨
        !((value.drop (sizeDigits value).length).head?.all fun c => isLineEnd c || c = cchar ' ') then none
      else some ((sizeDigits value).foldl (fun value c => (value * 10 + (c.val.toNat - 0x30)) % 2 ^ 64) 0) := by
    unfold parseSizeValue sizeDigits
    dsimp only
    cases (value.drop (value.takeWhile isDecimal).length).head? <;> rfl
  rw [heq, hvalue, Option.ite_none_left_eq_some, ← hends]
  simp only [not_or, Bool.not_eq_true', Bool.not_eq_false, Option.some.injEq, and_assoc, ne_eq]

theorem sizeDigits_take (value : CStr) (k : Nat) : sizeDigits (value.take k) = (sizeDigits value).take k := by
  induction value generalizing k with
  | nil => simp [sizeDigits]
  | cons c value ih =>
      cases k with
      | zero => rfl
      | succ k =>
          cases hc : isDecimal c with
          | true => simpa [sizeDigits, hc] using ih k
          | false => simp [sizeDigits, hc]

/-- A size that was read is the one that is written, if that has at most 31 digits and 64 bits. -/
theorem writtenSize_iff (h : parseSizeValue (value.take 31) = some n) (hn : n ≠ 0) :
    WrittenSize value n ↔ SizeFits value := by
  obtain ⟨hdigits, -, hnumber⟩ := parseSizeValue_eq_some.mp h
  rw [sizeDigits_take] at hdigits hnumber
  by_cases hshort : (sizeDigits value).length ≤ 31
  · rw [List.take_of_length_le hshort] at hdigits hnumber
    constructor
    · intro hwritten
      have hvalue := hwritten.number
      exact ⟨hshort, by omega, hwritten.ends⟩
    · intro hfits
      have hsmall := hfits.small
      exact ⟨hdigits, hfits.ends, by omega⟩
  · refine iff_of_false (fun hwritten => ?_) fun hfits => hshort hfits.short
    have hmore : decimalValue ((sizeDigits value).take 31) * 10 ^ ((sizeDigits value).drop 31).length ≤
        decimalValue (sizeDigits value) := by
      simpa using decimalValue_append_le ((sizeDigits value).take 31) ((sizeDigits value).drop 31)
    have hten : 10 ^ 1 ≤ 10 ^ ((sizeDigits value).drop 31).length :=
      Nat.pow_le_pow_right (by decide) (by rw [List.length_drop]; omega)
    have hlarge : decimalValue ((sizeDigits value).take 31) * 10 ≤ decimalValue (sizeDigits value) :=
      le_trans (Nat.mul_le_mul_left _ hten) hmore
    have hvalue := hwritten.number
    omega

/-! ## The whole manifest -/

theorem ManifestText.spec_pos (f : ManifestText) : 0 < f.spec.2 := by
  cases f <;> decide

theorem ManifestRead.size_ne_zero (h : ManifestRead text m) (f : ManifestSize) : m.size f ≠ 0 := by
  have hallowed := h.sizesAllowed
  simp only [UpdateManifest.sizesAllowed, Bool.not_eq_true', Bool.or_eq_false_iff, decide_eq_false_iff_not] at hallowed
  cases f <;> simp_all [UpdateManifest.size]

/-- The fields of an accepted manifest are what its lines say exactly if no value is longer than its
array, and the sizes are numbers of at most 31 digits below 2^64. -/
theorem parseUpdateManifest_exact_iff (text : CStr) (m : UpdateManifest) (h : parseUpdateManifest text = some m) :
    ManifestExact text m ↔ ManifestFits text := by
  have hread := (parseUpdateManifest_eq_some.mp h).2
  have htext (f : ManifestText) : ∃ value, manifestLineValue text f.spec.1 = some value ∧
      value.take (f.spec.2 - 1) = m.text f := by
    have hcopy := hread.texts f
    rw [manifestCopyValue_eq] at hcopy
    exact Option.map_eq_some_iff.mp hcopy
  have hsize (f : ManifestSize) : ∃ value, manifestLineValue text f.key = some value ∧
      parseSizeValue (value.take 31) = some (m.size f) := by
    have hvalue := hread.sizes f
    rw [manifestSizeValue, manifestCopyValue_eq] at hvalue
    obtain ⟨cut, hcut, hparse⟩ := Option.bind_eq_some_iff.mp hvalue
    obtain ⟨value, hline, rfl⟩ := Option.map_eq_some_iff.mp hcut
    exact ⟨value, hline, hparse⟩
  constructor
  · intro hexact
    refine ⟨fun f value hvalue => ?_, fun f value hvalue => ?_⟩
    · obtain ⟨whole, hline, htake⟩ := htext f
      obtain rfl := Option.some.inj (hline.symm.trans hvalue)
      have hwhole : whole = m.text f := Option.some.inj (hline.symm.trans (hexact.texts f))
      have hpos := f.spec_pos
      have hlength := List.length_take_le (f.spec.2 - 1) whole
      rw [htake, ← hwhole] at hlength
      omega
    · obtain ⟨whole, hline, hparse⟩ := hsize f
      obtain rfl := Option.some.inj (hline.symm.trans hvalue)
      obtain ⟨written, hsame, hwritten⟩ := hexact.sizes f
      obtain rfl := Option.some.inj (hline.symm.trans hsame)
      exact (writtenSize_iff hparse (hread.size_ne_zero f)).mp hwritten
  · intro hfits
    refine ⟨fun f => ?_, fun f => ?_⟩
    · obtain ⟨value, hline, htake⟩ := htext f
      have hlength := hfits.texts f value hline
      rw [hline, ← htake, List.take_of_length_le (by omega)]
    · obtain ⟨value, hline, hparse⟩ := hsize f
      exact ⟨value, hline, (writtenSize_iff hparse (hread.size_ne_zero f)).mpr (hfits.sizes f value hline)⟩

end Fields

/-! ## A digest that is too long -/

/-- The lines of a manifest with a value for `kernel-sha256`. -/
def sampleManifestLines (sha256 : CStr) : List CStr :=
  let digest := List.replicate 64 (cchar '0')
  [cstr "manifest-version 1", cstr "os Orizon OS", cstr "version 1", cstr "commit c", cstr "channel main",
    cstr "source " ++ updateSource, cstr "kernel-path updates/x86_64/k.elf", cstr "kernel-sha256 " ++ sha256,
    cstr "kernel-size 1", cstr "efi-path updates/x86_64/b.EFI", cstr "efi-sha256 " ++ digest, cstr "efi-size 1",
    cstr "limine-path updates/x86_64/l.conf", cstr "limine-sha256 " ++ digest, cstr "limine-size 1",
    cstr "package-source " ++ updatePackageSource, cstr "package-commit c",
    cstr "package-index-path packages/x86_64/i.txt", cstr "package-index-size 1", cstr "package-index-sha256 " ++ digest]

def sampleManifestText (sha256 : CStr) : CStr := (sampleManifestLines sha256).flatMap (· ++ [cchar '\n'])

def sampleManifest : UpdateManifest :=
  let digest := List.replicate 64 (cchar '0')
  { version := cstr "1", commit := cstr "c", channel := updateChannel, source := updateSource
    kernelPath := cstr "updates/x86_64/k.elf", kernelSha256 := digest, kernelSize := 1
    efiPath := cstr "updates/x86_64/b.EFI", efiSha256 := digest, efiSize := 1
    liminePath := cstr "updates/x86_64/l.conf", limineSha256 := digest, limineSize := 1
    packageSource := updatePackageSource, packageCommit := cstr "c"
    packageIndexPath := cstr "packages/x86_64/i.txt", packageIndexSha256 := digest, packageIndexSize := 1 }

theorem cstrLines_sample {sha256 : CStr}
    (h : ∀ line ∈ sampleManifestLines sha256, ∀ c ∈ line, decide (c = cchar '\n') = false) :
    cstrLines (sampleManifestText sha256) = sampleManifestLines sha256 := by
  have hlines := lines_flatMap h (by decide : decide (cchar '\n' = cchar '\n') = true) []
  rwa [lines_nil, List.append_nil, List.append_nil] at hlines

theorem strstrFound_sample {sha256 line : CStr} (h : line ∈ sampleManifestLines sha256) :
    strstrFound (sampleManifestText sha256) line = true := by
  rw [strstrFound_iff, sampleManifestText, List.flatMap_def]
  have hline := List.infix_of_mem_flatten (List.mem_map_of_mem (f := (· ++ [cchar '\n'])) h)
  exact (List.prefix_append line _).isInfix.trans hline

/-- All texts. -/
def ManifestText.all : List ManifestText :=
  [.version, .commit, .channel, .source, .kernelPath, .kernelSha256, .efiPath, .efiSha256, .liminePath, .limineSha256,
    .packageSource, .packageCommit, .packageIndexPath, .packageIndexSha256]

/-- All sizes. -/
def ManifestSize.all : List ManifestSize := [.kernel, .efi, .limine, .packageIndex]

theorem sampleManifestLines_values : ∀ n ∈ [64, 65],
    (∀ f ∈ ManifestText.all, (((sampleManifestLines (List.replicate n (cchar '0'))).find? (isManifestLine f.spec.1)).map
        (·.drop (f.spec.1.length + 1))).map (·.take (f.spec.2 - 1)) = some (sampleManifest.text f)) ∧
      (∀ f ∈ ManifestSize.all, ((((sampleManifestLines (List.replicate n (cchar '0'))).find? (isManifestLine f.key)).map
        (·.drop (f.key.length + 1))).map (·.take 31)).bind parseSizeValue = some (sampleManifest.size f)) ∧
      ∀ line ∈ sampleManifestLines (List.replicate n (cchar '0')), ∀ c ∈ line, decide (c = cchar '\n') = false := by
  decide +kernel

/-- The manifest is accepted with a digest, and with a longer one, of which it keeps the first 64 characters. -/
theorem parseUpdateManifest_sample {n : Nat} (h : n ∈ [64, 65]) :
    parseUpdateManifest (sampleManifestText (List.replicate n (cchar '0'))) = some sampleManifest := by
  obtain ⟨htexts, hsizes, hplain⟩ := sampleManifestLines_values n h
  have hlines := cstrLines_sample hplain
  refine parseUpdateManifest_eq_some.mpr ⟨⟨strstrFound_sample (by simp [sampleManifestLines]),
    strstrFound_sample (by simp [sampleManifestLines])⟩, fun f => ?_, fun f => ?_, by decide +kernel, by decide +kernel⟩
  · rw [manifestCopyValue_eq, manifestLineValue, hlines]
    exact htexts f (by cases f <;> decide)
  · rw [manifestSizeValue, manifestCopyValue_eq, manifestLineValue, hlines]
    exact hsizes f (by cases f <;> decide)

theorem parseUpdateManifest_exact_sample :
    ManifestExact (sampleManifestText (List.replicate 64 (cchar '0'))) sampleManifest ↔
      ManifestFits (sampleManifestText (List.replicate 64 (cchar '0'))) :=
  parseUpdateManifest_exact_iff _ _ (parseUpdateManifest_sample (by decide))

/-- A digest of 65 characters is accepted and is not the value of its line. -/
theorem parseUpdateManifest_cut : ¬ ∀ text m, parseUpdateManifest text = some m → ManifestExact text m := by
  intro h
  have hsample : parseUpdateManifest (sampleManifestText (List.replicate 65 (cchar '0'))) = some sampleManifest :=
    parseUpdateManifest_sample (by decide)
  have hwhole := (h _ _ hsample).texts .kernelSha256
  have hlines := cstrLines_sample (sampleManifestLines_values 65 (by decide)).2.2
  rw [manifestLineValue, hlines] at hwhole
  exact absurd hwhole (by decide +kernel)

end Orizon
