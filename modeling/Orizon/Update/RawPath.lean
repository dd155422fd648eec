import Orizon.System.Printf
import Orizon.Update.Manifest

/-!
# Orizon.Update.RawPath

The paths that `system/update.c` downloads from: `build_prefixed_raw_path` and
`build_package_raw_prefix`.

Both take what `snprintf` returns for the length of the whole text, and it is the length of what
was written.  The test for a text that does not fit therefore never succeeds, and a path that is
cut is a success (`rawPaths_complete_iff`).
-/

namespace Orizon

/-! ## The code -/

/-- `build_prefixed_raw_path`: the value and what is in `out`; a text that is `none` is `NULL`. -/
def buildPrefixedRawPath (rawPrefix relative : Option CStr) (outSize : Nat) : Option (Int × CStr) :=
  match rawPrefix, relative with
  | some rawPrefix, some relative =>
      if outSize = 0 then some (-1, [])
      else
        (snprintf outSize (cstr "%s%s") [.text (some rawPrefix), .text (some (relative.dropWhile (· = slash)))]).map
          fun out => (if cInt out.length < cInt outSize then 0 else -1, out)
  | _, _ => some (-1, [])

/-- `build_package_raw_prefix` for the `package_commit` of a manifest. -/
def buildPackageRawPrefix (packageCommit : CStr) (outSize : Nat) : Option (Int × CStr) :=
  if outSize = 0 ∨ !updateTokenSafe packageCommit then some (-1, [])
  else
    (snprintf outSize (cstr "/Orizon-cmd/Orizon-Packages/%s/") [.text (some packageCommit)]).map
      fun out => (if cInt out.length < cInt outSize then 0 else -1, out)

/-! ## What they write -/

/-- A success has the whole text, and a text that does not fit is an error. -/
def CompleteOrError (text : CStr) (outSize : Nat) (r : Int × CStr) : Prop :=
  (r.1 = 0 → r.2 = text) ∧ (¬ text.length < outSize → r.1 ≠ 0)

/-- The path of a file in a repository. -/
def rawPath (rawPrefix relative : CStr) : CStr := rawPrefix ++ relative.dropWhile (· = slash)

/-- The path of the package repository at a commit. -/
def packageRawPrefix (packageCommit : CStr) : CStr :=
  cstr "/Orizon-cmd/Orizon-Packages/" ++ (packageCommit ++ [slash])

section Paths

variable {rawPrefix relative packageCommit text : CStr} {outSize n : Nat}

theorem cInt_snprintf_lt {format : CStr} {args : List FormatArg} (hpos : 0 < outSize) (hsize : outSize < 2 ^ 31)
    (h : snprintf outSize format args = some text) : cInt text.length < cInt outSize := by
  have hlt := length_snprintf_lt hpos h
  rw [cInt_of_lt (by omega), cInt_of_lt hsize]
  omega

theorem formats_rawPath (rawPrefix relative : CStr) :
    Formats (cstr "%s%s") [.text (some rawPrefix), .text (some relative)] (rawPrefix ++ relative) := by
  have h : Formats (cchar '%' :: cchar 's' :: [cchar '%', cchar 's'])
      [.text (some rawPrefix), .text (some relative)] (rawPrefix ++ (relative ++ [])) := Formats.nil.string.string
  rwa [List.append_nil] at h

theorem formats_packageRawPrefix (packageCommit : CStr) :
    Formats (cstr "/Orizon-cmd/Orizon-Packages/%s/") [.text (some packageCommit)] (packageRawPrefix packageCommit) := by
  have hformat : cstr "/Orizon-cmd/Orizon-Packages/%s/" =
      cstr "/Orizon-cmd/Orizon-Packages/" ++ cchar '%' :: cchar 's' :: [slash] := by decide +kernel
  have hslash : slash ≠ cchar '%' := by decide
  rw [hformat]
  exact ((Formats.nil.char hslash).string).literal (by decide +kernel)

theorem buildPrefixedRawPath_eq (hpos : 0 < outSize) (hsize : outSize < 2 ^ 31) :
    buildPrefixedRawPath (some rawPrefix) (some relative) outSize =
      some (0, (rawPath rawPrefix relative).take (outSize - 1)) := by
  have hout := (formats_rawPath rawPrefix (relative.dropWhile (· = slash))).snprintf_eq outSize
  have htest := cInt_snprintf_lt hpos hsize hout
  simp only [buildPrefixedRawPath]
  rw [if_neg (by omega), hout, Option.map_some, if_pos htest]
  rfl

theorem buildPackageRawPrefix_eq (hpos : 0 < outSize) (hsize : outSize < 2 ^ 31)
    (hsafe : updateTokenSafe packageCommit = true) :
    buildPackageRawPrefix packageCommit outSize = some (0, (packageRawPrefix packageCommit).take (outSize - 1)) := by
  have hout := (formats_packageRawPrefix packageCommit).snprintf_eq outSize
  have htest := cInt_snprintf_lt hpos hsize hout
  rw [buildPackageRawPrefix, if_neg (by simp [hsafe]; omega), hout, Option.map_some, if_pos htest]

theorem completeOrError_take_iff (hpos : 0 < outSize) :
    CompleteOrError text outSize (0, text.take (outSize - 1)) ↔ text.length < outSize := by
  unfold CompleteOrError
  constructor
  · rintro ⟨-, herror⟩
    by_contra hlong
    exact herror hlong rfl
  · intro hfits
    exact ⟨fun _ => List.take_of_length_le (by omega), fun hlong => absurd hfits hlong⟩

theorem completeOrError_error : CompleteOrError text outSize (-1, []) := ⟨by simp, by simp⟩

/-- The paths are whole or an error exactly if they fit; the package path of a commit that is refused
is an error anyway. -/
theorem rawPaths_complete_iff (rawPrefix relative packageCommit : CStr) (outSize : Nat) (hsize : outSize < 2 ^ 31) :
    ((∃ r, buildPrefixedRawPath (some rawPrefix) (some relative) outSize = some r ∧
        CompleteOrError (rawPath rawPrefix relative) outSize r) ↔
      outSize = 0 ∨ (rawPath rawPrefix relative).length < outSize) ∧
    ((∃ r, buildPackageRawPrefix packageCommit outSize = some r ∧
        CompleteOrError (packageRawPrefix packageCommit) outSize r) ↔
      outSize = 0 ∨ updateTokenSafe packageCommit = false ∨ (packageRawPrefix packageCommit).length < outSize) := by
  obtain rfl | hpos := Nat.eq_zero_or_pos outSize
  · refine ⟨iff_of_true ⟨_, rfl, completeOrError_error⟩ (.inl rfl),
      iff_of_true ⟨_, ?_, completeOrError_error⟩ (.inl rfl)⟩
    simp [buildPackageRawPrefix]
  · refine ⟨?_, ?_⟩
    · rw [buildPrefixedRawPath_eq hpos hsize]
      simp [completeOrError_take_iff hpos, hpos.ne']
    · cases hsafe : updateTokenSafe packageCommit with
      | false =>
          refine iff_of_true ⟨_, ?_, completeOrError_error⟩ (.inr (.inl rfl))
          simp [buildPackageRawPrefix, hsafe]
      | true =>
          rw [buildPackageRawPrefix_eq hpos hsize hsafe]
          simp [completeOrError_take_iff hpos, hpos.ne']

end Paths

theorem rawPaths_complete_short :
    (∃ r, buildPrefixedRawPath (some (cstr "/r/")) (some (cstr "/f")) 240 = some r ∧
        CompleteOrError (rawPath (cstr "/r/") (cstr "/f")) 240 r) ∧
      ∃ r, buildPackageRawPrefix (cstr "c") 160 = some r ∧ CompleteOrError (packageRawPrefix (cstr "c")) 160 r :=
  ⟨(rawPaths_complete_iff (cstr "/r/") (cstr "/f") (cstr "c") 240 (by decide)).1.mpr (.inr (by decide +kernel)),
    (rawPaths_complete_iff (cstr "/r/") (cstr "/f") (cstr "c") 160 (by decide)).2.mpr (.inr (.inr (by decide +kernel)))⟩

/-- A package path of 179 characters behind a commit of 63 is cut to 239 and a success. -/
theorem rawPaths_cut : ¬ ∀ rawPrefix relative, ∃ r, buildPrefixedRawPath (some rawPrefix) (some relative) 240 = some r ∧
    CompleteOrError (rawPath rawPrefix relative) 240 r := by
  intro h
  obtain ⟨r, hr, hcomplete⟩ := h (packageRawPrefix (List.replicate 63 (cchar 'c'))) (List.replicate 179 (cchar 'p'))
  rw [buildPrefixedRawPath_eq (by decide) (by decide)] at hr
  obtain rfl := Option.some.inj hr
  exact absurd ((completeOrError_take_iff (by decide)).mp hcomplete) (by decide +kernel)

end Orizon
