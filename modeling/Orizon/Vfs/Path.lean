import Mathlib.Data.List.Basic
import Mathlib.Data.List.Infix
import Mathlib.Data.List.Chain
import Mathlib.Tactic.Ring

/-!
# Orizon.Vfs.Path

C strings, and the path functions of `fs/vfs.c`.

A string is the list of its bytes before the terminating NUL, so a `CChar`
is a nonzero byte.  A `char` array of `n` bytes holds a string shorter than
`n`; `strCpy` truncates to fit.
-/

namespace Orizon

/-! ## Strings -/

/-- A byte of a string. -/
abbrev CChar := { c : UInt8 // c ≠ 0 }

/-- A NUL-terminated string. -/
abbrev CStr := List CChar

instance : LawfulBEq CChar := inferInstance

instance : LawfulBEq CStr := inferInstance

-- a test of all characters of a string goes through the string, not through all bytes there are
instance (priority := 1100) decidableForallChars {p : CChar → Prop} [DecidablePred p] (l : CStr) :
    Decidable (∀ c ∈ l, p c) := List.decidableBAll p l

/-- The contents of a `char[n]` array that holds a string. -/
abbrev CBuf (n : Nat) := { s : CStr // s.length < n }

/-- A character constant. -/
def cchar (c : Char) : CChar :=
  if h : UInt8.ofNat c.toNat ≠ 0 then ⟨UInt8.ofNat c.toNat, h⟩ else ⟨1, by decide⟩

/-- A string literal. -/
def cstr (s : String) : CStr := s.toList.map cchar

/-- `'/'`. -/
def slash : CChar := cchar '/'

/-- The value of a `size_t` or pointer difference converted to `int`. -/
def cInt (n : Nat) : Int := if n % 2 ^ 32 < 2 ^ 31 then n % 2 ^ 32 else (n % 2 ^ 32 : Nat) - 2 ^ 32

/-- `str_cpy` into an array of `max` bytes. -/
def strCpy (max : Nat) [NeZero max] (src : CStr) : CBuf max :=
  ⟨src.take (max - 1), by
    have hpos := Nat.pos_of_ne_zero (NeZero.ne max)
    rw [List.length_take]
    omega⟩

/-- `strncmp(s1, s2, n) == 0`. -/
def strncmpEq (s1 s2 : CStr) (n : Nat) : Bool := s1.take n = s2.take n

/-! ## Paths -/

/-- `MAX_PATH`. -/
def maxPath : Nat := 256

/-- `MAX_NAME`. -/
def maxName : Nat := 64

instance : NeZero maxPath := ⟨by decide⟩

instance : NeZero maxName := ⟨by decide⟩

/-- The loop that finds the last slash among the first `len` characters;
`none` is -1. -/
def lastSlash (s : CStr) (len : Nat) : Option Nat :=
  (List.range len).foldl (fun last i => if s[i]? = some slash then some i else last) none

/-- `get_parent_path`. -/
def getParentPath (path : CStr) : CStr :=
  let parent := (strCpy maxPath path).val
  let parent :=
    if parent.length > 1 ∧ parent[parent.length - 1]? = some slash then parent.dropLast else parent
  match lastSlash parent parent.length with
  | none => [slash]
  | some 0 => [slash]
  | some (i + 1) => parent.take (i + 1)

/-- `get_filename`; the loop bound is an `int`. -/
def getFilename (path : CStr) : CBuf maxName :=
  match lastSlash path (cInt path.length).toNat with
  | none => strCpy maxName path
  | some i => strCpy maxName (path.drop (i + 1))

/-- `path_is_inside`; every prefix it is called with is a constant or a stored
path, so its length fits an `int`. -/
def pathIsInside (path pre : CStr) : Bool :=
  strncmpEq path pre pre.length && (path[pre.length]? = none || path[pre.length]? = some slash)

/-- The persistent roots. -/
def persistentRoots : List CStr :=
  [cstr "/workspace", cstr "/home", cstr "/system", cstr "/packages", cstr "/logs"]

/-- `path_should_persist`. -/
def pathShouldPersist (path : CStr) : Bool := persistentRoots.any fun root => pathIsInside path root

/-- `path_is_persistent_root`. -/
def pathIsPersistentRoot (path : CStr) : Bool := persistentRoots.any fun root => path = root

/-- `append_path_component` to a buffer of `size` bytes; `none` is -1. -/
def appendPathComponent (path : CStr) (size : Nat) (component : CStr) : Option CStr :=
  if component.length = 0 then some path
  else
    if path.length > 1 ∧ path.length + 1 ≥ size then none
    else
      let path := if path.length > 1 then path ++ [slash] else path
      if path.length + component.length ≥ size then none else some (path ++ component)

/-! ## Lemmas -/

section Lemmas

variable {path pre : CStr}

theorem strCpy_of_lt {max : Nat} [NeZero max] (h : path.length < max) :
    (strCpy max path).val = path :=
  List.take_of_length_le (by omega)

/-- A path is inside a prefix when what follows the prefix is empty or starts
with a slash. -/
theorem pathIsInside_iff : pathIsInside path pre = true ↔
    ∃ s, path = pre ++ s ∧ (s = [] ∨ ∃ t, s = slash :: t) := by
  unfold pathIsInside strncmpEq
  rw [List.take_length, Bool.and_eq_true, decide_eq_true_eq, Bool.or_eq_true, decide_eq_true_eq,
    decide_eq_true_eq]
  constructor
  · rintro ⟨htake, hnext⟩
    have hpath : path = pre ++ path.drop pre.length := by
      conv_lhs => rw [← List.take_append_drop pre.length path, htake]
    refine ⟨path.drop pre.length, hpath, ?_⟩
    rw [← List.head?_drop] at hnext
    cases hdrop : path.drop pre.length with
    | nil => exact Or.inl rfl
    | cons c t =>
        rw [hdrop] at hnext
        simp only [List.head?_cons, reduceCtorEq, Option.some.injEq, false_or] at hnext
        exact Or.inr ⟨t, by rw [hnext]⟩
  · rintro ⟨s, rfl, hs⟩
    refine ⟨by simp, ?_⟩
    rcases hs with rfl | ⟨t, rfl⟩ <;> simp

theorem drop_of_pathIsInside (h : pathIsInside path pre = true) :
    path = pre ++ path.drop pre.length := by
  obtain ⟨s, rfl, -⟩ := pathIsInside_iff.mp h
  simp

theorem cInt_of_lt {n : Nat} (h : n < 2 ^ 31) : cInt n = n := by
  unfold cInt
  split <;> omega

end Lemmas

end Orizon
