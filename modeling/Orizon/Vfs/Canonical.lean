import Orizon.Vfs.Path

/-!
# Orizon.Vfs.Canonical

Canonical absolute paths, and what `get_parent_path` does to them.

A canonical path other than the root is `d ++ slash :: name` with a
nonempty `name` without slashes, and then `get_parent_path` is `d`, or the
root if `d` is empty.
-/

namespace Orizon

/-- An absolute path without a trailing or doubled slash that fits `MAX_PATH`. -/
structure Canonical (p : CStr) : Prop where
  absolute : p.head? = some slash
  noTrailing : p ≠ [slash] → p.getLast? ≠ some slash
  noDouble : ∀ i, p[i]? = some slash → p[i + 1]? ≠ some slash
  length : p.length < maxPath

variable {p d name x y t : CStr}

theorem canonical_slash : Canonical [slash] := by
  refine ⟨rfl, fun hne => absurd rfl hne, fun i hi => ?_, by decide⟩
  obtain rfl := Nat.lt_one_iff.mp (List.getElem?_eq_some_iff.mp hi).1
  decide

theorem Canonical.ne_nil (h : Canonical p) : p ≠ [] := by
  rintro rfl
  cases h.absolute

/-! ## The last slash -/

theorem exists_lastSlash_split (h : slash ∈ p) :
    ∃ d name, p = d ++ slash :: name ∧ slash ∉ name := by
  induction p using List.reverseRecOn with
  | nil => cases h
  | append_singleton p c ih =>
      by_cases hc : c = slash
      · exact ⟨p, [], by rw [hc], List.not_mem_nil⟩
      · have hp : slash ∈ p := by
          rcases List.mem_append.mp h with hp | hlast
          · exact hp
          · exact absurd (List.mem_singleton.mp hlast).symm hc
        obtain ⟨d, name, rfl, hname⟩ := ih hp
        refine ⟨d, name ++ [c], by simp, ?_⟩
        simp only [List.mem_append, List.mem_singleton, not_or]
        exact ⟨hname, Ne.symm hc⟩

theorem lastSlash_succ (s : CStr) (n : Nat) :
    lastSlash s (n + 1) = if s[n]? = some slash then some n else lastSlash s n := by
  unfold lastSlash
  rw [List.range_succ, List.foldl_append]
  rfl

theorem lastSlash_lt {s : CStr} {n k : Nat} (h : lastSlash s n = some k) : k < n := by
  induction n with
  | zero => cases h
  | succ n ih =>
      rw [lastSlash_succ] at h
      split at h
      · obtain rfl := Option.some.inj h
        exact Nat.lt_succ_self _
      · exact Nat.lt_succ_of_lt (ih h)

theorem lastSlash_append (hname : slash ∉ name) {n : Nat} (hn : n ≤ name.length) :
    lastSlash (d ++ slash :: name) (d.length + 1 + n) = some d.length := by
  induction n with
  | zero =>
      rw [Nat.add_zero, lastSlash_succ, if_pos]
      simp
  | succ n ih =>
      have hget : (d ++ slash :: name)[d.length + 1 + n]? = name[n]? := by
        rw [List.getElem?_append_right (by omega), show d.length + 1 + n - d.length = n + 1 by omega,
          List.getElem?_cons_succ]
      rw [← Nat.add_assoc, lastSlash_succ, hget, if_neg, ih (by omega)]
      intro hslash
      exact hname (List.mem_of_getElem? hslash)

/-- Where the last slash of a path stands is decided by its last component. -/
theorem append_slash_eq (hname : slash ∉ name) (h : d ++ slash :: name = x ++ slash :: t) :
    d = x ∧ t = name ∨ ∃ t', d = x ++ slash :: t' ∧ t = t' ++ slash :: name := by
  rcases List.append_eq_append_iff.mp h with ⟨s, rfl, hs⟩ | ⟨s, rfl, hs⟩
  · cases s with
    | nil =>
        simp only [List.nil_append, List.cons.injEq, true_and] at hs
        exact Or.inl ⟨by simp, hs.symm⟩
    | cons c s =>
        simp only [List.cons_append, List.cons.injEq] at hs
        exact absurd (by rw [hs.2]; simp) hname
  · cases s with
    | nil =>
        simp only [List.nil_append, List.cons.injEq, true_and] at hs
        exact Or.inl ⟨by simp, hs⟩
    | cons c s =>
        simp only [List.cons_append, List.cons.injEq] at hs
        exact Or.inr ⟨s, by rw [hs.1], hs.2⟩

theorem getLast?_append_slash (hne : name ≠ []) :
    (d ++ slash :: name).getLast? = name.getLast? := by
  rw [List.getLast?_append, List.getLast?_cons_of_ne_nil hne, List.getLast?_eq_some_getLast hne]
  rfl

/-! ## Parents -/

theorem getParentPath_lt (path : CStr) :
    getParentPath path = [slash] ∨ (getParentPath path).length < path.length := by
  have hcopy : (strCpy maxPath path).val.length ≤ path.length := List.length_take_le' ..
  unfold getParentPath
  dsimp only
  split
  · exact Or.inl rfl
  · exact Or.inl rfl
  · next i hlast =>
      refine Or.inr ?_
      have hlt := lastSlash_lt hlast
      rw [List.length_take]
      split at hlt
      · rw [List.length_dropLast] at hlt
        omega
      · omega

/-- `get_parent_path` of a path with a last component. -/
theorem getParentPath_append (hname : slash ∉ name) (hne : name ≠ [])
    (hlen : (d ++ slash :: name).length < maxPath) :
    getParentPath (d ++ slash :: name) = if d = [] then [slash] else d := by
  have hlast : (d ++ slash :: name)[(d ++ slash :: name).length - 1]? ≠ some slash := by
    rw [← List.getLast?_eq_getElem?]
    rw [getLast?_append_slash hne]
    exact fun hslash => hname (List.mem_of_getLast? hslash)
  unfold getParentPath
  rw [strCpy_of_lt hlen]
  dsimp only
  rw [if_neg (fun h => hlast h.2)]
  have hlength : (d ++ slash :: name).length = d.length + 1 + name.length := by
    simp
    omega
  rw [hlength, lastSlash_append hname le_rfl]
  cases hd : d with
  | nil => rfl
  | cons c d' => simp

/-- A canonical path other than the root is its parent, a slash and a name. -/
theorem Canonical.split (h : Canonical p) (hroot : p ≠ [slash]) :
    ∃ d name, p = d ++ slash :: name ∧ slash ∉ name ∧ name ≠ [] ∧
      (d = [] ∨ Canonical d ∧ d ≠ [slash]) := by
  obtain ⟨d, name, rfl, hname⟩ := exists_lastSlash_split (List.mem_of_head? h.absolute)
  have hne : name ≠ [] := by
    rintro rfl
    exact h.noTrailing hroot (by simp)
  refine ⟨d, name, rfl, hname, hne, ?_⟩
  -- nothing but a name follows the slash, so `d` does not end in one
  have hdlast : d.getLast? ≠ some slash := by
    intro hlast
    rw [List.getLast?_eq_getElem?] at hlast
    have hpos : d.length ≠ 0 := by
      intro hzero
      rw [hzero, List.length_eq_zero_iff.mp hzero] at hlast
      cases hlast
    refine h.noDouble (d.length - 1) ?_ ?_
    · rw [List.getElem?_append_left (by omega)]
      exact hlast
    · rw [Nat.sub_add_cancel (by omega)]
      simp
  cases d with
  | nil => exact Or.inl rfl
  | cons c d =>
      refine Or.inr ⟨⟨?_, fun _ => hdlast, fun i hi => ?_, ?_⟩, ?_⟩
      · simpa using h.absolute
      · intro hnext
        have hlt : i + 1 < (c :: d).length := (List.getElem?_eq_some_iff.mp hnext).1
        refine h.noDouble i ?_ ?_
        · rw [List.getElem?_append_left (by omega)]
          exact hi
        · rw [List.getElem?_append_left hlt]
          exact hnext
      · have hlen := h.length
        rw [List.length_append] at hlen
        omega
      · intro heq
        rw [heq] at hdlast
        exact hdlast rfl

theorem Canonical.append (hx : Canonical x) (hroot : x ≠ [slash]) (hy : Canonical (y ++ slash :: t))
    (ht : t ≠ []) (hlen : (x ++ slash :: t).length < maxPath) : Canonical (x ++ slash :: t) := by
  have hxne := hx.ne_nil
  have hyroot : y ++ slash :: t ≠ [slash] := by
    intro heq
    have hlength := congrArg List.length heq
    have := List.length_pos_iff.mpr ht
    simp at hlength
    omega
  refine ⟨?_, fun _ => ?_, fun i hi hnext => ?_, hlen⟩
  · rw [List.head?_append_of_ne_nil _ hxne]
    exact hx.absolute
  · rw [getLast?_append_slash ht, ← getLast?_append_slash ht]
    exact hy.noTrailing hyroot
  · by_cases hlt : i < x.length
    · by_cases hlast : i + 1 < x.length
      · rw [List.getElem?_append_left hlt] at hi
        rw [List.getElem?_append_left hlast] at hnext
        exact hx.noDouble i hi hnext
      · rw [List.getElem?_append_left hlt] at hi
        refine hx.noTrailing hroot ?_
        rw [List.getLast?_eq_getElem?, show x.length - 1 = i by omega]
        exact hi
    · obtain ⟨k, rfl⟩ := Nat.exists_eq_add_of_le (Nat.le_of_not_lt hlt)
      rw [List.getElem?_append_right (by omega)] at hi hnext
      refine hy.noDouble (y.length + k) ?_ ?_
      · rw [List.getElem?_append_right (by omega)]
        simpa using hi
      · rw [List.getElem?_append_right (by omega)]
        rw [show x.length + k + 1 - x.length = k + 1 by omega] at hnext
        rw [show y.length + k + 1 - y.length = k + 1 by omega]
        exact hnext

end Orizon
