import Mathlib.Tactic.Common

/-!
# Orizon.Lib.Checked

Reading and writing a buffer with every access checked.

A computation on a buffer has a result, or it has gone outside of the buffer, or it is a loop
that was not over after all its rounds.  `Safe P c` says that there is a result, with the
property `P`; the rules below carry it through a computation.
-/

namespace Orizon

/-- Why there is no result. -/
inductive ReadFault
  | outside
  | endless
deriving DecidableEq, Repr

/-- A computation on buffers. -/
abbrev Checked (α : Type) := Except ReadFault α

variable {α β : Type} {P : α → Prop} {Q : β → Prop} {c : Checked α} {f : α → Checked β}

/-- `p[i]`. -/
def readAt (p : List α) (i : Nat) : Checked α :=
  match p[i]? with
  | some b => .ok b
  | none => .error .outside

/-- Writing from `off` on. -/
def writeAll (p : List α) (off : Nat) (bytes : List α) : Checked (List α) :=
  if off + bytes.length ≤ p.length then .ok (p.take off ++ bytes ++ p.drop (off + bytes.length))
  else .error .outside

/-- The `n` from `off` on, by their place. -/
def sliceAt (p : List α) (off n : Nat) : Checked (List α) :=
  if off + n ≤ p.length then .ok ((p.drop off).take n) else .error .outside

/-- Slot `i` of an array of `cap`. -/
def slotAt (cap i : Nat) : Checked Unit := if i < cap then pure () else .error .outside

/-- Filling a buffer of `cap` from its start on. -/
def fillBuffer (cap : Nat) (bytes : List α) : Checked (List α) :=
  if bytes.length ≤ cap then .ok bytes else .error .outside

/-- Reading `n` from `off` on, one by one. -/
def readRange (p : List α) : Nat → Nat → Checked (List α)
  | _, 0 => pure []
  | off, n + 1 => do
      let b ← readAt p off
      let rest ← readRange p (off + 1) n
      pure (b :: rest)

/-- Comparing what is at `off` with `bytes`, up to the first that differs. -/
def matchesAt [DecidableEq α] (p : List α) : Nat → List α → Checked Bool
  | _, [] => pure true
  | off, b :: bytes => do
      let a ← readAt p off
      if a = b then matchesAt p (off + 1) bytes else pure false

/-- There is a result, with the property. -/
def Safe (P : α → Prop) (c : Checked α) : Prop := ∃ a, c = .ok a ∧ P a

@[simp] theorem checked_bind (a : α) : (Except.ok a : Checked α) >>= f = f a := rfl

@[simp] theorem checked_pure (a : α) : (pure a : Checked α) = .ok a := rfl

theorem safe_ok {a : α} (h : P a) : Safe P (.ok a) := ⟨a, rfl, h⟩

theorem safe_pure {a : α} (h : P a) : Safe P (pure a : Checked α) := safe_ok h

theorem Safe.bind (h : Safe P c) (hf : ∀ a, P a → Safe Q (f a)) : Safe Q (c >>= f) := by
  obtain ⟨a, rfl, ha⟩ := h
  exact hf a ha

theorem Safe.mono (h : Safe P c) {P' : α → Prop} (himp : ∀ a, P a → P' a) : Safe P' c := by
  obtain ⟨a, rfl, ha⟩ := h
  exact safe_ok (himp a ha)

theorem safe_readAt {p : List α} {i : Nat} (hi : i < p.length) : Safe (fun b => p[i]? = some b) (readAt p i) := by
  rw [readAt, List.getElem?_eq_getElem hi]
  exact safe_ok rfl

theorem readAt_of_drop {p rest : List α} {i : Nat} {b : α} (h : p.drop i = b :: rest) : readAt p i = .ok b := by
  have hget : p[i]? = some b := by rw [← List.head?_drop, h, List.head?_cons]
  rw [readAt, hget]

theorem writeAll_append {done rest bytes : List α} {off : Nat} (hoff : off = done.length)
    (h : bytes.length ≤ rest.length) :
    writeAll (done ++ rest) off bytes = .ok (done ++ bytes ++ rest.drop bytes.length) := by
  subst hoff
  rw [writeAll, if_pos (by simp [h]), List.take_left, List.drop_length_add_append]

theorem writeAll_middle {done old bytes rest : List α} {off : Nat} (hoff : off = done.length)
    (h : bytes.length = old.length) :
    writeAll (done ++ old ++ rest) off bytes = .ok (done ++ bytes ++ rest) := by
  rw [List.append_assoc, writeAll_append hoff (by simp; omega), h, List.drop_left]

/-- Writing behind what is done and a gap, where all else is the same. -/
theorem writeAll_gap {done bytes : List α} {off g n k : Nat} {z : α} (hoff : off = done.length + g)
    (h : g + bytes.length + k = n) :
    writeAll (done ++ List.replicate n z) off bytes =
      .ok (done ++ List.replicate g z ++ bytes ++ List.replicate k z) := by
  have hsplit : List.replicate n z = List.replicate g z ++ List.replicate (bytes.length + k) z := by
    rw [List.replicate_append_replicate, ← h, Nat.add_assoc]
  rw [hsplit, ← List.append_assoc, writeAll_append (by simp [hoff]) (by simp), List.drop_replicate,
    Nat.add_sub_cancel_left]

theorem writeAll_replicate {done bytes : List α} {off n k : Nat} {z : α} (hoff : off = done.length)
    (h : bytes.length + k = n) :
    writeAll (done ++ List.replicate n z) off bytes = .ok (done ++ bytes ++ List.replicate k z) := by
  have hgap :=
      writeAll_gap (g := 0) (z := z) (hoff.trans (Nat.add_zero _).symm) ((congrArg (· + k) (Nat.zero_add _)).trans h)
  rwa [List.replicate_zero, List.append_nil] at hgap

theorem writeAll_outside {p bytes : List α} {off : Nat} (h : p.length < off + bytes.length) :
    writeAll p off bytes = .error .outside := by
  rw [writeAll, if_neg (by omega)]

theorem slotAt_eq {cap i : Nat} (h : i < cap) : slotAt cap i = .ok () := if_pos h

theorem sliceAt_eq {p : List α} {off n : Nat} (h : off + n ≤ p.length) :
    sliceAt p off n = .ok ((p.drop off).take n) := if_pos h

theorem fillBuffer_eq {cap : Nat} {bytes : List α} (h : bytes.length ≤ cap) :
    fillBuffer cap bytes = .ok bytes := if_pos h

theorem readAt_eq {p : List α} {i : Nat} (hi : i < p.length) : readAt p i = .ok p[i] := by
  rw [readAt, List.getElem?_eq_getElem hi]

theorem readAt_getD {p : List α} {i : Nat} (z : α) (hi : i < p.length) : readAt p i = .ok (p.getD i z) := by
  rw [readAt_eq hi, List.getD_eq_getElem?_getD, List.getElem?_eq_getElem hi, Option.getD_some]

theorem readRange_eq {p : List α} {off n : Nat} (h : off + n ≤ p.length) :
    readRange p off n = .ok ((p.drop off).take n) := by
  induction n generalizing off with
  | zero => rfl
  | succ n ih =>
      have hoff : off < p.length := by omega
      rw [readRange, readAt_eq hoff, checked_bind, ih (by omega), checked_bind, checked_pure,
        List.drop_eq_getElem_cons hoff, List.take_succ_cons]

theorem matchesAt_eq [DecidableEq α] {p bytes : List α} {off : Nat} (h : off + bytes.length ≤ p.length) :
    matchesAt p off bytes = .ok (decide ((p.drop off).take bytes.length = bytes)) := by
  induction bytes generalizing off with
  | nil => simp [matchesAt]
  | cons b bytes ih =>
      rw [List.length_cons] at h
      have hoff : off < p.length := by omega
      rw [matchesAt, readAt_eq hoff, checked_bind, ih (by omega), List.drop_eq_getElem_cons hoff,
        List.length_cons, List.take_succ_cons]
      by_cases hb : p[off] = b <;> simp [hb]

theorem not_safe_error {e : ReadFault} : ¬ Safe P (.error e) := by
  rintro ⟨a, ha, -⟩
  cases ha

end Orizon
