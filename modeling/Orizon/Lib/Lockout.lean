import Mathlib.Tactic.Common

/-!
# Orizon.Lib.Lockout

A lockout counter: failures are counted, and the one that reaches the limit
locks for a time and starts the count again.

From any state, as many failures as the limit lock at least once, so whoever
waits for the lock to end is kept away for its length from the first of them
(`Lockout.Covers.locked`).
-/

namespace Orizon

/-- The failures counted, and the end of the lock. -/
structure Lockout where
  failures : Nat
  lockedUntil : Nat

namespace Lockout

/-- A failure at the time `now`, with the limit `limit` and the length `length` of the
lock. -/
def fail (limit length now : Nat) (l : Lockout) : Lockout :=
  if limit ≤ l.failures + 1 then ⟨0, now + length⟩ else ⟨l.failures + 1, l.lockedUntil⟩

/-- After `count` failures, the first of them not before `first`: the lock covers the
time from `first` on, or the failures are counted and below the limit. -/
def Covers (limit length first count : Nat) (l : Lockout) : Prop :=
  first + length ≤ l.lockedUntil ∨ count ≤ l.failures ∧ count < limit

variable {limit length first now count : Nat} {l : Lockout}

theorem covers_fail (h : Covers limit length first count l) (hnow : first ≤ now) :
    Covers limit length first (count + 1) (l.fail limit length now) := by
  unfold Covers fail at *
  split
  · exact .inl (Nat.add_le_add_right hnow length)
  · exact h.imp id fun h => by dsimp only; omega

theorem covers_fail_first (l : Lockout) (hnow : first ≤ now) :
    Covers limit length first 1 (l.fail limit length now) := by
  unfold Covers fail
  split
  · exact .inl (Nat.add_le_add_right hnow length)
  · exact .inr (by dsimp only; omega)

theorem Covers.locked (h : Covers limit length first count l) (hcount : limit ≤ count) :
    first + length ≤ l.lockedUntil := by
  unfold Covers at h
  omega

end Lockout

end Orizon
