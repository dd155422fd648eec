import Mathlib.Control.Basic
import Mathlib.Tactic.Ring

/-!
# Orizon.Lib.Word

Fixed-width arithmetic, abstracted over what happens out of range.

A program written against `WordOps` runs on two machines.  `Id` is the
hardware: a result that does not fit its width wraps.  `Option` is the
checker: a result that does not fit aborts the run.  Both agree with
unbounded arithmetic on results that fit (`LawfulWordOps`), so one proof over
a lawful `m` gives the value the hardware computes and the fact that no
operation of the run leaves its width.
-/

namespace Orizon

/-- Arithmetic at a fixed width `w`: `word w x` is the result of an operation
whose exact result is `x`, and `wsub w x y` the difference of two words. -/
class WordOps (m : Type → Type) where
  word : Nat → Nat → m Nat
  wsub : Nat → Nat → Nat → m Nat

export WordOps (word wsub)

/-- In-range results are exact. -/
class LawfulWordOps (m : Type → Type) [Monad m] [WordOps m] : Prop where
  word_of_lt {w x : Nat} : x < 2 ^ w → word w x = (pure x : m Nat)
  wsub_of_le {w x y : Nat} : y ≤ x → x < 2 ^ w → wsub w x y = (pure (x - y) : m Nat)

export LawfulWordOps (word_of_lt wsub_of_le)

/-- The hardware: results wrap. -/
instance : WordOps Id where
  word w x := x % 2 ^ w
  wsub w x y := (x + (2 ^ w - y % 2 ^ w)) % 2 ^ w

/-- The checker: results out of range abort. -/
instance : WordOps Option where
  word w x := if x < 2 ^ w then some x else none
  wsub w x y := if y ≤ x ∧ x < 2 ^ w then some (x - y) else none

instance : LawfulWordOps Id where
  word_of_lt h := Nat.mod_eq_of_lt h
  wsub_of_le {w x y} hle hlt := by
    show (x + (2 ^ w - y % 2 ^ w)) % 2 ^ w = x - y
    rw [Nat.mod_eq_of_lt (Nat.lt_of_le_of_lt hle hlt),
      show x + (2 ^ w - y) = x - y + 2 ^ w by omega, Nat.add_mod_right]
    exact Nat.mod_eq_of_lt (by omega)

instance : LawfulWordOps Option where
  word_of_lt h := if_pos h
  wsub_of_le hle hlt := if_pos ⟨hle, hlt⟩

/-- A loop whose every step succeeds in relation `r` to an abstract step
succeeds in relation to the abstract loop. -/
theorem foldlM_pure_rel {m : Type → Type} [Monad m] [LawfulMonad m] {α : Type*} {β : Type}
    {γ : Type*} {r : β → γ → Prop} {f : β → α → m β} {g : γ → α → γ} (l : List α)
    (hstep : ∀ a ∈ l, ∀ b c, r b c → ∃ b', f b a = pure b' ∧ r b' (g c a)) {b : β} {c : γ}
    (h : r b c) : ∃ b', l.foldlM f b = pure b' ∧ r b' (l.foldl g c) := by
  induction l generalizing b c with
  | nil => exact ⟨b, List.foldlM_nil, h⟩
  | cons a l ih =>
      obtain ⟨b₁, hb₁, h₁⟩ := hstep a List.mem_cons_self b c h
      obtain ⟨b', hb', h'⟩ := ih (fun x hx => hstep x (List.mem_cons_of_mem a hx)) h₁
      exact ⟨b', by rw [List.foldlM_cons, hb₁, pure_bind, hb'], h'⟩

end Orizon
