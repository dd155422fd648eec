import Mathlib.Data.Option.Basic

/-!
# Orizon.Lib.Agree

Two runs of one reader on different inputs: they agree, and what they find has a property
that the next step needs.
-/

namespace Orizon

variable {α β : Type*} {P : α → Prop} {Q : β → Prop} {x x' : Option α} {f f' : α → Option β}

/-- The two results are the same, and a result there is has the property. -/
structure Agrees (P : α → Prop) (x x' : Option α) : Prop where
  eq : x' = x
  holds : ∀ a, x = some a → P a

theorem agrees_none : Agrees P none none := ⟨rfl, fun _ h => nomatch h⟩

theorem agrees_some {a : α} (h : P a) : Agrees P (some a) (some a) := ⟨rfl, fun _ hb => Option.some.inj hb ▸ h⟩

theorem Agrees.bind (h : Agrees P x x') (hf : ∀ a, P a → Agrees Q (f a) (f' a)) : Agrees Q (x.bind f) (x'.bind f') := by
  rw [h.eq]
  cases hx : x with
  | none => exact agrees_none
  | some a => exact hf a (h.holds a hx)

end Orizon
