import Mathlib.Control.Basic

/-!
# Orizon.Lib.Attempt

Procedures that give up with an error, or never end: `Attempt ε α` is a run that
returns a value, stops with an error of `ε`, or is `none`.

`Returns` is the only way such a run is read: one lemma for each way to build a
run says when it returns, so that a long procedure is taken apart by `simp`.
-/

namespace Orizon

/-- A run that may stop with an error or not end. -/
abbrev Attempt (ε α : Type) : Type := ExceptT ε Option α

namespace Attempt

variable {ε α β : Type}

/-- The run returns this value. -/
def Returns (x : Attempt ε α) (a : α) : Prop := x.run = some (.ok a)

/-- Stop with the error unless the condition holds. -/
def require (c : Prop) [Decidable c] (e : ε) : Attempt ε Unit := if c then pure () else throw e

/-- Stop with the error when there is no answer. -/
def answer (x : Option α) (e : ε) : Attempt ε α :=
  match x with
  | none => throw e
  | some a => pure a

/-- Stop with the error made from a refusal. -/
def refuse (x : Option α) (e : α → ε) : Attempt ε Unit :=
  match x with
  | none => pure ()
  | some a => throw (e a)

/-- A part of the run that may not end. -/
def await (x : Option α) : Attempt ε α := ExceptT.lift x

@[simp] theorem returns_pure {a b : α} : Returns (pure a : Attempt ε α) b ↔ a = b := by
  simp [Returns]

@[simp] theorem returns_throw {e : ε} {a : α} : ¬ Returns (throw e : Attempt ε α) a := by
  simp [Returns]

@[simp] theorem returns_bind {x : Attempt ε α} {f : α → Attempt ε β} {b : β} :
    Returns (x >>= f) b ↔ ∃ a, Returns x a ∧ Returns (f a) b := by
  simp only [Returns, ExceptT.run_bind, Option.bind_eq_bind, Option.bind_eq_some_iff]
  constructor
  · rintro ⟨a | a, hx, hf⟩
    · simp at hf
    · exact ⟨a, hx, hf⟩
  · rintro ⟨a, hx, hf⟩
    exact ⟨.ok a, hx, hf⟩

@[simp] theorem returns_require {c : Prop} [Decidable c] {e : ε} {u : Unit} :
    Returns (require c e) u ↔ c := by
  unfold require
  split <;> simp_all

@[simp] theorem returns_answer {x : Option α} {e : ε} {a : α} :
    Returns (answer x e) a ↔ x = some a := by
  cases x <;> simp [answer]

@[simp] theorem returns_refuse {x : Option α} {e : α → ε} {u : Unit} :
    Returns (refuse x e) u ↔ x = none := by
  cases x <;> simp [refuse]

@[simp] theorem returns_await {x : Option α} {a : α} :
    Returns (await x : Attempt ε α) a ↔ x = some a := by
  simp [Returns, await]

end Attempt

end Orizon
