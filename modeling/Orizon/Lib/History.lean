import Mathlib.Data.List.Basic
import Mathlib.Tactic.Common

/-!
# Orizon.Lib.History

Properties of the past of a system that records its events, the newest first.

`History Q` says that every event stood in the relation `Q` to the events
before it, and `Since stop p` that `p` was true of an event that no `stop` has
followed.  Both are decided by the last event and the rest, which is how a
step of the system is checked; a history can be read off at any split of the
record, and what was true since an event may still be true now, which is how
they are used.
-/

namespace Orizon

section History

variable {α : Type*}

/-- Every event stands in the relation to its past. -/
def History (Q : α → List α → Prop) : List α → Prop
  | [] => True
  | e :: older => Q e older ∧ History Q older

/-- `p` was true of an event, with its past, and no `stop` followed. -/
def Since (stop : α → Prop) (p : α → List α → Prop) : List α → Prop
  | [] => False
  | e :: older => p e older ∨ ¬ stop e ∧ Since stop p older

variable {Q Q' : α → List α → Prop} {stop stop' : α → Prop} {p p' : α → List α → Prop}
  {e : α} {newer older trace : List α}

@[simp] theorem history_nil : History Q [] := trivial

@[simp] theorem history_cons : History Q (e :: older) ↔ Q e older ∧ History Q older := Iff.rfl

@[simp] theorem not_since_nil : ¬ Since stop p [] := id

@[simp] theorem since_cons : Since stop p (e :: older) ↔ p e older ∨ ¬ stop e ∧ Since stop p older :=
  Iff.rfl

theorem History.of_append (h : History Q (newer ++ older)) : History Q older := by
  induction newer with
  | nil => exact h
  | cons e newer ih => exact ih h.2

theorem History.split (h : History Q (newer ++ e :: older)) : Q e older := h.of_append.1

theorem History.append (hnewer : ∀ new e rest, newer = new ++ e :: rest → Q e (rest ++ older))
    (h : History Q older) : History Q (newer ++ older) := by
  induction newer with
  | nil => exact h
  | cons e newer ih =>
      refine ⟨hnewer [] e newer rfl, ih fun new e' rest hsplit => ?_⟩
      exact hnewer (e :: new) e' rest (by rw [hsplit, List.cons_append])

theorem Since.mono (h : Since stop p trace) (himp : ∀ e older, p e older → p' e older) :
    Since stop p' trace := by
  induction trace with
  | nil => exact h
  | cons e older ih => exact h.imp (himp e older) fun h => ⟨h.1, ih h.2⟩

/-- What was true of the event implies another property of it, where every event stood in
a relation to its past. -/
theorem Since.mono_history (h : Since stop p trace) (hpast : History Q trace)
    (himp : ∀ e older, Q e older → p e older → p' e older) : Since stop p' trace := by
  induction trace with
  | nil => exact h
  | cons e older ih => exact h.imp (himp e older hpast.1) fun h => ⟨h.1, ih h.2 hpast.2⟩

/-- What the event says of its past, where it stays true of the present. -/
theorem Since.persists {P : List α → Prop} (h : Since stop p trace)
    (hp : ∀ e older, p e older → P (e :: older))
    (hcons : ∀ e older, ¬ stop e → P older → P (e :: older)) : P trace := by
  induction trace with
  | nil => exact absurd h not_since_nil
  | cons e older ih =>
      obtain hnow | ⟨hstop, hbefore⟩ := h
      · exact hp e older hnow
      · exact hcons e older hstop (ih hbefore)

/-- Of two properties one was true of an event and the other of none: so it was not
true of that event. -/
theorem Since.diff (h : Since stop p trace) (hnot : ¬ Since stop p' trace) :
    Since stop (fun e older => p e older ∧ ¬ p' e older) trace := by
  induction trace with
  | nil => exact h
  | cons e older ih =>
      rw [since_cons, not_or] at hnot
      obtain hnow | ⟨hstop, hbefore⟩ := h
      · exact .inl ⟨hnow, hnot.1⟩
      · exact .inr ⟨hstop, ih hbefore fun h => hnot.2 ⟨hstop, h⟩⟩

theorem Since.cons (h : Since stop p older) (he : ¬ stop e) : Since stop p (e :: older) :=
  .inr ⟨he, h⟩

end History

end Orizon
