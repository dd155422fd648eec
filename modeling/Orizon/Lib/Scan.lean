import Mathlib.Logic.Basic

/-!
# Orizon.Lib.Scan

Candidates that are tried in order until one is accepted, where a candidate that is
rejected may leave something behind in the state.

If what is left behind is nothing that acceptance or its outcome can see, the first
candidate accepted is the one the first state accepts, and the outcome is that of this
candidate alone (`scanFirst_spec`).
-/

namespace Orizon

variable {σ α β : Type*}

/-- Try the candidates in order up to the first that is accepted. -/
def scanFirst (attempt : σ → α → Bool × σ) : σ → List α → Bool × σ
  | s, [] => (false, s)
  | s, a :: as => if (attempt s a).1 then (true, (attempt s a).2) else scanFirst attempt (attempt s a).2 as

/-- What an attempt may leave behind unseen: a rejected candidate leaves a related state,
and in related states a candidate fares alike. -/
structure Unseen (R : σ → σ → Prop) (attempt : σ → α → Bool × σ) : Prop where
  refl : ∀ s, R s s
  trans : ∀ {s t u}, R s t → R t u → R s u
  rejected : ∀ {s a}, (attempt s a).1 = false → R s (attempt s a).2
  accepts : ∀ {s t} a, R s t → (attempt t a).1 = (attempt s a).1
  outcome : ∀ {s t} a, R s t → R (attempt s a).2 (attempt t a).2

variable {R : σ → σ → Prop} {attempt : σ → α → Bool × σ}

/-- The candidate that the first state accepts first decides the outcome. -/
theorem scanFirst_spec (h : Unseen R attempt) (s : σ) (as : List α) :
    ((as.find? fun a => (attempt s a).1) = none →
        (scanFirst attempt s as).1 = false ∧ R s (scanFirst attempt s as).2) ∧
      ∀ a, (as.find? fun a => (attempt s a).1) = some a →
        (scanFirst attempt s as).1 = true ∧ R (attempt s a).2 (scanFirst attempt s as).2 := by
  induction as generalizing s with
  | nil => exact ⟨fun _ => ⟨rfl, h.refl s⟩, fun a ha => by simp at ha⟩
  | cons a as ih =>
      rw [List.find?_cons, scanFirst]
      cases ha : (attempt s a).1 with
      | true =>
          refine ⟨fun hnone => by simp at hnone, fun b hb => ?_⟩
          obtain rfl : a = b := by simpa using hb
          exact ⟨rfl, h.refl _⟩
      | false =>
          have hleft := h.rejected ha
          have hsame : (fun b => (attempt (attempt s a).2 b).1) = fun b => (attempt s b).1 :=
            funext fun b => h.accepts b hleft
          obtain ⟨hnone, hsome⟩ := ih (attempt s a).2
          rw [hsame] at hnone hsome
          simp only [Bool.false_eq_true, if_false]
          refine ⟨fun hfind => ?_, fun b hfind => ?_⟩
          · exact ⟨(hnone hfind).1, h.trans hleft (hnone hfind).2⟩
          · exact ⟨(hsome b hfind).1, h.trans (h.outcome b hleft) (hsome b hfind).2⟩

/-- The candidates behind are tried where none of those in front is accepted. -/
theorem scanFirst_append (s : σ) (as bs : List α) :
    scanFirst attempt s (as ++ bs) =
      if (scanFirst attempt s as).1 then scanFirst attempt s as
      else scanFirst attempt (scanFirst attempt s as).2 bs := by
  induction as generalizing s with
  | nil => simp [scanFirst]
  | cons a as ih =>
      rw [List.cons_append, scanFirst, scanFirst, ih]
      cases (attempt s a).1 <;> simp

theorem scanFirst_filterMap {f : β → Option α} {attempt' : σ → β → Bool × σ}
    (hnone : ∀ s b, f b = none → attempt' s b = (false, s))
    (hsome : ∀ s b a, f b = some a → attempt' s b = attempt s a) (s : σ) (bs : List β) :
    scanFirst attempt' s bs = scanFirst attempt s (bs.filterMap f) := by
  induction bs generalizing s with
  | nil => rfl
  | cons b bs ih =>
      rw [List.filterMap_cons, scanFirst]
      cases hb : f b with
      | none => simp [hnone s b hb, ih]
      | some a => simp [hsome s b a hb, scanFirst, ih]

end Orizon
