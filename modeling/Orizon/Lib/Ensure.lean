import Mathlib.Data.List.Basic

/-!
# Orizon.Lib.Ensure

A program that sees to one item after another, and leaves an item alone that is settled.

An item is settled after its step, and stays so as long as no step spoils it.  A list of items is
in order if no step spoils an earlier item, unless its own item is an earlier one too; then all
items are settled after the list (`Ensures.settled`), and a second pass leaves everything alone
(`foldl_idle`).
-/

namespace Orizon

variable {σ ι κ : Type*} {step : σ → ι → σ} {item : ι → κ} {Inv : σ → Prop} {Fit : ι → Prop} {Settled : σ → κ → Prop}
  {Spoils : κ → κ → Prop} {Idle : σ → σ → Prop} {l : List ι} {done : List κ} {s : σ}

/-- What the steps do to the items. -/
structure Ensures (step : σ → ι → σ) (item : ι → κ) (Inv : σ → Prop) (Fit : ι → Prop) (Settled : σ → κ → Prop)
    (Spoils : κ → κ → Prop) : Prop where
  inv : ∀ {s} i, Inv s → Inv (step s i)
  settles : ∀ {s i}, Fit i → Inv s → Settled (step s i) (item i)
  keeps : ∀ {s i k}, Fit i → Inv s → Settled s k → ¬ Spoils (item i) k ∨ Settled s (item i) → Settled (step s i) k

/-- No step spoils an earlier item, unless it is done again. -/
def InOrder (Spoils : κ → κ → Prop) (done : List κ) : List κ → Prop
  | [] => True
  | k :: rest => ((∀ j ∈ done, ¬ Spoils k j) ∨ k ∈ done) ∧ InOrder Spoils (k :: done) rest

instance InOrder.decidable [DecidableEq κ] [DecidableRel Spoils] :
    (done l : List κ) → Decidable (InOrder Spoils done l)
  | _, [] => isTrue trivial
  | done, k :: rest =>
      have := InOrder.decidable (k :: done) rest
      inferInstanceAs (Decidable (((∀ j ∈ done, ¬ Spoils k j) ∨ k ∈ done) ∧ InOrder Spoils (k :: done) rest))

theorem Ensures.inv_foldl (h : Ensures step item Inv Fit Settled Spoils) (hs : Inv s) (l : List ι) :
    Inv (l.foldl step s) :=
  List.foldlRecOn l step hs fun _ ht i _ => h.inv i ht

theorem Ensures.settled (h : Ensures step item Inv Fit Settled Spoils) (hfit : ∀ i ∈ l, Fit i)
    (horder : InOrder Spoils done (l.map item)) (hs : Inv s) (hdone : ∀ k ∈ done, Settled s k) :
    ∀ k, k ∈ done ∨ k ∈ l.map item → Settled (l.foldl step s) k := by
  induction l generalizing done s with
  | nil => simpa using hdone
  | cons i l ih =>
      obtain ⟨hspoils, hrest⟩ := horder
      have hi := hfit i List.mem_cons_self
      have hnext : ∀ k ∈ item i :: done, Settled (step s i) k := by
        intro k hk
        obtain rfl | hk := List.mem_cons.mp hk
        · exact h.settles hi hs
        · exact h.keeps hi hs (hdone k hk) (hspoils.imp (fun h => h k hk) (hdone _))
      intro k hk
      refine ih (fun j hj => hfit j (List.mem_cons_of_mem _ hj)) hrest (h.inv i hs) hnext k ?_
      simpa [or_assoc, or_left_comm] using hk

theorem foldl_idle (hrefl : ∀ s, Idle s s) (htrans : ∀ {s t u}, Idle s t → Idle t u → Idle s u)
    (hkeeps : ∀ {s t k}, Idle s t → Settled s k → Settled t k)
    (hstep : ∀ {s i}, i ∈ l → Settled s (item i) → Idle s (step s i)) (hs : ∀ i ∈ l, Settled s (item i)) :
    Idle s (l.foldl step s) := by
  induction l generalizing s with
  | nil => exact hrefl s
  | cons i l ih =>
      have hidle := hstep List.mem_cons_self (hs i List.mem_cons_self)
      refine htrans hidle (ih (fun hi => hstep (List.mem_cons_of_mem _ hi)) fun j hj => ?_)
      exact hkeeps hidle (hs j (List.mem_cons_of_mem _ hj))

end Orizon
