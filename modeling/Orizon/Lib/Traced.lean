import Mathlib.Tactic.Common

/-!
# Orizon.Lib.Traced

Computations that leave a trace of what they did.

A computation runs on a state, leaves events and may stop.  Some events are acts, which
are to be safe; others say what the computation is about to do, and with them goes a
requirement.  `Exact` says that the acts are safe just if the requirements are met, and
is carried by the parts of a computation to the whole.
-/

namespace Orizon

/-- A computation on a state that leaves events and may stop. -/
structure Traced (ε σ χ α : Type) where
  run : σ → Except χ α × σ × List ε

namespace Traced

variable {ε σ χ α β : Type}

/-- What a run returns. -/
def result (m : Traced ε σ χ α) (s : σ) : Except χ α := (m.run s).1

/-- The events of a run. -/
def trace (m : Traced ε σ χ α) (s : σ) : List ε := (m.run s).2.2

/-- One computation after another, if the first does not stop. -/
def andThen (m : Traced ε σ χ α) (f : α → Traced ε σ χ β) : Traced ε σ χ β where
  run := fun s =>
    match m.run s with
    | (.error x, s, events) => (.error x, s, events)
    | (.ok a, s, events) => (((f a).run s).1, ((f a).run s).2.1, events ++ ((f a).run s).2.2)

instance : Monad (Traced ε σ χ) where
  pure a := ⟨fun s => (.ok a, s, [])⟩
  bind := andThen

/-- Leave an event. -/
def leave (e : ε) : Traced ε σ χ Unit := ⟨fun s => (.ok (), s, [e])⟩

/-- Stop. -/
def stop (x : χ) : Traced ε σ χ α := ⟨fun s => (.error x, s, [])⟩

/-- Read the state. -/
def reads (f : σ → α) : Traced ε σ χ α := ⟨fun s => (.ok (f s), s, [])⟩

/-- Change the state. -/
def modify (f : σ → σ) : Traced ε σ χ Unit := ⟨fun s => (.ok (), f s, [])⟩

/-- Say first what the state has to be. -/
def announced (e : σ → ε) (m : Traced ε σ χ α) : Traced ε σ χ α := do
  let before ← reads e
  leave before
  m

/-! ## Running -/

section Run

variable {m : Traced ε σ χ α} {f : α → Traced ε σ χ β} {s s' : σ} {a : α} {x : χ} {events : List ε}

theorem run_bind_ok (h : m.run s = (.ok a, s', events)) :
    (m >>= f).run s = (((f a).run s').1, ((f a).run s').2.1, events ++ ((f a).run s').2.2) := by
  change (andThen m f).run s = _
  unfold andThen
  dsimp only
  rw [h]

theorem run_bind_error (h : m.run s = (.error x, s', events)) : (m >>= f).run s = (.error x, s', events) := by
  change (andThen m f).run s = _
  unfold andThen
  dsimp only
  rw [h]

theorem forM_cons {κ : Type} (body : κ → Traced ε σ χ Unit) (k : κ) (l : List κ) :
    (k :: l).forM body = body k >>= fun _ => l.forM body := rfl

end Run

/-! ## Acts -/

section Acts

variable {act : ε → Prop} {m : Traced ε σ χ α} {f : α → Traced ε σ χ β}

/-- All events of a computation are acts. -/
def Acts (act : ε → Prop) (m : Traced ε σ χ α) : Prop := ∀ s, ∀ e ∈ m.trace s, act e

theorem acts_pure (a : α) : Acts act (pure a : Traced ε σ χ α) := fun _ _ he => absurd he List.not_mem_nil

theorem acts_stop (x : χ) : Acts act (stop x : Traced ε σ χ α) := fun _ _ he => absurd he List.not_mem_nil

theorem acts_reads (g : σ → α) : Acts act (reads g : Traced ε σ χ α) :=
  fun _ _ he => absurd he List.not_mem_nil

theorem acts_modify (g : σ → σ) : Acts act (modify g : Traced ε σ χ Unit) :=
  fun _ _ he => absurd he List.not_mem_nil

theorem acts_leave {e : ε} (h : act e) : Acts act (leave e : Traced ε σ χ Unit) :=
  fun _ _ hx => List.mem_singleton.mp hx ▸ h

theorem Acts.bind (hm : Acts act m) (hf : ∀ a, Acts act (f a)) : Acts act (m >>= f) := by
  intro s
  have hm' := hm s
  unfold trace at hm' ⊢
  cases hrun : m.run s with
  | mk r rest =>
      obtain ⟨s', events⟩ := rest
      rw [hrun] at hm'
      cases r with
      | error x =>
          rw [run_bind_error hrun]
          exact hm'
      | ok a =>
          rw [run_bind_ok hrun]
          exact List.forall_mem_append.mpr ⟨hm', hf a s'⟩

theorem Acts.ite {c : Prop} [Decidable c] {m₁ m₂ : Traced ε σ χ α} (h₁ : Acts act m₁) (h₂ : Acts act m₂) :
    Acts act (if c then m₁ else m₂) := by
  by_cases hc : c
  · rwa [if_pos hc]
  · rwa [if_neg hc]

theorem acts_forM {κ : Type} {body : κ → Traced ε σ χ Unit} (h : ∀ k, Acts act (body k)) (l : List κ) :
    Acts act (l.forM body) := by
  induction l with
  | nil => exact acts_pure ()
  | cons k l ih =>
      rw [forM_cons]
      exact (h k).bind fun _ => ih

end Acts

/-! ## Exactness -/

variable {safe meets : ε → Prop}

/-- The events of every run are safe just if they meet what is required, and what is
returned is as promised. -/
structure Exact (safe meets : ε → Prop) (m : Traced ε σ χ α) (post : α → Prop) : Prop where
  events : ∀ s, (∀ e ∈ m.trace s, safe e) ↔ ∀ e ∈ m.trace s, meets e
  result : ∀ s a, m.result s = .ok a → post a

section Rules

variable {m : Traced ε σ χ α} {f : α → Traced ε σ χ β} {p : α → Prop} {q : β → Prop} {a : α}

theorem exact_pure (h : p a) : Exact safe meets (pure a : Traced ε σ χ α) p where
  events _ := iff_of_true (fun _ he => absurd he List.not_mem_nil) fun _ he => absurd he List.not_mem_nil
  result _ b hb := by
    obtain rfl : a = b := Except.ok.inj hb
    exact h

theorem exact_stop (x : χ) : Exact safe meets (stop x : Traced ε σ χ α) p where
  events _ := iff_of_true (fun _ he => absurd he List.not_mem_nil) fun _ he => absurd he List.not_mem_nil
  result _ _ hb := by cases hb

theorem exact_reads {g : σ → α} (h : ∀ s, p (g s)) : Exact safe meets (reads g : Traced ε σ χ α) p where
  events _ := iff_of_true (fun _ he => absurd he List.not_mem_nil) fun _ he => absurd he List.not_mem_nil
  result s b hb := by
    obtain rfl : g s = b := Except.ok.inj hb
    exact h s

theorem exact_reads_any (g : σ → α) : Exact safe meets (reads g : Traced ε σ χ α) fun _ => True :=
  exact_reads fun _ => trivial

theorem exact_modify (g : σ → σ) : Exact safe meets (modify g : Traced ε σ χ Unit) fun _ => True where
  events _ := iff_of_true (fun _ he => absurd he List.not_mem_nil) fun _ he => absurd he List.not_mem_nil
  result _ _ _ := trivial

theorem exact_leave {e : ε} (h : safe e ↔ meets e) :
    Exact safe meets (leave e : Traced ε σ χ Unit) fun _ => True where
  events _ := by
    change (∀ x ∈ [e], safe x) ↔ ∀ x ∈ [e], meets x
    simpa using h
  result _ _ _ := trivial

theorem Exact.bind (hm : Exact safe meets m p) (hf : ∀ a, p a → Exact safe meets (f a) q) :
    Exact safe meets (m >>= f) q where
  events s := by
    have hm' := hm.events s
    cases hrun : m.run s with
    | mk r rest =>
        obtain ⟨s', events⟩ := rest
        have htrace : m.trace s = events := by
          unfold trace
          rw [hrun]
        rw [htrace] at hm'
        cases r with
        | error x =>
            unfold trace
            rw [run_bind_error hrun]
            exact hm'
        | ok a =>
            have hres : m.result s = .ok a := by
              unfold Traced.result
              rw [hrun]
            have hf' := (hf a (hm.result s a hres)).events s'
            unfold trace at hf' ⊢
            rw [run_bind_ok hrun]
            simp only [List.mem_append, or_imp, forall_and]
            rw [hm', hf']
  result s b hb := by
    cases hrun : m.run s with
    | mk r rest =>
        obtain ⟨s', events⟩ := rest
        cases r with
        | error x =>
            unfold Traced.result at hb
            rw [run_bind_error hrun] at hb
            cases hb
        | ok a =>
            have hres : m.result s = .ok a := by
              unfold Traced.result
              rw [hrun]
            unfold Traced.result at hb
            rw [run_bind_ok hrun] at hb
            exact (hf a (hm.result s a hres)).result s' b hb

theorem Exact.ite {c : Prop} [Decidable c] {m₁ m₂ : Traced ε σ χ α} (h₁ : c → Exact safe meets m₁ p)
    (h₂ : ¬ c → Exact safe meets m₂ p) : Exact safe meets (if c then m₁ else m₂) p := by
  by_cases hc : c
  · rw [if_pos hc]
    exact h₁ hc
  · rw [if_neg hc]
    exact h₂ hc

theorem exact_forM {κ : Type} {body : κ → Traced ε σ χ Unit} {l : List κ}
    (h : ∀ k ∈ l, Exact safe meets (body k) fun _ => True) :
    Exact safe meets (l.forM body) fun _ => True := by
  induction l with
  | nil => exact exact_pure trivial
  | cons k l ih =>
      rw [forM_cons]
      exact (h k List.mem_cons_self).bind fun _ _ => ih fun j hj => h j (List.mem_cons_of_mem _ hj)

/-- A computation all of whose own events are met, and that is safe just if what it
announced is met. -/
theorem exact_announced {e : σ → ε} (hsafe : ∀ s, safe (e s)) (hacts : Acts meets m)
    (hiff : ∀ s, (∀ x ∈ m.trace s, safe x) ↔ meets (e s)) (hresult : ∀ s a, m.result s = .ok a → p a) :
    Exact safe meets (announced e m) p where
  events s := by
    have htrace : (announced e m).trace s = e s :: m.trace s := rfl
    rw [htrace, List.forall_mem_cons, List.forall_mem_cons, hiff s]
    exact ⟨fun h => ⟨h.2, hacts s⟩, fun h => ⟨hsafe s, h.1⟩⟩
  result s a ha := hresult s a ha

end Rules

end Traced

end Orizon
