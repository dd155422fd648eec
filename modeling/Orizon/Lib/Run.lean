import Mathlib.Data.List.Induction
import Mathlib.Logic.Function.Basic
import Mathlib.Data.List.Basic
import Mathlib.Data.Nat.Notation
import Mathlib.Tactic.TypeStar

/-!
# Orizon.Lib.Run

Runs of a labelled transition relation, and the one induction every
invariant proof needs.

Steps that can be undone one by one are undone together, last step first
(`foldl_undo`), and a loop that is left from inside its body is followed turn by
turn, with no bound on the turns (`LoopReturns`).
-/

namespace Orizon

/-- `Run step s as t`: taking the steps `as` from `s` can end in `t`. -/
inductive Run {σ α : Type*} (step : σ → α → σ → Prop) : σ → List α → σ → Prop
  | nil (s : σ) : Run step s [] s
  | cons {s t u : σ} {a : α} {as : List α} (hstep : step s a t) (hrun : Run step t as u) :
      Run step s (a :: as) u

variable {σ α : Type*} {step : σ → α → σ → Prop} {s t : σ} {as : List α}

theorem Run.invariant {inv : σ → Prop} (h : Run step s as t) (h0 : inv s)
    (hstep : ∀ s a t, inv s → step s a t → inv t) : inv t := by
  induction h with
  | nil => exact h0
  | cons hfirst hrun ih => exact ih (hstep _ _ _ h0 hfirst)

/-! ## Runs of a function -/

section Deterministic

variable {next : σ → α → σ}

/-- Every step of the run of `as` from `s` satisfies `ok` in the state before it. -/
def AllSteps (next : σ → α → σ) (ok : σ → α → Prop) : σ → List α → Prop
  | _, [] => True
  | s, a :: as => ok s a ∧ AllSteps next ok (next s a) as

/-- Every state of the run of `as` from `s` satisfies `good`. -/
def AllStates (next : σ → α → σ) (good : σ → Prop) : σ → List α → Prop
  | s, [] => good s
  | s, a :: as => good s ∧ AllStates next good (next s a) as

theorem AllStates.last {good : σ → Prop} (h : AllStates next good s as) : good (as.foldl next s) := by
  induction as generalizing s with
  | nil => exact h
  | cons a as ih => exact ih h.2

/-- What permitted steps keep holds in every state of a permitted run. -/
theorem allStates_of_allSteps {inv good : σ → Prop} {ok : σ → α → Prop}
    (hstep : ∀ s a, inv s → ok s a → inv (next s a)) (hgood : ∀ s, inv s → good s) (h0 : inv s)
    (h : AllSteps next ok s as) : AllStates next good s as := by
  induction as generalizing s with
  | nil => exact hgood s h0
  | cons a as ih => exact ⟨hgood s h0, ih (hstep s a h0 h.1) h.2⟩

/-- If in a good state the steps to good states are the permitted ones, then
the runs through good states are the permitted runs.  `inv` is what every
step keeps, good or not. -/
theorem allStates_iff_allSteps {inv good : σ → Prop} {ok : σ → α → Prop}
    (hinv : ∀ s, ∀ a ∈ as, inv s → inv (next s a))
    (hiff : ∀ s, ∀ a ∈ as, inv s → good s → (good (next s a) ↔ ok s a)) (h0 : inv s)
    (hgood : good s) : AllStates next good s as ↔ AllSteps next ok s as := by
  induction as generalizing s with
  | nil => exact iff_of_true hgood trivial
  | cons a as ih =>
      rw [AllStates, AllSteps]
      have hnow := hiff s a List.mem_cons_self h0 hgood
      have ih := fun hnext => ih (fun t b hb => hinv t b (List.mem_cons_of_mem a hb))
        (fun t b hb => hiff t b (List.mem_cons_of_mem a hb)) (hinv s a List.mem_cons_self h0) hnext
      constructor
      · rintro ⟨-, hrest⟩
        have hnext : good (next s a) := by
          cases as with
          | nil => exact hrest
          | cons b bs => exact hrest.1
        exact ⟨hnow.mp hnext, (ih hnext).mp hrest⟩
      · rintro ⟨hok, hrest⟩
        exact ⟨hgood, (ih (hnow.mpr hok)).mpr hrest⟩

/-- A value that a run ends with and did not begin with was put in place by some step,
the last to change it. -/
theorem exists_last_change {β : Type*} (v : σ → β) (h : v (as.foldl next s) ≠ v s) :
    ∃ pre a post, as = pre ++ a :: post ∧ v (next (pre.foldl next s) a) ≠ v (pre.foldl next s) ∧
      v (as.foldl next s) = v (next (pre.foldl next s) a) := by
  induction as using List.reverseRecOn with
  | nil => exact absurd rfl h
  | append_singleton as a ih =>
      rw [List.foldl_append, List.foldl_cons, List.foldl_nil] at h ⊢
      by_cases hlast : v (next (as.foldl next s) a) = v (as.foldl next s)
      · rw [hlast] at h ⊢
        obtain ⟨pre, b, post, rfl, hchange, hend⟩ := ih h
        exact ⟨pre, b, post ++ [a], by simp, hchange, hend⟩
      · exact ⟨as, a, [], rfl, hlast, rfl⟩

/-- What holds of every step from every state holds of every step of a run. -/
theorem allSteps_of_forall {ok : σ → α → Prop} (h : ∀ s a, ok s a) : AllSteps next ok s as := by
  induction as generalizing s with
  | nil => trivial
  | cons a as ih => exact ⟨h s a, ih⟩

/-- What the steps of a run give, one after the other. -/
def outputs {β : Type*} (next : σ → α → σ) (out : σ → α → List β) : σ → List α → List β
  | _, [] => []
  | s, a :: as => out s a ++ outputs next out (next s a) as

theorem outputs_append {β : Type*} (next : σ → α → σ) (out : σ → α → List β) (s : σ) (as bs : List α) :
    outputs next out s (as ++ bs) = outputs next out s as ++ outputs next out (as.foldl next s) bs := by
  induction as generalizing s with
  | nil => rfl
  | cons a as ih => rw [List.cons_append, outputs, outputs, ih, List.append_assoc, List.foldl_cons]

/-- A run seen as a run of another machine gives what that one gives. -/
theorem outputs_map {σ' α' β β' : Type*} {next' : σ' → α' → σ'} {out : σ → α → List β}
    {out' : σ' → α' → List β'} (view : σ → σ') (label : α → α') (f : β' → β)
    (hnext : ∀ s a, view (next s a) = next' (view s) (label a))
    (hout : ∀ s a, out s a = (out' (view s) (label a)).map f) :
    outputs next out s as = (outputs next' out' (view s) (as.map label)).map f := by
  induction as generalizing s with
  | nil => rfl
  | cons a as ih => rw [outputs, List.map_cons, outputs, List.map_append, hout, ih, hnext]

/-- What balances at every step balances over the run: what was there and what comes in is
what goes out and what is left. -/
theorem outputs_balance {β : Type*} {held : σ → List β} {given taken : σ → α → List β}
    (h : AllSteps next (fun s a => held s ++ given s a = taken s a ++ held (next s a)) s as) :
    held s ++ outputs next given s as = outputs next taken s as ++ held (as.foldl next s) := by
  induction as generalizing s with
  | nil => simp [outputs]
  | cons a as ih =>
      calc held s ++ (given s a ++ outputs next given (next s a) as)
          = taken s a ++ (held (next s a) ++ outputs next given (next s a) as) := by
            rw [← List.append_assoc, h.1, List.append_assoc]
        _ = taken s a ++ (outputs next taken (next s a) as ++ held (as.foldl next (next s a))) := by
            rw [ih h.2]
        _ = outputs next taken s (a :: as) ++ held ((a :: as).foldl next s) := by
            rw [outputs, List.append_assoc, List.foldl_cons]

/-- A step that keeps the invariant and does what is asked under it, at every step. -/
theorem allSteps_imp {inv : σ → Prop} {ok done : σ → α → Prop}
    (hstep : ∀ s a, inv s → ok s a → done s a ∧ inv (next s a)) (h0 : inv s) (h : AllSteps next ok s as) :
    AllSteps next done s as := by
  induction as generalizing s with
  | nil => trivial
  | cons a as ih =>
      obtain ⟨hdone, hinv⟩ := hstep s a h0 h.1
      exact ⟨hdone, ih hinv h.2⟩

/-- Two conditions that agree in every state of the invariant, on every step of a run. -/
theorem allSteps_iff {inv : σ → Prop} {ok done : σ → α → Prop}
    (hinv : ∀ s a, inv s → inv (next s a)) (hiff : ∀ s a, inv s → (done s a ↔ ok s a)) (h0 : inv s) :
    AllSteps next done s as ↔ AllSteps next ok s as :=
  ⟨allSteps_imp (fun s a h hdone => ⟨(hiff s a h).mp hdone, hinv s a h⟩) h0,
    allSteps_imp (fun s a h hok => ⟨(hiff s a h).mpr hok, hinv s a h⟩) h0⟩

theorem AllSteps.mono {ok done : σ → α → Prop} (h : AllSteps next ok s as)
    (hstep : ∀ s a, ok s a → done s a) :
    AllSteps next done s as :=
  @allSteps_imp _ _ s as next (fun _ => True) ok done (fun s a _ hok => ⟨hstep s a hok, trivial⟩) trivial h

end Deterministic

/-! ## Runs that can stop -/

section Stopping

variable {ε : Type*} {next : σ → α → Except ε σ} {as bs : List α} {a : α} {u : σ}

theorem foldlM_nil_ok : ([] : List α).foldlM next s = .ok t ↔ s = t := by
  rw [List.foldlM_nil]
  exact Except.ok.injEq s t ▸ Iff.rfl

theorem foldlM_cons_ok : (a :: as).foldlM next s = .ok t ↔ ∃ u, next s a = .ok u ∧ as.foldlM next u = .ok t := by
  rw [List.foldlM_cons]
  cases h : next s a with
  | error e => exact iff_of_false (by rintro ⟨⟩) (by rintro ⟨u, hu, -⟩; cases hu)
  | ok u => simp [bind, Except.bind]

theorem foldlM_append_ok :
    (as ++ bs).foldlM next s = .ok t ↔ ∃ u, as.foldlM next s = .ok u ∧ bs.foldlM next u = .ok t := by
  induction as generalizing s with
  | nil => exact ⟨fun h => ⟨s, foldlM_nil_ok.mpr rfl, h⟩, fun ⟨u, hu, h⟩ => foldlM_nil_ok.mp hu ▸ h⟩
  | cons a as ih =>
      rw [List.cons_append, foldlM_cons_ok]
      simp only [ih, foldlM_cons_ok]
      constructor
      · rintro ⟨u, hu, x, hx, ht⟩
        exact ⟨x, ⟨u, hu, hx⟩, ht⟩
      · rintro ⟨x, ⟨u, hu, hx⟩, ht⟩
        exact ⟨u, hu, x, hx, ht⟩

theorem foldlM_cons_of_ok (h : next s a = .ok u) : (a :: as).foldlM next s = as.foldlM next u := by
  rw [List.foldlM_cons, h]
  rfl

theorem foldlM_cons_of_error {e : ε} (h : next s a = .error e) : (a :: as).foldlM next s = .error e := by
  rw [List.foldlM_cons, h]
  rfl

theorem foldlM_append_of_ok (h : as.foldlM next s = .ok u) : (as ++ bs).foldlM next s = bs.foldlM next u := by
  rw [List.foldlM_append, h]
  rfl

theorem foldlM_append_of_error {e : ε} (h : as.foldlM next s = .error e) : (as ++ bs).foldlM next s = .error e := by
  rw [List.foldlM_append, h]
  rfl

theorem foldlM_error {e : ε} (h : as.foldlM next s = .error e) : ∃ s a, next s a = .error e := by
  induction as generalizing s with
  | nil => cases h
  | cons a as ih =>
      rw [List.foldlM_cons] at h
      cases hstep : next s a with
      | error e' =>
          rw [hstep] at h
          exact ⟨s, a, hstep.trans (congrArg Except.error (Except.error.inj h))⟩
      | ok u =>
          rw [hstep] at h
          exact ih h

/-- What every step keeps that does not stop, with the steps that are left, every run keeps. -/
theorem foldlM_invariant {inv : σ → List α → Prop} (h0 : inv s as)
    (hstep : ∀ s a as t, inv s (a :: as) → next s a = .ok t → inv t as) (h : as.foldlM next s = .ok t) : inv t [] := by
  induction as generalizing s with
  | nil => exact foldlM_nil_ok.mp h ▸ h0
  | cons a as ih =>
      obtain ⟨u, hu, ht⟩ := foldlM_cons_ok.mp h
      exact ih (hstep s a as u h0 hu) ht

/-- How a run ends that can stop. -/
def Ends {ε σ : Type*} (left : ε → Prop) (inv : σ → Prop) : Except ε σ → Prop
  | .ok s => inv s
  | .error e => left e

theorem foldlM_ends {left : ε → Prop} {inv : σ → Prop} (hstep : ∀ s a, inv s → Ends left inv (next s a)) (h : inv s)
    (as : List α) : Ends left inv (as.foldlM next s) := by
  induction as generalizing s with
  | nil => exact h
  | cons a as ih =>
      have hnext := hstep s a h
      cases heq : next s a with
      | error e =>
          rw [foldlM_cons_of_error heq]
          rwa [heq] at hnext
      | ok u =>
          rw [foldlM_cons_of_ok heq]
          rw [heq] at hnext
          exact ih hnext

end Stopping

/-! ## Runs that are undone -/

section Undo

variable {σ τ ι : Type*} {f : σ → ι → σ} {g : τ → ι → τ} {v : σ → τ} {P : σ → Prop}

theorem foldl_undo {l : List ι} (hf : ∀ s, ∀ x ∈ l, P s → P (f s x))
    (hg : ∀ s, ∀ x ∈ l, P s → g (v (f s x)) x = v s) {s : σ} (hs : P s) :
    l.reverse.foldl g (v (l.foldl f s)) = v s := by
  induction l generalizing s with
  | nil => rfl
  | cons x l ih =>
      have hrest := ih (fun s y hy => hf s y (List.mem_cons_of_mem _ hy))
        (fun s y hy => hg s y (List.mem_cons_of_mem _ hy)) (hf s x List.mem_cons_self hs)
      rw [List.reverse_cons, List.foldl_append, List.foldl_cons, List.foldl_cons, hrest]
      exact hg s x List.mem_cons_self hs

end Undo

/-! ## Loops -/

section Turns

/-- What the body of a `for (;;)` does. -/
inductive Turn (σ ρ : Type*)
  | leave (r : ρ)
  | again (s : σ)

/-- The loop, for at most so many turns. -/
def loopFor {σ ρ : Type*} (body : σ → Turn σ ρ) : Nat → σ → Option ρ
  | 0, _ => none
  | n + 1, s =>
      match body s with
      | .leave r => some r
      | .again s' => loopFor body n s'

/-- The loop is left with a result. -/
def LoopReturns {σ ρ : Type*} (body : σ → Turn σ ρ) (s : σ) (r : ρ) : Prop :=
  ∃ n, loopFor body n s = some r

variable {σ ρ : Type*} {body : σ → Turn σ ρ} {s t : σ} {r r' : ρ}

theorem loopReturns_of_leave (h : body s = .leave r) : LoopReturns body s r' ↔ r' = r := by
  constructor
  · rintro ⟨n, hn⟩
    cases n with
    | zero => simp [loopFor] at hn
    | succ n => simpa [loopFor, h, eq_comm] using hn
  · rintro rfl
    exact ⟨1, by simp [loopFor, h]⟩

theorem loopReturns_of_again (h : body s = .again t) : LoopReturns body s r ↔ LoopReturns body t r := by
  constructor
  · rintro ⟨n, hn⟩
    cases n with
    | zero => simp [loopFor] at hn
    | succ n => exact ⟨n, by simpa [loopFor, h] using hn⟩
  · rintro ⟨n, hn⟩
    exact ⟨n + 1, by simpa [loopFor, h] using hn⟩

/-- A loop that goes round from every state of an invariant is not left. -/
theorem not_loopReturns (inv : σ → Prop) (h : ∀ s, inv s → ∃ t, body s = .again t ∧ inv t) (h0 : inv s) :
    ¬ LoopReturns body s r := by
  rintro ⟨n, hn⟩
  induction n generalizing s with
  | zero => simp [loopFor] at hn
  | succ n ih =>
      obtain ⟨t, hbody, ht⟩ := h s h0
      exact ih ht (by simpa [loopFor, hbody] using hn)

end Turns

end Orizon
