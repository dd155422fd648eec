import Mathlib.Data.List.Basic

/-!
# Orizon.Lib.Frames

A buffer that holds one frame after another: a reader takes the first frame
off the buffer, and `unframe` repeats it until the reader finds none.

A reader that reads back what an encoder wrote in front of anything reads back a
whole sequence (`unframe_flatMap`), and one that only finds what was encoded
splits the buffer into encodings and what is left of it (`unframe_sound`), which is the one
way to read it (`unframe_eq_iff`).
-/

namespace Orizon

variable {α β : Type*} {next : List α → Option (β × List α)} {enc : β → List α}

/-- The frames of a buffer and what is left of it; `fuel` bounds their number. -/
def unframe (next : List α → Option (β × List α)) : Nat → List α → List β × List α
  | 0, buf => ([], buf)
  | fuel + 1, buf =>
      match next buf with
      | none => ([], buf)
      | some (b, rest) => (b :: (unframe next fuel rest).1, (unframe next fuel rest).2)

@[simp] theorem unframe_none {fuel : Nat} {buf : List α} (h : next buf = none) :
    unframe next fuel buf = ([], buf) := by
  cases fuel <;> simp [unframe, h]

theorem unframe_succ {fuel : Nat} {buf rest : List α} {b : β} (h : next buf = some (b, rest)) :
    unframe next (fuel + 1) buf =
      (b :: (unframe next fuel rest).1, (unframe next fuel rest).2) := by
  simp [unframe, h]

/-- Frames that are read back in front of anything are read back one after another. -/
theorem unframe_flatMap (ok : β → Prop)
    (hread : ∀ b rest, ok b → next (enc b ++ rest) = some (b, rest)) {bs : List β} {tail : List α}
    {fuel : Nat} (hok : ∀ b ∈ bs, ok b) (htail : next tail = none) (hfuel : bs.length ≤ fuel) :
    unframe next fuel (bs.flatMap enc ++ tail) = (bs, tail) := by
  induction bs generalizing fuel with
  | nil => simp [htail]
  | cons b bs ih =>
      obtain ⟨fuel, rfl⟩ : ∃ k, fuel = k + 1 := Nat.exists_eq_add_of_le' (by simp at hfuel; omega)
      have hb := hread b (bs.flatMap enc ++ tail) (hok b (by simp))
      rw [List.flatMap_cons, List.append_assoc, unframe_succ hb,
        ih (fun b hb => hok b (by simp [hb])) (by simpa using hfuel)]

section Sound

variable {ok : β → Prop} (hsound : ∀ buf b rest, next buf = some (b, rest) → buf = enc b ++ rest ∧ ok b)

include hsound

theorem unframe_sound (fuel : Nat) (buf : List α) :
    buf = (unframe next fuel buf).1.flatMap enc ++ (unframe next fuel buf).2 ∧ ∀ b ∈ (unframe next fuel buf).1, ok b := by
  induction fuel generalizing buf with
  | zero => exact ⟨rfl, by simp [unframe]⟩
  | succ fuel ih =>
      cases h : next buf with
      | none => simp [h]
      | some r =>
          obtain ⟨b, rest⟩ := r
          obtain ⟨hbuf, hb⟩ := hsound buf b rest h
          obtain ⟨hrest, hok⟩ := ih rest
          rw [unframe_succ h, List.flatMap_cons, List.append_assoc, ← hrest]
          exact ⟨hbuf, List.forall_mem_cons.mpr ⟨hb, hok⟩⟩

variable (henc : ∀ b, 0 < (enc b).length)

include henc

/-- No frame is left when as many were looked for as there are elements. -/
theorem unframe_ends {fuel : Nat} {buf : List α} (hfuel : buf.length ≤ fuel) :
    next (unframe next fuel buf).2 = none := by
  induction fuel generalizing buf with
  | zero =>
      cases h : next buf with
      | none => exact h
      | some r =>
          have hlen := congrArg List.length (hsound buf r.1 r.2 h).1
          have hb := henc r.1
          rw [List.length_append] at hlen
          omega
  | succ fuel ih =>
      cases h : next buf with
      | none => simp [h]
      | some r =>
          have hlen := congrArg List.length (hsound buf r.1 r.2 h).1
          have hb := henc r.1
          rw [List.length_append] at hlen
          rw [unframe_succ h]
          exact ih (by omega)

theorem unframe_eq_iff (hread : ∀ b rest, ok b → next (enc b ++ rest) = some (b, rest)) {buf tail : List α}
    {bs : List β} : unframe next buf.length buf = (bs, tail) ↔
      buf = bs.flatMap enc ++ tail ∧ (∀ b ∈ bs, ok b) ∧ next tail = none := by
  constructor
  · intro h
    obtain ⟨hbuf, hok⟩ := unframe_sound hsound buf.length buf
    have hend := unframe_ends hsound henc (Nat.le_refl buf.length)
    rw [h] at hbuf hok hend
    exact ⟨hbuf, hok, hend⟩
  · rintro ⟨rfl, hok, htail⟩
    have hcount : ∀ bs : List β, bs.length ≤ (bs.flatMap enc).length := by
      intro bs
      induction bs with
      | nil => simp
      | cons b bs ih =>
          have hb := henc b
          rw [List.flatMap_cons, List.length_append, List.length_cons]
          omega
    refine unframe_flatMap ok hread hok htail ?_
    rw [List.length_append]
    exact Nat.le_add_right_of_le (hcount bs)

end Sound

end Orizon
