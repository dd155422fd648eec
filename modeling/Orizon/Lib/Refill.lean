import Mathlib.Data.List.Basic
import Mathlib.Data.List.Induction

/-!
# Orizon.Lib.Refill

Reordering in place: some of the entries of a list are taken out, put in another order and
written back to the slots they came from.
-/

namespace Orizon

section Refill

variable {α : Type*} {p q : α → Bool} {l xs : List α}

/-- The entries that satisfy `p` replaced by those of `xs`, in order. -/
def refill (p : α → Bool) : List α → List α → List α
  | [], _ => []
  | c :: l, xs =>
      if p c then
        match xs with
        | [] => c :: l
        | x :: xs => x :: refill p l xs
      else c :: refill p l xs

/-- Assigning the slots one after the other. -/
def writeSlots (l : List α) (slots : List Nat) (xs : List α) : List α :=
  (slots.zip xs).foldl (fun l sx => l.set sx.1 sx.2) l

theorem writeSlots_cons (c : α) (l : List α) (slots : List Nat) (xs : List α) :
    writeSlots (c :: l) (slots.map (· + 1)) xs = c :: writeSlots l slots xs := by
  induction slots generalizing l xs with
  | nil => rfl
  | cons s slots ih =>
      cases xs with
      | nil => rfl
      | cons x xs => exact ih (l.set s x) xs

/-- Writing to the slots of the entries that satisfy `p`. -/
theorem writeSlots_findIdxs (p : α → Bool) (l xs : List α) (hlen : xs.length = (l.filter p).length) :
    writeSlots l (l.findIdxs p) xs = refill p l xs := by
  induction l generalizing xs with
  | nil => simp [writeSlots, refill]
  | cons c l ih =>
      have hshift : l.findIdxs p 1 = (l.findIdxs p).map (· + 1) := List.findIdxs_start
      rw [List.findIdxs_cons, refill.eq_def]
      dsimp only
      by_cases hp : p c
      · cases xs with
        | nil => simp [hp] at hlen
        | cons x xs =>
            have hlen' : xs.length = (l.filter p).length := by simpa [hp] using hlen
            rw [if_pos hp, if_pos hp, hshift]
            dsimp only
            rw [← ih xs hlen', ← writeSlots_cons]
            rfl
      · rw [if_neg hp, if_neg hp, hshift, writeSlots_cons, ih xs (by simpa [hp] using hlen)]

theorem refill_filter (hxs : ∀ x ∈ xs, p x) (hlen : xs.length = (l.filter p).length) :
    (refill p l xs).filter p = xs := by
  induction l generalizing xs with
  | nil => simpa [refill, eq_comm] using hlen
  | cons c l ih =>
      by_cases hp : p c
      · cases xs with
        | nil => simp [hp] at hlen
        | cons x xs =>
            have hx := hxs x List.mem_cons_self
            have hrest := ih (fun y hy => hxs y (List.mem_cons_of_mem x hy)) (by simpa [hp] using hlen)
            simp [refill, hp, hx, hrest]
      · simpa [refill, hp] using ih hxs (by simpa [hp] using hlen)

theorem refill_filter_not (hxs : ∀ x ∈ xs, p x) :
    (refill p l xs).filter (fun c => !p c) = l.filter fun c => !p c := by
  induction l generalizing xs with
  | nil => rfl
  | cons c l ih =>
      by_cases hp : p c
      · cases xs with
        | nil => simp [refill, hp]
        | cons x xs =>
            have hx := hxs x List.mem_cons_self
            simpa [refill, hp, hx] using ih fun y hy => hxs y (List.mem_cons_of_mem x hy)
      · simpa [refill, hp] using ih hxs

theorem refill_perm (h : xs.Perm (l.filter p)) : (refill p l xs).Perm l := by
  have hxs : ∀ x ∈ xs, p x := fun x hx => (List.mem_filter.mp (h.mem_iff.mp hx)).2
  have hparts : ((refill p l xs).filter p ++ (refill p l xs).filter fun c => !p c).Perm
      (l.filter p ++ l.filter fun c => !p c) := by
    rw [refill_filter hxs h.length_eq, refill_filter_not hxs]
    exact h.append_right _
  exact (List.filter_append_perm p _).symm.trans (hparts.trans (List.filter_append_perm p l))

theorem refill_getElem? {k i : Nat} (hlen : xs.length = (l.filter p).length)
    (hi : (l.findIdxs p)[k]? = some i) :
    (refill p l xs)[i]? = xs[k]? := by
  induction l generalizing xs k i with
  | nil => simp at hi
  | cons c l ih =>
      have hshift : l.findIdxs p 1 = (l.findIdxs p).map (· + 1) := List.findIdxs_start
      rw [List.findIdxs_cons] at hi
      rw [refill.eq_def]
      dsimp only
      by_cases hp : p c
      · rw [if_pos hp] at hi ⊢
        cases xs with
        | nil => simp [hp] at hlen
        | cons x xs =>
            cases k with
            | zero =>
                obtain rfl : 0 = i := Option.some.inj hi
                rfl
            | succ k =>
                rw [List.getElem?_cons_succ, hshift, List.getElem?_map] at hi
                obtain ⟨j, hj, rfl⟩ := Option.map_eq_some_iff.mp hi
                exact ih (by simpa [hp] using hlen) hj
      · rw [if_neg hp, hshift, List.getElem?_map] at hi
        obtain ⟨j, hj, rfl⟩ := Option.map_eq_some_iff.mp hi
        rw [if_neg hp]
        exact ih (by simpa [hp] using hlen) hj

/-! ## Moving an entry -/

/-- `l[dst] = l[src]`. -/
def copyEntry (l : List α) (src dst : Nat) : List α :=
  match l[src]? with
  | none => l
  | some x => l.set dst x

/-- `k` times `l[i] = l[i + 1]`, going up. -/
def shiftUp (l : List α) (i : Nat) : Nat → List α
  | 0 => l
  | k + 1 => shiftUp (copyEntry l (i + 1) i) (i + 1) k

/-- `k` times `l[i] = l[i - 1]`, going down. -/
def shiftDown (l : List α) (i : Nat) : Nat → List α
  | 0 => l
  | k + 1 => shiftDown (copyEntry l (i - 1) i) (i - 1) k

theorem shiftUp_gap (a mid b : List α) (y : α) :
    ∃ z, shiftUp (a ++ y :: (mid ++ b)) a.length mid.length = a ++ mid ++ z :: b := by
  induction mid generalizing a y with
  | nil => exact ⟨y, by simp [shiftUp]⟩
  | cons x mid ih =>
      have hread : (a ++ y :: (x :: mid ++ b))[a.length + 1]? = some x := by
        rw [List.getElem?_append_right (Nat.le_add_right ..), Nat.add_sub_cancel_left]
        rfl
      have hcopy : copyEntry (a ++ y :: (x :: mid ++ b)) (a.length + 1) a.length =
          (a ++ [x]) ++ x :: (mid ++ b) := by
        rw [copyEntry, hread]
        simp
      obtain ⟨z, hz⟩ := ih (a ++ [x]) x
      rw [List.length_append, List.length_singleton] at hz
      exact ⟨z, by rw [List.length_cons, shiftUp, hcopy, hz]; simp⟩

theorem shiftDown_gap (a mid b : List α) (y : α) :
    ∃ z, shiftDown (a ++ mid ++ y :: b) (a ++ mid).length mid.length = a ++ z :: (mid ++ b) := by
  induction mid using List.reverseRecOn generalizing b y with
  | nil => exact ⟨y, by simp [shiftDown]⟩
  | append_singleton mid x ih =>
      have hlen : (a ++ (mid ++ [x])).length = (a ++ mid).length + 1 := by simp [Nat.add_assoc]
      have hread : (a ++ (mid ++ [x]) ++ y :: b)[(a ++ mid).length]? = some x := by simp
      have hcopy : copyEntry (a ++ (mid ++ [x]) ++ y :: b) (a ++ mid).length ((a ++ mid).length + 1) =
          a ++ mid ++ x :: (x :: b) := by
        rw [copyEntry, hread, ← hlen]
        dsimp only
        rw [List.set_append_right _ _ (Nat.le_refl _), Nat.sub_self]
        simp
      obtain ⟨z, hz⟩ := ih (x :: b) x
      have hmid : (mid ++ [x]).length = mid.length + 1 := List.length_append
      refine ⟨z, ?_⟩
      rw [hlen, hmid, shiftDown, Nat.add_sub_cancel, hcopy, hz]
      simp

/-- The entry at `i` is put at `j`; those between move up by one, or down. -/
def moveEntry (l : List α) (i j : Nat) : List α :=
  match l[i]? with
  | none => l
  | some x => (if i < j then shiftUp l i (j - i) else shiftDown l i (i - j)).set j x

theorem eraseIdx_split (l : List α) {i : Nat} (hi : i < l.length) :
    (l.eraseIdx i).take i ++ l[i] :: (l.eraseIdx i).drop i = l := by
  have hlen : (l.take i).length = i := List.length_take_of_le (Nat.le_of_lt hi)
  rw [List.eraseIdx_eq_take_drop_succ, List.take_left' hlen, List.drop_left' hlen,
    ← List.drop_eq_getElem_cons hi, List.take_append_drop]

theorem moveEntry_eq (l : List α) {i j : Nat} (hi : i < l.length) (hj : j < l.length) :
    moveEntry l i j = (l.eraseIdx i).take j ++ l[i] :: (l.eraseIdx i).drop j := by
  have hlen : (l.eraseIdx i).length = l.length - 1 := List.length_eraseIdx_of_lt hi
  have hsplit := eraseIdx_split l hi
  generalize l.eraseIdx i = rest at hlen hsplit ⊢
  have hi' : (rest.take i).length = i := by simp; omega
  have hj' : (rest.take j).length = j := by simp; omega
  have hgap : ∃ z, (if i < j then shiftUp l i (j - i) else shiftDown l i (i - j)) =
      rest.take j ++ z :: rest.drop j := by
    split
    next hlt =>
      have htake : rest.take i ++ (rest.drop i).take (j - i) = rest.take j := by
        rw [← List.take_add, show i + (j - i) = j by omega]
      have hdrop : (rest.drop i).take (j - i) ++ rest.drop j = rest.drop i := by
        rw [show j = i + (j - i) by omega, ← List.drop_drop, Nat.add_sub_cancel_left, List.take_append_drop]
      have hmid : ((rest.drop i).take (j - i)).length = j - i := by simp; omega
      obtain ⟨z, hz⟩ := shiftUp_gap (rest.take i) ((rest.drop i).take (j - i)) (rest.drop j) l[i]
      rw [hdrop, hsplit, hi', hmid, htake] at hz
      exact ⟨z, hz⟩
    next hge =>
      have htake : rest.take j ++ (rest.drop j).take (i - j) = rest.take i := by
        rw [← List.take_add, show j + (i - j) = i by omega]
      have hdrop : (rest.drop j).take (i - j) ++ rest.drop i = rest.drop j := by
        rw [show i = j + (i - j) by omega, ← List.drop_drop, Nat.add_sub_cancel_left, List.take_append_drop]
      have hmid : ((rest.drop j).take (i - j)).length = i - j := by simp; omega
      obtain ⟨z, hz⟩ := shiftDown_gap (rest.take j) ((rest.drop j).take (i - j)) (rest.drop i) l[i]
      rw [htake, hdrop, hsplit, hi', hmid] at hz
      exact ⟨z, hz⟩
  obtain ⟨z, hz⟩ := hgap
  rw [moveEntry, List.getElem?_eq_getElem hi]
  dsimp only
  rw [hz, List.set_append_right _ _ (Nat.le_of_eq hj'), hj', Nat.sub_self]
  rfl

theorem moveEntry_getElem? (l : List α) {i j : Nat} (hi : i < l.length) (hj : j < l.length) :
    (moveEntry l i j)[j]? = some l[i] := by
  have hlen : ((l.eraseIdx i).take j).length = j := by
    rw [List.length_take, List.length_eraseIdx_of_lt hi]
    omega
  rw [moveEntry_eq l hi hj, List.getElem?_append_right (Nat.le_of_eq hlen), hlen, Nat.sub_self]
  rfl

theorem moveEntry_perm (l : List α) {i j : Nat} (hi : i < l.length) (hj : j < l.length) :
    (moveEntry l i j).Perm l := by
  have hput : ∀ k, ((l.eraseIdx i).take k ++ l[i] :: (l.eraseIdx i).drop k).Perm (l[i] :: l.eraseIdx i) := by
    intro k
    refine List.perm_middle.trans ?_
    rw [List.take_append_drop]
  have hback := hput i
  rw [eraseIdx_split l hi] at hback
  rw [moveEntry_eq l hi hj]
  exact (hput j).trans hback.symm

theorem moveEntry_filter (l : List α) {i j : Nat} (hi : i < l.length) (hj : j < l.length)
    (hq : q l[i] = false) :
    (moveEntry l i j).filter q = l.filter q := by
  have hput : ∀ k, ((l.eraseIdx i).take k ++ l[i] :: (l.eraseIdx i).drop k).filter q =
      (l.eraseIdx i).filter q := by
    intro k
    rw [List.filter_append, List.filter_cons_of_neg (by simp [hq]), ← List.filter_append,
      List.take_append_drop]
  have hback := hput i
  rw [eraseIdx_split l hi] at hback
  rw [moveEntry_eq l hi hj, hput j, hback]

end Refill

end Orizon
