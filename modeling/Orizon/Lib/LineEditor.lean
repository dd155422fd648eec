import Orizon.Lib.Run

/-!
# Orizon.Lib.LineEditor

A line editor over any type of characters: `CR`, `LF` or `CR LF` ends a line, and a
key erases the last character of the line.

The reference editor has room for every line.  A bounded one drops the characters
that find its line full; from then on its line is shorter than the reference's,
until that is empty again (`Tracks`).  So it hands out the reference's lines exactly
if at every line end the line has fitted ever since it was last empty (`lines_iff`).
-/

namespace Orizon

/-- A key of a line editor. -/
inductive EditorKey (α : Type*)
  | char (a : α)
  | erase
  | cr
  | lf

/-- The line so far, and whether the last key was `CR`. -/
structure LineEditor (α : Type*) where
  line : List α := []
  afterCr : Bool := false

namespace LineEditor

variable {α : Type*}

/-- The editor after a key, where `room` says which lines take one more character. -/
def next (room : List α → Bool) (ed : LineEditor α) : EditorKey α → LineEditor α
  | .char a => { line := if room ed.line then ed.line ++ [a] else ed.line, afterCr := false }
  | .erase => { line := ed.line.dropLast, afterCr := false }
  | .cr => { line := [], afterCr := true }
  | .lf => { line := if ed.afterCr then ed.line else [], afterCr := false }

/-- The lines a key ends: `LF` after `CR` ends none. -/
def ended (ed : LineEditor α) : EditorKey α → List (List α)
  | .cr => [ed.line]
  | .lf => if ed.afterCr then [] else [ed.line]
  | _ => []

/-- The room of the reference editor. -/
def free (_ : List α) : Bool := true

/-- The room of an editor with lines of at most `cap` characters. -/
def within (cap : Nat) (line : List α) : Bool := decide (line.length < cap)

/-- The lines of the reference editor. -/
def lines (keys : List (EditorKey α)) : List (List α) := outputs (next free) ended {} keys

/-- The reference editor with the greatest length of its line since that was last
empty. -/
def nextHigh (e : LineEditor α × Nat) (key : EditorKey α) : LineEditor α × Nat :=
  let ed := next free e.1 key
  (ed, if ed.line = [] then 0 else max e.2 ed.line.length)

/-- The bounded editor beside the reference one. -/
structure Tracks (cap : Nat) (b : LineEditor α) (e : LineEditor α × Nat) : Prop where
  afterCr : b.afterCr = e.1.afterCr
  le_high : e.1.line.length ≤ e.2
  same : e.2 ≤ cap → b.line = e.1.line
  shorter : cap < e.2 → b.line.length < e.1.line.length

section Step

variable {cap : Nat} {b : LineEditor α} {e : LineEditor α × Nat}

theorem tracks_empty {b ed : LineEditor α} {high : Nat} (hcr : b.afterCr = ed.afterCr)
    (hb : b.line = []) (hed : ed.line = []) (hhigh : high = 0) : Tracks cap b (ed, high) where
  afterCr := hcr
  le_high := by simp [hed]
  same := fun _ => by rw [hb, hed]
  shorter := fun h => absurd h (by simp [hhigh])

theorem Tracks.length_le (h : Tracks cap b e) : b.line.length ≤ e.1.line.length := by
  rcases Nat.lt_or_ge cap e.2 with hlong | hfit
  · exact Nat.le_of_lt (h.shorter hlong)
  · exact Nat.le_of_eq (congrArg List.length (h.same hfit))

theorem Tracks.char (h : Tracks cap b e) (a : α) :
    Tracks cap (next (within cap) b (.char a)) (nextHigh e (.char a)) := by
  obtain ⟨ed, high⟩ := e
  have hlen := h.length_le
  have hhigh := h.le_high
  have hsame := h.same
  have hshort := h.shorter
  dsimp only at hlen hhigh hsame hshort
  have hne : ed.line ++ [a] ≠ [] := by simp
  have hmax : (ed.line ++ [a]).length = ed.line.length + 1 := by simp
  unfold nextHigh next free within
  dsimp only
  rw [if_pos rfl, if_neg hne]
  refine ⟨rfl, Nat.le_max_right _ _, fun hfit => ?_, fun hlong => ?_⟩
  · dsimp only at hfit ⊢
    rw [hmax] at hfit
    rw [hsame (by omega), if_pos (by simp; omega)]
  · dsimp only at hlong ⊢
    rw [hmax] at hlong ⊢
    by_cases hroom : b.line.length < cap
    · have := hshort (by
        rcases Nat.lt_or_ge cap high with hover | hfit
        · exact hover
        · have := congrArg List.length (hsame hfit)
          omega)
      rw [if_pos (by simpa using hroom), List.length_append, List.length_singleton]
      omega
    · rw [if_neg (by simpa using hroom)]
      omega

theorem Tracks.erase (h : Tracks cap b e) :
    Tracks cap (next (within cap) b .erase) (nextHigh e .erase) := by
  obtain ⟨ed, high⟩ := e
  have hhigh := h.le_high
  have hshort := h.shorter
  have hlen := h.length_le
  dsimp only at hhigh hshort hlen
  unfold nextHigh next
  dsimp only
  by_cases hnone : ed.line.dropLast = []
  · rw [if_pos hnone]
    refine tracks_empty rfl ?_ hnone rfl
    rw [← List.length_eq_zero_iff, List.length_dropLast] at hnone ⊢
    omega
  · have htwo : 0 < ed.line.dropLast.length := List.length_pos_iff.mpr hnone
    have hsub : ed.line.dropLast.length = ed.line.length - 1 := List.length_dropLast
    rw [if_neg hnone]
    refine ⟨rfl, Nat.le_max_right _ _, fun hfit => ?_, fun hlong => ?_⟩
    · dsimp only at hfit ⊢
      rw [h.same (Nat.le_trans (Nat.le_max_left _ _) hfit)]
    · dsimp only at hlong ⊢
      have hover : cap < high := by omega
      have := hshort hover
      rw [List.length_dropLast, List.length_dropLast]
      omega

theorem Tracks.next (h : Tracks cap b e) (key : EditorKey α) :
    Tracks cap (LineEditor.next (within cap) b key) (nextHigh e key) := by
  cases key with
  | char a => exact h.char a
  | erase => exact h.erase
  | cr => exact tracks_empty rfl rfl rfl rfl
  | lf =>
      obtain ⟨ed, high⟩ := e
      unfold nextHigh LineEditor.next
      dsimp only
      rw [h.afterCr]
      cases hcr : ed.afterCr with
      | false => exact tracks_empty rfl rfl rfl rfl
      | true =>
          rw [if_pos rfl, if_pos rfl]
          by_cases hnone : ed.line = []
          · have hlen := h.length_le
            have hb : b.line = [] := by
              rw [← List.length_eq_zero_iff] at hnone ⊢
              dsimp only at hlen
              omega
            rw [if_pos hnone]
            exact tracks_empty rfl hb hnone rfl
          · rw [if_neg hnone, Nat.max_eq_left h.le_high]
            exact ⟨rfl, h.le_high, h.same, h.shorter⟩

/-- The bounded editor hands out the line that a key ends, and nothing in its place
if it is too long, exactly if the line fitted ever since it was last empty.  `view`
is how the line is read. -/
theorem Tracks.ended_iff {view : List α → List α} (hview : ∀ line, (view line).length ≤ line.length)
    (h : Tracks cap b e) (key : EditorKey α) :
    (ended b key).map view = (ended e.1 key).filter (·.length ≤ cap) ↔
      (ended e.1 key ≠ [] → e.2 ≤ cap ∧ view e.1.line = e.1.line) := by
  obtain ⟨ed, high⟩ := e
  have hline : [view b.line] = [ed.line].filter (·.length ≤ cap) ↔
      high ≤ cap ∧ view ed.line = ed.line := by
    have hhigh := h.le_high
    rcases Nat.lt_or_ge cap high with hlong | hfit
    · have hshort := h.shorter hlong
      have hb := hview b.line
      refine iff_of_false (fun heq => ?_) (fun hok => absurd hok.1 (Nat.not_le.mpr hlong))
      have hmem : view b.line ∈ [ed.line].filter (·.length ≤ cap) := by
        rw [← heq]
        exact List.mem_singleton_self _
      have hsame : view b.line = ed.line := List.mem_singleton.mp (List.mem_filter.mp hmem).1
      rw [hsame] at hb
      dsimp only at hshort
      omega
    · have hlen : ed.line.length ≤ cap := Nat.le_trans hhigh hfit
      rw [h.same hfit, List.filter_cons_of_pos (by simpa using hlen), List.filter_nil,
        List.singleton_inj]
      exact ⟨fun heq => ⟨hfit, heq⟩, fun hok => hok.2⟩
  cases key with
  | char a => exact iff_of_true rfl (fun hne => absurd rfl hne)
  | erase => exact iff_of_true rfl (fun hne => absurd rfl hne)
  | cr => exact hline.trans ⟨fun hok _ => hok, fun hok => hok (List.cons_ne_nil _ _)⟩
  | lf =>
      unfold ended
      dsimp only
      rw [h.afterCr]
      dsimp only
      cases hcr : ed.afterCr with
      | true => exact iff_of_true rfl (fun hne => absurd rfl hne)
      | false => exact hline.trans ⟨fun hok _ => hok, fun hok => hok (List.cons_ne_nil _ _)⟩

end Step

/-- The condition on a key: a line it ends has fitted since it was last empty, and is
read as it is. -/
def LineFits (cap : Nat) (view : List α → List α) (e : LineEditor α × Nat) (key : EditorKey α) :
    Prop :=
  ended e.1 key ≠ [] → e.2 ≤ cap ∧ view e.1.line = e.1.line

/-- After any keys, the bounded editor has handed out the lines of the reference that
fit, exactly if every line did. -/
theorem lines_iff {cap : Nat} {view : List α → List α} {b : LineEditor α} {e : LineEditor α × Nat}
    (hview : ∀ line, (view line).length ≤ line.length) (h : Tracks cap b e)
    (keys : List (EditorKey α)) :
    (∀ pre, pre <+: keys → (outputs (next (within cap)) ended b pre).map view =
        (outputs (next free) ended e.1 pre).filter (·.length ≤ cap)) ↔
      AllSteps nextHigh (LineFits cap view) e keys := by
  induction keys generalizing b e with
  | nil =>
      refine iff_of_true (fun pre hpre => ?_) trivial
      rw [List.prefix_nil.mp hpre]
      rfl
  | cons key keys ih =>
      have hstep := h.ended_iff hview key
      have hcut : ∀ pre, (outputs (next (within cap)) ended b (key :: pre)).map view =
          (outputs (next free) ended e.1 (key :: pre)).filter (·.length ≤ cap) ↔
          (ended b key).map view ++
            (outputs (next (within cap)) ended (next (within cap) b key) pre).map view =
          (ended e.1 key).filter (·.length ≤ cap) ++
            (outputs (next free) ended (nextHigh e key).1 pre).filter (·.length ≤ cap) := by
        intro pre
        rw [outputs, outputs, List.map_append, List.filter_append]
        exact Iff.rfl
      constructor
      · intro hall
        have hnow : (ended b key).map view = (ended e.1 key).filter (·.length ≤ cap) := by
          have hone := (hcut []).mp (hall [key] ⟨keys, rfl⟩)
          simpa [outputs] using hone
        refine ⟨hstep.mp hnow, (ih (h.next key)).mp fun pre hpre => ?_⟩
        have hmore := (hcut pre).mp (hall (key :: pre) (List.cons_prefix_cons.mpr ⟨rfl, hpre⟩))
        rw [hnow] at hmore
        exact List.append_cancel_left hmore
      · rintro ⟨hnow, hrest⟩ pre hpre
        cases pre with
        | nil => rfl
        | cons key' pre =>
            obtain ⟨rfl, htail⟩ := List.cons_prefix_cons.mp hpre
            rw [hcut, hstep.mpr hnow, (ih (h.next _)).mpr hrest pre htail]

/-- Only an `LF` cares whether it follows `CR`. -/
theorem outputs_afterCr {room : List α → Bool} {keys : List (EditorKey α)} (cr cr' : Bool)
    (line : List α) (h : keys.head? ≠ some .lf) :
    outputs (next room) ended ⟨line, cr⟩ keys = outputs (next room) ended ⟨line, cr'⟩ keys := by
  cases keys with
  | nil => rfl
  | cons key keys =>
      cases key with
      | char a => rfl
      | erase => rfl
      | cr => rfl
      | lf => exact absurd rfl h

/-- An editor with an empty line hands out the lines of the reference that fit exactly
if every line does, and no `LF` follows a `CR` that came before the keys. -/
theorem lines_empty_iff {cap : Nat} {view : List α → List α} {b : LineEditor α}
    (hview : ∀ line, (view line).length ≤ line.length) (hline : b.line = [])
    (keys : List (EditorKey α)) :
    (∀ pre, pre <+: keys → (outputs (next (within cap)) ended b pre).map view =
        (lines pre).filter (·.length ≤ cap)) ↔
      (b.afterCr = true → keys.head? ≠ some .lf) ∧ AllSteps nextHigh (LineFits cap view) ({}, 0) keys := by
  obtain ⟨line, cr⟩ := b
  obtain rfl : line = [] := hline
  have hfresh := @lines_iff _ cap view {} ({}, 0) hview (tracks_empty rfl rfl rfl rfl) keys
  by_cases hhead : keys.head? = some .lf
  · cases cr with
    | false =>
        refine Iff.trans ?_ (and_iff_right (fun hcr => absurd hcr Bool.false_ne_true)).symm
        exact hfresh
    | true =>
        obtain ⟨rest, rfl⟩ := List.head?_eq_some_iff.mp hhead
        refine iff_of_false (fun hall => ?_) (fun hok => hok.1 rfl rfl)
        have hone := hall [.lf] ⟨rest, rfl⟩
        simp [outputs, ended, lines] at hone
  · refine Iff.trans ?_ (and_iff_right (fun _ => hhead)).symm
    rw [← hfresh]
    refine forall_congr' fun pre => imp_congr_right fun hpre => ?_
    have hpreHead : pre.head? ≠ some .lf := by
      obtain ⟨rest, rfl⟩ := hpre
      cases pre with
      | nil => exact fun h => by cases h
      | cons key pre => exact hhead
    rw [outputs_afterCr cr false [] hpreHead]
    exact Iff.rfl

end LineEditor

end Orizon
