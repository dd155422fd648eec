import Mathlib.Algebra.GroupWithZero.Nat
import Mathlib.Data.List.Basic
import Mathlib.Data.List.TakeWhile

/-!
# Orizon.Lib.Lines

Texts as lists over any alphabet, cut at separators.

`pieces` are the runs between separators that are not empty, `lineRounds` the lines that a
loop sees which takes a line and skips the separators behind it.  Such a loop is related to
them by what one round does (`lineRounds_step`).
-/

namespace Orizon

variable {α : Type*} {sep : α → Bool} {a b l line : List α} {c : α}

/-! ## Runs between separators -/

/-- The runs between separators that are not empty. -/
def pieces (sep : α → Bool) (l : List α) : List (List α) := (l.splitOnP sep).filter (!·.isEmpty)

@[simp] theorem pieces_nil : pieces sep [] = [] := rfl

theorem pieces_append_sep (hc : sep c = true) : pieces sep (a ++ c :: b) = pieces sep a ++ pieces sep b := by
  simp [pieces, List.splitOnP_append_cons a b hc]

@[simp] theorem pieces_cons_sep (hc : sep c = true) : pieces sep (c :: l) = pieces sep l := by
  simpa using @pieces_append_sep _ sep [] l c hc

theorem pieces_of_line (hline : ∀ x ∈ line, sep x = false) (hne : line ≠ []) : pieces sep line = [line] := by
  simp [pieces, List.splitOnP_eq_singleton hline, hne]

/-- A line that a separator ends is the first piece, unless it is empty. -/
theorem pieces_line_sep (hline : ∀ x ∈ line, sep x = false) (hc : sep c = true) :
    pieces sep (line ++ c :: l) = (if line = [] then [] else [line]) ++ pieces sep l := by
  rw [pieces_append_sep hc]
  by_cases hne : line = []
  · simp [hne]
  · simp [hne, pieces_of_line hline hne]

theorem pieces_dropWhile (l : List α) : pieces sep (l.dropWhile sep) = pieces sep l := by
  induction l with
  | nil => rfl
  | cons c l ih =>
      cases hc : sep c with
      | true => rw [List.dropWhile_cons_of_pos hc, ih, pieces_cons_sep hc]
      | false => rw [List.dropWhile_cons_of_neg (by simp [hc])]

theorem takeWhile_not_sep : ∀ x ∈ l.takeWhile (!sep ·), sep x = false := by
  intro x hx
  simpa using List.mem_takeWhile_imp hx

theorem drop_takeWhile (l : List α) : l.drop (l.takeWhile (!sep ·)).length = l.dropWhile (!sep ·) := by
  conv_lhs => arg 2; rw [← @List.takeWhile_append_dropWhile _ (!sep ·) l]
  rw [List.drop_left]

/-- One round of a loop that takes a line and skips the separators behind it. -/
theorem pieces_step (l : List α) :
    pieces sep l =
      (if l.takeWhile (!sep ·) = [] then [] else [l.takeWhile (!sep ·)]) ++
        pieces sep ((l.drop (l.takeWhile (!sep ·)).length).dropWhile sep) := by
  have hsplit := @List.takeWhile_append_dropWhile _ (!sep ·) l
  rw [drop_takeWhile, pieces_dropWhile]
  cases hdrop : l.dropWhile (!sep ·) with
  | nil =>
      rw [hdrop, List.append_nil] at hsplit
      by_cases hne : l = []
      · simp [hne]
      · rw [hsplit, if_neg hne, pieces_nil, List.append_nil, pieces_of_line (hsplit ▸ takeWhile_not_sep) hne]
  | cons c rest =>
      have hc : sep c = true := by
        have hhead := List.head?_dropWhile_not (!sep ·) l
        rw [hdrop] at hhead
        simpa using hhead
      rw [hdrop] at hsplit
      conv_lhs => rw [← hsplit, pieces_line_sep takeWhile_not_sep hc]
      rw [pieces_cons_sep hc]

@[elab_as_elim]
theorem pieces_induction {motive : List α → Prop} (nil : motive [])
    (skip : ∀ c l, sep c = true → motive l → motive (c :: l))
    (piece : ∀ line rest, line ≠ [] → (∀ x ∈ line, sep x = false) →
      pieces sep (line ++ rest) = line :: pieces sep rest → motive rest → motive (line ++ rest))
    (l : List α) : motive l := by
  induction hlen : l.length using Nat.strong_induction_on generalizing l with
  | _ n ih =>
      subst hlen
      cases l with
      | nil => exact nil
      | cons c l =>
          cases hc : sep c with
          | true => exact skip c l hc (ih l.length (by simp) l rfl)
          | false =>
              have hsplit := @List.takeWhile_append_dropWhile _ (!sep ·) (c :: l)
              have hne : (c :: l).takeWhile (!sep ·) ≠ [] := by simp [hc]
              have hstep := @pieces_step _ sep (c :: l)
              rw [if_neg hne, pieces_dropWhile, drop_takeWhile] at hstep
              have hlen := congrArg List.length hsplit
              have hpos := List.length_pos_of_ne_nil hne
              rw [List.length_append] at hlen
              rw [← hsplit]
              refine piece _ _ hne takeWhile_not_sep ?_ (ih _ (by omega) _ rfl)
              rw [hsplit, hstep, List.singleton_append]

theorem mem_pieces (h : line ∈ pieces sep l) : line ≠ [] ∧ ∀ x ∈ line, sep x = false := by
  induction l using pieces_induction with
  | nil => simp at h
  | skip c l hc ih =>
      rw [pieces_cons_sep hc] at h
      exact ih h
  | piece first rest hne hfirst hpieces ih =>
      rw [hpieces] at h
      obtain rfl | h := List.mem_cons.mp h
      · exact ⟨hne, hfirst⟩
      · exact ih h

theorem length_pieces_le (l : List α) : (pieces sep l).length ≤ l.length := by
  induction l using pieces_induction with
  | nil => simp
  | skip c l hc ih =>
      rw [pieces_cons_sep hc, List.length_cons]
      omega
  | piece line rest hne _ hpieces ih =>
      have hpos := List.length_pos_of_ne_nil hne
      rw [hpieces, List.length_cons, List.length_append]
      omega

/-- Lines that are written one behind the other, each with a separator, are read back,
but for the empty ones. -/
theorem pieces_flatMap {lines : List (List α)} (hlines : ∀ x ∈ lines, ∀ y ∈ x, sep y = false) (hc : sep c = true) :
    pieces sep (lines.flatMap (· ++ [c])) = lines.filter (!·.isEmpty) := by
  induction lines with
  | nil => rfl
  | cons line lines ih =>
      rw [List.flatMap_cons, List.append_assoc, List.singleton_append,
        pieces_line_sep (hlines line (by simp)) hc, ih (fun x hx => hlines x (by simp [hx])), List.filter_cons]
      by_cases hne : line = [] <;> simp [hne]

/-! ## The rounds of a loop -/

/-- The lines of a loop that takes a line and skips the separators behind it: only the first
of them can be empty. -/
def lineRounds (sep : α → Bool) (l : List α) : List (List α) :=
  (if l.head?.any sep then [[]] else []) ++ pieces sep l

@[simp] theorem lineRounds_nil : lineRounds sep [] = [] := rfl

theorem lineRounds_dropWhile (l : List α) : lineRounds sep (l.dropWhile sep) = pieces sep l := by
  have hhead := List.head?_dropWhile_not sep l
  cases hdrop : l.dropWhile sep with
  | nil => simp [← pieces_dropWhile l, hdrop]
  | cons c rest =>
      rw [hdrop] at hhead
      have hc : sep c = false := by simpa using hhead
      simp [lineRounds, hc, ← pieces_dropWhile l, hdrop]

theorem lineRounds_step (hl : l ≠ []) :
    lineRounds sep l =
      l.takeWhile (!sep ·) :: lineRounds sep ((l.drop (l.takeWhile (!sep ·)).length).dropWhile sep) := by
  rw [lineRounds_dropWhile]
  cases l with
  | nil => contradiction
  | cons c l =>
      cases hc : sep c with
      | true => simp [lineRounds, hc]
      | false =>
          rw [lineRounds, pieces_step]
          simp [hc, pieces_dropWhile]

theorem filter_lineRounds (l : List α) : (lineRounds sep l).filter (!·.isEmpty) = pieces sep l := by
  have hpieces : (pieces sep l).filter (!·.isEmpty) = pieces sep l := by simp [pieces]
  rw [lineRounds, List.filter_append, hpieces]
  split <;> simp

theorem mem_lineRounds (h : line ∈ lineRounds sep l) : ∀ x ∈ line, sep x = false := by
  rw [lineRounds, List.mem_append] at h
  obtain h | h := h
  · split at h <;> simp_all
  · exact (mem_pieces h).2

/-! ## Lines that end in a separator -/

/-- The lines of a text: what stands before each separator, and what stands behind the last
one unless that is nothing. -/
def lines (sep : α → Bool) : List α → List (List α)
  | [] => []
  | c :: l =>
      if sep c then [] :: lines sep l
      else (c :: (lines sep l).headD []) :: (lines sep l).tail

@[simp] theorem lines_nil : lines sep [] = [] := rfl

theorem lines_step (hl : l ≠ []) :
    lines sep l = l.takeWhile (!sep ·) :: lines sep (l.drop ((l.takeWhile (!sep ·)).length + 1)) := by
  induction l with
  | nil => contradiction
  | cons c l ih =>
      cases hc : sep c with
      | true => simp [lines, hc]
      | false =>
          rw [lines, hc, if_neg (by simp), List.takeWhile_cons_of_pos (by simp [hc]), List.length_cons,
            List.drop_succ_cons]
          by_cases hnil : l = []
          · simp [hnil]
          · rw [ih hnil]
            simp

theorem lines_line_sep (hline : ∀ x ∈ line, sep x = false) (hc : sep c = true) (l : List α) :
    lines sep (line ++ c :: l) = line :: lines sep l := by
  have htake : (line ++ c :: l).takeWhile (!sep ·) = line := by
    rw [List.takeWhile_append_of_pos (by simpa using hline), List.takeWhile_cons_of_neg (by simp [hc]), List.append_nil]
  rw [lines_step (by simp), htake]
  simp

/-- Lines that are written one behind the other, each with a separator, are read back. -/
theorem lines_flatMap {ls : List (List α)} (hlines : ∀ x ∈ ls, ∀ y ∈ x, sep y = false) (hc : sep c = true)
    (l : List α) : lines sep (ls.flatMap (· ++ [c]) ++ l) = ls ++ lines sep l := by
  induction ls with
  | nil => simp
  | cons line ls ih =>
      rw [List.flatMap_cons, List.append_assoc, List.append_assoc, List.singleton_append,
        lines_line_sep (hlines line (by simp)) hc, ih fun x hx => hlines x (by simp [hx])]
      rfl

theorem lines_of_line (hline : ∀ x ∈ line, sep x = false) (hne : line ≠ []) : lines sep line = [line] := by
  have htake : line.takeWhile (!sep ·) = line := List.takeWhile_eq_self_iff.mpr (by simpa using hline)
  rw [lines_step hne, htake, List.drop_of_length_le (by omega), lines_nil]

theorem mem_lines (h : line ∈ lines sep l) : ∀ x ∈ line, sep x = false := by
  induction hlen : l.length using Nat.strong_induction_on generalizing l with
  | _ n ih =>
      subst hlen
      by_cases hl : l = []
      · simp [hl] at h
      · have hpos := List.length_pos_of_ne_nil hl
        rw [lines_step hl] at h
        obtain rfl | h := List.mem_cons.mp h
        · exact takeWhile_not_sep
        · exact ih _ (by rw [List.length_drop]; omega) h rfl

theorem mem_of_mem_lines (h : line ∈ lines sep l) {x : α} (hx : x ∈ line) : x ∈ l := by
  induction hlen : l.length using Nat.strong_induction_on generalizing l with
  | _ n ih =>
      subst hlen
      by_cases hl : l = []
      · simp [hl] at h
      · have hpos := List.length_pos_of_ne_nil hl
        rw [lines_step hl] at h
        obtain rfl | h := List.mem_cons.mp h
        · exact (List.takeWhile_prefix _).subset hx
        · exact (List.drop_suffix _ _).subset (ih _ (by rw [List.length_drop]; omega) h rfl)

theorem lines_map {β : Type*} {sep' : β → Bool} {f : α → β} (hsep : ∀ x, sep' (f x) = sep x) (l : List α) :
    lines sep' (l.map f) = (lines sep l).map (·.map f) := by
  induction l with
  | nil => rfl
  | cons c l ih =>
      rw [List.map_cons, lines, lines, hsep, ih]
      cases lines sep l <;> split <;> simp

/-- The lines and their separators are no longer than the text, but for a last line without one. -/
theorem length_lines_le (l : List α) : ((lines sep l).map (·.length + 1)).sum ≤ l.length + 1 := by
  induction l with
  | nil => simp
  | cons c l ih =>
      rw [lines]
      split
      · simp only [List.map_cons, List.sum_cons, List.length_nil, List.length_cons]
        omega
      · cases hl : lines sep l with
        | nil => simp
        | cons line ls =>
            rw [hl] at ih
            simp only [List.map_cons, List.sum_cons, List.headD_cons, List.tail_cons, List.length_cons] at ih ⊢
            omega

end Orizon
