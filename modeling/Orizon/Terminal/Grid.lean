import Orizon.Lib.LogRing
import Orizon.Lib.Run

/-!
# Orizon.Terminal.Grid

The VT100 screen of `gui/terminal.c`: `term_putc` outside capture mode, with its escape
sequences, its scrolling and its scrollback.

The cursor is a C `int`.  Its parameters are clamped against one border only, so a cursor
that moves down or forward past the largest `int` ends up before the grid, and this is the
only way out of it (`termRun_inGrid`).
-/

namespace Orizon

/-! ## The screen -/

/-- A C `int` from any integer: 32 bits of two's complement. -/
def int32 (x : Int) : Int := (x + 2 ^ 31) % 2 ^ 32 - 2 ^ 31

/-- `TERM_COLS`. -/
def termCols : Nat := 112

/-- `TERM_ROWS`. -/
def termRows : Nat := 32

/-- `TERM_SCROLLBACK_LINES`. -/
def termScrollbackLines : Nat := 256

/-- A cell: an entry of `chars`, `fg_colors` and `bg_colors`. -/
structure TermCell where
  ch : UInt8
  fg : UInt8
  bg : UInt8
  deriving DecidableEq

/-- The screen of a `terminal_t`: the grid and the scrollback by index, the cursor and the
escape sequence so far.  `gone` is no field of it: it records the rows that have left the
grid. -/
structure TermGrid where
  cells : Nat → TermCell
  scroll : Nat → TermCell
  scrollCount : Nat
  scrollOffset : Int
  cursorX : Int
  cursorY : Int
  currentFg : UInt8
  currentBg : UInt8
  inEscape : Bool
  escapeBuf : List UInt8
  gone : List (List TermCell)

/-- A line of `termCols` cells that lie one behind the other. -/
def termLine (cells : Nat → TermCell) (line : Nat) : List TermCell :=
  (List.range termCols).map fun col => cells (line * termCols + col)

namespace TermGrid

/-- The rows of the scrollback. -/
def scrollRows (t : TermGrid) : List (List TermCell) := (List.range t.scrollCount).map (termLine t.scroll)

/-- Change the cells at the given indices. -/
def write (t : TermGrid) (indices : List Int) (f : TermCell → TermCell) : TermGrid :=
  { t with cells := fun i => if (i : Int) ∈ indices then f (t.cells i) else t.cells i }

end TermGrid

/-- `term_clear_line`. -/
def termClearLine (t : TermGrid) (row : Nat) : TermGrid :=
  { t with cells := fun i =>
      if row * termCols ≤ i ∧ i < (row + 1) * termCols then ⟨0x20, t.currentFg, t.currentBg⟩ else t.cells i }

/-- `term_push_scrollback_line`. -/
def termPushScrollbackLine (t : TermGrid) (row : Nat) : TermGrid :=
  if row ≥ termRows then t
  else if t.scrollCount ≥ termScrollbackLines then
    { t with scroll := fun i =>
        if i < (termScrollbackLines - 1) * termCols then t.scroll (i + termCols)
        else if i < termScrollbackLines * termCols then
          t.cells (row * termCols + (i - (termScrollbackLines - 1) * termCols))
        else t.scroll i }
  else
    { t with
      scrollCount := t.scrollCount + 1
      scroll := fun i =>
        if t.scrollCount * termCols ≤ i ∧ i < (t.scrollCount + 1) * termCols then
          t.cells (row * termCols + (i - t.scrollCount * termCols))
        else t.scroll i }

/-- `term_scroll_up`. -/
def termScrollUp (t : TermGrid) : TermGrid :=
  let gone := t.gone ++ [termLine t.cells 0]
  let t := termPushScrollbackLine t 0
  termClearLine
    { t with
      gone
      cells := fun i => if i < (termRows - 1) * termCols then t.cells (i + termCols) else t.cells i }
    (termRows - 1)

/-- `term_newline`. -/
def termNewline (t : TermGrid) : TermGrid :=
  let cursorY := int32 (t.cursorY + 1)
  if (termRows : Int) ≤ cursorY then
    { termScrollUp { t with cursorX := 0, cursorY } with cursorY := (termRows : Int) - 1 }
  else { t with cursorX := 0, cursorY }

/-! ## Escape sequences -/

/-- The parameters of a sequence: the loop of `term_process_escape` over what stands
between its bracket and its command, with the number it is in. -/
def termParams (params : List Int) (num : Int) (inNum : Bool) : List UInt8 → List Int
  | [] => if inNum then params ++ [num] else params
  | c :: cs =>
      if params.length ≥ 8 then if inNum then params ++ [num] else params
      else if 0x30 ≤ c ∧ c ≤ 0x39 then termParams params (int32 (num * 10 + (c.toNat - 0x30))) true cs
      else if c = 0x3b then termParams (if inNum then params ++ [num] else params) 0 false cs
      else termParams params num inNum cs

/-- The parameters of the sequence in `escape_buf`, whose last character is the command. -/
def TermGrid.params (t : TermGrid) : List Int := termParams [] 0 false t.escapeBuf.tail.dropLast

/-- How far a cursor movement goes. -/
def TermGrid.distance (t : TermGrid) : Int := if t.params.getD 0 0 > 0 then t.params.getD 0 0 else 1

/-- A parameter of `m`, for the colours. -/
def termSgr (t : TermGrid) (p : Int) : TermGrid :=
  if p = 0 then { t with currentFg := 7, currentBg := 0 }
  else if 30 ≤ p ∧ p ≤ 37 then { t with currentFg := UInt8.ofNat (p - 30).toNat }
  else if 40 ≤ p ∧ p ≤ 47 then { t with currentBg := UInt8.ofNat (p - 40).toNat }
  else if 90 ≤ p ∧ p ≤ 97 then { t with currentFg := UInt8.ofNat (p - 90 + 8).toNat }
  else if 100 ≤ p ∧ p ≤ 107 then { t with currentBg := UInt8.ofNat (p - 100 + 8).toNat }
  else if p = 1 then { t with currentFg := t.currentFg ||| 8 }
  else t

/-- The indices that an erased line covers. -/
def TermGrid.eraseIndices (t : TermGrid) : List Int :=
  (List.range (termCols - t.cursorX).toNat).map fun k : Nat => t.cursorY * termCols + (t.cursorX + k)

/-- The `switch` of `term_process_escape`. -/
def termCommand (t : TermGrid) (cmd : UInt8) : TermGrid :=
  if cmd = 0x41 then { t with cursorY := max 0 (int32 (t.cursorY - t.distance)) }
  else if cmd = 0x42 then { t with cursorY := min ((termRows : Int) - 1) (int32 (t.cursorY + t.distance)) }
  else if cmd = 0x43 then { t with cursorX := min ((termCols : Int) - 1) (int32 (t.cursorX + t.distance)) }
  else if cmd = 0x44 then { t with cursorX := max 0 (int32 (t.cursorX - t.distance)) }
  else if cmd = 0x48 ∨ cmd = 0x66 then
    { t with
      cursorY := min ((termRows : Int) - 1) (if t.params.getD 0 0 > 0 then t.params.getD 0 0 - 1 else 0)
      cursorX := min ((termCols : Int) - 1)
        (if t.params.length > 1 ∧ t.params.getD 1 0 > 0 then t.params.getD 1 0 - 1 else 0) }
  else if cmd = 0x4a then
    if t.params.getD 0 0 = 2 then
      { (List.range termRows).foldl termClearLine t with cursorX := 0, cursorY := 0 }
    else t
  else if cmd = 0x4b then t.write t.eraseIndices fun cell => { cell with ch := 0x20 }
  else if cmd = 0x6d then t.params.foldl termSgr t
  else t

/-- `term_process_escape`. -/
def termProcessEscape (t : TermGrid) : TermGrid :=
  let u := if t.escapeBuf.head? = some 0x5b then termCommand t (t.escapeBuf.getLast?.getD 0) else t
  { u with inEscape := false, escapeBuf := [] }

/-! ## Characters -/

/-- A character that ends an escape sequence. -/
def termEndsEscape (c : UInt8) : Bool := (0x41 ≤ c && c ≤ 0x5a) || (0x61 ≤ c && c ≤ 0x7a) || c = 0x7e

/-- A character of an escape sequence. -/
def termEscapeChar (t : TermGrid) (c : UInt8) : TermGrid :=
  let t := { t with escapeBuf := t.escapeBuf ++ [c] }
  if termEndsEscape c then termProcessEscape t
  else if t.escapeBuf.length ≥ 31 then { t with inEscape := false, escapeBuf := [] }
  else t

/-- A printable character. -/
def termPrint (t : TermGrid) (c : UInt8) : TermGrid :=
  let t := t.write [t.cursorY * termCols + t.cursorX] fun _ => ⟨c, t.currentFg, t.currentBg⟩
  let t := { t with cursorX := int32 (t.cursorX + 1) }
  if (termCols : Int) ≤ t.cursorX then termNewline t else t

/-- `term_putc` outside capture mode. -/
def termPutc (t : TermGrid) (c : UInt8) : TermGrid :=
  let t := { t with scrollOffset := 0 }
  if t.inEscape then termEscapeChar t c
  else if c = 0x1b then { t with inEscape := true, escapeBuf := [] }
  else if c = 0x0a then termNewline t
  else if c = 0x0d then { t with cursorX := 0 }
  else if c = 0x08 then if t.cursorX > 0 then { t with cursorX := t.cursorX - 1 } else t
  else if c = 0x09 then
    let t := { t with cursorX := int32 (t.cursorX + 8) / 8 * 8 }
    if (termCols : Int) ≤ t.cursorX then termNewline t else t
  else if 0x20 ≤ c ∧ c < 0x7f then termPrint t c
  else t

/-- The screen of `term_create` before its welcome text. -/
def termInitial : TermGrid where
  cells := fun _ => ⟨0x20, 7, 0⟩
  scroll := fun _ => ⟨0, 0, 0⟩
  scrollCount := 0
  scrollOffset := 0
  cursorX := 0
  cursorY := 0
  currentFg := 7
  currentBg := 0
  inEscape := false
  escapeBuf := []
  gone := []

/-! ## The invariant -/

/-- The indices of the cells that a character writes at the cursor. -/
def termWrites (t : TermGrid) (c : UInt8) : List Int :=
  if t.inEscape then if c = 0x4b then t.eraseIndices else []
  else if 0x20 ≤ c ∧ c < 0x7f then [t.cursorY * termCols + t.cursorX] else []

/-- What is asked of the screen. -/
structure TermGrid.InGrid (t : TermGrid) : Prop where
  cursorX : 0 ≤ t.cursorX ∧ t.cursorX < termCols
  cursorY : 0 ≤ t.cursorY ∧ t.cursorY < termRows
  escapeLen : t.escapeBuf.length ≤ 31
  scrollCount : t.scrollCount ≤ termScrollbackLines
  scrollOffset : t.scrollOffset = 0
  writes : ∀ c, ∀ i ∈ termWrites t c, 0 ≤ i ∧ i < termRows * termCols
  scrollback : t.scrollRows = newest termScrollbackLines t.gone

/-- The character does not end a sequence that moves the cursor past the largest `int`. -/
def TermByteOk (t : TermGrid) (c : UInt8) : Prop :=
  t.inEscape → t.escapeBuf.head? = some 0x5b →
    (c = 0x42 → t.cursorY + TermGrid.distance { t with escapeBuf := t.escapeBuf ++ [c] } < 2 ^ 31) ∧
      (c = 0x43 → t.cursorX + TermGrid.distance { t with escapeBuf := t.escapeBuf ++ [c] } < 2 ^ 31)

/-- The cursor is in the grid. -/
def TermGrid.CursorIn (t : TermGrid) : Prop :=
  (0 ≤ t.cursorX ∧ t.cursorX < termCols) ∧ 0 ≤ t.cursorY ∧ t.cursorY < termRows

/-- Only cells and colours differ. -/
structure TermGrid.Painted (t u : TermGrid) : Prop where
  scroll : u.scroll = t.scroll
  scrollCount : u.scrollCount = t.scrollCount
  gone : u.gone = t.gone
  scrollOffset : u.scrollOffset = t.scrollOffset
  cursorX : u.cursorX = t.cursorX
  cursorY : u.cursorY = t.cursorY

section Proofs

variable {t u w : TermGrid} {c : UInt8}

/-! ### Numbers -/

theorem int32_range (x : Int) : -2 ^ 31 ≤ int32 x ∧ int32 x < 2 ^ 31 := by
  unfold int32
  omega

theorem int32_of_range {x : Int} (hmin : -2 ^ 31 ≤ x) (hmax : x < 2 ^ 31) : int32 x = x := by
  unfold int32
  omega

/-- Past the largest `int` are the negative ones. -/
theorem int32_of_past {x : Int} (hmin : 2 ^ 31 ≤ x) (hmax : x < 2 ^ 32) : int32 x < 0 := by
  unfold int32
  omega

theorem termParams_range {params : List Int} {num : Int} {inNum : Bool} {cs : List UInt8}
    (hparams : ∀ p ∈ params, p < 2 ^ 31) (hnum : num < 2 ^ 31) :
    ∀ p ∈ termParams params num inNum cs, p < 2 ^ 31 := by
  have hstop : ∀ p ∈ if inNum then params ++ [num] else params, p < 2 ^ 31 := by
    intro p hp
    split at hp
    · obtain hp | rfl : p ∈ params ∨ p = num := by simpa using hp
      · exact hparams p hp
      · exact hnum
    · exact hparams p hp
  induction cs generalizing params num inNum with
  | nil => exact hstop
  | cons c cs ih =>
      unfold termParams
      split
      · exact hstop
      split
      · refine ih hparams (int32_range _).2 fun p hp => ?_
        obtain hp | rfl : p ∈ params ∨ p = int32 (num * 10 + (c.toNat - 0x30)) := by simpa using hp
        · exact hparams p hp
        · exact (int32_range _).2
      split
      · exact ih hstop (by decide) fun p hp => hstop p (by simpa using hp)
      · exact ih hparams hnum hstop

theorem TermGrid.param_lt (t : TermGrid) (k : Nat) : t.params.getD k 0 < 2 ^ 31 := by
  rw [List.getD_eq_getElem?_getD]
  cases hk : t.params[k]? with
  | none => decide
  | some p => exact termParams_range (by simp) (by decide) p (List.mem_of_getElem? hk)

theorem TermGrid.distance_range (t : TermGrid) : 0 < t.distance ∧ t.distance < 2 ^ 31 := by
  have hlt := t.param_lt 0
  unfold TermGrid.distance
  split <;> omega

/-! ### Painting -/

theorem TermGrid.Painted.refl (t : TermGrid) : t.Painted t := ⟨rfl, rfl, rfl, rfl, rfl, rfl⟩

theorem TermGrid.Painted.trans (h : t.Painted u) (h' : u.Painted w) : t.Painted w :=
  ⟨h'.scroll.trans h.scroll, h'.scrollCount.trans h.scrollCount, h'.gone.trans h.gone,
    h'.scrollOffset.trans h.scrollOffset, h'.cursorX.trans h.cursorX, h'.cursorY.trans h.cursorY⟩

theorem painted_foldl {α : Type} {f : TermGrid → α → TermGrid} (h : ∀ (t : TermGrid) a, t.Painted (f t a))
    (as : List α)
    (t : TermGrid) : t.Painted (as.foldl f t) := by
  induction as generalizing t with
  | nil => exact .refl t
  | cons a as ih => exact (h t a).trans (ih (f t a))

theorem painted_termSgr (t : TermGrid) (p : Int) : t.Painted (termSgr t p) := by
  unfold termSgr
  split_ifs <;> exact ⟨rfl, rfl, rfl, rfl, rfl, rfl⟩

theorem painted_termClearLine (t : TermGrid) (row : Nat) : t.Painted (termClearLine t row) :=
  ⟨rfl, rfl, rfl, rfl, rfl, rfl⟩

theorem TermGrid.Painted.cursorIn_iff (h : t.Painted u) : u.CursorIn ↔ t.CursorIn := by
  unfold TermGrid.CursorIn
  rw [h.cursorX, h.cursorY]

/-! ### The scrollback -/

/-- The scrollback holds what it should. -/
def TermGrid.Remembers (t : TermGrid) : Prop := t.scrollRows = newest termScrollbackLines t.gone

theorem TermGrid.Remembers.congr (h : t.Remembers) (hscroll : u.scroll = t.scroll)
    (hcount : u.scrollCount = t.scrollCount) (hgone : u.gone = t.gone) : u.Remembers := by
  unfold TermGrid.Remembers TermGrid.scrollRows at h ⊢
  rw [hscroll, hcount, hgone, h]

theorem TermGrid.Painted.remembers (h : t.Painted u) (ht : t.Remembers) : u.Remembers :=
  ht.congr h.scroll h.scrollCount h.gone

theorem TermGrid.Remembers.scrollCount_eq (h : t.Remembers) :
    t.scrollCount = min termScrollbackLines t.gone.length := by
  have hlen := congrArg List.length h
  simpa [TermGrid.scrollRows] using hlen

/-- A line that is written behind `count` others. -/
theorem map_termLine_pushed (count : Nat) {old new cells : Nat → TermCell}
    (hold : ∀ i, i < count * termCols → new i = old i)
    (hline : ∀ col, col < termCols → new (count * termCols + col) = cells col) :
    (List.range (count + 1)).map (termLine new) = (List.range count).map
    (termLine old) ++ [termLine cells 0] := by
  rw [List.range_succ, List.map_append, List.map_singleton]
  congr 1
  · refine List.map_congr_left fun line hline => List.map_congr_left fun col hcol => hold _ ?_
    rw [List.mem_range] at hline hcol
    calc line * termCols + col < line * termCols + termCols := Nat.add_lt_add_left hcol _
      _ = (line + 1) * termCols := (Nat.succ_mul ..).symm
      _ ≤ count * termCols := Nat.mul_le_mul_right _ hline
  · simp only [termLine, Nat.zero_mul, Nat.zero_add]
    rw [List.map_congr_left fun col hcol => hline col (List.mem_range.mp hcol)]

theorem map_termLine_moved (count : Nat) (cells : Nat → TermCell) :
    (List.range count).map (termLine fun i => cells (i + termCols)) =
      ((List.range (count + 1)).map (termLine cells)).tail := by
  rw [List.range_succ_eq_map, List.map_cons, List.tail_cons, List.map_map]
  refine List.map_congr_left fun line _ => ?_
  rw [Function.comp_apply, termLine, termLine]
  refine List.map_congr_left fun col _ => ?_
  rw [Nat.succ_mul, Nat.add_right_comm]

theorem remembers_termScrollUp (h : t.Remembers) : (termScrollUp t).Remembers := by
  have hcount := h.scrollCount_eq
  have hlen := length_newest termScrollbackLines t.gone
  unfold TermGrid.Remembers TermGrid.scrollRows at h ⊢
  rw [termScrollUp, termPushScrollbackLine, if_neg (by decide)]
  by_cases hfull : t.scrollCount ≥ termScrollbackLines
  · have hcount' : t.scrollCount = 255 + 1 := by
      simp only [termScrollbackLines] at hcount hfull
      omega
    rw [if_pos hfull, termClearLine]
    dsimp only
    rw [newest_append_of_full (by decide) (by omega), ← h, hcount', ← map_termLine_moved]
    refine map_termLine_pushed 255 (fun i hi => ?_) fun col hcol => ?_
    · rw [if_pos (by simpa [termScrollbackLines] using hi)]
    · have hlast : ¬ 255 * termCols + col < (termScrollbackLines - 1) * termCols :=
        Nat.not_lt.mpr (Nat.le_add_right _ _)
      have hend : 255 * termCols + col < termScrollbackLines * termCols := by
        simp only [termScrollbackLines, termCols] at hcol ⊢
        omega
      have hindex : 0 * termCols + (255 * termCols + col - (termScrollbackLines - 1) * termCols) = col := by
        rw [Nat.zero_mul, Nat.zero_add]
        exact Nat.add_sub_cancel_left (255 * termCols) col
      rw [if_neg hlast, if_pos hend, hindex]
  · rw [if_neg hfull, termClearLine]
    dsimp only
    rw [newest_append_of_lt (by omega), ← h]
    refine map_termLine_pushed t.scrollCount (fun i hi => ?_) fun col hcol => ?_
    · rw [if_neg (by omega)]
    · have hrange : t.scrollCount * termCols ≤ t.scrollCount * termCols + col ∧
          t.scrollCount * termCols + col < (t.scrollCount + 1) * termCols := by
        rw [Nat.succ_mul]
        omega
      rw [if_pos hrange, Nat.zero_mul, Nat.zero_add, Nat.add_sub_cancel_left]

theorem remembers_termNewline (h : t.Remembers) : (termNewline t).Remembers := by
  unfold termNewline
  dsimp only
  split
  · have hup := @remembers_termScrollUp { t with cursorX := 0, cursorY := int32 (t.cursorY + 1) } h
    exact hup.congr rfl rfl rfl
  · exact h.congr rfl rfl rfl

theorem remembers_termCommand (h : t.Remembers) (cmd : UInt8) : (termCommand t cmd).Remembers := by
  unfold termCommand
  split
  · exact h.congr rfl rfl rfl
  split
  · exact h.congr rfl rfl rfl
  split
  · exact h.congr rfl rfl rfl
  split
  · exact h.congr rfl rfl rfl
  split
  · exact h.congr rfl rfl rfl
  split
  · split
    · have hclear := (painted_foldl painted_termClearLine (List.range termRows) t).remembers h
      exact hclear.congr rfl rfl rfl
    · exact h
  split
  · exact h.congr rfl rfl rfl
  split
  · exact (painted_foldl painted_termSgr t.params t).remembers h
  · exact h

theorem remembers_termProcessEscape (h : t.Remembers) : (termProcessEscape t).Remembers := by
  unfold termProcessEscape
  dsimp only
  split
  · exact (remembers_termCommand h _).congr rfl rfl rfl
  · exact h.congr rfl rfl rfl

theorem remembers_termPutc (h : t.Remembers) (c : UInt8) : (termPutc t c).Remembers := by
  unfold termPutc
  dsimp only
  split
  · unfold termEscapeChar
    dsimp only
    split
    · exact remembers_termProcessEscape (h.congr rfl rfl rfl)
    split <;> exact h.congr rfl rfl rfl
  split
  · exact h.congr rfl rfl rfl
  split
  · exact remembers_termNewline (h.congr rfl rfl rfl)
  split
  · exact h.congr rfl rfl rfl
  split
  · split <;> exact h.congr rfl rfl rfl
  split
  · split
    · exact remembers_termNewline (h.congr rfl rfl rfl)
    · exact h.congr rfl rfl rfl
  split
  · unfold termPrint
    dsimp only
    split
    · exact remembers_termNewline (h.congr rfl rfl rfl)
    · exact h.congr rfl rfl rfl
  · exact h.congr rfl rfl rfl

/-! ### The cursor -/

theorem cursorIn_termNewline (hmin : 0 ≤ t.cursorY) (hmax : t.cursorY < termRows) :
    (termNewline t).CursorIn := by
  have hnext : int32 (t.cursorY + 1) = t.cursorY + 1 :=
    int32_of_range (by omega) (by simp only [termRows] at hmax; omega)
  unfold termNewline
  dsimp only
  rw [hnext]
  split
  · simp only [TermGrid.CursorIn, termScrollUp, termClearLine, termPushScrollbackLine]
    split_ifs <;> simp [termCols, termRows]
  next hlow =>
    simp only [TermGrid.CursorIn, termCols]
    omega

/-- A command leaves the grid only down or forward, past the largest `int`. -/
theorem cursorIn_termCommand (h : t.CursorIn) (cmd : UInt8) : (termCommand t cmd).CursorIn ↔
    (cmd = 0x42 → t.cursorY + t.distance < 2 ^ 31) ∧ (cmd = 0x43 → t.cursorX + t.distance < 2 ^ 31) := by
  obtain ⟨⟨hxmin, hxmax⟩, hymin, hymax⟩ := h
  have hin : t.CursorIn := ⟨⟨hxmin, hxmax⟩, hymin, hymax⟩
  obtain ⟨hpos, hlt⟩ := t.distance_range
  have hparam := t.param_lt
  simp only [termCols, termRows] at hxmax hymax
  unfold termCommand
  split
  next hA =>
    subst hA
    have hback : int32 (t.cursorY - t.distance) = t.cursorY - t.distance :=
      int32_of_range (by omega) (by omega)
    simp only [TermGrid.CursorIn, termCols, termRows, hback]
    simp
    omega
  split
  next hB =>
    subst hB
    simp only [TermGrid.CursorIn, termCols, termRows]
    by_cases hfits : t.cursorY + t.distance < 2 ^ 31
    · rw [int32_of_range (by omega) hfits]
      simp
      omega
    · have hpast := int32_of_past (Int.not_lt.mp hfits) (by omega)
      simp
      omega
  next hB =>
  split
  next hC =>
    subst hC
    simp only [TermGrid.CursorIn, termCols, termRows]
    by_cases hfits : t.cursorX + t.distance < 2 ^ 31
    · rw [int32_of_range (by omega) hfits]
      simp
      omega
    · have hpast := int32_of_past (Int.not_lt.mp hfits) (by omega)
      simp
      omega
  next hC =>
  refine iff_of_true ?_ ⟨fun h => absurd h hB, fun h => absurd h hC⟩
  split
  next hD =>
    have hback : int32 (t.cursorX - t.distance) = t.cursorX - t.distance :=
      int32_of_range (by omega) (by omega)
    simp only [TermGrid.CursorIn, termCols, termRows, hback]
    omega
  split
  · simp only [TermGrid.CursorIn, termCols, termRows]
    split_ifs <;> omega
  split
  · split
    · simp [TermGrid.CursorIn, termCols, termRows]
    · exact hin
  split
  · exact hin
  split
  · exact (painted_foldl painted_termSgr t.params t).cursorIn_iff.mpr hin
  · exact hin

theorem cursorIn_termPutc (h : t.CursorIn) (c : UInt8) : (termPutc t c).CursorIn ↔ TermByteOk t c := by
  obtain ⟨⟨hxmin, hxmax⟩, hymin, hymax⟩ := h
  have hin : t.CursorIn := ⟨⟨hxmin, hxmax⟩, hymin, hymax⟩
  simp only [termCols, termRows] at hxmax hymax
  unfold termPutc TermByteOk
  dsimp only
  by_cases hesc : t.inEscape = true
  · rw [if_pos hesc, termEscapeChar]
    dsimp only
    by_cases hend : termEndsEscape c = true
    · rw [if_pos hend, termProcessEscape]
      dsimp only
      have hhead : (t.escapeBuf ++ [c]).head? = some 0x5b ↔ t.escapeBuf.head? = some 0x5b := by
        cases t.escapeBuf with
        | nil =>
            simp only [List.nil_append, List.head?_cons, List.head?_nil, Option.some.injEq, reduceCtorEq, iff_false]
            rintro rfl
            exact absurd hend (by decide)
        | cons b bs => rfl
      by_cases hbracket : t.escapeBuf.head? = some 0x5b
      · rw [if_pos (hhead.mpr hbracket)]
        rw [List.getLast?_concat, Option.getD_some]
        have hcommand :=
          @cursorIn_termCommand { t with scrollOffset := 0, escapeBuf := t.escapeBuf ++ [c] } hin c
        exact hcommand.trans ⟨fun hfits _ _ => hfits, fun hfits => hfits hesc hbracket⟩
      · rw [if_neg (hhead.not.mpr hbracket)]
        exact iff_of_true hin fun _ h => absurd h hbracket
    · rw [if_neg hend]
      have hletter : c ≠ 0x42 ∧ c ≠ 0x43 := by
        constructor <;> rintro rfl <;> exact hend (by decide)
      refine iff_of_true ?_ fun _ _ => ⟨fun h => absurd h hletter.1, fun h => absurd h hletter.2⟩
      split <;> exact hin
  · rw [if_neg hesc]
    refine iff_of_true ?_ fun h => absurd h hesc
    have hnewline : ∀ u : TermGrid, u.cursorY = t.cursorY → (termNewline u).CursorIn := by
      intro u hu
      exact cursorIn_termNewline (by omega) (by simp only [termRows]; omega)
    split_ifs
    · exact hin
    · exact hnewline _ rfl
    · simp only [TermGrid.CursorIn, termCols, termRows]
      omega
    · simp only [TermGrid.CursorIn, termCols, termRows]
      omega
    · exact hin
    · exact hnewline _ rfl
    next hfits =>
      rw [int32_of_range (by omega) (by omega)] at hfits ⊢
      simp only [TermGrid.CursorIn, termCols, termRows] at hfits ⊢
      omega
    · unfold termPrint
      dsimp only [TermGrid.write]
      rw [int32_of_range (by omega) (by omega)]
      split
      · exact hnewline _ rfl
      next hfits =>
        simp only [TermGrid.CursorIn, termCols, termRows] at hfits ⊢
        omega
    · exact hin

theorem termWrites_inGrid (h : t.CursorIn) (c : UInt8) :
    ∀ i ∈ termWrites t c, 0 ≤ i ∧ i < termRows * termCols := by
  obtain ⟨⟨hxmin, hxmax⟩, hymin, hymax⟩ := h
  simp only [termCols, termRows] at hxmax hymax ⊢
  intro i hi
  unfold termWrites at hi
  split_ifs at hi
  · obtain ⟨k, hk, rfl⟩ := List.mem_map.mp hi
    simp only [termCols, List.mem_range] at hk ⊢
    omega
  · cases hi
  · obtain rfl := List.mem_singleton.mp hi
    simp only [termCols]
    omega
  · cases hi

/-! ### Runs -/

theorem length_escapeBuf_termPutc (h : t.escapeBuf.length ≤ 31) (c : UInt8) :
    (termPutc t c).escapeBuf.length ≤ 31 := by
  have hnewline : ∀ u : TermGrid, (termNewline u).escapeBuf = u.escapeBuf := by
    intro u
    unfold termNewline termScrollUp termPushScrollbackLine
    dsimp only
    split_ifs <;> rfl
  unfold termPutc
  dsimp only
  split
  · simp only [termEscapeChar, termProcessEscape]
    split
    · simp
    split
    · simp
    next hfits =>
      simp only [ge_iff_le, Nat.not_le] at hfits
      exact Nat.le_of_lt hfits
  split
  · simp
  split
  · rwa [hnewline]
  split
  · exact h
  split
  · split <;> exact h
  split
  · split
    · rwa [hnewline]
    · exact h
  split
  · unfold termPrint
    dsimp only
    split
    · rwa [hnewline]
    · exact h
  · exact h

theorem scrollOffset_termPutc (t : TermGrid) (c : UInt8) : (termPutc t c).scrollOffset = 0 := by
  have hnewline : ∀ u : TermGrid, u.scrollOffset = 0 → (termNewline u).scrollOffset = 0 := by
    intro u hu
    unfold termNewline termScrollUp termPushScrollbackLine
    dsimp only
    split_ifs <;> exact hu
  have hcommand : ∀ (u : TermGrid) (cmd : UInt8), u.scrollOffset = 0 → (termCommand u cmd).scrollOffset =
      0 := by
    intro u cmd hu
    have hclear := (painted_foldl painted_termClearLine (List.range termRows) u).scrollOffset
    have hsgr := (painted_foldl painted_termSgr u.params u).scrollOffset
    unfold termCommand
    split_ifs <;> first | exact hu | exact hclear.trans hu | exact hsgr.trans hu
  unfold termPutc
  dsimp only
  split
  · simp only [termEscapeChar, termProcessEscape]
    split
    · split
      · exact hcommand _ _ rfl
      · rfl
    split <;> rfl
  split
  · rfl
  split
  · exact hnewline _ rfl
  split
  · rfl
  split
  · split <;> rfl
  split
  · split
    · exact hnewline _ rfl
    · rfl
  split
  · unfold termPrint
    dsimp only
    split
    · exact hnewline _ rfl
    · rfl
  · rfl

/-- In the grid, the characters that keep the screen as it should be are those that do not
move the cursor past the largest `int`. -/
theorem inGrid_termPutc (h : t.InGrid) (c : UInt8) : (termPutc t c).InGrid ↔ TermByteOk t c := by
  have hin : t.CursorIn := ⟨h.cursorX, h.cursorY⟩
  have hremembers : (termPutc t c).Remembers := remembers_termPutc h.scrollback c
  constructor
  · intro hnext
    exact (cursorIn_termPutc hin c).mp ⟨hnext.cursorX, hnext.cursorY⟩
  · intro hok
    have hcursor := (cursorIn_termPutc hin c).mpr hok
    refine ⟨hcursor.1, hcursor.2, length_escapeBuf_termPutc h.escapeLen c, ?_, scrollOffset_termPutc t c,
      termWrites_inGrid hcursor, hremembers⟩
    rw [hremembers.scrollCount_eq]
    exact Nat.min_le_left _ _

theorem inGrid_termInitial : termInitial.InGrid where
  cursorX := by decide
  cursorY := by decide
  escapeLen := by decide
  scrollCount := by decide
  scrollOffset := rfl
  writes := termWrites_inGrid ⟨by decide, by decide⟩
  scrollback := rfl

/-- The screen is as it should be after every byte of a stream exactly if no byte ends a
sequence that moves the cursor past the largest `int`. -/
theorem termRun_inGrid (bytes : List UInt8) :
    AllStates termPutc TermGrid.InGrid termInitial bytes ↔ AllSteps termPutc TermByteOk termInitial bytes := by
  have hinv : ∀ t : TermGrid, ∀ c ∈ bytes, True → True := fun _ _ _ h => h
  exact allStates_iff_allSteps hinv (fun _ c _ _ hgood => inGrid_termPutc hgood c) trivial inGrid_termInitial

end Proofs

/-! ## A sequence that leaves the grid -/

/-- A line feed, and the sequence `ESC[2147483647B`. -/
def sampleDown : List UInt8 :=
  [0x0a, 0x1b, 0x5b, 0x32, 0x31, 0x34, 0x37, 0x34, 0x38, 0x33, 0x36, 0x34, 0x37, 0x42]

theorem termRun_leavesGrid :
    ¬ ∀ bytes : List UInt8, AllStates termPutc TermGrid.InGrid termInitial bytes := by
  intro h
  have hrun := (h sampleDown).last
  exact absurd hrun.cursorY.1 (by decide +kernel)

end Orizon
