import Mathlib.Algebra.Order.BigOperators.Group.List
import Mathlib.Data.List.Destutter
import Mathlib.Data.List.DropRight
import Orizon.Lib.Lines
import Orizon.System.Text
import Orizon.Terminal.Editor
import Orizon.Vfs.Fill

/-!
# Orizon.Terminal.History

The command history of `gui/terminal.c`: what is recorded, saved and loaded.

A history of 32 rows can take 8192 bytes of the file, and the array that it is loaded into has
4096.  A history that was saved is loaded again just if it takes no more (`historyLaws_iff`).
-/

namespace Orizon

/-! ## The code -/

/-- `TERM_HISTORY_MAX`. -/
def termHistoryMax : Nat := 32

/-- `TERM_HISTORY_PATH`. -/
def termHistoryPath : CStr := cstr "/workspace/.orizon/history"

/-- The size of `buf` in `term_load_history`. -/
def termHistoryBuf : Nat := 4096

/-- `history` up to `history_count`, and `history_pos`. -/
structure TermHistory where
  history : List CStr
  historyPos : Nat

/-- A row: `strncpy` of 255 bytes, and a NUL. -/
def historyRow (s : CStr) : CStr := s.take 255

/-- The rows are shifted if there is none left. -/
def termHistoryShift (rows : List CStr) : List CStr :=
  if rows.length ≥ termHistoryMax then ((rows.drop 1).take (termHistoryMax - 1)).map historyRow else rows

section Files

variable {H : Type} [Allocator H]

/-- The writes of `term_save_history`; whether all of them succeed is not looked at in the code. -/
def termWriteHistory (v : Vfs H) (fd : Nat) : List CStr → Bool × Vfs H
  | [] => (true, v)
  | row :: rows =>
      let r := vfsWrite v fd (strBytes row)
      let e := vfsWrite r.2 fd [newline]
      let rest := termWriteHistory e.2 fd rows
      (r.1.toOption = some row.length && e.1.toOption = some 1 && rest.1, rest.2)

/-- `term_save_history`. -/
def termSaveHistory (v : Vfs H) (rows : List CStr) : Bool × Vfs H :=
  let v := (vfsMkdir v (cstr "/workspace")).2
  let v := (vfsMkdir v (cstr "/workspace/.orizon")).2
  match vfsOpen v termHistoryPath (oCreat ||| oWronly ||| oTrunc) with
  | (none, v) => (false, v)
  | (some fd, v) =>
      let r := termWriteHistory v fd rows
      (r.1, vfsClose r.2 fd)

/-- The read loop of `term_load_history`; `none` if a read fails.  A round that goes on has read a
byte, so the size of the array is fuel enough. -/
def termReadHistory (fd : Nat) : Nat → Vfs H → List UInt8 → Option (List UInt8) × Vfs H
  | 0, v, buf => (some buf, v)
  | fuel + 1, v, buf =>
      if buf.length < termHistoryBuf - 1 then
        match vfsRead v fd (termHistoryBuf - 1 - buf.length) with
        | (.ok bytes, w) => if bytes.length > 0 then termReadHistory fd fuel w (buf ++ bytes) else (some buf, w)
        | (.error _, w) => (none, w)
      else (some buf, v)

/-- A line of the file: without its carriage returns it is a row, unless nothing is left of it. -/
def termHistoryLine (rows : List CStr) (line : List UInt8) : List CStr :=
  let text := line.rdropWhile (· = 0x0d)
  if text.length > 0 then termHistoryShift rows ++ [bytesCstr (text.take 255)] else rows

/-- The loop of `term_load_history` over what was read.  A round takes a byte. -/
def termParseHistory : Nat → List UInt8 → List CStr → List CStr
  | 0, _, rows => rows
  | fuel + 1, buf, rows =>
      if buf.length > 0 then
        let line := buf.takeWhile (· ≠ newline)
        termParseHistory fuel (buf.drop (line.length + 1)) (termHistoryLine rows line)
      else rows

/-- `term_load_history`. -/
def termLoadHistory (v : Vfs H) : TermHistory × Vfs H :=
  match vfsOpen v termHistoryPath 0 with
  | (none, v) => (⟨[], 0⟩, v)
  | (some fd, v) =>
      let r := termReadHistory fd termHistoryBuf v []
      match r.1 with
      | none => (⟨[], 0⟩, vfsClose r.2 fd)
      | some buf =>
          let rows := termParseHistory buf.length buf []
          (⟨rows, rows.length⟩, vfsClose r.2 fd)

/-- `term_add_history`. -/
def termAddHistory (s : TermHistory × Vfs H) (cmd : CStr) : TermHistory × Vfs H :=
  if cmd = [] then s
  else if s.1.history.getLast? = some cmd then (⟨s.1.history, s.1.history.length⟩, s.2)
  else
    let rows := termHistoryShift s.1.history ++ [historyRow cmd]
    (⟨rows, rows.length⟩, (termSaveHistory s.2 rows).2)

end Files

/-! ## What is required -/

/-- A row that a line of the file can hold. -/
structure HistoryRow (row : CStr) : Prop where
  nonempty : row ≠ []
  fits : row.length ≤ 255
  line : newline ∉ strBytes row
  plain : (strBytes row).getLast? ≠ some 0x0d

/-- A history of such rows. -/
structure KeptHistory where
  rows : List CStr
  few : rows.length ≤ termHistoryMax
  each : ∀ row ∈ rows, HistoryRow row

/-- The bytes that it takes in the file. -/
def KeptHistory.savedSize (h : KeptHistory) : Nat := (h.rows.map (·.length + 1)).sum

/-- A command that `term_execute` does not refuse for its length. -/
abbrev Command := { cmd : CStr // cmd ≠ [] ∧ cmd.length < 256 }

/-- A history that was saved is restored, and what is recorded of the commands are the last ones,
one for those that follow each other. -/
structure HistoryLaws {H : Type} [Allocator H] (v : Vfs H) (h : KeptHistory) (cmds : List Command) : Prop where
  restored : (termSaveHistory v h.rows).1 = true →
    (termLoadHistory (termSaveHistory v h.rows).2).1 = ⟨h.rows, h.rows.length⟩
  recorded : ((cmds.map Subtype.val).foldl termAddHistory (⟨[], 0⟩, v)).1.history =
    ((cmds.map Subtype.val).destutter (· ≠ ·)).rtake termHistoryMax

/-! ## Recording -/

section Recording

variable {α : Type} [DecidableEq α] {l : List α} {rows : List CStr} {cmd : CStr}

theorem getLast?_destutter' (a : α) (l : List α) : (l.destutter' (· ≠ ·) a).getLast? = (a :: l).getLast? := by
  induction l generalizing a with
  | nil => rfl
  | cons b l ih =>
      rw [List.destutter'_cons, List.getLast?_cons_cons]
      by_cases h : a ≠ b
      · rw [if_pos h, List.getLast?_cons, ih]
        simp [List.getLast?_cons]
      · rw [if_neg h, not_not.mp h, ih]

theorem destutter'_concat (a : α) (l : List α) (x : α) :
    (l ++ [x]).destutter' (· ≠ ·) a =
      if (a :: l).getLast? = some x then l.destutter' (· ≠ ·) a else l.destutter' (· ≠ ·) a ++ [x] := by
  induction l generalizing a with
  | nil => by_cases h : a = x <;> simp [h]
  | cons b l ih =>
      rw [List.cons_append, List.destutter'_cons, List.destutter'_cons, ih, List.getLast?_cons_cons]
      by_cases h : a ≠ b
      · rw [if_pos h, if_pos h]
        split <;> rfl
      · rw [if_neg h, if_neg h, ih, not_not.mp h]

theorem destutter_concat (l : List α) (x : α) :
    (l ++ [x]).destutter (· ≠ ·) = if l.getLast? = some x then l.destutter (· ≠ ·) else l.destutter (· ≠ ·) ++ [x] := by
  cases l with
  | nil => rfl
  | cons a l => exact destutter'_concat a l x

theorem getLast?_destutter (l : List α) : (l.destutter (· ≠ ·)).getLast? = l.getLast? := by
  cases l with
  | nil => rfl
  | cons a l => exact getLast?_destutter' a l

omit [DecidableEq α] in
theorem getLast?_rtake {n : Nat} (hn : 0 < n) (l : List α) : (l.rtake n).getLast? = l.getLast? := by
  obtain rfl | ⟨l, x, rfl⟩ := l.eq_nil_or_concat'
  · simp
  · obtain ⟨n, rfl⟩ := Nat.exists_eq_add_of_lt hn
    rw [Nat.zero_add, List.rtake_concat_succ, List.getLast?_concat, List.getLast?_concat]

theorem termHistoryShift_rtake (hrows : ∀ row ∈ rows, row.length ≤ 255) :
    termHistoryShift (rows.rtake termHistoryMax) = rows.rtake (termHistoryMax - 1) := by
  rw [termHistoryShift, List.rtake, List.rtake, List.length_drop]
  split
  · next hfull =>
      have hdrop : (rows.drop (rows.length - termHistoryMax)).drop 1 =
          rows.drop (rows.length - (termHistoryMax - 1)) := by
        rw [List.drop_drop]
        congr 1
        simp only [termHistoryMax] at hfull ⊢
        omega
      have hsame : ∀ row ∈ rows.drop (rows.length - (termHistoryMax - 1)), historyRow row = row := fun row hrow =>
        List.take_of_length_le (hrows row (List.mem_of_mem_drop hrow))
      rw [hdrop, List.take_of_length_le (by rw [List.length_drop]; omega), List.map_congr_left hsame, List.map_id']
  · next hroom =>
      rw [Nat.sub_eq_zero_of_le (by omega), Nat.sub_eq_zero_of_le (by omega)]

theorem termAddHistory_step {H : Type} [Allocator H] {s : TermHistory × Vfs H} {past : List Command} (cmd : Command)
    (h : s.1.history = ((past.map Subtype.val).destutter (· ≠ ·)).rtake termHistoryMax) :
    (termAddHistory s cmd).1.history =
      (((past ++ [cmd]).map Subtype.val).destutter (· ≠ ·)).rtake termHistoryMax := by
  have hrows : ∀ row ∈ (past.map Subtype.val).destutter (· ≠ ·), row.length ≤ 255 := by
    intro row hrow
    obtain ⟨c, -, rfl⟩ := List.mem_map.mp ((List.destutter_sublist _ _).subset hrow)
    exact Nat.le_of_lt_succ c.property.2
  rw [List.map_append, List.map_singleton, destutter_concat, termAddHistory, if_neg cmd.property.1, h,
    getLast?_rtake (by decide), getLast?_destutter]
  split
  · rfl
  · dsimp only
    rw [termHistoryShift_rtake hrows, historyRow, List.take_of_length_le (Nat.le_of_lt_succ cmd.property.2)]
    exact (List.rtake_concat_succ _ _ _).symm

theorem termAddHistory_run {H : Type} [Allocator H] {s : TermHistory × Vfs H} {past : List Command}
    (cmds : List Command)
    (h : s.1.history = ((past.map Subtype.val).destutter (· ≠ ·)).rtake termHistoryMax) :
    ((cmds.map Subtype.val).foldl termAddHistory s).1.history =
      (((past ++ cmds).map Subtype.val).destutter (· ≠ ·)).rtake termHistoryMax := by
  induction cmds generalizing s past with
  | nil => simpa using h
  | cons cmd cmds ih =>
      have hrest := ih (termAddHistory_step cmd h)
      rwa [List.append_assoc, List.singleton_append] at hrest

end Recording

/-! ## Saving -/

section Saving

variable {H : Type} [Allocator H] {v w : Vfs H} {fd : Nat} {rows : List CStr} {bytes : List UInt8}

/-- What the rows are in the file. -/
def historyBytes (rows : List CStr) : List UInt8 := (rows.map strBytes).flatMap (· ++ [newline])

theorem length_historyBytes (rows : List CStr) : (historyBytes rows).length = (rows.map (·.length + 1)).sum := by
  simp [historyBytes, List.length_flatMap, strBytes, Function.comp_def]

theorem write_of_toOption {n : Nat} (h : (vfsWrite v fd bytes).1.toOption = some n) :
    vfsWrite v fd bytes = (.ok n, (vfsWrite v fd bytes).2) := by
  cases hr : vfsWrite v fd bytes with
  | mk r w =>
      rw [hr] at h
      cases r with
      | error e => cases h
      | ok m => cases h; rfl

theorem vfsInitialized_termWriteHistory (v : Vfs H) (fd : Nat) (rows : List CStr) :
    (termWriteHistory v fd rows).2.vfsInitialized = v.vfsInitialized := by
  induction rows generalizing v with
  | nil => rfl
  | cons row rows ih => rw [termWriteHistory, ih, vfsInitialized_vfsWrite, vfsInitialized_vfsWrite]

theorem termWriteHistory_filling (h : Filling v fd termHistoryPath bytes)
    (hsmall : bytes.length + (historyBytes rows).length + 4095 < 2 ^ 64)
    (hdone : (termWriteHistory v fd rows).1 = true) :
    Filling (termWriteHistory v fd rows).2 fd termHistoryPath (bytes ++ historyBytes rows) := by
  induction rows generalizing v bytes with
  | nil => simpa [termWriteHistory, historyBytes] using h
  | cons row rows ih =>
      rw [termWriteHistory] at hdone ⊢
      simp only [Bool.and_eq_true, decide_eq_true_eq] at hdone
      obtain ⟨⟨hrow, hend⟩, hrest⟩ := hdone
      have hsize : (historyBytes (row :: rows)).length = (strBytes row).length + 1 + (historyBytes rows).length := by
        rw [historyBytes, List.map_cons, List.flatMap_cons, List.length_append, List.length_append]
        rfl
      have hwritten := h.write (by omega) (write_of_toOption hrow)
      have hended := hwritten.write (by rw [List.length_append, List.length_singleton]; omega) (write_of_toOption hend)
      have hall := ih hended (by simp only [List.length_append, List.length_singleton]; omega) hrest
      simpa [historyBytes] using hall

theorem termSaveHistory_done (hsmall : (historyBytes rows).length + 4095 < 2 ^ 64)
    (hdone : (termSaveHistory v rows).1 = true) :
    (termSaveHistory v rows).2.vfsInitialized = true ∧ (findFreeFile (termSaveHistory v rows).2).isSome ∧
      fileAt (termSaveHistory v rows).2 termHistoryPath = some (historyBytes rows) := by
  rw [termSaveHistory] at hdone ⊢
  generalize (vfsMkdir (vfsMkdir v (cstr "/workspace")).2 (cstr "/workspace/.orizon")).2 = u at hdone ⊢
  rw [← vfsOpen_vfsInit] at hdone ⊢
  have hflags : StartsAtEnd (vfsInit u) termHistoryPath (oCreat ||| oWronly ||| oTrunc) := .inl (by decide)
  have hbase : putBase (vfsInit u) termHistoryPath (oCreat ||| oWronly ||| oTrunc) = [] := if_pos (by decide)
  obtain hnone | ⟨fd, hfd, hfill⟩ := filling_vfsOpen (vfsInitialized_vfsInit u) (by decide) hflags
  · rw [hnone] at hdone
    cases hdone
  · have hinit := vfsInitialized_vfsOpen (vfsInit u) termHistoryPath (oCreat ||| oWronly ||| oTrunc)
    have hlt := lt_of_vfsOpen hfd
    obtain ⟨w, hopen⟩ : ∃ w, vfsOpen (vfsInit u) termHistoryPath (oCreat ||| oWronly ||| oTrunc) = (some fd, w) :=
      ⟨_, Prod.ext hfd rfl⟩
    rw [hopen, hbase] at hfill
    rw [hopen] at hinit hdone ⊢
    dsimp only at hinit hfill hdone ⊢
    have hwritten := termWriteHistory_filling hfill (by simpa using hsmall) hdone
    rw [List.nil_append] at hwritten
    exact ⟨by rw [vfsInitialized_vfsClose, vfsInitialized_termWriteHistory, hinit], findFreeFile_vfsClose hlt,
      hwritten.close.fileAt⟩

end Saving

/-! ## Loading -/

section Loading

variable {H : Type} {v : Vfs H} {fd : Nat} {path : CStr} {rows : List CStr} {buf line : List UInt8}

theorem termReadHistory_eq (h : HandleOn v fd path) (fuel : Nat) (buf : List UInt8) :
    termReadHistory fd fuel v buf =
      (some (vfsReadLoop termHistoryBuf fd fuel v buf).1, (vfsReadLoop termHistoryBuf fd fuel v buf).2) := by
  induction fuel generalizing v buf with
  | zero => rfl
  | succ fuel ih =>
      rw [termReadHistory, vfsReadLoop]
      split
      · have hread := vfsRead_contents h.valid h.file (termHistoryBuf - 1 - buf.length)
        obtain ⟨pos, hpos⟩ := vfsRead_state v fd (termHistoryBuf - 1 - buf.length)
        rw [Prod.mk.eta.symm.trans (congrArg₂ Prod.mk hread hpos)]
        dsimp only
        split
        · refine ih ⟨?_, ?_, ?_, ?_⟩ _
          · exact (openFiles_setPos v fd fd _).1.trans h.valid
          · rw [(openFiles_setPos v fd fd _).2]
            exact h.live
          · rw [(openFiles_setPos v fd fd _).2]
            exact h.named
          · rw [(openFiles_setPos v fd fd _).2]
            exact h.file
        · rfl
      · rfl

theorem termParseHistory_eq {fuel : Nat} (hfuel : buf.length ≤ fuel) (rows : List CStr) :
    termParseHistory fuel buf rows = (lines (· = newline) buf).foldl termHistoryLine rows := by
  induction fuel generalizing buf rows with
  | zero =>
      obtain rfl := List.length_eq_zero_iff.mp (Nat.le_zero.mp hfuel)
      rfl
  | succ fuel ih =>
      rw [termParseHistory]
      by_cases hne : buf = []
      · simp [hne]
      · rw [if_pos (List.length_pos_iff.mpr hne), lines_step hne, List.foldl_cons]
        have hlen := List.length_pos_iff.mpr hne
        have hline : (buf.takeWhile fun c => decide (c ≠ newline)) =
            buf.takeWhile fun c => !decide (c = newline) := by simp
        dsimp only
        rw [hline]
        exact ih (by rw [List.length_drop]; omega) _

theorem termHistoryLine_row {row : CStr} (h : HistoryRow row) (hroom : rows.length < termHistoryMax) :
    termHistoryLine rows (strBytes row) = rows ++ [row] := by
  have htext : (strBytes row).rdropWhile (· = 0x0d) = strBytes row := by
    rw [List.rdropWhile_eq_self_iff]
    intro hne hlast
    refine h.plain ?_
    rw [List.getLast?_eq_getLast_of_ne_nil hne, of_decide_eq_true hlast]
  have hlen : (strBytes row).length = row.length := by simp [strBytes]
  have hpos := List.length_pos_iff.mpr h.nonempty
  rw [termHistoryLine, htext, if_pos (by omega),
    List.take_of_length_le (by rw [hlen]; exact h.fits), bytesCstr_strBytes,
    termHistoryShift, if_neg (by omega)]

theorem foldl_termHistoryLine {more : List CStr} (hmore : ∀ row ∈ more, HistoryRow row)
    (hroom : rows.length + more.length ≤ termHistoryMax) :
    (more.map strBytes).foldl termHistoryLine rows = rows ++ more := by
  induction more generalizing rows with
  | nil => simp
  | cons row more ih =>
      obtain ⟨hrow, hmore⟩ := List.forall_mem_cons.mp hmore
      rw [List.length_cons] at hroom
      rw [List.map_cons, List.foldl_cons, termHistoryLine_row hrow (by omega),
        ih hmore (by rw [List.length_append, List.length_singleton]; omega), List.append_assoc, List.singleton_append]

/-- What rows take in the file. -/
def rowsSize (rows : List CStr) : Nat := (rows.map (·.length + 1)).sum

theorem rowsSize_shift (rows : List CStr) : rowsSize (termHistoryShift rows) ≤ rowsSize rows := by
  rw [termHistoryShift]
  split
  · have hsub : ((rows.drop 1).take (termHistoryMax - 1)).Sublist rows :=
      (List.take_sublist _ _).trans (List.drop_sublist _ _)
    have hcut : rowsSize (((rows.drop 1).take (termHistoryMax - 1)).map historyRow) ≤
        rowsSize ((rows.drop 1).take (termHistoryMax - 1)) := by
      rw [rowsSize, rowsSize, List.map_map]
      refine List.sum_le_sum fun row _ => ?_
      simp [historyRow]
    exact hcut.trans ((hsub.map _).sum_le_sum fun _ _ => Nat.zero_le _)
  · exact le_rfl

theorem rowsSize_termHistoryLine (rows : List CStr) (line : List UInt8) :
    rowsSize (termHistoryLine rows line) ≤ rowsSize rows + (line.length + 1) := by
  rw [termHistoryLine]
  split
  · have hshift := rowsSize_shift rows
    have htext := (List.rdropWhile_prefix (fun c => decide (c = 0x0d)) (l := line)).length_le
    have hrow : (bytesCstr ((line.rdropWhile fun c => decide (c = 0x0d)).take 255)).length ≤ line.length := by
      rw [← List.length_map (f := Subtype.val), ← strBytes, strBytes_bytesCstr]
      refine ((List.takeWhile_prefix _).length_le).trans ?_
      rw [List.length_take]
      omega
    rw [rowsSize, List.map_append, List.sum_append, ← rowsSize]
    simpa using by omega
  · omega

theorem rowsSize_foldl (ls : List (List UInt8)) (rows : List CStr) :
    rowsSize (ls.foldl termHistoryLine rows) ≤ rowsSize rows + (ls.map (·.length + 1)).sum := by
  induction ls generalizing rows with
  | nil => simp
  | cons line ls ih =>
      have hline := rowsSize_termHistoryLine rows line
      have hrest := ih (termHistoryLine rows line)
      rw [List.foldl_cons, List.map_cons, List.sum_cons]
      omega

theorem not_newline {row : CStr} (h : HistoryRow row) : ∀ c ∈ strBytes row, decide (c = newline) = false := by
  intro c hc
  simpa using ne_of_mem_of_not_mem hc h.line

/-- The lines of what is read are the rows, if no more than the last newline is left out. -/
theorem lines_historyBytes (hrows : ∀ row ∈ rows, HistoryRow row) (hsize : rowsSize rows ≤ termHistoryBuf) :
    lines (· = newline) ((historyBytes rows).take (termHistoryBuf - 1)) = rows.map strBytes := by
  have hlen := length_historyBytes rows
  rw [← rowsSize] at hlen
  have hsep : ∀ part : List CStr, (∀ row ∈ part, HistoryRow row) → ∀ line ∈ part.map strBytes, ∀ c ∈ line,
      decide (c = newline) = false := by
    intro part hpart line hline
    obtain ⟨row, hrow, rfl⟩ := List.mem_map.mp hline
    exact not_newline (hpart row hrow)
  by_cases hall : rowsSize rows ≤ termHistoryBuf - 1
  · have hlines := lines_flatMap (hsep rows hrows) (decide_eq_true rfl) ([] : List UInt8)
    rw [List.take_of_length_le (by omega), historyBytes]
    simpa using hlines
  · obtain rfl | ⟨first, last, rfl⟩ := rows.eq_nil_or_concat'
    · exact absurd (Nat.zero_le _) hall
    · obtain ⟨hfirst, hlast⟩ := List.forall_mem_append.mp hrows
      have hrow := hlast last List.mem_cons_self
      have hne : strBytes last ≠ [] := fun hnil => hrow.nonempty (List.map_eq_nil_iff.mp hnil)
      have hcut : (historyBytes (first ++ [last])).take (termHistoryBuf - 1) = historyBytes first ++ strBytes last := by
        have hsplit : historyBytes (first ++ [last]) = (historyBytes first ++ strBytes last) ++ [newline] := by
          simp [historyBytes]
        rw [hsplit, List.length_append, List.length_singleton] at hlen
        rw [hsplit, List.take_left']
        omega
      rw [hcut, historyBytes, lines_flatMap (hsep first hfirst) (decide_eq_true rfl),
        lines_of_line (not_newline hrow) hne]
      simp

end Loading

/-! ## The history -/

section Laws

variable {H : Type} [Allocator H] {v : Vfs H} {h : KeptHistory} {cmds : List Command}

theorem termLoadHistory_history {bytes : List UInt8} (hinit : v.vfsInitialized = true) (hfree : (findFreeFile v).isSome)
    (hfile : fileAt v termHistoryPath = some bytes) :
    (termLoadHistory v).1 =
      ⟨(lines (· = newline) (bytes.take (termHistoryBuf - 1))).foldl termHistoryLine [],
        ((lines (· = newline) (bytes.take (termHistoryBuf - 1))).foldl termHistoryLine []).length⟩ := by
  obtain ⟨fd, hopen⟩ := vfsOpen_there hinit hfile hfree
  obtain ⟨idx, hidx, htype, hcontents⟩ := exists_entry_of_fileAt hfile
  rw [termLoadHistory, hopen, hidx]
  dsimp only [Option.getD_some]
  have hon : HandleOn { v with openFiles := Function.update v.openFiles fd ⟨true, idx, 0, 0⟩ } fd termHistoryPath :=
    ⟨by simp, by simpa using (findInode_some hidx).1, by simpa using (findInode_some hidx).2, by simpa using htype⟩
  have hread := @vfsReadLoop_eq _ _ _ _ _ [] termHistoryBuf _ hon (by simpa using hcontents)
    (show 2 ≤ termHistoryBuf by decide)
  rw [termReadHistory_eq hon]
  dsimp only
  rw [hread]
  simp [termParseHistory_eq]

theorem KeptHistory.savedSize_le (h : KeptHistory) : h.savedSize ≤ 8192 := by
  have hsum := List.sum_le_card_nsmul (h.rows.map (·.length + 1)) 256 fun n hn => by
    obtain ⟨row, hrow, rfl⟩ := List.mem_map.mp hn
    exact Nat.succ_le_succ (h.each row hrow).fits
  have hfew := h.few
  rw [List.length_map] at hsum
  change (h.rows.map (·.length + 1)).sum ≤ h.rows.length * 256 at hsum
  rw [KeptHistory.savedSize]
  simp only [termHistoryMax] at hfew
  omega

/-- A history that was saved is restored just if it takes no more than the array of the loader;
of the commands the last ones are recorded at any rate. -/
theorem historyLaws_iff (hsaved : (termSaveHistory v h.rows).1 = true) :
    HistoryLaws v h cmds ↔ h.savedSize ≤ termHistoryBuf := by
  have hsize := length_historyBytes h.rows
  rw [← KeptHistory.savedSize] at hsize
  have hlimit := h.savedSize_le
  obtain ⟨hinit, hfree, hfile⟩ := termSaveHistory_done (by omega) hsaved
  have hload := termLoadHistory_history hinit hfree hfile
  constructor
  · intro hlaws
    have hrows := (hload.symm.trans (hlaws.restored hsaved))
    rw [TermHistory.mk.injEq] at hrows
    -- what is loaded takes no more than what is read
    have hread := rowsSize_foldl (lines (· = newline) ((historyBytes h.rows).take (termHistoryBuf - 1))) []
    have hlines := @length_lines_le _ (fun c => decide (c = newline)) ((historyBytes h.rows).take (termHistoryBuf - 1))
    have hcut : ((historyBytes h.rows).take (termHistoryBuf - 1)).length ≤ termHistoryBuf - 1 := by
      rw [List.length_take]
      exact Nat.min_le_left _ _
    rw [hrows.1] at hread
    have hnil : rowsSize [] = 0 := rfl
    have hbuf : 0 < termHistoryBuf := by decide
    rw [KeptHistory.savedSize, ← rowsSize]
    omega
  · intro hfits
    refine ⟨fun _ => ?_, @termAddHistory_run _ _ _ [] cmds rfl⟩
    have hrows : (h.rows.map strBytes).foldl termHistoryLine [] = h.rows :=
      foldl_termHistoryLine h.each (by simpa using h.few)
    rw [hload, lines_historyBytes h.each hfits, hrows]

/-- Rows of one text. -/
def sampleHistory (n : Nat) (row : CStr) (hn : n ≤ termHistoryMax) (hrow : HistoryRow row) : KeptHistory where
  rows := List.replicate n row
  few := by simpa using hn
  each := fun _ h => List.eq_of_mem_replicate h ▸ hrow

theorem historyRow_ls : HistoryRow (cstr "ls") := ⟨by decide, by decide, by decide, by decide⟩

theorem historyRow_replicate {n : Nat} (hpos : 0 < n) (hn : n ≤ 255) : HistoryRow (List.replicate n (cchar 'a')) := by
  have hbytes : strBytes (List.replicate n (cchar 'a')) = List.replicate n 0x61 := List.map_replicate
  refine ⟨?_, by rwa [List.length_replicate], ?_, ?_⟩
  · rw [Ne, List.replicate_eq_nil_iff]
    omega
  · rw [hbytes, List.mem_replicate]
    exact fun h => absurd h.2 (by decide)
  · rw [hbytes, List.getLast?_replicate, if_neg (by omega)]
    decide

theorem savedSize_sampleHistory {n : Nat} {row : CStr} (hn : n ≤ termHistoryMax) (hrow : HistoryRow row) :
    (sampleHistory n row hn hrow).savedSize = n * (row.length + 1) := by
  simp [KeptHistory.savedSize, sampleHistory]

/-- For a history of one row, and the commands "ls" and "ls". -/
theorem historyLaws_ls : HistoryLaws (vfsInit (bootVfs KernelHeap.boot noDisk bootPersist))
    (sampleHistory 1 (cstr "ls") (by decide) historyRow_ls) [⟨cstr "ls", by decide⟩, ⟨cstr "ls", by decide⟩] :=
  (historyLaws_iff (by decide +kernel)).mpr (by decide)

/-- Seventeen rows of 255 bytes are not restored. -/
theorem not_historyLaws :
    ¬ ∀ (v : Vfs KernelHeap) (h : KeptHistory) (cmds : List Command), HistoryLaws v h cmds := by
  intro h
  have hlaws := h (vfsInit (bootVfs KernelHeap.boot noDisk bootPersist))
    (sampleHistory 17 (List.replicate 255 (cchar 'a')) (by decide) (historyRow_replicate (by decide) le_rfl)) []
  have hsize := (historyLaws_iff (by decide +kernel)).mp hlaws
  rw [savedSize_sampleHistory, List.length_replicate] at hsize
  exact absurd hsize (by decide)

end Laws

end Orizon
