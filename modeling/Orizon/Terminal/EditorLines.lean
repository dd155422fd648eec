import Orizon.Lib.Checked
import Orizon.Lib.Lines
import Orizon.Lib.Run
import Orizon.Terminal.Filters

/-!
# Orizon.Terminal.EditorLines

The line editor as operations on a list of lines.

The buffer is taken as it lies in the terminal, `edit_buf` with its `edit_len`, and every
access to it is checked.  A line that is typed does to the lines of the buffer what it says,
but for two cases: behind a last line without a newline a new line is not a new one, and a
line number is read as an `int` (`termEditorRun_refines`).
-/

namespace Orizon

/-- `edit_buf` and `edit_len`. -/
structure TermEditBuf where
  buf : List UInt8
  len : Nat

/-- The text that is edited. -/
def TermEditBuf.text (b : TermEditBuf) : List UInt8 := b.buf.take b.len

namespace Bytewise

/-! ## The code on the buffer -/

/-- `memmove` within a buffer. -/
def memmove (p : List UInt8) (dst src n : Nat) : Checked (List UInt8) := do
  let bytes ← sliceAt p src n
  writeAll p dst bytes

/-- `term_editor_insert_at`: whether it returns 0, and the buffer behind it. -/
def termEditorInsertAt (b : TermEditBuf) (offset : Nat) (text : CStr) : Checked (Bool × TermEditBuf) :=
  if offset > b.len ∨ b.len + text.length + 1 ≥ termEditMax then pure (false, b)
  else do
    let buf ← memmove b.buf (offset + text.length + 1) offset (b.len - offset + 1)
    let buf ← writeAll buf offset (strBytes text)
    let buf ← writeAll buf (offset + text.length) [newline]
    pure (true, ⟨buf, b.len + text.length + 1⟩)

/-- `term_editor_delete_line`. -/
def termEditorDeleteLine (b : TermEditBuf) (lineNo : Int) : Checked (Bool × TermEditBuf) :=
  match termEditorLineBounds b.text lineNo with
  | none => pure (false, b)
  | some (start, stop) => do
      let buf ← memmove b.buf start stop (b.len - stop + 1)
      pure (true, ⟨buf, b.len - (stop - start)⟩)

/-- `term_editor_replace_line`. -/
def termEditorReplaceLine (b : TermEditBuf) (lineNo : Int) (text : CStr) : Checked (Bool × TermEditBuf) :=
  match termEditorLineBounds b.text lineNo with
  | none => pure (false, b)
  | some (start, stop) =>
      if b.len - (stop - start) + text.length + 1 ≥ termEditMax then pure (false, b)
      else do
        let buf ← memmove b.buf start stop (b.len - stop + 1)
        termEditorInsertAt ⟨buf, b.len - (stop - start)⟩ start text

/-- `term_editor_submit`, as far as the buffer goes; `false` is a line that is refused. -/
def termEditorSubmit (b : TermEditBuf) (line : CStr) : Checked (Bool × TermEditBuf) :=
  if line ∈ [cstr ".help", cstr ".q", cstr ".show", cstr ".write", cstr ".save", cstr ".wq"] then pure (true, b)
  else if line = cstr ".clear" then do
    let buf ← writeAll b.buf 0 [0]
    pure (true, ⟨buf, 0⟩)
  else if cstr ".del " <+: line ∨ cstr ".delete " <+: line then
    match termEditorParseLineArg (if cstr ".delete " <+: line then line.drop 8 else line.drop 5) with
    | none => pure (false, b)
    | some (lineNo, _) => termEditorDeleteLine b lineNo
  else if cstr ".insert " <+: line then
    match termEditorParseLineArg (line.drop 8) with
    | none => pure (false, b)
    | some (lineNo, text) =>
        if text = [] then pure (false, b)
        else termEditorInsertAt b (termEditorInsertOffset b.text lineNo) text
  else if cstr ".replace " <+: line then
    match termEditorParseLineArg (line.drop 9) with
    | none => pure (false, b)
    | some (lineNo, text) => if text = [] then pure (false, b) else termEditorReplaceLine b lineNo text
  else if line.head? = some (cchar '.') then pure (false, b)
  else termEditorInsertAt b b.len line

end Bytewise

/-! ## The list of lines -/

/-- The lines of a text, without their newlines. -/
def editorLines (text : List UInt8) : List (List UInt8) := lines (· = newline) text

/-- What a line that is typed asks for. -/
inductive EditorOp
  | keep
  | clear
  | append (text : CStr)
  | insert (n : Nat) (text : CStr)
  | replace (n : Nat) (text : CStr)
  | delete (n : Nat)
  | unknown

/-- A line number, of any size. -/
def lineNumber (s : CStr) : Nat := (s.takeWhile isDigit).foldl (fun value c => value * 10 + (c.val.toNat - 0x30)) 0

/-- A line number and what follows it. -/
def lineArg (s : CStr) : Option (Nat × CStr) :=
  let s := termSkipSpaces s
  if lineNumber s = 0 then none else some (lineNumber s, termSkipSpaces (s.dropWhile isDigit))

/-- An operation with a line number and a text. -/
def lineOp (op : Nat → CStr → EditorOp) (s : CStr) : EditorOp :=
  match lineArg s with
  | none => .unknown
  | some (n, text) => if text = [] then .unknown else op n text

/-- What a line asks for. -/
def editorOp (line : CStr) : EditorOp :=
  if line ∈ [cstr ".help", cstr ".q", cstr ".show", cstr ".write", cstr ".save", cstr ".wq"] then .keep
  else if line = cstr ".clear" then .clear
  else if cstr ".del " <+: line ∨ cstr ".delete " <+: line then
    match lineArg (if cstr ".delete " <+: line then line.drop 8 else line.drop 5) with
    | none => .unknown
    | some (n, _) => .delete n
  else if cstr ".insert " <+: line then lineOp .insert (line.drop 8)
  else if cstr ".replace " <+: line then lineOp .replace (line.drop 9)
  else if line.head? = some (cchar '.') then .unknown
  else .append line

/-- What it does to the lines; `none` has to be refused. -/
def EditorOp.apply (ls : List (List UInt8)) : EditorOp → Option (List (List UInt8))
  | keep => some ls
  | clear => some []
  | append text => some (ls ++ [strBytes text])
  | insert n text => some (ls.take (n - 1) ++ strBytes text :: ls.drop (n - 1))
  | replace n text => if n ≤ ls.length then some (ls.set (n - 1) (strBytes text)) else none
  | delete n => if n ≤ ls.length then some (ls.eraseIdx (n - 1)) else none
  | unknown => none

/-- The bytes of the line that it brings. -/
def EditorOp.size : EditorOp → Nat
  | append text | insert _ text | replace _ text => text.length + 1
  | _ => 0

/-- The line number in it. -/
def EditorOp.number : EditorOp → Nat
  | insert n _ | replace n _ | delete n => n
  | _ => 0

/-- It brings a line behind the last one. -/
def EditorOp.AtEnd (ls : List (List UInt8)) : EditorOp → Prop
  | append _ => True
  | insert n _ => ls.length < n
  | _ => False

/-- A line that can be typed. -/
abbrev EditorLine := { line : CStr // newline ∉ strBytes line }

/-- The buffer: its size, and a text that a NUL ends. -/
structure TermEditBuf.Ok (b : TermEditBuf) : Prop where
  size : b.buf.length = termEditMax
  fits : b.len < termEditMax
  nul : b.buf[b.len]? = some 0

/-- A line does to the lines of the buffer what it asks for, or is refused and leaves the buffer
as it was; it is refused where it has to be, and else only for want of room. -/
structure EditorRefines (b : TermEditBuf) (line : EditorLine) (r : Bool × TermEditBuf) : Prop where
  ok : r.2.Ok
  done : r.1 = true → (editorOp line).apply (editorLines b.text) = some (editorLines r.2.text)
  same : r.1 = false → r.2 = b
  refused : r.1 = false → (editorOp line).apply (editorLines b.text) = none ∨ termEditMax ≤ b.len + (editorOp line).size

/-- The step neither overflows the `int` of its number, nor brings a line behind a last line
without a newline. -/
def EditorStepOk (b : TermEditBuf) (line : EditorLine) : Prop :=
  (editorOp line).number < 2 ^ 31 ∧
    ((editorOp line).AtEnd (editorLines b.text) → EndsLine b.text ∨ termEditMax ≤ b.len + (editorOp line).size)

/-- The buffer after a line; a fault leaves it as it was. -/
def TermEditBuf.next (b : TermEditBuf) (line : EditorLine) : TermEditBuf :=
  match Bytewise.termEditorSubmit b line with
  | .ok r => r.2
  | .error _ => b

/-! ## Where the lines lie -/

section Lines

variable {a b body line text : List UInt8} {k : Nat}

theorem endsLine_append (ha : EndsLine a) (hb : EndsLine b) : EndsLine (a ++ b) := by
  by_cases hnil : b = []
  · simpa [hnil] using ha
  · rw [EndsLine, List.getLast?_append_of_ne_nil a hnil]
    exact .inr (hb.resolve_left hnil)

theorem lines_append_of_endsLine (ha : EndsLine a) : editorLines (a ++ b) = editorLines a ++ editorLines b := by
  induction a with
  | nil => rfl
  | cons c a ih =>
      rw [editorLines, editorLines, List.cons_append, lines, lines]
      obtain ⟨rfl, rfl⟩ | ⟨hne, ha⟩ := endsLine_cons.mp ha
      · simp [editorLines]
      · have hlines := ih ha
        rw [editorLines, editorLines] at hlines
        have hcons : lines (fun c => decide (c = newline)) a ≠ [] := by
          rw [lines_step hne]
          exact List.cons_ne_nil _ _
        obtain ⟨first, rest, hcons⟩ := List.exists_cons_of_ne_nil hcons
        rw [hlines, hcons]
        by_cases hc : c = newline <;> simp [hc, editorLines]

theorem editorLines_line (hline : newline ∉ body) : editorLines (body ++ [newline]) = [body] := by
  have hsep : ∀ c ∈ body, decide (c = newline) = false := by
    intro c hc
    simpa using ne_of_mem_of_not_mem hc hline
  exact lines_line_sep hsep (by simp) []

theorem editorLines_between (ha : EndsLine a) (hline : newline ∉ body) :
    editorLines (a ++ body ++ newline :: b) = editorLines a ++ body :: editorLines b := by
  have hend : EndsLine (body ++ [newline]) := by simp [EndsLine]
  have hsplit : a ++ body ++ newline :: b = a ++ ((body ++ [newline]) ++ b) := by simp
  rw [hsplit, lines_append_of_endsLine ha, lines_append_of_endsLine hend, editorLines_line hline]
  rfl

theorem textLines_body (hline : newline ∉ body) (hne : body ≠ []) : textLines body = [body] := by
  induction body with
  | nil => contradiction
  | cons c body ih =>
      rw [List.mem_cons, not_or] at hline
      rw [textLines, if_neg (Ne.symm hline.1)]
      by_cases hnil : body = []
      · simp [hnil, textLines]
      · simp [ih hline.2 hnil]

theorem textLines_line (hline : newline ∉ body) : textLines (body ++ [newline]) = [body ++ [newline]] := by
  induction body with
  | nil => simp [textLines]
  | cons c body ih =>
      rw [List.mem_cons, not_or] at hline
      rw [List.cons_append, textLines, if_neg (Ne.symm hline.1), ih hline.2]

/-- The first line of a text: it goes to the newline, or to the end where there is none. -/
theorem textLines_cons (hne : text ≠ []) :
    ∃ line rest, text = line ++ rest ∧ textLines text = line :: textLines rest ∧ (EndsLine line ∨ rest = []) ∧
      line.length = if (lineBody text).length < text.length then (lineBody text).length + 1 else
        (lineBody text).length := by
  have hbody : newline ∉ lineBody text := fun h => by simpa using List.mem_takeWhile_imp h
  have hsplit : lineBody text ++ text.dropWhile (· ≠ newline) = text := List.takeWhile_append_dropWhile
  cases hrest : text.dropWhile (· ≠ newline) with
  | nil =>
      rw [hrest, List.append_nil] at hsplit
      rw [hsplit, if_neg (lt_irrefl _)]
      rw [hsplit] at hbody
      exact ⟨text, [], by simp, by simp [textLines_body hbody hne, textLines], .inr rfl, rfl⟩
  | cons c rest =>
      have hc : c = newline := by
        have hhead := List.head?_dropWhile_not (· ≠ newline) text
        rw [hrest] at hhead
        simpa using hhead
      subst hc
      rw [hrest] at hsplit
      have hend : EndsLine (lineBody text ++ [newline]) := by simp [EndsLine]
      have hlines := @textLines_append (lineBody text ++ [newline]) rest hend
      rw [List.append_assoc, List.singleton_append, hsplit, textLines_line hbody] at hlines
      have hlen := congrArg List.length hsplit
      rw [List.length_append, List.length_cons] at hlen
      rw [if_pos (by omega)]
      exact ⟨lineBody text ++ [newline], rest, by simp [hsplit], hlines, .inl hend, by simp⟩

theorem editorLines_eq (text : List UInt8) : editorLines text = (textLines text).map lineBody := by
  induction text with
  | nil => rfl
  | cons c text ih =>
      rw [editorLines] at ih
      rw [editorLines, lines, ih, textLines]
      by_cases hc : c = newline
      · simp [hc, lineBody]
      · cases textLines text <;> simp [hc, lineBody]

/-- Where line `k` starts, counted from 0. -/
def lineStart (text : List UInt8) (k : Nat) : Nat := ((textLines text).take k).flatten.length

theorem take_lineStart (text : List UInt8) (k : Nat) :
    text.take (lineStart text k) = ((textLines text).take k).flatten := by
  have hsplit := @List.flatten_append _ ((textLines text).take k) ((textLines text).drop k)
  rw [List.take_append_drop, textLines_flatten] at hsplit
  conv_lhs => arg 2; rw [hsplit]
  exact List.take_left

theorem drop_lineStart (text : List UInt8) (k : Nat) :
    text.drop (lineStart text k) = ((textLines text).drop k).flatten := by
  have hsplit := @List.flatten_append _ ((textLines text).take k) ((textLines text).drop k)
  rw [List.take_append_drop, textLines_flatten] at hsplit
  conv_lhs => arg 2; rw [hsplit]
  exact List.drop_left

theorem lineStart_le (text : List UInt8) (k : Nat) : lineStart text k ≤ text.length := by
  have hlen := congrArg List.length (take_lineStart text k)
  rw [← lineStart, List.length_take] at hlen
  omega

theorem lineStart_of_le (hk : (textLines text).length ≤ k) : lineStart text k = text.length := by
  rw [lineStart, List.take_of_length_le hk, textLines_flatten]

theorem lineStart_mono (text : List UInt8) {i j : Nat} (h : i ≤ j) : lineStart text i ≤ lineStart text j := by
  obtain ⟨d, rfl⟩ := Nat.exists_eq_add_of_le h
  simp [lineStart, List.take_add]

theorem endsLine_lineStart (hk : k < (textLines text).length) : EndsLine (text.take (lineStart text k)) := by
  rw [take_lineStart]
  induction k generalizing text with
  | zero => simp [endsLine_nil]
  | succ k ih =>
      have hne : text ≠ [] := fun hnil => by simp [hnil, textLines] at hk
      obtain ⟨line, rest, -, hlines, hend, -⟩ := textLines_cons hne
      rw [hlines, List.length_cons] at hk
      have hline : EndsLine line := hend.resolve_right fun hnil => by simp [hnil, textLines] at hk
      rw [hlines, List.take_succ_cons, List.flatten_cons]
      exact endsLine_append hline (ih (by omega))

theorem textLines_drop (text : List UInt8) (k : Nat) :
    textLines (text.drop (lineStart text k)) = (textLines text).drop k := by
  rw [drop_lineStart]
  induction k generalizing text with
  | zero => simp [textLines_flatten]
  | succ k ih =>
      by_cases hne : text = []
      · simp [hne, textLines]
      · obtain ⟨line, rest, -, hlines, -⟩ := textLines_cons hne
        rw [hlines, List.drop_succ_cons, ih]

theorem textLines_take (text : List UInt8) (k : Nat) :
    textLines (text.take (lineStart text k)) = (textLines text).take k := by
  by_cases hk : k < (textLines text).length
  · have hsplit := @textLines_append _ (text.drop (lineStart text k)) (endsLine_lineStart hk)
    rw [List.take_append_drop, textLines_drop] at hsplit
    refine @List.append_cancel_right _ _ ((textLines text).drop k) _ ?_
    rw [← hsplit, List.take_append_drop]
  · rw [take_lineStart, List.take_of_length_le (by omega), textLines_flatten]

theorem editorLines_take (text : List UInt8) (k : Nat) :
    editorLines (text.take (lineStart text k)) = (editorLines text).take k := by
  rw [editorLines_eq, editorLines_eq, textLines_take, List.map_take]

theorem editorLines_drop (text : List UInt8) (k : Nat) :
    editorLines (text.drop (lineStart text k)) = (editorLines text).drop k := by
  rw [editorLines_eq, editorLines_eq, textLines_drop, List.map_drop]

theorem length_editorLines (text : List UInt8) : (editorLines text).length = (textLines text).length := by
  rw [editorLines_eq, List.length_map]

/-! ## The scan for a line -/

/-- The scan from the start of line `k`, which it counts as `k + 1`, for line `n`. -/
theorem termEditorLineBoundsLoop_eq {n fuel : Nat} (hkn : k < n) (hfuel : (textLines text).length < fuel + k) :
    termEditorLineBoundsLoop text n fuel (lineStart text k) (k + 1) =
      if n ≤ (textLines text).length then some (lineStart text (n - 1), lineStart text n) else none := by
  induction fuel generalizing k with
  | zero =>
      rw [if_neg (by omega)]
      rfl
  | succ fuel ih =>
      rw [termEditorLineBoundsLoop]
      by_cases hk : k < (textLines text).length
      · have hdrop := textLines_drop text k
        have hne : text.drop (lineStart text k) ≠ [] := by
          intro hnil
          have hlen := congrArg List.length hdrop
          simp [hnil, textLines] at hlen
          omega
        obtain ⟨line, rest, -, hlines, -, hline⟩ := textLines_cons hne
        have hpos : lineStart text k < text.length := by
          simpa [List.drop_eq_nil_iff] using hne
        have hnext : lineStart text (k + 1) = lineStart text k + line.length := by
          have hget : (textLines text)[k] = line := by
            rw [List.drop_eq_getElem_cons hk, hlines] at hdrop
            exact (List.cons.inj hdrop).1.symm
          simp [lineStart, List.take_add_one, List.getElem?_eq_getElem hk, hget]
        -- the scan of the source stops where the next line starts
        have hstop : (if lineStart text k + (lineBody (text.drop (lineStart text k))).length < text.length
            then lineStart text k + (lineBody (text.drop (lineStart text k))).length + 1
            else lineStart text k + (lineBody (text.drop (lineStart text k))).length) = lineStart text (k + 1) := by
          rw [hnext, hline, List.length_drop]
          split <;> split <;> omega
        rw [if_pos hpos]
        dsimp only
        rw [← lineBody, hstop]
        by_cases hn : n = k + 1
        · subst hn
          rw [if_pos (by push_cast; rfl), if_pos (by omega), Nat.add_sub_cancel]
        · rw [if_neg (by omega)]
          have hmore := ih (k := k + 1) (by omega) (by omega)
          exact_mod_cast hmore
      · have hend := lineStart_of_le (Nat.le_of_not_lt hk)
        rw [if_neg (by omega), if_neg (by omega)]

theorem length_textLines_le (text : List UInt8) : (textLines text).length ≤ text.length := by
  induction text with
  | nil => simp [textLines]
  | cons c text ih =>
      rw [textLines]
      split
      · simpa using ih
      · split
        · simp
        · next hlines =>
            rw [hlines, List.length_cons] at ih
            simp only [List.length_cons]
            omega

/-- The bounds of a line are where it starts and where the next one does. -/
theorem termEditorLineBounds_eq (text : List UInt8) {n : Nat} (hn : 0 < n) :
    termEditorLineBounds text n =
      if n ≤ (editorLines text).length then some (lineStart text (n - 1), lineStart text n) else none := by
  have hlen := length_textLines_le text
  have hloop := @termEditorLineBoundsLoop_eq text 0 n (text.length + 1) hn (by omega)
  rw [termEditorLineBounds, if_neg (by omega), length_editorLines]
  simpa [lineStart] using hloop

/-- A line is inserted where it is to be, or at the end where there are not so many. -/
theorem termEditorInsertOffset_eq (text : List UInt8) {n : Nat} (hn : 0 < n) :
    termEditorInsertOffset text n = lineStart text (n - 1) := by
  rw [termEditorInsertOffset]
  by_cases hone : n = 1
  · simp [hone, lineStart]
  · rw [if_neg (by omega), termEditorLineBounds_eq text hn]
    split
    · rfl
    · have hend : lineStart text (n - 1) = text.length := by
        rw [length_editorLines] at *
        exact lineStart_of_le (by omega)
      simp [hend]

end Lines

/-! ## The edits of a text -/

section Edits

variable {text buf : List UInt8} {n : Nat} {s : CStr}

theorem termEditorInsertAt_eq_none_iff {offset : Nat} (h : offset ≤ text.length) :
    termEditorInsertAt text offset s = none ↔ termEditMax ≤ text.length + (s.length + 1) := by
  rw [termEditorInsertAt]
  split <;> simp <;> omega

/-- What an edit asks for is what it gives, where it is not refused. -/
theorem termEditorInsertAt_lines (hs : newline ∉ strBytes s) (hn : 0 < n)
    (hend : (editorLines text).length < n → EndsLine text)
    (h : termEditorInsertAt text (lineStart text (n - 1)) s = some buf) :
    editorLines buf = (editorLines text).take (n - 1) ++ strBytes s :: (editorLines text).drop (n - 1) := by
  rw [termEditorInsertAt] at h
  split at h
  · cases h
  · obtain rfl := Option.some.inj h
    have hcut : EndsLine (text.take (lineStart text (n - 1))) := by
      rw [length_editorLines] at hend
      by_cases hin : n - 1 < (textLines text).length
      · exact endsLine_lineStart hin
      · rw [lineStart_of_le (by omega), List.take_length]
        exact hend (by omega)
    rw [← strBytes, editorLines_between hcut hs, editorLines_take, editorLines_drop]

theorem termEditorDeleteLine_lines (hn : 0 < n) :
    (termEditorDeleteLine text n).map editorLines =
      if n ≤ (editorLines text).length then some ((editorLines text).eraseIdx (n - 1)) else none := by
  rw [termEditorDeleteLine, termEditorLineBounds_eq text hn]
  split
  · next hin =>
      rw [length_editorLines] at hin
      simp only [Option.map_some]
      rw [lines_append_of_endsLine (endsLine_lineStart (by omega)), editorLines_take, editorLines_drop,
        List.eraseIdx_eq_take_drop_succ, Nat.sub_add_cancel hn]
  · rfl

theorem termEditorReplaceLine_lines (hs : newline ∉ strBytes s) (hn : 0 < n)
    (h : termEditorReplaceLine text n s = some buf) :
    n ≤ (editorLines text).length ∧ editorLines buf = (editorLines text).set (n - 1) (strBytes s) := by
  rw [termEditorReplaceLine, termEditorLineBounds_eq text hn] at h
  by_cases hin : n ≤ (editorLines text).length
  · rw [if_pos hin] at h
    dsimp only at h
    split at h
    · cases h
    · refine ⟨hin, ?_⟩
      rw [termEditorInsertAt] at h
      split at h
      · cases h
      · obtain rfl := Option.some.inj h
        have hstart := lineStart_le text (n - 1)
        have hlen : (text.take (lineStart text (n - 1))).length = lineStart text (n - 1) := by simp [hstart]
        rw [List.take_left' hlen, List.drop_left' hlen, ← strBytes,
          editorLines_between (endsLine_lineStart (by rw [← length_editorLines]; omega)) hs, editorLines_take,
          editorLines_drop,
          List.set_eq_take_append_cons_drop, if_pos (by omega), Nat.sub_add_cancel hn]
  · rw [if_neg hin] at h
    cases h

end Edits

/-! ## The buffer -/

section Buffer

variable {b : TermEditBuf} {text rest : List UInt8} {start stop offset : Nat} {s : CStr}

theorem TermEditBuf.text_of_append (text rest : List UInt8) :
    TermEditBuf.text ⟨text ++ 0 :: rest, text.length⟩ = text := by
  simp [TermEditBuf.text]

theorem TermEditBuf.ok_of_append (h : (text ++ 0 :: rest).length = termEditMax) :
    TermEditBuf.Ok ⟨text ++ 0 :: rest, text.length⟩ := by
  refine ⟨h, ?_, by simp⟩
  rw [List.length_append, List.length_cons] at h
  change text.length < termEditMax
  omega

theorem TermEditBuf.Ok.split (h : b.Ok) :
    b.text.length = b.len ∧ ∃ rest, b = ⟨b.text ++ 0 :: rest, b.text.length⟩ := by
  have hlen : b.text.length = b.len := by
    rw [TermEditBuf.text, List.length_take, h.size]
    exact Nat.min_eq_left h.fits.le
  have hlt : b.len < b.buf.length := h.size ▸ h.fits
  have hnul : b.buf[b.len] = 0 := by
    have hget := h.nul
    rw [List.getElem?_eq_getElem hlt] at hget
    exact Option.some.inj hget
  refine ⟨hlen, b.buf.drop (b.len + 1), ?_⟩
  rw [hlen]
  have hbuf : b.text ++ 0 :: b.buf.drop (b.len + 1) = b.buf := by
    rw [← hnul, ← List.drop_eq_getElem_cons hlt, TermEditBuf.text, List.take_append_drop]
  rw [hbuf]

theorem safe_memmove_cut (h : b.Ok) (hle : start ≤ stop) (hstop : stop ≤ b.len) :
    Safe (fun buf => TermEditBuf.Ok ⟨buf, b.len - (stop - start)⟩ ∧
      TermEditBuf.text ⟨buf, b.len - (stop - start)⟩ = b.text.take start ++ b.text.drop stop)
      (Bytewise.memmove b.buf start stop (b.len - stop + 1)) := by
  obtain ⟨hlen, rest, hb⟩ := h.split
  have hsize := h.size
  generalize b.text = text at *
  subst hb
  dsimp only at *
  have hmoved : ((text ++ 0 :: rest).drop stop).take (text.length - stop + 1) = text.drop stop ++ [0] := by
    rw [List.drop_append_of_le_length hstop]
    simp [List.take_append]
  have hsplit : text ++ 0 :: rest = text.take start ++ (text.drop start ++ 0 :: rest) := by
    rw [← List.append_assoc, List.take_append_drop]
  rw [Bytewise.memmove, sliceAt_eq (by simp; omega), checked_bind, hmoved]
  conv in writeAll _ _ _ => rw [hsplit]
  rw [writeAll_append (by simp; omega) (by simp; omega)]
  generalize hrest : List.drop _ (text.drop start ++ 0 :: rest) = rest'
  have hnew : text.take start ++ (text.drop stop ++ [0]) ++ rest' = (text.take start ++ text.drop stop) ++
      0 :: rest' := by simp
  have hcount : text.length - (stop - start) = (text.take start ++ text.drop stop).length := by simp; omega
  rw [hnew, hcount]
  refine safe_ok ⟨TermEditBuf.ok_of_append ?_, TermEditBuf.text_of_append _ _⟩
  rw [← hrest]
  simp at hsize ⊢
  omega

/-- What an edit has to do to the buffer: it gives the new text, or is refused. -/
def EditStep (b : TermEditBuf) (edit : Option (List UInt8)) (r : Bool × TermEditBuf) : Prop :=
  match edit with
  | none => r = (false, b)
  | some text => r.1 = true ∧ r.2.Ok ∧ r.2.text = text

theorem termEditorInsertAt_step (h : b.Ok) (offset : Nat) (s : CStr) :
    Safe (EditStep b (termEditorInsertAt b.text offset s)) (Bytewise.termEditorInsertAt b offset s) := by
  obtain ⟨hlen, rest, hb⟩ := h.split
  have hsize := h.size
  rw [Bytewise.termEditorInsertAt, termEditorInsertAt, hlen]
  split
  · exact safe_pure rfl
  · next hroom =>
      rw [not_or, not_lt, ge_iff_le, not_le] at hroom
      obtain ⟨hoffset, hroom⟩ := hroom
      generalize b.text = text at *
      subst hb
      dsimp only at *
      have hmoved : ((text ++ 0 :: rest).drop offset).take (text.length - offset + 1) = text.drop offset ++ [0] := by
        rw [List.drop_append_of_le_length hoffset]
        simp [List.take_append]
      have hrest : s.length + 1 ≤ rest.length := by
        rw [List.length_append, List.length_cons] at hsize
        omega
      -- the gap for the line, and the byte for its newline
      obtain ⟨gap, tail, hgap, hsplit⟩ : ∃ gap tail, gap.length = s.length + 1 ∧
          text ++ 0 :: rest = text.take offset ++ gap ++ tail := by
        refine ⟨(text.drop offset ++ 0 :: rest).take (s.length + 1),
          (text.drop offset ++ 0 :: rest).drop (s.length + 1), ?_, ?_⟩
        · simp
          omega
        · rw [List.append_assoc, List.take_append_drop, ← List.append_assoc, List.take_append_drop]
      obtain ⟨line, c, rfl⟩ := (List.eq_nil_or_concat' gap).resolve_left (List.ne_nil_of_length_eq_add_one hgap)
      have hline : (strBytes s).length = line.length := by
        rw [strBytes, List.length_map]
        simpa using hgap.symm
      have htake : (text.take offset).length = offset := by simp [hoffset]
      have htail := congrArg List.length hsplit
      simp only [List.length_append, List.length_cons, List.length_nil] at htail hgap hsize
      rw [Bytewise.memmove, sliceAt_eq (by simp; omega), checked_bind, hmoved]
      conv in writeAll _ (offset + s.length + 1) _ => rw [hsplit]
      rw [writeAll_append (by simp; omega) (by simp; omega), checked_bind]
      generalize hleft : List.drop _ tail = left
      have hshift : text.take offset ++ (line ++ [c]) ++ (text.drop offset ++ [0]) ++ left =
          text.take offset ++ line ++ ([c] ++ (text.drop offset ++ 0 :: left)) := by simp
      have hend : offset + s.length = (text.take offset ++ strBytes s).length := by simp [htake, strBytes]
      rw [hshift, writeAll_middle htake.symm hline, checked_bind, ← List.append_assoc,
        writeAll_middle hend (show [newline].length = [c].length from rfl), checked_bind]
      have hnew : text.take offset ++ strBytes s ++ [newline] ++ (text.drop offset ++ 0 :: left) =
          (text.take offset ++ strBytes s ++ newline :: text.drop offset) ++ 0 :: left := by simp
      have hcount :
          text.length + s.length + 1 = (text.take offset ++ strBytes s ++ newline :: text.drop offset).length := by
        rw [← hline] at hgap
        simp
        omega
      rw [hnew, hcount]
      refine safe_pure ⟨rfl, TermEditBuf.ok_of_append ?_, TermEditBuf.text_of_append _ _⟩
      rw [List.length_append, ← hcount, ← hleft]
      simp
      omega

theorem termEditorLineBounds_le {n : Nat} (hn : 0 < n) (h : termEditorLineBounds text n = some (start, stop)) :
    start ≤ stop ∧ stop ≤ text.length := by
  rw [termEditorLineBounds_eq text hn] at h
  split at h
  · cases h
    exact ⟨lineStart_mono text (by omega), lineStart_le text n⟩
  · cases h

theorem termEditorDeleteLine_step (h : b.Ok) {n : Nat} (hn : 0 < n) :
    Safe (EditStep b (termEditorDeleteLine b.text n)) (Bytewise.termEditorDeleteLine b n) := by
  rw [Bytewise.termEditorDeleteLine, termEditorDeleteLine]
  cases hbounds : termEditorLineBounds b.text n with
  | none => exact safe_pure rfl
  | some bounds =>
      obtain ⟨start, stop⟩ := bounds
      obtain ⟨hle, hstop⟩ := termEditorLineBounds_le hn hbounds
      rw [h.split.1] at hstop
      refine (safe_memmove_cut h hle hstop).bind fun buf hbuf => ?_
      exact safe_pure ⟨rfl, hbuf.1, hbuf.2⟩

theorem termEditorReplaceLine_step (h : b.Ok) {n : Nat} (hn : 0 < n) (s : CStr) :
    Safe (EditStep b (termEditorReplaceLine b.text n s)) (Bytewise.termEditorReplaceLine b n s) := by
  rw [Bytewise.termEditorReplaceLine, termEditorReplaceLine]
  cases hbounds : termEditorLineBounds b.text n with
  | none => exact safe_pure rfl
  | some bounds =>
      obtain ⟨start, stop⟩ := bounds
      obtain ⟨hle, hstop⟩ := termEditorLineBounds_le hn hbounds
      rw [h.split.1] at hstop
      dsimp only
      rw [h.split.1]
      split
      · exact safe_pure rfl
      · next hroom =>
          refine (safe_memmove_cut h hle hstop).bind fun buf hbuf => ?_
          obtain ⟨hok, htext⟩ := hbuf
          have hstep := termEditorInsertAt_step hok start s
          have hlen : (b.text.take start ++ b.text.drop stop).length = b.len - (stop - start) := by
            rw [List.length_append, List.length_take, List.length_drop, h.split.1]
            omega
          rw [htext, termEditorInsertAt, if_neg (by rw [hlen]; omega)] at hstep
          rw [termEditorInsertAt, if_neg (by rw [hlen]; omega)]
          exact hstep

end Buffer

/-! ## A line -/

/-- What an operation does to the text. -/
def EditorOp.edit (text : List UInt8) : EditorOp → Option (List UInt8)
  | keep => some text
  | clear => some []
  | append s => termEditorInsertAt text text.length s
  | insert n s => termEditorInsertAt text (termEditorInsertOffset text n) s
  | replace n s => termEditorReplaceLine text n s
  | delete n => termEditorDeleteLine text n
  | unknown => none

/-- The number in an operation is not 0, and its text is a line. -/
def EditorOp.Typed : EditorOp → Prop
  | append s => newline ∉ strBytes s
  | insert n s | replace n s => 0 < n ∧ newline ∉ strBytes s
  | delete n => 0 < n
  | keep | clear | unknown => True

section Step

variable {b : TermEditBuf} {text buf : List UInt8} {op : EditorOp} {n : Nat} {s rest : CStr}

theorem le_foldl_digits (ds : CStr) (v : Nat) : v ≤ ds.foldl (fun value c => value * 10 + (c.val.toNat - 0x30)) v := by
  induction ds generalizing v with
  | nil => exact le_rfl
  | cons c ds ih =>
      have hstep : v ≤ v * 10 + (c.val.toNat - 0x30) := by omega
      exact hstep.trans (ih _)

theorem foldl_digits_eq {ds : CStr} (hds : ∀ c ∈ ds, isDigit c = true) {v : Nat}
    (h : ds.foldl (fun value c => value * 10 + (c.val.toNat - 0x30)) v < 2 ^ 31) :
    ds.foldl (fun value c => int32 (value * 10 + (c.val.toNat - 0x30))) (v : Int) =
      (ds.foldl (fun value c => value * 10 + (c.val.toNat - 0x30)) v : Nat) := by
  induction ds generalizing v with
  | nil => rfl
  | cons c ds ih =>
      obtain ⟨hc, hds⟩ := List.forall_mem_cons.mp hds
      rw [List.foldl_cons] at h
      have hle := le_foldl_digits ds (v * 10 + (c.val.toNat - 0x30))
      have hdigit : 0x30 ≤ c.val.toNat := by
        simp only [isDigit, Bool.and_eq_true, decide_eq_true_eq, UInt8.le_iff_toNat_le] at hc
        exact hc.1
      have hstep : int32 ((v : Int) * 10 + ((c.val.toNat : Int) - 0x30)) = (v * 10 + (c.val.toNat - 0x30) : Nat) := by
        rw [int32_of_range (by omega) (by omega)]
        omega
      rw [List.foldl_cons, List.foldl_cons, hstep]
      exact ih hds h

/-- The value of the digits, as long as an `int` can have it. -/
theorem termDigits_eq (h : lineNumber s < 2 ^ 31) : termDigits s = lineNumber s :=
  foldl_digits_eq (fun _ hc => List.mem_takeWhile_imp hc) h

theorem termEditorParseLineArg_eq (h : ∀ arg, lineArg s = some arg → arg.1 < 2 ^ 31) :
    termEditorParseLineArg s = (lineArg s).map fun arg => ((arg.1 : Int), arg.2) := by
  rw [lineArg] at h ⊢
  rw [termEditorParseLineArg]
  by_cases hzero : lineNumber (termSkipSpaces s) = 0
  · rw [if_pos hzero, termDigits_eq (by omega), hzero]
    rfl
  · rw [if_neg hzero] at h ⊢
    have hlt := h _ rfl
    rw [termDigits_eq hlt, if_neg (by omega)]
    rfl

theorem termEditorParseLineArg_rest (s : CStr) : ∀ arg ∈ termEditorParseLineArg s,
    arg.2 = termSkipSpaces ((termSkipSpaces s).dropWhile isDigit) := by
  rw [termEditorParseLineArg]
  split <;> simp

theorem lineArg_pos {arg : Nat × CStr} (h : lineArg s = some arg) :
    0 < arg.1 ∧ arg.2 = termSkipSpaces ((termSkipSpaces s).dropWhile isDigit) := by
  rw [lineArg] at h
  split at h
  · cases h
  · next hzero =>
      obtain rfl := Option.some.inj h
      exact ⟨Nat.pos_of_ne_zero hzero, rfl⟩

/-- A line number and a text; without one of them the line is refused. -/
theorem lineOp_step {op : Nat → CStr → EditorOp} {run : Int → CStr → Checked (Bool × TermEditBuf)}
    (hop : ∀ n t, (op n t).number = n)
    (hrun : ∀ (n : Nat) t, 0 < n → Safe (EditStep b ((op n t).edit b.text)) (run n t))
    (h : (lineOp op s).number < 2 ^ 31) :
    Safe (EditStep b ((lineOp op s).edit b.text))
      (match termEditorParseLineArg s with
      | none => pure (false, b)
      | some (lineNo, text) => if text = [] then pure (false, b) else run lineNo text) := by
  rw [lineOp] at h ⊢
  cases harg : lineArg s with
  | none =>
      rw [termEditorParseLineArg_eq (by simp [harg]), harg]
      exact safe_pure rfl
  | some arg =>
      obtain ⟨n, text⟩ := arg
      obtain ⟨hpos, htext⟩ := lineArg_pos harg
      rw [harg] at h
      dsimp only at h ⊢
      by_cases hnil : text = []
      · rw [if_pos hnil]
        have hrest := termEditorParseLineArg_rest s
        cases hparse : termEditorParseLineArg s with
        | none => exact safe_pure rfl
        | some arg =>
            have hsame : arg.2 = [] := by rw [hrest arg hparse, ← htext, hnil]
            dsimp only
            rw [if_pos hsame]
            exact safe_pure rfl
      · rw [if_neg hnil, hop] at h
        rw [if_neg hnil, termEditorParseLineArg_eq (by simpa [harg] using h), harg]
        dsimp only [Option.map_some]
        rw [if_neg hnil]
        exact hrun n text hpos

theorem termEditorSubmit_step (h : b.Ok) (line : CStr) (hn : (editorOp line).number < 2 ^ 31) :
    Safe (EditStep b ((editorOp line).edit b.text)) (Bytewise.termEditorSubmit b line) := by
  rw [editorOp] at hn ⊢
  rw [Bytewise.termEditorSubmit]
  by_cases hkeep : line ∈ [cstr ".help", cstr ".q", cstr ".show", cstr ".write", cstr ".save", cstr ".wq"]
  · simp only [if_pos hkeep]
    exact safe_pure ⟨rfl, h, rfl⟩
  · simp only [if_neg hkeep] at hn ⊢
    by_cases hclear : line = cstr ".clear"
    · simp only [if_pos hclear]
      have hbuf : b.buf ≠ [] := by
        intro hnil
        have hsize := h.size
        simp [hnil, termEditMax] at hsize
      obtain ⟨c, rest, hcons⟩ := List.exists_cons_of_ne_nil hbuf
      have hsize := h.size
      rw [hcons] at hsize ⊢
      exact safe_ok ⟨rfl, @TermEditBuf.ok_of_append [] rest hsize, TermEditBuf.text_of_append [] rest⟩
    · simp only [if_neg hclear] at hn ⊢
      by_cases hdel : cstr ".del " <+: line ∨ cstr ".delete " <+: line
      · simp only [if_pos hdel] at hn ⊢
        generalize (if cstr ".delete " <+: line then line.drop 8 else line.drop 5) = s at hn ⊢
        cases harg : lineArg s with
        | none =>
            rw [termEditorParseLineArg_eq (by simp [harg]), harg]
            exact safe_pure rfl
        | some arg =>
            have hlt : arg.1 < 2 ^ 31 := by simpa only [harg, EditorOp.number] using hn
            rw [termEditorParseLineArg_eq (by simpa [harg] using hlt), harg]
            exact termEditorDeleteLine_step h (lineArg_pos harg).1
      · simp only [if_neg hdel] at hn ⊢
        by_cases hinsert : cstr ".insert " <+: line
        · simp only [if_pos hinsert] at hn ⊢
          exact lineOp_step (fun _ _ => rfl)
            (fun n t _ => termEditorInsertAt_step h (termEditorInsertOffset b.text n) t) hn
        · simp only [if_neg hinsert] at hn ⊢
          by_cases hreplace : cstr ".replace " <+: line
          · simp only [if_pos hreplace] at hn ⊢
            exact lineOp_step (fun _ _ => rfl) (fun n t hn => termEditorReplaceLine_step h hn t) hn
          · simp only [if_neg hreplace] at hn ⊢
            by_cases hdot : line.head? = some (cchar '.')
            · simp only [if_pos hdot]
              exact safe_pure rfl
            · simp only [if_neg hdot]
              have hstep := termEditorInsertAt_step h b.len line
              rw [← h.split.1] at hstep ⊢
              exact hstep

/-! ## What a line asks for -/

theorem lineOp_typed {op : Nat → CStr → EditorOp} {line : CStr}
    (hop : ∀ n t, 0 < n → newline ∉ strBytes t → (op n t).Typed) (hline : newline ∉ strBytes line) (hs : s <:+ line) :
    (lineOp op s).Typed := by
  rw [lineOp]
  cases harg : lineArg s with
  | none => trivial
  | some arg =>
      obtain ⟨hpos, htext⟩ := lineArg_pos harg
      have hsuffix : arg.2 <:+ line := by
        rw [htext, termSkipSpaces, termSkipSpaces]
        exact ((List.dropWhile_suffix _).trans ((List.dropWhile_suffix _).trans (List.dropWhile_suffix _))).trans hs
      have hmem : newline ∉ strBytes arg.2 := fun h => hline ((hsuffix.map Subtype.val).subset h)
      dsimp only
      split
      · trivial
      · exact hop _ _ hpos hmem

theorem editorOp_typed (line : EditorLine) : (editorOp line).Typed := by
  rw [editorOp]
  split
  · trivial
  · split
    · trivial
    · split
      · cases harg : lineArg (if cstr ".delete " <+: line.val then line.val.drop 8 else line.val.drop 5) with
        | none => trivial
        | some arg => exact (lineArg_pos harg).1
      · split
        · exact lineOp_typed (fun _ _ hn ht => ⟨hn, ht⟩) line.property (List.drop_suffix _ _)
        · split
          · exact lineOp_typed (fun _ _ hn ht => ⟨hn, ht⟩) line.property (List.drop_suffix _ _)
          · split
            · trivial
            · exact line.property

theorem EditorOp.edit_done (hop : op.Typed)
    (hend : op.AtEnd (editorLines text) → EndsLine text ∨ termEditMax ≤ text.length + op.size)
    (h : op.edit text = some buf) : op.apply (editorLines text) = some (editorLines buf) := by
  cases op with
  | keep => cases h; rfl
  | clear => cases h; rfl
  | append s =>
      rw [EditorOp.edit] at h
      have hroom := mt (termEditorInsertAt_eq_none_iff le_rfl).mpr (h ▸ Option.some_ne_none buf)
      have hcut : EndsLine text := (hend trivial).resolve_right hroom
      rw [← @lineStart_of_le text _ le_rfl, ← length_editorLines] at h
      have hlines := termEditorInsertAt_lines hop (Nat.succ_pos _) (fun _ => hcut) h
      rw [EditorOp.apply, hlines]
      simp
  | insert n s =>
      rw [EditorOp.edit, termEditorInsertOffset_eq text hop.1] at h
      have hroom := mt (termEditorInsertAt_eq_none_iff (lineStart_le text _)).mpr (h ▸ Option.some_ne_none buf)
      have hcut : (editorLines text).length < n → EndsLine text := fun hn => (hend hn).resolve_right hroom
      rw [EditorOp.apply, termEditorInsertAt_lines hop.2 hop.1 hcut h]
  | replace n s =>
      obtain ⟨hin, hlines⟩ := termEditorReplaceLine_lines hop.2 hop.1 h
      rw [EditorOp.apply, if_pos hin, hlines]
  | delete n =>
      have hlines := @termEditorDeleteLine_lines text n hop
      rw [EditorOp.edit] at h
      rw [h] at hlines
      exact hlines.symm
  | unknown => cases h

/-- An edit is refused where the operation has to be, or for want of room. -/
theorem EditorOp.edit_refused (hop : op.Typed) (h : op.edit text = none) :
    op.apply (editorLines text) = none ∨ termEditMax ≤ text.length + op.size := by
  cases op with
  | keep => cases h
  | clear => cases h
  | append s =>
      exact .inr ((termEditorInsertAt_eq_none_iff le_rfl).mp h)
  | insert n s =>
      rw [EditorOp.edit, termEditorInsertOffset_eq text hop.1] at h
      exact .inr ((termEditorInsertAt_eq_none_iff (lineStart_le text _)).mp h)
  | replace n s =>
      rw [EditorOp.edit, termEditorReplaceLine, termEditorLineBounds_eq text hop.1] at h
      rw [EditorOp.apply, EditorOp.size]
      by_cases hin : n ≤ (editorLines text).length
      · rw [if_pos hin] at h
        dsimp only at h
        have hstart := lineStart_le text (n - 1)
        have hstop := lineStart_le text n
        have hle := lineStart_mono text (show n - 1 ≤ n by omega)
        split at h
        · exact .inr (by omega)
        · have hroom := (termEditorInsertAt_eq_none_iff (by simp; omega)).mp h
          rw [List.length_append, List.length_take, List.length_drop] at hroom
          exact .inr (by omega)
      · exact .inl (if_neg hin)
  | delete n =>
      have hlines := @termEditorDeleteLine_lines text n hop
      rw [EditorOp.edit] at h
      rw [h] at hlines
      exact .inl hlines.symm
  | unknown => exact .inl rfl

end Step

/-! ## The editor -/

section Run

variable {b : TermEditBuf} {lines : List EditorLine}

theorem termEditorSubmit_refines (h : b.Ok) (line : EditorLine) (hok : EditorStepOk b line) :
    Safe (EditorRefines b line) (Bytewise.termEditorSubmit b line) := by
  refine (termEditorSubmit_step h line.val hok.1).mono fun r hr => ?_
  have htyped := editorOp_typed line
  have hlen := h.split.1
  cases hedit : (editorOp line).edit b.text with
  | none =>
      rw [hedit] at hr
      obtain rfl : r = (false, b) := hr
      have hrefused := EditorOp.edit_refused htyped hedit
      rw [hlen] at hrefused
      exact ⟨h, nofun, fun _ => rfl, fun _ => hrefused⟩
  | some text =>
      rw [hedit] at hr
      obtain ⟨htrue, hokay, htext⟩ := hr
      refine ⟨hokay, fun _ => ?_, fun hfalse => ?_, fun hfalse => ?_⟩
      · rw [htext]
        exact EditorOp.edit_done htyped (hlen ▸ hok.2) hedit
      · rw [htrue] at hfalse
        cases hfalse
      · rw [htrue] at hfalse
        cases hfalse

/-- As long as the lines of a run are of that kind, each of them does to the buffer what it says. -/
theorem termEditorRun_refines (h : b.Ok) (hlines : AllSteps TermEditBuf.next EditorStepOk b lines) :
    AllSteps TermEditBuf.next (fun b line => Safe (EditorRefines b line) (Bytewise.termEditorSubmit b line))
      b lines := by
  refine allSteps_imp (fun b line h hok => ?_) h hlines
  obtain ⟨r, hr, hrefines⟩ := termEditorSubmit_refines h line hok
  refine ⟨⟨r, hr, hrefines⟩, ?_⟩
  rw [TermEditBuf.next, hr]
  exact hrefines.ok

theorem TermEditor.edit_editBuf (ed : TermEditor) (buf : Option (List UInt8)) (failed done : TermEditorReply) :
    (ed.edit buf failed done).2.editBuf = buf.getD ed.editBuf := by
  cases buf <;> rfl

theorem lineOp_edit {op : Nat → CStr → EditorOp} (edit : Int → CStr → Option (List UInt8)) {s : CStr}
    {text : List UInt8}
    (hop : ∀ n t, (op n t).number = n) (hedit : ∀ (n : Nat) t, (op n t).edit text = edit n t)
    (h : (lineOp op s).number < 2 ^ 31) :
    ((termEditorParseLineArg s).bind fun a => if a.2 = [] then none else edit a.1 a.2) = (lineOp op s).edit text := by
  rw [lineOp] at h ⊢
  cases harg : lineArg s with
  | none => simp [termEditorParseLineArg_eq, harg, EditorOp.edit]
  | some arg =>
      obtain ⟨n, t⟩ := arg
      rw [harg] at h
      dsimp only at h ⊢
      by_cases hnil : t = []
      · rw [if_pos hnil]
        have hrest := termEditorParseLineArg_rest s
        cases hparse : termEditorParseLineArg s with
        | none => rfl
        | some arg =>
            have hsame : arg.2 = [] := by rw [hrest arg hparse, ← (lineArg_pos harg).2, hnil]
            simp [hsame, EditorOp.edit]
      · rw [if_neg hnil, hop] at h
        rw [if_neg hnil, hedit, termEditorParseLineArg_eq (by simpa [harg] using h), harg]
        simp [hnil]

/-- What a line does to the text of the editor in `Orizon.Terminal.Editor`. -/
theorem termEditorSubmit_edit {H : Type} [Allocator H] (v : Vfs H) (ed : TermEditor) (line : CStr)
    (hn : (editorOp line).number < 2 ^ 31) :
    (termEditorSubmit v ed line).2.1.editBuf = ((editorOp line).edit ed.editBuf).getD ed.editBuf := by
  by_cases hclear : line = cstr ".clear"
  · subst hclear
    rw [termEditorSubmit, if_neg (by decide), if_neg (by decide), if_pos rfl]
    rfl
  · rw [editorOp] at hn ⊢
    by_cases hkeep : line ∈ [cstr ".help", cstr ".q", cstr ".show", cstr ".write", cstr ".save", cstr ".wq"]
    · rw [if_pos hkeep, termEditorSubmit, if_neg hclear]
      split
      · rfl
      · split
        · rfl
        · split
          · rfl
          · split
            · split <;> rfl
            · split
              · split <;> rfl
              · simp_all
    · rw [if_neg hkeep, if_neg hclear] at hn ⊢
      simp only [List.mem_cons, List.not_mem_nil, or_false, not_or] at hkeep
      obtain ⟨hhelp, hq, hshow, hwrite, hsave, hwq⟩ := hkeep
      rw [termEditorSubmit, if_neg hhelp, if_neg hq, if_neg hclear, if_neg hshow, if_neg hwrite,
        if_neg (by simp [hsave, hwq])]
      dsimp only
      rw [termEditorEditLine]
      by_cases hdel : cstr ".del " <+: line ∨ cstr ".delete " <+: line
      · simp only [if_pos hdel] at hn ⊢
        rw [TermEditor.edit_editBuf]
        generalize (if cstr ".delete " <+: line then line.drop 8 else line.drop 5) = s at hn ⊢
        cases harg : lineArg s with
        | none => simp [termEditorParseLineArg_eq, harg, EditorOp.edit]
        | some arg =>
            have hlt : arg.1 < 2 ^ 31 := by simpa only [harg, EditorOp.number] using hn
            rw [termEditorParseLineArg_eq (by simpa [harg] using hlt), harg]
            rfl
      · simp only [if_neg hdel] at hn ⊢
        by_cases hinsert : cstr ".insert " <+: line
        · simp only [if_pos hinsert] at hn ⊢
          rw [TermEditor.edit_editBuf]
          have hline := lineOp_edit (fun n t => termEditorInsertAt ed.editBuf (termEditorInsertOffset ed.editBuf n) t)
            (fun _ _ => rfl) (fun _ _ => rfl) hn
          exact congrArg (·.getD ed.editBuf) hline
        · simp only [if_neg hinsert] at hn ⊢
          by_cases hreplace : cstr ".replace " <+: line
          · simp only [if_pos hreplace] at hn ⊢
            rw [TermEditor.edit_editBuf]
            have hline := lineOp_edit (termEditorReplaceLine ed.editBuf) (fun _ _ => rfl) (fun _ _ => rfl) hn
            exact congrArg (·.getD ed.editBuf) hline
          · simp only [if_neg hreplace] at hn ⊢
            by_cases hdot : line.head? = some (cchar '.')
            · simp only [if_pos hdot]
              rfl
            · simp only [if_neg hdot]
              exact TermEditor.edit_editBuf _ _ _ _

/-- That editor keeps the text of this one. -/
theorem termEditorSubmit_next {H : Type} [Allocator H] (v : Vfs H) {ed : TermEditor} (h : b.Ok)
    (hed : ed.editBuf = b.text) (line : EditorLine) (hn : (editorOp line).number < 2 ^ 31) :
    (b.next line).Ok ∧ (termEditorSubmit v ed line).2.1.editBuf = (b.next line).text := by
  obtain ⟨r, hr, hstep⟩ := termEditorSubmit_step h line hn
  rw [termEditorSubmit_edit v ed line hn, TermEditBuf.next, hr, hed]
  cases hedit : (editorOp line).edit b.text with
  | none =>
      rw [hedit] at hstep
      obtain rfl : r = (false, b) := hstep
      exact ⟨h, rfl⟩
  | some text =>
      rw [hedit] at hstep
      exact ⟨hstep.2.1, hstep.2.2.symm⟩

/-- It does through every run of lines, whatever the files are when it gets them. -/
theorem termEditorRun_next {H : Type} [Allocator H] (steps : List (Vfs H × EditorLine)) {ed : TermEditor} (h : b.Ok)
    (hed : ed.editBuf = b.text) (hn : ∀ step ∈ steps, (editorOp step.2).number < 2 ^ 31) :
    (termEditorRun ed (steps.map fun step => (step.1, step.2.val))).editBuf =
      ((steps.map (·.2)).foldl TermEditBuf.next b).text := by
  induction steps generalizing b ed with
  | nil => exact hed
  | cons step steps ih =>
      obtain ⟨hfirst, hrest⟩ := List.forall_mem_cons.mp hn
      obtain ⟨hok, htext⟩ := termEditorSubmit_next step.1 h hed step.2 hfirst
      exact ih hok htext hrest

/-- The buffer behind a text that is loaded. -/
def TermEditBuf.load (old text : List UInt8) : TermEditBuf := ⟨text ++ 0 :: old.drop (text.length + 1), text.length⟩

/-- The editor begins with what it has of the file, and the NUL behind that. -/
theorem TermEditBuf.load_ok {H : Type} (v : Vfs H) (c : List UInt8) {old : List UInt8}
    (hold : old.length = termEditMax) :
    (TermEditBuf.load old (termEditorLoaded v c)).Ok ∧ (TermEditBuf.load old (termEditorLoaded v c)).text =
      termEditorLoaded v c := by
  have hlen : (termEditorLoaded v c).length < termEditMax := by
    rw [termEditorLoaded]
    split
    · rw [List.length_take]
      exact lt_of_le_of_lt (Nat.min_le_left _ _) (by decide)
    · decide
  refine ⟨TermEditBuf.ok_of_append ?_, TermEditBuf.text_of_append _ _⟩
  simp [hold]
  omega

theorem TermEditBuf.load_small_ok (text : List UInt8) (h : text.length < 8) :
    (TermEditBuf.load (List.replicate termEditMax 0) text).Ok := by
  refine TermEditBuf.ok_of_append ?_
  simp
  unfold termEditMax
  omega

theorem termEditorRun_next_del :
    (termEditorRun ⟨true, cstr "/a", []⟩ ([bootVfs KernelHeap.boot noDisk bootPersist].flatMap fun v =>
      [(v, cstr "b"), (v, cstr ".del 1")])).editBuf = ([⟨cstr "b", by decide⟩, ⟨cstr ".del 1", by decide⟩].foldl
        TermEditBuf.next (TermEditBuf.load (List.replicate termEditMax 0) [])).text :=
  termEditorRun_next [(bootVfs KernelHeap.boot noDisk bootPersist, ⟨cstr "b", by decide⟩),
    (bootVfs KernelHeap.boot noDisk bootPersist, ⟨cstr ".del 1", by decide⟩)] (TermEditBuf.load_small_ok [] (by decide))
    (TermEditBuf.text_of_append [] _).symm (by decide)

/-- A line behind "a" and its newline. -/
theorem termEditorRun_refines_append :
    AllSteps TermEditBuf.next (fun b line => Safe (EditorRefines b line) (Bytewise.termEditorSubmit b line))
      (TermEditBuf.load (List.replicate termEditMax 0) [0x61, 0x0a]) [⟨cstr "b", by decide⟩] := by
  refine termEditorRun_refines (TermEditBuf.load_small_ok _ (by decide)) ⟨⟨by decide, fun _ => .inl ?_⟩, trivial⟩
  rw [TermEditBuf.load, TermEditBuf.text_of_append]
  decide

/-- Behind "a" alone a line "b" makes the one line "ab". -/
theorem not_termEditorRun_refines :
    ¬ ∀ (b : TermEditBuf) (lines : List EditorLine), b.Ok →
      AllSteps TermEditBuf.next (fun b line => Safe (EditorRefines b line) (Bytewise.termEditorSubmit b line))
        b lines := by
  intro h
  obtain ⟨⟨r, hr, hrefines⟩, -⟩ := h _ [⟨cstr "b", by decide⟩] (TermEditBuf.load_small_ok [0x61] (by decide))
  obtain ⟨r', hr', hstep⟩ := termEditorSubmit_step (TermEditBuf.load_small_ok [0x61] (by decide)) (cstr "b") (by decide)
  obtain rfl : r = r' := Except.ok.inj (hr.symm.trans hr')
  have htext : (TermEditBuf.load (List.replicate termEditMax 0) [0x61]).text = [0x61] := TermEditBuf.text_of_append _ _
  have hedit : (editorOp (cstr "b")).edit [0x61] = some [0x61, 0x62, 0x0a] := by decide
  rw [htext, hedit] at hstep
  obtain ⟨htrue, -, hnew⟩ := hstep
  have hdone := hrefines.done htrue
  rw [htext, hnew] at hdone
  revert hdone
  decide

end Run

end Orizon
