import Orizon.Terminal.Pipeline

/-!
# Orizon.Terminal.Filters

What `grep`, `head`, `tail` and `wc` take for the lines of a text.

`head`, `grep` and `wc` agree on them (`textLines`), with or without a newline behind the last
one.  `tail` counts newlines from the end, and so takes one line more where the last line has
none (`filtersByLines_iff`).
-/

namespace Orizon

/-! ## What is required -/

/-- A line without its newline. -/
def lineBody (line : List UInt8) : List UInt8 := line.takeWhile (· ≠ newline)

/-- The lines that `grep` is to select, with their numbers from `first` on. -/
def grepSelected (pattern : CStr) (o : GrepOptions) (lines : List (List UInt8)) (first : Nat) :
    List (List UInt8 × Nat) :=
  ((lines.map lineBody).zipIdx first).filter fun line => termLineContainsMode line.1 pattern o.ignoreCase != o.invert

/-- How `grep` is to write them. -/
def grepLines (o : GrepOptions) (selected : List (List UInt8 × Nat)) : List UInt8 :=
  selected.flatMap fun line =>
    (if o.showNumbers then termDecimal line.2 ++ strBytes (cstr ":") else []) ++ line.1 ++ [newline]

/-- The whole output of a stage fits its buffer. -/
def PipeStage.Fits (stage : PipeStage) (size : Nat) (input : List UInt8) : Prop :=
  (stage.text (· ++ ·) input).length < size

/-- The filters do with the lines of a text what they say; `n` is the number of lines asked for. -/
structure FiltersByLines (size : Nat) (input : List UInt8) (n : Nat) : Prop where
  tail : (PipeStage.tail n).Fits size input → (PipeStage.tail n).text (termTextAppend size) input =
    ((textLines input).drop ((termTextCountStats input).lines - n)).flatten
  head : (PipeStage.head n).Fits size input → (PipeStage.head n).text (termTextAppend size) input =
    ((textLines input).take n).flatten
  parts : ∀ k : Nat, n = (termTextCountStats input).lines - k → 1 ≤ k → k < (termTextCountStats input).lines →
    (PipeStage.head k).Fits size input → (PipeStage.tail n).Fits size input →
    (PipeStage.head k).text (termTextAppend size) input ++ (PipeStage.tail n).text (termTextAppend size) input = input
  grep : ∀ o pattern, (PipeStage.grep o pattern).Fits size input → grepSelected pattern o (textLines input) 1 ≠ [] →
    (PipeStage.grep o pattern).text (termTextAppend size) input =
      grepLines o (grepSelected pattern o (textLines input) 1)

/-- There is nothing behind the last newline. -/
def EndsLine (input : List UInt8) : Prop := input = [] ∨ input.getLast? = some newline

instance (input : List UInt8) : Decidable (EndsLine input) := inferInstanceAs (Decidable (_ ∨ _))

/-! ## Lines -/

section Lines

variable {a b input line : List UInt8} {c : UInt8} {n size : Nat}

theorem endsLine_nil : EndsLine [] := .inl rfl

theorem endsLine_cons : EndsLine (c :: input) ↔ (input = [] ∧ c = newline) ∨ (input ≠ [] ∧ EndsLine input) := by
  cases input with
  | nil => simp [EndsLine]
  | cons d input => simp [EndsLine]

theorem textLines_eq_nil_iff : textLines input = [] ↔ input = [] := by
  cases input with
  | nil => simp [textLines]
  | cons c input =>
      rw [textLines]
      split
      · simp
      · split <;> simp

theorem textLines_flatten (input : List UInt8) : (textLines input).flatten = input := by
  induction input with
  | nil => rfl
  | cons c input ih =>
      rw [textLines]
      split
      · simp [ih]
      · cases hlines : textLines input with
        | nil => simp [textLines_eq_nil_iff.mp hlines]
        | cons line lines =>
            rw [hlines] at ih
            simp [← ih]

theorem mem_textLines (h : line ∈ textLines input) :
    line ≠ [] ∧ lineBody line ++ (if (lineBody line).length < line.length then [newline] else []) = line := by
  induction input generalizing line with
  | nil => simp [textLines] at h
  | cons c input ih =>
      rw [textLines] at h
      split at h
      · next hc =>
          obtain rfl | h := List.mem_cons.mp h
          · simp [lineBody, hc]
          · exact ih h
      · next hc =>
          cases hlines : textLines input with
          | nil =>
              rw [hlines] at h
              obtain rfl := List.mem_singleton.mp h
              simp [lineBody, hc]
          | cons first rest =>
              rw [hlines] at h ih
              obtain rfl | h := List.mem_cons.mp h
              · have hfirst := (ih List.mem_cons_self).2
                have hbody : lineBody (c :: first) = c :: lineBody first := by simp [lineBody, hc]
                refine ⟨by simp, ?_⟩
                rw [hbody, List.length_cons, List.length_cons, List.cons_append]
                simpa using hfirst
              · exact ih (List.mem_cons_of_mem _ h)

theorem textLines_append (ha : EndsLine a) : textLines (a ++ b) = textLines a ++ textLines b := by
  induction a with
  | nil => rfl
  | cons c a ih =>
      rw [List.cons_append, textLines, textLines]
      obtain ⟨rfl, rfl⟩ | ⟨hne, ha⟩ := endsLine_cons.mp ha
      · simp [textLines]
      · rw [ih ha]
        have hlines := mt textLines_eq_nil_iff.mp hne
        obtain ⟨first, rest, hcons⟩ := List.exists_cons_of_ne_nil hlines
        split <;> simp [hcons]

/-- The newlines of a text are its lines, but for a last line without one. -/
theorem length_textLines (input : List UInt8) :
    (textLines input).length = input.count newline + if EndsLine input then 0 else 1 := by
  induction input with
  | nil => simp [textLines, endsLine_nil]
  | cons c input ih =>
      rw [textLines]
      by_cases hc : c = newline
      · rw [if_pos hc, List.length_cons, ih, List.count_cons, hc]
        by_cases hnil : input = []
        · simp [hnil, EndsLine]
        · simp [endsLine_cons, hnil]
          omega
      · rw [if_neg hc, List.count_cons, if_neg (by simpa using hc)]
        by_cases hnil : input = []
        · simp [hnil, textLines, endsLine_cons, hc]
        · obtain ⟨first, rest, hcons⟩ := List.exists_cons_of_ne_nil (mt textLines_eq_nil_iff.mp hnil)
          rw [hcons] at ih ⊢
          simpa [endsLine_cons, hnil] using ih

/-- What `wc` counts. -/
theorem foldl_textStats (input : List UInt8) (s : TextStats) :
    (input.foldl TextStats.step s).lines = s.lines + input.count newline ∧
      (input.foldl TextStats.step s).bytes = s.bytes + input.length := by
  induction input generalizing s with
  | nil => simp
  | cons c input ih =>
      have hstep : (s.step c).lines = s.lines + (if c = newline then 1 else 0) ∧ (s.step c).bytes = s.bytes + 1 := by
        simp only [TextStats.step]
        grind
      rw [List.foldl_cons, (ih _).1, (ih _).2, hstep.1, hstep.2, List.count_cons, List.length_cons]
      by_cases hc : c = newline <;> simp [hc] <;> omega

/-- The lines that `wc` reports are the lines. -/
theorem termTextCountStats_lines (input : List UInt8) :
    (termTextCountStats input).lines = (textLines input).length := by
  obtain ⟨hlines, hbytes⟩ := foldl_textStats input ⟨0, 0, 0, false⟩
  rw [length_textLines, termTextCountStats]
  by_cases hnil : input = []
  · subst hnil
    simp [EndsLine]
  · have hpos := List.length_pos_iff.mpr hnil
    by_cases hend : input.getLast? = some newline <;> simp [hlines, hbytes, EndsLine, hnil, hend, hpos]

end Lines

/-! ## The stages -/

section Filters

variable {input : List UInt8} {size n start : Nat} {pattern : CStr} {o : GrepOptions}

theorem PipeStage.Fits.text_eq {stage : PipeStage} (h : stage.Fits size input) :
    stage.text (termTextAppend size) input = stage.text (· ++ ·) input := by
  rw [PipeStage.text_bounded]
  exact List.take_of_length_le (by unfold PipeStage.Fits at h; omega)

theorem termPipeHeadLoop_lines (n : Nat) {lines : List (List UInt8)} {count : Nat} (out : List UInt8)
    (hlines : ∀ line ∈ lines, lineBody line ++ (if (lineBody line).length < line.length then [newline] else [])
    = line) :
    termPipeHeadLoop (· ++ ·) n lines count out = out ++ (lines.take (n - count)).flatten := by
  induction lines generalizing count out with
  | nil => simp [termPipeHeadLoop]
  | cons line lines ih =>
      have hline := hlines line List.mem_cons_self
      have hmore := fun out => @ih (count + 1) out fun l hl => hlines l (List.mem_cons_of_mem _ hl)
      rw [termPipeHeadLoop]
      by_cases hcount : count < n
      · obtain ⟨k, hk⟩ : ∃ k, n - count = k + 1 := ⟨n - count - 1, by omega⟩
        rw [if_pos (by exact_mod_cast hcount), hk, List.take_succ_cons, List.flatten_cons]
        have hout : (if (lineBody line).length < line.length then out ++ lineBody line ++ [newline]
            else out ++ lineBody line) = out ++ line := by
          conv_rhs => rw [← hline]
          split <;> simp
        dsimp only
        rw [← lineBody, hout]
        have hgo := hmore (out ++ line)
        rw [show n - (count + 1) = k by omega, List.append_assoc] at hgo
        exact_mod_cast hgo
      · rw [if_neg (by exact_mod_cast hcount), Nat.sub_eq_zero_of_le (by omega), List.take_zero]
        simp

/-- `head` takes the first lines. -/
theorem head_text (input : List UInt8) (n : Nat) :
    (PipeStage.head n).text (· ++ ·) input = ((textLines input).take n).flatten := by
  have h := @termPipeHeadLoop_lines n (textLines input) 0 [] fun line hline => (mem_textLines hline).2
  simpa [PipeStage.text, termPipeHead] using h

/-- `tail` starts behind a newline, or where the text does, and takes as many newlines as it may. -/
theorem termPipeTailStart_spec {lines : Nat} (hstart : start ≤ input.length)
    (hcount : (input.drop start).count newline = lines) (hlines : lines ≤ n) :
    ∃ s, termPipeTailStart input n start lines = s ∧ s ≤ input.length ∧ (input.drop s).count newline ≤ n ∧
      EndsLine (input.take s) ∧ (s = 0 ∨ (input.drop s).count newline = n) := by
  induction start generalizing lines with
  | zero => exact ⟨0, rfl, Nat.zero_le _, by omega, by simp [EndsLine], .inl rfl⟩
  | succ start ih =>
      have hdrop := List.drop_eq_getElem_cons (show start < input.length by omega)
      have hget : input[start]? = some input[start] := List.getElem?_eq_getElem (by omega)
      rw [termPipeTailStart, if_pos (by exact_mod_cast hlines), hget]
      by_cases hnl : input[start] = newline
      · have hmore : (input.drop start).count newline = lines + 1 := by
          rw [hdrop, List.count_cons, hcount]
          simp [hnl]
        rw [if_pos (by rw [hnl])]
        by_cases hfull : lines + 1 > n
        · refine ⟨start + 1, by rw [if_pos (by exact_mod_cast hfull)], hstart, by omega, .inr ?_, .inr (by omega)⟩
          rw [List.getLast?_take, if_neg (by omega)]
          simp [hget, hnl]
        · rw [if_neg (by exact_mod_cast hfull)]
          exact_mod_cast ih (by omega) hmore (by omega)
      · have hsame : (input.drop start).count newline = lines := by
          rw [hdrop, List.count_cons, hcount]
          simp [hnl]
        rw [if_neg (by simpa using hnl)]
        exact ih (by omega) hsame hlines

theorem length_flatten_drop_lt {lines : List (List UInt8)} (hne : ∀ line ∈ lines, line ≠ []) {i j : Nat} (hij : i < j)
    (hi : i < lines.length) : (lines.drop j).flatten.length < (lines.drop i).flatten.length := by
  have hcut : lines.drop i = (lines.drop i).take (j - i) ++ lines.drop j := by
    conv_lhs => rw [← List.take_append_drop (j - i) (lines.drop i)]
    rw [List.drop_drop, Nat.add_sub_of_le hij.le]
  have hfirst : lines[i] ∈ (lines.drop i).take (j - i) := by
    rw [List.drop_eq_getElem_cons hi, show j - i = (j - i - 1) + 1 by omega, List.take_succ_cons]
    exact List.mem_cons_self
  have hpos := List.length_pos_iff.mpr (hne _ (List.getElem_mem hi))
  have hle := List.Sublist.length_le (List.sublist_flatten_of_mem hfirst)
  rw [hcut, List.flatten_append, List.length_append]
  omega

/-- `tail` takes the last lines just if a newline ends the text, or there are not more. -/
theorem tail_text_iff (input : List UInt8) (n : Nat) :
    (PipeStage.tail n).text (· ++ ·) input = ((textLines input).drop ((textLines input).length - n)).flatten ↔
      EndsLine input ∨ (textLines input).length ≤ n := by
  obtain ⟨s, hs, hle, hcount, hcut, hstop⟩ := @termPipeTailStart_spec input n input.length 0 le_rfl (by simp)
    (Nat.zero_le _)
  have htext : (PipeStage.tail n).text (· ++ ·) input = input.drop s := by
    have hs' : termPipeTailStart input n input.length 0 = s := by exact_mod_cast hs
    simp [PipeStage.text, termPipeTail, hs']
  have hlines : textLines input = textLines (input.take s) ++ textLines (input.drop s) := by
    rw [← textLines_append hcut, List.take_append_drop]
  have hlen := congrArg List.length hlines
  have hrest : input.drop s = ((textLines input).drop (textLines (input.take s)).length).flatten := by
    rw [hlines, List.drop_left, textLines_flatten]
  have hends : EndsLine (input.drop s) ↔ EndsLine input := by
    by_cases hnil : input.drop s = []
    · rw [List.drop_eq_nil_iff] at hnil
      rw [List.take_of_length_le hnil] at hcut
      simp [hcut, endsLine_nil, List.drop_eq_nil_iff.mpr hnil]
    · have hlast : input.getLast? = (input.drop s).getLast? := by
        conv_lhs => rw [← List.take_append_drop s input]
        exact List.getLast?_append_of_ne_nil _ hnil
      have hne : input ≠ [] := fun h => hnil (by simp [h])
      simp only [EndsLine, hnil, hne, hlast]
  have hmany := length_textLines (input.drop s)
  have hstart : s = 0 → (textLines (input.take s)).length = 0 := by
    rintro rfl
    rfl
  rw [List.length_append] at hlen
  rw [htext, hrest]
  by_cases hend : EndsLine input
  · rw [if_pos (hends.mpr hend)] at hmany
    have hsame : (textLines (input.take s)).length = (textLines input).length - n := by omega
    simp [hend, hsame]
  · rw [if_neg (mt hends.mp hend)] at hmany
    by_cases hfew : (textLines input).length ≤ n
    · have hsame : (textLines (input.take s)).length = (textLines input).length - n := by omega
      simp [hfew, hsame]
    · have hlt := length_flatten_drop_lt (fun line (hline : line ∈ textLines input) => (mem_textLines hline).1)
        (show (textLines (input.take s)).length < (textLines input).length - n by omega) (by omega)
      simp only [hend, hfew, or_false, iff_false]
      intro heq
      rw [heq] at hlt
      exact lt_irrefl _ hlt

theorem termPipeGrepLoop_lines {lines : List (List UInt8)} {lineNo found : Nat} (out : List UInt8)
    (h : grepSelected pattern o lines lineNo ≠ [] ∨ found ≠ 0) :
    termPipeGrepLoop (· ++ ·) pattern o lines lineNo found out =
      out ++ grepLines o (grepSelected pattern o lines lineNo) := by
  induction lines generalizing lineNo found out with
  | nil =>
      have hfound : found ≠ 0 := h.resolve_left (by simp [grepSelected])
      simp [termPipeGrepLoop, hfound, grepSelected, grepLines]
  | cons line lines ih =>
      rw [termPipeGrepLoop]
      dsimp only
      rw [← lineBody]
      by_cases hline : (termLineContainsMode (lineBody line) pattern o.ignoreCase != o.invert) = true
      · have hsel : grepSelected pattern o (line :: lines) lineNo =
            (lineBody line, lineNo) :: grepSelected pattern o lines (lineNo + 1) := by
          simp [grepSelected, List.zipIdx_cons, List.filter_cons_of_pos, hline]
        rw [if_pos hline, ih _ (.inr (Nat.succ_ne_zero found)), hsel, grepLines, grepLines, List.flatMap_cons]
        cases o.showNumbers <;> simp
      · have hsel : grepSelected pattern o (line :: lines) lineNo = grepSelected pattern o lines (lineNo + 1) := by
          simp [grepSelected, List.zipIdx_cons, List.filter_cons_of_neg, hline]
        rw [if_neg hline, hsel]
        rw [hsel] at h
        exact ih out h

/-- `grep` writes the lines that it selects, if there are any. -/
theorem grep_text (h : grepSelected pattern o (textLines input) 1 ≠ []) :
    (PipeStage.grep o pattern).text (· ++ ·) input = grepLines o (grepSelected pattern o (textLines input) 1) := by
  have hloop := @termPipeGrepLoop_lines _ o _ _ 0 [] (.inl h)
  simpa [PipeStage.text, termPipeGrep] using hloop

/-! ## The filters together -/

/-- The filters go by lines just if a newline ends the text, or it has no more lines than `tail`
is asked for. -/
theorem filtersByLines_iff (hfits : (PipeStage.tail n).Fits size input) :
    FiltersByLines size input n ↔ EndsLine input ∨ (termTextCountStats input).lines ≤ n := by
  have htail := tail_text_iff input n
  rw [termTextCountStats_lines]
  constructor
  · intro h
    have hlines := h.tail hfits
    rw [hfits.text_eq, termTextCountStats_lines] at hlines
    exact htail.mp hlines
  · intro h
    have hlast := htail.mpr h
    constructor
    · intro hfits
      rw [hfits.text_eq, termTextCountStats_lines, hlast]
    · intro hfits
      rw [hfits.text_eq, head_text]
    · intro k hn hk hlt hhead htail
      rw [termTextCountStats_lines] at hn hlt
      rw [hhead.text_eq, htail.text_eq, hlast, head_text, hn, Nat.sub_sub_self hlt.le, ← List.flatten_append,
        List.take_append_drop, textLines_flatten]
    · intro o pattern hfits hsome
      rw [hfits.text_eq, grep_text hsome]

/-- For the two lines "a" and "b". -/
theorem filtersByLines_two : FiltersByLines (termPipeMax + 1) [0x61, 0x0a, 0x62, 0x0a] 1 :=
  (filtersByLines_iff (by unfold PipeStage.Fits; decide)).mpr (.inl (by decide))

/-- Without the last newline `tail` takes both of them for the last line. -/
theorem not_filtersByLines :
    ¬ ∀ (size : Nat) (input : List UInt8) (n : Nat), 1 ≤ n → (PipeStage.tail n).Fits size input →
      FiltersByLines size input n := by
  intro h
  have hfits : (PipeStage.tail (1 : Nat)).Fits 32769 [0x61, 0x0a, 0x62] := by
    unfold PipeStage.Fits
    decide
  have hor := (filtersByLines_iff hfits).mp (h 32769 [0x61, 0x0a, 0x62] 1 le_rfl hfits)
  exact absurd hor (by decide)

end Filters

end Orizon
