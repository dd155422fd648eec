import Orizon.Terminal.Editor

/-!
# Orizon.Terminal.Stages

The stages of a pipeline of `gui/terminal.c`.

A stage writes its output with `term_text_append`, which cuts it at the size of the buffer.
Each stage is defined over how it appends: with `termTextAppend` it is the code's function,
with `++` it is what the stage means.  They agree up to the cut (`PipeStage.text_bounded`).
-/

namespace Orizon

/-! ## Appending -/

/-- `term_text_append` to a buffer of `size` bytes. -/
def termTextAppend (size : Nat) (out text : List UInt8) : List UInt8 :=
  if out.length ≥ size - 1 then out else out ++ text.take (size - 1 - out.length)

/-- The bytes of a string. -/
def strBytes (s : CStr) : List UInt8 := s.map Subtype.val

/-- `%d` and `%lu`. -/
def termDecimal (n : Nat) : List UInt8 := strBytes (cstr (toString n))

/-- The lines of a text, each with the newline that ends it. -/
def textLines : List UInt8 → List (List UInt8)
  | [] => []
  | c :: cs =>
      if c = newline then [c] :: textLines cs
      else
        match textLines cs with
        | [] => [[c]]
        | line :: lines => (c :: line) :: lines

/-! ## The stages -/

/-- `term_ascii_lower`. -/
def termAsciiLower (c : UInt8) : UInt8 := if 0x41 ≤ c ∧ c ≤ 0x5a then c - 0x41 + 0x61 else c

/-- `term_line_contains_mode`. -/
def termLineContainsMode (line : List UInt8) (pattern : CStr) (ignoreCase : Bool) : Bool :=
  if pattern.length = 0 then true
  else if pattern.length > line.length then false
  else
    let fold := fun c => if ignoreCase then termAsciiLower c else c
    (List.range (line.length - pattern.length + 1)).any fun i =>
      ((line.drop i).take pattern.length).map fold = (strBytes pattern).map fold

/-- What `term_parse_grep_options` reads. -/
structure GrepOptions where
  ignoreCase : Bool
  invert : Bool
  showNumbers : Bool

section Stages

variable (append : List UInt8 → List UInt8 → List UInt8)

/-- The loop of `term_pipe_grep`. -/
def termPipeGrepLoop (pattern : CStr) (o : GrepOptions) :
    List (List UInt8) → Nat → Nat → List UInt8 → List UInt8
  | [], _, found, out => if found = 0 then append out (strBytes (cstr "grep: no matches\n")) else out
  | line :: lines, lineNo, found, out =>
      let body := line.takeWhile (· ≠ newline)
      if termLineContainsMode body pattern o.ignoreCase != o.invert then
        let out := if o.showNumbers then append out (termDecimal lineNo ++ strBytes (cstr ":")) else out
        termPipeGrepLoop pattern o lines (lineNo + 1) (found + 1) (append (append out body) [newline])
      else termPipeGrepLoop pattern o lines (lineNo + 1) found out

/-- `term_pipe_grep`. -/
def termPipeGrep (input : List UInt8) (pattern : CStr) (o : GrepOptions) : List UInt8 :=
  termPipeGrepLoop append pattern o (textLines input) 1 0 []

/-- The loop of `term_pipe_head`. -/
def termPipeHeadLoop (maxLines : Int) : List (List UInt8) → Int → List UInt8 → List UInt8
  | [], _, out => out
  | line :: lines, count, out =>
      if count < maxLines then
        let body := line.takeWhile (· ≠ newline)
        let out := append out body
        let out := if body.length < line.length then append out [newline] else out
        termPipeHeadLoop maxLines lines (count + 1) out
      else out

/-- `term_pipe_head`. -/
def termPipeHead (input : List UInt8) (maxLines : Int) : List UInt8 :=
  termPipeHeadLoop append maxLines (textLines input) 0 []

/-- The loop of `term_pipe_tail`, which goes back from `start`. -/
def termPipeTailStart (input : List UInt8) (maxLines : Int) : Nat → Int → Nat
  | 0, _ => 0
  | start + 1, lines =>
      if lines ≤ maxLines then
        if input[start]? = some newline then
          if lines + 1 > maxLines then start + 1 else termPipeTailStart input maxLines start (lines + 1)
        else termPipeTailStart input maxLines start lines
      else start + 1

/-- `term_pipe_tail`. -/
def termPipeTail (input : List UInt8) (maxLines : Int) : List UInt8 :=
  append [] (input.drop (termPipeTailStart input maxLines input.length 0))

/-- The counters of `term_text_count_stats`. -/
structure TextStats where
  lines : Nat
  words : Nat
  bytes : Nat
  inWord : Bool

/-- A round of `term_text_count_stats`. -/
def TextStats.step (s : TextStats) (c : UInt8) : TextStats :=
  let s := { s with bytes := s.bytes + 1 }
  let s := if c = newline then { s with lines := s.lines + 1 } else s
  if c = 0x20 ∨ c = 0x09 ∨ c = 0x0d ∨ c = newline then { s with inWord := false }
  else if ¬ s.inWord then { s with words := s.words + 1, inWord := true }
  else s

/-- `term_text_count_stats`. -/
def termTextCountStats (input : List UInt8) : TextStats :=
  let s := input.foldl TextStats.step ⟨0, 0, 0, false⟩
  if s.bytes > 0 ∧ input.getLast? ≠ some newline then { s with lines := s.lines + 1 } else s

/-- `term_pipe_wc`. -/
def termPipeWc (input : List UInt8) : List UInt8 :=
  let s := termTextCountStats input
  append [] (termDecimal s.lines ++ strBytes (cstr " lines ") ++ termDecimal s.words ++ strBytes (cstr " words ") ++
    termDecimal s.bytes ++ strBytes (cstr " bytes\n"))

/-! ## Their commands -/

/-- A stage with its arguments. -/
inductive PipeStage
  | grep (o : GrepOptions) (pattern : CStr)
  | head (lines : Int)
  | tail (lines : Int)
  | pager
  | cat
  | wc
  | tee (append : Bool) (path : CStr)

/-- The text that a stage makes of its input.  `snprintf` with `"%s"` cuts like an append to
an empty buffer. -/
def PipeStage.text : PipeStage → List UInt8 → List UInt8
  | .grep o pattern, input => termPipeGrep append input pattern o
  | .head lines, input => termPipeHead append input lines
  | .tail lines, input => termPipeTail append input lines
  | .wc, input => termPipeWc append input
  | .pager, input | .cat, input | .tee _ _, input => append [] input

end Stages

/-- `' '` or `'\t'`. -/
def isBlank (c : CChar) : Bool := c.val = 0x20 || c.val = 0x09

/-- `term_trim_mut`. -/
def termTrimMut (s : CStr) : CStr := ((s.dropWhile isBlank).reverse.dropWhile isBlank).reverse

/-- `term_command_is`. -/
def termCommandIs (cmd : CStr) (name : String) : Bool :=
  let next := cmd[(cstr name).length]?
  strncmpEq cmd (cstr name) (cstr name).length && (next = none || next = some (cchar ' '))

/-- The flags of one argument of `grep`: the loop up to a blank.  `none` if it has another
character. -/
def termGrepFlags (o : GrepOptions) : CStr → GrepOptions × Option CStr
  | [] => (o, some [])
  | c :: p =>
      if isBlank c then (o, some (c :: p))
      else if c = cchar 'i' then termGrepFlags { o with ignoreCase := true } p
      else if c = cchar 'v' then termGrepFlags { o with invert := true } p
      else if c = cchar 'n' then termGrepFlags { o with showNumbers := true } p
      else (o, none)

/-- The loop of `term_parse_grep_options`.  A round that goes on has consumed a flag, so the
length of the arguments is fuel enough. -/
def termParseGrepLoop : Nat → GrepOptions → CStr → GrepOptions × CStr
  | 0, o, args => (o, args)
  | fuel + 1, o, args =>
      if args.head? = some (cchar '-') ∧ 1 < args.length then
        match termGrepFlags o args.tail with
        | (o, none) => (o, args)
        | (o, some rest) =>
            if rest.length < args.tail.length then termParseGrepLoop fuel o (termSkipSpaces rest) else (o, args)
      else (o, args)

/-- `term_parse_grep_options`: the options and what follows them. -/
def termParseGrepOptions (args : CStr) : GrepOptions × CStr :=
  let args := termSkipSpaces args
  termParseGrepLoop (args.length + 1) ⟨false, false, false⟩ args

/-- `term_parse_pipe_line_count`. -/
def termParsePipeLineCount (args : CStr) : Option Int :=
  let args := termSkipSpaces args
  if args = [] then some 10
  else
    let args := if args.head? = some (cchar '-') then args.tail else args
    if termDigits args ≤ 0 then none
    else if termSkipSpaces (args.dropWhile isDigit) = [] then some (termDigits args)
    else none

/-- Why a stage is refused. -/
inductive PipeStageError
  | missingCommand
  | usageGrep
  | usageHead
  | usageTail
  | usageTee
  | unsupported
  deriving DecidableEq

/-- What is printed. -/
def PipeStageError.text : PipeStageError → String
  | .missingCommand => "pipe: missing command after '|'\n"
  | .usageGrep => "usage: cmd | grep [-i] [-v] [-n] <text>\n"
  | .usageHead => "usage: cmd | head [-n]\n"
  | .usageTail => "usage: cmd | tail [-n]\n"
  | .usageTee => "usage: cmd | tee [-a] <file>\n"
  | .unsupported => "pipe: supported stages are grep, head, tail, wc, tee, less\n"

/-- The arguments of `tee`. -/
def termTeeArgs (args : CStr) : Bool × CStr :=
  let args := termSkipSpaces args
  if cstr "-a" <+: args ∧ (args.drop 2).head?.all isBlank then (true, termSkipSpaces (args.drop 2)) else (false, args)

/-- The stage that `term_apply_pipe_stage` applies. -/
def termPipeStage (stage : CStr) : Except PipeStageError PipeStage :=
  let stage := termTrimMut stage
  if stage = [] then .error .missingCommand
  else if termCommandIs stage "grep" then
    let (o, pattern) := termParseGrepOptions (stage.drop 4)
    if pattern = [] then .error .usageGrep else .ok (.grep o pattern)
  else if termCommandIs stage "head" then
    match termParsePipeLineCount (stage.drop 4) with
    | none => .error .usageHead
    | some lines => .ok (.head lines)
  else if termCommandIs stage "tail" then
    match termParsePipeLineCount (stage.drop 4) with
    | none => .error .usageTail
    | some lines => .ok (.tail lines)
  else if termCommandIs stage "less" ∨ termCommandIs stage "more" then .ok .pager
  else if termCommandIs stage "cat" then .ok .cat
  else if termCommandIs stage "wc" then .ok .wc
  else if termCommandIs stage "tee" then
    let (append, path) := termTeeArgs (stage.drop 3)
    if termSkipSpaces path = [] then .error .usageTee else .ok (.tee append (termSkipSpaces path))
  else .error .unsupported

/-! ## The cut -/

variable {size : Nat}

theorem termTextAppend_take (out text : List UInt8) :
    termTextAppend size (out.take (size - 1)) text = (out ++ text).take (size - 1) := by
  unfold termTextAppend
  rw [List.take_append, List.length_take]
  by_cases hfull : size - 1 ≤ out.length
  · rw [if_pos (by omega), Nat.sub_eq_zero_of_le hfull, List.take_zero, List.append_nil]
  · rw [if_neg (by omega), min_eq_right (by omega)]

theorem termTextAppend_nil (text : List UInt8) : termTextAppend size [] text = text.take (size - 1) := by
  have h := @termTextAppend_take size [] text
  rwa [List.take_nil] at h

theorem termPipeGrepLoop_bounded (pattern : CStr) (o : GrepOptions) (lines : List (List UInt8))
    (lineNo found : Nat)
    (out : List UInt8) :
    termPipeGrepLoop (termTextAppend size) pattern o lines lineNo found (out.take (size - 1)) =
      (termPipeGrepLoop (· ++ ·) pattern o lines lineNo found out).take (size - 1) := by
  induction lines generalizing lineNo found out with
  | nil =>
      rw [termPipeGrepLoop, termPipeGrepLoop]
      split
      · exact termTextAppend_take out _
      · rfl
  | cons line lines ih =>
      rw [termPipeGrepLoop, termPipeGrepLoop]
      dsimp only
      split
      · cases o.showNumbers <;> simp [termTextAppend_take, ih]
      · exact ih ..

theorem termPipeHeadLoop_bounded (maxLines : Int) (lines : List (List UInt8)) (count : Int)
    (out : List UInt8) :
    termPipeHeadLoop (termTextAppend size) maxLines lines count (out.take (size - 1)) =
      (termPipeHeadLoop (· ++ ·) maxLines lines count out).take (size - 1) := by
  induction lines generalizing count out with
  | nil => rfl
  | cons line lines ih =>
      rw [termPipeHeadLoop, termPipeHeadLoop]
      split
      · dsimp only
        split <;> simp only [termTextAppend_take, ih]
      · rfl

theorem PipeStage.text_bounded (stage : PipeStage) (input : List UInt8) :
    stage.text (termTextAppend size) input = (stage.text (· ++ ·) input).take (size - 1) := by
  cases stage with
  | grep o pattern =>
      have h := @termPipeGrepLoop_bounded size pattern o (textLines input) 1 0 []
      rwa [List.take_nil] at h
  | head lines =>
      have h := @termPipeHeadLoop_bounded size lines (textLines input) 0 []
      rwa [List.take_nil] at h
  | tail lines => exact termTextAppend_nil _
  | wc => exact termTextAppend_nil _
  | pager => exact termTextAppend_nil _
  | cat => exact termTextAppend_nil _
  | tee append path => exact termTextAppend_nil _

end Orizon
