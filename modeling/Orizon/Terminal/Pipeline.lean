import Mathlib.Data.List.TakeWhile
import Orizon.Terminal.Stages

/-!
# Orizon.Terminal.Pipeline

Pipelines and redirects of `gui/terminal.c`: a command's output is captured in a buffer, the
stages change it, and a redirect writes it to a file.

The capture drops what does not fit and says so to the pager alone; a redirect truncates its
target before it writes.  When a redirect is faithful is `termRedirect_faithful`.
-/

namespace Orizon

/-! ## Paths -/

/-- The loop of `path_pop_component`. -/
def pathPopLoop (path : CStr) : Nat → Nat
  | 0 => 0
  | len + 1 => if len + 1 > 1 ∧ path[len]? ≠ some slash then pathPopLoop path len else len + 1

/-- `path_pop_component`. -/
def pathPopComponent (path : CStr) : CStr :=
  if path.length ≤ 1 ∨ pathPopLoop path path.length ≤ 1 then [slash]
  else path.take (pathPopLoop path path.length - 1)

/-- `path_append_component`. -/
def pathAppendComponent (path : CStr) (size : Nat) (component : CStr) : Option CStr :=
  if component = [] ∨ component = cstr "." then some path
  else if component = cstr ".." then some (pathPopComponent path)
  else if path.length > 1 ∧ path.length + 1 ≥ size then none
  else
    let path := if path.length > 1 then path ++ [slash] else path
    if path.length + component.length ≥ size then none else some (path ++ component)

/-- The components of `resolve_path`. -/
def resolveComponents (size : Nat) : CStr → List CStr → Option CStr
  | out, [] => some out
  | out, component :: components =>
      match pathAppendComponent out size component with
      | none => none
      | some out => resolveComponents size out components

/-- `' '`. -/
def isSpace (c : CChar) : Bool := c.val = 0x20

/-- `resolve_path`. -/
def resolvePath (cwd input : CStr) (size : Nat) : Option CStr :=
  let input := ((termSkipSpaces input).reverse.dropWhile isSpace).reverse
  if size < 2 ∨ input.length = 0 ∨ input.length ≥ maxPath then none
  else
    let raw :=
      if input.head? = some slash then strCpy maxPath input
      else if cwd ≠ [] ∧ cwd ≠ [slash] then strCpy maxPath (cwd ++ slash :: input)
      else strCpy maxPath (slash :: input)
    resolveComponents size [slash] (raw.val.splitOn slash)

/-! ## The capture -/

/-- `TERM_PIPE_MAX`. -/
def termPipeMax : Nat := 32768

/-- The `term_capture_` variables; `buf` holds `term_capture_used` bytes. -/
structure TermCapture where
  buf : List UInt8
  truncated : Bool
  esc : Bool

/-- `term_capture_append_char` to a buffer of `cap` bytes. -/
def termCaptureAppendChar (cap : Nat) (t : TermCapture) (c : UInt8) : TermCapture :=
  if t.esc then if termEndsEscape c then { t with esc := false } else t
  else if c = 0x1b then { t with esc := true }
  else if t.buf.length + 1 < cap then { t with buf := t.buf ++ [c] }
  else { t with truncated := true }

/-- The buffer after `term_capture_begin`, the output of a command and `term_capture_end`. -/
def termCapture (output : List UInt8) : TermCapture :=
  output.foldl (termCaptureAppendChar (termPipeMax + 1)) ⟨[], false, false⟩

/-- The string in a buffer. -/
def bufString (buf : List UInt8) : List UInt8 := buf.takeWhile (· ≠ 0)

/-- A text without its escape sequences: `ESC` up to a letter or `~`. -/
def withoutEscapes : (inEscape : Bool) → List UInt8 → List UInt8
  | _, [] => []
  | true, c :: cs => withoutEscapes (!termEndsEscape c) cs
  | false, c :: cs => if c = 0x1b then withoutEscapes true cs else c :: withoutEscapes false cs

/-! ## The shell -/

section Shell

variable {H : Type} [Allocator H]

/-- What a command works on. -/
structure TermShell (H : Type) where
  vfs : Vfs H
  cwd : CStr

/-- What `term_write_redirect_output` reports. -/
inductive RedirectReply
  | invalidPath
  | cannotOpen
  | writeFailed
  | wrote
  deriving DecidableEq

/-- What is printed; behind a success stands the path. -/
def RedirectReply.text (append : Bool) : RedirectReply → String
  | .invalidPath => "redirect: invalid path\n"
  | .cannotOpen => "redirect: cannot open target\n"
  | .writeFailed => "redirect: write failed\n"
  | .wrote => if append then "redirect: appended " else "redirect: wrote "

/-- The flags of a redirect. -/
def redirectFlags (append : Bool) : Nat := oCreat ||| oWronly ||| if append then oAppend else oTrunc

/-- `term_write_redirect_output`. -/
def termWriteRedirectOutput (s : TermShell H) (pathArg : CStr) (text : List UInt8) (append : Bool) :
    RedirectReply × TermShell H :=
  match resolvePath s.cwd pathArg maxPath with
  | none => (.invalidPath, s)
  | some path =>
      match vfsPut s.vfs path (redirectFlags append) text with
      | (.notOpened, vfs) => (.cannotOpen, { s with vfs })
      | (.notWritten, vfs) => (.writeFailed, { s with vfs })
      | (.done, vfs) => (.wrote, { s with vfs })

/-- How a line ends. -/
inductive PipelineReply
  | empty
  | usageRedirect
  | interactive (piped : Bool)
  | missingCommand
  | ran (output : List UInt8)
  | refused (e : PipeStageError)
  | teeFailed (r : RedirectReply)
  | pager (text : List UInt8) (truncated : Bool)
  | shown (text : List UInt8)
  | redirected (r : RedirectReply)

/-- An error is reported. -/
def PipelineReply.isError : PipelineReply → Bool
  | .usageRedirect | .interactive _ | .missingCommand | .refused _ | .teeFailed _ => true
  | .redirected r => r ≠ .wrote
  | .empty | .ran _ | .pager _ _ | .shown _ => false

/-- What is printed for the errors that are found before the stages. -/
def PipelineReply.text : PipelineReply → Option String
  | .usageRedirect => some "usage: <command> > <file> | <command> >> <file>\n"
  | .interactive false => some "shell: this interactive command cannot be piped or redirected\n"
  | .interactive true => some "shell: this interactive command cannot be piped\n"
  | .missingCommand => some "pipe: missing command before '|'\n"
  | _ => none

/-- `term_apply_pipe_stage`: the next text, or how the line ends. -/
def termApplyPipeStage (s : TermShell H) (truncated : Bool) (stage : CStr) (input : List UInt8) :
    Except PipelineReply (List UInt8) × TermShell H :=
  match termPipeStage stage with
  | .error e => (.error (.refused e), s)
  | .ok .pager => (.error (.pager input truncated), s)
  | .ok (.tee append path) =>
      match termWriteRedirectOutput s path input append with
      | (.wrote, s) => (.ok ((PipeStage.tee append path).text (termTextAppend (termPipeMax + 1)) input), s)
      | (r, s) => (.error (.teeFailed r), s)
  | .ok stage => (.ok (stage.text (termTextAppend (termPipeMax + 1)) input), s)

/-- The loop over the stages. -/
def termPipeLoop (s : TermShell H) (truncated : Bool) (current : List UInt8) :
    List CStr → Except PipelineReply (List UInt8) × TermShell H
  | [] => (.ok current, s)
  | stage :: stages =>
      match termApplyPipeStage s truncated stage current with
      | (.error r, s) => (.error r, s)
      | (.ok next, s) => termPipeLoop s truncated next stages

/-- The stages of what stands behind the first `'|'`; one that ends the line is none. -/
def termStages (rest : CStr) : List CStr :=
  let stages := rest.splitOn (cchar '|')
  if stages.getLast? = some [] then stages.dropLast else stages

/-- `term_extract_redirect`: the command, and the target and whether to append. -/
def termExtractRedirect (cmd : CStr) : Except Unit (CStr × Option (CStr × Bool)) :=
  let rest := cmd.dropWhile (· ≠ cchar '>')
  if rest = [] then .ok (cmd, none)
  else
    let append : Bool := rest[1]? = some (cchar '>')
    let arg := termTrimMut (rest.drop (if append then 2 else 1))
    let path := arg.takeWhile (!isBlank ·)
    if path.length = 0 ∨ path.length ≥ maxPath ∨ termTrimMut (arg.drop path.length) ≠ [] then .error ()
    else .ok (cmd.takeWhile (· ≠ cchar '>'), some (path, append))

/-- `term_command_is_interactive`. -/
def termCommandIsInteractive (cmd : CStr) : Bool :=
  ["less", "more", "edit", "install", "reboot", "restart", "shutdown", "poweroff", "clear"].any (termCommandIs cmd ·)

/-- The end of `term_execute_pipeline_or_redirect` behind the loop. -/
def termPipeEnd (r : Except PipelineReply (List UInt8) × TermShell H) (redirect : Option (CStr × Bool)) :
    PipelineReply × TermShell H :=
  match r, redirect with
  | (.error r, s), _ => (r, s)
  | (.ok text, s), none => (.shown text, s)
  | (.ok text, s), some (path, append) =>
      let (r, s) := termWriteRedirectOutput s path text append
      (.redirected r, s)

variable (exec : TermShell H → CStr → List UInt8 × TermShell H)

/-- The part of `term_execute_pipeline_or_redirect` from `term_capture_begin` on. -/
def termCaptured (s : TermShell H) (cmd : CStr) (stages : List CStr) (redirect : Option (CStr × Bool)) :
    PipelineReply × TermShell H :=
  let (output, s) := exec s cmd
  let capture := termCapture output
  termPipeEnd (termPipeLoop s capture.truncated (bufString capture.buf) stages) redirect

/-- `term_execute_pipeline_or_redirect`; `exec` is `term_execute_single`. -/
def termExecutePipelineOrRedirect (s : TermShell H) (line : CStr) : PipelineReply × TermShell H :=
  let cmd := termTrimMut line
  if cmd = [] then (.empty, s)
  else
    match termExtractRedirect cmd with
    | .error _ => (.usageRedirect, s)
    | .ok (cmd, redirect) =>
        let cmd := termTrimMut cmd
        let rest := cmd.dropWhile (· ≠ cchar '|')
        if rest = [] ∧ redirect = none then
          let (output, s) := exec s cmd
          (.ran output, s)
        else if termCommandIsInteractive cmd then (.interactive false, s)
        else if rest = [] then termCaptured exec s cmd [] redirect
        else
          let cmd := termTrimMut (cmd.takeWhile (· ≠ cchar '|'))
          if cmd = [] then (.missingCommand, s)
          else if termCommandIsInteractive cmd then (.interactive true, s)
          else termCaptured exec s cmd (termStages rest.tail) redirect

end Shell

/-! ## What is captured -/

/-- A character of the output is kept if it is in no escape sequence and there is room. -/
theorem termCaptureAppendChar_false {cap : Nat} {t : TermCapture} {kept : List UInt8} (hesc : t.esc = false)
    (hbuf : t.buf = kept.take (cap - 1)) {c : UInt8} (hc : c ≠ 0x1b) :
    (termCaptureAppendChar cap t c).esc = false ∧
      (termCaptureAppendChar cap t c).buf = (kept ++ [c]).take (cap - 1) := by
  have hlen : t.buf.length = min (cap - 1) kept.length := by rw [hbuf, List.length_take]
  unfold termCaptureAppendChar
  rw [if_neg (by simp [hesc]), if_neg hc, List.take_append, ← hbuf]
  by_cases hroom : t.buf.length + 1 < cap
  · have hone : [c].take (cap - 1 - kept.length) = [c] := List.take_of_length_le (by
      rw [List.length_singleton]
      omega)
    rw [if_pos hroom, hone]
    exact ⟨hesc, rfl⟩
  · have hnone : [c].take (cap - 1 - kept.length) = [] := by
      rw [show cap - 1 - kept.length = 0 by omega, List.take_zero]
    rw [if_neg hroom, hnone, List.append_nil]
    exact ⟨hesc, rfl⟩

theorem foldl_termCapture {cap : Nat} (output : List UInt8) (t : TermCapture) {kept : List UInt8}
    (hbuf : t.buf = kept.take (cap - 1)) :
    (output.foldl (termCaptureAppendChar cap) t).buf = (kept ++ withoutEscapes t.esc output).take
    (cap - 1) := by
  induction output generalizing t kept with
  | nil => simp [withoutEscapes, hbuf]
  | cons c cs ih =>
      rw [List.foldl_cons]
      cases hesc : t.esc with
      | true =>
          have hstep : (termCaptureAppendChar cap t c).buf = t.buf ∧
              (termCaptureAppendChar cap t c).esc = !termEndsEscape c := by
            cases hend : termEndsEscape c <;> simp [termCaptureAppendChar, hesc, hend]
          rw [ih _ (hstep.1.trans hbuf), hstep.2, withoutEscapes]
      | false =>
          by_cases hc : c = 0x1b
          · have hstep : termCaptureAppendChar cap t c = { t with esc := true } := by
              simp [termCaptureAppendChar, hesc, hc]
            rw [hstep, @ih { t with esc := true } kept hbuf, withoutEscapes, if_pos hc]
          · obtain ⟨hnext, hkept⟩ := termCaptureAppendChar_false hesc hbuf hc
            rw [ih _ hkept, hnext, withoutEscapes, if_neg hc, List.append_assoc, List.singleton_append]

/-- The buffer has the output without its escape sequences, cut at its size. -/
theorem buf_termCapture (output : List UInt8) :
    (termCapture output).buf = (withoutEscapes false output).take termPipeMax :=
  @foldl_termCapture (termPipeMax + 1) output ⟨[], false, false⟩ [] rfl

/-! ## What a redirect should do -/

/-- The composition of the stages; `none` if one is refused or opens the pager. -/
def pipelineText : List CStr → List UInt8 → Option (List UInt8)
  | [], text => some text
  | stage :: stages, text =>
      match termPipeStage stage with
      | .error _ | .ok .pager => none
      | .ok stage => pipelineText stages (stage.text (· ++ ·) text)

section Redirect

variable {H : Type} [Allocator H]

/-- The state in which the last step begins: the stage that ends the line, or the redirect. -/
def termPipeBefore (s : TermShell H) (truncated : Bool) (current : List UInt8) : List CStr → TermShell H
  | [] => s
  | stage :: stages =>
      match termApplyPipeStage s truncated stage current with
      | (.error _, _) => s
      | (.ok next, s) => termPipeBefore s truncated next stages

/-- What is asked of a redirect to `path` of a command with the output `output`: an error is
reported and the file is as before the step that failed, or the file holds the composition
of the stages, behind what it held if it is appended to. -/
structure RedirectFaithful (path : CStr) (append : Bool) (output : List UInt8) (stages : List CStr)
    (before : TermShell H) (r : PipelineReply × TermShell H) : Prop where
  kept : r.1.isError = true → fileAt r.2.vfs path = fileAt before.vfs path
  written : r.1.isError = false → ∃ text, pipelineText stages output = some text ∧
    fileAt r.2.vfs path = some ((if append then (fileAt before.vfs path).getD [] else []) ++ text)

/-- A write of `text` to `arg` cannot be opened, or is complete and `next` holds, or has no
memory and leaves the file at `path` as it is. -/
def WriteFits (s : TermShell H) (path arg : CStr) (append : Bool) (text : List UInt8) (next : Prop) : Prop :=
  match resolvePath s.cwd arg maxPath with
  | none => True
  | some p =>
      if (vfsOpen s.vfs p (redirectFlags append)).1 = none then True
      else if text = [] ∨ putHasRoom s.vfs p (redirectFlags append) text.length = true then next
      else p = path → fileAt s.vfs path = some (putBase s.vfs path (redirectFlags append))

/-- No stage opens the pager, every text fits the buffer if it is written in the end, and no
write that fails changes the file at `path`. -/
def RedirectFits (path arg : CStr) (append : Bool) : Prop → TermShell H → List UInt8 → List CStr → Prop
  | intact, s, text, [] => WriteFits s path arg append text intact
  | intact, s, text, stage :: stages =>
      match termPipeStage stage with
      | .error _ => True
      | .ok .pager => False
      | .ok (.tee app p) =>
          WriteFits s path p app text
            (RedirectFits path arg append intact (termWriteRedirectOutput s p text app).2 text stages)
      | .ok stage =>
          RedirectFits path arg append (intact ∧ (stage.text (· ++ ·) text).length ≤ termPipeMax) s
            ((stage.text (· ++ ·) text).take termPipeMax) stages

/-! ### Writing -/

variable {s : TermShell H} {path arg : CStr} {append : Bool} {text : List UInt8} {room : Nat}

theorem length_pathAppendComponent {size : Nat} {out component p : CStr} (hsize : 2 ≤ size)
    (hout : out.length < size)
    (h : pathAppendComponent out size component = some p) : p.length < size := by
  unfold pathAppendComponent at h
  split at h
  · obtain rfl := Option.some.inj h
    exact hout
  · split at h
    · obtain rfl := Option.some.inj h
      unfold pathPopComponent
      split
      · exact hsize
      · rw [List.length_take]
        omega
    · split at h
      · cases h
      · dsimp only at h
        generalize (if out.length > 1 then out ++ [slash] else out) = out' at h
        by_cases hfit : out'.length + component.length ≥ size
        · rw [if_pos hfit] at h
          cases h
        · rw [if_neg hfit] at h
          obtain rfl := Option.some.inj h
          rw [List.length_append]
          omega

theorem length_resolveComponents {size : Nat} (hsize : 2 ≤ size) (components : List CStr) {out p : CStr}
    (hout : out.length < size) (h : resolveComponents size out components = some p) : p.length < size := by
  induction components generalizing out with
  | nil =>
      obtain rfl := Option.some.inj h
      exact hout
  | cons component components ih =>
      rw [resolveComponents] at h
      cases hnext : pathAppendComponent out size component with
      | none => simp [hnext] at h
      | some next =>
          rw [hnext] at h
          exact ih (length_pathAppendComponent hsize hout hnext) h

theorem length_resolvePath {cwd input p : CStr} (h : resolvePath cwd input maxPath = some p) :
    p.length < maxPath := by
  unfold resolvePath at h
  dsimp only at h
  split at h
  · cases h
  · exact length_resolveComponents (by decide) _ (by decide) h

omit [Allocator H] in
theorem startsAtEnd_redirect (hs : s.vfs.Holds room) (p : CStr) :
    StartsAtEnd s.vfs p (redirectFlags append) := by
  cases append with
  | false => exact .inl (by decide)
  | true => exact .inr ⟨by decide, fun idx hidx => (hs.entries idx (findInode_some hidx).1).stored⟩

omit [Allocator H] in
theorem putBase_redirect (v : Vfs H) (p : CStr) :
    putBase v p (redirectFlags append) = if append then (fileAt v p).getD [] else [] := by
  cases append with
  | false => exact if_pos (by decide)
  | true => exact if_neg (by decide)

omit [Allocator H] in
theorem length_putBase (hs : s.vfs.Holds (text.length + room)) (p : CStr) :
    (putBase s.vfs p (redirectFlags append)).length + text.length < 2 ^ 64 := by
  have hsmall := hs.small
  have hold : ((fileAt s.vfs p).getD []).length + text.length < 2 ^ 64 := by
    unfold fileAt
    cases hidx : findInode s.vfs p with
    | none => simp; omega
    | some idx =>
        have hentry := hs.entries idx (findInode_some hidx).1
        have hentrySmall := hentry.small
        dsimp only
        split
        · rw [Option.getD_some, length_contents hentry.stored]
          omega
        · simp
          omega
  rw [putBase_redirect]
  split
  · exact hold
  · simp
    omega

theorem termWrite_put (hs : s.vfs.Holds (text.length + room)) {p : CStr}
    (hp : resolvePath s.cwd arg maxPath = some p) :
    PutResult s.vfs p (redirectFlags append) text (vfsPut s.vfs p (redirectFlags append) text) ∧
      (vfsPut s.vfs p (redirectFlags append) text).2.Holds room ∧
      ∀ next, WriteFits s path arg append text next ↔
        match (vfsPut s.vfs p (redirectFlags append) text).1 with
        | .notOpened => True
        | .notWritten => p = path → fileAt s.vfs path = some (putBase s.vfs path (redirectFlags append))
        | .done => next := by
  have hlen := length_resolvePath hp
  have hend := @startsAtEnd_redirect H s append _ hs p
  refine ⟨fileAt_vfsPut hs.mounted hlen hend (length_putBase hs p), holds_vfsPut hs hlen hend, fun next => ?_⟩
  rw [vfsPut_outcome hs.mounted hlen hend (length_putBase hs p), WriteFits, hp]
  dsimp only
  split
  · rfl
  · split <;> rfl

/-- A write that is reported as failed fits exactly if the file at `path` stays. -/
theorem termWrite_failed (hs : s.vfs.Holds (text.length + room)) (next : Prop)
    (hfail : (termWriteRedirectOutput s arg text append).1 ≠ .wrote) :
    WriteFits s path arg append text next ↔
      fileAt (termWriteRedirectOutput s arg text append).2.vfs path = fileAt s.vfs path := by
  cases hp : resolvePath s.cwd arg maxPath with
  | none => simp [termWriteRedirectOutput, WriteFits, hp]
  | some p =>
      obtain ⟨hput, -, hfits⟩ := @termWrite_put H _ s path arg append text room hs p hp
      rw [hfits next]
      unfold termWriteRedirectOutput at hfail ⊢
      rw [hp] at hfail ⊢
      dsimp only at hfail ⊢
      generalize vfsPut s.vfs p (redirectFlags append) text = r at hput hfail ⊢
      obtain ⟨outcome, w⟩ := r
      cases outcome with
      | notOpened =>
          by_cases hpath : path = p
          · simpa [hpath] using hput.notOpened rfl
          · simpa using hput.other path hpath
      | notWritten =>
          by_cases hpath : path = p
          · subst hpath
            have hhere := hput.notWritten rfl
            dsimp only at hhere ⊢
            rw [hhere]
            exact ⟨fun h => (h rfl).symm, fun h _ => h.symm⟩
          · simpa [Ne.symm hpath] using hput.other path hpath
      | done => exact absurd rfl hfail

theorem termWrite_wrote (hs : s.vfs.Holds (text.length + room))
    (hdone : (termWriteRedirectOutput s arg text append).1 = .wrote) :
    (∀ next, WriteFits s path arg append text next ↔ next) ∧
      (termWriteRedirectOutput s arg text append).2.cwd = s.cwd ∧
      (termWriteRedirectOutput s arg text append).2.vfs.Holds room ∧
      ∃ p, resolvePath s.cwd arg maxPath = some p ∧
        fileAt (termWriteRedirectOutput s arg text append).2.vfs p =
          some ((if append then (fileAt s.vfs p).getD [] else []) ++ text) := by
  unfold termWriteRedirectOutput at hdone ⊢
  cases hp : resolvePath s.cwd arg maxPath with
  | none => simp [hp] at hdone
  | some p =>
      obtain ⟨hput, hholds, hfits⟩ := @termWrite_put H _ s path arg append text room hs p hp
      rw [hp] at hdone
      dsimp only at hdone ⊢
      generalize vfsPut s.vfs p (redirectFlags append) text = r at hput hholds hfits hdone ⊢
      obtain ⟨outcome, w⟩ := r
      cases outcome with
      | notOpened => cases hdone
      | notWritten => cases hdone
      | done =>
          refine ⟨hfits, rfl, hholds, p, rfl, ?_⟩
          rw [← putBase_redirect]
          exact hput.done rfl

/-! ### Stages -/

theorem termPipeEnd_ok (s : TermShell H) (text : List UInt8) (arg : CStr) (append : Bool) :
    termPipeEnd (.ok text, s) (some (arg, append)) =
      (.redirected (termWriteRedirectOutput s arg text append).1,
        (termWriteRedirectOutput s arg text append).2) := rfl

theorem termPipe_faithful {output : List UInt8} {truncated : Bool} {intact : Prop} (stages : List CStr)
    (hs : s.vfs.Holds ((stages.length + 1) * termPipeMax)) (hlen : text.length ≤ termPipeMax)
    (hpath : ∀ p, resolvePath s.cwd arg maxPath = some p → p = path) (hintact : intact → text = output)
    (hfits : RedirectFits path arg append intact s text stages) :
    RedirectFaithful path append output stages (termPipeBefore s truncated text stages)
      (termPipeEnd (termPipeLoop s truncated text stages) (some (arg, append))) := by
  induction stages generalizing s text output intact with
  | nil =>
      have hs' : s.vfs.Holds (text.length + 0) := hs.mono (by simpa using hlen)
      rw [termPipeLoop, termPipeBefore, termPipeEnd_ok]
      by_cases hdone : (termWriteRedirectOutput s arg text append).1 = .wrote
      · obtain ⟨hnext, -, -, p, hp, hfile⟩ := @termWrite_wrote H _ s path arg append text 0 hs' hdone
        obtain rfl := hpath p hp
        refine ⟨fun herror => ?_, fun _ => ⟨output, rfl, ?_⟩⟩
        · simp [PipelineReply.isError, hdone] at herror
        · rw [← hintact ((hnext intact).mp hfits)]
          exact hfile
      · refine ⟨fun _ => ?_, fun hok => ?_⟩
        · exact (termWrite_failed hs' intact hdone).mp hfits
        · simp [PipelineReply.isError, hdone] at hok
  | cons stage stages ih =>
      have hroom : termPipeMax + (stages.length + 1) * termPipeMax =
          ((stage :: stages).length + 1) * termPipeMax := by
        rw [List.length_cons, Nat.succ_mul (stages.length + 1), Nat.add_comm]
      have hs' : s.vfs.Holds (text.length + (stages.length + 1) * termPipeMax) := hs.mono (by omega)
      rw [RedirectFits] at hfits
      have hplain : ∀ st, termPipeStage stage = .ok st → st ≠ .pager → (∀ app p, st ≠ .tee app p) →
          RedirectFits path arg append (intact ∧ (st.text (· ++ ·) text).length ≤ termPipeMax) s
            ((st.text (· ++ ·) text).take termPipeMax) stages →
          RedirectFaithful path append output (stage :: stages) (termPipeBefore s truncated text (stage :: stages))
            (termPipeEnd (termPipeLoop s truncated text (stage :: stages)) (some (arg, append))) := by
        intro st hstage hpager htee hrest
        have happly : termApplyPipeStage s truncated stage text =
            (.ok ((st.text (· ++ ·) text).take termPipeMax), s) := by
          have hcut := @PipeStage.text_bounded (termPipeMax + 1) st text
          rw [termApplyPipeStage, hstage, ← show termPipeMax + 1 - 1 = termPipeMax from rfl, ← hcut]
          cases st <;> first | rfl | exact absurd rfl hpager | exact absurd rfl (htee _ _)
        have htext : pipelineText (stage :: stages) output =
            pipelineText stages (st.text (· ++ ·) output) := by
          rw [pipelineText, hstage]
          cases st <;> first | rfl | exact absurd rfl hpager
        have hnext := @ih s _ (st.text (· ++ ·) output) _ (hs.mono (by omega)) (List.length_take_le ..) hpath
          (fun h => by rw [List.take_of_length_le h.2, hintact h.1]) hrest
        rw [termPipeLoop, termPipeBefore, happly]
        exact ⟨hnext.kept, fun hok => by rw [htext]; exact hnext.written hok⟩
      rw [show (stage :: stages).length + 1 = (stages.length + 1) + 1 from rfl] at hroom
      cases hstage : termPipeStage stage with
      | error e =>
          have happly : termApplyPipeStage s truncated stage text = (.error (.refused e), s) := by
            rw [termApplyPipeStage, hstage]
          rw [termPipeLoop, termPipeBefore, happly]
          exact ⟨fun _ => rfl, nofun⟩
      | ok st =>
          rw [hstage] at hfits
          cases st with
          | pager => exact hfits.elim
          | grep o pattern => exact hplain _ hstage nofun nofun hfits
          | head lines => exact hplain _ hstage nofun nofun hfits
          | tail lines => exact hplain _ hstage nofun nofun hfits
          | cat => exact hplain _ hstage nofun nofun hfits
          | wc => exact hplain _ hstage nofun nofun hfits
          | tee app p =>
              dsimp only at hfits
              by_cases hdone : (termWriteRedirectOutput s p text app).1 = .wrote
              · obtain ⟨hwrite, hcwd, hholds, -⟩ := @termWrite_wrote H _ s path p app text _ hs' hdone
                have happly : termApplyPipeStage s truncated stage text =
                    (.ok text, (termWriteRedirectOutput s p text app).2) := by
                  have hcut : (PipeStage.tee app p).text (termTextAppend (termPipeMax + 1)) text = text := by
                    rw [PipeStage.text_bounded]
                    exact List.take_of_length_le hlen
                  rw [termApplyPipeStage, hstage]
                  dsimp only
                  rw [hcut]
                  generalize termWriteRedirectOutput s p text app = r at hdone
                  obtain ⟨reply, w⟩ := r
                  obtain rfl : reply = .wrote := hdone
                  rfl
                have htext : pipelineText (stage :: stages) output = pipelineText stages output := by
                  rw [pipelineText, hstage]
                  rfl
                have hnext := ih hholds hlen (by rw [hcwd]; exact hpath) hintact ((hwrite _).mp hfits)
                rw [termPipeLoop, termPipeBefore, happly]
                exact ⟨hnext.kept, fun hok => by rw [htext]; exact hnext.written hok⟩
              · have happly : termApplyPipeStage s truncated stage text =
                    (.error (.teeFailed (termWriteRedirectOutput s p text app).1),
                      (termWriteRedirectOutput s p text app).2) := by
                  rw [termApplyPipeStage, hstage]
                  dsimp only
                  generalize termWriteRedirectOutput s p text app = r at hdone
                  obtain ⟨reply, w⟩ := r
                  cases reply <;> first | rfl | exact absurd rfl hdone
                rw [termPipeLoop, termPipeBefore, happly]
                exact ⟨fun _ => (termWrite_failed hs' _ hdone).mp hfits, nofun⟩

theorem termPipe_fits {output : List UInt8} (truncated : Bool) (hs : s.vfs.Holds termPipeMax)
    (hlen : text.length ≤ termPipeMax) (hpath : ∀ p, resolvePath s.cwd arg maxPath = some p → p = path)
    (h : RedirectFaithful path append output [] s
      (termPipeEnd (termPipeLoop s truncated text []) (some (arg, append)))) :
    RedirectFits path arg append (text = output) s text [] := by
  have hs' : s.vfs.Holds (text.length + 0) := hs.mono (by simpa using hlen)
  rw [termPipeLoop, termPipeEnd_ok] at h
  by_cases hdone : (termWriteRedirectOutput s arg text append).1 = .wrote
  · obtain ⟨hnext, -, -, p, hp, hfile⟩ := @termWrite_wrote H _ s path arg append text 0 hs' hdone
    obtain rfl := hpath p hp
    refine (hnext _).mpr ?_
    obtain ⟨ideal, hideal, hwritten⟩ := h.written (by simp [PipelineReply.isError, hdone])
    obtain rfl : output = ideal := Option.some.inj hideal
    exact List.append_cancel_left (Option.some.inj (hfile.symm.trans hwritten))
  · exact (termWrite_failed hs' _ hdone).mpr (h.kept (by simp [PipelineReply.isError, hdone]))

/-! ## Lines -/

/-- The command of what stands before the `'>'`. -/
def lineCommand (cmd : CStr) : CStr :=
  let cmd := termTrimMut cmd
  if cmd.dropWhile (· ≠ cchar '|') = [] then cmd else termTrimMut (cmd.takeWhile (· ≠ cchar '|'))

/-- Its stages. -/
def lineStages (cmd : CStr) : List CStr :=
  let rest := (termTrimMut cmd).dropWhile (· ≠ cchar '|')
  if rest = [] then [] else termStages rest.tail

/-- Why it is not run. -/
def lineRefusal (cmd : CStr) : Option PipelineReply :=
  let cmd' := termTrimMut cmd
  if termCommandIsInteractive cmd' then some (.interactive false)
  else if cmd'.dropWhile (· ≠ cchar '|') = [] then none
  else if lineCommand cmd = [] then some .missingCommand
  else if termCommandIsInteractive (lineCommand cmd) then some (.interactive true)
  else none

variable (exec : TermShell H → CStr → List UInt8 × TermShell H)

/-- The state in which the last step of a line begins. -/
def lineBefore (s : TermShell H) (cmd : CStr) : TermShell H :=
  match lineRefusal cmd with
  | some _ => s
  | none =>
      let capture := termCapture (exec s (lineCommand cmd)).1
      termPipeBefore (exec s (lineCommand cmd)).2 capture.truncated (bufString capture.buf) (lineStages cmd)

/-- A line with a redirect runs its command and stages, or is refused. -/
theorem termExecute_redirect {line cmd : CStr} (s : TermShell H)
    (hextract : termExtractRedirect (termTrimMut line) = .ok (cmd, some (arg, append))) :
    termExecutePipelineOrRedirect exec s line =
      match lineRefusal cmd with
      | some r => (r, s)
      | none => termCaptured exec s (lineCommand cmd) (lineStages cmd) (some (arg, append)) := by
  have hne : termTrimMut line ≠ [] := by
    intro hnil
    rw [hnil] at hextract
    cases hextract
  unfold termExecutePipelineOrRedirect lineRefusal lineCommand lineStages
  dsimp only
  rw [if_neg hne, hextract]
  dsimp only
  rw [if_neg (by simp)]
  split
  · rfl
  · split
    · rfl
    · split
      · rfl
      · split <;> rfl

/-- The output fits the buffer, and is a string. -/
def OutputFits (output : List UInt8) : Prop :=
  (withoutEscapes false output).length ≤ termPipeMax ∧ 0 ∉ withoutEscapes false output

/-- What a redirect needs: its line is refused, or the output and what follows fit. -/
def LineFits (s : TermShell H) (path cmd arg : CStr) (append : Bool) : Prop :=
  (lineRefusal cmd).isSome = true ∨
    RedirectFits path arg append (OutputFits (exec s (lineCommand cmd)).1) (exec s (lineCommand cmd)).2
      (bufString (termCapture (exec s (lineCommand cmd)).1).buf) (lineStages cmd)

theorem captured_iff (output : List UInt8) :
    bufString (termCapture output).buf = withoutEscapes false output ↔ OutputFits output := by
  rw [buf_termCapture, OutputFits, bufString]
  generalize withoutEscapes false output = text
  constructor
  · intro h
    have hlen : text.length ≤ termPipeMax := by
      have hpre := (List.takeWhile_prefix (· ≠ (0 : UInt8)) (l := text.take termPipeMax)).length_le
      rw [h] at hpre
      exact hpre.trans (List.length_take_le ..)
    rw [List.take_of_length_le hlen, List.takeWhile_eq_self_iff] at h
    exact ⟨hlen, fun hzero => by simpa using h 0 hzero⟩
  · rintro ⟨hlen, hzero⟩
    rw [List.take_of_length_le hlen, List.takeWhile_eq_self_iff]
    intro c hc
    have hne : c ≠ 0 := fun h => hzero (h ▸ hc)
    simpa using hne

theorem length_captured (output : List UInt8) :
    (bufString (termCapture output).buf).length ≤ termPipeMax := by
  refine (List.takeWhile_prefix _).length_le.trans ?_
  rw [buf_termCapture]
  exact List.length_take_le ..

omit [Allocator H] in
theorem isError_lineRefusal {cmd : CStr} {r : PipelineReply} (h : lineRefusal cmd = some r) :
    r.isError = true := by
  unfold lineRefusal at h
  dsimp only at h
  split at h
  · obtain rfl := Option.some.inj h
    rfl
  · split at h
    · cases h
    · split at h
      · obtain rfl := Option.some.inj h
        rfl
      · split at h
        · obtain rfl := Option.some.inj h
          rfl
        · cases h

section Line

variable {line cmd : CStr} (hextract : termExtractRedirect (termTrimMut line) = .ok (cmd, some (arg, append)))
  (hfs : (exec s (lineCommand cmd)).2.vfs.Holds (((lineStages cmd).length + 1) * termPipeMax))
  (hpath : ∀ p, resolvePath (exec s (lineCommand cmd)).2.cwd arg maxPath = some p → p = path)

include hextract hfs hpath

theorem faithful_of_lineFits (hfits : LineFits exec s path cmd arg append) :
    RedirectFaithful path append (withoutEscapes false (exec s (lineCommand cmd)).1) (lineStages cmd)
      (lineBefore exec s cmd) (termExecutePipelineOrRedirect exec s line) := by
  rw [termExecute_redirect exec s hextract]
  unfold LineFits at hfits
  unfold lineBefore
  cases hrefusal : lineRefusal cmd with
  | some r =>
      refine ⟨fun _ => rfl, fun hok => ?_⟩
      dsimp only at hok
      rw [isError_lineRefusal hrefusal] at hok
      cases hok
  | none =>
      refine termPipe_faithful (lineStages cmd) hfs (length_captured _) hpath (captured_iff _).mpr ?_
      exact hfits.resolve_left (by simp [hrefusal])

theorem lineFits_of_faithful (hstages : lineStages cmd = [])
    (h : RedirectFaithful path append (withoutEscapes false (exec s (lineCommand cmd)).1) (lineStages cmd)
      (lineBefore exec s cmd) (termExecutePipelineOrRedirect exec s line)) :
    LineFits exec s path cmd arg append := by
  rw [termExecute_redirect exec s hextract] at h
  unfold lineBefore at h
  unfold LineFits
  cases hrefusal : lineRefusal cmd with
  | some r => exact .inl rfl
  | none =>
      rw [hrefusal, hstages] at h
      rw [hstages] at hfs ⊢
      rw [← propext (captured_iff (exec s (lineCommand cmd)).1)]
      exact .inr (termPipe_fits (termCapture (exec s (lineCommand cmd)).1).truncated (hfs.mono (by simp))
        (length_captured _) hpath h)

end Line

end Redirect

/-! ## A short output and a long one -/

/-- The shell after boot. -/
def bootShell : TermShell KernelHeap := ⟨vfsInit (bootVfs KernelHeap.boot noDisk bootPersist), [slash]⟩

/-- A command that prints `count` letters. -/
def letters (count : Nat) (s : TermShell KernelHeap) (_ : CStr) : List UInt8 × TermShell KernelHeap :=
  (List.replicate count 0x79, s)

theorem withoutEscapes_letters (count : Nat) :
    withoutEscapes false (List.replicate count 0x79) = List.replicate count 0x79 := by
  induction count with
  | zero => rfl
  | succ count ih => simp [List.replicate_succ, withoutEscapes, ih]

theorem holds_bootShell : bootShell.vfs.Holds (2 ^ 32) := by
  refine ⟨by decide +kernel, by decide, fun i hi => ?_⟩
  have hcount : bootShell.vfs.inodeCount = 1 := by decide +kernel
  obtain rfl : i = 0 := by omega
  exact fits_empty (by decide) (by decide +kernel) (by decide +kernel)

theorem resolvePath_f : resolvePath bootShell.cwd (cstr "f") maxPath = some (cstr "/f") := by decide +kernel

end Orizon
