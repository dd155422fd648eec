import Orizon.Terminal.Grid
import Orizon.Vfs.ReadBack

/-!
# Orizon.Terminal.Editor

The line editor of `gui/terminal.c`: opening a file, the lines that are typed, saving.

Opening reads the first `TERM_EDIT_MAX - 1` bytes and does not say when there are more;
saving opens the file with `O_TRUNC` before it writes.  When the file keeps its bytes is
`termEditorSave_keeps_iff`.
-/

namespace Orizon

/-! ## The buffer -/

/-- `TERM_EDIT_MAX`. -/
def termEditMax : Nat := 2048

/-- The editor's part of a `terminal_t`: `edit_buf` up to `edit_len`. -/
structure TermEditor where
  editMode : Bool
  editPath : CStr
  editBuf : List UInt8

/-- `'\n'`. -/
def newline : UInt8 := 0x0a

/-- The loop of `term_editor_line_bounds` from `pos`, where line `current` starts.  A round
takes at least a byte, so the length of the buffer is fuel enough. -/
def termEditorLineBoundsLoop (buf : List UInt8) (lineNo : Int) : Nat → Nat → Int → Option (Nat × Nat)
  | 0, _, _ => none
  | fuel + 1, pos, current =>
      if pos < buf.length then
        let stop := pos + ((buf.drop pos).takeWhile (· ≠ newline)).length
        let stop := if stop < buf.length then stop + 1 else stop
        if current = lineNo then some (pos, stop) else termEditorLineBoundsLoop buf lineNo fuel stop (current + 1)
      else none

/-- `term_editor_line_bounds`. -/
def termEditorLineBounds (buf : List UInt8) (lineNo : Int) : Option (Nat × Nat) :=
  if lineNo ≤ 0 then none else termEditorLineBoundsLoop buf lineNo (buf.length + 1) 0 1

/-- `term_editor_insert_offset`. -/
def termEditorInsertOffset (buf : List UInt8) (lineNo : Int) : Nat :=
  if lineNo ≤ 1 then 0 else ((termEditorLineBounds buf lineNo).map Prod.fst).getD buf.length

/-- `term_editor_insert_at`. -/
def termEditorInsertAt (buf : List UInt8) (offset : Nat) (text : CStr) : Option (List UInt8) :=
  if offset > buf.length ∨ buf.length + text.length + 1 ≥ termEditMax then none
  else some (buf.take offset ++ text.map Subtype.val ++ newline :: buf.drop offset)

/-- `term_editor_delete_line`. -/
def termEditorDeleteLine (buf : List UInt8) (lineNo : Int) : Option (List UInt8) :=
  (termEditorLineBounds buf lineNo).map fun (start, stop) => buf.take start ++ buf.drop stop

/-- `term_editor_replace_line`. -/
def termEditorReplaceLine (buf : List UInt8) (lineNo : Int) (text : CStr) : Option (List UInt8) :=
  match termEditorLineBounds buf lineNo with
  | none => none
  | some (start, stop) =>
      if buf.length - (stop - start) + text.length + 1 ≥ termEditMax then none
      else termEditorInsertAt (buf.take start ++ buf.drop stop) start text

/-! ## Lines -/

/-- `term_skip_spaces`. -/
def termSkipSpaces (s : CStr) : CStr := s.dropWhile (·.val = 0x20)

/-- A digit. -/
def isDigit (c : CChar) : Bool := 0x30 ≤ c.val && c.val ≤ 0x39

/-- The value of leading digits, as an `int`. -/
def termDigits (s : CStr) : Int :=
  (s.takeWhile isDigit).foldl (fun value c => int32 (value * 10 + (c.val.toNat - 0x30))) 0

/-- `term_editor_parse_line_arg`: the number and what follows it. -/
def termEditorParseLineArg (s : CStr) : Option (Int × CStr) :=
  let s := termSkipSpaces s
  if termDigits s ≤ 0 then none else some (termDigits s, termSkipSpaces (s.dropWhile isDigit))

/-- What `term_editor_submit` answers. -/
inductive TermEditorReply
  | help
  | closed
  | cleared
  | shown
  | saveFailed
  | savedContinuing
  | saved
  | usageDel
  | deleted
  | usageInsert
  | inserted
  | usageReplace
  | replaced
  | unknownCommand
  | bufferFull
  | appended
  deriving DecidableEq

/-- The text of an answer; the others print the help, the buffer or nothing. -/
def TermEditorReply.text : TermEditorReply → Option String
  | .closed => some "Editor closed without saving.\n"
  | .cleared => some "Buffer cleared.\n"
  | .saveFailed => some "edit: save failed\n"
  | .savedContinuing => some "Saved. Continuing edit session.\n"
  | .saved => some "Saved: "
  | .usageDel => some "usage: .del N\n"
  | .deleted => some "Line deleted.\n"
  | .usageInsert => some "usage: .insert N text\n"
  | .inserted => some "Line inserted.\n"
  | .usageReplace => some "usage: .replace N text\n"
  | .replaced => some "Line replaced.\n"
  | .unknownCommand => some "edit: unknown command, use .help\n"
  | .bufferFull => some "edit: buffer full\n"
  | .help | .shown | .appended => none

/-- An edit that gives a new buffer or fails. -/
def TermEditor.edit (ed : TermEditor) (buf : Option (List UInt8)) (failed done : TermEditorReply) :
    TermEditorReply × TermEditor :=
  match buf with
  | none => (failed, ed)
  | some buf => (done, { ed with editBuf := buf })

/-- The lines of `term_editor_submit` behind those that are compared as a whole. -/
def termEditorEditLine (ed : TermEditor) (line : CStr) : TermEditorReply × TermEditor :=
  if cstr ".del " <+: line ∨ cstr ".delete " <+: line then
    let arg := if cstr ".delete " <+: line then line.drop 8 else line.drop 5
    ed.edit ((termEditorParseLineArg arg).bind fun a => termEditorDeleteLine ed.editBuf a.1) .usageDel .deleted
  else if cstr ".insert " <+: line then
    ed.edit ((termEditorParseLineArg (line.drop 8)).bind fun a =>
      if a.2 = [] then none
      else termEditorInsertAt ed.editBuf (termEditorInsertOffset ed.editBuf a.1) a.2) .usageInsert .inserted
  else if cstr ".replace " <+: line then
    ed.edit ((termEditorParseLineArg (line.drop 9)).bind fun a =>
      if a.2 = [] then none else termEditorReplaceLine ed.editBuf a.1 a.2) .usageReplace .replaced
  else if line.head? = some (cchar '.') then (.unknownCommand, ed)
  else ed.edit (termEditorInsertAt ed.editBuf ed.editBuf.length line) .bufferFull .appended

section Files

variable {H : Type} [Allocator H]

/-- `term_editor_save_buffer`. -/
def termEditorSaveBuffer (v : Vfs H) (ed : TermEditor) : Bool × Vfs H :=
  let r := vfsPut v ed.editPath (oCreat ||| oWronly ||| oTrunc) ed.editBuf
  (r.1 = .done, r.2)

/-- `term_editor_submit`. -/
def termEditorSubmit (v : Vfs H) (ed : TermEditor) (line : CStr) : TermEditorReply × TermEditor × Vfs H :=
  if line = cstr ".help" then (.help, ed, v)
  else if line = cstr ".q" then (.closed, { ed with editMode := false }, v)
  else if line = cstr ".clear" then (.cleared, { ed with editBuf := [] }, v)
  else if line = cstr ".show" then (.shown, ed, v)
  else if line = cstr ".write" then
    match termEditorSaveBuffer v ed with
    | (false, v) => (.saveFailed, ed, v)
    | (true, v) => (.savedContinuing, ed, v)
  else if line = cstr ".save" ∨ line = cstr ".wq" then
    match termEditorSaveBuffer v ed with
    | (false, v) => (.saveFailed, ed, v)
    | (true, v) => (.saved, { ed with editMode := false }, v)
  else
    let r := termEditorEditLine ed line
    (r.1, r.2, v)

/-! ## Opening -/

/-- The read loop of `term_start_editor`.  A round that goes on has read a byte, so the
size of the buffer is fuel enough. -/
def termEditorLoad (v : Vfs H) (fd : Nat) : Nat → List UInt8 → List UInt8 × Vfs H
  | 0, buf => (buf, v)
  | fuel + 1, buf =>
      if buf.length < termEditMax - 1 then
        match vfsRead v fd (termEditMax - 1 - buf.length) with
        | (.ok bytes, w) => if bytes.length > 0 then termEditorLoad w fd fuel (buf ++ bytes) else (buf, w)
        | (.error _, w) => (buf, w)
      else (buf, v)

/-- `term_start_editor`; `none` if the path is a directory. -/
def termStartEditor (v : Vfs H) (path : CStr) : Option (TermEditor × Vfs H) :=
  match vfsStat v path with
  | .ok (_, .dir) => none
  | _ =>
      let editPath := path.take (maxPath - 1)
      match vfsOpen v path 0 with
      | (none, v) => some ({ editMode := true, editPath, editBuf := [] }, v)
      | (some fd, v) =>
          let (editBuf, v) := termEditorLoad v fd termEditMax []
          some ({ editMode := true, editPath, editBuf }, vfsClose v fd)

/-! ### What is loaded -/

variable {v w : Vfs H} {path : CStr} {fd : Nat} {c : List UInt8}

omit [Allocator H] in
theorem termEditorLoad_loop (v : Vfs H) (fd fuel : Nat) (buf : List UInt8) :
    termEditorLoad v fd fuel buf = vfsReadLoop termEditMax fd fuel v buf := by
  induction fuel generalizing v buf with
  | zero => rfl
  | succ fuel ih =>
      simp only [termEditorLoad, vfsReadLoop, ih]
      all_goals rfl

/-- What the editor has of a file: as much as the buffer takes, or nothing if no handle was
free. -/
def termEditorLoaded (v : Vfs H) (c : List UInt8) : List UInt8 :=
  if (findFreeFile v).isSome then c.take (termEditMax - 1) else []

omit [Allocator H] in
theorem exists_entry_of_fileAt (h : fileAt v path = some c) :
    ∃ idx, findInode v path = some idx ∧ (v.inodes idx).type = .file ∧ (v.inodes idx).contents = c := by
  unfold fileAt at h
  cases hidx : findInode v path with
  | none => simp [hidx] at h
  | some idx =>
      rw [hidx] at h
      dsimp only at h
      split at h
      next hfile => exact ⟨idx, rfl, hfile, Option.some.inj h⟩
      · cases h

omit [Allocator H] in
theorem length_lt_of_fileAt (h : fileAt v path = some c) : path.length < maxPath := by
  obtain ⟨idx, hidx, -⟩ := exists_entry_of_fileAt h
  rw [← (findInode_some hidx).2]
  exact (v.inodes idx).path.property

theorem termStartEditor_loaded (hinit : v.vfsInitialized = true) (hfile : fileAt v path = some c)
    {ed : TermEditor} (hopen : termStartEditor v path = some (ed, w)) :
    ed.editPath = path ∧ ed.editBuf = termEditorLoaded v c := by
  have hlen := length_lt_of_fileAt hfile
  obtain ⟨idx, hidx, htype, hcontents⟩ := exists_entry_of_fileAt hfile
  have hpath : path.take (maxPath - 1) = path := List.take_of_length_le (by omega)
  have hdir : ¬ (v.inodes idx).type = .dir := by
    rw [htype]
    decide
  have hstat : vfsStat v path = .ok ((v.inodes idx).size, .file) := by
    rw [vfsStat, hidx]
    dsimp only
    rw [htype]
  have hmounted : vfsInit v = v := if_pos hinit
  unfold termStartEditor at hopen
  rw [hstat, hpath] at hopen
  dsimp only at hopen
  unfold vfsOpen at hopen
  rw [hmounted] at hopen
  dsimp only at hopen
  unfold termEditorLoaded
  cases hfree : findFreeFile v with
  | none =>
      rw [hfree] at hopen
      obtain ⟨rfl, -⟩ := Prod.mk.inj (Option.some.inj hopen)
      exact ⟨rfl, rfl⟩
  | some fd =>
      rw [hfree, hidx] at hopen
      dsimp only at hopen
      rw [openInode, if_neg hdir, if_neg (by decide)] at hopen
      dsimp only at hopen
      obtain ⟨rfl, -⟩ := Prod.mk.inj (Option.some.inj hopen)
      refine ⟨rfl, ?_⟩
      rw [if_neg (show ¬ hasFlag 0 oAppend = true by decide)]
      generalize hw : ({ v with openFiles := Function.update v.openFiles fd _ } : Vfs H) = w'
      have hinodes : w'.inodes = v.inodes := by rw [← hw]
      have hhandle : w'.openFiles fd = { valid := true, inode := idx, flags := 0, pos := 0 } := by
        rw [← hw]
        exact Function.update_self ..
      have hon : HandleOn w' fd path := by
        constructor <;> simp only [hhandle, hinodes]
        · rw [← hw]
          exact (findInode_some hidx).1
        · exact (findInode_some hidx).2
        · exact htype
      have hload :=
          @vfsReadLoop_eq H w' path fd c [] termEditMax termEditMax hon (by rw [hhandle, hinodes]; exact hcontents)
        (by decide)
      dsimp only
      rw [termEditorLoad_loop, hload, hhandle]
      simp

omit [Allocator H] in
theorem termEditorLoad_files (v : Vfs H) (fd fuel : Nat) (buf : List UInt8) :
    (termEditorLoad v fd fuel buf).2.vfsInitialized = v.vfsInitialized ∧
      ∀ q, fileAt (termEditorLoad v fd fuel buf).2 q = fileAt v q := by
  induction fuel generalizing v buf with
  | zero => exact ⟨rfl, fun _ => rfl⟩
  | succ fuel ih =>
      rw [termEditorLoad]
      obtain ⟨pos, hpos⟩ := vfsRead_state v fd (termEditMax - 1 - buf.length)
      have hread : (v.setPos fd pos).vfsInitialized = v.vfsInitialized ∧
          ∀ q, fileAt (v.setPos fd pos) q = fileAt v q := ⟨rfl, fun _ => rfl⟩
      split
      · generalize hr : vfsRead v fd (termEditMax - 1 - buf.length) = r at hpos
        obtain ⟨bytes | bytes, w⟩ := r <;> obtain rfl : w = v.setPos fd pos := hpos
        · exact hread
        · dsimp only
          split
          · exact ⟨(ih _ _).1.trans hread.1, fun q => ((ih _ _).2 q).trans (hread.2 q)⟩
          · exact hread
      · exact ⟨rfl, fun _ => rfl⟩

theorem termStartEditor_files (hinit : v.vfsInitialized = true) {ed : TermEditor}
    (hopen : termStartEditor v path = some (ed, w)) :
    w.vfsInitialized = true ∧ ∀ q, fileAt w q = fileAt v q := by
  have hmounted : vfsInit v = v := if_pos hinit
  have hopened : (vfsOpen v path 0).2.vfsInitialized = true ∧
      ∀ q, fileAt (vfsOpen v path 0).2 q = fileAt v q := by
    unfold vfsOpen
    rw [hmounted]
    dsimp only
    split
    · exact ⟨hinit, fun _ => rfl⟩
    · split
      · unfold openInode
        split <;> exact ⟨hinit, fun _ => rfl⟩
      · rw [if_neg (by decide)]
        exact ⟨hinit, fun _ => rfl⟩
  unfold termStartEditor at hopen
  split at hopen
  · cases hopen
  · dsimp only at hopen
    split at hopen
    next hnone =>
        obtain ⟨-, rfl⟩ := Prod.mk.inj (Option.some.inj hopen)
        rwa [hnone] at hopened
    next fd w' hsome =>
        obtain ⟨-, rfl⟩ := Prod.mk.inj (Option.some.inj hopen)
        rw [hsome] at hopened
        have hload := termEditorLoad_files w' fd termEditMax []
        obtain hclose | hclose := vfsClose_state (termEditorLoad w' fd termEditMax []).2 fd
        · refine ⟨hclose.vfsInitialized.trans (hload.1.trans hopened.1), fun q => ?_⟩
          exact (hclose.fileAt_eq q).trans ((hload.2 q).trans (hopened.2 q))
        · rw [hclose]
          exact ⟨hload.1.trans hopened.1, fun q => (hload.2 q).trans (hopened.2 q)⟩

/-! ### Saving -/

/-- The lines that save. -/
def termEditorSaves : List CStr := [cstr ".write", cstr ".save", cstr ".wq"]

/-- The lines that look at the buffer or save it, and go on. -/
def termEditorLooks : List CStr := [cstr ".help", cstr ".show", cstr ".write"]

/-- The editor after lines that are submitted to it, each in some state of the file
system. -/
def termEditorRun (ed : TermEditor) (steps : List (Vfs H × CStr)) : TermEditor :=
  steps.foldl (fun ed step => (termEditorSubmit step.1 ed step.2).2.1) ed

theorem termEditorRun_looks (ed : TermEditor) {steps : List (Vfs H × CStr)}
    (h : ∀ step ∈ steps, step.2 ∈ termEditorLooks) : termEditorRun ed steps = ed := by
  induction steps generalizing ed with
  | nil => rfl
  | cons step steps ih =>
      obtain ⟨hfirst, hrest⟩ := List.forall_mem_cons.mp h
      have hstep : (termEditorSubmit step.1 ed step.2).2.1 = ed := by
        simp only [termEditorLooks, List.mem_cons, List.not_mem_nil, or_false] at hfirst
        unfold termEditorSubmit
        obtain hline | hline | hline := hfirst
        · rw [if_pos hline]
        · rw [hline, if_neg (by decide), if_neg (by decide), if_neg (by decide), if_pos rfl]
        · rw [hline, if_neg (by decide), if_neg (by decide), if_neg (by decide), if_neg (by decide), if_pos rfl]
          split <;> rfl
      rw [termEditorRun, List.foldl_cons, hstep]
      exact ih ed hrest

/-- What a line that saves leaves of the files, and whether it reports success. -/
theorem termEditorSubmit_saves (v : Vfs H) (ed : TermEditor) {line : CStr} (h : line ∈ termEditorSaves) :
    (termEditorSubmit v ed line).2.2 = (termEditorSaveBuffer v ed).2 ∧
      ((termEditorSubmit v ed line).1 = .saveFailed ↔ (termEditorSaveBuffer v ed).1 = false) := by
  simp only [termEditorSaves, List.mem_cons, List.not_mem_nil, or_false] at h
  unfold termEditorSubmit
  obtain rfl | rfl | rfl := h
  · rw [if_neg (by decide), if_neg (by decide), if_neg (by decide), if_neg (by decide), if_pos rfl]
    generalize termEditorSaveBuffer v ed = r
    obtain ⟨ok, w⟩ := r
    cases ok <;> simp
  · rw [if_neg (by decide), if_neg (by decide), if_neg (by decide), if_neg (by decide), if_neg (by decide),
      if_pos (.inl rfl)]
    generalize termEditorSaveBuffer v ed = r
    obtain ⟨ok, w⟩ := r
    cases ok <;> simp
  · rw [if_neg (by decide), if_neg (by decide), if_neg (by decide), if_neg (by decide), if_neg (by decide),
      if_pos (.inr rfl)]
    generalize termEditorSaveBuffer v ed = r
    obtain ⟨ok, w⟩ := r
    cases ok <;> simp

/-- The flags of a save. -/
def termSaveFlags : Nat := oCreat ||| oWronly ||| oTrunc

/-- What is asked of a save without an edit: the file keeps its bytes, whether the save
reports success or failure. -/
def SaveKeeps (path : CStr) (c : List UInt8) (r : TermEditorReply × TermEditor × Vfs H) : Prop :=
  (r.1 ≠ .saveFailed → fileAt r.2.2 path = some c) ∧ (r.1 = .saveFailed → fileAt r.2.2 path = some c)

/-- The file was loaded as a whole and can be written, or it cannot be opened. -/
def EditorRoundTrips (v w : Vfs H) (path : CStr) (c : List UInt8) : Prop :=
  findFreeFile w = none ∨ c = [] ∨
    (findFreeFile v).isSome ∧ c.length ≤ termEditMax - 1 ∧ putHasRoom w path termSaveFlags c.length = true

/-- The file after a save of the buffer `buf`. -/
theorem fileAt_termEditorSave {ed : TermEditor} (hinit : w.vfsInitialized = true)
    (hfile : fileAt w path = some c) (hpath : ed.editPath = path) (hsmall : ed.editBuf.length < 2 ^ 64) :
    fileAt (termEditorSaveBuffer w ed).2 path = some
      (if findFreeFile w = none then c
      else if ed.editBuf = [] ∨ putHasRoom w path termSaveFlags ed.editBuf.length = true then ed.editBuf else []) := by
  have hlen := length_lt_of_fileAt hfile
  have hend : StartsAtEnd w path termSaveFlags := .inl (by decide)
  have hbase : putBase w path termSaveFlags = [] := if_pos (by decide)
  have hfits : (putBase w path termSaveFlags).length + ed.editBuf.length < 2 ^ 64 := by
    rw [hbase]
    simpa using hsmall
  have hput := fileAt_vfsPut hinit hlen hend hfits
  have houtcome := vfsPut_outcome hinit hlen hend hfits
  obtain ⟨idx, hidx, htype, -⟩ := exists_entry_of_fileAt hfile
  have hdir : ¬ (w.inodes idx).type = .dir := by
    rw [htype]
    decide
  have hopened : (vfsOpen w path termSaveFlags).1 = none ↔ findFreeFile w = none := by
    have hmounted : vfsInit w = w := if_pos hinit
    unfold vfsOpen
    rw [hmounted]
    dsimp only
    cases findFreeFile w with
    | none => simp
    | some fd =>
        rw [hidx]
        dsimp only
        rw [openInode, if_neg hdir]
  unfold termEditorSaveBuffer
  rw [hpath]
  change fileAt (vfsPut w path termSaveFlags ed.editBuf).2 path = _
  by_cases hfree : findFreeFile w = none
  · rw [if_pos (hopened.mpr hfree)] at houtcome
    rw [hput.notOpened houtcome, if_pos hfree, hfile]
  · rw [if_neg (hopened.not.mpr hfree)] at houtcome
    rw [if_neg hfree]
    by_cases hroom : ed.editBuf = [] ∨ putHasRoom w path termSaveFlags ed.editBuf.length = true
    · rw [if_pos hroom] at houtcome
      rw [hput.done houtcome, if_pos hroom, hbase, List.nil_append]
    · rw [if_neg hroom] at houtcome
      rw [hput.notWritten houtcome, if_neg hroom, hbase]

/-- A save without an edit keeps the file exactly if it was loaded as a whole and there is
memory for it, or if it cannot be opened. -/
theorem termEditorSave_keeps_iff {u : Vfs H} {ed : TermEditor} (hv : v.vfsInitialized = true)
    (hw : w.vfsInitialized = true) (hfile : fileAt v path = some c)
    (hopen : termStartEditor v path = some (ed, u)) (steps : List (Vfs H × CStr))
    (hlooks : ∀ step ∈ steps, step.2 ∈ termEditorLooks) (hkept : fileAt w path = some c) (line : CStr)
    (hline : line ∈ termEditorSaves) :
    SaveKeeps path c (termEditorSubmit w (termEditorRun ed steps) line) ↔ EditorRoundTrips v w path c := by
  obtain ⟨hpath, hbuf⟩ := termStartEditor_loaded hv hfile hopen
  rw [termEditorRun_looks ed hlooks]
  have hshort : ed.editBuf.length < 2 ^ 64 := by
    rw [hbuf, termEditorLoaded]
    split
    · rw [List.length_take]
      simp only [termEditMax]
      omega
    · decide
  have hsave := fileAt_termEditorSave hw hkept hpath hshort
  have hkeeps : SaveKeeps path c (termEditorSubmit w ed line) ↔
      fileAt (termEditorSaveBuffer w ed).2 path = some c := by
    unfold SaveKeeps
    rw [(termEditorSubmit_saves w ed hline).1]
    exact ⟨fun h => (em _).elim h.2 h.1, fun h => ⟨fun _ => h, fun _ => h⟩⟩
  rw [hkeeps, hsave, hbuf, Option.some.injEq]
  unfold EditorRoundTrips termEditorLoaded
  by_cases hfree : findFreeFile w = none
  · simp [hfree]
  by_cases hnil : c = []
  · subst hnil
    simp
  by_cases hloaded : (findFreeFile v).isSome = true
  · rw [if_neg hfree, if_pos hloaded]
    by_cases hall : c.length ≤ termEditMax - 1
    · rw [List.take_of_length_le hall]
      simp [hfree, hnil, hloaded, hall]
    · have hcut : c.take (termEditMax - 1) ≠ c := fun h => hall (by simpa using congrArg List.length h)
      simp only [hfree, hnil, hall, false_and, and_false, or_false, iff_false]
      split
      · exact hcut
      · exact Ne.symm hnil
  · rw [if_neg hfree, if_neg hloaded]
    simp [hfree, hnil, hloaded, Ne.symm hnil]

end Files

/-! ## A file that fits and one that does not -/

/-- The file system after boot with the file `/a`. -/
def vfsWith (bytes : List UInt8) : Vfs KernelHeap :=
  (vfsPut (vfsInit (bootVfs KernelHeap.boot noDisk bootPersist)) (cstr "/a") termSaveFlags bytes).2

theorem fileAt_vfsWith {bytes : List UInt8} (hsmall : bytes.length < 2 ^ 64)
    (hdone : (vfsPut (vfsInit (bootVfs KernelHeap.boot noDisk bootPersist)) (cstr "/a") termSaveFlags bytes).1 = .done) :
    fileAt (vfsWith bytes) (cstr "/a") = some bytes := by
  have hbase : putBase (vfsInit (bootVfs KernelHeap.boot noDisk bootPersist)) (cstr "/a") termSaveFlags = [] :=
    if_pos (by decide)
  have hput :=
    @fileAt_vfsPut KernelHeap _ _ (cstr "/a") termSaveFlags bytes rfl (by decide) (.inl (by decide))
    (by rw [hbase]; simpa using hsmall)
  rw [vfsWith, hput.done hdone, hbase, List.nil_append]

/-- A short file keeps its bytes. -/
theorem termEditorSave_keeps_short :
    ∃ ed u, termStartEditor (vfsWith [0x68, 0x69]) (cstr "/a") = some (ed, u) ∧
      SaveKeeps (cstr "/a") [0x68, 0x69] (termEditorSubmit u (termEditorRun ed [(u, cstr ".show")]) (cstr ".wq")) := by
  have hfile : fileAt (vfsWith [0x68, 0x69]) (cstr "/a") = some [0x68, 0x69] :=
    fileAt_vfsWith (by decide) (by decide +kernel)
  have hmounted : (vfsWith [0x68, 0x69]).vfsInitialized = true := by decide +kernel
  have hopens : (termStartEditor (vfsWith [0x68, 0x69]) (cstr "/a")).isSome = true := by decide +kernel
  have hroom : (termStartEditor (vfsWith [0x68, 0x69]) (cstr "/a")).all (fun r =>
      putHasRoom r.2 (cstr "/a") termSaveFlags 2) = true := by decide +kernel
  obtain ⟨⟨ed, u⟩, hopen⟩ := Option.isSome_iff_exists.mp hopens
  rw [hopen, Option.all_some] at hroom
  obtain ⟨hinit, hfiles⟩ := termStartEditor_files hmounted hopen
  refine ⟨ed, u, hopen, ?_⟩
  refine (termEditorSave_keeps_iff hmounted hinit hfile hopen [(u, cstr ".show")] ?_ ((hfiles _).trans hfile)
    (cstr ".wq") (by decide)).mpr (.inr (.inr ⟨by decide +kernel, by decide, hroom⟩))
  simp [termEditorLooks]

/-- A file that is a byte longer than what the editor loads. -/
def longBytes : List UInt8 := List.replicate termEditMax 0x61

/-- The file is cut, and the save reports success. -/
theorem termEditorSave_cuts :
    ∃ ed u, fileAt (vfsWith longBytes) (cstr "/a") = some longBytes ∧
      termStartEditor (vfsWith longBytes) (cstr "/a") = some (ed, u) ∧
      fileAt u (cstr "/a") = some longBytes ∧
      ¬ SaveKeeps (cstr "/a") longBytes (termEditorSubmit u ed (cstr ".save")) := by
  have hfile : fileAt (vfsWith longBytes) (cstr "/a") = some longBytes :=
    fileAt_vfsWith (by rw [longBytes, List.length_replicate]; decide) (by decide +kernel)
  have hmounted : (vfsWith longBytes).vfsInitialized = true := by decide +kernel
  have hopens : (termStartEditor (vfsWith longBytes) (cstr "/a")).isSome = true := by decide +kernel
  have hroom : (termStartEditor (vfsWith longBytes) (cstr "/a")).all (fun r =>
      (findFreeFile r.2).isSome && putHasRoom r.2 (cstr "/a") termSaveFlags (termEditMax - 1)) = true := by
    decide +kernel
  obtain ⟨⟨ed, u⟩, hopen⟩ := Option.isSome_iff_exists.mp hopens
  rw [hopen, Option.all_some, Bool.and_eq_true] at hroom
  obtain ⟨hinit, hfiles⟩ := termStartEditor_files hmounted hopen
  obtain ⟨hpath, hbuf⟩ := termStartEditor_loaded hmounted hfile hopen
  have hcut : ed.editBuf = longBytes.take (termEditMax - 1) := by
    rw [hbuf, termEditorLoaded, if_pos (by decide +kernel)]
  have hlen : ed.editBuf.length = termEditMax - 1 := by
    rw [hcut, List.length_take, longBytes, List.length_replicate]
    decide
  have hkept : fileAt u (cstr "/a") = some longBytes := (hfiles _).trans hfile
  refine ⟨ed, u, hfile, hopen, hkept, fun h => ?_⟩
  have hsaved := fileAt_termEditorSave hinit hkept hpath (by rw [hlen]; decide)
  rw [if_neg (Option.isSome_iff_ne_none.mp hroom.1), if_pos (.inr (by rw [hlen]; exact hroom.2))] at hsaved
  have hbytes : some ed.editBuf = some longBytes := by
    rw [← hsaved, ← (termEditorSubmit_saves u ed (by decide : cstr ".save" ∈ termEditorSaves)).1]
    exact (em _).elim h.2 h.1
  have hlong := congrArg List.length (Option.some.inj hbytes)
  rw [hlen, longBytes, List.length_replicate] at hlong
  exact absurd hlong (by decide)

end Orizon
