import Orizon.Packages.Replay

/-!
# Orizon.Packages.Contents

The files of a payload: what `replay_payload` makes of the text between a `file` line and its
`content-end` line.

Each line goes through the line reader, so a file is what its text says if the reader keeps every
line of it (`replayPayload_encodePayload_iff`).
-/

namespace Orizon

variable {H : Type} [Allocator H] {v w : Vfs H} {s t : ReplayState H} {path q line : CStr} {fd : Nat}
  {bytes : List UInt8} {body : List CStr} {runPost : Bool}

/-! ## One file -/

/-- The bytes of a file with these lines. -/
def bodyBytes (body : List CStr) : List UInt8 := body.flatMap fun line => strBytes line ++ [0x0a]

theorem bodyBytes_cons (line : CStr) (body : List CStr) :
    bodyBytes (line :: body) = strBytes line ++ [0x0a] ++ bodyBytes body := rfl

theorem replayBody_ok (hbody : contentEnd ∉ body) (hfile : s.inFile = some fd)
    (hfill : Filling s.vfs fd s.path bytes) (hsmall : bytes.length + lineCost body + 4096 ≤ 2 ^ 64)
    (hok : body.foldlM (replayLine runPost) s = .ok t) :
    t = { s with vfs := t.vfs } ∧ Filling t.vfs fd s.path (bytes ++ bodyBytes body) ∧
      ∀ q, s.path ≠ q → Spares q s.vfs t.vfs := by
  induction body generalizing s bytes with
  | nil =>
      obtain rfl := foldlM_nil_ok.mp hok
      exact ⟨rfl, by simpa [bodyBytes] using hfill, fun q _ => Spares.refl q _⟩
  | cons line body ih =>
      obtain ⟨u, hu, hrest⟩ := foldlM_cons_ok.mp hok
      have hne : line ≠ contentEnd := fun h => hbody (by simp [h])
      rw [lineCost_cons] at hsmall
      rw [replayLine, hfile] at hu
      obtain ⟨n, x, m, y, htext, hnl, rfl⟩ := replayFileLine_ok hne hu
      have hmid := hfill.write (by rw [length_strBytes]; omega) htext
      have hfull := hmid.write (by simp; omega) hnl
      obtain ⟨ht, hlast, hspares⟩ := ih (s := { s with vfs := y }) (fun h => hbody (by simp [h])) hfile
        hfull (by simp; omega) hrest
      refine ⟨ht, ?_, fun q hq => ?_⟩
      · rw [bodyBytes_cons]
        simpa using hlast
      · have hfirst := spares_vfsWrite hfill.handleAt hq (strBytes line)
        have hsecond := spares_vfsWrite hmid.handleAt hq [0x0a]
        rw [htext] at hfirst
        rw [hnl] at hsecond
        exact (hfirst.trans hsecond).trans (hspares q hq)

/-- Outside of files and scripts. -/
def Idle (s : ReplayState H) : Prop :=
  s.inPost = false ∧ s.inRemoveScript = false ∧ s.inFile = none ∧ s.vfs.vfsInitialized = true

/-- The line that opens a file. -/
def fileLine (path : CStr) : CStr := cstr "file " ++ path

/-- A path that a `file` line can give: one line, without blanks in front. -/
structure LinePath (path : CStr) : Prop where
  absolute : path.head? = some slash
  short : path.length < maxPath

theorem copyValue_fileLine (h : LinePath path) : copyValue maxPath ((fileLine path).drop 5) = path := by
  have hdrop : (fileLine path).drop 5 = path := by
    have hfive : (cstr "file ").length = 5 := by decide
    rw [fileLine, ← hfive, List.drop_left]
  have hshort := h.short
  have hhead := h.absolute
  rw [hdrop, copyValue]
  cases path with
  | nil => rfl
  | cons c rest =>
      obtain rfl : c = slash := by simpa using hhead
      rw [List.dropWhile_cons_of_neg (by decide), List.take_of_length_le (by omega)]

theorem replayControlLine_fileLine (hs : Idle s) : replayControlLine runPost s (fileLine path) =
    replayFile s (fileLine path) := by
  obtain ⟨hpost, hremove, -, -⟩ := hs
  have hhead : (fileLine path).head? = some (cchar 'f') := rfl
  have hne : ∀ x : CStr, x.head? ≠ some (cchar 'f') → fileLine path ≠ x := fun x hx h => hx (h ▸ hhead)
  have hstarts : pkgStartsWith (fileLine path) (cstr "file ") = true := by
    simp [pkgStartsWith, strncmpEq, fileLine]
  have hskip : isSkippedLine (fileLine path) = false := by
    rw [isSkippedLine, hhead]
    decide
  rw [replayControlLine, hskip, if_neg (by simp), if_neg (hne _ (by decide)), if_neg (hne _ (by decide)),
    if_neg, if_neg,
    hremove, hpost, if_neg (by simp), if_neg (by simp), if_pos hstarts]
  · rintro (h | h)
    · exact hne _ (by decide) h
    · exact hne _ (by decide) h
  · rintro (h | h)
    · exact hne _ (by decide) h
    · exact hne _ (by decide) h

theorem replayEntry_ok (hs : Idle s) (hpath : LinePath path) (hbody : contentEnd ∉ body)
    (hsmall : lineCost body + 4096 ≤ 2 ^ 64)
    (hok : (fileLine path :: body ++ [contentEnd]).foldlM (replayLine runPost) s = .ok t) :
    Idle t ∧ Holding t.vfs path (bodyBytes body) ∧ ∀ q, path ≠ q → Spares q s.vfs t.vfs := by
  obtain ⟨y, hlines, hend⟩ := foldlM_append_ok.mp hok
  obtain ⟨x, hopen, hbodyOk⟩ := foldlM_cons_ok.mp hlines
  obtain ⟨z, hclose, hnil⟩ := foldlM_cons_ok.mp hend
  obtain rfl := foldlM_nil_ok.mp hnil
  rw [replayLine, hs.2.2.1] at hopen
  dsimp only at hopen
  rw [replayControlLine_fileLine hs] at hopen
  have hopened := replayFile_ok hs.2.2.2 hopen
  rw [copyValue_fileLine hpath] at hopened
  obtain ⟨-, fd, hx, hfill, hinit, hspares⟩ := hopened
  have hxpath : x.path = path := by rw [hx]
  have hxfile : x.inFile = some fd := by rw [hx]
  obtain ⟨hy, hfull, hspares'⟩ :=
      replayBody_ok hbody hxfile (by rw [hxpath]; exact hfill) (by simpa using hsmall) hbodyOk
  have hyfile : y.inFile = some fd := by rw [hy, hxfile]
  have hypath : y.path = path := by rw [hy, hxpath]
  simp only [replayLine, hyfile, replayFileLine, if_true] at hclose
  obtain rfl := Except.ok.inj hclose
  rw [hxpath, List.nil_append] at hfull
  refine ⟨⟨?_, ?_, rfl, ?_⟩, hfull.close, fun q hq => ?_⟩
  · rw [hy, hx]
    exact hs.1
  · rw [hy, hx]
    exact hs.2.1
  · have hother : ∃ q, path ≠ q := ⟨path ++ path ++ [slash], fun h => by
      have hlen := congrArg List.length h
      simp at hlen⟩
    obtain ⟨q, hq⟩ := hother
    exact (vfsInitialized_vfsClose _ _).trans (hspares' q (hxpath ▸ hq) hinit).1
  · exact ((hspares q hq).trans (hspares' q (hxpath ▸ hq))).trans (spares_vfsClose _ fd q)

theorem readerText_isPrefix (piece : List UInt8) : readerText piece <+: piece :=
  (List.rdropWhile_prefix _ _).trans (List.take_prefix _ _)

/-- The lines of a text are no longer than the text, but for a newline at its end. -/
theorem lineCost_readerLines (data : List UInt8) : lineCost (readerLines data) ≤ data.length + 1 := by
  have hview : ∀ piece, (bytesCstr (readerText piece)).length ≤ piece.length := fun piece =>
    (length_bytesCstr_le _).trans (readerText_isPrefix piece).length_le
  refine le_trans (b := ((lines isNewline data).map (·.length + 1)).sum) ?_ (length_lines_le data)
  rw [lineCost, readerLines, List.map_map]
  exact List.sum_le_sum fun piece _ => Nat.succ_le_succ (hview piece)

/-! ## Files one behind the other -/

/-- The lines of a file of a payload. -/
def entryLines (f : CStr × List CStr) : List CStr := fileLine f.1 :: f.2 ++ [contentEnd]

theorem lineCost_append (a b : List CStr) : lineCost (a ++ b) = lineCost a + lineCost b := by
  simp [lineCost]

/-- Each path ends with the last of the files that are listed for it. -/
theorem replayEntries_ok {files : List (CStr × List CStr)} (hs : Idle s)
    (hfiles : ∀ f ∈ files, LinePath f.1 ∧ contentEnd ∉ f.2)
    (hsmall : lineCost (files.flatMap entryLines) + 4096 ≤ 2 ^ 64)
    (hok : (files.flatMap entryLines).foldlM (replayLine runPost) s = .ok t) :
    Idle t ∧ (∀ q, (∀ f ∈ files, f.1 ≠ q) → Spares q s.vfs t.vfs) ∧
      ∀ f ∈ files, ∃ g ∈ files, g.1 = f.1 ∧ Holding t.vfs f.1 (bodyBytes g.2) := by
  induction files generalizing s with
  | nil =>
      obtain rfl := foldlM_nil_ok.mp hok
      exact ⟨hs, fun q _ => Spares.refl q _, by simp⟩
  | cons f files ih =>
      rw [List.flatMap_cons] at hok hsmall
      rw [lineCost_append] at hsmall
      obtain ⟨u, hu, hrest⟩ := foldlM_append_ok.mp hok
      obtain ⟨hpath, hbody⟩ := hfiles f (by simp)
      have hcost : lineCost f.2 ≤ lineCost (entryLines f) := by
        rw [entryLines, List.cons_append, lineCost_cons, lineCost_append]
        omega
      obtain ⟨hidle, hhold, hspares⟩ := replayEntry_ok hs hpath hbody (by omega) hu
      obtain ⟨hlast, hspares', hholds⟩ := ih hidle (fun g hg => hfiles g (by simp [hg])) (by omega) hrest
      refine ⟨hlast, fun q hq => (hspares q (hq f (by simp))).trans (hspares' q fun g hg => hq g (by simp [hg])), ?_⟩
      intro g hg
      by_cases hlater : ∃ x ∈ files, x.1 = g.1
      · obtain ⟨x, hx, hpathx⟩ := hlater
        obtain ⟨y, hy, hypath, hyhold⟩ := hholds x hx
        exact ⟨y, by simp [hy], hypath.trans hpathx, hpathx ▸ hyhold⟩
      · -- no later file has this path
        obtain rfl : g = f := by
          obtain rfl | hg := List.mem_cons.mp hg
          · rfl
          · exact absurd ⟨g, hg, rfl⟩ hlater
        have hkept := (hspares' g.1 fun x hx heq => hlater ⟨x, hx, heq⟩) hidle.2.2.2
        exact ⟨g, by simp, rfl, hhold.keep hkept.2.1⟩

/-! ## The reader -/

/-- What the reader makes of a line. -/
def readerView (piece : List UInt8) : CStr := bytesCstr (readerText piece)

/-- A line that the reader keeps. -/
structure StorableLine (piece : List UInt8) : Prop where
  short : piece.length < pkgMaxLine
  noNul : 0 ∉ piece
  noReturn : piece.getLast? ≠ some 0x0d

theorem length_readerText_lt (piece : List UInt8) : (readerText piece).length < pkgMaxLine := by
  have hle := (List.rdropWhile_prefix (fun c : UInt8 => decide (c = 0x0d)) (piece.take (pkgMaxLine - 1))).length_le
  have hlt : pkgMaxLine - 1 < pkgMaxLine := by decide
  rw [List.length_take] at hle
  rw [readerText]
  omega

theorem getLast?_readerText (piece : List UInt8) : (readerText piece).getLast? ≠ some 0x0d := by
  intro h
  rw [readerText] at h
  have hne : (piece.take (pkgMaxLine - 1)).rdropWhile (· = 0x0d) ≠ [] := by
    intro hnil
    rw [hnil] at h
    cases h
  have hlast := List.rdropWhile_last_not (fun c : UInt8 => decide (c = 0x0d)) (piece.take (pkgMaxLine - 1)) hne
  rw [List.getLast?_eq_some_getLast hne] at h
  exact hlast (by simpa using Option.some.inj h)

theorem strBytes_of_noNul {bytes : List UInt8} (h : 0 ∉ bytes) : strBytes (bytesCstr bytes) = bytes := by
  rw [strBytes_bytesCstr, List.takeWhile_eq_self_iff]
  intro c hc
  have hne : c ≠ 0 := by
    rintro rfl
    exact h hc
  simpa using hne

theorem readerText_of_storable {piece : List UInt8} (h : StorableLine piece) : readerText piece = piece := by
  have hshort := h.short
  rw [readerText, List.take_of_length_le (by omega), List.rdropWhile_eq_self_iff]
  intro hne hlast
  refine h.noReturn ?_
  rw [List.getLast?_eq_some_getLast hne]
  simpa using hlast

theorem strBytes_readerView_iff (piece : List UInt8) : strBytes (readerView piece) = piece ↔ StorableLine piece := by
  constructor
  · intro h
    rw [readerView, strBytes_bytesCstr] at h
    -- both cuts keep the whole line
    have hpre := (List.takeWhile_prefix (l := readerText piece) (fun c : UInt8 => decide (c ≠ 0))).trans
        (readerText_isPrefix piece)
    have hfull : readerText piece = piece := by
      refine (readerText_isPrefix piece).eq_of_length_le ?_
      rw [← h]
      exact (List.takeWhile_prefix _).length_le.trans (by rw [h])
    rw [hfull] at h
    refine ⟨hfull ▸ length_readerText_lt piece, fun hnul => ?_, hfull ▸ getLast?_readerText piece⟩
    have hall := List.takeWhile_eq_self_iff.mp h
    simpa using hall 0 hnul
  · intro h
    rw [readerView, readerText_of_storable h, strBytes_of_noNul h.noNul]

/-! ## Encoded files -/

/-- A file and its lines. -/
structure PayloadFile where
  path : CStr
  lines : List (List UInt8)

/-- The bytes of the file: each line ends in a newline. -/
def PayloadFile.content (f : PayloadFile) : List UInt8 := f.lines.flatMap (· ++ [0x0a])

/-- The text of the file in a payload. -/
def PayloadFile.encode (f : PayloadFile) : List UInt8 :=
  strBytes (fileLine f.path) ++ [0x0a] ++ f.content ++ (strBytes contentEnd ++ [0x0a])

/-- The payload of a list of files. -/
def encodePayload (files : List PayloadFile) : List UInt8 := files.flatMap PayloadFile.encode

/-- A file that has a text: its path fits on a `file` line, and no line of it closes the file. -/
structure PayloadFile.Encodable (f : PayloadFile) : Prop extends LinePath f.path where
  pathLine : cchar '\n' ∉ f.path
  pathEnd : f.path.getLast? ≠ some (cchar '\r')
  lines : ∀ piece ∈ f.lines, 0x0a ∉ piece
  noEnd : strBytes contentEnd ∉ f.lines

/-- What the reader makes of the file. -/
def PayloadFile.view (f : PayloadFile) : CStr × List CStr := (f.path, f.lines.map readerView)

variable {f : PayloadFile} {files : List PayloadFile}

theorem bodyBytes_view (h : ∀ piece ∈ f.lines, StorableLine piece) : bodyBytes f.view.2 = f.content := by
  rw [bodyBytes, PayloadFile.view, PayloadFile.content, List.flatMap_map, List.flatMap_def, List.flatMap_def]
  refine congrArg List.flatten (List.map_congr_left fun piece hpiece => ?_)
  rw [(strBytes_readerView_iff piece).mpr (h piece hpiece)]

/-- The raw lines of the text of a file. -/
def PayloadFile.rawLines (f : PayloadFile) : List (List UInt8) :=
  strBytes (fileLine f.path) :: f.lines ++ [strBytes contentEnd]

theorem encode_eq (f : PayloadFile) : f.encode = f.rawLines.flatMap (· ++ [0x0a]) := by
  simp [PayloadFile.encode, PayloadFile.rawLines, PayloadFile.content]

theorem encodePayload_eq (files : List PayloadFile) :
    encodePayload files = (files.flatMap PayloadFile.rawLines).flatMap (· ++ [0x0a]) := by
  rw [encodePayload, List.flatMap_assoc]
  exact congrArg (List.flatMap · files) (funext encode_eq)

theorem readerView_fileLine (h : f.Encodable) : readerView (strBytes (fileLine f.path)) = fileLine f.path := by
  refine strBytes_inj ((strBytes_readerView_iff _).mpr ⟨?_, ?_, ?_⟩)
  · have hshort := h.short
    have hfive : (cstr "file ").length = 5 := by decide
    have hmax : maxPath + 5 < pkgMaxLine := by decide
    rw [length_strBytes, fileLine, List.length_append]
    omega
  · intro hnul
    obtain ⟨c, -, hc⟩ := List.mem_map.mp hnul
    exact c.property hc
  · have hend := h.pathEnd
    have hhead := h.absolute
    have hne : f.path ≠ [] := by
      rintro hnil
      rw [hnil] at hhead
      cases hhead
    rw [strBytes, List.getLast?_map, fileLine, List.getLast?_append_of_ne_nil _ hne]
    intro hlast
    obtain ⟨c, hc, hval⟩ := Option.map_eq_some_iff.mp hlast
    exact hend (hc.trans (congrArg some (Subtype.ext hval)))

/-- The lines that the loop of `replay_payload` sees. -/
theorem readerLines_encodePayload (hfiles : ∀ f ∈ files, f.Encodable) :
    readerLines (encodePayload files) = (files.map PayloadFile.view).flatMap entryLines := by
  have hplain : ∀ piece ∈ files.flatMap PayloadFile.rawLines, ∀ c ∈ piece, isNewline c = false := by
    intro piece hpiece c hc
    obtain ⟨f, hf, hpiece⟩ := List.mem_flatMap.mp hpiece
    have henc := hfiles f hf
    have hne : c ≠ 0x0a := by
      rintro rfl
      rw [PayloadFile.rawLines, List.cons_append, List.mem_cons, List.mem_append, List.mem_singleton] at hpiece
      obtain rfl | hpiece | rfl := hpiece
      · obtain ⟨d, hd, hval⟩ := List.mem_map.mp hc
        have hd' : d = cchar '\n' := Subtype.ext hval
        rw [hd', fileLine, List.mem_append] at hd
        exact hd.elim (by decide) henc.pathLine
      · exact henc.lines piece hpiece hc
      · exact absurd hc (by decide)
    simpa [isNewline] using hne
  have hlines := lines_flatMap hplain (c := 0x0a) (by decide) []
  rw [lines_nil, List.append_nil, List.append_nil] at hlines
  rw [readerLines, encodePayload_eq, hlines, List.map_flatMap, List.flatMap_map, List.flatMap_def, List.flatMap_def]
  refine congrArg List.flatten (List.map_congr_left fun f hf => ?_)
  have hend : readerView (strBytes contentEnd) = contentEnd := by decide
  have hline := readerView_fileLine (hfiles f hf)
  unfold readerView at hend hline
  simp only [PayloadFile.rawLines, entryLines, PayloadFile.view, List.map_append, List.map_cons, List.map_nil,
    hend, hline]
  rfl

/-! ## What a replay can write -/

theorem replayClosed_noNul : ReplayClosed (fun _ => True) (0 ∉ ·) (0 ∉ ·) := by
  have hstr : ∀ text : CStr, 0 ∉ strBytes text := by
    intro text h
    obtain ⟨c, -, hc⟩ := List.mem_map.mp h
    exact c.property hc
  constructor
  · simp
  · exact fun bytes h => h
  · intro line bytes _ _ h
    simp [h, hstr]
  · exact fun _ _ text _ _ _ _ => hstr text
  · intro line path text bytes _ _ _ _ h
    simp [h, hstr]

/-- A line as the reader gives it where the text has no NUL. -/
structure ReaderLine (line : CStr) : Prop where
  short : line.length < pkgMaxLine
  plain : cchar '\n' ∉ line
  noReturn : line.getLast? ≠ some (cchar '\r')

theorem readerLine_of_noNul {data : List UInt8} (hnul : 0 ∉ data) {line : CStr} (h : line ∈ readerLines data) :
    ReaderLine line := by
  obtain ⟨piece, hpiece, rfl⟩ := List.mem_map.mp h
  have hsub : ∀ c ∈ piece, c ∈ data := fun c hc => mem_of_mem_lines hpiece hc
  have hbytes : strBytes (bytesCstr (readerText piece)) = readerText piece :=
    strBytes_of_noNul fun hmem => hnul (hsub 0 ((readerText_isPrefix piece).subset hmem))
  refine ⟨?_, fun hmem => ?_, fun hlast => ?_⟩
  · rw [← length_strBytes, hbytes]
    exact length_readerText_lt piece
  · have hbyte : (cchar '\n').val ∈ readerText piece := hbytes ▸ List.mem_map_of_mem hmem
    have hplain := mem_lines hpiece _ ((readerText_isPrefix piece).subset hbyte)
    exact absurd hplain (by decide)
  · refine getLast?_readerText piece ?_
    rw [← hbytes, strBytes, List.getLast?_map, hlast]
    rfl

/-- A line of a file that does not read as the end of the file, unless it is that. -/
def KeptLine (line : CStr) : Prop := cchar '\n' ∉ line ∧ (lineView line = contentEnd → line = contentEnd)

theorem lineView_eq_self {line : CStr} (hshort : line.length < pkgMaxLine) (hlast : line.getLast? ≠ some (cchar '\r')) :
    lineView line = line := by
  rw [lineView, List.take_of_length_le (by omega), List.rdropWhile_eq_self_iff]
  intro hne h
  refine hlast ?_
  rw [List.getLast?_eq_some_getLast hne]
  simpa using h

theorem ReaderLine.kept {line : CStr} (h : ReaderLine line) : KeptLine line :=
  ⟨h.plain, fun hview => (lineView_eq_self h.short h.noReturn).symm.trans hview⟩

/-- Two texts that fit on script lines make no line that reads as the end of the file. -/
theorem keptLine_append {u text : CStr} (hu : u.length + 12 ≤ pkgMaxLine) (huEnd : u.getLast? ≠ some (cchar '\r'))
    (huPlain : cchar '\n' ∉ u) (htext : text.length + 13 ≤ pkgMaxLine) (htextEnd : text.getLast? ≠ some (cchar '\r'))
    (htextPlain : cchar '\n' ∉ text) : KeptLine (u ++ text) := by
  refine ⟨by simp [huPlain, htextPlain], fun hview => ?_⟩
  by_cases hshort : (u ++ text).length < pkgMaxLine
  · have hlast : (u ++ text).getLast? ≠ some (cchar '\r') := by
      by_cases hnil : text = []
      · rwa [hnil, List.append_nil]
      · rwa [List.getLast?_append_of_ne_nil _ hnil]
    exact (lineView_eq_self hshort hlast).symm.trans hview
  · -- the first text would end in one of the carriage returns that are cut off
    have hmax : pkgMaxLine = 768 := rfl
    have hcontent : contentEnd.length = 11 := by decide
    have hsplit := @List.rdropWhile_append_rtakeWhile _ (· = cchar '\r') ((u ++ text).take (pkgMaxLine - 1))
    rw [show ((u ++ text).take (pkgMaxLine - 1)).rdropWhile (· = cchar '\r') = contentEnd from hview] at hsplit
    rw [List.length_append] at hshort
    have hu' : u = (contentEnd ++ ((u ++ text).take (pkgMaxLine - 1)).rtakeWhile (· = cchar '\r')).take u.length := by
      rw [hsplit, List.take_take, Nat.min_eq_left (by omega), List.take_left]
    rw [List.take_append, List.take_of_length_le (by omega)] at hu'
    exfalso
    generalize htail : (((u ++ text).take (pkgMaxLine - 1)).rtakeWhile (· = cchar '\r')).take
        (u.length - contentEnd.length) =
      tail at hu'
    have htailEnd : ∀ c ∈ tail, c = cchar '\r' := by
      intro c hc
      rw [← htail] at hc
      simpa using List.mem_rtakeWhile_imp (List.mem_of_mem_take hc)
    have hne : tail ≠ [] := by
      rintro rfl
      rw [List.append_nil] at hu'
      rw [hu'] at hshort
      omega
    refine huEnd ?_
    rw [hu', List.getLast?_append_of_ne_nil _ hne, List.getLast?_eq_some_getLast hne]
    exact congrArg some (htailEnd _ (List.getLast_mem hne))

/-- The bytes of a file that a replay of such lines wrote: lines that do not read as the end of
the file, and what a `write` left behind them. -/
def Written (bytes : List UInt8) : Prop :=
  ∃ body u, bytes = bodyBytes body ++ strBytes u ∧ (∀ line ∈ body, KeptLine line) ∧ u.length + 12 ≤ pkgMaxLine ∧
    u.getLast? ≠ some (cchar '\r') ∧ cchar '\n' ∉ u

/-- Such a file while its lines are written. -/
def WrittenLines (bytes : List UInt8) : Prop := ∃ body, bytes = bodyBytes body ∧ ∀ line ∈ body, KeptLine line

theorem pkgScriptArgPathText_suffix {args text : CStr} (h : pkgScriptArgPathText args = some (path, text)) :
    text <:+ args := by
  rw [pkgScriptArgPathText] at h
  split_ifs at h
  obtain ⟨-, rfl⟩ := Prod.mk.inj (Option.some.inj h)
  exact ((List.dropWhile_suffix _).trans (List.drop_suffix _ _)).trans (List.dropWhile_suffix _)

theorem ReaderLine.text {line text : CStr} (h : ReaderLine line) (hsuffix : text <:+ line) :
    text.getLast? ≠ some (cchar '\r') ∧ cchar '\n' ∉ text := by
  refine ⟨fun hlast => ?_, fun hmem => h.plain (hsuffix.subset hmem)⟩
  obtain ⟨pre, rfl⟩ := hsuffix
  have hne : text ≠ [] := by
    rintro rfl
    cases hlast
  exact h.noReturn ((List.getLast?_append_of_ne_nil _ hne).trans hlast)

theorem replayClosed_written : ReplayClosed ReaderLine WrittenLines Written := by
  have hmax : pkgMaxLine = 768 := rfl
  constructor
  · exact ⟨[], rfl, by simp⟩
  · rintro bytes ⟨body, rfl, hbody⟩
    exact ⟨body, [], by simp [strBytes], hbody, by simp [pkgMaxLine], by simp, by simp⟩
  · rintro line bytes hline - ⟨body, rfl, hbody⟩
    refine ⟨body ++ [line], by simp [bodyBytes], fun x hx => ?_⟩
    obtain hx | hx := List.mem_append.mp hx
    · exact hbody x hx
    · rw [List.mem_singleton.mp hx]
      exact hline.kept
  · intro line path text hline _ hargs hsafe
    obtain ⟨hend, hplain⟩ := hline.text ((pkgScriptArgPathText_suffix hargs).trans (List.drop_suffix 6 line))
    have hlen := length_pkgScriptArgPathText hargs
    have hshort := hline.short
    have hpath := four_le_of_pkgPathSafe hsafe
    rw [List.length_drop] at hlen
    refine ⟨[], text, by simp [bodyBytes], by simp, ?_, hend, hplain⟩
    split at hlen
    · simp_all
    · omega
  · rintro line path text bytes hline - hargs hsafe ⟨body, u, rfl, hbody, hu, huEnd, huPlain⟩
    obtain ⟨hend, hplain⟩ := hline.text ((pkgScriptArgPathText_suffix hargs).trans (List.drop_suffix 7 line))
    have hlen := length_pkgScriptArgPathText hargs
    have hshort := hline.short
    have hpath := four_le_of_pkgPathSafe hsafe
    rw [List.length_drop] at hlen
    have htext : text.length + 13 ≤ pkgMaxLine := by
      split at hlen
      · simp_all
      · omega
    refine ⟨body ++ [u ++ text], [], ?_, fun x hx => ?_, by simp [pkgMaxLine], by simp, by simp⟩
    · simp [bodyBytes, strBytes]
    · obtain hx | hx := List.mem_append.mp hx
      · exact hbody x hx
      · rw [List.mem_singleton.mp hx]
        exact keptLine_append hu huEnd huPlain htext hend hplain

/-! ## Lines of a file -/

theorem isNewline_of_ne {c : UInt8} (h : c ≠ 0x0a) : isNewline c = false := by simpa [isNewline] using h

theorem lines_bodyBytes {body : List CStr} (h : ∀ line ∈ body, cchar '\n' ∉ line) (tail : List UInt8) :
    lines isNewline (bodyBytes body ++ tail) = body.map strBytes ++ lines isNewline tail := by
  have hplain : ∀ piece ∈ body.map strBytes, ∀ c ∈ piece, isNewline c = false := by
    intro piece hpiece c hc
    obtain ⟨line, hline, rfl⟩ := List.mem_map.mp hpiece
    obtain ⟨d, hd, rfl⟩ := List.mem_map.mp hc
    refine isNewline_of_ne fun hval => h line hline ?_
    have hd' : d = cchar '\n' := Subtype.ext hval
    exact hd' ▸ hd
  have hlines := lines_flatMap hplain (c := 0x0a) (by decide) tail
  rwa [List.flatMap_map] at hlines

theorem PayloadFile.lines_content (h : ∀ piece ∈ f.lines, 0x0a ∉ piece) :
    Orizon.lines isNewline f.content = f.lines := by
  have hlines := lines_flatMap (fun piece hpiece c hc => isNewline_of_ne fun hval => h piece hpiece (hval ▸ hc))
    (c := 0x0a) (by decide) []
  simpa [PayloadFile.content] using hlines

/-- A line of a file that was written reads as the end of the file only if it is that. -/
theorem keptLine_of_written (h : f.Encodable) (hwritten : Written f.content) {piece : List UInt8}
    (hpiece : piece ∈ f.lines) :
    readerView piece ≠ contentEnd := by
  have hkept : ∃ line, piece = strBytes line ∧ KeptLine line := by
    obtain ⟨body, u, heq, hbody, hu, huEnd, huPlain⟩ := hwritten
    have hlines := lines_bodyBytes (fun line hline => (hbody line hline).1) (strBytes u)
    rw [← heq, PayloadFile.lines_content h.lines] at hlines
    rw [hlines, List.mem_append] at hpiece
    obtain hpiece | hpiece := hpiece
    · obtain ⟨line, hline, rfl⟩ := List.mem_map.mp hpiece
      exact ⟨line, rfl, hbody line hline⟩
    · by_cases hnil : u = []
      · simp [hnil, strBytes] at hpiece
      · have hplain : ∀ c ∈ strBytes u, isNewline c = false := by
          intro c hc
          obtain ⟨d, hd, rfl⟩ := List.mem_map.mp hc
          refine isNewline_of_ne fun hval => huPlain ?_
          have hd' : d = cchar '\n' := Subtype.ext hval
          exact hd' ▸ hd
        rw [lines_of_line hplain fun h => hnil (List.map_eq_nil_iff.mp h), List.mem_singleton] at hpiece
        exact ⟨u, hpiece, huPlain, fun hview => (lineView_eq_self (by omega) huEnd).symm.trans hview⟩
  obtain ⟨line, rfl, -, hview⟩ := hkept
  intro hend
  rw [readerView, readerText_strBytes, bytesCstr_strBytes] at hend
  exact h.noEnd (hview hend ▸ hpiece)

/-! ## The whole payload -/

/-- A payload whose files are what its text says: the reader keeps every line, and a path that is
listed twice has the same text. -/
structure PayloadStorable (files : List PayloadFile) : Prop where
  lines : ∀ f ∈ files, ∀ piece ∈ f.lines, StorableLine piece
  once : ∀ f ∈ files, ∀ g ∈ files, f.path = g.path → f.content = g.content

/-- Every file is there with its text. -/
def FilesThere (v : Vfs H) (files : List PayloadFile) : Prop := ∀ f ∈ files, fileAt v f.path = some f.content

theorem replayPayload_encodePayload_ok (hfiles : ∀ f ∈ files, f.Encodable)
    (hsize : (encodePayload files).length ≤ pkgMaxBytes)
    (hret : (replayPayload runPost v (encodePayload files)).1 = 0) :
    ∃ t, replayLines runPost v ((files.map PayloadFile.view).flatMap entryLines) = .ok t ∧ t.inFile = none ∧
      (replayPayload runPost v (encodePayload files)).2 = t.vfs ∧
      lineCost ((files.map PayloadFile.view).flatMap entryLines) ≤ pkgMaxBytes + 1 := by
  obtain ⟨t, hok, hin, hvfs⟩ := replayPayload_zero hret
  have hcost : lineCost (readerLines (encodePayload files)) ≤ (encodePayload files).length + 1 := lineCost_readerLines _
  rw [readerLines_encodePayload hfiles] at hok hcost
  exact ⟨t, hok, hin, hvfs, by omega⟩

/-- Unless a line reads as the end of its file, each path ends with the last file that is listed
for it, as the reader sees it. -/
theorem replay_views (hv : v.vfsInitialized = true) (hfiles : ∀ f ∈ files, f.Encodable)
    (hsize : (encodePayload files).length ≤ pkgMaxBytes) (hret : (replayPayload runPost v (encodePayload files)).1 = 0)
    (hends : ∀ f ∈ files, ∀ piece ∈ f.lines, readerView piece ≠ contentEnd) :
    ∀ f ∈ files, ∃ g ∈ files, g.path = f.path ∧
      fileAt (replayPayload runPost v (encodePayload files)).2 f.path = some (bodyBytes g.view.2) := by
  obtain ⟨t, hok, -, hvfs, hcost⟩ := replayPayload_encodePayload_ok hfiles hsize hret
  have hentries : ∀ x ∈ files.map PayloadFile.view, LinePath x.1 ∧ contentEnd ∉ x.2 := by
    intro x hx
    obtain ⟨f, hf, rfl⟩ := List.mem_map.mp hx
    refine ⟨(hfiles f hf).toLinePath, fun hmem => ?_⟩
    obtain ⟨piece, hpiece, hview⟩ := List.mem_map.mp hmem
    exact hends f hf piece hpiece hview
  have hmax : pkgMaxBytes + 4097 ≤ 2 ^ 64 := by decide
  obtain ⟨-, -, hholds⟩ := replayEntries_ok ⟨rfl, rfl, rfl, hv⟩ hentries (by omega) hok
  intro f hf
  obtain ⟨x, hx, hpath, hhold⟩ := hholds f.view (List.mem_map_of_mem hf)
  obtain ⟨g, hg, rfl⟩ := List.mem_map.mp hx
  rw [hvfs]
  exact ⟨g, hg, hpath, hhold.fileAt⟩

omit [Allocator H] in
/-- Files that are what their texts say have only lines that the reader keeps. -/
theorem storable_of_views (hfiles : ∀ f ∈ files, f.Encodable) (hthere : FilesThere w files)
    (hviews : ∀ f ∈ files, ∃ g ∈ files, g.path = f.path ∧ fileAt w f.path = some (bodyBytes g.view.2)) :
    PayloadStorable files := by
  have honce : ∀ f ∈ files, ∀ g ∈ files, f.path = g.path → f.content = g.content := by
    intro f hf g hg hpath
    have hsame := (hthere f hf).symm.trans (hpath ▸ hthere g hg)
    exact Option.some.inj hsame
  refine ⟨fun f hf piece hpiece => ?_, honce⟩
  obtain ⟨g, hg, hpath, hview⟩ := hviews f hf
  have hbytes : bodyBytes g.view.2 = f.content := Option.some.inj (hview.symm.trans (hthere f hf))
  have hplain : ∀ line ∈ g.view.2, cchar '\n' ∉ line := by
    intro line hline hmem
    obtain ⟨x, hx, rfl⟩ := List.mem_map.mp hline
    refine (hfiles g hg).lines x hx ?_
    have hbyte : (cchar '\n').val ∈ strBytes (readerView x) := List.mem_map_of_mem hmem
    rw [readerView, strBytes_bytesCstr] at hbyte
    exact (readerText_isPrefix x).subset ((List.takeWhile_prefix _).subset hbyte)
  have hlines := lines_bodyBytes hplain []
  have hgf : g.lines = f.lines := by
    rw [← PayloadFile.lines_content (hfiles g hg).lines, honce g hg f hf hpath,
      PayloadFile.lines_content (hfiles f hf).lines]
  rw [List.append_nil, hbytes, PayloadFile.lines_content (hfiles f hf).lines, lines_nil, List.append_nil,
    PayloadFile.view,
    List.map_map, hgf] at hlines
  have hself : ∀ x ∈ f.lines, strBytes (readerView x) = x := by
    intro x hx
    have hmap : f.lines.map (strBytes ∘ readerView) = f.lines.map id := by rw [List.map_id, ← hlines]
    exact List.map_eq_map_iff.mp hmap x hx
  exact (strBytes_readerView_iff piece).mp (hself piece hpiece)

/-- What a replay wrote has no line that reads as the end of its file. -/
theorem noEnd_of_there (hv : v.vfsInitialized = true) (hfiles : ∀ f ∈ files, f.Encodable)
    (hsize : (encodePayload files).length ≤ pkgMaxBytes) (hret : (replayPayload runPost v (encodePayload files)).1 = 0)
    (hfresh : ∀ f ∈ files, fileAt v f.path = none)
    (hthere : FilesThere (replayPayload runPost v (encodePayload files)).2 files) :
    ∀ f ∈ files, ∀ piece ∈ f.lines, readerView piece ≠ contentEnd := by
  obtain ⟨t, hok, hin, hvfs, hcost⟩ := replayPayload_encodePayload_ok hfiles hsize hret
  rw [← readerLines_encodePayload hfiles] at hok hcost
  rw [hvfs] at hthere
  have hN : pkgMaxBytes + 1 + 4096 ≤ 2 ^ 64 := by decide
  -- no file has a NUL, so the payload has none
  have hnul : ∀ f ∈ files, 0 ∉ f.content := fun f hf =>
    replayLines_good replayClosed_noNul hN (fun _ _ => trivial) hcost hv (hfresh f hf) hok hin (hthere f hf)
  have hpayload : 0 ∉ encodePayload files := by
    have hstr : ∀ text : CStr, 0 ∉ strBytes text := by
      intro text h
      obtain ⟨c, -, hc⟩ := List.mem_map.mp h
      exact c.property hc
    intro h
    obtain ⟨f, hf, hmem⟩ := List.mem_flatMap.mp h
    simp [PayloadFile.encode, hstr, hnul f hf] at hmem
  have hlines : ∀ line ∈ readerLines (encodePayload files), ReaderLine line := fun line hline =>
    readerLine_of_noNul hpayload hline
  intro f hf piece hpiece
  have hwritten := replayLines_good replayClosed_written hN hlines hcost hv (hfresh f hf) hok hin (hthere f hf)
  exact keptLine_of_written (hfiles f hf) hwritten hpiece

/-- A payload of files that the reader keeps installs exactly these files.  Where the files were
not there before, no other payload does. -/
theorem replayPayload_encodePayload_iff (v : Vfs H) (files : List PayloadFile) (runPost : Bool)
    (hv : v.vfsInitialized = true) (hfiles : ∀ f ∈ files, f.Encodable)
    (hsize : (encodePayload files).length ≤ pkgMaxBytes)
    (hret : (replayPayload runPost v (encodePayload files)).1 = 0) :
    (PayloadStorable files → FilesThere (replayPayload runPost v (encodePayload files)).2 files) ∧
      ((∀ f ∈ files, fileAt v f.path = none) →
        (FilesThere (replayPayload runPost v (encodePayload files)).2 files ↔ PayloadStorable files)) := by
  have hforward : PayloadStorable files → FilesThere (replayPayload runPost v (encodePayload files)).2 files := by
    intro hstorable f hf
    have hends : ∀ f ∈ files, ∀ piece ∈ f.lines, readerView piece ≠ contentEnd := by
      intro f hf piece hpiece hend
      have hself := (strBytes_readerView_iff piece).mpr (hstorable.lines f hf piece hpiece)
      rw [hend] at hself
      exact (hfiles f hf).noEnd (hself ▸ hpiece)
    obtain ⟨g, hg, hpath, hfile⟩ := replay_views hv hfiles hsize hret hends f hf
    rw [hfile, bodyBytes_view (hstorable.lines g hg), hstorable.once g hg f hf hpath]
  refine ⟨hforward, fun hfresh => ⟨fun hthere => ?_, hforward⟩⟩
  have hends := noEnd_of_there hv hfiles hsize hret hfresh hthere
  exact storable_of_views hfiles hthere (replay_views hv hfiles hsize hret hends)

/-- The file system after boot. -/
def packageDisk : Vfs KernelHeap := vfsInit (bootVfs KernelHeap.boot noDisk bootPersist)

/-- A file with one line. -/
def oneLine (line : List UInt8) : PayloadFile := ⟨cstr "/tmp/a", [line]⟩

/-- A short line is installed. -/
theorem replayPayload_encodePayload_short :
    (replayPayload true packageDisk (encodePayload [oneLine [0x61]])).1 = 0 ∧
      FilesThere (replayPayload true packageDisk (encodePayload [oneLine [0x61]])).2 [oneLine [0x61]] := by
  have hret : (replayPayload true packageDisk (encodePayload [oneLine [0x61]])).1 = 0 := by decide +kernel
  have hfiles : ∀ f ∈ [oneLine [0x61]], f.Encodable := by
    intro f hf
    rw [List.mem_singleton.mp hf]
    exact ⟨⟨by decide, by decide⟩, by decide, by decide, by decide, by decide⟩
  refine ⟨hret,
    (replayPayload_encodePayload_iff packageDisk _ true (by decide +kernel) hfiles (by decide) hret).1 ⟨?_, ?_⟩⟩
  · intro f hf piece hpiece
    rw [List.mem_singleton.mp hf] at hpiece
    rw [show piece = [0x61] from List.mem_singleton.mp hpiece]
    exact ⟨by decide, by decide, by decide⟩
  · intro f hf g hg _
    rw [List.mem_singleton.mp hf, List.mem_singleton.mp hg]

/-- A line that ends in a carriage return loses it. -/
theorem replayPayload_drops_return :
    ¬ ∀ files : List PayloadFile, (∀ f ∈ files, f.Encodable) →
      (replayPayload true packageDisk (encodePayload files)).1 = 0 →
      FilesThere (replayPayload true packageDisk (encodePayload files)).2 files := by
  intro h
  have hthere := h [oneLine [0x61, 0x0d]] (fun f hf => by
    rw [List.mem_singleton.mp hf]
    exact ⟨⟨by decide, by decide⟩, by decide, by decide, by decide, by decide⟩) (by decide +kernel) _
      (List.mem_singleton_self _)
  revert hthere
  decide +kernel

end Orizon
