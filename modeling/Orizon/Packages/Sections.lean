import Orizon.Packages.Contents

/-!
# Orizon.Packages.Sections

The sections of a payload, as its three readers see them.

`payloadMode` is what the lines say to `replay_payload`.  `remove_payload_files` reads the same
files out of them (`removePayloadFiles_tried`).  `run_payload_script` has its own reading, which is
the same for a script of plain lines that is closed (`payloadReaders_agree_iff`).
-/

namespace Orizon

/-! ## Modes -/

/-- The scripts that a removal runs. -/
inductive RemoveScript
  | preRemove
  | postRemove
  deriving DecidableEq

/-- The line that opens a script. -/
def RemoveScript.opening : RemoveScript → CStr
  | .preRemove => cstr "pre-remove"
  | .postRemove => cstr "post-remove"

/-- The line that closes it. -/
def RemoveScript.closing : RemoveScript → CStr
  | .preRemove => cstr "end-pre-remove"
  | .postRemove => cstr "end-post-remove"

/-- Where in the payload a line stands, and the files so far. -/
structure PayloadMode where
  inFile : Bool
  inPost : Bool
  script : Option RemoveScript
  paths : List CStr

/-- The start of a payload. -/
def PayloadMode.start : PayloadMode := ⟨false, false, none, []⟩

/-- What a line says to `replay_payload`. -/
def PayloadMode.next (m : PayloadMode) (line : CStr) : PayloadMode :=
  if m.inFile then { m with inFile := line ≠ contentEnd }
  else if isSkippedLine line then m
  else if line = cstr "post-install" then { m with inPost := true }
  else if line = cstr "end-post-install" then { m with inPost := false }
  else if line = cstr "pre-remove" then { m with script := some .preRemove }
  else if line = cstr "post-remove" then { m with script := some .postRemove }
  else if line = cstr "end-pre-remove" ∨ line = cstr "end-post-remove" then { m with script := none }
  else if m.script.isSome || m.inPost || !pkgStartsWith line (cstr "file ") then m
  else { m with inFile := true, paths := m.paths ++ [copyValue maxPath (line.drop 5)] }

/-- The marker lines. -/
def payloadMarkers : List CStr :=
  [cstr "post-install", cstr "end-post-install", cstr "pre-remove", cstr "post-remove", cstr "end-pre-remove",
    cstr "end-post-remove"]

/-- A line that is not skipped and marks nothing. -/
def PlainLine (line : CStr) : Prop := isSkippedLine line = false ∧ line ∉ payloadMarkers

instance : DecidablePred PlainLine := fun line =>
  inferInstanceAs (Decidable (isSkippedLine line = false ∧ line ∉ payloadMarkers))

/-- The lines that `replay_payload` skips as lines of a script. -/
def skippedLines (k : RemoveScript) : PayloadMode → List CStr → List CStr
  | _, [] => []
  | m, line :: lines =>
      (if m.inFile = false ∧ m.script = some k ∧ PlainLine line then [line] else []) ++
        skippedLines k (m.next line) lines

/-! ## The two loops over the files -/

section Files

variable {H : Type} [Allocator H] {v w : Vfs H} {s t : ReplayState H} {m : PayloadMode} {line : CStr} {runPost : Bool}

/-- The state of `replay_payload` in a mode. -/
structure ReplayState.Reads (s : ReplayState H) (m : PayloadMode) : Prop where
  inFile : s.inFile.isSome = m.inFile
  inPost : s.inPost = m.inPost
  script : s.inRemoveScript = m.script.isSome
  paths : s.installed ++ (if m.inFile then [s.path] else []) = m.paths
  safe : ∀ path ∈ m.paths, pkgPathSafe path = true

theorem ReplayState.Reads.next (h : s.Reads m) (hok : replayLine runPost s line = .ok t) : t.Reads (m.next line) := by
  rw [replayLine] at hok
  cases hin : s.inFile with
  | some fd =>
      have hfile : m.inFile = true := by rw [← h.inFile, hin]; rfl
      have hpaths := h.paths
      rw [hfile, if_pos rfl] at hpaths
      rw [hin] at hok
      rw [PayloadMode.next, if_pos hfile]
      dsimp only at hok
      by_cases hend : line = contentEnd
      · rw [replayFileLine, if_pos hend] at hok
        obtain rfl := Except.ok.inj hok
        exact ⟨by simp [hend], h.inPost, h.script, by simpa [hend] using hpaths, h.safe⟩
      · obtain ⟨n, u, k, w, -, -, rfl⟩ := replayFileLine_ok hend hok
        exact ⟨by simp [hin, hend], h.inPost, h.script, by simpa [hend] using hpaths, h.safe⟩
  | none =>
      have hfile : m.inFile = false := by rw [← h.inFile, hin]; rfl
      have hpaths := h.paths
      rw [hfile, if_neg (by simp), List.append_nil] at hpaths
      rw [hin] at hok
      dsimp only at hok
      -- a state with other flags
      have hflags : ∀ (u : ReplayState H) (n : PayloadMode), u.inFile = none → u.installed = s.installed →
          n.inFile = false →
          n.paths = m.paths → u.inPost = n.inPost → u.inRemoveScript = n.script.isSome → u.Reads n := by
        intro u n hu hinstalled hn hpaths' hpost hscript
        exact ⟨by rw [hu, hn]; rfl, hpost, hscript, by simp [hinstalled, hn, hpaths', hpaths],
          by rw [hpaths']; exact h.safe⟩
      rw [PayloadMode.next, if_neg (by simp [hfile])]
      rw [replayControlLine] at hok
      by_cases hskip : isSkippedLine line = true
      · rw [if_pos hskip] at hok ⊢
        exact Except.ok.inj hok ▸ h
      rw [if_neg hskip] at hok ⊢
      by_cases hpost : line = cstr "post-install"
      · rw [if_pos hpost] at hok ⊢
        exact Except.ok.inj hok ▸ hflags _ _ hin rfl hfile rfl rfl h.script
      rw [if_neg hpost] at hok ⊢
      by_cases hendPost : line = cstr "end-post-install"
      · rw [if_pos hendPost] at hok ⊢
        exact Except.ok.inj hok ▸ hflags _ _ hin rfl hfile rfl rfl h.script
      rw [if_neg hendPost] at hok ⊢
      by_cases hpre : line = cstr "pre-remove"
      · rw [if_pos (.inl hpre)] at hok
        rw [if_pos hpre]
        exact Except.ok.inj hok ▸ hflags _ _ hin rfl hfile rfl h.inPost rfl
      by_cases hpostRemove : line = cstr "post-remove"
      · rw [if_pos (.inr hpostRemove)] at hok
        rw [if_neg hpre, if_pos hpostRemove]
        exact Except.ok.inj hok ▸ hflags _ _ hin rfl hfile rfl h.inPost rfl
      rw [if_neg (not_or.mpr ⟨hpre, hpostRemove⟩)] at hok
      rw [if_neg hpre, if_neg hpostRemove]
      by_cases hend : line = cstr "end-pre-remove" ∨ line = cstr "end-post-remove"
      · rw [if_pos hend] at hok ⊢
        exact Except.ok.inj hok ▸ hflags _ _ hin rfl hfile rfl h.inPost rfl
      rw [if_neg hend] at hok ⊢
      by_cases hscript : s.inRemoveScript = true
      · rw [if_pos hscript] at hok
        rw [if_pos (by simp [← h.script, hscript])]
        exact Except.ok.inj hok ▸ h
      rw [if_neg hscript] at hok
      by_cases hinPost : s.inPost = true
      · rw [if_pos hinPost] at hok
        rw [if_pos (by simp [← h.inPost, hinPost])]
        split at hok
        · split at hok
          · exact Except.ok.inj hok ▸ hflags _ _ hin rfl hfile rfl h.inPost h.script
          · cases hok
        · exact Except.ok.inj hok ▸ h
      rw [if_neg hinPost] at hok
      by_cases hfileLine : pkgStartsWith line (cstr "file ") = true
      · rw [if_pos hfileLine] at hok
        rw [if_neg (by simp [← h.script, hscript, ← h.inPost, hinPost, hfileLine])]
        obtain ⟨hsafe, fd, ht⟩ := replayFile_opens hok
        rw [ht]
        refine ⟨rfl, h.inPost, h.script, by simp [hpaths], fun path hpath => ?_⟩
        obtain hpath | hpath := List.mem_append.mp hpath
        · exact h.safe path hpath
        · rw [List.mem_singleton.mp hpath]
          exact hsafe
      · rw [if_neg hfileLine] at hok
        cases hok

/-- The state of `remove_payload_files` in a mode. -/
structure RemoveState.Reads (r : RemoveState H) (m : PayloadMode) : Prop where
  inFile : r.inFile = m.inFile
  inPost : r.inPost = m.inPost
  script : r.inRemoveScript = m.script.isSome
  tried : r.tried = m.paths.filter (pkgPathSafe ·)

omit [Allocator H] in
theorem ne_of_isSkippedLine (hskip : isSkippedLine line = true) {x : CStr} (hx : isSkippedLine x = false) :
    line ≠ x := by
  rintro rfl
  rw [hskip] at hx
  cases hx

omit [Allocator H] in
theorem startsFile_of_isSkippedLine (hskip : isSkippedLine line = true) : pkgStartsWith line (cstr "file ") = false := by
  cases line with
  | nil => decide
  | cons c line =>
      obtain rfl : c = cchar '#' := by simpa [isSkippedLine] using hskip
      rw [pkgStartsWith, strncmpEq, decide_eq_false_iff_not]
      intro h
      have hhead := congrArg List.head? h
      simp [cstr] at hhead
      exact absurd hhead (by decide)

/-- One line of `remove_payload_files`. -/
theorem RemoveState.Reads.next {r : RemoveState H} (h : r.Reads m) (line : CStr) :
    (removePayloadLine r line).Reads (m.next line) := by
  rw [removePayloadLine, PayloadMode.next, h.inFile]
  by_cases hfile : m.inFile = true
  · rw [if_pos hfile, if_pos hfile]
    exact ⟨rfl, h.inPost, h.script, h.tried⟩
  rw [if_neg hfile, if_neg hfile]
  by_cases hskip : isSkippedLine line = true
  · have hne := fun {x : CStr} => ne_of_isSkippedLine hskip (x := x)
    rw [if_pos hskip, if_neg (hne (by decide)), if_neg (hne (by decide)),
      if_neg (not_or.mpr ⟨hne (by decide), hne (by decide)⟩), if_neg (not_or.mpr ⟨hne (by decide), hne (by decide)⟩),
      startsFile_of_isSkippedLine hskip, if_pos (by simp)]
    exact h
  rw [if_neg hskip]
  by_cases hpost : line = cstr "post-install"
  · rw [if_pos hpost, if_pos hpost]
    exact ⟨by simp, rfl, h.script, h.tried⟩
  rw [if_neg hpost, if_neg hpost]
  by_cases hendPost : line = cstr "end-post-install"
  · rw [if_pos hendPost, if_pos hendPost]
    exact ⟨by simp, rfl, h.script, h.tried⟩
  rw [if_neg hendPost, if_neg hendPost]
  by_cases hpre : line = cstr "pre-remove"
  · rw [if_pos (.inl hpre), if_pos hpre]
    exact ⟨by simp, h.inPost, rfl, h.tried⟩
  by_cases hpostRemove : line = cstr "post-remove"
  · rw [if_pos (.inr hpostRemove), if_neg hpre, if_pos hpostRemove]
    exact ⟨by simp, h.inPost, rfl, h.tried⟩
  rw [if_neg (not_or.mpr ⟨hpre, hpostRemove⟩), if_neg hpre, if_neg hpostRemove]
  by_cases hend : line = cstr "end-pre-remove" ∨ line = cstr "end-post-remove"
  · rw [if_pos hend, if_pos hend]
    exact ⟨by simp, h.inPost, rfl, h.tried⟩
  rw [if_neg hend, if_neg hend, h.inPost, h.script, Bool.or_comm m.inPost]
  by_cases hother : (m.script.isSome || m.inPost || !pkgStartsWith line (cstr "file ")) = true
  · rw [if_pos hother, if_pos hother]
    exact h
  · rw [if_neg hother, if_neg hother]
    dsimp only
    by_cases hsafe : pkgPathSafe (copyValue maxPath (line.drop 5)) = true
    · rw [if_neg (by simp [hsafe])]
      exact ⟨rfl, rfl, rfl, by simp [h.tried, hsafe]⟩
    · rw [if_pos (by simpa using hsafe)]
      exact ⟨rfl, rfl, rfl, by simp [h.tried, hsafe]⟩

theorem replayLines_reads {lines : List CStr} (hok : replayLines runPost v lines = .ok t) :
    t.Reads (lines.foldl PayloadMode.next .start) := by
  have hrun : ∀ (lines : List CStr) (s : ReplayState H) (m : PayloadMode), s.Reads m →
      lines.foldlM (replayLine runPost) s = .ok t → t.Reads (lines.foldl PayloadMode.next m) := by
    intro lines
    induction lines with
    | nil =>
        intro s m h hok
        exact foldlM_nil_ok.mp hok ▸ h
    | cons line lines ih =>
        intro s m h hok
        obtain ⟨u, hu, hrest⟩ := foldlM_cons_ok.mp hok
        exact ih u _ (h.next hu) hrest
  exact hrun lines _ _ ⟨rfl, rfl, rfl, rfl, by simp [PayloadMode.start]⟩ hok

theorem removePayloadFiles_reads (w : Vfs H) (payload : List UInt8) :
    (removePayloadFiles w payload).Reads ((readerLines payload).foldl PayloadMode.next .start) := by
  have hrun : ∀ (lines : List CStr) (r : RemoveState H) (m : PayloadMode), r.Reads m →
      (lines.foldl removePayloadLine r).Reads (lines.foldl PayloadMode.next m) := by
    intro lines
    induction lines with
    | nil => exact fun r m h => h
    | cons line lines ih => exact fun r m h => ih _ _ (h.next line)
  exact hrun _ _ _ ⟨rfl, rfl, rfl, rfl⟩

theorem removePayloadFiles_tried (w : Vfs H) {payload : List UInt8}
    (hok : replayLines runPost v (readerLines payload) = .ok t) (hout : t.inFile = none) :
    (removePayloadFiles w payload).tried = t.installed := by
  have hreplay := replayLines_reads hok
  have hremove := removePayloadFiles_reads w payload
  have hfile : ((readerLines payload).foldl PayloadMode.next .start).inFile = false := by
    rw [← hreplay.inFile, hout]
    rfl
  have hpaths := hreplay.paths
  rw [hfile, if_neg (by simp), List.append_nil] at hpaths
  rw [hremove.tried, List.filter_eq_self.mpr hreplay.safe, hpaths]

end Files

/-! ## Scripts -/

section Scripts

variable {σ : Type} {exec : σ → CStr → Bool × σ} {state : σ} {k : RemoveScript} {lines pre body post : List CStr}
  {m : PayloadMode} {line : CStr}

/-- Running lines until one fails. -/
def runLines (exec : σ → CStr → Bool × σ) : σ → List CStr → Bool × σ
  | state, [] => (true, state)
  | state, line :: lines =>
      match exec state line with
      | (true, state) => runLines exec state lines
      | (false, state) => (false, state)

/-- `run_payload_script` runs the lines that `replay_payload` skips as that script, one after the
other, and fails if and only if one of them does. -/
def ScriptAgrees (k : RemoveScript) (payload : List UInt8) : Prop :=
  ∀ (σ : Type) (exec : σ → CStr → Bool × σ) (state : σ),
    (runPayloadScriptWith exec state payload k.opening k.closing).2 =
        (runLines exec state (skippedLines k .start (readerLines payload))).2 ∧
      ((runPayloadScriptWith exec state payload k.opening k.closing).1 < 0 ↔
        (runLines exec state (skippedLines k .start (readerLines payload))).1 = false)

/-- A `file` line was read and no `content-end` since. -/
def unfinishedFile (inFile : Bool) (lines : List CStr) : Bool :=
  lines.foldl (fun inFile line => if inFile then line ≠ contentEnd else pkgStartsWith line (cstr "file ")) inFile

/-- No line that opens the script stands outside of `file` and `content-end`. -/
def NoOpening (k : RemoveScript) (inFile : Bool) (lines : List CStr) : Prop :=
  ∀ pre post, lines = pre ++ k.opening :: post → unfinishedFile inFile pre = true

/-- A script of plain lines that is closed, which are the only ones of its kind in the payload. -/
structure PlainScript (k : RemoveScript) (pre body post : List CStr) : Prop where
  first : NoOpening k false pre
  open_ : unfinishedFile false pre = false
  plain : ∀ line ∈ body, PlainLine line ∨ line = k.opening
  before : skippedLines k .start pre = []
  after : skippedLines k ((pre ++ k.opening :: body ++ [k.closing]).foldl PayloadMode.next .start) post = []

/-- A payload whose script is plain, or that has none. -/
def ScriptPlain (k : RemoveScript) (lines : List CStr) : Prop :=
  (NoOpening k false lines ∧ skippedLines k .start lines = []) ∨
    ∃ pre body post, lines = pre ++ k.opening :: body ++ k.closing :: post ∧ PlainScript k pre body post

theorem noOpening_of_not_mem {inFile : Bool} (h : k.opening ∉ lines) : NoOpening k inFile lines :=
  fun pre post heq => absurd (heq ▸ by simp) h

theorem unfinishedFile_cons (inFile : Bool) (line : CStr) (lines : List CStr) :
    unfinishedFile inFile (line :: lines) =
      unfinishedFile (if inFile then line ≠ contentEnd else pkgStartsWith line (cstr "file ")) lines := rfl

theorem NoOpening.tail {inFile : Bool} (h : NoOpening k inFile (line :: lines)) :
    NoOpening k (if inFile then line ≠ contentEnd else pkgStartsWith line (cstr "file ")) lines := by
  intro pre post heq
  have hcons := h (line :: pre) post (by rw [heq, List.cons_append])
  rwa [unfinishedFile_cons] at hcons

theorem runPayloadScript_before {inFile saw : Bool} (h : NoOpening k inFile lines) :
    lines.foldlM (runPayloadScriptLine exec k.opening k.closing) ⟨state, inFile, false, saw⟩ =
      .ok ⟨state, unfinishedFile inFile lines, false, saw⟩ := by
  induction lines generalizing inFile with
  | nil => rfl
  | cons line lines ih =>
      have hstep : runPayloadScriptLine exec k.opening k.closing ⟨state, inFile, false, saw⟩ line =
          .ok ⟨state, if inFile then line ≠ contentEnd else pkgStartsWith line (cstr "file "), false, saw⟩ := by
        rw [runPayloadScriptLine]
        cases inFile with
        | true => rfl
        | false =>
            have hopen : line ≠ k.opening := by
              rintro rfl
              exact Bool.false_ne_true (h [] lines rfl)
            by_cases hstarts : pkgStartsWith line (cstr "file ") = true
            · simp [hstarts]
            · simp [hstarts, hopen]
      rw [foldlM_cons_ok]
      exact ⟨_, hstep, ih h.tail⟩

theorem runPayloadScript_inside (hclosing : k.closing ∉ body) :
    body.foldlM (runPayloadScriptLine exec k.opening k.closing) ⟨state, false, true, true⟩ =
      match runLines exec state (body.filter (· ≠ k.opening)) with
      | (true, state) => .ok ⟨state, false, true, true⟩
      | (false, state) => .error (-2, state) := by
  induction body generalizing state with
  | nil => rfl
  | cons line body ih =>
      have hne : line ≠ k.closing := fun h => hclosing (by simp [h])
      have hrest : k.closing ∉ body := fun h => hclosing (by simp [h])
      rw [List.foldlM_cons, runPayloadScriptLine]
      by_cases hopen : line = k.opening
      · rw [List.filter_cons_of_neg (by simp [hopen])]
        simp only [if_pos hopen, Bool.not_true, Bool.false_and, if_neg Bool.false_ne_true]
        exact ih hrest
      · rw [List.filter_cons_of_pos (by simp [hopen]), runLines]
        simp only [if_neg hopen, if_neg hne, Bool.not_true, Bool.false_and, if_neg Bool.false_ne_true, if_true]
        obtain ⟨ok, t⟩ := exec state line
        cases ok with
        | false => rfl
        | true => exact ih hrest

/-- The lines of a script that is open: what stands between its first marker and the next marker
that closes it. -/
theorem runPayloadScriptWith_open {payload : List UInt8} (hlines : readerLines payload = pre ++ k.opening :: post)
    (hfirst : NoOpening k false pre) (hopen : unfinishedFile false pre = false) :
    runPayloadScriptWith exec state payload k.opening k.closing =
      match runLines exec state ((post.takeWhile (· ≠ k.closing)).filter (· ≠ k.opening)) with
      | (true, state) => (if k.closing ∈ post then 0 else -3, state)
      | (false, state) => (-2, state) := by
  have hstarts : pkgStartsWith k.opening (cstr "file ") = false := by cases k <;> decide
  have hopened : runPayloadScriptLine exec k.opening k.closing ⟨state, false, false, false⟩ k.opening =
      .ok ⟨state, false, true, true⟩ := by simp [runPayloadScriptLine, hstarts]
  have hclosed : ∀ t : σ, runPayloadScriptLine exec k.opening k.closing ⟨t, false, true, true⟩ k.closing =
      .error (0, t) := by
    have hne : k.closing ≠ k.opening := by cases k <;> decide
    intro t
    simp [runPayloadScriptLine, hne]
  have hbody : k.closing ∉ post.takeWhile (· ≠ k.closing) := fun h => by simpa using List.mem_takeWhile_imp h
  have hinside := @runPayloadScript_inside _ exec state _ _ hbody
  have hpre := @runPayloadScript_before _ exec state _ _ _ false hfirst
  rw [hopen] at hpre
  have hsplit := @List.takeWhile_append_dropWhile _ (· ≠ k.closing) post
  have hrun : (readerLines payload).foldlM (runPayloadScriptLine exec k.opening k.closing)
      ⟨state, false, false, false⟩ =
      (post.takeWhile (· ≠ k.closing) ++ post.dropWhile (· ≠ k.closing)).foldlM
        (runPayloadScriptLine exec k.opening k.closing) ⟨state, false, true, true⟩ := by
    rw [hlines, foldlM_append_of_ok hpre, foldlM_cons_of_ok hopened, hsplit]
  rw [runPayloadScriptWith, hrun]
  generalize runLines exec state ((post.takeWhile (· ≠ k.closing)).filter (· ≠ k.opening)) = r at hinside ⊢
  obtain ⟨ok, t⟩ := r
  cases ok with
  | false => rw [foldlM_append_of_error hinside]
  | true =>
      rw [foldlM_append_of_ok hinside]
      by_cases hmem : k.closing ∈ post
      · have hne : post.dropWhile (· ≠ k.closing) ≠ [] := by
          intro hnil
          rw [hnil, List.append_nil] at hsplit
          exact hbody (hsplit.symm ▸ hmem)
        obtain ⟨line, rest, hrest⟩ := List.exists_cons_of_ne_nil hne
        obtain rfl : line = k.closing := by
          have hhead := List.head?_dropWhile_not (· ≠ k.closing) post
          rw [hrest] at hhead
          simpa using hhead
        rw [hrest, foldlM_cons_of_error (hclosed t), if_pos hmem]
      · have hnil : post.dropWhile (· ≠ k.closing) = [] := by
          rw [List.dropWhile_eq_nil_iff]
          intro line hline
          have hne : line ≠ k.closing := fun h => hmem (h ▸ hline)
          simpa using hne
        rw [hnil, if_neg hmem]
        rfl

theorem runPayloadScriptWith_none {payload : List UInt8} (h : NoOpening k false (readerLines payload)) :
    runPayloadScriptWith exec state payload k.opening k.closing = (1, state) := by
  rw [runPayloadScriptWith, runPayloadScript_before h]
  rfl

/-! ## The lines that are skipped -/

theorem skippedLines_append (k : RemoveScript) (m : PayloadMode) (a b : List CStr) :
    skippedLines k m (a ++ b) = skippedLines k m a ++ skippedLines k (a.foldl PayloadMode.next m) b := by
  induction a generalizing m with
  | nil => rfl
  | cons line a ih => rw [List.cons_append, skippedLines, skippedLines, ih, List.foldl_cons, List.append_assoc]

theorem plainLine_of_skipped (h : line ∈ skippedLines k m lines) : PlainLine line := by
  induction lines generalizing m with
  | nil => cases h
  | cons first lines ih =>
      rw [skippedLines, List.mem_append] at h
      obtain h | h := h
      · split at h
        · rename_i hplain
          exact List.mem_singleton.mp h ▸ hplain.2.2
        · cases h
      · exact ih h

/-- Where no file is unfinished, `replay_payload` reads none. -/
theorem inFile_of_unfinishedFile {inFile : Bool} (hm : m.inFile = true → inFile = true)
    (h : unfinishedFile inFile lines = false) : (lines.foldl PayloadMode.next m).inFile = false := by
  induction lines generalizing m inFile with
  | nil => exact Bool.eq_false_iff.mpr fun hfile => Bool.false_ne_true (h.symm.trans (hm hfile))
  | cons line lines ih =>
      rw [unfinishedFile_cons] at h
      refine ih (fun hnext => ?_) h
      rw [PayloadMode.next] at hnext
      by_cases hfile : m.inFile = true
      · rw [if_pos hfile] at hnext
        rwa [hm hfile]
      · rw [if_neg hfile] at hnext
        split_ifs at hnext <;> try exact absurd hnext hfile
        -- a `file` line is one for both
        have hstarts : pkgStartsWith line (cstr "file ") = true := by simp_all
        cases inFile with
        | false => exact hstarts
        | true =>
            have hne : line ≠ contentEnd := by
              rintro rfl
              exact absurd hstarts (by decide)
            simpa using hne

theorem next_opening (hm : m.inFile = false) : m.next k.opening = { m with script := some k } := by
  rw [PayloadMode.next, hm, if_neg (by simp)]
  cases k <;> rfl

theorem next_plain (hm : m.inFile = false) (hscript : m.script = some k) (hplain : PlainLine line) :
    m.next line = m := by
  obtain ⟨hskip, hmarker⟩ := hplain
  simp only [payloadMarkers, List.mem_cons, List.not_mem_nil, or_false, not_or] at hmarker
  obtain ⟨h₁, h₂, h₃, h₄, h₅, h₆⟩ := hmarker
  rw [PayloadMode.next, hm, if_neg (by simp), hskip, if_neg (by simp), if_neg h₁, if_neg h₂, if_neg h₃, if_neg h₄,
    if_neg (not_or.mpr ⟨h₅, h₆⟩), hscript]
  rfl

theorem skippedLines_body (hm : m.inFile = false) (hscript : m.script = some k)
    (hbody : ∀ line ∈ body, PlainLine line ∨ line = k.opening) :
    body.foldl PayloadMode.next m = m ∧ skippedLines k m body = body.filter (· ≠ k.opening) := by
  have hopening : ¬ PlainLine k.opening := by cases k <;> decide
  induction body with
  | nil => exact ⟨rfl, rfl⟩
  | cons line body ih =>
      obtain ⟨hfold, hskipped⟩ := ih fun x hx => hbody x (by simp [hx])
      have hnext : m.next line = m := by
        obtain hplain | rfl := hbody line (by simp)
        · exact next_plain hm hscript hplain
        · rw [next_opening hm, ← hscript]
      rw [List.foldl_cons, skippedLines, hnext, hfold, hskipped]
      refine ⟨rfl, ?_⟩
      by_cases hopen : line = k.opening
      · rw [List.filter_cons_of_neg (by simp [hopen]), hopen, if_neg fun h => hopening h.2.2, List.nil_append]
      · have hplain := (hbody line (by simp)).resolve_right hopen
        rw [List.filter_cons_of_pos (by simp [hopen]), if_pos ⟨hm, hscript, hplain⟩, List.singleton_append]

/-- The lines that are skipped before, in and behind a script of plain lines. -/
theorem skippedLines_split (post : List CStr) (hopen : unfinishedFile false pre = false)
    (hbody : ∀ line ∈ body, PlainLine line ∨ line = k.opening) :
    skippedLines k .start (pre ++ k.opening :: body ++ k.closing :: post) =
      skippedLines k .start pre ++ (body.filter (· ≠ k.opening) ++
        skippedLines k ((pre ++ k.opening :: body ++ [k.closing]).foldl PayloadMode.next .start) post) := by
  have hmarkers : ¬ PlainLine k.opening ∧ ¬ PlainLine k.closing := by cases k <;> decide
  have hm : (pre.foldl PayloadMode.next .start).inFile = false :=
      inFile_of_unfinishedFile (by simp [PayloadMode.start]) hopen
  obtain ⟨hfold, hskipped⟩ :=
      skippedLines_body (m := { pre.foldl PayloadMode.next .start with script := some k }) hm rfl hbody
  have hmode : (pre ++ k.opening :: body ++ [k.closing]).foldl PayloadMode.next .start =
      ({ pre.foldl PayloadMode.next .start with script := some k } : PayloadMode).next k.closing := by
    simp only [List.foldl_append, List.foldl_cons, List.foldl_nil, next_opening hm, hfold]
  rw [hmode, List.append_assoc, List.cons_append, skippedLines_append, skippedLines, if_neg fun h => hmarkers.1 h.2.2,
    List.nil_append, next_opening hm, skippedLines_append, hskipped, hfold, skippedLines,
    if_neg fun h => hmarkers.2 h.2.2,
    List.nil_append]

/-! ## When the readers agree -/

theorem exists_first_opening (h : ¬ NoOpening k false lines) : ∃ pre post, lines = pre ++ k.opening :: post ∧
    unfinishedFile false pre = false ∧ NoOpening k false pre := by
  have hsome : ∃ pre post, lines = pre ++ k.opening :: post ∧ unfinishedFile false pre = false := by
    simp only [NoOpening, not_forall, Bool.not_eq_true] at h
    obtain ⟨pre, post, heq, hopen⟩ := h
    exact ⟨pre, post, heq, hopen⟩
  obtain ⟨pre, post, heq, hopen⟩ := hsome
  induction hlen : pre.length using Nat.strong_induction_on generalizing pre post with
  | _ n ih =>
      by_cases hfirst : NoOpening k false pre
      · exact ⟨pre, post, heq, hopen, hfirst⟩
      · -- there is one before it
        simp only [NoOpening, not_forall, Bool.not_eq_true] at hfirst
        obtain ⟨p, q, hpre, hopen'⟩ := hfirst
        refine ih p.length ?_ p (q ++ k.opening :: post) ?_ hopen' rfl
        · rw [← hlen, hpre, List.length_append, List.length_cons]
          omega
        · rw [heq, hpre, List.append_assoc, List.cons_append]

theorem takeWhile_marker {marker : CStr} (h : marker ∉ body) : (body ++ marker :: post).takeWhile (· ≠ marker) =
    body := by
  rw [List.takeWhile_append_of_pos, List.takeWhile_cons_of_neg (by simp), List.append_nil]
  intro line hline
  have hne : line ≠ marker := fun heq => h (heq ▸ hline)
  simpa using hne

theorem scriptAgrees_iff (k : RemoveScript) (payload : List UInt8) :
    ScriptAgrees k payload ↔ ScriptPlain k (readerLines payload) := by
  constructor
  · intro h
    -- an interpreter that lists the lines it is given
    obtain ⟨hlist, hresult⟩ := h (List CStr) (fun l line => (true, l ++ [line])) []
    have hall : ∀ (lines l : List CStr), runLines (fun l line => (true, l ++ [line])) l lines = (true, l ++ lines) := by
      intro lines
      induction lines with
      | nil => simp [runLines]
      | cons line lines ih => simp [runLines, ih]
    rw [hall] at hlist hresult
    by_cases hnone : NoOpening k false (readerLines payload)
    · rw [runPayloadScriptWith_none hnone] at hlist
      exact .inl ⟨hnone, hlist.symm⟩
    · obtain ⟨pre, post, hlines, hopen, hfirst⟩ := exists_first_opening hnone
      rw [runPayloadScriptWith_open hlines hfirst hopen, hall] at hlist hresult
      have hclosed : k.closing ∈ post := by
        by_contra hmem
        simp [hmem] at hresult
      obtain ⟨body, rest, rfl, hbody⟩ := List.eq_append_cons_of_mem hclosed
      rw [takeWhile_marker hbody] at hlist
      -- what was run is all there was to skip, so it is plain
      have hlist : body.filter (· ≠ k.opening) = skippedLines k .start (readerLines payload) := by simpa using hlist
      have hplain : ∀ line ∈ body, PlainLine line ∨ line = k.opening := by
        intro line hline
        by_cases hopening : line = k.opening
        · exact .inr hopening
        · have hmem : line ∈ body.filter (· ≠ k.opening) := List.mem_filter.mpr ⟨hline, by simpa using hopening⟩
          exact .inl (plainLine_of_skipped (hlist ▸ hmem))
      have hsplit := skippedLines_split rest hopen hplain
      rw [List.append_assoc, List.cons_append, ← hlines, ← hlist] at hsplit
      have hlength := congrArg List.length hsplit
      simp only [List.length_append] at hlength
      refine .inr ⟨pre, body, rest, by rw [hlines, List.append_assoc, List.cons_append], hfirst, hopen, hplain, ?_, ?_⟩
      · exact List.length_eq_zero_iff.mp (by omega)
      · exact List.length_eq_zero_iff.mp (by omega)
  · rintro h σ exec state
    obtain ⟨hnone, hskipped⟩ | ⟨pre, body, post, hlines, hplain⟩ := h
    · rw [runPayloadScriptWith_none hnone, hskipped]
      simp [runLines]
    · have hclosing : k.closing ∉ body := by
        have hmarker : ¬ PlainLine k.closing ∧ k.closing ≠ k.opening := by cases k <;> decide
        intro hmem
        exact (hplain.plain _ hmem).elim hmarker.1 hmarker.2
      have hsplit := skippedLines_split post hplain.open_ hplain.plain
      rw [hplain.before, hplain.after, List.nil_append, List.append_nil, ← hlines] at hsplit
      rw [List.append_assoc, List.cons_append] at hlines
      rw [runPayloadScriptWith_open hlines hplain.first hplain.open_, takeWhile_marker hclosing, hsplit]
      obtain ⟨ok, t⟩ := runLines exec state (body.filter (· ≠ k.opening))
      cases ok <;> simp

end Scripts

/-- The readers of a payload agree: a removal tries the files that were installed, and runs each
script as the installation read it. -/
def PayloadReadersAgree {H : Type} [Allocator H] (v : Vfs H) (payload : List UInt8) : Prop :=
  (∃ t, replayLines true v (readerLines payload) = .ok t ∧
    ∀ w : Vfs H, (removePayloadFiles w payload).tried = t.installed) ∧ ∀ k, ScriptAgrees k payload

/-- The readers of a payload that installs agree if and only if its remove scripts are plain. -/
theorem payloadReaders_agree_iff {H : Type} [Allocator H] (v : Vfs H) (payload : List UInt8)
    (hret : (replayPayload true v payload).1 = 0) :
    PayloadReadersAgree v payload ↔ ∀ k, ScriptPlain k (readerLines payload) := by
  have hscripts : (∀ k, ScriptAgrees k payload) ↔ ∀ k, ScriptPlain k (readerLines payload) :=
    forall_congr' fun k => scriptAgrees_iff k payload
  obtain ⟨t, hok, hout, -⟩ := replayPayload_zero hret
  rw [PayloadReadersAgree, hscripts]
  exact and_iff_right ⟨t, hok, fun w => removePayloadFiles_tried w hok hout⟩

/-- A payload with a file and a script that runs before its removal. -/
def scriptPayload (lines : List String) : List UInt8 :=
  (["file /tmp/a", "content-end", "pre-remove"] ++ lines ++ ["end-pre-remove"]).flatMap fun line =>
    strBytes (cstr line) ++ [0x0a]

/-- A script of one plain line. -/
theorem payloadReaders_agree_plain : (replayPayload true packageDisk (scriptPayload ["echo bye"])).1 = 0 ∧
    PayloadReadersAgree packageDisk (scriptPayload ["echo bye"]) := by
  have hret : (replayPayload true packageDisk (scriptPayload ["echo bye"])).1 = 0 := by decide +kernel
  refine ⟨hret, (payloadReaders_agree_iff packageDisk _ hret).mpr fun k => ?_⟩
  have hlines : readerLines (scriptPayload ["echo bye"]) = [cstr "file /tmp/a", contentEnd] ++
      RemoveScript.preRemove.opening :: [cstr "echo bye"] ++ RemoveScript.preRemove.closing :: [] := by decide +kernel
  rw [hlines]
  cases k with
  | preRemove =>
      exact .inr ⟨_, _, _, rfl, noOpening_of_not_mem (by decide), by decide, by decide, by decide, rfl⟩
  | postRemove => exact .inl ⟨noOpening_of_not_mem (by decide), by decide⟩

/-- A blank line in a script makes a package that cannot be removed. -/
theorem payloadReaders_blank_line : ¬ ∀ payload, (replayPayload true packageDisk payload).1 = 0 →
    PayloadReadersAgree packageDisk payload := by
  intro h
  obtain ⟨-, hscripts⟩ := h (scriptPayload [""]) (by decide +kernel)
  obtain ⟨-, hresult⟩ := hscripts .preRemove (Vfs KernelHeap) runPostInstallLine packageDisk
  revert hresult
  decide +kernel

end Orizon
