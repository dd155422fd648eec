import Orizon.Packages.Payload
import Orizon.Vfs.Fill

/-!
# Orizon.Packages.Replay

What the lines of a payload leave of a file.

A line changes the file at its own path alone (`Spares`).  What holds of a new file and is kept
by each line holds of whatever file is at a path after a payload was replayed
(`replayLines_good`).
-/

namespace Orizon

variable {H : Type} [Allocator H] {v w : Vfs H} {path q text line : CStr} {fd : Nat} {bytes data : List UInt8}

/-! ## Paths -/

theorem length_of_pkgPathSafe (h : pkgPathSafe path = true) : path.length < maxPath := by
  rw [pkgPathSafe] at h
  split_ifs at h
  omega

theorem four_le_of_pkgPathSafe (h : pkgPathSafe path = true) : 4 ≤ path.length := by
  have hroots : ∀ root ∈ pkgRoots, 4 ≤ root.length := by decide
  rw [pkgPathSafe] at h
  split_ifs at h with h₁ h₂ h₃ h₄
  have hinside : pkgRoots.any (pkgPathInside path) = true := by simpa using h₄
  obtain ⟨root, hroot, hpath⟩ := List.any_eq_true.mp hinside
  obtain ⟨s, rfl, -⟩ := pathIsInside_iff.mp hpath
  rw [List.length_append]
  have hlen := hroots root hroot
  omega

/-! ## Directories -/

theorem spares_pkgEnsureDir (v : Vfs H) (path q : CStr) : Spares q v (pkgEnsureDir v path).2 := by
  have hmkdir := spares_vfsMkdir v path q
  unfold pkgEnsureDir
  cases vfsStat v path with
  | ok stat => exact Spares.refl q v
  | error e =>
      obtain ⟨r, w, hw⟩ : ∃ r w, vfsMkdir v path = (r, w) := ⟨_, _, rfl⟩
      rw [hw] at hmkdir ⊢
      cases r <;> exact hmkdir

theorem spares_pkgEnsureParentsLoop (fuel : Nat) (v : Vfs H) (cur p q : CStr) :
    Spares q v (pkgEnsureParentsLoop fuel v cur p).2 := by
  induction fuel generalizing v cur p with
  | zero => exact Spares.refl q v
  | succ fuel ih =>
      rw [pkgEnsureParentsLoop]
      dsimp only
      split
      · exact Spares.refl q v
      · split
        · exact Spares.refl q v
        · generalize (if cur.length > 1 then cur ++ [slash] else cur) = cur'
          split
          · exact Spares.refl q v
          · have hdir := spares_pkgEnsureDir v (cur' ++ p.takeWhile (· ≠ slash)) q
            generalize pkgEnsureDir v _ = r at hdir ⊢
            obtain ⟨ok, w⟩ := r
            cases ok with
            | false => exact hdir
            | true => exact hdir.trans (ih w _ _)

theorem spares_pkgEnsureParentDirs (v : Vfs H) (path q : CStr) : Spares q v (pkgEnsureParentDirs v path).2 := by
  rw [pkgEnsureParentDirs]
  split
  · exact Spares.refl q v
  · exact spares_pkgEnsureParentsLoop _ v _ _ q

/-! ## Writing -/

theorem spares_pkgWriteBlobInternal (hlen : path.length < maxPath) (hne : path ≠ q) (v : Vfs H) (data : List UInt8) :
    Spares q v (pkgWriteBlobInternal v path data).2 := by
  have hdirs := spares_pkgEnsureParentDirs v path q
  unfold pkgWriteBlobInternal
  generalize pkgEnsureParentDirs v path = r at hdirs ⊢
  obtain ⟨ok, w⟩ := r
  cases ok with
  | false => exact hdirs
  | true =>
      have hput := spares_vfsPut hlen hne w pkgWriteFlags data
      dsimp only
      generalize vfsPut w path pkgWriteFlags data = r at hput ⊢
      obtain ⟨outcome, u⟩ := r
      cases outcome <;> exact hdirs.trans hput

theorem spares_pkgAppendTextInternal (hlen : path.length < maxPath) (hne : path ≠ q) (v : Vfs H) (text : CStr) :
    Spares q v (pkgAppendTextInternal v path text).2 := by
  have hdirs := spares_pkgEnsureParentDirs v path q
  unfold pkgAppendTextInternal
  generalize pkgEnsureParentDirs v path = r at hdirs ⊢
  obtain ⟨ok, w⟩ := r
  cases ok with
  | false => exact hdirs
  | true =>
      have hopen := spares_vfsOpen hlen hne w pkgAppendFlags
      obtain ⟨-, hhandle⟩ := sameElsewhere_vfsOpen (v := w) hlen pkgAppendFlags
      dsimp only
      generalize vfsOpen w path pkgAppendFlags = r at hopen hhandle ⊢
      obtain ⟨fd, u⟩ := r
      cases fd with
      | none => exact hdirs.trans hopen
      | some fd =>
          have hwrite := spares_vfsWrite (hhandle fd rfl) hne (strBytes text)
          dsimp only at hwrite ⊢
          generalize vfsWrite u fd (strBytes text) = r at hwrite ⊢
          obtain ⟨n, x⟩ := r
          cases n <;> exact ((hdirs.trans hopen).trans hwrite).trans (spares_vfsClose x fd q)

theorem spares_pkgWriteTextChecked (hne : path ≠ q) (v : Vfs H) (text : CStr) (append : Bool) :
    Spares q v (pkgWriteTextChecked v path text append).2 := by
  rw [pkgWriteTextChecked]
  split
  · exact Spares.refl q v
  · have hlen : path.length < maxPath := length_of_pkgPathSafe (by simp_all)
    split
    · exact spares_pkgAppendTextInternal hlen hne v text
    · exact spares_pkgWriteBlobInternal hlen hne v _

theorem pkgWriteBlobInternal_ok (hinit : v.vfsInitialized = true) (hlen : path.length < maxPath)
    (hsmall : data.length + 4095 < 2 ^ 64) (hok : pkgWriteBlobInternal v path data = (true, w)) :
    w.vfsInitialized = true ∧ Holding w path data := by
  have hdirs := spares_pkgEnsureParentDirs v path path hinit
  unfold pkgWriteBlobInternal at hok
  generalize pkgEnsureParentDirs v path = r at hdirs hok
  obtain ⟨ok, u⟩ := r
  cases ok with
  | false => cases hok
  | true =>
      have hbase : putBase u path pkgWriteFlags = [] := if_pos (by decide)
      have hroom : (putBase u path pkgWriteFlags).length + data.length + 4095 < 2 ^ 64 := by
        rw [hbase, List.length_nil]
        omega
      have hput := holding_vfsPut hdirs.1 hlen (.inl (by decide)) hroom
      have hinit' := vfsInitialized_vfsPut u path pkgWriteFlags data
      dsimp only at hok
      generalize vfsPut u path pkgWriteFlags data = r at hput hinit' hok
      obtain ⟨outcome, x⟩ := r
      cases outcome with
      | notOpened => cases hok
      | notWritten => cases hok
      | done =>
          obtain ⟨-, rfl⟩ := Prod.mk.inj hok
          rw [hbase] at hput
          exact ⟨hinit', hput rfl⟩

theorem pkgAppendTextInternal_ok {P : List UInt8 → Prop} (hinit : v.vfsInitialized = true)
    (hlen : path.length < maxPath)
    (hgood : FileGood P v path) (hsmall : ((fileAt v path).getD []).length + text.length + 4095 < 2 ^ 64)
    (hok : pkgAppendTextInternal v path text = (true, w)) :
    w.vfsInitialized = true ∧ Holding w path ((fileAt v path).getD [] ++ strBytes text) := by
  have hdirs := spares_pkgEnsureParentDirs v path path
  unfold pkgAppendTextInternal at hok
  generalize pkgEnsureParentDirs v path = r at hdirs hok
  obtain ⟨ok, u⟩ := r
  cases ok with
  | false => cases hok
  | true =>
      have hgood' := hgood.spared hinit hdirs
      obtain ⟨hinit', -, hfile⟩ := hdirs hinit
      have hopened := vfsInitialized_vfsOpen u path pkgAppendFlags
      rw [← hfile] at hsmall ⊢
      dsimp only at hok hgood' hinit' hsmall ⊢
      obtain hnone | ⟨fd, hfd, hfill⟩ := filling_append hinit' hlen hgood'
        (show hasFlag pkgAppendFlags oTrunc = false by decide) (by decide)
      · rw [hnone] at hok
        cases hok
      · obtain ⟨x, hx⟩ : ∃ x, vfsOpen u path pkgAppendFlags = (some fd, x) := ⟨_, Prod.ext hfd rfl⟩
        rw [hx] at hok hfill hopened
        dsimp only at hok hfill hopened
        have hwritten := vfsInitialized_vfsWrite x fd (strBytes text)
        cases hw : vfsWrite x fd (strBytes text) with
        | mk n y =>
            rw [hw] at hok hwritten
            cases n with
            | error e => cases hok
            | ok n =>
                obtain ⟨-, rfl⟩ := Prod.mk.inj hok
                refine ⟨(vfsInitialized_vfsClose y fd).trans (hwritten.trans hopened), ?_⟩
                exact (hfill.write (by rw [length_strBytes]; exact hsmall) hw).close

/-! ## What stays true of a file -/

/-- The bytes that the rest of a run may add. -/
def lineCost (lines : List CStr) : Nat := (lines.map (·.length + 1)).sum

/-- The bytes satisfy `R`, and `k` more fit below the limit `N`. -/
def Within (R : List UInt8 → Prop) (N k : Nat) (bytes : List UInt8) : Prop := R bytes ∧ bytes.length + k ≤ N

theorem Within.mono {R : List UInt8 → Prop} {N k k' : Nat} (h : Within R N k bytes) (hle : k' ≤ k) :
    Within R N k' bytes :=
  ⟨h.1, by have hfits := h.2; omega⟩

/-- What holds of a file that is being written (`R₀`) or was written (`R`), whatever the lines. -/
structure ReplayClosed (Allowed : CStr → Prop) (R₀ R : List UInt8 → Prop) : Prop where
  nil : R₀ []
  whole : ∀ bytes, R₀ bytes → R bytes
  line : ∀ line bytes, Allowed line → line ≠ contentEnd → R₀ bytes → R₀ (bytes ++ strBytes line ++ [0x0a])
  write : ∀ line path text, Allowed line → pkgStartsWith line (cstr "write ") = true →
    pkgScriptArgPathText (line.drop 6) = some (path, text) → pkgPathSafe path = true → R (strBytes text)
  append : ∀ line path text bytes, Allowed line → pkgStartsWith line (cstr "append ") = true →
    pkgScriptArgPathText (line.drop 7) = some (path, text) → pkgPathSafe path = true → R bytes →
    R (bytes ++ strBytes text ++ [0x0a])

variable {Allowed : CStr → Prop} {R₀ R P Q : List UInt8 → Prop} {N k : Nat}

theorem pkgWriteTextChecked_append_ok (hinit : v.vfsInitialized = true) (hgood : FileGood P v path)
    (hsmall : ((fileAt v path).getD []).length + text.length + 4095 < 2 ^ 64)
    (hok : pkgWriteTextChecked v path text true = (true, w)) :
    w.vfsInitialized = true ∧ Holding w path ((fileAt v path).getD [] ++ strBytes text) := by
  rw [pkgWriteTextChecked] at hok
  by_cases hsafe : pkgPathSafe path = true
  · rw [if_neg (by simp [hsafe]), if_pos rfl] at hok
    exact pkgAppendTextInternal_ok hinit (length_of_pkgPathSafe hsafe) hgood hsmall hok
  · rw [if_pos (by simpa using hsafe)] at hok
    cases hok

omit [Allocator H] in
theorem fileGood_getD (hgood : FileGood P v path) (hnil : P []) : P ((fileAt v path).getD []) := by
  cases hfile : fileAt v path with
  | none => exact hnil
  | some bytes => exact hgood.fileAt hfile

theorem pkgWriteTextChecked_write_good (hinit : v.vfsInitialized = true) (hsmall : text.length + 4095 < 2 ^ 64)
    (hQ : Q (strBytes text)) (hok : pkgWriteTextChecked v path text false = (true, w)) :
    w.vfsInitialized = true ∧ FileGood Q w path := by
  rw [pkgWriteTextChecked] at hok
  by_cases hsafe : pkgPathSafe path = true
  · rw [if_neg (by simp [hsafe]), if_neg (by simp)] at hok
    obtain ⟨hw, hholding⟩ := pkgWriteBlobInternal_ok hinit (length_of_pkgPathSafe hsafe)
      (by rw [length_strBytes]; exact hsmall) hok
    exact ⟨hw, hholding.fileGood hQ⟩
  · rw [if_pos (by simpa using hsafe)] at hok
    cases hok

theorem pkgPathSafe_of_written {append : Bool} (hok : pkgWriteTextChecked v path text append = (true, w)) :
    pkgPathSafe path = true := by
  by_contra hsafe
  rw [pkgWriteTextChecked, if_pos (by simpa using hsafe)] at hok
  cases hok

/-- The text of a script line is no longer than what stands behind the path. -/
theorem length_pkgScriptArgPathText {args : CStr} (h : pkgScriptArgPathText args = some (path, text)) :
    path.length + text.length + (if text = [] then 0 else 1) ≤ args.length := by
  rw [pkgScriptArgPathText] at h
  generalize hrest : args.dropWhile (· = cchar ' ') = rest at h
  have hargs : rest.length ≤ args.length := hrest ▸ (List.dropWhile_suffix _).length_le
  split_ifs at h
  obtain ⟨rfl, rfl⟩ := Prod.mk.inj (Option.some.inj h)
  have hsplit := congrArg List.length (@List.takeWhile_append_dropWhile _ (· ≠ cchar ' ') rest)
  have hdrop : rest.drop (rest.takeWhile (· ≠ cchar ' ')).length = rest.dropWhile (· ≠ cchar ' ') := by
    conv_lhs => arg 2; rw [← @List.takeWhile_append_dropWhile _ (· ≠ cchar ' ') rest]
    rw [List.drop_left]
  rw [List.length_append] at hsplit
  rw [hdrop]
  cases hbehind : rest.dropWhile (· ≠ cchar ' ') with
  | nil =>
      rw [hbehind] at hsplit
      rw [List.length_nil] at hsplit
      rw [List.dropWhile_nil, List.length_nil, if_pos rfl]
      omega
  | cons c t =>
      have hc : c = cchar ' ' := by
        have hhead := List.head?_dropWhile_not (· ≠ cchar ' ') rest
        rw [hbehind] at hhead
        simpa using hhead
      have htext : ((c :: t).dropWhile (· = cchar ' ')).length ≤ t.length := by
        rw [hc, List.dropWhile_cons_of_pos (by simp)]
        exact (List.dropWhile_suffix _).length_le
      rw [hbehind, List.length_cons] at hsplit
      split <;> omega

section Lines

variable (hclosed : ReplayClosed Allowed R₀ R) (hN : N + 4096 ≤ 2 ^ 64) (hinit : v.vfsInitialized = true)
  (hline : Allowed line) (hk : line.length + 1 + k ≤ N) (hgood : FileGood (Within R N (line.length + 1 + k)) v q)

omit [Allocator H] in
include hinit hgood in
theorem good_of_spares (hspares : Spares q v w) : w.vfsInitialized = true ∧ FileGood (Within R N k) w q :=
  ⟨(hspares hinit).1, (hgood.spared hinit hspares).mono fun _ h => h.mono (by omega)⟩

include hclosed hk in
theorem within_nil : Within R N (line.length + 1 + k) [] :=
  ⟨hclosed.whole _ hclosed.nil, by rw [List.length_nil]; omega⟩

include hclosed hN hinit hk hgood in
/-- `touch` appends nothing. -/
theorem touch_good (hok : pkgWriteTextChecked v path [] true = (true, w)) :
    w.vfsInitialized = true ∧ FileGood (Within R N k) w q := by
  by_cases hq : path = q
  · subst hq
    have hold := fileGood_getD hgood (within_nil hclosed hk)
    have hfits := hold.2
    obtain ⟨hw, hholding⟩ := pkgWriteTextChecked_append_ok hinit hgood (by rw [List.length_nil]; omega) hok
    rw [strBytes, List.map_nil, List.append_nil] at hholding
    exact ⟨hw, hholding.fileGood (hold.mono (by omega))⟩
  · have hspares := spares_pkgWriteTextChecked hq v [] true
    rw [hok] at hspares
    exact good_of_spares hinit hgood hspares

include hclosed hN hinit hline hk hgood in
theorem write_good (hwrite : pkgStartsWith line (cstr "write ") = true)
    (hargs : pkgScriptArgPathText (line.drop 6) = some (path, text))
    (hok : pkgWriteTextChecked v path text false = (true, w)) :
    w.vfsInitialized = true ∧ FileGood (Within R N k) w q := by
  by_cases hq : path = q
  · subst hq
    have hlen := length_pkgScriptArgPathText hargs
    rw [List.length_drop] at hlen
    refine pkgWriteTextChecked_write_good hinit (by omega) ⟨?_, ?_⟩ hok
    · exact hclosed.write line path text hline hwrite hargs (pkgPathSafe_of_written hok)
    · rw [length_strBytes]
      omega
  · have hspares := spares_pkgWriteTextChecked hq v text false
    rw [hok] at hspares
    exact good_of_spares hinit hgood hspares

include hclosed hN hinit hline hk hgood in
/-- `append` appends the text, then the line end. -/
theorem append_good {u : Vfs H} (happend : pkgStartsWith line (cstr "append ") = true)
    (hargs : pkgScriptArgPathText (line.drop 7) = some (path, text))
    (htext : pkgWriteTextChecked v path text true = (true, u))
    (hend : pkgWriteTextChecked u path (cstr "\n") true = (true, w)) :
    w.vfsInitialized = true ∧ FileGood (Within R N k) w q := by
  by_cases hq : path = q
  · subst hq
    have hlen := length_pkgScriptArgPathText hargs
    have hshort : 7 + text.length ≤ line.length := by
      have hseven := congrArg List.length (of_decide_eq_true happend)
      rw [List.length_take, List.length_take] at hseven
      have hword : (cstr "append ").length = 7 := by decide
      rw [List.length_drop] at hlen
      omega
    have hold := fileGood_getD hgood (within_nil hclosed hk)
    have hfits := hold.2
    obtain ⟨hu, hmid⟩ := pkgWriteTextChecked_append_ok hinit hgood (by omega) htext
    have hthere := hmid.fileAt
    have hsize : ((fileAt v path).getD [] ++ strBytes text).length =
        ((fileAt v path).getD []).length + text.length := by
      rw [List.length_append, length_strBytes]
    have hnl : strBytes (cstr "\n") = [0x0a] := by decide
    have hone : (cstr "\n").length = 1 := by decide
    obtain ⟨hw, hlast⟩ := pkgWriteTextChecked_append_ok hu (hmid.fileGood (P := fun _ => True) trivial)
      (by rw [hthere, Option.getD_some, hsize]; omega) hend
    rw [hthere, Option.getD_some, hnl] at hlast
    refine ⟨hw,
      hlast.fileGood ⟨hclosed.append line path text _ hline happend hargs (pkgPathSafe_of_written htext) hold.1, ?_⟩⟩
    rw [List.length_append, hsize, List.length_singleton]
    omega
  · have hspares := spares_pkgWriteTextChecked hq v text true
    have hspares' := spares_pkgWriteTextChecked hq u (cstr "\n") true
    rw [htext] at hspares
    rw [hend] at hspares'
    exact good_of_spares hinit hgood (hspares.trans hspares')

end Lines

theorem runPostInstallLine_ok (hok : runPostInstallLine v line = (true, w)) :
    (∀ q, Spares q v w) ∨ (∃ path, pkgWriteTextChecked v path [] true = (true, w)) ∨
      (∃ path text, pkgStartsWith line (cstr "write ") = true ∧
        pkgScriptArgPathText (line.drop 6) = some (path, text) ∧ pkgWriteTextChecked v path text false = (true, w)) ∨
      ∃ path text u, pkgStartsWith line (cstr "append ") = true ∧
        pkgScriptArgPathText (line.drop 7) = some (path, text) ∧ pkgWriteTextChecked v path text true = (true, u) ∧
        pkgWriteTextChecked u path (cstr "\n") true = (true, w) := by
  rw [runPostInstallLine] at hok
  split at hok
  · -- `mkdir` changes no file
    refine .inl fun q => ?_
    have hdirs := spares_pkgEnsureParentDirs v (copyValue maxPath (line.drop 6)) q
    dsimp only at hok
    split at hok
    · cases hok
    · generalize pkgEnsureParentDirs v (copyValue maxPath (line.drop 6)) = r at hdirs hok
      obtain ⟨ok, u⟩ := r
      cases ok with
      | false => cases hok
      | true =>
          have hdir := spares_pkgEnsureDir u (copyValue maxPath (line.drop 6)) q
          dsimp only at hok
          rw [hok] at hdir
          exact hdirs.trans hdir
  · split at hok
    · exact .inr (.inl ⟨_, hok⟩)
    · split at hok
      · rename_i hwrite
        cases hargs : pkgScriptArgPathText (line.drop 6) with
        | none => simp [hargs] at hok
        | some arg =>
            simp only [hargs] at hok
            exact .inr (.inr (.inl ⟨arg.1, arg.2, hwrite, rfl, hok⟩))
      · split at hok
        · rename_i happend
          cases hargs : pkgScriptArgPathText (line.drop 7) with
          | none => simp [hargs] at hok
          | some arg =>
              simp only [hargs] at hok
              cases htext : pkgWriteTextChecked v arg.1 arg.2 true with
              | mk ok u =>
                  rw [htext] at hok
                  cases ok with
                  | false => cases hok
                  | true => exact .inr (.inr (.inr ⟨arg.1, arg.2, u, happend, rfl, htext, hok⟩))
        · refine .inl fun q => ?_
          split at hok
          · obtain ⟨-, rfl⟩ := Prod.mk.inj hok
            exact Spares.refl q v
          · split at hok
            · have hsave := (vfsPersistSave_same v).spares q
              generalize vfsPersistSave v = r at hsave hok
              obtain ⟨r, u⟩ := r
              cases r with
              | error e => cases hok
              | ok x =>
                  obtain ⟨-, rfl⟩ := Prod.mk.inj hok
                  exact hsave
            · cases hok

theorem runPostInstallLine_good (hclosed : ReplayClosed Allowed R₀ R) (hN : N + 4096 ≤ 2 ^ 64)
    (hinit : v.vfsInitialized = true) (hline : Allowed line) (hk : line.length + 1 + k ≤ N)
    (hgood : FileGood (Within R N (line.length + 1 + k)) v q) (hok : runPostInstallLine v line = (true, w)) :
    w.vfsInitialized = true ∧ FileGood (Within R N k) w q := by
  obtain hspares | ⟨path, htouch⟩ | ⟨path, text, hwrite, hargs, hput⟩ | ⟨path, text, u, happend, hargs, htext, hend⟩ :=
    runPostInstallLine_ok hok
  · exact good_of_spares hinit hgood (hspares q)
  · exact touch_good hclosed hN hinit hk hgood htouch
  · exact write_good hclosed hN hinit hline hk hgood hwrite hargs hput
  · exact append_good hclosed hN hinit hline hk hgood happend hargs htext hend

/-! ## Lines of a payload -/

/-- The state while a payload is replayed: whatever file is at `q` is good, also if it is the one
that is open. -/
def ReplayGood (R₀ R : List UInt8 → Prop) (N : Nat) (q : CStr) (s : ReplayState H) (rest : List CStr) : Prop :=
  s.vfs.vfsInitialized = true ∧ lineCost rest ≤ N ∧
    match s.inFile with
    | none => FileGood (Within R N (lineCost rest)) s.vfs q
    | some fd =>
        if s.path = q then ∃ bytes, Filling s.vfs fd q bytes ∧ Within R₀ N (lineCost rest) bytes
        else HandleAt s.vfs fd s.path ∧ FileGood (Within R N (lineCost rest)) s.vfs q

variable {s t : ReplayState H} {rest : List CStr} {runPost : Bool}

omit [Allocator H] in
theorem lineCost_cons (line : CStr) (rest : List CStr) :
    lineCost (line :: rest) = line.length + 1 + lineCost rest := rfl

theorem replayFileLine_ok (hne : line ≠ contentEnd) (hok : replayFileLine s fd line = .ok t) :
    ∃ n u m w, vfsWrite s.vfs fd (strBytes line) = (.ok n, u) ∧ vfsWrite u fd [0x0a] = (.ok m, w) ∧
      t = { s with vfs := w } := by
  rw [replayFileLine, if_neg hne] at hok
  cases htext : vfsWrite s.vfs fd (strBytes line) with
  | mk r u =>
      rw [htext] at hok
      cases r with
      | error e => cases hok
      | ok n =>
          cases hnl : vfsWrite u fd [0x0a] with
          | mk r w =>
              simp only [hnl] at hok
              cases r with
              | error e => cases hok
              | ok m => exact ⟨n, u, m, w, rfl, hnl, (Except.ok.inj hok).symm⟩

theorem replayFileLine_good (hclosed : ReplayClosed Allowed R₀ R) (hN : N + 4096 ≤ 2 ^ 64) (hline : Allowed line)
    (hfile : s.inFile = some fd) (hgood : ReplayGood R₀ R N q s (line :: rest))
    (hok : replayFileLine s fd line = .ok t) : ReplayGood R₀ R N q t rest := by
  obtain ⟨hinit, hcost, hgood⟩ := hgood
  rw [lineCost_cons] at hcost hgood
  rw [hfile] at hgood
  dsimp only at hgood
  by_cases hend : line = contentEnd
  · rw [replayFileLine, if_pos hend] at hok
    obtain rfl := Except.ok.inj hok
    refine ⟨(vfsInitialized_vfsClose _ _).trans hinit, by omega, ?_⟩
    dsimp only
    by_cases hq : s.path = q
    · rw [if_pos hq] at hgood
      obtain ⟨bytes, hfill, hwithin⟩ := hgood
      have hmono := hwithin.mono (show lineCost rest ≤ _ by omega)
      exact hfill.close.fileGood ⟨hclosed.whole _ hmono.1, hmono.2⟩
    · rw [if_neg hq] at hgood
      exact (good_of_spares hinit hgood.2 (spares_vfsClose _ fd q)).2
  · obtain ⟨n, u, m, x, htext, hnl, rfl⟩ := replayFileLine_ok hend hok
    have hfirst := vfsInitialized_vfsWrite s.vfs fd (strBytes line)
    have hsecond := vfsInitialized_vfsWrite u fd [0x0a]
    rw [htext] at hfirst
    rw [hnl] at hsecond
    refine ⟨hsecond.trans (hfirst.trans hinit), by omega, ?_⟩
    simp only [hfile]
    by_cases hq : s.path = q
    · rw [if_pos hq] at hgood ⊢
      obtain ⟨bytes, hfill, hR, hfits⟩ := hgood
      have hmid := hfill.write (by rw [length_strBytes]; omega) htext
      refine ⟨_, hmid.write (by simp; omega) hnl, hclosed.line line bytes hline hend hR, ?_⟩
      simp
      omega
    · rw [if_neg hq] at hgood ⊢
      obtain ⟨hhandle, hgood⟩ := hgood
      have hspares := spares_vfsWrite hhandle hq (strBytes line)
      have hhandle' := (sameElsewhere_vfsWrite hhandle (strBytes line)).2
      rw [htext] at hspares hhandle'
      have hspares' := spares_vfsWrite hhandle' hq [0x0a]
      have hhandle'' := (sameElsewhere_vfsWrite hhandle' [0x0a]).2
      rw [hnl] at hspares' hhandle''
      exact ⟨hhandle'', (good_of_spares hinit hgood (hspares.trans hspares')).2⟩

theorem replayFile_opens (hok : replayFile s line = .ok t) : pkgPathSafe (copyValue maxPath (line.drop 5)) = true ∧
    ∃ fd, t = { s with vfs := t.vfs, inFile := some fd, path := copyValue maxPath (line.drop 5) } := by
  rw [replayFile] at hok
  split at hok
  · cases hok
  · rename_i hsafe
    split at hok
    · cases hok
    · split at hok
      · cases hok
      · exact ⟨by simpa using hsafe, _, by rw [← Except.ok.inj hok]⟩

theorem replayFile_ok (hinit : s.vfs.vfsInitialized = true) (hok : replayFile s line = .ok t) :
    pkgPathSafe (copyValue maxPath (line.drop 5)) = true ∧
      ∃ fd, t = { s with vfs := t.vfs, inFile := some fd, path := copyValue maxPath (line.drop 5) } ∧
        Filling t.vfs fd (copyValue maxPath (line.drop 5)) [] ∧ t.vfs.vfsInitialized = true ∧
        ∀ q, copyValue maxPath (line.drop 5) ≠ q → Spares q s.vfs t.vfs := by
  rw [replayFile] at hok
  generalize copyValue maxPath (line.drop 5) = path at hok ⊢
  by_cases hsafe : pkgPathSafe path = true
  · rw [if_neg (by simp [hsafe])] at hok
    have hlen := length_of_pkgPathSafe hsafe
    have hdirs := spares_pkgEnsureParentDirs s.vfs path
    generalize pkgEnsureParentDirs s.vfs path = r at hdirs hok
    obtain ⟨ok, u⟩ := r
    cases ok with
    | false => cases hok
    | true =>
        have hu := (hdirs path hinit).1
        have hopened := vfsInitialized_vfsOpen u path pkgWriteFlags
        have hfill := filling_vfsOpen hu hlen (.inl (by decide) : StartsAtEnd u path pkgWriteFlags)
        have hspares := fun q hne => spares_vfsOpen (q := q) hlen hne u pkgWriteFlags
        have hbase : putBase u path pkgWriteFlags = [] := if_pos (by decide)
        rw [hbase] at hfill
        dsimp only at hok hopened hspares
        generalize hx : vfsOpen u path pkgWriteFlags = r at hok hopened hspares hfill
        obtain ⟨fd, x⟩ := r
        cases fd with
        | none => cases hok
        | some fd =>
            obtain rfl := Except.ok.inj hok
            obtain hfail | ⟨fd', hfd, hfill⟩ := hfill
            · cases (Prod.mk.inj hfail).1
            · obtain rfl := Option.some.inj hfd
              exact ⟨hsafe, fd, rfl, hfill, hopened, fun q hq => (hdirs q).trans (hspares q hq)⟩
  · rw [if_pos (by simpa using hsafe)] at hok
    cases hok

theorem replayFile_good (hclosed : ReplayClosed Allowed R₀ R) (hnone : s.inFile = none)
    (hgood : ReplayGood R₀ R N q s (line :: rest)) (hok : replayFile s line = .ok t) : ReplayGood R₀ R N q t rest := by
  obtain ⟨hinit, hcost, hgood⟩ := hgood
  rw [lineCost_cons] at hcost hgood
  rw [hnone] at hgood
  obtain ⟨-, fd, ht, hfill, hopened, hspares⟩ := replayFile_ok hinit hok
  have hin : t.inFile = some fd := by rw [ht]
  have hpath : t.path = copyValue maxPath (line.drop 5) := by rw [ht]
  refine ⟨hopened, by omega, ?_⟩
  simp only [hin, hpath]
  by_cases hq : copyValue maxPath (line.drop 5) = q
  · rw [if_pos hq]
    exact ⟨[], hq ▸ hfill, hclosed.nil, by rw [List.length_nil]; omega⟩
  · rw [if_neg hq]
    exact ⟨hfill.handleAt, (good_of_spares hinit hgood (hspares q hq)).2⟩

theorem replayControlLine_good (hclosed : ReplayClosed Allowed R₀ R) (hN : N + 4096 ≤ 2 ^ 64) (hline : Allowed line)
    (hnone : s.inFile = none) (hgood : ReplayGood R₀ R N q s (line :: rest))
    (hok : replayControlLine runPost s line = .ok t) : ReplayGood R₀ R N q t rest := by
  have hfile := fun h => replayFile_good (t := t) hclosed hnone hgood h
  obtain ⟨hinit, hcost, hgood⟩ := hgood
  rw [lineCost_cons] at hcost hgood
  rw [hnone] at hgood
  dsimp only at hgood
  -- most lines leave the files alone
  have hsame : ∀ u : ReplayState H, u.vfs = s.vfs → u.inFile = none → ReplayGood R₀ R N q u rest := by
    intro u hvfs hin
    refine ⟨hvfs ▸ hinit, by omega, ?_⟩
    rw [hin, hvfs]
    exact hgood.mono fun _ h => h.mono (by omega)
  rw [replayControlLine] at hok
  split_ifs at hok
  · exact Except.ok.inj hok ▸ hsame s rfl hnone
  · exact Except.ok.inj hok ▸ hsame _ rfl hnone
  · exact Except.ok.inj hok ▸ hsame _ rfl hnone
  · exact Except.ok.inj hok ▸ hsame _ rfl hnone
  · exact Except.ok.inj hok ▸ hsame _ rfl hnone
  · exact Except.ok.inj hok ▸ hsame s rfl hnone
  · cases hpost : runPostInstallLine s.vfs line with
    | mk ok u =>
        rw [hpost] at hok
        cases ok with
        | false => cases hok
        | true =>
            obtain rfl := Except.ok.inj hok
            obtain ⟨hu, hgood'⟩ := runPostInstallLine_good hclosed hN hinit hline hcost hgood hpost
            refine ⟨hu, by omega, ?_⟩
            rw [hnone]
            exact hgood'
  · exact Except.ok.inj hok ▸ hsame s rfl hnone
  · exact hfile hok

/-- What is closed under the lines holds of whatever file is at a path after they were replayed. -/
theorem replayLines_good (hclosed : ReplayClosed Allowed R₀ R) (hN : N + 4096 ≤ 2 ^ 64) {lines : List CStr}
    (hlines : ∀ line ∈ lines, Allowed line) (hcost : lineCost lines ≤ N) (hinit : v.vfsInitialized = true)
    (hnone : fileAt v q = none) (hok : replayLines runPost v lines = .ok t) (hout : t.inFile = none)
    (hfile : fileAt t.vfs q = some bytes) : R bytes := by
  have hend : ReplayGood R₀ R N q t [] ∧ ∀ line ∈ ([] : List CStr), Allowed line := by
    let inv := fun (s : ReplayState H) (rest : List CStr) => ReplayGood R₀ R N q s rest ∧ ∀ line ∈ rest, Allowed line
    refine foldlM_invariant (show inv _ _ from ?_) ?_ hok
    · exact ⟨⟨hinit, hcost, FileGood.of_none hnone⟩, hlines⟩
    · rintro s line rest u ⟨hgood, hallowed⟩ hstep
      refine ⟨?_, fun x hx => hallowed x (List.mem_cons_of_mem _ hx)⟩
      rw [replayLine] at hstep
      cases hin : s.inFile with
      | none =>
          rw [hin] at hstep
          exact replayControlLine_good hclosed hN (hallowed line List.mem_cons_self) hin hgood hstep
      | some fd =>
          rw [hin] at hstep
          exact replayFileLine_good hclosed hN (hallowed line List.mem_cons_self) hin hgood hstep
  obtain ⟨-, -, hgood⟩ := hend.1
  rw [hout] at hgood
  exact (hgood.fileAt hfile).1

/-! ## The result -/

theorem replayLine_error {r : Int × Vfs H} (h : replayLine runPost s line = .error r) : r.1 < 0 := by
  have hneg : ∀ {n : Int} {w : Vfs H}, n < 0 → (.error (n, w) : Except (Int × Vfs H) (ReplayState H)) =
      .error r → r.1 < 0 :=
    fun hn heq => Except.error.inj heq ▸ hn
  rw [replayLine] at h
  cases hin : s.inFile with
  | some fd =>
      rw [hin] at h
      dsimp only at h
      rw [replayFileLine] at h
      split at h
      · cases h
      · split at h
        · exact hneg (by decide) h
        · split at h
          · exact hneg (by decide) h
          · cases h
  | none =>
      rw [hin] at h
      dsimp only at h
      rw [replayControlLine] at h
      split_ifs at h
      · split at h
        · cases h
        · exact hneg (by decide) h
      · rw [replayFile] at h
        split at h
        · exact hneg (by decide) h
        · split at h
          · exact hneg (by decide) h
          · split at h
            · exact hneg (by decide) h
            · cases h
      · exact hneg (by decide) h

/-- A replay that returns 0 has read every line and closed every file. -/
theorem replayPayload_zero {payload : List UInt8} (h : (replayPayload runPost v payload).1 = 0) :
    ∃ t, replayLines runPost v (readerLines payload) = .ok t ∧ t.inFile = none ∧
      (replayPayload runPost v payload).2 = t.vfs := by
  unfold replayPayload at h ⊢
  cases hok : replayLines runPost v (readerLines payload) with
  | error r =>
      obtain ⟨s, line, hstep⟩ := foldlM_error hok
      have hneg := replayLine_error hstep
      rw [hok] at h
      dsimp only at h
      omega
  | ok t =>
      rw [hok] at h
      dsimp only at h
      cases hin : t.inFile with
      | some fd =>
          rw [hin] at h
          cases h
      | none =>
          rw [hin] at h
          refine ⟨t, rfl, hin, ?_⟩
          dsimp only at h ⊢
          rw [hin]
          dsimp only
          split_ifs <;> rfl

end Orizon
