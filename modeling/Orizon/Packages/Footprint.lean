import Orizon.Packages.Manager
import Orizon.Packages.Replay

/-!
# Orizon.Packages.Footprint

What the package manager touches.

Whatever is in a package, its payload changes files at safe paths and makes directories below the
six roots (`payload_changes`), and a run of the manager's calls changes besides only what lies below
`/workspace/.orizon` (`pkgRun_changes`).  Both go through the functions once, for every relation that
such calls keep (`PkgFrame`).

A directory need not be safe: the parents of a path are made without its doubled slashes, so that
`/workspace//.orizon/x/y`, which is safe, makes `/workspace/.orizon/x`.
-/

namespace Orizon

variable {H : Type} [Allocator H] {P : CStr → Prop} {R : Vfs H → Vfs H → Prop} {v w : Vfs H} {path : CStr}

/-! ## Changes -/

/-- A directory that a package may make. -/
def PkgDir (path : CStr) : Prop := path.length < maxPath ∧ pkgRoots.any (pkgPathInside path) = true

instance (path : CStr) : Decidable (PkgDir path) := inferInstanceAs (Decidable (_ ∧ _))

/-- What calls keep that make directories below the roots, and write and delete files in `P`. -/
structure PkgFrame (P : CStr → Prop) (R : Vfs H → Vfs H → Prop) : Prop extends DeleteFrame PkgDir P P R where
  safe : ∀ {path}, pkgPathSafe path = true → P path
  below : ∀ {path}, P path → PkgDir path

/-- The state of the loop of `pkg_ensure_parent_dirs` for a path below the roots. -/
def ParentsBelow (cur p : CStr) : Prop :=
  cur = [slash] ∧ pkgRoots.any (pkgPathInside (slash :: p)) = true ∨
    1 < cur.length ∧ pkgRoots.any (pkgPathInside cur) = true

/-- The directory of a round. -/
theorem ParentsBelow.next {cur p : CStr} (h : ParentsBelow cur p) :
    1 < ((if cur.length > 1 then cur ++ [slash] else cur) ++ p.takeWhile (· ≠ slash)).length ∧
      pkgRoots.any (pkgPathInside ((if cur.length > 1 then cur ++ [slash] else cur) ++ p.takeWhile (· ≠ slash))) =
        true := by
  obtain ⟨rfl, hpath⟩ | ⟨hcur, hpath⟩ := h
  · -- the first name is that of the root
    have hroots : ∀ root ∈ pkgRoots, root.head? = some slash ∧ root.tail ≠ [] ∧ slash ∉ root.tail := by decide
    obtain ⟨root, hroot, hinside⟩ := List.any_eq_true.mp hpath
    obtain ⟨s, heq, hs⟩ := pathIsInside_iff.mp hinside
    obtain ⟨hhead, hne, hslash⟩ := hroots root hroot
    obtain ⟨name, rfl⟩ : ∃ name, root = slash :: name := ⟨root.tail, (List.eq_cons_of_mem_head? (by simp [hhead]))⟩
    obtain rfl := (List.cons.inj heq).2
    rw [List.tail_cons] at hne hslash
    have htake : (name ++ s).takeWhile (· ≠ slash) = name := by
      rw [List.takeWhile_append_of_pos fun c hc => decide_eq_true (ne_of_mem_of_not_mem hc hslash)]
      obtain rfl | ⟨t, rfl⟩ := hs <;> simp
    rw [if_neg (by decide)]
    change 1 < ([slash] ++ (name ++ s).takeWhile (· ≠ slash)).length ∧
      pkgRoots.any (pkgPathInside ([slash] ++ (name ++ s).takeWhile (· ≠ slash))) = true
    rw [htake]
    refine ⟨Nat.succ_lt_succ (List.length_pos_iff.mpr hne), List.any_eq_true.mpr ⟨_, hroot, ?_⟩⟩
    exact pathIsInside_iff.mpr ⟨[], by simp, .inl rfl⟩
  · rw [if_pos hcur]
    obtain ⟨root, hroot, hinside⟩ := List.any_eq_true.mp hpath
    obtain ⟨s, rfl, hs⟩ := pathIsInside_iff.mp hinside
    have hsplit := (List.append_assoc (root ++ s) [slash] (p.takeWhile (· ≠ slash))).trans (List.append_assoc root s _)
    refine ⟨by simp at hcur ⊢; omega, List.any_eq_true.mpr ⟨root, hroot, pathIsInside_iff.mpr ⟨_, hsplit, .inr ?_⟩⟩⟩
    obtain rfl | ⟨t, rfl⟩ := hs
    · exact ⟨_, rfl⟩
    · exact ⟨_, rfl⟩

theorem handleAt_of_vfsOpen {fd flags : Nat} (hlen : path.length < maxPath)
    (hopen : vfsOpen v path flags = (some fd, w)) : HandleAt w fd path := by
  have hhandle := (sameElsewhere_vfsOpen (v := v) hlen flags).2
  rw [hopen] at hhandle
  exact hhandle fd rfl

namespace PkgFrame

variable (F : PkgFrame P R)

include F

/-- A file that is opened to be read. -/
theorem openRead (v : Vfs H) (path : CStr) : R v (vfsOpen v path 0).2 := by
  obtain ⟨heq, -⟩ | ⟨fd, -, ⟨idx, -, -, heq⟩ | ⟨hcreat, -⟩⟩ := vfsOpen_cases v path 0
  · rw [heq]
    exact F.mount v
  · rw [heq]
    unfold opened openInode
    split
    · exact F.mount v
    · exact F.trans (F.mount v) (F.handles _ _)
  · contradiction

theorem ensureDir (v : Vfs H) (h : PkgDir path) : R v (pkgEnsureDir v path).2 := by
  have hmkdir := F.mkdir v h
  have hrefl := F.refl v
  grind [pkgEnsureDir]

/-- A round of the loop goes on below the roots. -/
theorem ensureParentsLoop (fuel : Nat) (v : Vfs H) {cur p : CStr} (h : ParentsBelow cur p) :
    R v (pkgEnsureParentsLoop fuel v cur p).2 := by
  induction fuel generalizing v cur p with
  | zero => exact F.refl v
  | succ fuel ih =>
      have hnext := h.next
      rw [pkgEnsureParentsLoop]
      dsimp only
      generalize (if cur.length > 1 then cur ++ [slash] else cur) = parent at hnext ⊢
      split
      · exact F.refl v
      split
      · exact F.refl v
      split
      · exact F.refl v
      · next hlong =>
          rw [← List.length_append] at hlong
          have hdir := F.ensureDir v ⟨Nat.lt_of_not_le hlong, hnext.2⟩
          generalize pkgEnsureDir v _ = r at hdir ⊢
          obtain ⟨ok, w⟩ := r
          cases ok with
          | false => exact hdir
          | true => exact F.trans hdir (ih w (.inr hnext))

theorem ensureParents (v : Vfs H) (h : P path) : R v (pkgEnsureParentDirs v path).2 := by
  rw [pkgEnsureParentDirs]
  split
  · exact F.refl v
  · next hhead =>
      obtain ⟨p, rfl⟩ : ∃ p, path = slash :: p := by
        cases path with
        | nil => simp at hhead
        | cons c p => exact ⟨p, by simpa using hhead⟩
      exact F.ensureParentsLoop _ v (.inl ⟨rfl, (F.below h).2⟩)

theorem writeBlob (v : Vfs H) (h : P path) (data : List UInt8) : R v (pkgWriteBlobInternal v path data).2 := by
  have hdirs := F.ensureParents v h
  have hput := fun w => F.put w h pkgWriteFlags data
  have htrans := @F.trans
  grind [pkgWriteBlobInternal]

theorem appendText (v : Vfs H) (h : P path) (text : CStr) : R v (pkgAppendTextInternal v path text).2 := by
  have hdirs := F.ensureParents v h
  have hopen := fun w => F.openFile w pkgAppendFlags h
  have hwritten : ∀ u fd w r x, vfsOpen u path pkgAppendFlags = (some fd, w) →
      vfsWrite w fd (strBytes text) = (r, x) → R u (vfsClose x fd) := by
    intro u fd w r x hfd hwrite
    have hopened := hopen u
    have hwrote := F.write (strBytes text) (handleAt_of_vfsOpen (F.short h) hfd) h
    rw [hfd] at hopened
    rw [hwrite] at hwrote
    exact F.trans (F.trans hopened hwrote) (F.close x fd)
  have htrans := @F.trans
  grind [pkgAppendTextInternal]

theorem writeChecked (v : Vfs H) (path text : CStr) (append : Bool) :
    R v (pkgWriteTextChecked v path text append).2 := by
  rw [pkgWriteTextChecked]
  split
  · exact F.refl v
  · next hsafe =>
      have hplace := F.safe (by simpa using hsafe)
      split
      · exact F.appendText v hplace text
      · exact F.writeBlob v hplace _

theorem postInstallLine (v : Vfs H) (line : CStr) : R v (runPostInstallLine v line).2 := by
  have hdirs := fun (path : CStr) (hsafe : pkgPathSafe path = true) => F.ensureParents v (F.safe hsafe)
  have hdir := fun (path : CStr) w (hsafe : pkgPathSafe path = true) => F.ensureDir w (F.below (F.safe hsafe))
  have hwrite := F.writeChecked
  have hsave := F.save v
  have hrefl := F.refl
  have htrans := @F.trans
  grind [runPostInstallLine]

theorem script (v : Vfs H) (payload : List UInt8) (opening closing : CStr) :
    R v (runPayloadScript v payload opening closing).2 := by
  have hline := F.postInstallLine
  have htrans := @F.trans
  have hstep : ∀ (s : ScriptState (Vfs H)) line, R v s.state →
      Ends (R v ·.2) (R v ·.state) (runPayloadScriptLine runPostInstallLine opening closing s line) := by
    grind [runPayloadScriptLine, Ends]
  have hrun := foldlM_ends hstep (s := ⟨v, false, false, false⟩) (F.refl v) (readerLines payload)
  rw [runPayloadScript, runPayloadScriptWith]
  grind [Ends]

/-- The state of a replay: what is open is a file of the payload. -/
def Replaying (_ : PkgFrame P R) (v : Vfs H) (s : ReplayState H) : Prop :=
  R v s.vfs ∧ ∀ fd ∈ s.inFile, P s.path ∧ HandleAt s.vfs fd s.path

theorem replayFileLine (v : Vfs H) (s : ReplayState H) (fd : Nat) (line : CStr) (hs : R v s.vfs) (hpath : P s.path)
    (hfd : HandleAt s.vfs fd s.path) (hopen : s.inFile = some fd) :
    Ends (R v ·.2) (F.Replaying v) (replayFileLine s fd line) := by
  have hwrite : ∀ {u : Vfs H} bytes, R v u → HandleAt u fd s.path → R v (vfsWrite u fd bytes).2 ∧
      HandleAt (vfsWrite u fd bytes).2 fd s.path :=
    fun bytes hu hhandle => ⟨F.trans hu (F.write bytes hhandle hpath), (sameElsewhere_vfsWrite hhandle bytes).2⟩
  have htext := hwrite (strBytes line) hs hfd
  have hclose := fun u => F.close u fd
  have htrans := @F.trans
  grind [Orizon.replayFileLine, Ends, Replaying]

theorem replayFile (v : Vfs H) (s : ReplayState H) (line : CStr) (hs : R v s.vfs) :
    Ends (R v ·.2) (F.Replaying v) (replayFile s line) := by
  rw [Orizon.replayFile]
  generalize copyValue maxPath (line.drop 5) = path
  split
  · exact hs
  · next hsafe =>
      have hplace := F.safe (by simpa using hsafe)
      have hdirs := F.ensureParents s.vfs hplace
      have hopen := fun u => F.openFile u pkgWriteFlags hplace
      have hhandle := @handleAt_of_vfsOpen H _
      have hlen := F.short hplace
      have htrans := @F.trans
      grind [Ends, Replaying]

theorem replayLine (v : Vfs H) (runPost : Bool) (s : ReplayState H) (line : CStr) (hs : F.Replaying v s) :
    Ends (R v ·.2) (F.Replaying v) (replayLine runPost s line) := by
  have hfile := fun fd => F.replayFileLine v s fd line hs.1
  have hopen := F.replayFile v s line hs.1
  have hline := F.trans hs.1 (F.postInstallLine s.vfs line)
  grind [Orizon.replayLine, replayControlLine, Ends, Replaying]

theorem replay (runPost : Bool) (v : Vfs H) (payload : List UInt8) : R v (replayPayload runPost v payload).2 := by
  have hrun := foldlM_ends (F.replayLine v runPost) (s := ⟨v, false, false, none, [], []⟩) ⟨F.refl v, by simp⟩
    (readerLines payload)
  have hclose := F.close
  have htrans := @F.trans
  rw [replayPayload, replayLines]
  grind [Ends, Replaying]

theorem removeFiles (v : Vfs H) (payload : List UInt8) : R v (removePayloadFiles v payload).vfs := by
  have hdelete := fun (path : CStr) w (hsafe : pkgPathSafe path = true) => F.delete w (F.safe hsafe)
  have hrefl := F.refl
  have htrans := @F.trans
  have hline : ∀ (s : RemoveState H) line, R v s.vfs → R v (removePayloadLine s line).vfs := by
    grind [removePayloadLine, removePayloadFile]
  refine List.foldlRecOn (motive := (R v ·.vfs)) (readerLines payload) removePayloadLine ?_ fun s hs line _ =>
    hline s line hs
  exact F.refl v

end PkgFrame

/-! ## The manager -/

/-- Where the manager writes: at safe paths, and below its own directory. -/
def PkgWrites (path : CStr) : Prop :=
  pkgPathSafe path = true ∨ path.length < maxPath ∧ pkgPathInside path (cstr "/workspace/.orizon") = true

instance (path : CStr) : Decidable (PkgWrites path) := inferInstanceAs (Decidable (_ ∨ _))

theorem pkgWrites_pkgDbFile {dir : CStr} (h : dir ∈ [pkgDbInstalled, pkgDbStore, pkgDbRemoved]) (texts : List CStr) :
    PkgWrites (pkgDbFile dir texts) := by
  have hdirs : ∀ dir ∈ [pkgDbInstalled, pkgDbStore, pkgDbRemoved],
      dir.length ≤ maxPath - 1 ∧ pkgPathInside dir (cstr "/workspace/.orizon") = true := by decide
  obtain ⟨hlen, hinside⟩ := hdirs dir h
  obtain ⟨s, rfl, hs⟩ := pathIsInside_iff.mp hinside
  have hcut : pkgDbFile (cstr "/workspace/.orizon" ++ s) texts = cstr "/workspace/.orizon" ++
      (s ++ ([slash] :: texts).flatten.take (maxPath - 1 - (cstr "/workspace/.orizon" ++ s).length)) := by
    rw [pkgDbFile, snprintfTexts, List.flatten_cons, List.take_append, List.take_of_length_le hlen, List.append_assoc]
  refine .inr ⟨?_, pathIsInside_iff.mpr ⟨_, hcut, ?_⟩⟩
  · simp [pkgDbFile, snprintfTexts, maxPath]
  · obtain rfl | ⟨t, rfl⟩ := hs
    · exact .inr ⟨_, rfl⟩
    · exact .inr ⟨_, rfl⟩

/-- Both paths of a package. -/
theorem pkgWrites_packagePaths {store info name : CStr} {paths : CStr × CStr}
    (hstore : store ∈ [pkgDbInstalled, pkgDbStore, pkgDbRemoved])
    (hinfo : info ∈ [pkgDbInstalled, pkgDbStore, pkgDbRemoved])
    (h : packagePaths store info name = some paths) : PkgWrites paths.1 ∧ PkgWrites paths.2 := by
  rw [packagePaths] at h
  split at h
  · cases h
  · obtain rfl := Option.some.inj h
    exact ⟨pkgWrites_pkgDbFile hstore _, pkgWrites_pkgDbFile hinfo _⟩

namespace PkgFrame

variable (F : PkgFrame PkgWrites R)

include F

theorem readLoop (fd fuel : Nat) (v : Vfs H) (room : Nat) : R v (pkgReadLoop fd fuel v room).vfs := by
  induction fuel generalizing v room with
  | zero => exact F.refl v
  | succ fuel ih =>
      have hread := F.read v fd room
      have hrefl := F.refl
      have htrans := @F.trans
      grind [pkgReadLoop]

theorem readFile (v : Vfs H) (path : CStr) (cap : Nat) : R v (pkgReadFile v path cap).vfs := by
  have hopen := F.openRead v path
  have hloop := fun fd w => F.readLoop fd cap w (cap - 1)
  have hclose := F.close
  have hrefl := F.refl
  have htrans := @F.trans
  grind [pkgReadFile]

theorem transaction {v w : Vfs H} (h : R v w) (state action name version : CStr) (id : Nat) (rollback result : CStr) :
    R v (pkgWriteTransactionState w state action name version id rollback result) :=
  F.trans h (F.writeBlob w (.inr (by decide)) _)

theorem history {v w : Vfs H} (h : R v w) (texts : List CStr) : R v (appendHistory w texts) :=
  List.foldlRecOn (motive := (R v ·)) texts _ h fun w hw text _ => F.trans hw (F.appendText w (.inr (by decide)) text)

theorem depends (v : Vfs H) (deps : List PkgDependency) : R v (checkPackageDependencies v deps).2.2 := by
  have hone : ∀ (w : Vfs H) dep, R w (packageDependencySatisfied w dep).2 := by
    intro w dep
    have hread := F.readFile w
    have hrefl := F.refl w
    grind [packageDependencySatisfied]
  have hloop : R v (checkDependsLoop v deps).2.2 := by
    induction deps generalizing v with
    | nil => exact F.refl v
    | cons dep deps ih => exact F.trans (hone v dep) (ih _)
  have hrefl := F.refl v
  grind [checkPackageDependencies]

variable {s : PkgState H}

theorem readPkgBuf (hs : R v s.vfs) (path : CStr) : R v (s.readPkgBuf path).2.vfs := F.trans hs (F.readFile ..)

theorem readRollbackBuf (hs : R v s.vfs) (path : CStr) : R v (s.readRollbackBuf path).2.vfs :=
  F.trans hs (F.readFile ..)

theorem readRollbackMeta (hs : R v s.vfs) (path : CStr) : R v (s.readRollbackMeta path).2.vfs :=
  F.trans hs (F.readFile ..)

theorem metaList (hs : R v s.vfs) (out state : CStr) : R v (appendInstalledMetaList s out state).2.vfs := by
  have hline : ∀ (r : CStr × PkgState H) name, R v r.2.vfs → R v (appendMetaLine state r name).2.vfs := by
    intro r name hr
    have hread := F.readPkgBuf hr (pkgDbFile pkgDbInstalled [name])
    grind [appendMetaLine]
  refine List.foldlRecOn (motive := (R v ·.2.vfs)) (regularNames s.vfs pkgDbInstalled) (appendMetaLine state) ?_
    fun r hr name _ => hline r name hr
  exact F.trans hs (F.mount s.vfs)

theorem refresh (hs : R v s.vfs) : R v (orizonPkgRefreshDatabase s).vfs := by
  have htexts : ∀ path ∈ [pkgWorkspaceList, pkgSystemList, pkgSystemInstalled, pkgStatusPath], PkgWrites path := by
    decide +kernel
  have hlist := fun (u : PkgState H) (hu : R v u.vfs) out => F.metaList hu out (cstr "installed")
  have hfiles : ∀ (u : PkgState H) list installed status, R v u.vfs → R v ((refreshTexts list installed status).foldl
      (fun v f => (pkgWriteBlobInternal v f.1 (strBytes f.2)).2) u.vfs) := by
    intro u list installed status hu
    refine List.foldlRecOn (motive := (R v ·)) _ _ hu fun w hw f hf => ?_
    exact F.trans hw (F.writeBlob w (htexts f.1 (List.mem_map_of_mem hf)) _)
  grind [orizonPkgRefreshDatabase]

theorem replayStoredPackages (hs : R v s.vfs) : R v (replayStoredPackages s).vfs := by
  have hone : ∀ (u : PkgState H) name, R v u.vfs → R v (replayStored u name).vfs := by
    intro u name hu
    have hread := F.readPkgBuf hu (pkgDbFile pkgDbStore [name])
    have hreplay := F.replay false
    have htrans := @F.trans
    grind [replayStored]
  refine List.foldlRecOn (motive := (R v ·.vfs)) (regularNames s.vfs pkgDbStore) replayStored ?_ fun u hu name _ =>
    hone u name hu
  exact F.trans hs (F.mount s.vfs)

theorem makeDirs (h : R v w) : R v (pkgMakeDirs w) := by
  have hmkdirs : ∀ dir ∈ pkgInitMkdirs, PkgDir dir := by decide
  have hdirs : ∀ dir ∈ pkgInitDirs, PkgDir dir := by decide
  refine List.foldlRecOn (motive := (R v ·)) pkgInitDirs _ ?_ fun w hw dir hdir => ?_
  · refine List.foldlRecOn (motive := (R v ·)) pkgInitMkdirs _ h fun w hw dir hdir => ?_
    exact F.trans hw (F.mkdir w (hmkdirs dir hdir))
  · exact F.trans hw (F.ensureDir w (hdirs dir hdir))

theorem init (hs : R v s.vfs) : R v (orizonPkgInit s).vfs := by
  have hdirs := F.makeDirs hs
  rw [orizonPkgInit]
  generalize pkgMakeDirs s.vfs = w at hdirs ⊢
  exact F.refresh (F.replayStoredPackages hdirs)

theorem ready (hs : R v s.vfs) : R v s.ready.vfs := by
  have hinit := F.init hs
  grind [PkgState.ready]

theorem hook (desktop : DesktopHook H) (h : R v w) (on : Bool) (name : CStr) :
    R v (runDesktopHook desktop on name w).2 := by
  have hdirs : ∀ dir ∈ desktopDirs, PkgDir dir := by decide
  have hfiles : ∀ path ∈ desktopFiles, PkgWrites path := by decide +kernel
  have hdesktop := F.trans h (desktop.footprint F.toCallFrame hdirs hfiles on w)
  grind [runDesktopHook]

theorem store (h : R v w) (sourcePath : CStr) (pkg : PkgManifest) (hash : CStr) (data : List UInt8) (id : Nat) :
    R v (storeInstalledPackage w sourcePath pkg hash data id).2 := by
  rw [storeInstalledPackage]
  split
  · exact h
  · next manifestPath metaPath hpaths =>
      obtain ⟨hmanifest, hmeta⟩ := pkgWrites_packagePaths (by decide) (by decide) hpaths
      have hfirst := F.trans h (F.writeBlob w hmanifest data)
      split
      · next x hwrite =>
          rw [hwrite] at hfirst
          exact hfirst
      · next x hwrite =>
          rw [hwrite] at hfirst
          have hsecond := F.trans hfirst (F.writeBlob x hmeta (strBytes (installedMeta sourcePath pkg hash id)))
          dsimp only
          split
          · next y hwrite =>
              rw [hwrite] at hsecond
              exact hsecond
          · next y hwrite =>
              rw [hwrite] at hsecond
              exact F.history hsecond _

theorem stageOld (hs : R v s.vfs) (manifestPath metaPath : CStr) : R v (stageOld s manifestPath metaPath).2.vfs := by
  have hread := F.readRollbackBuf hs manifestPath
  rw [Orizon.stageOld]
  generalize s.readRollbackBuf manifestPath = r at hread ⊢
  obtain ⟨read, u⟩ := r
  have hmeta := F.readRollbackMeta hread metaPath
  grind

theorem replayOld (hs : R v s.vfs) (old : Option OldPackage) : R v (replayOld s old) := by
  cases old with
  | none => exact hs
  | some o => exact F.trans hs (F.replay false s.vfs (s.payload .pkgRollbackBuf o.pkg))

theorem failedInstall (h : R v w) (old : Option OldPackage) (pkg : PkgManifest) (id : Nat) (result : CStr) :
    R v (failedInstall w old pkg id result) :=
  F.transaction (F.history h _) ..

theorem deleteBoth (h : R v w) {manifestPath metaPath : CStr} (hmanifest : PkgWrites manifestPath)
    (hmeta : PkgWrites metaPath) : R v (deleteBoth w manifestPath metaPath) :=
  F.trans (F.trans h (F.delete w hmanifest)) (F.delete _ hmeta)

/-- A file that is written back if there was one. -/
theorem writeIf (h : R v w) (hpath : PkgWrites path) (size : Nat) (data : List UInt8) :
    R v (if size > 0 then (pkgWriteBlobInternal w path data).2 else w) := by
  split
  · exact F.trans h (F.writeBlob w hpath data)
  · exact h

theorem restoreDatabase (hs : R v s.vfs) (old : Option OldPackage) {manifestPath metaPath : CStr}
    (hmanifest : PkgWrites manifestPath) (hmeta : PkgWrites metaPath) :
    R v (restoreDatabase s old manifestPath metaPath) := by
  cases old with
  | none => exact F.deleteBoth hs hmeta hmanifest
  | some o =>
      have hfirst := F.trans hs (F.writeBlob s.vfs hmanifest (pkgMemBytes s.pkgRollbackBuf 0 o.size))
      exact F.replayOld (F.writeIf hfirst hmeta o.metaSize (pkgMemBytes s.pkgRollbackMeta 0 o.metaSize)) (some o)

/-- The end of a call that succeeds. -/
theorem saved (hs : R v s.vfs) : R v (vfsPersistSave (orizonPkgRefreshDatabase s).vfs).2 :=
  F.trans (F.refresh hs) (F.save _)

theorem finish (desktop : DesktopHook H) (hs : R v s.vfs) (old : Option OldPackage) (pkg : PkgManifest) (id : Nat) :
    R v (finishInstall desktop s old pkg id).2.vfs := by
  have hhook := F.hook desktop hs true pkg.name
  unfold finishInstall
  generalize runDesktopHook desktop true pkg.name s.vfs = r at hhook ⊢
  obtain ⟨lines, w⟩ := r
  dsimp only
  refine F.saved ?_
  dsimp only
  cases old with
  | none => exact F.transaction hhook ..
  | some o => exact F.transaction (F.history hhook _) ..

theorem installPayload (desktop : DesktopHook H) (hs : R v s.vfs) (sourceName : CStr) (buf : PkgBuffer) (size : Nat)
    (pkg : PkgManifest) (hash : CStr) (id : Nat) (old : Option OldPackage) {manifestPath metaPath : CStr}
    (hmanifest : PkgWrites manifestPath) (hmeta : PkgWrites metaPath) :
    R v (installPayload desktop s sourceName buf size pkg hash id old manifestPath metaPath).2.2.vfs := by
  have hreplay := F.trans hs (F.replay true s.vfs (s.payload buf pkg))
  rw [Orizon.installPayload]
  generalize replayPayload true s.vfs (s.payload buf pkg) = r at hreplay ⊢
  obtain ⟨code, w⟩ := r
  dsimp only
  split
  · have hremoved := F.trans hreplay (F.removeFiles w (s.payload buf pkg))
    generalize (removePayloadFiles w (s.payload buf pkg)).vfs = x at hremoved ⊢
    exact F.failedInstall (F.replayOld hremoved old) ..
  · have hstore := F.trans hreplay (F.store (F.refl w) sourceName pkg hash (pkgMemBytes (s.buffer buf) 0 size) id)
    generalize storeInstalledPackage w sourceName pkg hash (pkgMemBytes (s.buffer buf) 0 size) id = r at hstore ⊢
    obtain ⟨ok, x⟩ := r
    cases ok with
    | false =>
        have hremoved := F.trans hstore (F.removeFiles x (s.payload buf pkg))
        dsimp only
        generalize (removePayloadFiles x (s.payload buf pkg)).vfs = y at hremoved ⊢
        exact F.failedInstall (F.restoreDatabase hremoved old hmanifest hmeta) ..
    | true => exact F.finish desktop hstore old pkg id

theorem installParsed (desktop : DesktopHook H) (hs : R v s.vfs) (sourceName : CStr) (buf : PkgBuffer) (size : Nat)
    (pkg : PkgManifest) (hash : CStr) : R v (installParsed desktop s sourceName buf size pkg hash).2.2.vfs := by
  have hdepends := F.trans hs (F.depends s.vfs pkg.depends)
  rw [Orizon.installParsed]
  dsimp only
  generalize checkPackageDependencies s.vfs pkg.depends = r at hdepends ⊢
  obtain ⟨found, lines, w⟩ := r
  cases found with
  | false => exact hdepends
  | true =>
      dsimp only [PkgState.nextTransactionId]
      split
      · exact hdepends
      · next manifestPath metaPath hpaths =>
          obtain ⟨hmanifest, hmeta⟩ := pkgWrites_packagePaths (by decide) (by decide) hpaths
          refine F.installPayload desktop ?_ sourceName buf size pkg hash _ _ hmanifest hmeta
          dsimp only
          exact F.transaction (F.stageOld hdepends ..) ..

theorem installLoaded (desktop : DesktopHook H) (hs : R v s.vfs) (sourceName : CStr) (buf : PkgBuffer) (size : Nat) :
    R v (pkgInstallLoaded desktop s sourceName buf size).2.2.vfs := by
  have hready := F.ready hs
  have hparsed := F.installParsed desktop hready sourceName buf size
  rw [pkgInstallLoaded]
  grind

theorem installFile (desktop : DesktopHook H) (hs : R v s.vfs) (path : CStr) :
    R v (orizonPkgInstallFile desktop s path).2.2.vfs := by
  have hread := F.readPkgBuf hs path
  have hloaded := fun size => F.installLoaded desktop hread path .pkgBuf size
  grind [orizonPkgInstallFile]

theorem installBuffer (desktop : DesktopHook H) (hs : R v s.vfs) (sourceName : Option CStr) (data : List UInt8) :
    R v (orizonPkgInstallBuffer desktop s sourceName data).2.2.vfs := by
  rw [orizonPkgInstallBuffer]
  split
  · exact hs
  · exact F.installLoaded desktop (by exact hs) ..

theorem writeSnapshot (hs : R v s.vfs) (size metaSize : Nat) {manifestPath metaPath : CStr}
    (hmanifest : PkgWrites manifestPath) (hmeta : PkgWrites metaPath) :
    R v (writeSnapshot s size metaSize manifestPath metaPath).2 := by
  have hfirst := F.trans hs (F.writeBlob s.vfs hmanifest (pkgMemBytes s.pkgBuf 0 size))
  have hsecond := fun w => F.writeBlob w hmeta (pkgMemBytes s.pkgRollbackMeta 0 metaSize)
  have htrans := @F.trans
  grind [Orizon.writeSnapshot]

/-- A remove script behind what came before. -/
theorem scriptAfter (h : R v w) (payload : List UInt8) (opening closing : CStr) :
    R v (runPayloadScript w payload opening closing).2 := F.trans h (F.script ..)

theorem removeDatabase (desktop : DesktopHook H) (hs : R v s.vfs) (pkg : PkgManifest) (id size metaSize : Nat)
    {paths removed : CStr × CStr} (hpaths : PkgWrites paths.1 ∧ PkgWrites paths.2)
    (hremoved : PkgWrites removed.1 ∧ PkgWrites removed.2) :
    R v (removeDatabase desktop s pkg id size metaSize paths removed).2.2.vfs := by
  have hfailed : ∀ w, R v w → R v (snapshotTransaction (Orizon.deleteBoth (pkgWriteBlobInternal
      (if metaSize > 0 then (pkgWriteBlobInternal (replayPayload false w (s.payload .pkgBuf pkg)).2 paths.2
        (pkgMemBytes s.pkgRollbackMeta 0 metaSize)).2 else (replayPayload false w (s.payload .pkgBuf pkg)).2) paths.1
      (pkgMemBytes s.pkgBuf 0 size)).2 removed.1 removed.2) (cstr "failed") (cstr "remove") pkg id (cstr "snapshot")
      (cstr "db-cleanup-failed")) := by
    intro w hw
    have hreplay := F.trans hw (F.replay false w (s.payload .pkgBuf pkg))
    have hmeta := F.writeIf hreplay hpaths.2 metaSize (pkgMemBytes s.pkgRollbackMeta 0 metaSize)
    have hmanifest := F.trans hmeta (F.writeBlob _ hpaths.1 (pkgMemBytes s.pkgBuf 0 size))
    exact F.transaction (F.deleteBoth hmanifest hremoved.1 hremoved.2) ..
  have hmeta := F.trans hs (F.delete s.vfs hpaths.2)
  unfold Orizon.removeDatabase
  dsimp only
  split
  · next w hdelete =>
      rw [hdelete] at hmeta
      exact hfailed w hmeta
  next w hdelete =>
  rw [hdelete] at hmeta
  have hmanifest := F.trans hmeta (F.delete w hpaths.1)
  split
  · next x hdelete =>
      rw [hdelete] at hmanifest
      exact hfailed x hmanifest
  next x hdelete =>
  rw [hdelete] at hmanifest
  have hscript := F.scriptAfter hmanifest (s.payload .pkgBuf pkg) (cstr "post-remove") (cstr "end-post-remove")
  generalize runPayloadScript x (s.payload .pkgBuf pkg) _ _ = r at hscript ⊢
  obtain ⟨code, y⟩ := r
  have hhook := F.hook desktop hscript false pkg.name
  generalize runDesktopHook desktop false pkg.name y = r at hhook ⊢
  obtain ⟨lines, z⟩ := r
  dsimp only
  refine F.saved ?_
  dsimp only
  exact F.transaction (F.history hhook _) ..

theorem removeLoaded (desktop : DesktopHook H) (hs : R v s.vfs) (pkg : PkgManifest) (size metaSize : Nat)
    {paths removed : CStr × CStr} (hpaths : PkgWrites paths.1 ∧ PkgWrites paths.2)
    (hremoved : PkgWrites removed.1 ∧ PkgWrites removed.2) :
    R v (removeLoaded desktop s pkg size metaSize paths removed).2.2.vfs := by
  have hnext : R v s.nextTransactionId.2.vfs := hs
  unfold Orizon.removeLoaded
  generalize s.nextTransactionId = r at hnext ⊢
  obtain ⟨id, u⟩ := r
  have hstart := F.transaction hnext (cstr "running") (cstr "remove") pkg.name pkg.version id (cstr "snapshot")
    (cstr "starting")
  dsimp only [snapshotTransaction] at hnext ⊢
  generalize pkgWriteTransactionState u.vfs _ _ _ _ _ _ _ = w at hstart ⊢
  have hwritten := F.writeSnapshot (s := { u with vfs := w }) hstart size metaSize hremoved.1 hremoved.2
  generalize Orizon.writeSnapshot { u with vfs := w } size metaSize removed.1 removed.2 = r at hwritten ⊢
  obtain ⟨ok, x⟩ := r
  cases ok with
  | false => exact F.transaction hwritten ..
  | true =>
      dsimp only
      generalize PkgState.payload _ .pkgBuf pkg = payload
      have hscript := F.scriptAfter hwritten payload (cstr "pre-remove") (cstr "end-pre-remove")
      generalize runPayloadScript x payload _ _ = r at hscript ⊢
      obtain ⟨code, y⟩ := r
      dsimp only
      split
      · exact F.transaction (F.deleteBoth hscript hremoved.1 hremoved.2) ..
      · have hfiles := F.trans hscript (F.removeFiles y payload)
        exact F.removeDatabase desktop hfiles pkg id size metaSize hpaths hremoved

theorem remove (desktop : DesktopHook H) (hs : R v s.vfs) (name : CStr) :
    R v (orizonPkgRemove desktop s name).2.2.vfs := by
  have hready := F.ready hs
  rw [orizonPkgRemove]
  generalize s.ready = u at hready ⊢
  dsimp only
  split
  · exact hready
  split
  · exact hready
  split
  · next paths removed hpaths hremoved =>
      have hpaths := pkgWrites_packagePaths (by decide) (by decide) hpaths
      have hremoved := pkgWrites_packagePaths (by decide) (by decide) hremoved
      have hread := F.readPkgBuf hready paths.1
      generalize u.readPkgBuf paths.1 = r at hread ⊢
      obtain ⟨read, x⟩ := r
      have hmeta := F.readRollbackMeta hread paths.2
      have hloaded := fun pkg size metaSize => F.removeLoaded desktop hmeta pkg size metaSize hpaths hremoved
      grind
  · exact hready

theorem rollbackLoaded (desktop : DesktopHook H) (hs : R v s.vfs) (pkg : PkgManifest) (size : Nat)
    {removed : CStr × CStr} (hremoved : PkgWrites removed.1 ∧ PkgWrites removed.2) :
    R v (rollbackLoaded desktop s pkg size removed).2.2.vfs := by
  have hnext : R v s.nextTransactionId.2.vfs := hs
  unfold Orizon.rollbackLoaded
  generalize s.nextTransactionId = r at hnext ⊢
  obtain ⟨id, u⟩ := r
  have hstart := F.transaction hnext (cstr "running") (cstr "rollback") pkg.name pkg.version id
    (cstr "remove-snapshot") (cstr "starting")
  dsimp only [snapshotTransaction] at hnext ⊢
  generalize pkgWriteTransactionState u.vfs _ _ _ _ _ _ _ = w at hstart ⊢
  have hinstall := F.installLoaded (s := { u with vfs := w }) desktop hstart removed.1 .pkgRollbackBuf size
  generalize pkgInstallLoaded desktop { u with vfs := w } removed.1 .pkgRollbackBuf size = r at hinstall ⊢
  obtain ⟨code, lines, x⟩ := r
  dsimp only
  split
  · exact F.transaction hinstall ..
  · dsimp only
    refine F.saved ?_
    dsimp only
    exact F.transaction (F.history (F.deleteBoth hinstall hremoved.1 hremoved.2) _) ..

theorem rollback (desktop : DesktopHook H) (hs : R v s.vfs) (name : CStr) :
    R v (orizonPkgRollback desktop s name).2.2.vfs := by
  have hready := F.ready hs
  rw [orizonPkgRollback]
  generalize s.ready = u at hready ⊢
  dsimp only
  split
  · exact hready
  split
  · next paths removed hpaths hremoved =>
      have hremoved := pkgWrites_packagePaths (by decide) (by decide) hremoved
      have hread := F.readRollbackBuf hready removed.1
      have hloaded := fun pkg size => F.rollbackLoaded desktop hread pkg size hremoved
      grind
  · exact hready

end PkgFrame

/-! ## What changes -/

section Untouched

variable (P : CStr → Prop) [DecidablePred P]

/-- An entry that calls can put there or take away which write in `P`. -/
def Touched (e : CStr × CStr × InodeType × List UInt8) : Prop := P e.1 ∨ e.2.2.1 = .dir ∧ PkgDir e.1

instance (e : CStr × CStr × InodeType × List UInt8) : Decidable (Touched P e) := inferInstanceAs (Decidable (_ ∨ _))

/-- The other entries. -/
def untouched (v : Vfs H) : List (CStr × CStr × InodeType × List UInt8) :=
  ((List.range v.inodeCount).map fun i => (v.inodes i).entry).filter fun e => ¬ Touched P e

/-- They stay as they are, in a file system that is mounted. -/
def LeavesUntouched (v w : Vfs H) : Prop :=
  v.vfsInitialized = true → w.vfsInitialized = true ∧ (untouched P w).Perm (untouched P v)

variable {P}

omit [Allocator H] in
theorem untouched_of_sameElsewhere (hpath : P path) (h : SameElsewhere path v w) :
    (untouched P w).Perm (untouched P v) := by
  have hrest : ∀ u : Vfs H, untouched P u = (entriesElsewhere u path).filter fun e => ¬ Touched P e := by
    intro u
    rw [entriesElsewhere, List.filter_filter]
    refine List.filter_congr fun e _ => ?_
    -- what is at the path is not among the others
    have hkept : ¬ Touched P e → e.1 ≠ path := fun hnot heq => hnot (.inl (heq ▸ hpath))
    grind
  rw [hrest, hrest]
  exact h.filter _

omit [Allocator H] in
theorem untouched_addInode (hdir : PkgDir path) : untouched P (addInode v path .dir) = untouched P v := by
  have hnew : Touched P (newInode v path .dir).entry :=
    .inr ⟨rfl, by rwa [Inode.entry, newInode, strCpy_of_lt hdir.1]⟩
  have hold : (List.range v.inodeCount).map (fun i => ((addInode v path .dir).inodes i).entry) =
      (List.range v.inodeCount).map fun i => (v.inodes i).entry :=
    List.map_congr_left fun i hi => by rw [inodes_addInode_of_lt (List.mem_range.mp hi)]
  rw [untouched, untouched, inodeCount_addInode, List.range_succ, List.map_append, hold, List.map_singleton,
    inodes_addInode_self, List.filter_append, List.filter_cons_of_neg (by simpa using hnew), List.filter_nil,
    List.append_nil]

omit [Allocator H] in
theorem untouched_same (h : SameFiles v w) : untouched P w = untouched P v := by
  rw [untouched, untouched, h.inodeCount, h.inodes]

theorem leavesUntouched_frame (hsafe : ∀ {path}, pkgPathSafe path = true → P path)
    (hbelow : ∀ {path}, P path → PkgDir path) : PkgFrame P (LeavesUntouched (H := H) P) where
  trans h h' := fun hinit =>
    have hfirst := h hinit
    have hsecond := h' hfirst.1
    ⟨hsecond.1, hsecond.2.trans hfirst.2⟩
  same h := fun hinit => ⟨h.vfsInitialized.trans hinit, by rw [untouched_same h]⟩
  handles v files := fun hinit => ⟨hinit, .refl _⟩
  mount v := fun hinit => by
    rw [show vfsInit v = v from if_pos hinit]
    exact ⟨hinit, .refl _⟩
  short h := (hbelow h).1
  mkdir {path} v h := fun hinit => by
    refine ⟨vfsInitialized_vfsMkdir v path, ?_⟩
    unfold vfsMkdir vfsMake
    rw [show vfsInit v = v from if_pos hinit]
    obtain hc | ⟨e, he⟩ := createInode_cases v path .dir
    · rw [createInode_ok .dir hc, untouched_same (maybePersistPath_same _ path), untouched_addInode h]
    · rw [he]
  openFile {path} v flags h := fun hinit => by
    have hsame := (sameElsewhere_vfsOpen (v := v) (hbelow h).1 flags).1
    rw [show vfsInit v = v from if_pos hinit] at hsame
    exact ⟨vfsInitialized_vfsOpen v path flags, untouched_of_sameElsewhere h hsame⟩
  write {v fd path} buf hfd h := fun hinit =>
    ⟨(vfsInitialized_vfsWrite v fd buf).trans hinit, untouched_of_sameElsewhere h (sameElsewhere_vfsWrite hfd buf).1⟩
  delete {path} v h := fun hinit => by
    refine ⟨?_, untouched_of_sameElsewhere h sameElsewhere_vfsDelete⟩
    obtain ⟨idx, hd⟩ | ⟨e, he⟩ := vfsDelete_cases v path
    · rw [vfsDelete_ok hd]
      exact (persistIf_same _ _).vfsInitialized.trans (by simpa [removeInode] using hinit)
    · rw [he]
      exact hinit
  safe := hsafe
  below := hbelow

end Untouched

theorem pkgDir_of_pkgPathSafe (h : pkgPathSafe path = true) : PkgDir path := by
  refine ⟨length_of_pkgPathSafe h, ?_⟩
  rw [pkgPathSafe] at h
  split_ifs at h with h₁ h₂ h₃ h₄
  simpa using h₄

theorem pkgDir_of_pkgWrites (h : PkgWrites path) : PkgDir path := by
  obtain hsafe | ⟨hlen, hinside⟩ := h
  · exact pkgDir_of_pkgPathSafe hsafe
  · obtain ⟨s, rfl, -⟩ := pathIsInside_iff.mp hinside
    refine ⟨hlen, List.any_eq_true.mpr ⟨cstr "/workspace", by decide, ?_⟩⟩
    exact pathIsInside_iff.mpr ⟨cstr "/.orizon" ++ s, rfl, .inr ⟨_, rfl⟩⟩

/-- Whatever bytes a payload has, its readers put nothing there and take nothing away but files at
safe paths and directories below the roots. -/
theorem payload_changes (v : Vfs H) (hinit : v.vfsInitialized = true) (runPost : Bool) (payload : List UInt8)
    (opening closing : CStr) :
    (untouched (pkgPathSafe · = true) (replayPayload runPost v payload).2).Perm (untouched (pkgPathSafe · = true) v) ∧
      (untouched (pkgPathSafe · = true) (runPayloadScript v payload opening closing).2).Perm
        (untouched (pkgPathSafe · = true) v) ∧
      (untouched (pkgPathSafe · = true) (removePayloadFiles v payload).vfs).Perm
        (untouched (pkgPathSafe · = true) v) := by
  have F : PkgFrame _ _ := leavesUntouched_frame (H := H) (P := (pkgPathSafe · = true)) id pkgDir_of_pkgPathSafe
  exact ⟨(F.replay runPost v payload hinit).2, (F.script v payload opening closing hinit).2,
    (F.removeFiles v payload hinit).2⟩

/-- A payload that asks for the configuration of the server. -/
theorem payload_changes_config :
    (untouched (pkgPathSafe · = true) (replayPayload true (vfsInit (bootVfs KernelHeap.boot noDisk bootPersist))
      (strBytes (cstr "post-install\nwrite /system/ssh.conf password x\n"))).2).Perm (untouched (pkgPathSafe · = true)
        (vfsInit (bootVfs KernelHeap.boot noDisk bootPersist))) :=
  (payload_changes (vfsInit (bootVfs KernelHeap.boot noDisk bootPersist)) (vfsInitialized_vfsInit _) true
    (strBytes (cstr "post-install\nwrite /system/ssh.conf password x\n")) [] []).1

/-- A call of the manager. -/
inductive PkgCall
  | init
  | refreshDatabase
  | installFile (path : CStr)
  | installBuffer (sourceName : Option CStr) (data : List UInt8)
  | remove (name : CStr)
  | rollback (name : CStr)

/-- The state after a call. -/
def pkgCall (desktop : DesktopHook H) (s : PkgState H) : PkgCall → PkgState H
  | .init => orizonPkgInit s
  | .refreshDatabase => orizonPkgRefreshDatabase s
  | .installFile path => (orizonPkgInstallFile desktop s path).2.2
  | .installBuffer sourceName data => (orizonPkgInstallBuffer desktop s sourceName data).2.2
  | .remove name => (orizonPkgRemove desktop s name).2.2
  | .rollback name => (orizonPkgRollback desktop s name).2.2

theorem PkgFrame.call (F : PkgFrame PkgWrites R) (desktop : DesktopHook H) {s : PkgState H} (hs : R v s.vfs)
    (call : PkgCall) : R v (pkgCall desktop s call).vfs := by
  cases call with
  | init => exact F.init hs
  | refreshDatabase => exact F.refresh hs
  | installFile path => exact F.installFile desktop hs path
  | installBuffer sourceName data => exact F.installBuffer desktop hs sourceName data
  | remove name => exact F.remove desktop hs name
  | rollback name => exact F.rollback desktop hs name

/-- A desktop without a profile. -/
def noDesktop : DesktopHook H where
  setEnabled _ v := (false, [], v)
  footprint F _ _ _ v := F.refl v
  closes _ _ h := h

/-- The manager as it is at start. -/
def startManager : PkgState KernelHeap :=
  ⟨vfsInit (bootVfs KernelHeap.boot noDisk bootPersist), fun _ => 0, fun _ => 0, fun _ => 0, false, [], 0⟩

/-- The configuration of the server and the host key are not among it. -/
example : ¬ PkgWrites (cstr "/system/ssh.conf") ∧ ¬ PkgWrites (cstr "/system/ssh_host_rsa.key") := by decide +kernel

end Orizon
