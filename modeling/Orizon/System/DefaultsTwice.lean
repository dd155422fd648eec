import Orizon.System.Defaults
import Orizon.Vfs.Grow

/-!
# Orizon.System.DefaultsTwice

A second run of `system_ensure_defaults`.

A default that is there is left alone, and so is one that cannot be created: neither the table
nor the parent directory changes until the next run (`ensures_defaultStep`).  So a second run
changes the inode table exactly if it appends the line to the service file again
(`systemEnsureDefaults_twice_iff`).
-/

namespace Orizon

/-! ## Settled defaults -/

/-- The path a statement may create, and whether it needs a handle for it. -/
def DefaultStep.target : DefaultStep → Option (Bool × CStr)
  | .count _ => none
  | .dir path => some (false, path)
  | .file path _ => some (true, path)
  | .desktopState _ => some (true, orizonDesktopStatePath)

/-- Creating the one is creating the parent of the other. -/
def CreatesParent (made other : Option (Bool × CStr)) : Prop :=
  ∃ p ∈ made, ∃ q ∈ other, getParentPath q.2 = p.2

instance : DecidableRel CreatesParent := fun made other =>
  match made, other with
  | some p, some q => decidable_of_iff (getParentPath q.2 = p.2) (by simp [CreatesParent])
  | none, _ => isFalse (by simp [CreatesParent])
  | some _, none => isFalse (by simp [CreatesParent])

section Settled

variable {H : Type} [Allocator H] {v w : Vfs H} {s : Ensured H} {i : DefaultStep} {k : Option (Bool × CStr)}
  {path text : CStr}

/-- Nothing can be created there, or no handle is left to do so. -/
def DefaultSettled (v : Vfs H) (k : Option (Bool × CStr)) : Prop :=
  ∀ p ∈ k, ¬ Creatable v p.2 ∨ p.1 = true ∧ findFreeFile v = none

omit [Allocator H] in
theorem OnlyReads.settled (h : OnlyReads v w) (hv : DefaultSettled v k) : DefaultSettled w k := fun p hp => by
  refine (hv p hp).imp (fun hnot hc => hnot ?_) fun hfull => by rwa [h.sameOpen.findFreeFile_eq]
  refine ⟨h.inodeCount ▸ hc.room, ?_, ?_⟩
  · rw [← h.findInode_eq]
    exact hc.fresh
  · simpa only [h.findInode_eq] using hc.parent

omit [Allocator H] in
theorem CreatesOnly.settled (h : CreatesOnly path v w) (hv : DefaultSettled v k)
    (hspoils : ¬ CreatesParent (some (true, path)) k) : DefaultSettled w k := fun p hp =>
  (hv p hp).imp (h.not_creatable fun heq => hspoils ⟨_, rfl, p, hp, heq⟩) fun hfull => by
    rwa [h.sameOpen.findFreeFile_eq]

theorem vfs_file_of_exists (h : vfsExists s.vfs path = true) : (s.file path text).vfs = s.vfs := by
  rw [Ensured.file, if_pos h]

theorem vfs_file_settled (hinit : s.vfs.vfsInitialized = true) (hs : DefaultSettled s.vfs (some (true, path))) :
    (s.file path text).vfs = s.vfs := by
  by_cases hexists : vfsExists s.vfs path = true
  · exact vfs_file_of_exists hexists
  · have hnone : findInode s.vfs path = none := by simpa [vfsExists] using hexists
    have hblocked := vfsOpen_blocked hinit hnone ((hs _ rfl).imp id fun h => h.2) (oCreat ||| oWronly ||| oTrunc)
    rw [Ensured.file, if_neg hexists, vfsPut, hblocked]

theorem createsOnly_file (hinit : s.vfs.vfsInitialized = true) (hlen : path.length < maxPath) (text : CStr) :
    CreatesOnly path s.vfs (s.file path text).vfs := by
  unfold Ensured.file
  split
  · exact (OnlyReads.refl _).createsOnly hinit path
  · exact createsOnly_vfsPut hinit hlen _ _

theorem settled_file (hinit : s.vfs.vfsInitialized = true) (hlen : path.length < maxPath) (text : CStr) :
    DefaultSettled (s.file path text).vfs (some (true, path)) := by
  intro p hp
  obtain rfl := Option.some.inj hp
  unfold Ensured.file
  split
  next hexists => exact .inl fun hc => by simp [vfsExists, hc.fresh] at hexists
  next => exact (not_creatable_vfsPut hinit hlen (by decide)).imp id fun hfull => ⟨rfl, hfull⟩

theorem idle_defaultStep (hinit : s.vfs.vfsInitialized = true) (hs : DefaultSettled s.vfs i.target) :
    OnlyReads s.vfs (defaultStep s i).vfs := by
  cases i with
  | count path =>
      rw [defaultStep]
      split <;> exact OnlyReads.refl _
  | dir path =>
      obtain hnot | ⟨hfile, -⟩ := hs _ rfl
      · rw [defaultStep, vfsMkdir_blocked hinit hnot]
        exact OnlyReads.refl _
      · cases hfile
  | file path text =>
      rw [defaultStep, vfs_file_settled hinit hs]
      exact OnlyReads.refl _
  | desktopState text =>
      rw [defaultStep]
      split
      · exact OnlyReads.refl _
      · have hread := idle_vfsReadText hinit DesktopFile.config.path 768
        rw [vfs_file_settled (hread.vfsInitialized.trans hinit) (hread.settled hs)]
        exact hread

theorem vfs_defaultStep (hinit : s.vfs.vfsInitialized = true) (hs : DefaultSettled s.vfs i.target)
    (hi : ∀ text, i ≠ .desktopState text) : (defaultStep s i).vfs = s.vfs := by
  cases i with
  | count path =>
      rw [defaultStep]
      split <;> rfl
  | dir path =>
      obtain hnot | ⟨hfile, -⟩ := hs _ rfl
      · rw [defaultStep, vfsMkdir_blocked hinit hnot]
      · cases hfile
  | file path text => exact vfs_file_settled hinit hs
  | desktopState text => exact absurd rfl (hi text)

theorem createsOnly_defaultStep (hinit : s.vfs.vfsInitialized = true) {made : Bool × CStr}
    (hmade : i.target = some made)
    (hlen : made.2.length < maxPath) : CreatesOnly made.2 s.vfs (defaultStep s i).vfs := by
  cases i with
  | count path => cases hmade
  | dir path =>
      obtain rfl := Option.some.inj hmade
      exact createsOnly_vfsMkdir hinit hlen
  | file path text =>
      obtain rfl := Option.some.inj hmade
      exact createsOnly_file hinit hlen text
  | desktopState text =>
      obtain rfl := Option.some.inj hmade
      rw [defaultStep]
      split
      · exact (OnlyReads.refl _).createsOnly hinit _
      · have hread := idle_vfsReadText hinit DesktopFile.config.path 768
        exact (hread.createsOnly hinit _).trans
          (createsOnly_file (s := ⟨(vfsReadText s.vfs DesktopFile.config.path 768).2, s.created, s.rc⟩)
            (hread.vfsInitialized.trans hinit) hlen text)

theorem settled_defaultStep (hinit : s.vfs.vfsInitialized = true) (hlen : ∀ p ∈ i.target, p.2.length < maxPath) :
    DefaultSettled (defaultStep s i).vfs i.target := by
  cases i with
  | count path => exact fun p hp => nomatch hp
  | dir path =>
      intro p hp
      obtain rfl := Option.some.inj hp
      exact .inl (not_creatable_vfsMkdir hinit (hlen _ rfl))
  | file path text => exact settled_file hinit (hlen _ rfl) text
  | desktopState text =>
      rw [defaultStep]
      split
      next hexists =>
        intro p hp
        obtain rfl := Option.some.inj hp
        exact .inl fun hc => by simp [vfsExists, hc.fresh] at hexists
      next =>
        have hread := idle_vfsReadText hinit DesktopFile.config.path 768
        exact settled_file (s := ⟨(vfsReadText s.vfs DesktopFile.config.path 768).2, s.created, s.rc⟩)
          (hread.vfsInitialized.trans hinit) (hlen _ rfl) text

theorem vfsInitialized_defaultStep (hinit : s.vfs.vfsInitialized = true) (i : DefaultStep) :
    (defaultStep s i).vfs.vfsInitialized = true := by
  have hfile : ∀ {s : Ensured H} (path text : CStr), s.vfs.vfsInitialized = true →
      (s.file path text).vfs.vfsInitialized = true := by
    intro s path text h
    unfold Ensured.file
    split
    · exact h
    · exact vfsInitialized_vfsPut _ _ _ _
  cases i with
  | count path =>
      rw [defaultStep]
      split <;> exact hinit
  | dir path => exact vfsInitialized_vfsMkdir _ _
  | file path text => exact hfile path text hinit
  | desktopState text =>
      rw [defaultStep]
      split
      · exact hinit
      · exact hfile _ _ ((idle_vfsReadText hinit _ _).vfsInitialized.trans hinit)

theorem ensures_defaultStep :
    Ensures (defaultStep (H := H)) DefaultStep.target (fun s => s.vfs.vfsInitialized = true)
      (fun i => ∀ p ∈ i.target, p.2.length < maxPath) (fun s k => DefaultSettled s.vfs k) CreatesParent where
  inv i hinit := vfsInitialized_defaultStep hinit i
  settles hlen hinit := settled_defaultStep hinit hlen
  keeps {s i k} hlen hinit hk hcase := by
    obtain hapart | hsettled := hcase
    · cases htarget : i.target with
      | none =>
          cases i with
          | count path =>
              rw [defaultStep]
              split <;> exact hk
          | dir path => cases htarget
          | file path text => cases htarget
          | desktopState text => cases htarget
      | some made =>
          have hcreates := createsOnly_defaultStep hinit htarget (hlen made htarget)
          refine hcreates.settled hk fun hspoils => hapart ?_
          rw [htarget]
          obtain ⟨p, hp, q, hq, hparent⟩ := hspoils
          exact ⟨made, rfl, q, hq, hparent.trans (congrArg Prod.snd (Option.some.inj hp)).symm⟩
    · exact (idle_defaultStep hinit hsettled).settled hk

end Settled

/-! ## The order of the defaults -/

/-- What the statements before the service file may create. -/
def targetsHead : List (Option (Bool × CStr)) := (systemDefaultsHead ⟨0, 0, 0⟩).map DefaultStep.target

/-- What the statements before the line of the service file may create. -/
def targetsBefore : List (Option (Bool × CStr)) := targetsHead ++ [none, some (true, orizonServicesPath)]

/-- What those after it may create. -/
def targetsAfter : List (Option (Bool × CStr)) := (systemDefaultsAfter ⟨fun _ => [], []⟩).map DefaultStep.target

theorem map_target_head (timers : Timers) : (systemDefaultsHead timers).map DefaultStep.target = targetsHead := by
  simp only [targetsHead, systemDefaultsHead, systemWriteDefaultFile, List.map_append, List.map_cons,
    DefaultStep.target]

theorem map_target_before (timers : Timers) : (systemDefaultsBefore timers).map DefaultStep.target = targetsBefore := by
  rw [systemDefaultsBefore, List.map_append, map_target_head]
  rfl

theorem map_target_after (texts : DesktopTexts) : (systemDefaultsAfter texts).map DefaultStep.target =
    targetsAfter := by
  simp only [targetsAfter, systemDefaultsAfter, orizonDesktopEnsureDefaults, systemWriteDefaultFile, List.map_append,
    List.map_cons, DefaultStep.target, List.map_nil]

/-- Directories are made before what lies in them, and the service file is no directory. -/
theorem targets_inOrder :
    InOrder CreatesParent [] targetsBefore ∧ InOrder CreatesParent targetsBefore targetsAfter ∧
      (∀ k ∈ targetsBefore ++ targetsAfter, ∀ p ∈ k, p.2.length < maxPath) ∧
        (∀ k ∈ targetsBefore ++ targetsAfter, ¬ CreatesParent (some (true, orizonServicesPath)) k) ∧
          some (true, orizonServicesPath) ∈ targetsBefore := by
  decide +kernel

theorem ne_desktopState (timers : Timers) : ∀ i ∈ systemDefaultsBefore timers, ∀ text, i ≠ .desktopState text := by
  simp [systemDefaultsBefore, systemDefaultsHead, systemEnsureDirs, systemWriteDefaultFile]

/-! ## Runs -/

section Run

variable {H : Type} [Allocator H] {v w : Vfs H} {s : Ensured H} {timers : Timers} {texts : DesktopTexts}

/-- All defaults are settled. -/
def AllSettled (v : Vfs H) : Prop :=
  v.vfsInitialized = true ∧ ∀ k ∈ targetsBefore ++ targetsAfter, DefaultSettled v k

theorem createsOnly_systemEnsureLine (hinit : s.vfs.vfsInitialized = true) {path : CStr} (hlen : path.length < maxPath)
    (line : CStr) : CreatesOnly path s.vfs (systemEnsureLine s path line).vfs := by
  have hread := idle_vfsReadText hinit path 1024
  have hput := createsOnly_vfsPut (hread.vfsInitialized.trans hinit) hlen (oCreat ||| oWronly ||| oAppend)
      (strBytes line)
  unfold systemEnsureLine
  dsimp only
  split
  · exact hread.createsOnly hinit path
  · split <;> exact (hread.createsOnly hinit path).trans hput

theorem allSettled_systemEnsureDefaults (hinit : v.vfsInitialized = true) (timers : Timers) (texts : DesktopTexts) :
    AllSettled (systemEnsureDefaults timers texts v).vfs := by
  obtain ⟨hbefore, hafter, hshort, hline, -⟩ := targets_inOrder
  have hfit : ∀ {l : List DefaultStep}, (∀ k ∈ l.map DefaultStep.target, k ∈ targetsBefore ++ targetsAfter) →
      ∀ i ∈ l, ∀ p ∈ i.target, p.2.length < maxPath :=
    fun hl i hi => hshort _ (hl _ (List.mem_map_of_mem hi))
  have hstart : (⟨v, 0, 0⟩ : Ensured H).vfs.vfsInitialized = true := hinit
  have hmount := ensures_defaultStep.inv_foldl hstart (systemDefaultsBefore timers)
  have hfirst := ensures_defaultStep.settled
    (hfit (l := systemDefaultsBefore timers) fun k hk => by
      rw [map_target_before] at hk
      exact List.mem_append_left _ hk)
    (by rw [map_target_before]; exact hbefore) hstart (by simp)
  rw [map_target_before] at hfirst
  have hcreates := createsOnly_systemEnsureLine hmount (show orizonServicesPath.length < maxPath by decide)
    desktopServiceLine
  have hkept : ∀ k ∈ targetsBefore, DefaultSettled
      (systemEnsureLine ((systemDefaultsBefore timers).foldl defaultStep ⟨v, 0, 0⟩) orizonServicesPath
        desktopServiceLine).vfs k := fun k hk =>
    hcreates.settled (hfirst k (.inr hk)) (hline k (List.mem_append_left _ hk))
  have hsecond := ensures_defaultStep.settled
    (hfit (l := systemDefaultsAfter texts) fun k hk => by
      rw [map_target_after] at hk
      exact List.mem_append_right _ hk)
    (by rw [map_target_after]; exact hafter) hcreates.vfsInitialized hkept
  rw [map_target_after] at hsecond
  rw [systemEnsureDefaults]
  have hmounted := ensures_defaultStep.inv_foldl hcreates.vfsInitialized (systemDefaultsAfter texts)
  exact ⟨hmounted, fun k hk => hsecond k (List.mem_append.mp hk)⟩

theorem idle_foldl {l : List DefaultStep} (hinit : s.vfs.vfsInitialized = true)
    (hs : ∀ i ∈ l, DefaultSettled s.vfs i.target) : OnlyReads s.vfs (l.foldl defaultStep s).vfs :=
  @foldl_idle _ _ _ defaultStep DefaultStep.target
    (fun s k => s.vfs.vfsInitialized = true ∧ DefaultSettled s.vfs k) (fun s t => OnlyReads s.vfs t.vfs) _ _
    (fun s => OnlyReads.refl s.vfs) OnlyReads.trans (fun h hk => ⟨h.vfsInitialized.trans hk.1, h.settled hk.2⟩)
    (fun _ hi => idle_defaultStep hi.1 hi.2) fun i hi => ⟨hinit, hs i hi⟩

/-- The statements before the line of the service file leave the whole state alone. -/
theorem vfs_before (h : AllSettled v) : ((systemDefaultsBefore timers).foldl defaultStep ⟨v, 0, 0⟩).vfs = v :=
  @foldl_idle _ _ _ defaultStep DefaultStep.target
    (fun s k => s.vfs.vfsInitialized = true ∧ DefaultSettled s.vfs k) (fun s t => t.vfs = s.vfs) _ _
    (fun _ => rfl) (fun h h' => h'.trans h) (fun h hk => h ▸ hk)
    (fun hi hk => vfs_defaultStep hk.1 hk.2 (ne_desktopState timers _ hi)) fun i hi => ⟨h.1, h.2 _ (by
      rw [List.mem_append, ← map_target_before timers]
      exact .inl (List.mem_map_of_mem hi))⟩

/-! ## The line of the service file -/

/-- The flags of `system_ensure_line`. -/
def ensureLineFlags : Nat := oCreat ||| oWronly ||| oAppend

/-- The service file does not seem to have the line, and the line is appended. -/
def AppendsServiceLine (v : Vfs H) : Prop :=
  ¬ (vfsReadText v orizonServicesPath 1024).1.any (lineFound desktopServiceLine) = true ∧
    (vfsPut (vfsReadText v orizonServicesPath 1024).2 orizonServicesPath ensureLineFlags
      (strBytes desktopServiceLine)).1 = .done

theorem vfs_systemEnsureLine (s : Ensured H) (path line : CStr) : (systemEnsureLine s path line).vfs =
    if (vfsReadText s.vfs path 1024).1.any (lineFound line) then (vfsReadText s.vfs path 1024).2
    else (vfsPut (vfsReadText s.vfs path 1024).2 path ensureLineFlags (strBytes line)).2 := by
  unfold systemEnsureLine
  dsimp only
  split
  · rfl
  · split <;> rfl

/-- The same inode table, with all bytes. -/
def SameTree (v w : Vfs H) : Prop := w.inodes = v.inodes ∧ w.inodeCount = v.inodeCount

omit [Allocator H] in
theorem SameTree.fileAt_eq (h : SameTree v w) (q : CStr) : fileAt w q = fileAt v q := by
  unfold fileAt
  rw [findInode_congr h.2 (fun i _ => by rw [h.1]) q, h.1]

/-- The line is written at the end of the file, after the file was read. -/
theorem openLine_cases (hread : OnlyReads v w) (hinit : w.vfsInitialized = true) {P : List UInt8 → Prop}
    (hgood : FileGood P v orizonServicesPath) :
    FileGood P w orizonServicesPath ∧ (vfsOpen w orizonServicesPath ensureLineFlags = (none, w) ∨
      ∃ fd, (vfsOpen w orizonServicesPath ensureLineFlags).1 = some fd ∧
        Filling (vfsOpen w orizonServicesPath ensureLineFlags).2 fd orizonServicesPath
          ((fileAt w orizonServicesPath).getD [])) := by
  have hgood' : FileGood P w orizonServicesPath := by
    intro idx hidx hfile
    rw [hread.findInode_eq] at hidx
    rw [hread.inodes] at hfile ⊢
    exact hgood idx hidx hfile
  exact ⟨hgood', filling_append hinit (show orizonServicesPath.length < maxPath by decide) hgood'
    (show hasFlag ensureLineFlags oTrunc = false by decide) (by decide)⟩

theorem putLine_cases (hread : OnlyReads v w) (hinit : w.vfsInitialized = true)
    (hgood : FileGood (fun bytes => bytes.length + desktopServiceLine.length + 4095 < 2 ^ 64) v orizonServicesPath) :
    let put := vfsPut w orizonServicesPath ensureLineFlags (strBytes desktopServiceLine)
    let base := (fileAt w orizonServicesPath).getD []
    put = (.notOpened, w) ∨ put.1 = .done ∧ Holding put.2 orizonServicesPath (base ++ strBytes desktopServiceLine) ∨
      put.1 = .notWritten ∧ Holding put.2 orizonServicesPath base := by
  obtain ⟨hgood', hopen⟩ := openLine_cases hread hinit hgood
  refine vfsPut_filling hopen ?_
  rw [length_strBytes]
  cases hfile : fileAt w orizonServicesPath with
  | none => decide
  | some bytes => exact hgood'.fileAt hfile

/-- Once all defaults are settled, a run changes the table exactly if it appends the line. -/
theorem sameTree_iff (h : AllSettled v)
    (hgood : FileGood (fun bytes => bytes.length + desktopServiceLine.length + 4095 < 2 ^ 64) v orizonServicesPath) :
    SameTree v (systemEnsureDefaults timers texts v).vfs ↔ ¬ AppendsServiceLine v := by
  have hread := idle_vfsReadText h.1 orizonServicesPath 1024
  have hinit := hread.vfsInitialized.trans h.1
  obtain ⟨-, -, -, hline, hmem⟩ := targets_inOrder
  have hblocked := (hread.settled (h.2 _ (List.mem_append_left _ hmem)) _ rfl).imp id And.right
  have hput := putLine_cases hread hinit hgood
  -- the statements before the line are idle, and so are those after it
  have hvfs : ((systemDefaultsBefore timers).foldl defaultStep ⟨v, 0, 0⟩).vfs = v := vfs_before h
  generalize hs : (systemDefaultsBefore timers).foldl defaultStep ⟨v, 0, 0⟩ = s at hvfs
  subst hvfs
  have hcreates := createsOnly_systemEnsureLine h.1 (show orizonServicesPath.length < maxPath by decide)
    desktopServiceLine
  have hafter : OnlyReads (systemEnsureLine s orizonServicesPath desktopServiceLine).vfs
      (systemEnsureDefaults timers texts s.vfs).vfs := by
    rw [systemEnsureDefaults, hs]
    refine idle_foldl hcreates.vfsInitialized fun i hi => ?_
    have htarget : i.target ∈ targetsBefore ++ targetsAfter := by
      rw [List.mem_append, ← map_target_after texts]
      exact .inr (List.mem_map_of_mem hi)
    exact hcreates.settled (h.2 _ htarget) (hline _ htarget)
  have htree : SameTree s.vfs (systemEnsureDefaults timers texts s.vfs).vfs ↔
      SameTree s.vfs (systemEnsureLine s orizonServicesPath desktopServiceLine).vfs := by
    rw [SameTree, SameTree, hafter.inodes, hafter.inodeCount]
  rw [htree, vfs_systemEnsureLine, AppendsServiceLine]
  split
  next hfound => exact ⟨fun _ hnot => hnot.1 hfound, fun _ => ⟨hread.inodes, hread.inodeCount⟩⟩
  next hfound =>
    constructor
    · rintro hsame ⟨-, hdone⟩
      have hfile := hread.fileAt_eq orizonServicesPath
      obtain hnone | ⟨-, hholding⟩ | ⟨hnot, -⟩ := hput
      · rw [hnone] at hdone
        cases hdone
      · -- the file has become longer
        have hlonger := (SameTree.fileAt_eq hsame orizonServicesPath).symm.trans hholding.fileAt
        rw [← hfile] at hlonger
        have hlength := congrArg (fun o => (o.getD []).length) hlonger
        rw [Option.getD_some, List.length_append, length_strBytes] at hlength
        have hpos : 0 < desktopServiceLine.length := by decide
        omega
      · rw [hdone] at hnot
        cases hnot
    · intro hnot
      have hunwritten := vfsPut_unwritten hinit hblocked (show hasFlag ensureLineFlags oTrunc = false by decide)
        fun hdone => hnot ⟨hfound, hdone⟩
      exact ⟨hunwritten.1.trans hread.inodes, hunwritten.2.trans hread.inodeCount⟩

/-! ## The service file in a run -/

omit [Allocator H] in
theorem OnlyReads.spares (h : OnlyReads v w) (q : CStr) : Spares q v w := fun hinit =>
  ⟨h.vfsInitialized.trans hinit, fun idx hidx => ⟨(h.findInode_eq q).trans hidx, by rw [h.inodes]⟩, h.fileAt_eq q⟩

theorem spares_defaultStep (hinit : s.vfs.vfsInitialized = true) {i : DefaultStep}
    (hi : ∀ p ∈ i.target, p.2.length < maxPath ∧ p.2 ≠ orizonServicesPath) :
    Spares orizonServicesPath s.vfs (defaultStep s i).vfs := by
  have hfile : ∀ {s : Ensured H} {path : CStr}, path.length < maxPath ∧ path ≠ orizonServicesPath → ∀ text,
      Spares orizonServicesPath s.vfs (s.file path text).vfs := by
    intro s path h text
    unfold Ensured.file
    split
    · exact Spares.refl _ _
    · exact spares_vfsPut h.1 h.2 _ _ _
  cases i with
  | count path =>
      rw [defaultStep]
      split <;> exact Spares.refl _ _
  | dir path => exact spares_vfsMkdir _ _ _
  | file path text => exact hfile (hi _ rfl) text
  | desktopState text =>
      rw [defaultStep]
      split
      · exact Spares.refl _ _
      · exact ((idle_vfsReadText hinit DesktopFile.config.path 768).spares _).trans
          (hfile (s := ⟨(vfsReadText s.vfs DesktopFile.config.path 768).2, s.created, s.rc⟩) (hi _ rfl) text)

/-- A run of other statements: the service file is spared, and no handle is left open. -/
theorem spares_foldl {l : List DefaultStep} (hinit : s.vfs.vfsInitialized = true)
    (hl : ∀ i ∈ l, ∀ p ∈ i.target, p.2.length < maxPath ∧ p.2 ≠ orizonServicesPath) :
    Spares orizonServicesPath s.vfs (l.foldl defaultStep s).vfs ∧ SameOpen s.vfs (l.foldl defaultStep s).vfs := by
  induction l generalizing s with
  | nil => exact ⟨Spares.refl _ _, fun _ => rfl⟩
  | cons i l ih =>
      have hi := hl i List.mem_cons_self
      have hstep := vfsInitialized_defaultStep hinit i
      obtain ⟨hspares, hopen⟩ := ih hstep fun j hj => hl j (List.mem_cons_of_mem _ hj)
      refine ⟨(spares_defaultStep hinit hi).trans hspares, SameOpen.trans ?_ hopen⟩
      cases htarget : i.target with
      | some made => exact (createsOnly_defaultStep hinit htarget (hi made htarget).1).sameOpen
      | none =>
          cases i with
          | count path =>
              rw [defaultStep]
              split <;> exact fun _ => rfl
          | dir path => cases htarget
          | file path text => cases htarget
          | desktopState text => cases htarget

/-- The other paths of `system_ensure_defaults`. -/
theorem targets_elsewhere :
    ∀ k ∈ targetsHead ++ targetsAfter, ∀ p ∈ k, p.2.length < maxPath ∧ p.2 ≠ orizonServicesPath := by
  decide +kernel

/-- A file whose bytes lie in their buffer and are shorter than `n`. -/
def ServiceFits (n : Nat) (v : Vfs H) : Prop := FileGood (fun bytes => bytes.length < n) v orizonServicesPath

/-- The bytes of the service file that `system_ensure_line` looks at have the line. -/
def serviceLineFound (bytes : List UInt8) : Bool := lineFound desktopServiceLine (bytes.take 1023)

theorem serviceLineFound_default : serviceLineFound (strBytes systemDefaultServices) = true := by decide +kernel

/-- What the default leaves of the service file. -/
structure DefaultMade (v w : Vfs H) : Prop where
  mounted : w.vfsInitialized = true
  sameOpen : SameOpen v w
  fits : ServiceFits (2 ^ 63) w
  kept : ∀ bytes, fileAt v orizonServicesPath = some bytes → fileAt w orizonServicesPath = some bytes
  fresh : (∀ (h : H) n, (Allocator.malloc h n).1.isSome) → fileAt v orizonServicesPath = none →
    fileAt w orizonServicesPath = none ∨ fileAt w orizonServicesPath = some (strBytes systemDefaultServices)

theorem defaultMade (hinit : s.vfs.vfsInitialized = true) (hfits : ServiceFits (2 ^ 63) s.vfs) :
    DefaultMade s.vfs ((systemWriteDefaultFile orizonServicesPath systemDefaultServices).foldl defaultStep s).vfs := by
  have hcount : ((systemWriteDefaultFile orizonServicesPath systemDefaultServices).foldl defaultStep s).vfs =
      (s.file orizonServicesPath systemDefaultServices).vfs := by
    simp only [systemWriteDefaultFile, List.foldl_cons, List.foldl_nil, defaultStep]
    split <;> simp [Ensured.file, *]
  rw [hcount, Ensured.file]
  split
  next => exact ⟨hinit, fun _ => rfl, hfits, fun _ h => h, fun _ h => .inl h⟩
  next hexists =>
    have hnone : findInode s.vfs orizonServicesPath = none := by simpa [vfsExists] using hexists
    have hfile : fileAt s.vfs orizonServicesPath = none := by simp [fileAt, hnone]
    have hlen : orizonServicesPath.length < maxPath := by decide
    have hopen :=
        filling_vfsOpen hinit hlen (.inl (show hasFlag (oCreat ||| oWronly ||| oTrunc) oTrunc = true by decide))
    rw [show putBase s.vfs orizonServicesPath (oCreat ||| oWronly ||| oTrunc) = [] from if_pos (by decide)] at hopen
    have hsmall : ([] : List UInt8).length + (strBytes systemDefaultServices).length + 4095 <
        2 ^ 64 := by decide +kernel
    have hput := vfsPut_filling hopen hsmall
    refine ⟨vfsInitialized_vfsPut .., sameOpen_vfsPut hinit _ _ _, ?_, fun bytes h => ?_, fun hroom _ => ?_⟩
    · obtain heq | ⟨-, hholding⟩ | ⟨-, hholding⟩ := hput
      · rw [heq]
        exact hfits
      · exact hholding.fileGood (by decide +kernel)
      · exact hholding.fileGood (by decide)
    · rw [hfile] at h
      cases h
    · obtain heq | ⟨-, hholding⟩ | ⟨hnot, -⟩ := hput
      · rw [heq]
        exact .inl hfile
      · exact .inr (by simpa using hholding.fileAt)
      · exact absurd hnot (vfsPut_ne_notWritten hroom hopen)

/-- What the line leaves of the service file. -/
structure LineMade (v w : Vfs H) : Prop where
  sameOpen : SameOpen v w
  mounted : w.vfsInitialized = true
  fits : ServiceFits (2 ^ 63 + desktopServiceLine.length) w
  none : fileAt v orizonServicesPath = none → fileAt w orizonServicesPath = none
  kept : ∀ bytes, fileAt v orizonServicesPath = some bytes → (findFreeFile v).isSome →
    serviceLineFound bytes = true → fileAt w orizonServicesPath = some bytes
  appended : (∀ (h : H) n, (Allocator.malloc h n).1.isSome) → ∀ bytes, fileAt v orizonServicesPath = some bytes →
    (findFreeFile v).isSome → ¬ serviceLineFound bytes = true →
      fileAt w orizonServicesPath = some (bytes ++ strBytes desktopServiceLine)

theorem any_lineFound (hinit : v.vfsInitialized = true) (hfree : (findFreeFile v).isSome) {bytes : List UInt8}
    (hfile : fileAt v orizonServicesPath = some bytes) :
    (vfsReadText v orizonServicesPath 1024).1.any (lineFound desktopServiceLine) = serviceLineFound bytes := by
  rw [vfsReadText_fileAt hinit hfile hfree (by decide)]
  rfl

theorem lineMade (hinit : s.vfs.vfsInitialized = true) (hfits : ServiceFits (2 ^ 63) s.vfs)
    (hsettled : DefaultSettled s.vfs (some (true, orizonServicesPath))) :
    LineMade s.vfs (systemEnsureLine s orizonServicesPath desktopServiceLine).vfs := by
  have hread := idle_vfsReadText hinit orizonServicesPath 1024
  have hinit' := hread.vfsInitialized.trans hinit
  have hfile := hread.fileAt_eq orizonServicesPath
  have hlength : desktopServiceLine.length = 17 := by decide
  rw [vfs_systemEnsureLine]
  split
  next hfound =>
    obtain ⟨hfits', -⟩ := openLine_cases hread hinit' hfits
    refine ⟨hread.sameOpen, hinit', hfits'.mono fun bytes h => Nat.lt_add_right _ h, fun h => hfile.trans h,
      fun bytes h _ _ => hfile.trans h, fun _ bytes h hfree hnot => ?_⟩
    rw [any_lineFound hinit hfree h] at hfound
    exact absurd hfound hnot
  next hfound =>
    have hput := putLine_cases hread hinit' (hfits.mono fun bytes h => by omega)
    obtain ⟨hfits', hopen⟩ := openLine_cases hread hinit' hfits
    refine ⟨hread.sameOpen.trans (sameOpen_vfsPut hinit' _ _ _), vfsInitialized_vfsPut .., ?_, fun h => ?_,
      fun bytes h hfree hline => ?_, fun hroom bytes h hfree _ => ?_⟩
    · have hbase : ((fileAt (vfsReadText s.vfs orizonServicesPath 1024).2 orizonServicesPath).getD []).length <
          2 ^ 63 := by
        cases hbytes : fileAt (vfsReadText s.vfs orizonServicesPath 1024).2 orizonServicesPath with
        | none => decide
        | some bytes => exact hfits'.fileAt hbytes
      obtain heq | ⟨-, hholding⟩ | ⟨-, hholding⟩ := hput
      · rw [heq]
        exact hfits'.mono fun bytes h => Nat.lt_add_right _ h
      · refine hholding.fileGood ?_
        rw [List.length_append, length_strBytes]
        omega
      · exact hholding.fileGood (Nat.lt_add_right _ hbase)
    · -- what is not there cannot be created
      have hnone : vfsOpen (vfsReadText s.vfs orizonServicesPath 1024).2 orizonServicesPath ensureLineFlags =
          (none, (vfsReadText s.vfs orizonServicesPath 1024).2) := by
        obtain hnot | ⟨-, hfull⟩ := hread.settled hsettled _ rfl
        · exact vfsOpen_none hinit' (.inr ⟨hfile.trans h, .inl hnot⟩)
        · exact vfsOpen_none hinit' (.inl hfull)
      rw [vfsPut, hnone]
      exact hfile.trans h
    · rw [any_lineFound hinit hfree h] at hfound
      exact absurd hline hfound
    · have hopened :
          (vfsOpen (vfsReadText s.vfs orizonServicesPath 1024).2 orizonServicesPath ensureLineFlags).1 ≠ none :=
        vfsOpen_some hinit' (by rwa [hread.sameOpen.findFreeFile_eq]) (by rw [hfile, h]; rfl) _
      obtain heq | ⟨-, hholding⟩ | ⟨hnot, -⟩ := hput
      · exact absurd (congrArg Prod.fst heq) (vfsPut_ne_notOpened hopened)
      · rw [hholding.fileAt, hfile, h, Option.getD_some]
      · exact absurd hnot (vfsPut_ne_notWritten hroom hopen)

/-- What a run leaves of the service file. -/
structure RunMade (v w : Vfs H) : Prop where
  sameOpen : SameOpen v w
  fits : ServiceFits (2 ^ 63 + desktopServiceLine.length) w
  fresh : (∀ (h : H) n, (Allocator.malloc h n).1.isSome) → (findFreeFile v).isSome →
    fileAt v orizonServicesPath = none → ∀ bytes, fileAt w orizonServicesPath = some bytes →
      serviceLineFound bytes = true
  kept : ∀ bytes, fileAt v orizonServicesPath = some bytes → (findFreeFile v).isSome →
    serviceLineFound bytes = true → fileAt w orizonServicesPath = some bytes
  appended : (∀ (h : H) n, (Allocator.malloc h n).1.isSome) → ∀ bytes, fileAt v orizonServicesPath = some bytes →
    (findFreeFile v).isSome → ¬ serviceLineFound bytes = true →
      fileAt w orizonServicesPath = some (bytes ++ strBytes desktopServiceLine)

theorem runMade (hinit : v.vfsInitialized = true) (hfits : ServiceFits (2 ^ 63) v) (timers : Timers)
    (texts : DesktopTexts) :
    RunMade v (systemEnsureDefaults timers texts v).vfs := by
  have hhead : ∀ i ∈ systemDefaultsHead timers, ∀ p ∈ i.target, p.2.length < maxPath ∧ p.2 ≠ orizonServicesPath := by
    intro i hi
    refine targets_elsewhere _ (List.mem_append_left _ ?_)
    rw [← map_target_head timers]
    exact List.mem_map_of_mem hi
  have hrest : ∀ i ∈ systemDefaultsAfter texts, ∀ p ∈ i.target, p.2.length < maxPath ∧ p.2 ≠ orizonServicesPath := by
    intro i hi
    refine targets_elsewhere _ (List.mem_append_right _ ?_)
    rw [← map_target_after texts]
    exact List.mem_map_of_mem hi
  have hstart : (⟨v, 0, 0⟩ : Ensured H).vfs.vfsInitialized = true := hinit
  obtain ⟨hspares, hopen⟩ := spares_foldl hstart hhead
  obtain ⟨hinit₁, -, hfile⟩ := hspares hinit
  have hfits₁ := hfits.spared hinit hspares
  unfold systemEnsureDefaults systemDefaultsBefore
  rw [List.foldl_append]
  generalize (systemDefaultsHead timers).foldl defaultStep ⟨v, 0, 0⟩ = s₁ at hopen hinit₁ hfile hfits₁ ⊢
  have hdefault := defaultMade hinit₁ hfits₁
  have hsettled : DefaultSettled
      ((systemWriteDefaultFile orizonServicesPath systemDefaultServices).foldl defaultStep s₁).vfs
      (some (true, orizonServicesPath)) :=
    settled_defaultStep (i := .file orizonServicesPath systemDefaultServices)
      (vfsInitialized_defaultStep hinit₁ (.count orizonServicesPath)) fun p hp => by
        rw [← Option.some.inj hp]
        decide
  generalize (systemWriteDefaultFile orizonServicesPath systemDefaultServices).foldl defaultStep s₁ =
      s₂ at hdefault hsettled ⊢
  have hline := lineMade hdefault.mounted hdefault.fits hsettled
  generalize systemEnsureLine s₂ orizonServicesPath desktopServiceLine = s₃ at hline ⊢
  obtain ⟨hspares', hopen'⟩ := spares_foldl hline.mounted hrest
  obtain ⟨-, -, hfile'⟩ := hspares' hline.mounted
  have hfree : findFreeFile s₂.vfs = findFreeFile v := (hopen.trans hdefault.sameOpen).findFreeFile_eq
  refine ⟨((hopen.trans hdefault.sameOpen).trans hline.sameOpen).trans hopen', hline.fits.spared hline.mounted hspares',
    fun hroom hhandle hnone bytes hbytes => ?_, fun bytes h hhandle hfound => ?_, fun hroom bytes h hhandle hnot => ?_⟩
  · rw [hfile'] at hbytes
    obtain habsent | hthere := hdefault.fresh hroom (hfile.trans hnone)
    · rw [hline.none habsent] at hbytes
      cases hbytes
    · rw [hline.kept _ hthere (hfree ▸ hhandle) serviceLineFound_default] at hbytes
      rw [← Option.some.inj hbytes]
      exact serviceLineFound_default
  · rw [hfile']
    exact hline.kept bytes (hdefault.kept bytes (hfile.trans h)) (hfree ▸ hhandle) hfound
  · rw [hfile']
    exact hline.appended hroom bytes (hdefault.kept bytes (hfile.trans h)) (hfree ▸ hhandle) hnot

/-- With memory for every request, the line is appended to a file in which it is not found. -/
theorem appendsServiceLine_iff (hinit : v.vfsInitialized = true)
    (hgood : FileGood (fun bytes => bytes.length + desktopServiceLine.length + 4095 < 2 ^ 64) v orizonServicesPath)
    (hsettled : DefaultSettled v (some (true, orizonServicesPath)))
    (hroom : ∀ (h : H) n, (Allocator.malloc h n).1.isSome) :
    AppendsServiceLine v ↔ (findFreeFile v).isSome ∧ ∃ bytes, fileAt v orizonServicesPath = some bytes ∧
      ¬ serviceLineFound bytes = true := by
  have hread := idle_vfsReadText hinit orizonServicesPath 1024
  have hinit' := hread.vfsInitialized.trans hinit
  have hfile := hread.fileAt_eq orizonServicesPath
  have hput := putLine_cases hread hinit' hgood
  obtain ⟨-, hopen⟩ := openLine_cases hread hinit' hgood
  have hblocked := hread.settled hsettled _ rfl
  unfold AppendsServiceLine
  by_cases hfree : (findFreeFile v).isSome
  · cases h : fileAt v orizonServicesPath with
    | none =>
        have hnone : vfsOpen (vfsReadText v orizonServicesPath 1024).2 orizonServicesPath ensureLineFlags =
            (none, (vfsReadText v orizonServicesPath 1024).2) := by
          obtain hnot | ⟨-, hfull⟩ := hblocked
          · exact vfsOpen_none hinit' (.inr ⟨hfile.trans h, .inl hnot⟩)
          · exact vfsOpen_none hinit' (.inl hfull)
        simp [vfsPut, hnone]
    | some bytes =>
        have hopened :
            (vfsOpen (vfsReadText v orizonServicesPath 1024).2 orizonServicesPath ensureLineFlags).1 ≠ none :=
          vfsOpen_some hinit' (by rwa [hread.sameOpen.findFreeFile_eq]) (by rw [hfile, h]; rfl) _
        have hdone : (vfsPut (vfsReadText v orizonServicesPath 1024).2 orizonServicesPath ensureLineFlags
            (strBytes desktopServiceLine)).1 = .done := by
          obtain heq | ⟨hdone, -⟩ | ⟨hnot, -⟩ := hput
          · exact absurd (congrArg Prod.fst heq) (vfsPut_ne_notOpened hopened)
          · exact hdone
          · exact absurd hnot (vfsPut_ne_notWritten hroom hopen)
        rw [any_lineFound hinit hfree h]
        simp [hfree, hdone]
  · have hfull : findFreeFile (vfsReadText v orizonServicesPath 1024).2 = none := by
      rw [hread.sameOpen.findFreeFile_eq]
      simpa using hfree
    simp [vfsPut, vfsOpen_none hinit' (.inl hfull), hfree]

end Run

theorem serviceFits_line {H : Type} {v : Vfs H} (h : ServiceFits (2 ^ 63 + desktopServiceLine.length) v) :
    FileGood (fun bytes => bytes.length + desktopServiceLine.length + 4095 < 2 ^ 64) v orizonServicesPath := by
  have hlength : desktopServiceLine.length = 17 := by decide
  exact h.mono fun bytes hbytes => by omega

/-- With memory for every request, a second run changes nothing exactly under a condition on the first state. -/
theorem sameTree_twice {H : Type} [Allocator H] {timers timers' : Timers} {texts : DesktopTexts} {v : Vfs H}
    (hinit : v.vfsInitialized = true) (hfits : ServiceFits (2 ^ 63) v)
    (hroom : ∀ (h : H) n, (Allocator.malloc h n).1.isSome) :
    SameTree (systemEnsureDefaults timers texts v).vfs
        (systemEnsureDefaults timers' texts (systemEnsureDefaults timers texts v).vfs).vfs ↔
      findFreeFile v = none ∨ ∀ bytes, fileAt v orizonServicesPath = some bytes →
        serviceLineFound bytes = true ∨ serviceLineFound (bytes ++ strBytes desktopServiceLine) = true := by
  have hsettled := allSettled_systemEnsureDefaults hinit timers texts
  have hmade := runMade hinit hfits timers texts
  have hgood := serviceFits_line hmade.fits
  obtain ⟨-, -, -, -, hmem⟩ := targets_inOrder
  have happends := appendsServiceLine_iff hsettled.1 hgood (hsettled.2 _ (List.mem_append_left _ hmem)) hroom
  rw [sameTree_iff hsettled hgood, happends, hmade.sameOpen.findFreeFile_eq]
  by_cases hfree : (findFreeFile v).isSome
  · have hsome : findFreeFile v ≠ none := Option.isSome_iff_ne_none.mp hfree
    simp only [hfree, true_and, hsome, false_or, not_exists, not_and, not_not]
    cases h : fileAt v orizonServicesPath with
    | none => simpa using hmade.fresh hroom hfree h
    | some bytes =>
        by_cases hfound : serviceLineFound bytes = true
        · simp [hmade.kept bytes h hfree hfound, hfound]
        · simp [hmade.appended hroom bytes h hfree hfound, hfound]
  · simp [show findFreeFile v = none by simpa using hfree]

/-- A second run of `system_ensure_defaults` leaves the inode table as it is exactly if it does not append
the line to the service file; with memory for every request that is exactly if no handle is free, or there
is no service file at first, or its first 1023 bytes have the line, or have it once it was appended. -/
theorem systemEnsureDefaults_twice_iff {H : Type} [Allocator H] (timers timers' : Timers) (texts : DesktopTexts)
    (v : Vfs H) (hinit : v.vfsInitialized = true) (hfits : ServiceFits (2 ^ 63) v) :
    let w := (systemEnsureDefaults timers texts v).vfs
    (SameTree w (systemEnsureDefaults timers' texts w).vfs ↔ ¬ AppendsServiceLine w) ∧
    ((∀ (h : H) n, (Allocator.malloc h n).1.isSome) →
      (SameTree w (systemEnsureDefaults timers' texts w).vfs ↔
        findFreeFile v = none ∨ ∀ bytes, fileAt v orizonServicesPath = some bytes →
          serviceLineFound bytes = true ∨ serviceLineFound (bytes ++ strBytes desktopServiceLine) = true)) :=
  ⟨sameTree_iff (allSettled_systemEnsureDefaults hinit timers texts)
    (serviceFits_line (runMade hinit hfits timers texts).fits), sameTree_twice hinit hfits⟩

/-! ## A long service file -/

/-- A heap that has a buffer for every request. -/
inductive EndlessHeap
  | heap

instance : Allocator EndlessHeap where
  init h := h
  malloc h _ := (some ⟨0, fun _ => 0⟩, h)
  free h _ := h

/-- A file system with a service file of these bytes. -/
def servicesVfs (bytes : List UInt8) : Vfs EndlessHeap where
  inodes := fun i => match i with
    | 0 => ⟨Inode.zero.name, strCpy maxPath [slash], .dir, none, 0, 0, none⟩
    | 1 => ⟨Inode.zero.name, strCpy maxPath (cstr "/system"), .dir, none, 0, 0, some 0⟩
    | _ => ⟨Inode.zero.name, strCpy maxPath orizonServicesPath, .file, some ⟨0, bytesMem bytes⟩, bytes.length,
        bytes.length, some 1⟩
  inodeCount := 3
  openFiles := fun _ => File.zero
  vfsInitialized := true
  persist := bootPersist
  disk := noDisk
  heap := .heap

theorem findInode_servicesVfs (bytes : List UInt8) : findInode (servicesVfs bytes) orizonServicesPath = some 2 := by
  have hroot : ((servicesVfs bytes).inodes 0).path.val ≠ orizonServicesPath := by
    simp only [servicesVfs]
    decide
  have hsystem : ((servicesVfs bytes).inodes 1).path.val ≠ orizonServicesPath := by
    simp only [servicesVfs]
    decide
  have hservices : ((servicesVfs bytes).inodes 2).path.val = orizonServicesPath := by
    simp only [servicesVfs]
    exact strCpy_of_lt (by decide)
  rw [findInode, show (servicesVfs bytes).inodeCount = 3 from rfl, show List.range 3 = [0, 1, 2] from rfl]
  simp [hroot, hsystem, hservices]

theorem contents_servicesVfs (bytes : List UInt8) : ((servicesVfs bytes).inodes 2).contents = bytes := by
  simp only [servicesVfs, Inode.contents]
  refine List.ext_getElem (by simp) fun i hi hi' => ?_
  simp [bytesMem, hi']

theorem serviceFits_servicesVfs {bytes : List UInt8} (h : bytes.length < 2 ^ 63) :
    ServiceFits (2 ^ 63) (servicesVfs bytes) := by
  intro idx hidx _
  rw [findInode_servicesVfs] at hidx
  obtain rfl := Option.some.inj hidx
  exact ⟨⟨nofun, le_rfl⟩, (contents_servicesVfs bytes).symm ▸ h⟩

theorem fileAt_servicesVfs (bytes : List UInt8) : fileAt (servicesVfs bytes) orizonServicesPath = some bytes := by
  rw [fileAt_of_find (findInode_servicesVfs bytes) rfl, contents_servicesVfs]

theorem findFreeFile_servicesVfs (bytes : List UInt8) : findFreeFile (servicesVfs bytes) ≠ none := by
  simp only [findFreeFile, servicesVfs, File.zero, maxOpen]
  decide

/-- An empty service file: the first run appends the line, and the second finds it. -/
theorem systemEnsureDefaults_twice_empty :
    SameTree (systemEnsureDefaults ⟨1, 0, 100⟩ ⟨fun _ => [], []⟩ (servicesVfs [])).vfs
      (systemEnsureDefaults ⟨2, 0, 100⟩ ⟨fun _ => [], []⟩
        (systemEnsureDefaults ⟨1, 0, 100⟩ ⟨fun _ => [], []⟩ (servicesVfs [])).vfs).vfs := by
  refine ((systemEnsureDefaults_twice_iff ⟨1, 0, 100⟩ ⟨2, 0, 100⟩ ⟨fun _ => [], []⟩ (servicesVfs []) rfl
    (serviceFits_servicesVfs (by decide))).2 fun _ _ => rfl).mpr (.inr fun bytes h => .inr ?_)
  rw [fileAt_servicesVfs] at h
  obtain rfl := Option.some.inj h
  decide +kernel

theorem not_serviceLineFound {bytes : List UInt8} (h : 0x64 ∉ bytes.take 1023) : ¬ serviceLineFound bytes = true := by
  intro hfound
  have hline : desktopServiceLine <:+: bytesCstr (bytes.take 1023) :=
    strstrFound_iff.mp (Bool.and_eq_true_iff.mp hfound).2
  have hmem : (0x64 : UInt8) ∈ strBytes (bytesCstr (bytes.take 1023)) :=
    (hline.map Subtype.val).subset (show (0x64 : UInt8) ∈ strBytes desktopServiceLine by decide)
  rw [strBytes_bytesCstr] at hmem
  exact h ((List.takeWhile_prefix _).subset hmem)

/-- A service file of 1100 bytes: the second run appends the line once more. -/
theorem systemEnsureDefaults_grows :
    ¬ SameTree (systemEnsureDefaults ⟨1, 0, 100⟩ ⟨fun _ => [], []⟩ (servicesVfs (List.replicate 1100 0x78))).vfs
      (systemEnsureDefaults ⟨2, 0, 100⟩ ⟨fun _ => [], []⟩
        (systemEnsureDefaults ⟨1, 0, 100⟩ ⟨fun _ => [], []⟩ (servicesVfs (List.replicate 1100 0x78))).vfs).vfs := by
  rw [sameTree_twice rfl (serviceFits_servicesVfs (by rw [List.length_replicate]; decide)) fun _ _ => rfl]
  rintro (hfull | hfound)
  · exact findFreeFile_servicesVfs _ hfull
  · have hnot : ∀ rest : List UInt8, ¬ serviceLineFound (List.replicate 1100 0x78 ++ rest) = true := by
      intro rest
      refine not_serviceLineFound fun hmem => ?_
      rw [List.take_append_of_le_length (by rw [List.length_replicate]; decide)] at hmem
      exact absurd (List.eq_of_mem_replicate (List.mem_of_mem_take hmem)) (by decide)
    obtain h | h := hfound _ (fileAt_servicesVfs _)
    · exact hnot [] (by rwa [List.append_nil])
    · exact hnot _ h

end Orizon
